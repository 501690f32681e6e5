import SloCompiler.Ordered

namespace SloCompiler

abbrev Labels := List (String × String)

def Labels.merge (sets : List (Option Labels)) : Labels :=
  sets.foldl (fun merged labels => Ordered.putAll merged (labels.getD [])) []

end SloCompiler
