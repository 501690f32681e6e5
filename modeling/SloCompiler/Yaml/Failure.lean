import SloCompiler.Fault

namespace SloCompiler.Yaml

inductive Failure where
  | malformed
  | fault (cause : Fault)

abbrev Reading (α : Type) := Except Failure α

end SloCompiler.Yaml
