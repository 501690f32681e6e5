import SloCompiler.Yaml.PlainForm

namespace SloCompiler.Yaml

-- What a node is said to be. Merges and defaults are meant for keys of mappings.
inductive Tag where
  | null
  | bool
  | int
  | float
  | binary
  | timestamp
  | orderedMap
  | pairs
  | set
  | str
  | seq
  | map
  | merge
  | default
  | unknown
  deriving DecidableEq, Repr

namespace Tag

def standardPrefix : String := "tag:yaml.org,2002:"

def named : List (String × Tag) := [
  ("null", .null), ("bool", .bool), ("int", .int), ("float", .float), ("binary", .binary),
  ("timestamp", .timestamp), ("omap", .orderedMap), ("pairs", .pairs), ("set", .set),
  ("str", .str), ("seq", .seq), ("map", .map), ("merge", .merge), ("value", .default)]

def ofText (s : String) : Tag :=
  ((named.map fun (name, tag) => (standardPrefix ++ name, tag)).lookup s).getD .unknown

def ofForm : PlainForm → Tag
  | .text => .str
  | .null => .null
  | .bool => .bool
  | .int => .int
  | .float => .float
  | .timestamp => .timestamp
  | .merge => .merge
  | .default => .default

end Tag

end SloCompiler.Yaml
