import SloCompiler.Calendar
import SloCompiler.Number.Binary64

namespace SloCompiler

-- A document as its reader sees it. Mappings keep the order of their entries; JSON has text keys
-- only and none of the kinds after `map`.
inductive Value where
  | null
  | bool (b : Bool)
  | int (n : Int)
  | float (x : Binary64)
  | str (s : String)
  | list (items : List Value)
  | map (entries : List (Value × Value))
  | bytes (octets : List UInt8)
  | date (d : Date)
  | dateTime (t : DateTime)
  | set (items : List Value)
  deriving Repr, Inhabited

abbrev Entries := List (Value × Value)

namespace Entries

def ofFields (fields : List (String × Value)) : Entries :=
  fields.map fun (name, v) => (.str name, v)

end Entries

namespace Value

def object (fields : List (String × Value)) : Value := .map (Entries.ofFields fields)

def strings (items : List String) : Value := .list (items.map .str)

def kindName : Value → String
  | .null => "NoneType"
  | .bool _ => "bool"
  | .int _ => "int"
  | .float _ => "float"
  | .str _ => "str"
  | .list _ => "list"
  | .map _ => "dict"
  | .bytes _ => "bytes"
  | .date _ => "date"
  | .dateTime _ => "datetime"
  | .set _ => "set"

def isTruthy : Value → Bool
  | .null => false
  | .bool b => b
  | .int n => n != 0
  | .float (.finite _ units) => units != 0
  | .str s => !s.isEmpty
  | .list items | .set items => !items.isEmpty
  | .map entries => !entries.isEmpty
  | .bytes octets => !octets.isEmpty
  | _ => true

-- Only scalars can be keys or members.
def isScalar : Value → Bool
  | .list _ | .map _ | .set _ => false
  | _ => true

def number? : Value → Option (Int ⊕ Binary64)
  | .bool b => some (.inl b.toNat)
  | .int n => some (.inl n)
  | .float x => some (.inr x)
  | _ => none

def sameNumber : Int ⊕ Binary64 → Int ⊕ Binary64 → Bool
  | .inl m, .inl n => m == n
  | .inl n, .inr x | .inr x, .inl n => x.compareInt? n == some .eq
  | .inr x, .inr y => x.equals y

-- Equality of scalars; numbers of different kinds are compared by value.
def sameScalar (v w : Value) : Bool :=
  match v, w with
  | .null, .null => true
  | .str s, .str t => s == t
  | .bytes a, .bytes b => a == b
  | .date d, .date e => d == e
  | .dateTime s, .dateTime t => s.equals t
  | v, w =>
    match v.number?, w.number? with
    | some a, some b => sameNumber a b
    | _, _ => false

def isNull : Value → Bool
  | .null => true
  | _ => false

def isText (name : String) : Value → Bool
  | .str s => s == name
  | _ => false

end Value

namespace Entries

def get? (name : String) : Entries → Option Value
  | [] => none
  | (key, v) :: rest => if key.isText name then some v else get? name rest

def put (name : String) (v : Value) : Entries → Entries
  | [] => [(.str name, v)]
  | (key, old) :: rest =>
    if key.isText name then (key, v) :: rest else (key, old) :: put name v rest

end Entries

namespace Value

def entries : Value → Entries
  | .map entries => entries
  | _ => []

def field? (name : String) (v : Value) : Option Value := v.entries.get? name

end Value

end SloCompiler
