import SloCompiler.Fault
import SloCompiler.Number.Reading

namespace SloCompiler

-- A threshold as expressions show it: whole numbers without a point.
def Binary64.plain (x : Binary64) : String :=
  match x.toInt? with
  | some n => toString n
  | none => x.text

def Value.plain : Value → Except Fault String
  | .bool b => .ok (if b then "1" else "0")
  | .int n => if (Binary64.ofInt? n).isSome then .ok (toString n) else .error .overflow
  | .float x => .ok x.plain
  | _ => .error .mistyped

end SloCompiler
