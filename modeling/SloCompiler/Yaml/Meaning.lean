import SloCompiler.Number.Whole
import SloCompiler.Text.Base64
import SloCompiler.Text.Case
import SloCompiler.Yaml.Failure
import SloCompiler.Yaml.PlainForm
import SloCompiler.Yaml.Tag
import SloCompiler.Yaml.Token

namespace SloCompiler.Yaml.Meaning

def refused (r : Except Refusal α) : Reading α := r.mapError fun cause => .fault (.refused cause)

def withoutUnderscores (s : String) : List Char := s.toList.filter (· != '_')

def whole (base : Nat) (cs : List Char) : Reading Int :=
  refused (Whole.ofText base (String.ofList cs))

-- Parts between colons count sixty times as much as those behind them.
def magnitude (cs : List Char) : Reading Int :=
  match cs with
  | [] => .error (.fault .noItem)
  | ['0'] => .ok 0
  | '0' :: 'b' :: rest => whole 2 rest
  | '0' :: 'x' :: rest => whole 16 rest
  | '0' :: _ => whole 8 cs
  | _ =>
    if cs.contains ':' then do
      let parts ← (Text.pieces (· == ':') cs).mapM (whole 10)
      return parts.foldl (fun n part => 60 * n + part) 0
    else whole 10 cs

def signed (cs : List Char) : Reading (Bool × List Char) :=
  if cs.isEmpty then .error (.fault .noItem) else .ok (Binary64.splitSign cs)

def int (s : String) : Reading Value := do
  let (negative, body) ← signed (withoutUnderscores s)
  let n ← magnitude body
  return .int (if negative then -n else n)

def decimal (cs : List Char) : Reading Binary64 :=
  let s := String.ofList cs
  match Binary64.ofLenientText? s with
  | some x => .ok x
  | none => .error (.fault (.refused (.decimal s)))

def sumSixtieths (unit : Int) (sum : Binary64) : List Binary64 → Reading Binary64
  | [] => .ok sum
  | x :: rest =>
    match Binary64.ofInt? unit with
    | some u => sumSixtieths (unit * 60) (sum.add (x.mul u)) rest
    | none => .error (.fault .overflow)

def unsignedFloat (cs : List Char) : Reading Binary64 :=
  if cs == ".inf".toList then .ok (.infinity false)
  else if cs == ".nan".toList then .ok .nan
  else if cs.contains ':' then do
    let parts ← (Text.pieces (· == ':') cs).mapM decimal
    sumSixtieths 1 Binary64.zero parts.reverse
  else decimal cs

def float (s : String) : Reading Value := do
  let lowered := Text.lower (String.ofList (withoutUnderscores s))
  let (negative, body) ← signed lowered.toList
  let x ← unsignedFloat body
  return .float (if negative then x.neg else x)

def bool (s : String) : Reading Value :=
  let word := Text.lower s
  if ["yes", "true", "on"].contains word then .ok (.bool true)
  else if ["no", "false", "off"].contains word then .ok (.bool false)
  else .error (.fault (.unknownKey word))

def binary (s : String) : Reading Value :=
  match Text.base64? s with
  | some octets => .ok (.bytes octets)
  | none => .error .malformed

def timestamp (s : String) : Reading Value :=
  match Timestamp.read? (Text.withoutFinalNewline s.toList) with
  | some t => (Timestamp.check t).mapError .fault
  | none => .error (.fault .noAttribute)

def ofText (tag : Tag) (s : String) : Reading Value :=
  match tag with
  | .str => .ok (.str s)
  | .null => .ok .null
  | .bool => bool s
  | .int => int s
  | .float => float s
  | .binary => binary s
  | .timestamp => timestamp s
  | _ => .error .malformed

def ofScalar (tag : Tag) : ScalarText → Reading Value
  | .text s => ofText tag s
  | .octets bytes =>
    match tag with
    | .str => .ok (.bytes bytes)
    | .null => .ok .null
    | _ => .error .malformed

end SloCompiler.Yaml.Meaning
