import SloCompiler.Number.Decimal
import SloCompiler.Text.Quoted
import SloCompiler.Value.Basic

namespace SloCompiler

def inspectByte (mark : Char) (b : UInt8) : List Char :=
  let c := Char.ofNat b.toNat
  if b < 128 then Text.escapeQuoted mark c else '\\' :: 'x' :: Text.hexDigits 2 b.toNat

def inspectBytes (octets : List UInt8) : String :=
  let mark := Text.quoteMark (octets.map fun b => Char.ofNat b.toNat)
  String.ofList ('b' :: mark :: octets.flatMap (inspectByte mark) ++ [mark])

def Date.inspect (d : Date) : String :=
  s!"datetime.date({d.year}, {d.month}, {d.day})"

def inspectDelta (seconds : Int) : String :=
  let days := Int.fdiv seconds 86400
  let rest := Int.fmod seconds 86400
  let parts := (if days = 0 then [] else [s!"days={days}"]) ++
    (if rest = 0 then [] else [s!"seconds={rest}"])
  "datetime.timedelta(" ++ (if parts.isEmpty then "0" else ", ".intercalate parts) ++ ")"

def inspectOffset (seconds : Int) : String :=
  if seconds = 0 then "datetime.timezone.utc"
  else "datetime.timezone(" ++ inspectDelta seconds ++ ")"

def DateTime.inspect (t : DateTime) : String :=
  let clock :=
    if t.microsecond ≠ 0 then [t.hour, t.minute, t.second, t.microsecond]
    else if t.second ≠ 0 then [t.hour, t.minute, t.second]
    else [t.hour, t.minute]
  let numbers := ([t.date.year, t.date.month, t.date.day] ++ clock).map toString
  let zone := match t.offset with
    | some seconds => ["tzinfo=" ++ inspectOffset seconds]
    | none => []
  "datetime.datetime(" ++ ", ".intercalate (numbers ++ zone) ++ ")"

def padded (width n : Nat) : String :=
  let digits := (toString n).toList
  String.ofList (List.replicate (width - digits.length) '0' ++ digits)

def Date.text (d : Date) : String :=
  padded 4 d.year ++ "-" ++ padded 2 d.month ++ "-" ++ padded 2 d.day

def offsetText (seconds : Int) : String :=
  let minutes := seconds.natAbs / 60
  (if seconds < 0 then "-" else "+") ++ padded 2 (minutes / 60) ++ ":" ++ padded 2 (minutes % 60)

def DateTime.text (t : DateTime) : String :=
  let clock := ":".intercalate ([t.hour, t.minute, t.second].map (padded 2))
  let fraction := if t.microsecond = 0 then "" else "." ++ padded 6 t.microsecond
  let zone := match t.offset with
    | some seconds => offsetText seconds
    | none => ""
  t.date.text ++ " " ++ clock ++ fraction ++ zone

inductive Unshown where
  | longNumber
  | tooDeep
  deriving DecidableEq, Repr

def maxDigits : Nat := 4300

-- So many levels of values inside one another are shown where nothing else is under way.
def usualDepth : Nat := 990

namespace Value

def wholeText (n : Int) : Except Unshown String :=
  if Binary64.digitCount n.natAbs ≤ maxDigits then .ok (toString n) else .error .longNumber

mutual

def inspect (depth : Nat) (v : Value) : Except Unshown String :=
  match v with
  | .null => .ok "None"
  | .bool b => .ok (if b then "True" else "False")
  | .int n => wholeText n
  | .float x => .ok x.text
  | .str s => .ok (Text.quoted s)
  | .list items =>
    (inspectItems depth items).map fun shown => "[" ++ ", ".intercalate shown ++ "]"
  | .map entries =>
    (inspectEntries depth entries).map fun shown => "\x7b" ++ ", ".intercalate shown ++ "\x7d"
  | .bytes octets => .ok (inspectBytes octets)
  | .date d => .ok d.inspect
  | .dateTime t => .ok t.inspect
  | .set items =>
    (inspectItems depth items).map fun shown =>
      if shown.isEmpty then "set()" else "\x7b" ++ ", ".intercalate shown ++ "\x7d"

def inspectItems (depth : Nat) (items : List Value) : Except Unshown (List String) :=
  match depth, items with
  | _, [] => .ok []
  | 0, _ :: _ => .error .tooDeep
  | depth + 1, v :: rest => do
    return (← inspect depth v) :: (← inspectItems (depth + 1) rest)

def inspectEntries (depth : Nat) (entries : List (Value × Value)) :
    Except Unshown (List String) :=
  match depth, entries with
  | _, [] => .ok []
  | 0, _ :: _ => .error .tooDeep
  | depth + 1, (k, v) :: rest => do
    let key ← inspect depth k
    return (key ++ ": " ++ (← inspect depth v)) :: (← inspectEntries (depth + 1) rest)

end

def display (depth : Nat) : Value → Except Unshown String
  | .str s => .ok s
  | .date d => .ok d.text
  | .dateTime t => .ok t.text
  | v => v.inspect depth

-- A name for every value; one without a text goes by its kind.
def label (v : Value) : String :=
  match v.display usualDepth with
  | .ok s => s
  | .error _ => "<unprintable " ++ v.kindName ++ " object>"

theorem label_text (s : String) : (Value.str s).label = s := rfl

end Value

end SloCompiler
