import SloCompiler.Fault
import SloCompiler.Metric.Name
import SloCompiler.Ordered
import SloCompiler.Text.Digit

namespace SloCompiler.Template

abbrev Values := List (String × String)

def defect (d : TemplateDefect) : Fault := .refused (.template d)

def maxIndex : Nat := Nat.pow 2 63 - 1

def index? (cs : List Char) : Except Fault (Option Nat) :=
  if cs.isEmpty then .ok none
  else
    match cs.mapM Text.digitValue? with
    | none => .ok none
    | some digits =>
      let n := digits.foldl (fun n d => 10 * n + d) 0
      if n ≤ maxIndex then .ok (some n) else .error (defect .tooManyDigits)

structure Field where
  name : List Char
  conversion : Option Char
  spec : List Char

def untilBracket (cs : List Char) : List Char × List Char :=
  (cs.takeWhile (· != ']'), cs.dropWhile (· != ']'))

def readName (inItem : Bool) (name : List Char) :
    List Char → Except Fault (List Char × Char × List Char)
  | [] => .error (defect .unclosedField)
  | c :: rest =>
    if inItem then readName (c != ']') (c :: name) rest
    else if c == '\x7b' then .error (defect .braceInName)
    else if c == '\x7d' || c == ':' || c == '!' then .ok (name, c, rest)
    else readName (c == '[') (c :: name) rest

def readSpec (depth : Nat) (spec : List Char) :
    List Char → Except Fault (List Char × List Char)
  | [] => .error (defect .unclosedSpec)
  | c :: rest =>
    if c == '\x7b' then readSpec (depth + 1) (c :: spec) rest
    else if c == '\x7d' then
      if depth = 0 then .ok (spec, rest) else readSpec (depth - 1) (c :: spec) rest
    else readSpec depth (c :: spec) rest

def finish (name : List Char) (conversion : Option Char) (cs : List Char) :
    Except Fault (Field × List Char) :=
  (readSpec 0 [] cs).map fun (spec, rest) => (⟨name.reverse, conversion, spec.reverse⟩, rest)

def readField (cs : List Char) : Except Fault (Field × List Char) := do
  let (name, mark, rest) ← readName false [] cs
  if mark == '\x7d' then return (⟨name.reverse, none, []⟩, rest)
  else if mark == ':' then finish name none rest
  else
    match rest with
    | [] => .error (defect .noConversion)
    | [_] => .error (defect .unclosedSpec)
    | c :: '\x7d' :: more => return (⟨name.reverse, some c, []⟩, more)
    | c :: ':' :: more => finish name (some c) more
    | _ => .error (defect .afterConversion)

def isAccessMark (c : Char) : Bool := c == '.' || c == '['

-- Takes what the marks behind a name ask for. A text has characters and nothing else; the first
-- step that cannot be taken decides.
def take (value : List Char) : Nat → List Char → Except Fault (List Char)
  | 0, _ => .ok value
  | _, [] => .ok value
  | n + 1, c :: rest =>
    if c == '.' then
      if (rest.takeWhile (!isAccessMark ·)).isEmpty then .error (defect .emptyAttribute)
      else .error .noAttribute
    else if c == '[' then do
      let (name, tail) := untilBracket rest
      if tail.isEmpty then .error (defect .unclosedItem)
      else
        let index ← index? name
        if name.isEmpty then .error (defect .emptyAttribute)
        else
          match index with
          | none => .error .mistyped
          | some i =>
            match value[i]? with
            | none => .error .noItem
            | some item => take [item] n (tail.drop 1)
    else .error (defect .afterItem)

def valueOf (template : String) (values : Values) (name : List Char) :
    Except Fault (List Char) := do
  let first := name.takeWhile (!isAccessMark ·)
  let index ← index? first
  if first.isEmpty || index.isSome then .error .noItem
  else
    match Ordered.get? values (String.ofList first) with
    | none => .error (.refused (.templateGap template (String.ofList first)))
    | some value => take value.toList (name.length + 1) (name.dropWhile (!isAccessMark ·))

def convert (value : List Char) : Option Char → Except Fault (List Char)
  | none | some 's' => .ok value
  | some 'r' | some 'a' => .ok (Text.quotedChars value)
  | some c => .error (defect (.conversion c))

structure Format where
  fill : Char := ' '
  align : Char := '<'
  sign : Option Char := none
  zeroCoercion : Bool := false
  alternate : Bool := false
  width : Option Nat := none
  separator : Option Char := none
  precision : Option Nat := none
  code : Char := 's'

def isAlign (c : Char) : Bool := c == '<' || c == '>' || c == '=' || c == '^'

def isSign (c : Char) : Bool := c == ' ' || c == '+' || c == '-'

def readAlign (f : Format) : List Char → Format × Bool × List Char
  | c :: mark :: rest =>
    if isAlign mark then ({ f with fill := c, align := mark }, true, rest)
    else if isAlign c then ({ f with align := c }, false, mark :: rest)
    else (f, false, c :: mark :: rest)
  | [c] => if isAlign c then ({ f with align := c }, false, []) else (f, false, [c])
  | [] => (f, false, [])

def readMark (mark : Char) : List Char → Bool × List Char
  | c :: rest => if c == mark then (true, rest) else (false, c :: rest)
  | [] => (false, [])

def readIndex (cs : List Char) : Except Fault (Option Nat × List Char) :=
  (index? (cs.takeWhile Text.isDigit)).map fun n => (n, cs.dropWhile Text.isDigit)

def readSeparator (cs : List Char) : Except Fault (Option Char × List Char) :=
  match cs with
  | ',' :: '_' :: _ | '_' :: ',' :: _ => .error (defect .bothSeparators)
  | ',' :: rest => .ok (some ',', rest)
  | '_' :: rest => .ok (some '_', rest)
  | _ => .ok (none, cs)

def readPrecision : List Char → Except Fault (Option Nat × List Char)
  | '.' :: rest => do
    let (precision, more) ← readIndex rest
    if precision.isNone then .error (defect .noPrecision)
    else return (precision, more)
  | cs => .ok (none, cs)

def separatorFits (separator code : Char) : Bool :=
  "defgEG%F\x00".toList.contains code || (separator == '_' && "boxX".toList.contains code)

def readFormat (spec : List Char) : Except Fault Format := do
  let (f, filled, rest) := readAlign {} spec
  let (sign, rest) := match rest with
    | c :: more => if isSign c then (some c, more) else (none, rest)
    | [] => (none, [])
  let (zeroCoercion, rest) := readMark 'z' rest
  let (alternate, rest) := readMark '#' rest
  let (zero, rest) := if filled then (false, rest) else readMark '0' rest
  let (width, rest) ← readIndex rest
  let (separator, rest) ← readSeparator rest
  let (precision, rest) ← readPrecision rest
  let code ← match rest with
    | [] => pure 's'
    | [c] => pure c
    | _ => .error (defect (.spec (String.ofList spec)))
  match separator with
  | some mark =>
    if !separatorFits mark code then .error (defect (.separator mark code))
  | none => pure ()
  return { f with
    fill := if zero then '0' else f.fill
    sign, zeroCoercion, alternate, width, separator, precision, code }

def pad (f : Format) (value : List Char) : List Char :=
  let missing := f.width.getD 0 - value.length
  let left := if f.align == '>' then missing else if f.align == '^' then missing / 2 else 0
  List.replicate left f.fill ++ value ++ List.replicate (missing - left) f.fill

def setText (value spec : List Char) : Except Fault (List Char) :=
  if spec.isEmpty then .ok value
  else do
    let f ← readFormat spec
    if f.code != 's' then .error (defect (.code f.code))
    else if f.sign == some ' ' then .error (defect .blankSign)
    else if f.sign.isSome then .error (defect .sign)
    else if f.zeroCoercion then .error (defect .zeroCoercion)
    else if f.alternate then .error (defect .alternateForm)
    else if f.align == '=' then .error (defect .signAlignment)
    else
      .ok (pad f (match f.precision with
        | some n => value.take n
        | none => value))

def fillWith (expand : List Char → Except Fault (List Char)) (template : String)
    (values : Values) : Nat → List Char → List Char → Except Fault (List Char)
  | 0, done, _ => .ok done.reverse
  | _, done, [] => .ok done.reverse
  | n + 1, done, c :: rest =>
    if c == '\x7b' || c == '\x7d' then
      match rest with
      | [] => .error (defect (.loneBrace c))
      | next :: more =>
        if next == c then fillWith expand template values n (c :: done) more
        else if c == '\x7d' then .error (defect (.loneBrace c))
        else do
          let (field, tail) ← readField rest
          let value ← convert (← valueOf template values field.name) field.conversion
          let spec ← if field.spec.contains '\x7b' then expand field.spec else pure field.spec
          let text ← setText value spec
          fillWith expand template values n (text.reverse ++ done) tail
    else fillWith expand template values n (c :: done) rest

-- Formats may hold fields of their own, but those none.
def fill (template : String) (values : Values) : Except Fault String :=
  let run (expand : List Char → Except Fault (List Char)) (cs : List Char) :=
    fillWith expand template values cs.length [] cs
  (run (run fun _ => .error (defect .tooDeep)) template.toList).map String.ofList

end SloCompiler.Template

namespace SloCompiler

-- The name of the template itself, which no value can have.
def ownName : String := "template"

def metricName (template : String) (values : List (String × String)) : Except Fault String := do
  if (Ordered.get? values ownName).isSome then .error .mistyped
  else
    let name ← Template.fill template (values.map fun (k, v) => (k, sanitizeName v))
    if isMetricName name then .ok name else .error (.refused (.metricName name))

def recordName (product sliId operation : String) : Except Fault String :=
  metricName ("\x7bproduct\x7d:\x7bsli_id\x7d_" ++ operation)
    [("product", product), ("sli_id", sliId)]

end SloCompiler
