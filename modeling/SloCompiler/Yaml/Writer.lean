import SloCompiler.Number.Decimal
import SloCompiler.Value.Inspect
import SloCompiler.Yaml.Character
import SloCompiler.Yaml.Scalar

namespace SloCompiler.Yaml

-- A number always has a point before its exponent.
def withPoint (cs : List Char) : List Char :=
  if cs.contains '.' then cs
  else cs.takeWhile (· != 'e') ++
    (if cs.contains 'e' then ['.', '0'] else []) ++ cs.dropWhile (· != 'e')

def floatText : Binary64 → String
  | .nan => ".nan"
  | .infinity negative => if negative then "-.inf" else ".inf"
  | x => String.ofList (withPoint x.text.toList)

def scalarText : Value → Style × String
  | .null => (.plain, "null")
  | .bool b => (.plain, if b then "true" else "false")
  | .int n => (.plain, toString n)
  | .float x => (.plain, floatText x)
  | v => (Style.ofText v.label, v.label)

def isSimpleKey (text : String) : Bool :=
  !text.isEmpty && !text.toList.any isBreak && text.length < 123

def indentStep : Nat := 2

def deeper : Option Nat → Nat
  | none => 0
  | some n => n + indentStep

def textIndent (indent : Option Nat) : Nat := indent.getD 0 + indentStep

def writeScalar (fold : Bool) (indent : Option Nat) (v : Value) (s : Sheet) : Sheet :=
  let (style, text) := scalarText v
  Scalar.write fold (textIndent indent) style text s

def writeKey (indent : Nat) (key : Value) (s : Sheet) : Sheet :=
  let s := s.moveTo indent
  if isSimpleKey (scalarText key).2 then
    (writeScalar false (some indent) key s).mark [':']
  else
    let s := writeScalar true (some indent) key (s.separate.blockMark ['?'])
    (s.moveTo indent).separate.blockMark [':']

mutual

-- Sequences that are values of keys on the same line are not indented any further.
def writeNode (indent : Option Nat) (ofKey : Bool) (s : Sheet) : Value → Sheet
  | .list [] => (s.separate.openMark ['[']).mark [']']
  | .list (v :: rest) =>
    let inner := match indent with
      | some n => if ofKey && !s.isFresh then n else n + indentStep
      | none => 0
    writeItems inner s (v :: rest)
  | .map [] => (s.separate.openMark ['\x7b']).mark ['\x7d']
  | .map (entry :: rest) => writeEntries (deeper indent) s (entry :: rest)
  | v => writeScalar true indent v s

def writeItems (indent : Nat) (s : Sheet) : List Value → Sheet
  | [] => s
  | v :: rest =>
    let s := (s.moveTo indent).separate.blockMark ['-']
    writeItems indent (writeNode (some indent) false s v) rest

def writeEntries (indent : Nat) (s : Sheet) : List (Value × Value) → Sheet
  | [] => s
  | (key, v) :: rest =>
    writeEntries indent (writeNode (some indent) true (writeKey indent key s) v) rest

end

def isOpenEnded : Value → Bool
  | .list _ | .map _ => false
  | v => (scalarText v).1 == .plain

def write (v : Value) : String :=
  let s := (writeNode none false {} v).moveTo 0
  (if isOpenEnded v then (s.mark ['.', '.', '.']).moveTo 0 else s).text

end SloCompiler.Yaml
