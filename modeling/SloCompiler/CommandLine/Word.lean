import SloCompiler.CommandLine.Setting
import SloCompiler.Text.Digit
import SloCompiler.Text.Pieces

namespace SloCompiler.CommandLine

inductive Word where
  | setting (s : Setting) (isShort : Bool) (attached : Option String)
  | unknown (text : String)
  | argument (text : String)
  | separator
  deriving DecidableEq, Repr

namespace Word

def isNegativeNumber (s : String) : Bool :=
  match Text.withoutFinalNewline s.toList with
  | '-' :: cs =>
    let fraction := match cs.dropWhile Text.isDigit with
      | '.' :: rest => rest
      | _ => cs
    !fraction.isEmpty && fraction.all Text.isDigit
  | _ => false

def splitValue (s : String) : String × Option String :=
  let cs := s.toList
  match cs.dropWhile (· != '=') with
  | _ :: rest => (String.ofList (cs.takeWhile (· != '=')), some (String.ofList rest))
  | [] => (s, none)

def completions (beginning : String) : List Setting :=
  Setting.all.filter (·.long.startsWith beginning)

def nameless (s : String) : Word :=
  if isNegativeNumber s || s.toList.contains ' ' then .argument s else .unknown s

def ofPartial (s : String) (second : Char) (rest : List Char) : Except Misuse Word :=
  if second == '-' then
    let (name, attached) := splitValue s
    match completions name with
    | [] => .ok (nameless s)
    | [found] => .ok (.setting found false attached)
    | many => .error (.ambiguous s (many.map Setting.long))
  else
    match Setting.ofShort? second with
    | some found => .ok (.setting found true (some (String.ofList rest)))
    | none => .ok (nameless s)

def ofText (s : String) : Except Misuse Word :=
  match s.toList with
  | '-' :: second :: rest =>
    let isShort := second != '-'
    let (name, attached) := splitValue s
    match Setting.ofName? s, Setting.ofName? name with
    | some found, _ => .ok (.setting found isShort none)
    | none, some found => .ok (.setting found isShort attached)
    | none, none => ofPartial s second rest
  | _ => .ok (.argument s)

-- Behind a separator all words are arguments.
def ofTexts : List String → Except Misuse (List Word)
  | [] => .ok []
  | s :: rest =>
    if s == "--" then .ok (.separator :: rest.map .argument)
    else do
      let word ← ofText s
      return word :: (← ofTexts rest)

end Word

end SloCompiler.CommandLine
