import SloCompiler.Fault
import SloCompiler.Ordered
import SloCompiler.Text.Pieces

namespace SloCompiler

inductive MatchOperator where
  | equal
  | notEqual
  | regexMatch
  | regexNoMatch
  deriving DecidableEq, Repr

namespace MatchOperator

def text : MatchOperator → String
  | .equal => "="
  | .notEqual => "!="
  | .regexMatch => "=~"
  | .regexNoMatch => "!~"

def ofText? : String → Option MatchOperator
  | "=" => some .equal
  | "!=" => some .notEqual
  | "=~" => some .regexMatch
  | "!~" => some .regexNoMatch
  | _ => none

end MatchOperator

def isLabelStart (c : Char) : Bool := c.isAlpha || c == '_'

def isLabelChar (c : Char) : Bool := c.isAlphanum || c == '_'

def isLabelChars : List Char → Bool
  | [] => false
  | c :: rest => isLabelStart c && rest.all isLabelChar

def isLabelName (label : String) : Bool := isLabelChars (Text.withoutFinalNewline label.toList)

structure Clause where
  label : String
  operator : MatchOperator
  pattern : String
  label_valid : isLabelName label = true := by decide
  deriving DecidableEq

namespace Clause

-- The label is looked at before the operator.
def make (label operator pattern : String) : Except Refusal Clause :=
  if valid : isLabelName label = true then
    match MatchOperator.ofText? operator with
    | some op => .ok ⟨label, op, pattern, valid⟩
    | none => .error (.matchOperator operator)
  else .error (.labelName label)

def escape (cs : List Char) : List Char :=
  cs.flatMap fun c => if c == '"' || c == '\\' then ['\\', c] else [c]

def render (c : Clause) : String :=
  c.label ++ c.operator.text ++ "\"" ++ String.ofList (escape c.pattern.toList) ++ "\""

def describe (c : Clause) : String :=
  c.label ++ " " ++ c.operator.text ++ " \"" ++ c.pattern ++ "\""

end Clause

def isRegexChar (c : Char) : Bool := ".|*+?()[]\x7b\x7d^$\\".toList.contains c

def isRegex (pattern : String) : Bool := pattern.toList.any isRegexChar

namespace Clause

-- A leading `!` negates the match; `\!` starts a value whose first character is `!`.
def readValue : List Char → Bool × List Char
  | '\\' :: '!' :: rest => (false, '!' :: rest)
  | '!' :: rest => (true, rest)
  | cs => (false, cs)

def operatorFor (negative regex : Bool) : MatchOperator :=
  match negative, regex with
  | false, false => .equal
  | true, false => .notEqual
  | false, true => .regexMatch
  | true, true => .regexNoMatch

def ofText (label value : String) : Except Refusal Clause :=
  let (negative, pattern) := readValue value.toList
  let operator := operatorFor negative (pattern.any isRegexChar)
  if valid : isLabelName label = true then .ok ⟨label, operator, String.ofList pattern, valid⟩
  else .error (.labelName label)

def ofValue (label : String) : Value → Except Fault Clause
  | .str value => (ofText label value).mapError .refused
  | value => do
    let shown ← (value.inspect usualDepth).mapError .ofUnshown
    .error (.refused (.selectorValue label shown))

def ofSelectors (selectors : List (String × String)) : Except Refusal (List Clause) :=
  selectors.mapM fun (label, value) => ofText label value

-- Joins groups of clauses; of several clauses with one label the last counts, at the place of
-- the first.
def merge (groups : List (List Clause)) : List Clause :=
  (Ordered.ofPairs (groups.flatten.map fun c => (c.label, c))).map (·.2)

end Clause

def renderSelector (clauses : List Clause) : String :=
  "\x7b" ++ ", ".intercalate (clauses.map Clause.render) ++ "\x7d"

def renderSeries (metric : String) (clauses : List Clause) : String :=
  if clauses.isEmpty then metric else metric ++ renderSelector clauses

structure TargetMetric where
  name : String
  clauses : List Clause
  deriving DecidableEq

def TargetMetric.series (t : TargetMetric) (selectors : List Clause) : String :=
  renderSeries t.name (selectors ++ t.clauses)

end SloCompiler
