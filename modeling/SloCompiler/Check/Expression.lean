import SloCompiler.Check.Finding
import SloCompiler.Metric.Name
import SloCompiler.Text.Blank
import SloCompiler.Text.Word

namespace SloCompiler.Check

-- Where a reader of delimiters stands: the delimiters still open, innermost first, and whether a
-- quoted text is being read and the next character in it is escaped.
structure DelimiterState where
  opened : List Char := []
  inText : Bool := false
  escaped : Bool := false
  deriving DecidableEq, Repr

def closing? : Char → Option Char
  | '(' => some ')'
  | '[' => some ']'
  | '\x7b' => some '\x7d'
  | _ => none

def isClosing (c : Char) : Bool := c == ')' || c == ']' || c == '\x7d'

def DelimiterState.step (s : DelimiterState) (c : Char) : Option DelimiterState :=
  if s.inText then
    if s.escaped then some { s with escaped := false }
    else if c == '\\' then some { s with escaped := true }
    else if c == '"' then some { s with inText := false }
    else some s
  else if c == '"' then some { s with inText := true }
  else if (closing? c).isSome then some { s with opened := c :: s.opened }
  else if isClosing c then
    match s.opened with
    | [] => none
    | o :: rest => if closing? o == some c then some { s with opened := rest } else none
  else some s

def delimiterRun (s : DelimiterState) (cs : List Char) : Option DelimiterState :=
  cs.foldlM DelimiterState.step s

def isBalanced (cs : List Char) : Bool :=
  match delimiterRun {} cs with
  | some s => s.opened.isEmpty && !s.inText
  | none => false

def danglingWords : List String := ["and", "or", "unless", "by", "without", "bool"]

def endsWithWord (backwards : List Char) (word : String) : Bool :=
  let w := word.toList.reverse
  w.isPrefixOf backwards && !((backwards.drop w.length).head?.any Text.isWord)

def endsWithOperator (trimmed : List Char) : Bool :=
  let backwards := trimmed.reverse
  backwards.head?.any ("-+*/<>=".toList.contains ·) ||
    danglingWords.any (endsWithWord backwards)

def aggregations : List String := ["sum", "avg", "min", "max", "count"]

def startsWithEmptyCall (cs : List Char) : Bool :=
  match cs.dropWhile Text.isBlank with
  | '(' :: rest => (rest.dropWhile Text.isBlank).head? == some ')'
  | _ => false

def startsWithEmptyAggregation (cs : List Char) : Bool :=
  aggregations.any fun word =>
    word.toList.isPrefixOf cs && startsWithEmptyCall (cs.drop word.length)

-- An aggregation of nothing that starts no word's middle; `previous` tells what stands before.
def hasEmptyAggregation (afterWord : Bool) : List Char → Bool
  | [] => false
  | c :: rest =>
    (!afterWord && startsWithEmptyAggregation (c :: rest)) ||
      hasEmptyAggregation (Text.isWord c) rest

def expressionDefects (expr : String) : List RuleDefect :=
  let cs := expr.toList
  let trimmed := Text.trimWhile Text.isBlank cs
  if trimmed.isEmpty then [.emptyExpression]
  else
    (if isBalanced cs then [] else [.unbalanced]) ++
      (if endsWithOperator trimmed then [.danglingOperator] else []) ++
        (if hasEmptyAggregation false cs then [.emptyAggregation] else [])

def afterQuoted? : List Char → Option (List Char)
  | [] => none
  | '"' :: rest => some rest
  | '\\' :: c :: rest => if c == '\n' then none else afterQuoted? rest
  | ['\\'] => none
  | _ :: rest => afterQuoted? rest

-- Empties quoted texts; the measure is at least the length. A quote that nothing closes stays.
def emptyQuoted : Nat → List Char → List Char
  | 0, cs => cs
  | _, [] => []
  | n + 1, c :: rest =>
    if c == '"' then
      match afterQuoted? rest with
      | some more => '"' :: '"' :: emptyQuoted n more
      | none => c :: emptyQuoted n rest
    else c :: emptyQuoted n rest

def occursWhole (name : List Char) (afterName : Bool) : List Char → Bool
  | [] => name.isEmpty && !afterName
  | c :: rest =>
    (!afterName && name.isPrefixOf (c :: rest) &&
        !((c :: rest).drop name.length).head?.any isMetricChar) ||
      occursWhole name (isMetricChar c) rest

def sortTexts (names : List String) : List String := Ordered.sort (fun a b => !(b < a)) names

def referencedNames (expr : String) (names : List String) : List String :=
  let cs := expr.toList
  let outside := emptyQuoted cs.length cs
  sortTexts (names.filter fun name => occursWhole name.toList false outside)

end SloCompiler.Check
