import SloCompiler.Yaml.PlainForm

namespace SloCompiler.Yaml

inductive Style where
  | plain
  | singleQuoted
  | doubleQuoted
  deriving DecidableEq, Repr

namespace Style

def isSpace (c : Char) : Bool := c == ' '

def isLineFeed (c : Char) : Bool := c == '\n'

def isSpecial (c : Char) : Bool := !(isLineFeed c || (32 ≤ c.toNat && c.toNat ≤ 126))

def endsToken : List Char → Bool
  | [] => true
  | c :: _ => isSpace c

def leadingIndicators : List Char := "#,[]\x7b\x7d&*!|>'\"%@`".toList

def startsWithIndicator : List Char → Bool
  | [] => false
  | c :: rest =>
    leadingIndicators.contains c || ((c == '?' || c == ':' || c == '-') && endsToken rest)

-- A colon at the end of a token ends a key, and a hash at its start begins a comment.
def holdsIndicator (afterSpace : Bool) : List Char → Bool
  | [] => false
  | c :: rest =>
    (c == ':' && endsToken rest) || (c == '#' && afterSpace) || holdsIndicator (isSpace c) rest

def marksDocument (cs : List Char) : Bool :=
  cs.take 3 == ['-', '-', '-'] || cs.take 3 == ['.', '.', '.']

def plainFits (cs : List Char) : Bool :=
  !cs.any isLineFeed && !cs.any isSpecial && !cs.head?.any isSpace && !cs.getLast?.any isSpace &&
    !marksDocument cs && !startsWithIndicator cs && !holdsIndicator true cs

def neighbours (first second : Char → Bool) : List Char → Bool
  | a :: b :: rest => (first a && second b) || neighbours first second (b :: rest)
  | _ => false

def singleFits (cs : List Char) : Bool :=
  !cs.any isSpecial && !neighbours isLineFeed isSpace cs && !neighbours isSpace isLineFeed cs

def ofText (s : String) : Style :=
  if PlainForm.of s == .text && plainFits s.toList then .plain
  else if singleFits s.toList then .singleQuoted
  else .doubleQuoted

end Style

end SloCompiler.Yaml
