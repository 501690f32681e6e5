import SloCompiler.Text.Pieces
import SloCompiler.Yaml.Timestamp

namespace SloCompiler.Yaml

inductive PlainForm where
  | text
  | null
  | bool
  | int
  | float
  | timestamp
  | merge
  | default
  deriving DecidableEq, Repr

namespace PlainForm

def isBinaryDigit (c : Char) : Bool := c == '0' || c == '1' || c == '_'

def isOctalDigit (c : Char) : Bool := ('0' ≤ c && c ≤ '7') || c == '_'

def isDecimalDigit (c : Char) : Bool := c.isDigit || c == '_'

def isHexDigit (c : Char) : Bool :=
  c.isDigit || ('a' ≤ c && c ≤ 'f') || ('A' ≤ c && c ≤ 'F') || c == '_'

def withoutSign : List Char → List Char
  | '+' :: rest | '-' :: rest => rest
  | cs => cs

def someOf (p : Char → Bool) (cs : List Char) : Bool := !cs.isEmpty && cs.all p

def afterDigits? : List Char → Option (List Char)
  | c :: rest => if c.isDigit then some (rest.dropWhile isDecimalDigit) else none
  | [] => none

def afterSixtieths : List Char → List Char
  | ':' :: a :: b :: rest =>
    if '0' ≤ a && a ≤ '5' && b.isDigit then afterSixtieths rest
    else if a.isDigit then afterSixtieths (b :: rest)
    else ':' :: a :: b :: rest
  | [':', a] => if a.isDigit then [] else [':', a]
  | cs => cs

def isSexagesimal (cs : List Char) : Bool :=
  match afterDigits? cs with
  | some (':' :: rest) => (afterSixtieths (':' :: rest)).isEmpty
  | _ => false

def isInt (cs : List Char) : Bool :=
  match withoutSign cs with
  | [] => false
  | ['0'] => true
  | '0' :: 'b' :: rest => someOf isBinaryDigit rest
  | '0' :: 'x' :: rest => someOf isHexDigit rest
  | '0' :: rest => someOf isOctalDigit rest
  | c :: rest => c.isDigit && (rest.all isDecimalDigit || isSexagesimal (c :: rest))

def isExponent : List Char → Bool
  | [] => true
  | e :: sign :: digits =>
    (e == 'e' || e == 'E') && (sign == '+' || sign == '-') && someOf Char.isDigit digits
  | _ => false

def isFraction (cs : List Char) : Bool := isExponent (cs.dropWhile isDecimalDigit)

def infinities : List (List Char) := [".inf".toList, ".Inf".toList, ".INF".toList]

def nans : List (List Char) := [".nan".toList, ".NaN".toList, ".NAN".toList]

def isFloat (cs : List Char) : Bool :=
  let body := withoutSign cs
  infinities.contains body || nans.contains cs ||
    match cs with
    | '.' :: c :: rest => c.isDigit && isFraction rest
    | _ =>
      match afterDigits? body with
      | some ('.' :: rest) => isFraction rest
      | some (':' :: rest) =>
        match afterSixtieths (':' :: rest) with
        | '.' :: fraction => fraction.all isDecimalDigit
        | _ => false
      | _ => false

def isTimestamp (cs : List Char) : Bool :=
  match Timestamp.read? cs with
  | some t => t.clock.isSome || cs.length == 10
  | none => false

def nulls : List String := ["", "~", "null", "Null", "NULL"]

def trueWords : List String := ["yes", "Yes", "YES", "true", "True", "TRUE", "on", "On", "ON"]

def falseWords : List String := ["no", "No", "NO", "false", "False", "FALSE", "off", "Off", "OFF"]

def ofWord (s : String) : PlainForm :=
  let cs := s.toList
  if trueWords.contains s || falseWords.contains s then .bool
  else if isFloat cs then .float
  else if isInt cs then .int
  else if s == "<<" then .merge
  else if nulls.contains s then .null
  else if isTimestamp cs then .timestamp
  else if s == "=" then .default
  else .text

-- A line feed at the end does not count, unless it is all there is.
def of (s : String) : PlainForm :=
  if s == "\n" then .text else ofWord (String.ofList (Text.withoutFinalNewline s.toList))

end PlainForm

end SloCompiler.Yaml
