import SloCompiler.Number.Reading
import SloCompiler.Value.Basic

namespace SloCompiler.Json

def isSpace (c : Char) : Bool := c == ' ' || c == '\n' || c == '\r' || c == '\t'

def hexValue? (c : Char) : Option Nat :=
  if c.isDigit then some (c.toNat - 48)
  else if 'a' ≤ c && c ≤ 'f' then some (c.toNat - 87)
  else if 'A' ≤ c && c ≤ 'F' then some (c.toNat - 55)
  else none

def hexNumber? (cs : List Char) : Option Nat :=
  cs.foldlM (fun n c => (hexValue? c).map (16 * n + ·)) 0

def readUnits (units : List Nat) : List Char → Option (List Nat × List Char)
  | [] => none
  | '"' :: rest => some (units, rest)
  | '\\' :: 'u' :: a :: b :: c :: d :: rest => do
    let unit ← hexNumber? [a, b, c, d]
    readUnits (unit :: units) rest
  | '\\' :: c :: rest =>
    match c with
    | '"' | '\\' | '/' => readUnits (c.toNat :: units) rest
    | 'n' => readUnits (10 :: units) rest
    | 'r' => readUnits (13 :: units) rest
    | 't' => readUnits (9 :: units) rest
    | 'b' => readUnits (8 :: units) rest
    | 'f' => readUnits (12 :: units) rest
    | _ => none
  | c :: rest => readUnits (c.toNat :: units) rest

def joinUnits (text : List Char) : List Nat → List Char
  | [] => text
  | low :: high :: rest =>
    if 0xdc00 ≤ low && low < 0xe000 && 0xd800 ≤ high && high < 0xdc00 then
      joinUnits (Char.ofNat (0x10000 + (high - 0xd800) * 0x400 + (low - 0xdc00)) :: text) rest
    else joinUnits (Char.ofNat low :: text) (high :: rest)
  | [unit] => Char.ofNat unit :: text

def readString (cs : List Char) : Option (String × List Char) :=
  (readUnits [] cs).map fun (units, rest) => (String.ofList (joinUnits [] units), rest)

def isNumberChar (c : Char) : Bool :=
  c.isDigit || c == '-' || c == '+' || c == '.' || c == 'e' || c == 'E'

-- A number written with a point or an exponent is a float, any other a whole number.
def number? (cs : List Char) : Option Value :=
  if cs.any fun c => c == '.' || c == 'e' || c == 'E' then (Binary64.ofText? cs).map .float
  else
    let (negative, digits) := Binary64.splitSign cs
    if digits.isEmpty || !digits.all Char.isDigit then none
    else
      let n : Int := Binary64.natOfDigits digits
      some (.int (if negative then -n else n))

def word? (word : String) (v : Value) (cs : List Char) : Option (Value × List Char) :=
  if word.toList.isPrefixOf cs then some (v, cs.drop word.length) else none

-- The measure bounds how many values are still to be read; the length of the text is enough.
mutual

def readValue : Nat → List Char → Option (Value × List Char)
  | 0, _ => none
  | n + 1, cs =>
    match cs.dropWhile isSpace with
    | '"' :: rest => (readString rest).map fun (s, more) => (.str s, more)
    | '[' :: rest =>
      match rest.dropWhile isSpace with
      | ']' :: more => some (.list [], more)
      | more => readItems n [] more
    | '\x7b' :: rest =>
      match rest.dropWhile isSpace with
      | '\x7d' :: more => some (.map [], more)
      | more => readFields n [] more
    | 't' :: rest => word? "true" (.bool true) ('t' :: rest)
    | 'f' :: rest => word? "false" (.bool false) ('f' :: rest)
    | 'n' :: rest => word? "null" .null ('n' :: rest)
    | 'N' :: rest => word? "NaN" (.float .nan) ('N' :: rest)
    | 'I' :: rest => word? "Infinity" (.float (.infinity false)) ('I' :: rest)
    | '-' :: 'I' :: rest => word? "-Infinity" (.float (.infinity true)) ('-' :: 'I' :: rest)
    | text =>
      (number? (text.takeWhile isNumberChar)).map fun v => (v, text.dropWhile isNumberChar)

def readItems : Nat → List Value → List Char → Option (Value × List Char)
  | 0, _, _ => none
  | n + 1, items, cs =>
    match readValue n cs with
    | none => none
    | some (v, rest) =>
      match rest.dropWhile isSpace with
      | ',' :: more => readItems n (v :: items) more
      | ']' :: more => some (.list (v :: items).reverse, more)
      | _ => none

def readFields : Nat → List (Value × Value) → List Char → Option (Value × List Char)
  | 0, _, _ => none
  | n + 1, entries, cs =>
    match cs.dropWhile isSpace with
    | '"' :: rest =>
      match readString rest with
      | none => none
      | some (key, more) =>
        match more.dropWhile isSpace with
        | ':' :: value =>
          match readValue n value with
          | none => none
          | some (v, tail) =>
            match tail.dropWhile isSpace with
            | ',' :: next => readFields n ((.str key, v) :: entries) next
            | '\x7d' :: next => some (.map ((.str key, v) :: entries).reverse, next)
            | _ => none
        | _ => none
    | _ => none

end

def read? (s : String) : Option Value :=
  let cs := s.toList
  match readValue (cs.length + 1) cs with
  | some (v, rest) => if rest.all isSpace then some v else none
  | none => none

end SloCompiler.Json
