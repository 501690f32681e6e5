import SloCompiler.Yaml.Token.Name

namespace SloCompiler.Yaml.Token

-- Quoted scalars. Texts are lists of code points, since an escape can name any.

def points (cs : List Char) : List Nat := cs.map Char.toNat

def letterMeanings : List (Char × Nat) := [
  ('0', 0), ('a', 7), ('b', 8), ('t', 9), ('\t', 9), ('n', 10), ('v', 11), ('f', 12), ('r', 13),
  ('e', 27), (' ', 32), ('"', 34), ('\\', 92), ('/', 47), ('N', 0x85), ('_', 0xa0),
  ('L', 0x2028), ('P', 0x2029)]

def digitCounts : List (Char × Nat) := [('x', 2), ('u', 4), ('U', 8)]

def emptyLines (done : List Char) : Nat → Cursor → Reading (List Char × Cursor)
  | 0, _ => malformed
  | n + 1, c =>
    if c.isDocumentMarker then malformed
    else
      match (c.skip isGap).lineBreak? with
      | some (b, after) => emptyLines (done ++ [b]) n after
      | none => .ok (done, c.skip isGap)

-- A line feed between two lines reads as a space unless empty lines follow it.
def folded (b : Char) (more : List Char) : List Char :=
  if b != '\n' then b :: more else if more.isEmpty then [' '] else more

def readBlanks (c : Cursor) : Reading (List Char × Cursor) :=
  let (blanks, after) := c.span isGap
  match after.lineBreak? with
  | some (b, next) => do
    let (more, rest) ← emptyLines [] (next.rest.length + 1) next
    return (folded b more, rest)
  | none => if after.peek == endMark then malformed else .ok (blanks, after)

def readEscape (c : Cursor) : Reading (List Nat × Cursor) :=
  match letterMeanings.lookup c.peek, digitCounts.lookup c.peek with
  | some point, _ => .ok ([point], c.next)
  | none, some count => do
    let digits := c.next.rest.take count
    require (digits.length == count && digits.all isHexDigit)
    let point := hexValue digits
    if point < 0x110000 then return ([point], c.next.forward count)
    else .error (.fault (.refused .codePoint))
  | none, none =>
    match c.lineBreak? with
    | some (_, after) =>
      (emptyLines [] (after.rest.length + 1) after).map fun (breaks, rest) => (points breaks, rest)
    | none => malformed

def isOrdinary (c : Char) : Bool :=
  !(isTokenEnd c || c == '\x27' || c == '"' || c == '\\')

def readQuotedFrom (isDouble : Bool) (done : List Nat) :
    Nat → Cursor → Reading (List Nat × Cursor)
  | 0, _ => malformed
  | n + 1, c =>
    let x := c.peek
    let quote := if isDouble then '"' else '\x27'
    if isOrdinary x then
      let (cs, after) := c.span isOrdinary
      readQuotedFrom isDouble (done ++ points cs) n after
    else if isTokenEnd x then do
      let (cs, after) ← readBlanks c
      readQuotedFrom isDouble (done ++ points cs) n after
    else if !isDouble && x == quote && c.peekAt 1 == quote then
      readQuotedFrom isDouble (done ++ [x.toNat]) n (c.forward 2)
    else if x == quote then .ok (done, c.next)
    else if isDouble && x == '\\' then do
      let (ps, after) ← readEscape c.next
      readQuotedFrom isDouble (done ++ ps) n after
    else readQuotedFrom isDouble (done ++ [x.toNat]) n c.next

def isHalf (point : Nat) : Bool := 0xd800 ≤ point && point ≤ 0xdfff

def halfOctets (point : Nat) : List UInt8 :=
  [0xe0 + point / 4096, 0x80 + point / 64 % 64, 0x80 + point % 64].map UInt8.ofNat

def pointOctets (point : Nat) : List UInt8 :=
  if isHalf point then halfOctets point else (Char.ofNat point).toString.toUTF8.toList

def scalarOf (ps : List Nat) : ScalarText :=
  if ps.any isHalf then .octets (ps.flatMap pointOctets)
  else .text (String.ofList (ps.map Char.ofNat))

def readQuoted (c : Cursor) : Reading (Token × Cursor) := do
  let (ps, after) ← readQuotedFrom (c.peek == '"') [] (c.rest.length + 1) c.next
  return (.scalar (scalarOf ps) false, after)

end SloCompiler.Yaml.Token
