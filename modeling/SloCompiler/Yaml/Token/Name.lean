import SloCompiler.Number.Reading
import SloCompiler.Yaml.Cursor
import SloCompiler.Yaml.Failure
import SloCompiler.Yaml.Token

namespace SloCompiler.Yaml.Token

def malformed : Reading α := .error .malformed

def require (condition : Bool) : Reading Unit := if condition then .ok () else malformed

def endsName (c : Char) : Bool :=
  isTokenEnd c || ['?', ':', ',', ']', '\x7d', '%', '@', '\x60'].contains c

def readName (c : Cursor) : Reading (String × Cursor) := do
  let (name, after) := c.next.span isWordChar
  require (!name.isEmpty && endsName after.peek)
  return (String.ofList name, after)

def uriMarks : List Char := "-;/?:@&=+$,_.!~*'()[]%".toList

def hexValue (cs : List Char) : Nat :=
  cs.foldl (fun n c => 16 * n + (if c.isDigit then c.toNat - 48 else c.toLower.toNat - 87)) 0

-- A run of escaped octets has to be the encoding of a text.
def readEscapes (octets : List UInt8) : Nat → Cursor → Reading (List Char × Cursor)
  | 0, _ => malformed
  | n + 1, c =>
    if c.peek == '%' then do
      let digits := [c.peekAt 1, c.peekAt 2]
      require (digits.all isHexDigit)
      readEscapes (UInt8.ofNat (hexValue digits) :: octets) n (c.forward 3)
    else
      match String.fromUTF8? ⟨octets.reverse.toArray⟩ with
      | some s => .ok (s.toList, c)
      | none => malformed

def readUriFrom (done : List Char) : Nat → Cursor → Reading (List Char × Cursor)
  | 0, _ => malformed
  | n + 1, c =>
    if c.peek == '%' then do
      let (cs, after) ← readEscapes [] (c.rest.length + 1) c
      readUriFrom (done ++ cs) n after
    else if c.peek.isAlphanum || uriMarks.contains c.peek then
      readUriFrom (done ++ [c.peek]) n c.next
    else .ok (done, c)

def readUri (c : Cursor) : Reading (String × Cursor) := do
  require (c.peek.isAlphanum || uriMarks.contains c.peek)
  let (cs, after) ← readUriFrom [] (c.rest.length + 1) c
  return (String.ofList cs, after)

def readHandle (c : Cursor) : Reading (String × Cursor) := do
  require (c.peek == '!')
  if c.peekAt 1 == ' ' then return ("!", c.next)
  else
    let (word, after) := c.next.span isWordChar
    require (after.peek == '!')
    return ("!" ++ String.ofList word ++ "!", after.next)

def usesHandle (c : Cursor) : Bool := (c.next.rest.takeWhile (!isSpaceOrEnd ·)).contains '!'

def readTag (c : Cursor) : Reading (Token × Cursor) := do
  let (token, after) ←
    if c.peekAt 1 == '<' then do
      let (suffix, after) ← readUri (c.forward 2)
      require (after.peek == '>')
      pure (Token.tag none suffix, after.next)
    else if isTokenEnd (c.peekAt 1) then pure (Token.tag none "!", c.next)
    else do
      let (handle, after) ← if usesHandle c then readHandle c else pure ("!", c.next)
      let (suffix, after) ← readUri after
      pure (Token.tag (some handle) suffix, after)
  require (isSpaceOrEnd after.peek)
  return (token, after)

def readNumber (c : Cursor) : Reading (Nat × Cursor) := do
  let (digits, after) := c.span Char.isDigit
  require !digits.isEmpty
  if digits.length > 4300 then .error (.fault (.refused (.tooManyDigits digits.length)))
  else return (Binary64.natOfDigits digits, after)

def readVersion (c : Cursor) : Reading (Token × Cursor) := do
  let (major, after) ← readNumber c.skipSpaces
  require (after.peek == '.')
  let (minor, after) ← readNumber after.next
  require (isSpaceOrEnd after.peek)
  return (.versionDirective major minor, after)

def readTagDirective (c : Cursor) : Reading (Token × Cursor) := do
  let (handle, after) ← readHandle c.skipSpaces
  require (after.peek == ' ')
  let (prefixText, after) ← readUri after.skipSpaces
  require (isSpaceOrEnd after.peek)
  return (.tagDirective handle prefixText, after)

def restOfLine (c : Cursor) : Reading Cursor := do
  let after := c.skipSpaces.skipComment
  require (isLineEnd after.peek)
  return after.skipBreak

def readDirective (c : Cursor) : Reading (Token × Cursor) := do
  let (name, after) := c.next.span isWordChar
  require (!name.isEmpty && isSpaceOrEnd after.peek)
  let (token, after) ←
    match String.ofList name with
    | "YAML" => readVersion after
    | "TAG" => readTagDirective after
    | _ => pure (.otherDirective, after.skip (!isLineEnd ·))
  return (token, ← restOfLine after)

end SloCompiler.Yaml.Token
