import SloCompiler.Yaml.Token.Quoted

namespace SloCompiler.Yaml.Token

def flowMarks : List Char := [',', '[', ']', '\x7b', '\x7d']

def stopsPlain (inFlow : Bool) (c : Cursor) : Bool :=
  isTokenEnd c.peek ||
    (c.peek == ':' &&
      (isTokenEnd (c.peekAt 1) || (inFlow && flowMarks.contains (c.peekAt 1)))) ||
    (inFlow && (c.peek == '?' || flowMarks.contains c.peek))

def readPiece (inFlow : Bool) (done : List Char) : Nat → Cursor → List Char × Cursor
  | 0, c => (done.reverse, c)
  | n + 1, c =>
    if stopsPlain inFlow c then (done.reverse, c)
    else readPiece inFlow (c.peek :: done) n c.next

def plainLines (done : List Char) : Nat → Cursor → Option (List Char) × Cursor
  | 0, c => (none, c)
  | n + 1, c =>
    if c.peek == ' ' then plainLines done n c.skipSpaces
    else
      match c.lineBreak? with
      | none => (some done, c)
      | some (b, after) =>
        if after.isDocumentMarker then (none, after) else plainLines (done ++ [b]) n after

def plainGap (c : Cursor) : List Char × Cursor :=
  let (spaces, after) := c.span (· == ' ')
  match after.lineBreak? with
  | none => (spaces, after)
  | some (b, next) =>
    if next.isDocumentMarker then ([], next)
    else
      match plainLines [] (next.rest.length + 1) next with
      | (some more, rest) => (folded b more, rest)
      | (none, rest) => ([], rest)

-- The text, the place behind it, and whether that is on a later line than the last piece. Outside
-- flow collections a scalar has to stay to the right of the block that it is in.
def readPlainFrom (inFlow : Bool) (indent : Nat) (done gap : List Char) (broken : Bool) :
    Nat → Cursor → List Char × Cursor × Bool
  | 0, c => (done, c, broken)
  | n + 1, c =>
    if c.peek == '#' || stopsPlain inFlow c then (done, c, broken)
    else
      let (piece, after) := readPiece inFlow [] (c.rest.length + 1) c
      let (next, rest) := plainGap after
      let text := done ++ gap ++ piece
      let later := after.line < rest.line
      if next.isEmpty || rest.peek == '#' || (!inFlow && rest.column < indent) then
        (text, rest, later)
      else readPlainFrom inFlow indent text next later n rest

def readPlain (inFlow : Bool) (indent : Nat) (c : Cursor) : Token × Cursor × Bool :=
  let (text, after, later) := readPlainFrom inFlow indent [] [] false (c.rest.length + 1) c
  (.scalar (.text (String.ofList text)) true, after, later)

end SloCompiler.Yaml.Token
