import SloCompiler.Yaml.Token.Quoted

namespace SloCompiler.Yaml.Token

inductive Chomping where
  | strip
  | clip
  | keep
  deriving DecidableEq, Repr

structure BlockHeader where
  chomping : Chomping := .clip
  increment : Option Nat := none

def chompingOf? : Char → Option Chomping
  | '+' => some .keep
  | '-' => some .strip
  | _ => none

def incrementOf (c : Cursor) : Reading (Option Nat × Cursor) :=
  if c.peek == '0' then malformed
  else if c.peek.isDigit then .ok (some (c.peek.toNat - 48), c.next)
  else .ok (none, c)

def readHeader (c : Cursor) : Reading (BlockHeader × Cursor) := do
  let (header, after) ←
    match chompingOf? c.peek with
    | some chomping => do
      let (increment, after) ← incrementOf c.next
      pure (BlockHeader.mk chomping increment, after)
    | none => do
      let (increment, after) ← incrementOf c
      match increment, chompingOf? after.peek with
      | some _, some chomping => pure (BlockHeader.mk chomping increment, after.next)
      | _, _ => pure (BlockHeader.mk .clip increment, after)
  require (isSpaceOrEnd after.peek)
  return (header, ← restOfLine after)

def leadingLines (breaks : List Char) (widest : Nat) : Nat → Cursor → List Char × Nat × Cursor
  | 0, c => (breaks, widest, c)
  | n + 1, c =>
    if c.peek == ' ' then leadingLines breaks (max widest c.next.column) n c.next
    else
      match c.lineBreak? with
      | some (b, after) => leadingLines (breaks ++ [b]) widest n after
      | none => (breaks, widest, c)

def skipIndent (indent : Nat) : Nat → Cursor → Cursor
  | 0, c => c
  | n + 1, c => if c.column < indent && c.peek == ' ' then skipIndent indent n c.next else c

def blockBreaks (indent : Nat) (breaks : List Char) : Nat → Cursor → List Char × Cursor
  | 0, c => (breaks, c)
  | n + 1, c =>
    let start := skipIndent indent (c.rest.length + 1) c
    match start.lineBreak? with
    | some (b, after) => blockBreaks indent (breaks ++ [b]) n after
    | none => (breaks, start)

def isInBlock (indent : Nat) (c : Cursor) : Bool := c.column == indent && c.peek != endMark

-- Between lines that start with a character a single line feed reads as a space when folded.
def blockJoint (isFolded leadsText nextLeadsText : Bool) (b : Option Char)
    (breaks : List Char) : List Char :=
  if isFolded && b == some '\n' && leadsText && nextLeadsText then
    if breaks.isEmpty then [' '] else []
  else b.toList

def blockLines (isFolded : Bool) (indent : Nat) (done breaks : List Char) :
    Nat → Cursor → List Char × Option Char × List Char × Cursor
  | 0, c => (done, none, breaks, c)
  | n + 1, c =>
    if !isInBlock indent c then (done, none, breaks, c)
    else
      let (line, atEnd) := c.span (!isLineEnd ·)
      let (b, next) := match atEnd.lineBreak? with
        | some (b, next) => (some b, next)
        | none => (none, atEnd)
      let (more, start) := blockBreaks indent [] (next.rest.length + 1) next
      let text := done ++ breaks ++ line
      if isInBlock indent start then
        let joint := blockJoint isFolded (!isGap c.peek) (!isGap start.peek) b more
        blockLines isFolded indent (text ++ joint) more n start
      else (text, b, more, start)

def chomp (chomping : Chomping) (b : Option Char) (breaks : List Char) : List Char :=
  match chomping with
  | .strip => []
  | .clip => b.toList
  | .keep => b.toList ++ breaks

def readBlock (least : Nat) (c : Cursor) : Reading (Token × Cursor) := do
  let (header, start) ← readHeader c.next
  let fuel := start.rest.length + 1
  let (indent, breaks, first) :=
    match header.increment with
    | some n =>
      let indent := least + n - 1
      let (breaks, first) := blockBreaks indent [] fuel start
      (indent, breaks, first)
    | none =>
      let (breaks, widest, first) := leadingLines [] 0 fuel start
      (max least widest, breaks, first)
  let (text, b, tail, after) := blockLines (c.peek == '>') indent [] breaks fuel first
  let text := text ++ chomp header.chomping b tail
  return (.scalar (.text (String.ofList text)) false, after)

end SloCompiler.Yaml.Token
