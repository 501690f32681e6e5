import SloCompiler.Yaml.Token.Block
import SloCompiler.Yaml.Token.Plain

namespace SloCompiler.Yaml.Token

-- A token that turns out to be a key if a colon follows: where it stands among the tokens and in
-- the text. One at the indentation of its block has to be a key.
structure KeyCandidate where
  level : Nat
  position : Nat
  isRequired : Bool
  index : Nat
  line : Nat
  column : Nat

-- The tokens so far and what the next one depends on: the place, the nesting of flow collections,
-- the columns of the open blocks, innermost first, and what could still become a key.
structure Lexer where
  cursor : Cursor
  tokens : Array Token := #[]
  flowLevel : Nat := 0
  blocks : List Nat := []
  keyAllowed : Bool := true
  candidates : List KeyCandidate := []

namespace Lexer

def inFlow (l : Lexer) : Bool := l.flowLevel != 0

def push (l : Lexer) (t : Token) : Lexer := { l with tokens := l.tokens.push t }

def allowKey (l : Lexer) (allowed : Bool) : Lexer := { l with keyAllowed := allowed }

def advance (l : Lexer) (n : Nat) : Lexer := { l with cursor := l.cursor.forward n }

def candidate? (l : Lexer) : Option KeyCandidate :=
  l.candidates.find? (·.level == l.flowLevel)

def withoutCandidate (l : Lexer) : Lexer :=
  { l with candidates := l.candidates.filter (·.level != l.flowLevel) }

def dropCandidate (l : Lexer) : Reading Lexer :=
  if l.candidate?.any (·.isRequired) then malformed else .ok l.withoutCandidate

def saveCandidate (l : Lexer) : Reading Lexer :=
  if !l.keyAllowed then .ok l
  else do
    let c := l.cursor
    let isRequired := !l.inFlow && l.blocks.head? == some c.column
    let l ← l.dropCandidate
    let k := ⟨l.flowLevel, l.tokens.size, isRequired, c.index, c.line, c.column⟩
    return { l with candidates := k :: l.candidates }

def maxKeyLength : Nat := 1024

def isStale (c : Cursor) (k : KeyCandidate) : Bool :=
  k.line != c.line || k.index + maxKeyLength < c.index

-- A key stands on one line with its colon and is not too long.
def dropStale (l : Lexer) : Reading Lexer :=
  if (l.candidates.filter (isStale l.cursor)).any (·.isRequired) then malformed
  else .ok { l with candidates := l.candidates.filter (!isStale l.cursor ·) }

def unwindTo (column : Nat) (l : Lexer) : Lexer :=
  if l.inFlow then l
  else
    let ended := (l.blocks.takeWhile (column < ·)).length
    { l with
      tokens := l.tokens ++ Array.replicate ended Token.blockEnd
      blocks := l.blocks.drop ended }

def unwindAll (l : Lexer) : Lexer :=
  if l.inFlow then l
  else { l with
    tokens := l.tokens ++ Array.replicate l.blocks.length Token.blockEnd
    blocks := [] }

def beginsBlock (l : Lexer) (column : Nat) : Bool :=
  match l.blocks with
  | [] => true
  | b :: _ => b < column

def openBlock (l : Lexer) (column position : Nat) (t : Token) : Lexer :=
  if !l.inFlow && l.beginsBlock column then
    { l with blocks := column :: l.blocks, tokens := l.tokens.insertIdxIfInBounds position t }
  else l

def openBlockHere (l : Lexer) (t : Token) : Lexer := l.openBlock l.cursor.column l.tokens.size t

def skipToToken : Nat → Lexer → Lexer
  | 0, l => l
  | n + 1, l =>
    let c := l.cursor.skipSpaces.skipComment
    if isBreak c.peek then
      skipToToken n { l with cursor := c.next, keyAllowed := l.keyAllowed || !l.inFlow }
    else { l with cursor := c }

def atMargin (l : Lexer) : Reading Lexer := do
  return (← l.unwindAll.dropCandidate).allowKey false

def documentMarker (t : Token) (l : Lexer) : Reading Lexer := do
  return ((← l.atMargin).push t).advance 3

def directive (l : Lexer) : Reading Lexer := do
  let l ← l.atMargin
  let (t, after) ← readDirective l.cursor
  return { l.push t with cursor := after }

def openFlow (t : Token) (l : Lexer) : Reading Lexer := do
  let l ← l.saveCandidate
  return (({ l with flowLevel := l.flowLevel + 1 }.allowKey true).push t).advance 1

def closeFlow (t : Token) (l : Lexer) : Reading Lexer := do
  let l ← l.dropCandidate
  return (({ l with flowLevel := l.flowLevel - 1 }.allowKey false).push t).advance 1

def flowEntry (l : Lexer) : Reading Lexer := do
  return (((← l.dropCandidate).allowKey true).push .flowEntry).advance 1

def blockEntry (l : Lexer) : Reading Lexer := do
  require (l.inFlow || l.keyAllowed)
  let l := l.openBlockHere .blockSequenceStart
  return (((← l.dropCandidate).allowKey true).push .blockEntry).advance 1

def explicitKey (l : Lexer) : Reading Lexer := do
  require (l.inFlow || l.keyAllowed)
  let l := l.openBlockHere .blockMappingStart
  return (((← l.dropCandidate).allowKey !l.inFlow).push .key).advance 1

-- A colon makes a key of the candidate, which may begin a mapping; without one the key has been
-- marked, or is missing.
def value (l : Lexer) : Reading Lexer := do
  match l.candidate? with
  | some k =>
    let l := l.withoutCandidate
    let l := { l with tokens := l.tokens.insertIdxIfInBounds k.position .key }
    let l := l.openBlock k.column k.position .blockMappingStart
    return ((l.allowKey false).push .value).advance 1
  | none =>
    require (l.inFlow || l.keyAllowed)
    let l := l.openBlockHere .blockMappingStart
    return (((← l.dropCandidate).allowKey !l.inFlow).push .value).advance 1

def node (read : Cursor → Reading (Token × Cursor)) (l : Lexer) : Reading Lexer := do
  let l ← l.saveCandidate
  let (t, after) ← read l.cursor
  return { (l.allowKey false).push t with cursor := after }

def plain (l : Lexer) : Reading Lexer := do
  let l ← l.saveCandidate
  let indent := match l.blocks with
    | [] => 0
    | b :: _ => b + 1
  let (t, after, later) := readPlain l.inFlow indent l.cursor
  return { (l.allowKey later).push t with cursor := after }

def block (l : Lexer) : Reading Lexer := do
  let l ← (l.allowKey true).dropCandidate
  let least := match l.blocks with
    | [] => 1
    | b :: _ => b + 1
  let (t, after) ← readBlock least l.cursor
  return { l.push t with cursor := after }

def indicators : List Char := "-?:,[]\x7b\x7d#&*!|>'\"%@\x60".toList

def beginsPlain (l : Lexer) : Bool :=
  let x := l.cursor.peek
  !(isTokenEnd x || indicators.contains x) ||
    (!isTokenEnd (l.cursor.peekAt 1) && (x == '-' || (!l.inFlow && (x == '?' || x == ':'))))

def named (make : String → Token) (c : Cursor) : Reading (Token × Cursor) :=
  (readName c).map fun (name, after) => (make name, after)

def step (l : Lexer) : Reading Lexer :=
  let c := l.cursor
  let x := c.peek
  let alone := l.inFlow || isTokenEnd (c.peekAt 1)
  if x == '%' && c.column == 0 then l.directive
  else if c.column == 0 && c.isMarker '-' then l.documentMarker .documentStart
  else if c.column == 0 && c.isMarker '.' then l.documentMarker .documentEnd
  else if x == '[' then l.openFlow .flowSequenceStart
  else if x == '\x7b' then l.openFlow .flowMappingStart
  else if x == ']' then l.closeFlow .flowSequenceEnd
  else if x == '\x7d' then l.closeFlow .flowMappingEnd
  else if x == ',' then l.flowEntry
  else if x == '-' && isTokenEnd (c.peekAt 1) then l.blockEntry
  else if x == '?' && alone then l.explicitKey
  else if x == ':' && alone then l.value
  else if x == '*' then l.node (named .alias)
  else if x == '&' then l.node (named .anchor)
  else if x == '!' then l.node readTag
  else if (x == '|' || x == '>') && !l.inFlow then l.block
  else if x == '\x27' || x == '"' then l.node readQuoted
  else if l.beginsPlain then l.plain
  else malformed

def run : Nat → Lexer → Reading (Array Token)
  | 0, _ => malformed
  | n + 1, l => do
    let l ← (skipToToken (l.cursor.rest.length + 1) l).dropStale
    let l := l.unwindTo l.cursor.column
    if l.cursor.rest.isEmpty then
      let l ← l.unwindAll.dropCandidate
      return l.tokens.push .streamEnd
    else run n (← l.step)

end Lexer

def ofText (s : String) : Reading (List Token) := do
  let cs := withLineFeeds s.toList
  require (cs.all isAllowed)
  let start : Cursor := { rest := cs }
  let cursor := if start.peek == byteOrderMark then start.next else start
  return (← Lexer.run (cs.length + 1) { cursor }).toList

end SloCompiler.Yaml.Token
