import SloCompiler.Yaml.Tag
import SloCompiler.Yaml.Token.Lexer

namespace SloCompiler.Yaml

-- Nodes refer to each other by number, since an alias can stand wherever a node can, also inside
-- the node that it names.
abbrev NodeId := Nat

inductive Body where
  | scalar (content : ScalarText)
  | seq (items : List NodeId)
  | map (entries : List (NodeId × NodeId))
  deriving DecidableEq, Repr

structure Node where
  tag : Tag
  body : Body
  deriving DecidableEq, Repr

abbrev Graph := Array Node

structure Composer where
  tokens : List Token
  handles : List (String × String)
  graph : Graph := #[]
  anchors : List (String × NodeId) := []
  complete : List NodeId := []

abbrev Compose := StateT Composer Reading

namespace Compose

def fail : Compose α := throw .malformed

def peek : Compose Token := do return (← get).tokens.headD .streamEnd

def skip : Compose Unit := modify fun c => { c with tokens := c.tokens.drop 1 }

def accept (t : Token) : Compose Bool := do
  if (← peek) == t then
    skip
    return true
  else return false

def expect (t : Token) : Compose Unit := do
  unless ← accept t do fail

def isNext (ts : List Token) : Compose Bool := do return ts.contains (← peek)

def reserve (tag : Tag) (anchor : Option String) : Compose NodeId := do
  let c ← get
  let id := c.graph.size
  let anchors := match anchor with
    | some name => (name, id) :: c.anchors
    | none => c.anchors
  set { c with graph := c.graph.push ⟨tag, .seq []⟩, anchors }
  return id

def finish (id : NodeId) (body : Body) : Compose NodeId := do
  modify fun c => { c with
    graph := c.graph.modify id fun n => { n with body }
    complete := id :: c.complete }
  return id

-- What is said about a node in front of it. The tag `!` leaves the meaning of a scalar to its form.
structure Properties where
  anchor : Option String := none
  tag : Option String := none

def tagText (handle : Option String) (suffix : String) : Compose String := do
  match handle with
  | none => return suffix
  | some h =>
    match (← get).handles.lookup h with
    | some prefixText => return prefixText ++ suffix
    | none => fail

def properties : Compose Properties := do
  match ← peek with
  | .anchor name =>
    skip
    match ← peek with
    | .tag handle suffix =>
      skip
      return ⟨some name, some (← tagText handle suffix)⟩
    | _ => return ⟨some name, none⟩
  | .tag handle suffix =>
    skip
    match ← peek with
    | .anchor name =>
      skip
      return ⟨some name, some (← tagText handle suffix)⟩
    | _ => return ⟨none, some (← tagText handle suffix)⟩
  | _ => return {}

def Properties.isEmpty (p : Properties) : Bool := p.anchor.isNone && p.tag.isNone

def Properties.given? (p : Properties) : Option Tag :=
  match p.tag with
  | none | some "!" => none
  | some text => some (Tag.ofText text)

def formTag : ScalarText → Tag
  | .text s => Tag.ofForm (PlainForm.of s)
  | .octets _ => .str

def require (p : Properties) : Compose Unit := do
  match p.anchor with
  | some name => if ((← get).anchors.lookup name).isSome then fail
  | none => return

def scalar (p : Properties) (content : ScalarText) (isPlain : Bool) : Compose NodeId := do
  let tag := p.given?.getD (if isPlain || p.tag.isSome then formTag content else .str)
  finish (← reserve tag p.anchor) (.scalar content)

def empty : Compose NodeId := scalar {} (.text "") true

def aliased (name : String) : Compose NodeId := do
  match (← get).anchors.lookup name with
  | some id => return id
  | none => fail

-- The contexts of a node: inside a flow collection, in a block, or as key or value of a block
-- mapping, where a sequence need not be indented.
inductive Context where
  | flow
  | block
  | entry
  deriving DecidableEq, Repr

-- The measure bounds the nesting and the number of items alike.
mutual

def node (context : Context) : Nat → Compose NodeId
  | 0 => fail
  | n + 1 => do
    match ← peek with
    | .alias name =>
      skip
      aliased name
    | _ =>
      let p ← properties
      require p
      let collection (tag : Tag) (read : Compose Body) : Compose NodeId := do
        let id ← reserve (p.given?.getD tag) p.anchor
        finish id (← read)
      match ← peek with
      | .scalar content isPlain =>
        skip
        scalar p content isPlain
      | .flowSequenceStart =>
        skip
        collection .seq (return .seq (← flowItems true n))
      | .flowMappingStart =>
        skip
        collection .map (return .map (← flowEntries true n))
      | t =>
        if t == .blockEntry && context == .entry then
          collection .seq (return .seq (← indentlessItems n))
        else if t == .blockSequenceStart && context != .flow then
          skip
          collection .seq (return .seq (← blockItems n))
        else if t == .blockMappingStart && context != .flow then
          skip
          collection .map (return .map (← blockEntries n))
        else if p.isEmpty then fail
        else scalar p (.text "") (p.given?.isNone)

def nodeUnless (ends : List Token) (context : Context) : Nat → Compose NodeId
  | 0 => fail
  | n + 1 => do if ← isNext ends then empty else node context n

def blockItems : Nat → Compose (List NodeId)
  | 0 => fail
  | n + 1 => do
    if ← accept .blockEntry then
      let item ← nodeUnless [.blockEntry, .blockEnd] .block n
      return item :: (← blockItems n)
    else
      expect .blockEnd
      return []

def indentlessItems : Nat → Compose (List NodeId)
  | 0 => fail
  | n + 1 => do
    if ← accept .blockEntry then
      let item ← nodeUnless [.blockEntry, .key, .value, .blockEnd] .block n
      return item :: (← indentlessItems n)
    else return []

def blockEntries : Nat → Compose (List (NodeId × NodeId))
  | 0 => fail
  | n + 1 => do
    let ends := [Token.key, .value, .blockEnd]
    if ← accept .key then
      let key ← nodeUnless ends .entry n
      let value ← if ← accept .value then nodeUnless ends .entry n else empty
      return (key, value) :: (← blockEntries n)
    else
      expect .blockEnd
      return []

def flowItems (first : Bool) : Nat → Compose (List NodeId)
  | 0 => fail
  | n + 1 => do
    if ← accept .flowSequenceEnd then return []
    unless first do expect .flowEntry
    if ← accept .key then
      let id ← reserve .map none
      let ends := [Token.flowEntry, .flowSequenceEnd]
      let key ← nodeUnless (.value :: ends) .flow n
      let value ← if ← accept .value then nodeUnless ends .flow n else empty
      let item ← finish id (.map [(key, value)])
      return item :: (← flowItems false n)
    else if ← accept .flowSequenceEnd then return []
    else
      let item ← node .flow n
      return item :: (← flowItems false n)

def flowEntries (first : Bool) : Nat → Compose (List (NodeId × NodeId))
  | 0 => fail
  | n + 1 => do
    if ← accept .flowMappingEnd then return []
    unless first do expect .flowEntry
    let ends := [Token.flowEntry, .flowMappingEnd]
    if ← accept .key then
      let key ← nodeUnless (.value :: ends) .flow n
      let value ← if ← accept .value then nodeUnless ends .flow n else empty
      return (key, value) :: (← flowEntries false n)
    else if ← accept .flowMappingEnd then return []
    else
      let key ← node .flow n
      let value ← empty
      return (key, value) :: (← flowEntries false n)

end

def defaultHandles : List (String × String) := [("!", "!"), ("!!", Tag.standardPrefix)]

def directives (versioned : Bool) (handles : List (String × String)) :
    List Token → Reading (List (String × String) × List Token)
  | .versionDirective major _ :: rest =>
    if versioned || major != 1 then .error .malformed else directives true handles rest
  | .tagDirective handle prefixText :: rest =>
    if (handles.lookup handle).isSome then .error .malformed
    else directives versioned ((handle, prefixText) :: handles) rest
  | .otherDirective :: rest => directives versioned handles rest
  | tokens => .ok (handles ++ defaultHandles, tokens)

end Compose

structure Document where
  graph : Graph
  root : NodeId
  complete : List NodeId

namespace Document

def fuelFor (count : Nat) : Nat := 4 * count + 4

def content (count : Nat) : Compose NodeId := do
  match ← Compose.peek with
  | .versionDirective _ _ | .tagDirective _ _ | .otherDirective | .documentStart | .documentEnd
  | .streamEnd => Compose.empty
  | _ => Compose.node .block (fuelFor count)

def ends : List Token → Bool
  | .documentEnd :: rest => ends rest
  | [.streamEnd] => true
  | _ => false

def compose (handles : List (String × String)) (tokens : List Token)
    (read : Compose NodeId) : Reading Document := do
  let (root, c) ← read.run { tokens, handles }
  if ends c.tokens then return ⟨c.graph, root, c.complete.reverse⟩ else .error .malformed

def ofTokens? (tokens : List Token) : Reading (Option Document) :=
  match tokens with
  | [.streamEnd] => .ok none
  | .documentStart :: _ | .versionDirective _ _ :: _ | .tagDirective _ _ :: _
  | .otherDirective :: _ => do
    match ← Compose.directives false [] tokens with
    | (handles, .documentStart :: rest) =>
      return some (← compose handles rest (content rest.length))
    | _ => .error .malformed
  | _ => do
    let read := Compose.node .block (fuelFor tokens.length)
    return some (← compose Compose.defaultHandles tokens read)

end Document

end SloCompiler.Yaml
