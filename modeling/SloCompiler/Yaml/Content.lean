import SloCompiler.Yaml.Meaning
import SloCompiler.Yaml.Merge

namespace SloCompiler.Yaml

inductive Content where
  | scalar (v : Value)
  | list (items : List NodeId)
  | pairs (entries : List (NodeId × NodeId))
  | map (entries : List (Value × NodeId))
  | set (keys : List Value)

def isCollection : Tag → Bool
  | .orderedMap | .pairs | .set | .seq | .map => true
  | _ => false

-- Contents are found generation by generation, scalars together with the collection that they are
-- in. The first scalar or collection in this order that cannot be read decides.
structure Builder where
  graph : Graph
  contents : Array (Option Content)
  seen : Array Bool
  next : List NodeId := []
  mergeLimit : Nat

abbrev Build := StateT Builder Reading

namespace Build

def fail : Build α := throw .malformed

def scalarText (g : Graph) : Nat → NodeId → Reading ScalarText
  | 0, _ => .error .malformed
  | n + 1, id =>
    match g.body? id with
    | some (.scalar content) => .ok content
    | some (.map entries) =>
      match entries.find? fun (key, _) => g.tagOf key == .default with
      | some (_, v) => scalarText g n v
      | none => .error .malformed
    | _ => .error .malformed

def scalarOf (g : Graph) (id : NodeId) : Reading Value := do
  let tag := g.tagOf id
  let content ← scalarText g (g.size + 1) id
  match tag, g.body? id with
  | .timestamp, some (.map _) => .error (.fault .mistyped)
  | _, _ => Meaning.ofScalar tag content

def visit (id : NodeId) : Build Unit := do
  let b ← get
  unless (b.seen[id]?).getD true do
    if isCollection (b.graph.tagOf id) then
      set { b with seen := b.seen.setIfInBounds id true, next := id :: b.next }
    else
      let v ← scalarOf b.graph id
      set { b with
        seen := b.seen.setIfInBounds id true
        contents := b.contents.setIfInBounds id (some (.scalar v)) }

-- Only scalars can be keys.
def key (id : NodeId) : Build Value := do
  visit id
  match ((← get).contents[id]?).join with
  | some (.scalar v) => return v
  | _ => fail

def putKey (key : Value) (id : NodeId) : List (Value × NodeId) → List (Value × NodeId)
  | [] => [(key, id)]
  | (k, old) :: rest =>
    if k.sameScalar key then (k, id) :: rest else (k, old) :: putKey key id rest

def table (id : NodeId) : Build (List (Value × NodeId)) := do
  let b ← get
  match b.graph.body? id with
  | some (.map _) =>
    let graph ← b.graph.flatten b.mergeLimit id
    set { b with graph }
    (graph.entriesOf id).foldlM (fun entries (k, v) => do
      let name ← key k
      visit v
      return putKey name v entries) []
  | _ => fail

def items (id : NodeId) : Build (List NodeId) := do
  match (← get).graph.body? id with
  | some (.seq items) => return items
  | _ => fail

def onlyEntry (id : NodeId) : Build (NodeId × NodeId) := do
  match (← get).graph.body? id with
  | some (.map [(k, v)]) =>
    visit k
    visit v
    return (k, v)
  | _ => fail

def collection (id : NodeId) : Build Content := do
  match (← get).graph.tagOf id with
  | .seq =>
    let ids ← items id
    ids.forM visit
    return .list ids
  | .map => return .map (← table id)
  | .set => return .set ((← table id).map (·.1))
  | _ => return .pairs (← (← items id).mapM onlyEntry)

def fill (id : NodeId) : Build Unit := do
  let content ← collection id
  modify fun b => { b with contents := b.contents.setIfInBounds id (some content) }

-- Every node is put off at most once.
def generations : Nat → Build Unit
  | 0 => return
  | n + 1 => do
    let b ← get
    unless b.next.isEmpty do
      set { b with next := [] }
      b.next.reverse.forM fill
      generations n

end Build

def Document.contents (d : Document) : Reading (Array (Option Content)) := do
  let start : Builder := {
    graph := d.graph
    contents := Array.replicate d.graph.size none
    seen := Array.replicate d.graph.size false
    mergeLimit := d.graph.entryCount + 1 }
  let all : Build Unit := do
    Build.visit d.root
    Build.generations (d.graph.size + 1)
  let (_, b) ← all.run start
  return b.contents

end SloCompiler.Yaml
