import SloCompiler.Yaml.Graph

namespace SloCompiler.Yaml.Graph

-- Merge entries: a mapping takes over the entries of the mappings that it names there. They come
-- first, so its own entries prevail.

def body? (g : Graph) (id : NodeId) : Option Body :=
  match g[id]? with
  | some n => some n.body
  | none => none

def entriesOf (g : Graph) (id : NodeId) : List (NodeId × NodeId) :=
  match g.body? id with
  | some (.map entries) => entries
  | _ => []

def setEntries (g : Graph) (id : NodeId) (entries : List (NodeId × NodeId)) : Graph :=
  g.modify id fun n => { n with body := .map entries }

def tagOf (g : Graph) (id : NodeId) : Tag :=
  match g[id]? with
  | some n => n.tag
  | none => .unknown

def setTag (g : Graph) (id : NodeId) (tag : Tag) : Graph := g.modify id fun n => { n with tag }

def takeFrom (flatten : NodeId → Graph → Reading Graph) (id : NodeId) (g : Graph) :
    Reading (List (NodeId × NodeId) × Graph) := do
  match g.body? id with
  | some (.map _) =>
    let g ← flatten id g
    return (g.entriesOf id, g)
  | _ => .error .malformed

def takeFromAll (flatten : NodeId → Graph → Reading Graph) (ids : List NodeId) (g : Graph) :
    Reading (List (NodeId × NodeId) × Graph) :=
  ids.foldlM (fun (taken, g) id => do
    let (entries, g) ← takeFrom flatten id g
    return (entries ++ taken, g)) ([], g)

def takeNamed (flatten : NodeId → Graph → Reading Graph) (id : NodeId) (g : Graph) :
    Reading (List (NodeId × NodeId) × Graph) :=
  match g.body? id with
  | some (.seq ids) => takeFromAll flatten ids g
  | _ => takeFrom flatten id g

-- A merge entry goes before what it names is looked at, so a mapping can name itself. A default
-- as a key is a text.
def flattenEntry (flatten : NodeId → Graph → Reading Graph) (id : NodeId)
    (state : List (NodeId × NodeId) × Graph) (entry : NodeId × NodeId) :
    Reading (List (NodeId × NodeId) × Graph) := do
  let (merged, g) := state
  match g.tagOf entry.1 with
  | .merge =>
    if (g.entriesOf id).contains entry then
      let g := g.setEntries id ((g.entriesOf id).erase entry)
      let (taken, g) ← takeNamed flatten entry.2 g
      return (merged ++ taken, g)
    else return (merged, g)
  | .default => return (merged, g.setTag entry.1 .str)
  | _ => return (merged, g)

-- Each step down uses up a merge entry.
def flatten : Nat → NodeId → Graph → Reading Graph
  | 0, _, _ => .error .malformed
  | n + 1, id, g => do
    let (merged, g) ← (g.entriesOf id).foldlM (flattenEntry (flatten n) id) ([], g)
    return g.setEntries id (merged ++ g.entriesOf id)

def entryCount (g : Graph) : Nat :=
  g.foldl (fun n node => match node.body with
    | .map entries => n + entries.length
    | _ => n) 0

end SloCompiler.Yaml.Graph
