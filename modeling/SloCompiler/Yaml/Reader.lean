import SloCompiler.Yaml.Content

namespace SloCompiler.Yaml

def valueAt (values : Array Value) (id : NodeId) : Value := (values[id]?).getD (.map [])

def Content.value (values : Array Value) : Content → Value
  | .scalar v => v
  | .list items => .list (items.map (valueAt values))
  | .pairs entries =>
    .list (entries.map fun (k, v) => .list [valueAt values k, valueAt values v])
  | .map entries => .map (entries.map fun (k, id) => (k, valueAt values id))
  | .set keys => .set keys

def Content.references : Content → List NodeId
  | .scalar _ | .set _ => []
  | .list items => items
  | .pairs entries => entries.flatMap fun (k, v) => [k, v]
  | .map entries => entries.map (·.2)

def valuesPass (contents : Array (Option Content)) (order : List NodeId) (values : Array Value) :
    Array Value :=
  order.foldl (fun vs id =>
    match (contents[id]?).join with
    | some content => vs.setIfInBounds id (content.value vs)
    | none => vs) values

def refersAhead (contents : Array (Option Content)) (size : Nat) (order : List NodeId) : Bool :=
  let (_, ahead) := order.foldl (fun (complete, ahead) id =>
    let references := match (contents[id]?).join with
      | some content => content.references
      | none => []
    (complete.setIfInBounds id true,
      ahead || references.any fun r => !(complete[r]?).getD true))
    (Array.replicate size false, false)
  ahead

-- Values that hold themselves are unrolled to this depth, below which no definition goes.
def unrolledDepth : Nat := 8

def Document.value (d : Document) : Reading Value := do
  let contents ← d.contents
  let size := d.graph.size
  let passes := if refersAhead contents size d.complete then unrolledDepth else 1
  let values := passes.fold (fun _ _ vs => valuesPass contents d.complete vs)
    (Array.replicate size (.map []))
  return valueAt values d.root

def read (s : String) : Reading Value := do
  match ← Document.ofTokens? (← Token.ofText s) with
  | some d => d.value
  | none => return .null

end SloCompiler.Yaml
