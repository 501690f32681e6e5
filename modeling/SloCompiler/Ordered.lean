namespace SloCompiler.Ordered

variable {κ α : Type} [BEq κ]

-- Tables of entries in the order in which their keys first came. A later value takes the place
-- of an earlier one.
def put (key : κ) (value : α) : List (κ × α) → List (κ × α)
  | [] => [(key, value)]
  | (k, v) :: rest => if k == key then (k, value) :: rest else (k, v) :: put key value rest

def putAll (table pairs : List (κ × α)) : List (κ × α) :=
  pairs.foldl (fun t (k, v) => put k v t) table

def ofPairs (pairs : List (κ × α)) : List (κ × α) := putAll [] pairs

def get? (table : List (κ × α)) (key : κ) : Option α := table.lookup key

def keys (table : List (κ × α)) : List κ := table.map (·.1)

def append (key : κ) (items : List α) : List (κ × List α) → List (κ × List α)
  | [] => [(key, items)]
  | (k, group) :: rest =>
    if k == key then (k, group ++ items) :: rest else (k, group) :: append key items rest

def insertSorted (le : α → α → Bool) (x : α) : List α → List α
  | [] => [x]
  | y :: rest => if le x y then x :: y :: rest else y :: insertSorted le x rest

-- Items in order; those that count as equal keep theirs. By structure, so that it can be computed
-- in proofs.
def sort (le : α → α → Bool) (xs : List α) : List α := xs.foldr (insertSorted le) []

def flatten (groups : List (κ × List α)) : List α := groups.flatMap (·.2)

end SloCompiler.Ordered
