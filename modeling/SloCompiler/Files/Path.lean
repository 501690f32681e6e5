import SloCompiler.Text.Pieces

namespace SloCompiler

-- Where a path starts. Exactly two slashes at the front are kept apart from one.
inductive PathRoot where
  | here
  | root
  | doubleRoot
  deriving DecidableEq, Repr

def PathRoot.text : PathRoot → String
  | .here => ""
  | .root => "/"
  | .doubleRoot => "//"

structure Path where
  root : PathRoot
  names : List String
  deriving DecidableEq, Repr

namespace Path

def rootOf (cs : List Char) : PathRoot :=
  match (cs.takeWhile (· == '/')).length with
  | 0 => .here
  | 2 => .doubleRoot
  | _ => .root

def ofText (s : String) : Path where
  root := rootOf s.toList
  names := ((Text.pieces (· == '/') s.toList).map String.ofList).filter fun name =>
    name != "" && name != "."

def text (p : Path) : String :=
  let written := p.root.text ++ "/".intercalate p.names
  if written.isEmpty then "." else written

-- A path from the root replaces what stands before it.
def join (p : Path) (s : String) : Path :=
  let q := ofText s
  if q.root = .here then { p with names := p.names ++ q.names } else q

instance : HDiv Path String Path := ⟨join⟩

def parent (p : Path) : Path := { p with names := p.names.dropLast }

theorem parent_names_lt {p : Path} (h : ¬p.names = []) :
    p.parent.names.length < p.names.length := by
  have := List.length_pos_iff.mpr h
  simp only [parent, List.length_dropLast]
  omega

def hasNull (p : Path) : Bool := p.names.any fun name => name.toList.contains '\x00'

end Path

end SloCompiler
