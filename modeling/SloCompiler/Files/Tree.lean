import SloCompiler.Fault
import SloCompiler.Files.Path
import SloCompiler.Ordered

namespace SloCompiler

abbrev Location := List String

inductive FileEntry where
  | file (text : String)
  | folder
  deriving DecidableEq, Repr

inductive FileChange where
  | make
  | write
  | remove
  deriving DecidableEq, Repr

-- What is where, and what the system allows. Paths that do not start at the root start at home.
structure FileTree where
  home : Location
  entries : List (Location × FileEntry)
  -- Changes that are not permitted or that there is no room for.
  refuses : FileChange → Location → Bool := fun _ _ => false
  -- A removal comes so many levels down into a folder until the stack is used up.
  reach : Nat := usualDepth

-- An operation may change the tree and fail all the same.
structure FileOutcome where
  tree : FileTree
  fault : Option Fault := none

def FileOutcome.andThen (done : FileOutcome) (next : FileTree → FileOutcome) : FileOutcome :=
  if done.fault.isSome then done else next done.tree

namespace FileTree

def empty : FileTree where
  home := ["work"]
  entries := [([], .folder), (["work"], .folder)]

def entry? (t : FileTree) (l : Location) : Option FileEntry := Ordered.get? t.entries l

def put (t : FileTree) (l : Location) (e : FileEntry) : FileTree :=
  { t with entries := Ordered.put l e t.entries }

def erase (t : FileTree) (l : Location) : FileTree :=
  { t with entries := t.entries.filter fun (k, _) => k != l }

def inTurn {α : Type} (operate : FileTree → α → FileOutcome) (t : FileTree) : List α → FileOutcome
  | [] => ⟨t, none⟩
  | x :: rest => (operate t x).andThen fun t => t.inTurn operate rest

def listing (t : FileTree) (l : Location) : List Location :=
  (Ordered.keys t.entries).filter fun k => k != [] && k.dropLast == l

def nameLimit : Nat := 255
def pathLimit : Nat := 4096

def descend (t : FileTree) (l : Location) (name : String) : Except FileFault Location :=
  match t.entry? l with
  | none => .error .notFound
  | some (.file _) => .error .notDirectory
  | some .folder =>
    if name == ".." then .ok l.dropLast
    else if name.utf8ByteSize > nameLimit then .error .system
    else .ok (l ++ [name])

def locate (t : FileTree) (p : Path) : Except FileFault Location :=
  if p.text.utf8ByteSize ≥ pathLimit then .error .system
  else p.names.foldlM t.descend (if p.root = .here then t.home else [])

def find (t : FileTree) (p : Path) : Except FileFault (Location × FileEntry) := do
  let l ← t.locate p
  match t.entry? l with
  | some e => return (l, e)
  | none => .error .notFound

def read (t : FileTree) (p : Path) : Except Fault String :=
  if p.hasNull then .error (.refused (.nullInPath false))
  else
    match t.find p with
    | .ok (_, .file s) => .ok s
    | .ok (_, .folder) => .error (.file .isDirectory)
    | .error cause => .error (.file cause)

-- Whether a test holds of what is at a path; nothing is there if the way is blocked.
def test (t : FileTree) (p : Path) (holds : FileEntry → Bool) : Except Fault Bool :=
  if p.hasNull then .ok false
  else
    match t.find p with
    | .ok (_, e) => .ok (holds e)
    | .error .system => .error (.file .system)
    | .error _ => .ok false

def isPresent (t : FileTree) (p : Path) : Except Fault Bool := t.test p fun _ => true

def isFolder (t : FileTree) (p : Path) : Except Fault Bool := t.test p (· == .folder)

def unlink (t : FileTree) (l : Location) : FileOutcome :=
  if t.refuses .remove l then ⟨t, some (.file .system)⟩ else ⟨t.erase l, none⟩

def removeOne (within : FileTree → Location → FileOutcome) (t : FileTree) (l : Location) :
    FileOutcome :=
  (if t.entry? l = some .folder then within t l else ⟨t, none⟩).andThen fun t => t.unlink l

-- Takes away what lies in a folder, one thing after another. What is gone when this stops half-way
-- stays gone.
def removeWithin : Nat → FileTree → Location → FileOutcome
  | 0, t, l => ⟨t, if (t.listing l).isEmpty then none else some .tooDeep⟩
  | reach + 1, t, l => t.inTurn (removeOne (removeWithin reach)) (t.listing l)

-- A folder cannot be removed through a path that ends in it or above it.
def removeFolder (t : FileTree) (p : Path) : FileOutcome :=
  match t.locate p with
  | .ok l =>
    match p.names.getLast? with
    | none | some ".." => ⟨t, some (.file .system)⟩
    | some _ => t.unlink l
  | .error cause => ⟨t, some (.file cause)⟩

def remove (t : FileTree) (p : Path) : FileOutcome :=
  match t.find p with
  | .ok (l, .folder) => (t.removeWithin t.reach l).andThen fun t => t.removeFolder p
  | .ok (_, .file _) => ⟨t, some (.file .notDirectory)⟩
  | .error cause => ⟨t, some (.file cause)⟩

def createFolder (t : FileTree) (p : Path) : Except Fault FileTree :=
  if p.hasNull then .error (.refused (.nullInPath true))
  else
    match t.locate p with
    | .ok l =>
      if (t.entry? l).isSome then .error (.file .alreadyExists)
      else if t.refuses .make l then .error (.file .system)
      else .ok (t.put l .folder)
    | .error cause => .error (.file cause)

def orPresent (t : FileTree) (p : Path) (cause : FileFault) : FileOutcome :=
  match t.isFolder p with
  | .ok true => ⟨t, none⟩
  | .ok false => ⟨t, some (.file cause)⟩
  | .error fault => ⟨t, some fault⟩

def makeLastFolder (t : FileTree) (p : Path) : FileOutcome :=
  match t.createFolder p with
  | .ok made => ⟨made, none⟩
  | .error (.file .notFound) => ⟨t, some (.file .notFound)⟩
  | .error (.file cause) => t.orPresent p cause
  | .error fault => ⟨t, some fault⟩

def makeFolder (t : FileTree) (p : Path) : FileOutcome :=
  match t.createFolder p with
  | .ok made => ⟨made, none⟩
  | .error (.file .notFound) =>
    if _ : p.names = [] then ⟨t, some (.file .notFound)⟩
    else
      (t.makeFolder p.parent).andThen fun t => t.makeLastFolder p
  | .error (.file cause) => t.orPresent p cause
  | .error fault => ⟨t, some fault⟩
termination_by p.names.length
decreasing_by exact Path.parent_names_lt ‹_›

def write (t : FileTree) (p : Path) (s : String) : FileOutcome :=
  if p.hasNull then ⟨t, some (.refused (.nullInPath false))⟩
  else
    match t.locate p with
    | .ok l =>
      match t.entry? l with
      | some .folder => ⟨t, some (.file .isDirectory)⟩
      | _ =>
        if t.refuses .write l then ⟨t, some (.file .system)⟩ else ⟨t.put l (.file s), none⟩
    | .error cause => ⟨t, some (.file cause)⟩

def place (t : FileTree) (path s : String) : FileTree :=
  let p := Path.ofText path
  ((t.makeFolder p.parent).tree.write p s).tree

def files (t : FileTree) : List (String × String) :=
  let found := t.entries.filterMap fun
    | (l, .file s) =>
      if t.home.isPrefixOf l then some ("/".intercalate (l.drop t.home.length), s) else none
    | (_, .folder) => none
  found.mergeSort fun a b => !(b.1 < a.1)

end FileTree

end SloCompiler
