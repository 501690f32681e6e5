import SloCompiler.Files.Tree
import SloCompiler.Proofs.Ordered
import SloCompiler.Proofs.Outcome

namespace SloCompiler

namespace Path

def follow (l : Location) (name : String) : Location :=
  if name = ".." then l.dropLast else l ++ [name]

def start (p : Path) (home : Location) : Location := if p.root = .here then home else []

def place (p : Path) (home : Location) : Location := p.names.foldl follow (p.start home)

-- The places that a path leads through, its end among them.
def Passes (p : Path) (home l : Location) : Prop :=
  ∃ names, names <+: p.names ∧ names.foldl follow (p.start home) = l

theorem passes_place (p : Path) (home : Location) : p.Passes home (p.place home) :=
  ⟨p.names, List.prefix_refl _, rfl⟩

theorem Passes.of_parent {p : Path} {home l : Location} (passes : p.parent.Passes home l) :
    p.Passes home l := by
  obtain ⟨names, before, same⟩ := passes
  exact ⟨names, before.trans (List.dropLast_prefix _), same⟩

end Path

namespace FileOutcome

variable {done : FileOutcome} {next : FileTree → FileOutcome}

theorem andThen_tree {holds : FileTree → Prop} (first : holds done.tree)
    (second : holds (next done.tree).tree) : holds (done.andThen next).tree := by
  unfold andThen
  split
  · exact first
  · exact second

theorem andThen_done : (done.andThen next).fault = none ↔
    done.fault = none ∧ (next done.tree).fault = none := by
  unfold andThen
  cases failed : done.fault <;> simp [failed]

theorem andThen_assoc {last : FileTree → FileOutcome} :
    (done.andThen next).andThen last = done.andThen fun t => (next t).andThen last := by
  unfold andThen
  by_cases failed : done.fault.isSome = true
  · simp only [if_pos failed]
  · simp only [if_neg failed]

theorem andThen_eq (succeeds : done.fault = none) : done.andThen next = next done.tree := by
  rw [andThen, succeeds]
  rfl

end FileOutcome

namespace FileTree

open FileOutcome

variable {t t' : FileTree} {l m : Location} {p : Path} {name : String} {names : List String}

@[simp] theorem put_home (t : FileTree) (l : Location) (e : FileEntry) :
    (t.put l e).home = t.home := rfl

theorem entry?_put (t : FileTree) (l m : Location) (e : FileEntry) :
    entry? (t.put l e) m = if m = l then some e else t.entry? m := by
  unfold entry? put
  rw [Ordered.get?_put]
  simp only [beq_iff_eq]

theorem entry?_erase (t : FileTree) (l m : Location) :
    entry? (t.erase l) m = if m = l then none else t.entry? m := by
  have filtered := Ordered.get?_filter (fun k : Location => k != l) t.entries m
  by_cases same : m = l
  · simpa [erase, entry?, same] using filtered
  · simpa [erase, entry?, same] using filtered

-- A way from a place on that can be gone to its end: folders all along, and no name too long.
def Open (t : FileTree) : Location → List String → Prop
  | _, [] => True
  | l, name :: rest => t.entry? l = some .folder ∧
      (name = ".." ∨ name.utf8ByteSize ≤ nameLimit) ∧ t.Open (Path.follow l name) rest

theorem descend_ok : t.descend l name = .ok m ↔
    t.entry? l = some .folder ∧ (name = ".." ∨ name.utf8ByteSize ≤ nameLimit) ∧
      Path.follow l name = m := by
  unfold descend Path.follow
  cases found : t.entry? l with
  | none => simp
  | some e =>
    cases e with
    | file s => simp
    | folder =>
      by_cases up : name = ".."
      · simp [up]
      · by_cases long : name.utf8ByteSize ≤ nameLimit
        · simp [up, long, Nat.not_lt.mpr long]
        · simp [up, long, Nat.lt_of_not_le long]

theorem foldlM_descend_ok : names.foldlM t.descend l = .ok m ↔
    t.Open l names ∧ names.foldl Path.follow l = m := by
  induction names generalizing l with
  | nil => simp [Open, pure, Except.pure]
  | cons name names ih =>
    rw [List.foldlM_cons, bind_ok]
    simp only [descend_ok, ih, Open, List.foldl_cons]
    constructor
    · rintro ⟨_, ⟨folder, size, rfl⟩, rest, same⟩
      exact ⟨⟨folder, size, rest⟩, same⟩
    · rintro ⟨⟨folder, size, rest⟩, same⟩
      exact ⟨_, ⟨folder, size, rfl⟩, rest, same⟩

theorem locate_ok : t.locate p = .ok l ↔ p.text.utf8ByteSize < pathLimit ∧
    t.Open (p.start t.home) p.names ∧ p.place t.home = l := by
  unfold locate
  split
  · next long => simp [Nat.not_lt.mpr long]
  · next short =>
    rw [and_iff_right (Nat.lt_of_not_le short)]
    exact foldlM_descend_ok

theorem locate_place (found : t.locate p = .ok l) : l = p.place t.home :=
  (locate_ok.mp found).2.2.symm

theorem find_ok {e : FileEntry} :
    t.find p = .ok (l, e) ↔ t.locate p = .ok l ∧ t.entry? l = some e := by
  unfold find
  rw [bind_ok]
  constructor
  · rintro ⟨m, found, kept⟩
    split at kept
    · next e' present =>
      cases kept
      exact ⟨found, present⟩
    · cases kept
  · rintro ⟨found, present⟩
    exact ⟨l, found, by rw [present]; rfl⟩

theorem read_ok {s : String} : t.read p = .ok s ↔
    p.hasNull = false ∧ ∃ l, t.locate p = .ok l ∧ t.entry? l = some (.file s) := by
  unfold read
  split
  · next null => simp [null]
  · next noNull =>
    rw [and_iff_right (by simpa using noNull)]
    simp only [← find_ok]
    cases found : t.find p with
    | error cause => simp
    | ok there =>
      obtain ⟨l, e⟩ := there
      cases e <;> simp

theorem isPresent_true (seen : t.isPresent p = .ok true) :
    ∃ e, t.find p = .ok (p.place t.home, e) := by
  unfold isPresent test at seen
  split at seen
  · cases seen
  · cases found : t.find p with
    | ok there =>
      obtain ⟨l, e⟩ := there
      rw [← locate_place (find_ok.mp found).1]
      exact ⟨e, rfl⟩
    | error cause =>
      rw [found] at seen
      cases cause <;> cases seen

structure Grows (t t' : FileTree) : Prop where
  home : t'.home = t.home
  folders : ∀ l, t.entry? l = some .folder → t'.entry? l = some .folder

namespace Grows

theorem refl (t : FileTree) : Grows t t := ⟨rfl, fun _ => id⟩

theorem trans {u : FileTree} (first : Grows t t') (second : Grows t' u) : Grows t u :=
  ⟨second.home.trans first.home, fun l folder => second.folders l (first.folders l folder)⟩

theorem way (grows : Grows t t') (way : t.Open l names) : t'.Open l names := by
  induction names generalizing l with
  | nil => trivial
  | cons name names ih => exact ⟨grows.folders l way.1, way.2.1, ih way.2.2⟩

theorem locate (grows : Grows t t') (found : t.locate p = .ok l) : t'.locate p = .ok l := by
  obtain ⟨short, way, same⟩ := locate_ok.mp found
  rw [locate_ok, grows.home]
  exact ⟨short, grows.way way, same⟩

end Grows

structure Changes (places : Location → Prop) (t t' : FileTree) : Prop where
  home : t'.home = t.home
  files : ∀ l, ¬places l → ∀ s, t'.entry? l = some (.file s) ↔ t.entry? l = some (.file s)

namespace Changes

variable {places more : Location → Prop}

theorem refl (places : Location → Prop) (t : FileTree) : Changes places t t :=
  ⟨rfl, fun _ _ _ => Iff.rfl⟩

theorem trans {u : FileTree} (first : Changes places t t') (second : Changes places t' u) :
    Changes places t u :=
  ⟨second.home.trans first.home, fun l elsewhere s =>
    (second.files l elsewhere s).trans (first.files l elsewhere s)⟩

theorem mono (changes : Changes places t t') (wider : ∀ l, places l → more l) :
    Changes more t t' :=
  ⟨changes.home, fun l elsewhere => changes.files l fun within => elsewhere (wider l within)⟩

end Changes

-- The same tree with some further folders, all of them in some places.
structure Furnishes (places : Location → Prop) (t t' : FileTree) : Prop where
  home : t'.home = t.home
  refuses : t'.refuses = t.refuses
  entries : ∀ l, t'.entry? l = t.entry? l ∨
    places l ∧ t.entry? l = none ∧ t'.entry? l = some .folder

namespace Furnishes

variable {places more : Location → Prop}

theorem refl (places : Location → Prop) (t : FileTree) : Furnishes places t t :=
  ⟨rfl, rfl, fun _ => .inl rfl⟩

theorem trans {u : FileTree} (first : Furnishes places t t') (second : Furnishes places t' u) :
    Furnishes places t u := by
  refine ⟨second.home.trans first.home, second.refuses.trans first.refuses, fun l => ?_⟩
  rcases first.entries l with same | ⟨within, absent, folder⟩
  · rw [← same]
    exact second.entries l
  · rcases second.entries l with same | ⟨_, missing, _⟩
    · exact .inr ⟨within, absent, same.trans folder⟩
    · rw [folder] at missing
      cases missing

theorem mono (furnishes : Furnishes places t t') (wider : ∀ l, places l → more l) :
    Furnishes more t t' :=
  ⟨furnishes.home, furnishes.refuses, fun l =>
    (furnishes.entries l).imp_right fun new => ⟨wider l new.1, new.2⟩⟩

theorem absent (furnishes : Furnishes places t t') (missing : t'.entry? l = none) :
    t.entry? l = none := by
  rcases furnishes.entries l with same | ⟨_, absent, _⟩
  · exact same ▸ missing
  · exact absent

theorem grows (furnishes : Furnishes places t t') : Grows t t' := by
  refine ⟨furnishes.home, fun l folder => ?_⟩
  rcases furnishes.entries l with same | ⟨_, absent, _⟩
  · exact same.trans folder
  · rw [folder] at absent
    cases absent

theorem changes (furnishes : Furnishes places t t') (files : Location → Prop) :
    Changes files t t' := by
  refine ⟨furnishes.home, fun l _ s => ?_⟩
  rcases furnishes.entries l with same | ⟨_, absent, folder⟩
  · rw [same]
  · simp [absent, folder]

theorem file_iff (furnishes : Furnishes places t t') {s : String} :
    t'.entry? l = some (.file s) ↔ t.entry? l = some (.file s) :=
  (furnishes.changes fun _ => False).files l id s

end Furnishes

theorem put_furnishes {places : Location → Prop} (within : places l) (absent : t.entry? l = none) :
    Furnishes places t (t.put l .folder) := by
  refine ⟨rfl, rfl, fun m => ?_⟩
  rw [entry?_put]
  split
  · next same => exact .inr ⟨same ▸ within, same ▸ absent, rfl⟩
  · exact .inl rfl

theorem createFolder_ok : t.createFolder p = .ok t' ↔ p.hasNull = false ∧
    ∃ l, t.locate p = .ok l ∧ t.entry? l = none ∧ t.refuses .make l = false ∧
      t.put l .folder = t' := by
  unfold createFolder
  split
  · next null => simp [null]
  · next noNull =>
    rw [and_iff_right (by simpa using noNull)]
    cases found : t.locate p with
    | error cause => simp
    | ok l =>
      cases present : t.entry? l with
      | none => cases refused : t.refuses .make l <;> simp [present, refused]
      | some e => simp [present]

theorem createFolder_furnishes (made : t.createFolder p = .ok t') :
    Furnishes (p.Passes t.home) t t' := by
  obtain ⟨_, l, found, absent, _, rfl⟩ := createFolder_ok.mp made
  exact put_furnishes (locate_place found ▸ p.passes_place t.home) absent

theorem orPresent_tree (t : FileTree) (p : Path) (cause : FileFault) :
    (t.orPresent p cause).tree = t := by
  unfold orPresent
  split <;> rfl

theorem makeLastFolder_furnishes (t : FileTree) (p : Path) :
    Furnishes (p.Passes t.home) t (t.makeLastFolder p).tree := by
  unfold makeLastFolder
  split
  · next made => exact createFolder_furnishes made
  · exact .refl _ t
  · rw [orPresent_tree]
    exact .refl _ t
  · exact .refl _ t

theorem makeFolder_furnishes (t : FileTree) (p : Path) :
    Furnishes (p.Passes t.home) t (t.makeFolder p).tree := by
  fun_induction makeFolder t p with
  | case1 p made created => exact createFolder_furnishes created
  | case2 p _ _ => exact .refl _ t
  | case3 p _ _ ih =>
    have parents := ih.mono fun _ => Path.Passes.of_parent
    refine andThen_tree parents (parents.trans ?_)
    rw [← parents.home]
    exact makeLastFolder_furnishes _ p
  | case4 p => rw [orPresent_tree]; exact .refl _ t
  | case5 p => exact .refl _ t

theorem write_cases (t : FileTree) (p : Path) (s : String) :
    (t.write p s).tree = t ∧ (t.write p s).fault ≠ none ∨
      ∃ l, p.hasNull = false ∧ t.locate p = .ok l ∧ t.entry? l ≠ some .folder ∧
        t.write p s = ⟨t.put l (.file s), none⟩ := by
  unfold write
  split
  · exact .inl ⟨rfl, by simp⟩
  · next noNull =>
    cases found : t.locate p with
    | error cause => exact .inl ⟨rfl, by simp⟩
    | ok l =>
      dsimp only
      split
      · exact .inl ⟨rfl, by simp⟩
      · next other =>
        split
        · exact .inl ⟨rfl, by simp⟩
        · exact .inr ⟨l, by simpa using noNull, rfl, other, rfl⟩

theorem write_done {s : String} (noNull : p.hasNull = false) (found : t.locate p = .ok l)
    (other : t.entry? l ≠ some .folder) (allowed : t.refuses .write l = false) :
    t.write p s = ⟨t.put l (.file s), none⟩ := by
  rw [write, noNull, if_neg Bool.false_ne_true, found]
  dsimp only
  split
  · next folder => exact absurd folder other
  · rw [allowed]
    rfl

end FileTree

end SloCompiler
