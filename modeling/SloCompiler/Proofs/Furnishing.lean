import SloCompiler.Proofs.Places

namespace SloCompiler

namespace Path

-- A path that no limit stands against.
structure Usable (p : Path) : Prop where
  noNull : p.hasNull = false
  short : p.text.utf8ByteSize < FileTree.pathLimit
  names : ∀ name ∈ p.names, name.utf8ByteSize ≤ FileTree.nameLimit

theorem intercalate_dropLast_size (sep : String) (names : List String) :
    (sep.intercalate names.dropLast).utf8ByteSize ≤ (sep.intercalate names).utf8ByteSize := by
  rcases List.eq_nil_or_concat names with rfl | ⟨before, last, rfl⟩
  · exact Nat.le_refl _
  · rw [List.concat_eq_append, List.dropLast_concat]
    cases before with
    | nil => simp
    | cons first more =>
      rw [String.intercalate_append_of_ne_nil (List.cons_ne_nil _ _) (List.cons_ne_nil _ _),
        String.utf8ByteSize_append, String.utf8ByteSize_append]
      omega

theorem text_size (p : Path) : p.text.utf8ByteSize =
    max 1 (p.root.text ++ "/".intercalate p.names).utf8ByteSize := by
  unfold text
  generalize p.root.text ++ "/".intercalate p.names = written
  dsimp only
  split
  · next empty =>
    rw [String.isEmpty_iff.mp empty]
    rfl
  · next filled =>
    have size : written.utf8ByteSize ≠ 0 := fun zero => filled (by simp_all)
    omega

theorem parent_text_size (p : Path) : p.parent.text.utf8ByteSize ≤ p.text.utf8ByteSize := by
  have names := intercalate_dropLast_size "/" p.names
  rw [text_size, text_size, String.utf8ByteSize_append, String.utf8ByteSize_append]
  simp only [parent]
  omega

theorem Usable.parent {p : Path} (usable : p.Usable) : p.parent.Usable where
  noNull := by
    have all := usable.noNull
    rw [hasNull, List.any_eq_false] at all ⊢
    exact fun name listed => all name (List.dropLast_subset _ listed)
  short := Nat.lt_of_le_of_lt (parent_text_size p) usable.short
  names := fun name listed => usable.names name (List.dropLast_subset _ listed)

end Path

namespace FileTree

variable {t : FileTree} {l m : Location} {p : Path} {name : String} {names : List String}
  {cause : FileFault}

theorem descend_error (failed : t.descend l name = .error cause) :
    cause = .notFound ∧ t.entry? l = none ∨
      cause = .notDirectory ∧ (∃ s, t.entry? l = some (.file s)) ∨
        cause = .system ∧ nameLimit < name.utf8ByteSize := by
  unfold descend at failed
  split at failed
  · next absent =>
    cases failed
    exact .inl ⟨rfl, absent⟩
  · next s present =>
    cases failed
    exact .inr (.inl ⟨rfl, s, present⟩)
  · split at failed
    · cases failed
    · split at failed
      · next long =>
        cases failed
        exact .inr (.inr ⟨rfl, long⟩)
      · cases failed

theorem foldlM_descend_error (failed : names.foldlM t.descend l = .error cause) :
    ∃ before next after, names = before ++ next :: after ∧ t.Open l before ∧
      t.descend (before.foldl Path.follow l) next = .error cause := by
  induction names generalizing l with
  | nil => cases failed
  | cons name names ih =>
    rw [List.foldlM_cons] at failed
    cases reached : t.descend l name with
    | error first =>
      rw [reached] at failed
      cases failed
      exact ⟨[], name, names, rfl, trivial, reached⟩
    | ok m =>
      rw [reached] at failed
      obtain ⟨folder, size, rfl⟩ := descend_ok.mp reached
      obtain ⟨before, next, after, rfl, way, stopped⟩ := ih failed
      exact ⟨name :: before, next, after, rfl, ⟨folder, size, way⟩, stopped⟩

-- A usable path that leads nowhere stops where no folder is.
theorem locate_error (usable : p.Usable) (failed : t.locate p = .error cause) :
    ∃ names, names <+: p.names ∧ names ≠ p.names ∧ t.Open (p.start t.home) names ∧
      (cause = .notFound ∧ t.entry? (names.foldl Path.follow (p.start t.home)) = none ∨
        cause = .notDirectory ∧
          ∃ s, t.entry? (names.foldl Path.follow (p.start t.home)) = some (.file s)) := by
  unfold locate at failed
  rw [if_neg (Nat.not_le.mpr usable.short)] at failed
  obtain ⟨before, next, after, whole, way, stopped⟩ := foldlM_descend_error failed
  refine ⟨before, whole ▸ List.prefix_append _ _, ?_, way, ?_⟩
  · rw [whole]
    simp
  · rcases descend_error stopped with absent | file | ⟨_, long⟩
    · exact .inl absent
    · exact .inr file
    · have size := usable.names next (by simp [whole])
      exact absurd long (Nat.not_lt.mpr size)

theorem open_append {more : List String} : t.Open l (names ++ more) ↔
    t.Open l names ∧ t.Open (names.foldl Path.follow l) more := by
  induction names generalizing l with
  | nil => simp [Open]
  | cons name names ih => simp [Open, ih, and_assoc]

theorem open_passed {first : List String} (way : t.Open l names) (before : first <+: names)
    (apart : first ≠ names) : t.entry? (first.foldl Path.follow l) = some .folder := by
  obtain ⟨rest, rfl⟩ := before
  cases rest with
  | nil => exact absurd (List.append_nil first).symm apart
  | cons name rest => exact (open_append.mp way).2.1

theorem open_congr {t' : FileTree} {names : List String} (way : t.Open l names)
    (same : ∀ before, before <+: names →
      t'.entry? (before.foldl Path.follow l) = t.entry? (before.foldl Path.follow l)) :
    t'.Open l names := by
  induction names generalizing l with
  | nil => trivial
  | cons name names ih =>
    refine ⟨(same [] List.nil_prefix).trans way.1, way.2.1, ih way.2.2 fun before first => ?_⟩
    exact same (name :: before) ((List.prefix_cons_inj name).mpr first)

structure Holds (t : FileTree) (p : Path) : Prop where
  located : t.locate p = .ok (p.place t.home)
  folder : t.entry? (p.place t.home) = some .folder

theorem Holds.grows {t' : FileTree} (holds : t.Holds p) (grows : Grows t t') : t'.Holds p where
  located := grows.home ▸ grows.locate holds.located
  folder := grows.home ▸ grows.folders _ holds.folder

-- Nothing is in the way: no file, and no refusal where a folder is missing.
structure Clear (t : FileTree) (p : Path) : Prop where
  noFile : ∀ l, p.Passes t.home l → ∀ s, t.entry? l ≠ some (.file s)
  allowed : ∀ l, p.Passes t.home l → t.entry? l = none → t.refuses .make l = false

theorem Clear.furnished {t' : FileTree} {places : Location → Prop} (clear : t.Clear p)
    (furnishes : Furnishes places t t') : t'.Clear p := by
  constructor
  · intro l passes s present
    rw [furnishes.home] at passes
    exact clear.noFile l passes s (furnishes.file_iff.mp present)
  · intro l passes absent
    rw [furnishes.home] at passes
    rw [furnishes.refuses]
    exact clear.allowed l passes (furnishes.absent absent)

theorem Clear.parent (clear : t.Clear p) : t.Clear p.parent where
  noFile := fun l passes => clear.noFile l passes.of_parent
  allowed := fun l passes => clear.allowed l passes.of_parent

theorem orPresent_holds (usable : p.Usable) (holds : t.Holds p) (cause : FileFault) :
    t.orPresent p cause = ⟨t, none⟩ := by
  have found : t.find p = .ok (p.place t.home, .folder) :=
    find_ok.mpr ⟨holds.located, holds.folder⟩
  have present : t.isFolder p = .ok true := by
    simp [isFolder, test, usable.noNull, found]
  rw [orPresent, present]

theorem createFolder_cases (usable : p.Usable) (clear : t.Clear p) :
    (∃ made, t.createFolder p = .ok made ∧ made.Holds p) ∨
      t.createFolder p = .error (.file .alreadyExists) ∧ t.Holds p ∨
        t.createFolder p = .error (.file .notFound) ∧ p.names ≠ [] ∧
          t.locate p = .error .notFound := by
  unfold createFolder
  rw [usable.noNull, if_neg Bool.false_ne_true]
  cases found : t.locate p with
  | error cause =>
    obtain ⟨names, before, apart, _, ⟨rfl, _⟩ | ⟨_, s, file⟩⟩ := locate_error usable found
    · refine .inr (.inr ⟨rfl, fun none => apart ?_, rfl⟩)
      rw [none] at before ⊢
      exact List.prefix_nil.mp before
    · exact absurd file (clear.noFile _ ⟨names, before, rfl⟩ s)
  | ok l =>
    obtain rfl := locate_place found
    cases present : t.entry? (p.place t.home) with
    | none =>
      have grows := (put_furnishes (p.passes_place t.home) present).grows
      have allowed := clear.allowed _ (p.passes_place _) present
      refine .inl ⟨_, by simp [present, allowed], grows.locate found, ?_⟩
      rw [put_home, entry?_put, if_pos rfl]
    | some e =>
      cases e with
      | file s => exact absurd present (clear.noFile _ (p.passes_place _) s)
      | folder => exact .inr (.inl ⟨by simp [present], found, present⟩)

theorem makeLastFolder_succeeds (usable : p.Usable) (clear : t.Clear p)
    (found : t.locate p = .ok (p.place t.home)) :
    (t.makeLastFolder p).fault = none ∧ (t.makeLastFolder p).tree.Holds p := by
  unfold makeLastFolder
  rcases createFolder_cases usable clear with ⟨made, created, holds⟩ | ⟨there, holds⟩ | missing
  · rw [created]
    exact ⟨rfl, holds⟩
  · rw [there]
    dsimp only
    rw [orPresent_holds usable holds]
    exact ⟨rfl, holds⟩
  · rw [missing.2.2] at found
    cases found

theorem Holds.locate_child (holds : t.Holds p.parent) (usable : p.Usable) (deeper : p.names ≠ []) :
    t.locate p = .ok (p.place t.home) := by
  obtain ⟨_, way, _⟩ := locate_ok.mp holds.located
  have whole := List.dropLast_concat_getLast deeper
  refine locate_ok.mpr ⟨usable.short, ?_, rfl⟩
  rw [← whole, open_append]
  exact ⟨way, holds.folder, .inr (usable.names _ (List.getLast_mem deeper)), trivial⟩

theorem makeFolder_succeeds (usable : p.Usable) (clear : t.Clear p) :
    (t.makeFolder p).fault = none ∧ (t.makeFolder p).tree.Holds p := by
  fun_induction makeFolder t p with
  | case1 p made created =>
    rcases createFolder_cases usable clear with ⟨_, same, holds⟩ | ⟨there, _⟩ | ⟨missing, _⟩
    · rw [created] at same
      cases same
      exact ⟨rfl, holds⟩
    · rw [created] at there
      cases there
    · rw [created] at missing
      cases missing
  | case2 p missing none =>
    rcases createFolder_cases usable clear with ⟨_, made, _⟩ | ⟨there, _⟩ | ⟨_, some, _⟩
    · rw [missing] at made
      cases made
    · rw [missing] at there
      cases there
    · exact absurd none some
  | case3 p _ deeper ih =>
    obtain ⟨done, holds⟩ := ih usable.parent clear.parent
    have furnished := makeFolder_furnishes t p.parent
    rw [FileOutcome.andThen_eq done]
    exact makeLastFolder_succeeds usable (clear.furnished furnished)
      (holds.locate_child usable deeper)
  | case4 p cause other failed =>
    rcases createFolder_cases usable clear with ⟨_, made, _⟩ | ⟨_, holds⟩ | ⟨missing, _⟩
    · rw [failed] at made
      cases made
    · rw [orPresent_holds usable holds]
      exact ⟨rfl, holds⟩
    · rw [failed] at missing
      cases missing
      exact absurd rfl other
  | case5 p fault _ other failed =>
    rcases createFolder_cases usable clear with ⟨_, made, _⟩ | ⟨there, _⟩ | ⟨missing, _⟩
    · rw [failed] at made
      cases made
    · rw [failed] at there
      cases there
      exact absurd rfl (other _)
    · rw [failed] at missing
      cases missing
      exact absurd rfl (other _)

end FileTree

end SloCompiler
