import SloCompiler.Proofs.FileNames
import SloCompiler.Proofs.Furnishing

namespace SloCompiler

theorem prefix_append_iff {α : Type} {xs ys zs : List α} :
    xs <+: ys ++ zs ↔ xs <+: ys ∨ ∃ more, xs = ys ++ more ∧ more <+: zs := by
  constructor
  · intro before
    by_cases short : xs.length ≤ ys.length
    · exact .inl (List.prefix_of_prefix_length_le before (List.prefix_append ys zs) short)
    · have within := List.prefix_of_prefix_length_le (List.prefix_append ys zs) before
        (Nat.le_of_not_le short)
      obtain ⟨more, rfl⟩ := within
      exact .inr ⟨more, rfl, (List.prefix_append_right_inj _).mp before⟩
  · rintro (first | ⟨more, rfl, second⟩)
    · exact first.trans (List.prefix_append _ _)
    · exact (List.prefix_append_right_inj _).mpr second

namespace Path

variable {home l : Location} {names : List String}

theorem foldl_up (up : ∀ name ∈ names, name = "..") (l : Location) :
    names.foldl follow l <+: l := by
  induction names generalizing l with
  | nil => exact List.prefix_refl l
  | cons name names ih =>
    obtain ⟨rfl, others⟩ := List.forall_mem_cons.mp up
    exact (ih others _).trans (List.dropLast_prefix l)

theorem foldl_down (down : ∀ name ∈ names, name ≠ "..") (l : Location) :
    names.foldl follow l = l ++ names := by
  induction names generalizing l with
  | nil => exact (List.append_nil l).symm
  | cons name names ih =>
    obtain ⟨one, others⟩ := List.forall_mem_cons.mp down
    rw [List.foldl_cons, ih others, follow, if_neg one, List.append_assoc]
    rfl

theorem start_above (p : Path) (home : Location) : p.start home <+: home := by
  unfold start
  split
  · exact List.prefix_refl home
  · exact List.nil_prefix

def ups (p : Path) : List String := p.names.takeWhile (· == "..")

def downs (p : Path) : List String := p.names.dropWhile (· == "..")

-- A path that leads up only before it leads down.
def Straight (p : Path) : Prop := ".." ∉ p.downs

def top (p : Path) (home : Location) : Location := p.ups.foldl follow (p.start home)

variable {p : Path}

theorem ups_downs (p : Path) : p.ups ++ p.downs = p.names := List.takeWhile_append_dropWhile

theorem up (p : Path) : ∀ name ∈ p.ups, name = ".." :=
  fun name listed => eq_of_beq (List.all_eq_true.mp List.all_takeWhile name listed)

theorem top_above (p : Path) (home : Location) : p.top home <+: home :=
  (foldl_up p.up _).trans (start_above p home)

namespace Straight

theorem down (straight : p.Straight) : ∀ name ∈ p.downs, name ≠ ".." :=
  fun _ listed same => straight (same ▸ listed)

theorem place_eq (straight : p.Straight) (home : Location) :
    p.place home = p.top home ++ p.downs := by
  rw [place, ← ups_downs, List.foldl_append, foldl_down straight.down]
  rfl

theorem div (straight : p.Straight) {name : String} (single : Single name) :
    (p / name).Straight := by
  unfold Straight downs at straight ⊢
  rw [div_single p single, List.dropWhile_append]
  split
  · simp [single.down, single.down.symm]
  · simp [straight, single.down.symm]

theorem foldl_cases (straight : p.Straight) (before : names <+: p.names)
    (home : Location) : names.foldl follow (p.start home) <+: home ∨
      ∃ downs, names = p.ups ++ downs ∧ downs <+: p.downs ∧
        names.foldl follow (p.start home) = p.top home ++ downs := by
  rw [← ups_downs] at before
  rcases prefix_append_iff.mp before with first | ⟨downs, rfl, second⟩
  · refine .inl ((foldl_up ?_ _).trans (start_above p home))
    exact fun name listed => p.up name (first.subset listed)
  · refine .inr ⟨downs, rfl, second, ?_⟩
    have down : ∀ name ∈ downs, name ≠ ".." := fun name listed =>
      straight.down name (second.subset listed)
    rw [List.foldl_append, foldl_down down]
    rfl

theorem passes_cases (straight : p.Straight) (passes : p.Passes home l) :
    l <+: home ∨ l <+: p.place home := by
  obtain ⟨names, before, rfl⟩ := passes
  rcases straight.foldl_cases before home with above | ⟨downs, _, second, same⟩
  · exact .inl above
  · rw [same, straight.place_eq]
    exact .inr ((List.prefix_append_right_inj _).mpr second)

end Straight

end Path

namespace FileTree

variable {t : FileTree} {l m : Location} {p : Path}

-- A tree has folders above all that is in it, and is used from one of its folders.
structure Formed (t : FileTree) : Prop where
  home : t.entry? t.home = some .folder
  parents : ∀ l name, t.entry? (l ++ [name]) ≠ none → t.entry? l = some .folder

namespace Formed

theorem above (formed : t.Formed) (before : l <+: m) (present : t.entry? m ≠ none) :
    l = m ∨ t.entry? l = some .folder := Rooted.above formed.parents before present

theorem above_home (formed : t.Formed) (before : l <+: t.home) : t.entry? l = some .folder := by
  rcases formed.above before (by simp [formed.home]) with rfl | folder
  · exact formed.home
  · exact folder

theorem locates (formed : t.Formed) (straight : p.Straight) (usable : p.Usable)
    (present : t.entry? (p.place t.home) ≠ none) : t.locate p = .ok (p.place t.home) := by
  cases found : t.locate p with
  | ok l => rw [locate_place found]
  | error cause =>
    obtain ⟨names, before, apart, _, stopped⟩ := locate_error usable found
    have noFolder : t.entry? (names.foldl Path.follow (p.start t.home)) ≠ some .folder := by
      rcases stopped with ⟨_, none⟩ | ⟨_, s, file⟩ <;> simp_all
    rcases straight.foldl_cases before t.home with above | ⟨downs, whole, second, same⟩
    · exact absurd (formed.above_home above) noFolder
    · rw [same] at noFolder
      rw [straight.place_eq] at present
      rcases formed.above ((List.prefix_append_right_inj _).mpr second) present with all | folder
      · rw [List.append_cancel_left_eq] at all
        rw [whole, all, Path.ups_downs] at apart
        exact absurd rfl apart
      · exact absurd folder noFolder

theorem bare (formed : t.Formed) (absent : t.entry? l = none) (under : l <+: m) :
    t.entry? m = none := by
  by_contra present
  rcases formed.above under present with rfl | folder
  · exact present absent
  · rw [folder] at absent
    cases absent

-- Where a file is in the way, a straight path ends there.
theorem locate_blocked (formed : t.Formed) (straight : p.Straight) (usable : p.Usable)
    {s : String} (file : t.entry? l = some (.file s)) (before : l <+: p.place t.home)
    (apart : l ≠ p.place t.home) : t.locate p = .error .notDirectory := by
  have noFolder : t.entry? l ≠ some .folder := by simp [file]
  rw [straight.place_eq] at before apart
  obtain first | ⟨more, rfl, second⟩ := prefix_append_iff.mp before
  · exact absurd (formed.above_home (first.trans (p.top_above _))) noFolder
  have further : more ≠ p.downs := fun same => apart (same ▸ rfl)
  have reached : (p.ups ++ more).foldl Path.follow (p.start t.home) = p.top t.home ++ more := by
    have down : ∀ name ∈ more, name ≠ ".." := fun name listed =>
      straight.down name (second.subset listed)
    rw [List.foldl_append, Path.foldl_down down]
    rfl
  cases found : t.locate p with
  | ok m =>
    obtain ⟨_, way, _⟩ := locate_ok.mp found
    rw [← p.ups_downs] at way
    have passed := open_passed way ((List.prefix_append_right_inj _).mpr second)
      (by simpa using further)
    rw [reached] at passed
    exact absurd passed noFolder
  | error cause =>
    obtain ⟨names, start, _, way, ⟨rfl, absent⟩ | ⟨rfl, _⟩⟩ := locate_error usable found
    · rcases straight.foldl_cases start t.home with above | ⟨others, rfl, third, same⟩
      · rw [formed.above_home above] at absent
        cases absent
      rw [same] at absent
      -- A way that ends further on would have led through the file.
      by_cases long : more <+: others ∧ more ≠ others
      · have passed := open_passed way ((List.prefix_append_right_inj _).mpr long.1)
          (by simpa using long.2)
        rw [reached] at passed
        exact absurd passed noFolder
      · have short : others <+: more := by
          rcases List.prefix_or_prefix_of_prefix second third with within | within
          · obtain rfl : more = others := not_not.mp fun other => long ⟨within, other⟩
            exact List.prefix_refl _
          · exact within
        rw [formed.bare absent ((List.prefix_append_right_inj _).mpr short)] at file
        cases file
    · rfl

theorem isPresent_false (formed : t.Formed) (straight : p.Straight) (usable : p.Usable)
    (seen : t.isPresent p = .ok false) : t.entry? (p.place t.home) = none := by
  cases present : t.entry? (p.place t.home) with
  | none => rfl
  | some e =>
    have found := formed.locates straight usable (by simp [present])
    rw [isPresent, test, usable.noNull, find_ok.mpr ⟨found, present⟩] at seen
    cases seen

theorem of_entries {t : FileTree} (home : t.entry? t.home = some .folder)
    (entries : ∀ row ∈ t.entries, row.1 = [] ∨ t.entry? row.1.dropLast = some .folder) :
    t.Formed where
  home := home
  parents := by
    intro l name present
    obtain ⟨e, found⟩ := Option.ne_none_iff_exists'.mp present
    rcases entries _ (Ordered.mem_of_get? found) with empty | above
    · simp at empty
    · simpa using above

end Formed

end FileTree

end SloCompiler
