import SloCompiler.Proofs.Places

namespace SloCompiler

theorem append_not_within {α : Type} (xs : List α) {y : α} {ys : List α} :
    ¬xs ++ y :: ys <+: xs := by
  intro before
  have length := before.length_le
  rw [List.length_append, List.length_cons] at length
  omega

namespace FileTree

open FileOutcome

variable {t t' : FileTree} {k l m : Location} {p : Path} {places more : Location → Prop}

structure Sheds (places : Location → Prop) (t t' : FileTree) : Prop where
  home : t'.home = t.home
  refuses : t'.refuses = t.refuses
  entries : ∀ l, t'.entry? l = t.entry? l ∨ places l ∧ t'.entry? l = none

namespace Sheds

theorem refl (places : Location → Prop) (t : FileTree) : Sheds places t t :=
  ⟨rfl, rfl, fun _ => .inl rfl⟩

theorem trans {u : FileTree} (first : Sheds places t t') (second : Sheds places t' u) :
    Sheds places t u := by
  refine ⟨second.home.trans first.home, second.refuses.trans first.refuses, fun l => ?_⟩
  rcases second.entries l with same | gone
  · rw [same]
    exact first.entries l
  · exact .inr gone

theorem mono (sheds : Sheds places t t') (wider : ∀ l, places l → more l) : Sheds more t t' :=
  ⟨sheds.home, sheds.refuses, fun l =>
    (sheds.entries l).imp_right fun gone => ⟨wider l gone.1, gone.2⟩⟩

theorem elsewhere (sheds : Sheds places t t') (outside : ¬places l) :
    t'.entry? l = t.entry? l :=
  (sheds.entries l).resolve_right fun gone => outside gone.1

theorem present (sheds : Sheds places t t') (kept : t'.entry? l ≠ none) : t.entry? l ≠ none := by
  rcases sheds.entries l with same | ⟨_, gone⟩
  · exact same ▸ kept
  · exact absurd gone kept

theorem changes (sheds : Sheds places t t') : Changes places t t' :=
  ⟨sheds.home, fun _ outside _ => by rw [sheds.elsewhere outside]⟩

end Sheds

def Rooted (t : FileTree) : Prop :=
  ∀ l name, t.entry? (l ++ [name]) ≠ none → t.entry? l = some .folder

def Gone (l : Location) (t : FileTree) : Prop := ∀ m, l <+: m → t.entry? m = none

theorem Sheds.gone (sheds : Sheds places t t') (gone : Gone l t) : Gone l t' := by
  intro m below
  by_contra present
  exact sheds.present present (gone m below)

theorem Sheds.rooted (sheds : Sheds places t t') (rooted : t.Rooted)
    (gone : ∀ l name, places l → t'.entry? (l ++ [name]) = none) : t'.Rooted := by
  intro l name present
  rcases sheds.entries l with same | ⟨within, _⟩
  · exact same.trans (rooted l name (sheds.present present))
  · exact absurd (gone l name within) present

theorem Rooted.above (rooted : t.Rooted) (before : l <+: m) (present : t.entry? m ≠ none) :
    l = m ∨ t.entry? l = some .folder := by
  obtain ⟨names, rfl⟩ := before
  induction names using List.reverseRecOn with
  | nil => exact .inl (List.append_nil l).symm
  | append_singleton names last ih =>
    rw [← List.append_assoc] at present
    have folder := rooted _ last present
    rcases ih (by simp [folder]) with same | above
    · rw [← same] at folder
      exact .inr folder
    · exact .inr above

theorem beneath_iff : l <+: m ∧ m ≠ l ↔ ∃ name, l ++ [name] <+: m := by
  constructor
  · intro ⟨below, other⟩
    obtain ⟨names, rfl⟩ := below
    cases names with
    | nil => exact absurd (List.append_nil l) other
    | cons name names => exact ⟨name, names, by simp⟩
  · intro ⟨name, below⟩
    refine ⟨(List.prefix_append l [name]).trans below, ?_⟩
    rintro rfl
    exact append_not_within _ below

theorem mem_listing : k ∈ t.listing l ↔ t.entry? k ≠ none ∧ ∃ name, k = l ++ [name] := by
  have keyed : k ∈ Ordered.keys t.entries ↔ t.entry? k ≠ none := by
    unfold entry?
    rw [ne_eq, Ordered.get?_eq_none_iff, not_not]
  have shape : (k != [] && k.dropLast == l) = true ↔ ∃ name, k = l ++ [name] := by
    rw [Bool.and_eq_true, bne_iff_ne, beq_iff_eq]
    constructor
    · intro ⟨deeper, above⟩
      exact ⟨k.getLast deeper, by rw [← above, List.dropLast_concat_getLast]⟩
    · rintro ⟨name, rfl⟩
      simp
  rw [listing, List.mem_filter, keyed, shape]

theorem listing_length (listed : k ∈ t.listing l) : k.length = l.length + 1 := by
  obtain ⟨_, name, rfl⟩ := mem_listing.mp listed
  simp

theorem listing_beneath (listed : k ∈ t.listing l) :
    t.entry? k ≠ none ∧ l <+: k ∧ k ≠ l := by
  obtain ⟨present, name, rfl⟩ := mem_listing.mp listed
  exact ⟨present, beneath_iff.mpr ⟨name, List.prefix_refl _⟩⟩

theorem Rooted.listed (rooted : t.Rooted) (beneath : l <+: m ∧ m ≠ l)
    (present : t.entry? m ≠ none) : t.entry? l = some .folder ∧ ∃ k ∈ t.listing l, k <+: m := by
  obtain ⟨name, below⟩ := beneath_iff.mp beneath
  have found : t.entry? (l ++ [name]) ≠ none := by
    rcases rooted.above below present with same | folder
    · exact same ▸ present
    · simp [folder]
  exact ⟨rooted l name found, _, mem_listing.mpr ⟨found, name, rfl⟩, below⟩

def Removable (t : FileTree) (reach : Nat) (l : Location) : Prop :=
  ∀ m, l <+: m ∧ m ≠ l → t.entry? m ≠ none →
    t.refuses .remove m = false ∧ m.length ≤ l.length + reach

theorem unlink_sheds (t : FileTree) (l : Location) : Sheds (· = l) t (t.unlink l).tree := by
  unfold unlink
  split
  · exact .refl _ t
  · refine ⟨rfl, rfl, fun m => ?_⟩
    rw [entry?_erase]
    split
    · next same => exact .inr ⟨same, rfl⟩
    · exact .inl rfl

theorem unlink_done : (t.unlink l).fault = none ↔ t.refuses .remove l = false := by
  unfold unlink
  split
  · next refused => simp [refused]
  · next allowed => simpa using allowed

theorem unlink_gone (done : (t.unlink l).fault = none) :
    entry? (t.unlink l).tree l = none := by
  rw [unlink, unlink_done.mp done, if_neg Bool.false_ne_true, entry?_erase, if_pos rfl]

-- What taking away all that lies in a folder does if it comes so many levels down.
structure Removes (reach : Nat) (within : FileTree → Location → FileOutcome) : Prop where
  sheds : ∀ t l, Sheds (fun m => l <+: m ∧ m ≠ l) t (within t l).tree
  done : ∀ t l, t.Rooted → ((within t l).fault = none ↔ t.Removable reach l)
  clears : ∀ t l, t.Rooted → (within t l).fault = none →
    ∀ m, l <+: m ∧ m ≠ l → entry? (within t l).tree m = none

namespace Removes

variable {reach : Nat} {within : FileTree → Location → FileOutcome}

theorem one_sheds (removes : Removes reach within) (t : FileTree) (l : Location) :
    Sheds (l <+: ·) t (removeOne within t l).tree := by
  have last (u : FileTree) : Sheds (l <+: ·) u (u.unlink l).tree :=
    (unlink_sheds u l).mono fun m same => same ▸ List.prefix_refl m
  unfold removeOne
  split
  · have first := (removes.sheds t l).mono fun m below => below.1
    exact andThen_tree first (first.trans (last _))
  · exact andThen_tree (.refl _ t) (last t)

theorem one_done (removes : Removes reach within) (rooted : t.Rooted) (l : Location) :
    (removeOne within t l).fault = none ↔
      t.refuses .remove l = false ∧ t.Removable reach l := by
  unfold removeOne
  rw [andThen_done, unlink_done]
  split
  · rw [removes.done t l rooted, (removes.sheds t l).refuses, and_comm]
  · next noFolder =>
    have bare : t.Removable reach l := fun m beneath present =>
      absurd (rooted.listed beneath present).1 noFolder
    simp [bare]

theorem one_gone (removes : Removes reach within) (rooted : t.Rooted)
    (done : (removeOne within t l).fault = none) : Gone l (removeOne within t l).tree := by
  unfold removeOne at done ⊢
  rw [andThen_done] at done
  rw [andThen_eq done.1]
  intro m below
  by_cases same : m = l
  · rw [same]
    exact unlink_gone done.2
  · rw [(unlink_sheds _ l).elsewhere same]
    by_cases folder : t.entry? l = some .folder
    · rw [if_pos folder] at done ⊢
      exact removes.clears t l rooted done.1 m ⟨below, same⟩
    · rw [if_neg folder]
      by_contra present
      exact folder (rooted.listed ⟨below, same⟩ present).1

theorem all_sheds (removes : Removes reach within) (t : FileTree) (ks : List Location) :
    Sheds (fun m => ∃ k ∈ ks, k <+: m) t (t.inTurn (removeOne within) ks).tree := by
  induction ks generalizing t with
  | nil => exact .refl _ t
  | cons k ks ih =>
    have first : Sheds (fun m => ∃ other ∈ k :: ks, other <+: m) t (removeOne within t k).tree :=
      (removes.one_sheds t k).mono fun m below => ⟨k, List.mem_cons_self, below⟩
    refine andThen_tree first (first.trans ((ih _).mono ?_))
    intro m ⟨other, among, below⟩
    exact ⟨other, List.mem_cons_of_mem k among, below⟩

theorem one_rooted (removes : Removes reach within) (rooted : t.Rooted)
    (done : (removeOne within t l).fault = none) : (removeOne within t l).tree.Rooted :=
  (removes.one_sheds t l).rooted rooted fun m name below =>
    removes.one_gone rooted done _ (below.trans (List.prefix_append m [name]))

-- Things side by side do not stand in one another's way.
theorem all_done (removes : Removes reach within) {ks : List Location} {n : Nat}
    (level : ∀ k ∈ ks, k.length = n) (rooted : t.Rooted) :
    (t.inTurn (removeOne within) ks).fault = none ↔
      ∀ k ∈ ks, t.refuses .remove k = false ∧ t.Removable reach k := by
  induction ks generalizing t with
  | nil => simp [inTurn]
  | cons k ks ih =>
    obtain ⟨one, others⟩ := List.forall_mem_cons.mp level
    rw [inTurn, andThen_done, List.forall_mem_cons, ← removes.one_done rooted k]
    refine and_congr_right fun done => ?_
    rw [ih others (removes.one_rooted rooted done), (removes.one_sheds t k).refuses]
    refine forall₂_congr fun other among => and_congr_right fun _ => ?_
    -- What is listed a second time has gone already.
    by_cases same : other = k
    · subst same
      refine iff_of_true (fun m beneath present => ?_) ((removes.one_done rooted other).mp done).2
      exact absurd (removes.one_gone rooted done m beneath.1) present
    · have apart : ∀ m, other <+: m → ¬k <+: m := by
        intro m below within
        have length : other.length = k.length := (others other among).trans one.symm
        have before := List.prefix_of_prefix_length_le below within (Nat.le_of_eq length)
        exact same (before.eq_of_length length)
      refine forall₂_congr fun m beneath => ?_
      rw [(removes.one_sheds t k).elsewhere (apart m beneath.1), (removes.one_sheds t k).refuses]

theorem all_gone (removes : Removes reach within) {ks : List Location} (rooted : t.Rooted)
    (done : (t.inTurn (removeOne within) ks).fault = none) :
    ∀ k ∈ ks, Gone k (t.inTurn (removeOne within) ks).tree := by
  induction ks generalizing t with
  | nil =>
    intro k among
    cases among
  | cons k ks ih =>
    rw [inTurn, andThen_done] at done
    rw [inTurn, andThen_eq done.1, List.forall_mem_cons]
    constructor
    · exact (removes.all_sheds _ ks).gone (removes.one_gone rooted done.1)
    · exact ih (removes.one_rooted rooted done.1) done.2

end Removes

theorem removeWithin_zero : (removeWithin 0 t l).fault = none ↔ t.listing l = [] := by
  rw [removeWithin, ← List.isEmpty_iff]
  cases (t.listing l).isEmpty <;> simp

theorem removes_none : Removes 0 (removeWithin 0) where
  sheds := fun t _ => .refl _ t
  done := by
    intro t l rooted
    rw [removeWithin_zero, List.eq_nil_iff_forall_not_mem]
    constructor
    · intro bare m beneath present
      obtain ⟨_, k, listed, _⟩ := rooted.listed beneath present
      exact absurd listed (bare k)
    · intro all k listed
      obtain ⟨present, beneath⟩ := listing_beneath listed
      have near := (all k beneath present).2
      have length := listing_length listed
      omega
  clears := by
    intro t l rooted done m beneath
    by_contra present
    obtain ⟨_, k, listed, _⟩ := rooted.listed beneath present
    rw [removeWithin_zero.mp done] at listed
    cases listed

theorem removes_further {reach : Nat} (removes : Removes reach (removeWithin reach)) :
    Removes (reach + 1) (removeWithin (reach + 1)) where
  sheds := by
    intro t l
    refine (removes.all_sheds t (t.listing l)).mono ?_
    intro m ⟨k, listed, below⟩
    obtain ⟨_, name, rfl⟩ := mem_listing.mp listed
    exact beneath_iff.mpr ⟨name, below⟩
  done := by
    intro t l rooted
    rw [removeWithin, removes.all_done (fun k => listing_length) rooted]
    constructor
    · intro each m beneath present
      obtain ⟨_, k, listed, below⟩ := rooted.listed beneath present
      obtain ⟨allowed, further⟩ := each k listed
      have length := listing_length listed
      by_cases same : m = k
      · rw [same]
        exact ⟨allowed, by omega⟩
      · obtain ⟨free, near⟩ := further m ⟨below, same⟩ present
        exact ⟨free, by omega⟩
    · intro all k listed
      have length := listing_length listed
      obtain ⟨present, beneath⟩ := listing_beneath listed
      refine ⟨(all k beneath present).1, fun m below there => ?_⟩
      have other : m ≠ l := by
        rintro rfl
        have further := below.1.length_le
        omega
      obtain ⟨free, near⟩ := all m ⟨beneath.1.trans below.1, other⟩ there
      exact ⟨free, by omega⟩
  clears := by
    intro t l rooted done m beneath
    by_contra present
    have before := (removes.all_sheds t (t.listing l)).present present
    obtain ⟨_, k, listed, below⟩ := rooted.listed beneath before
    exact present (removes.all_gone rooted done k listed m below)

-- A removal that comes so many levels down succeeds exactly if nothing is kept or lies deeper.
theorem removes_within (reach : Nat) : Removes reach (removeWithin reach) := by
  induction reach with
  | zero => exact removes_none
  | succ reach ih => exact removes_further ih

-- A file has gone before the folder behind it turns out to be too deep.
example : let t : FileTree := {
      home := []
      entries := [([], .folder), (["m"], .folder), (["m", "a"], .file ""), (["m", "b"], .folder),
        (["m", "b", "c"], .file "")]
      reach := 1 }
    let done := t.remove ⟨.here, ["m"]⟩
    done.fault.isSome = true ∧ done.tree.entries.map (·.1) =
      [[], ["m"], ["m", "b"], ["m", "b", "c"]] := by
  exact ⟨rfl, rfl⟩

theorem removeFolder_cases (t : FileTree) (p : Path) :
    (t.removeFolder p).tree = t ∧ (t.removeFolder p).fault ≠ none ∨
      t.removeFolder p = t.unlink (p.place t.home) := by
  unfold removeFolder
  cases found : t.locate p with
  | error cause => exact .inl ⟨rfl, by simp⟩
  | ok l =>
    obtain rfl := locate_place found
    dsimp only
    split
    · exact .inl ⟨rfl, by simp⟩
    · exact .inl ⟨rfl, by simp⟩
    · exact .inr rfl

theorem removeFolder_sheds (t : FileTree) (p : Path) :
    Sheds (p.place t.home <+: ·) t (t.removeFolder p).tree := by
  rcases removeFolder_cases t p with ⟨same, _⟩ | unlinked
  · rw [same]
    exact .refl _ t
  · rw [unlinked]
    exact (unlink_sheds t _).mono fun m same => same ▸ List.prefix_refl m

theorem remove_cases (t : FileTree) (p : Path) :
    (t.remove p).tree = t ∧ (t.remove p).fault ≠ none ∨
      t.find p = .ok (p.place t.home, .folder) ∧ t.remove p =
        (removeWithin t.reach t (p.place t.home)).andThen fun t => t.removeFolder p := by
  unfold remove
  cases found : t.find p with
  | error cause => exact .inl ⟨rfl, by simp⟩
  | ok there =>
    obtain ⟨l, e⟩ := there
    obtain rfl := locate_place (find_ok.mp found).1
    cases e with
    | file s => exact .inl ⟨rfl, by simp⟩
    | folder => exact .inr ⟨rfl, rfl⟩

theorem remove_sheds (t : FileTree) (p : Path) :
    Sheds (p.place t.home <+: ·) t (t.remove p).tree := by
  rcases remove_cases t p with ⟨same, _⟩ | ⟨_, removed⟩
  · rw [same]
    exact .refl _ t
  · rw [removed]
    have first := (removes_within t.reach).sheds t (p.place t.home)
    have within := first.mono fun m beneath => beneath.1
    have second := removeFolder_sheds (removeWithin t.reach t (p.place t.home)).tree p
    rw [first.home] at second
    exact andThen_tree within (within.trans second)

theorem remove_changes (t : FileTree) (p : Path) :
    Changes (p.place t.home <+: ·) t (t.remove p).tree := (remove_sheds t p).changes

theorem remove_gone (rooted : t.Rooted) (done : (t.remove p).fault = none) :
    Gone (p.place t.home) (t.remove p).tree := by
  rcases remove_cases t p with ⟨_, failed⟩ | ⟨_, removed⟩
  · exact absurd done failed
  · have removes := removes_within t.reach
    have home := (removes.sheds t (p.place t.home)).home
    rw [removed, andThen_done] at done
    rw [removed, andThen_eq done.1]
    intro m below
    rcases removeFolder_cases (removeWithin t.reach t (p.place t.home)).tree p with
      ⟨_, failed⟩ | unlinked
    · exact absurd done.2 failed
    rw [unlinked, home] at done ⊢
    by_cases same : m = p.place t.home
    · rw [same]
      exact unlink_gone done.2
    · rw [(unlink_sheds _ _).elsewhere same]
      exact removes.clears t _ rooted done.1 m ⟨below, same⟩

end FileTree

end SloCompiler
