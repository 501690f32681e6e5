import Mathlib.Data.List.Induction
import Mathlib.Data.List.Perm.Basic
import Mathlib.Data.List.Nodup
import SloCompiler.Ordered

namespace SloCompiler.Ordered

variable {κ α β : Type} [BEq κ] [LawfulBEq κ]

omit [BEq κ] [LawfulBEq κ] in
theorem insertSorted_perm (le : α → α → Bool) (x : α) (xs : List α) :
    (insertSorted le x xs).Perm (x :: xs) := by
  induction xs with
  | nil => exact .refl _
  | cons y xs ih =>
    unfold insertSorted
    split
    · exact .refl _
    · exact (ih.cons y).trans (.swap x y xs)

omit [BEq κ] [LawfulBEq κ] in
theorem sort_perm (le : α → α → Bool) (xs : List α) : (sort le xs).Perm xs := by
  induction xs with
  | nil => exact .refl _
  | cons x xs ih => exact (insertSorted_perm le x _).trans (ih.cons x)

section Sorted

variable {le : α → α → Bool} (total : ∀ x y, le x y = true ∨ le y x = true)
  (trans : ∀ x y z, le x y = true → le y z = true → le x z = true)
include total trans

omit [BEq κ] [LawfulBEq κ] in
theorem insertSorted_pairwise (x : α) {xs : List α} (sorted : xs.Pairwise (le · · = true)) :
    (insertSorted le x xs).Pairwise (le · · = true) := by
  induction xs with
  | nil => exact List.pairwise_singleton _ _
  | cons y xs ih =>
    obtain ⟨least, rest⟩ := List.pairwise_cons.mp sorted
    unfold insertSorted
    split
    · next first =>
      refine List.pairwise_cons.mpr ⟨List.forall_mem_cons.mpr ⟨first, ?_⟩, sorted⟩
      exact fun z later => trans x y z first (least z later)
    · next behind =>
      refine List.pairwise_cons.mpr ⟨fun z listed => ?_, ih rest⟩
      rcases List.mem_cons.mp ((insertSorted_perm le x xs).mem_iff.mp listed) with rfl | later
      · exact (total y z).resolve_right behind
      · exact least z later

omit [BEq κ] [LawfulBEq κ] in
theorem sort_pairwise (xs : List α) : (sort le xs).Pairwise (le · · = true) := by
  induction xs with
  | nil => exact List.Pairwise.nil
  | cons x xs ih => exact insertSorted_pairwise total trans x ih

end Sorted

omit [BEq κ] [LawfulBEq κ] in
theorem flatMap_only {key : α → κ} {xs : List α} (nodup : (xs.map key).Nodup)
    {x : α} (member : x ∈ xs) {f : α → List β} (others : ∀ y ∈ xs, key y ≠ key x → f y = []) :
    xs.flatMap f = f x := by
  induction xs with
  | nil => cases member
  | cons y xs ih =>
    obtain ⟨fresh, nodup⟩ := List.nodup_cons.mp nodup
    have rest : ∀ z ∈ xs, key z ≠ key x → f z = [] := fun z later =>
      others z (List.mem_cons_of_mem _ later)
    rw [List.flatMap_cons]
    rcases List.mem_cons.mp member with rfl | later
    · have none : xs.flatMap f = [] := by
        refine List.flatMap_eq_nil_iff.mpr fun z later => rest z later fun same => fresh ?_
        exact same ▸ List.mem_map_of_mem later
      rw [none, List.append_nil]
    · have apart : key y ≠ key x := fun same => fresh (same ▸ List.mem_map_of_mem later)
      rw [others y List.mem_cons_self apart, List.nil_append, ih nodup later rest]

section Texts

variable {a b : String}

theorem notAfter_iff : (!decide (b < a)) = true ↔ a ≤ b := by
  rw [Bool.not_eq_true', decide_eq_false_iff_not, String.not_lt]

theorem notAfter_total (a b : String) : (!decide (b < a)) = true ∨ (!decide (a < b)) = true := by
  rw [notAfter_iff, notAfter_iff]
  exact String.le_total a b

theorem notAfter_trans (a b c : String) (first : (!decide (b < a)) = true)
    (second : (!decide (c < b)) = true) : (!decide (c < a)) = true :=
  notAfter_iff.mpr (String.le_trans (notAfter_iff.mp first) (notAfter_iff.mp second))

theorem pairwise_lt {names : List String}
    (sorted : names.Pairwise fun a b => (!decide (b < a)) = true) (distinct : names.Nodup) :
    names.Pairwise (· < ·) :=
  (sorted.and distinct).imp fun ⟨before, other⟩ => String.not_le.mp fun after =>
    other (String.le_antisymm (notAfter_iff.mp before) after)

end Texts

-- Items by key: keys in the order in which they first come, and under each key its items in the
-- order in which these come.
def grouped (key : α → κ) (items : α → List β) (xs : List α) : List (κ × List β) :=
  (xs.map key).eraseDups.map fun k => (k, (xs.filter fun x => key x == k).flatMap items)

theorem filter_eraseDups (p : κ → Bool) (xs : List κ) :
    xs.eraseDups.filter p = (xs.filter p).eraseDups := by
  match xs with
  | [] => rfl
  | x :: xs =>
    rw [List.eraseDups_cons, List.filter_cons, List.filter_cons, filter_eraseDups]
    split
    · rw [List.eraseDups_cons, List.filter_filter, List.filter_filter]
      simp only [Bool.and_comm]
    · next dropped =>
      rw [List.filter_filter]
      congr 1
      refine List.filter_congr fun y _ => ?_
      by_cases same : y = x
      · subst same; simp [dropped]
      · simp [same]
termination_by xs.length
decreasing_by exact Nat.lt_succ_of_le (List.length_filter_le _ _)

theorem nodup_eraseDups (xs : List κ) : xs.eraseDups.Nodup := by
  match xs with
  | [] => exact List.nodup_nil
  | x :: xs =>
    rw [List.eraseDups_cons]
    refine List.nodup_cons.mpr ⟨?_, nodup_eraseDups _⟩
    simp [List.mem_eraseDups]
termination_by xs.length
decreasing_by exact Nat.lt_succ_of_le (List.length_filter_le _ _)

theorem eraseDups_concat (xs : List κ) (x : κ) :
    (xs ++ [x]).eraseDups = if x ∈ xs then xs.eraseDups else xs.eraseDups ++ [x] := by
  split
  · next seen => simp [List.eraseDups_append, List.removeAll, seen]
  · next fresh => simp [List.eraseDups_append, List.removeAll, fresh, List.eraseDups_cons]

theorem append_absent {ks : List κ} {k : κ} (absent : k ∉ ks) (g : κ → List β)
    (items : List β) :
    append k items (ks.map fun l => (l, g l)) = (ks.map fun l => (l, g l)) ++ [(k, items)] := by
  induction ks with
  | nil => rfl
  | cons l ks ih =>
    obtain ⟨other, rest⟩ := not_or.mp (List.mem_cons.not.mp absent)
    simp [append, Ne.symm other, ih rest]

theorem append_present {ks : List κ} {k : κ} (nodup : ks.Nodup) (present : k ∈ ks)
    (g : κ → List β) (items : List β) :
    append k items (ks.map fun l => (l, g l)) =
      ks.map fun l => (l, if l == k then g l ++ items else g l) := by
  induction ks with
  | nil => cases present
  | cons l ks ih =>
    obtain ⟨fresh, nodup⟩ := List.nodup_cons.mp nodup
    by_cases same : l = k
    · subst same
      simp only [List.map_cons, append, beq_self_eq_true, if_true]
      congr 1
      refine List.map_congr_left fun m member => ?_
      have other : m ≠ l := fun eq => fresh (eq ▸ member)
      simp [other]
    · have rest : k ∈ ks := (List.mem_cons.mp present).resolve_left (Ne.symm same)
      simp [append, same, ih nodup rest]

theorem append_grouped (key : α → κ) (items : α → List β) (xs : List α) (x : α) :
    append (key x) (items x) (grouped key items xs) = grouped key items (xs ++ [x]) := by
  unfold grouped
  by_cases seen : key x ∈ xs.map key
  · have keys : ((xs ++ [x]).map key).eraseDups = (xs.map key).eraseDups := by
      rw [List.map_append, List.map_singleton, eraseDups_concat, if_pos seen]
    rw [keys, append_present (nodup_eraseDups _) (List.mem_eraseDups.mpr seen)]
    refine List.map_congr_left fun k _ => ?_
    by_cases same : k = key x
    · simp [same]
    · simp [same, Ne.symm same]
  · have keys : ((xs ++ [x]).map key).eraseDups = (xs.map key).eraseDups ++ [key x] := by
      rw [List.map_append, List.map_singleton, eraseDups_concat, if_neg seen]
    rw [keys, append_absent (List.mem_eraseDups.not.mpr seen), List.map_append]
    congr 1
    · refine List.map_congr_left fun k member => ?_
      have other : key x ≠ k := fun eq => seen (eq ▸ List.mem_eraseDups.mp member)
      simp [other]
    · have none : xs.filter (fun y => key y == key x) = [] := by
        refine List.filter_eq_nil_iff.mpr fun y member same => seen ?_
        exact beq_iff_eq.mp same ▸ List.mem_map_of_mem member
      simp [none]

theorem foldl_append (key : α → κ) (items : α → List β) (xs : List α) :
    xs.foldl (fun groups x => append (key x) (items x) groups) [] = grouped key items xs := by
  induction xs using List.reverseRecOn with
  | nil => rfl
  | append_singleton xs x ih =>
    rw [List.foldl_append, ih]
    exact append_grouped key items xs x

theorem mem_of_get? {table : List (κ × α)} {key : κ} {value : α}
    (found : get? table key = some value) : (key, value) ∈ table := by
  obtain ⟨before, after, shape, _⟩ := List.lookup_eq_some_iff.mp found
  simp [shape]

omit [LawfulBEq κ] in
theorem get?_cons (key other : κ) (value : α) (table : List (κ × α)) :
    get? ((key, value) :: table) other = if other == key then some value else get? table other := by
  unfold get?
  rw [List.lookup_cons]
  cases other == key <;> rfl

theorem get?_eq_none_iff {table : List (κ × α)} {key : κ} :
    get? table key = none ↔ key ∉ keys table := by
  rw [get?, List.lookup_eq_none_iff, keys, List.mem_map]
  constructor
  · rintro apart ⟨entry, member, rfl⟩
    exact bne_iff_ne.mp (apart entry member) rfl
  · exact fun absent entry member => bne_iff_ne.mpr fun same => absent ⟨entry, member, same.symm⟩

theorem get?_eq_some_iff {table : List (κ × α)} (nodup : (keys table).Nodup) {key : κ} {value : α} :
    get? table key = some value ↔ (key, value) ∈ table := by
  refine ⟨mem_of_get?, fun member => ?_⟩
  obtain ⟨before, after, rfl⟩ := List.mem_iff_append.mp member
  rw [keys, List.map_append] at nodup
  obtain ⟨_, _, apart⟩ := List.nodup_append.mp nodup
  refine List.lookup_eq_some_iff.mpr ⟨before, after, rfl, fun entry earlier => bne_iff_ne.mpr ?_⟩
  exact Ne.symm (apart _ (List.mem_map_of_mem earlier) _ List.mem_cons_self)

theorem get?_eq_iff_perm {table other : List (κ × α)} (nodup : (keys table).Nodup)
    (nodup' : (keys other).Nodup) : get? table = get? other ↔ table.Perm other := by
  constructor
  · intro same
    refine (List.perm_ext_iff_of_nodup (nodup.of_map _) (nodup'.of_map _)).mpr ?_
    rintro ⟨key, value⟩
    rw [← get?_eq_some_iff nodup, ← get?_eq_some_iff nodup', same]
  · intro perm
    funext key
    refine Option.ext fun value => ?_
    rw [get?_eq_some_iff nodup, get?_eq_some_iff nodup', perm.mem_iff]

theorem get?_put (table : List (κ × α)) (key other : κ) (value : α) :
    get? (put key value table) other = if other == key then some value else get? table other := by
  induction table with
  | nil => exact get?_cons key other value []
  | cons entry table ih =>
    obtain ⟨k, v⟩ := entry
    unfold put
    by_cases named : k = key
    · subst named
      rw [if_pos (beq_self_eq_true k), get?_cons, get?_cons]
      split <;> rfl
    · rw [if_neg (mt beq_iff_eq.mp named), get?_cons, get?_cons, ih]
      by_cases same : other = k
      · simp [same, named]
      · simp [same]

theorem get?_filter (keeps : κ → Bool) (table : List (κ × α)) (key : κ) :
    get? (table.filter fun entry => keeps entry.1) key =
      if keeps key then get? table key else none := by
  induction table with
  | nil => exact (ite_self none).symm
  | cons entry table ih =>
    obtain ⟨k, v⟩ := entry
    rw [List.filter_cons, get?_cons]
    by_cases same : key = k
    · subst same
      by_cases kept : keeps key = true <;> simp [kept, get?_cons, ih]
    · by_cases kept : keeps k = true <;> simp [kept, get?_cons, same, ih]

theorem lookup_map {ks : List κ} (g : κ → β) (k : κ) :
    get? (ks.map fun l => (l, g l)) k = if k ∈ ks then some (g k) else none := by
  induction ks with
  | nil => rfl
  | cons l ks ih =>
    rw [List.map_cons, get?_cons, ih]
    by_cases same : k = l
    · subst same
      simp
    · simp [same]

theorem get?_grouped (key : α → κ) (items : α → List β) (xs : List α) (k : κ) :
    (get? (grouped key items xs) k).getD [] = (xs.filter fun x => key x == k).flatMap items := by
  rw [grouped, lookup_map]
  by_cases seen : k ∈ (xs.map key).eraseDups
  · rw [if_pos seen, Option.getD_some]
  · have none : xs.filter (fun x => key x == k) = [] := by
      refine List.filter_eq_nil_iff.mpr fun x member same => seen (List.mem_eraseDups.mpr ?_)
      exact beq_iff_eq.mp same ▸ List.mem_map_of_mem member
    rw [if_neg seen, none]
    rfl

theorem filter_grouped (p : κ → Bool) (key : α → κ) (items : α → List β) (xs : List α) :
    (grouped key items xs).filter (fun group => p group.1) =
      grouped key items (xs.filter fun x => p (key x)) := by
  have keys : ((xs.filter fun x => p (key x)).map key).eraseDups =
      (xs.map key).eraseDups.filter p := by
    rw [filter_eraseDups, List.filter_map]; rfl
  unfold grouped
  rw [keys, List.filter_map]
  refine List.map_congr_left fun k member => ?_
  have wanted : p k = true := (List.mem_filter.mp member).2
  rw [List.filter_filter]
  congr 2
  refine List.filter_congr fun x _ => ?_
  by_cases same : key x = k
  · simp [same, wanted]
  · simp [same]

theorem filter_grouped_any (wanted : β → Bool) (p : κ → Bool) (key : α → κ) (items : α → List β)
    (xs : List α) (told : ∀ x ∈ xs, ∀ y ∈ items x, wanted y = p (key x))
    (nonempty : ∀ x ∈ xs, items x ≠ []) :
    (grouped key items xs).filter (fun group => group.2.any wanted) =
      grouped key items (xs.filter fun x => p (key x)) := by
  rw [← filter_grouped]
  refine List.filter_congr fun group listed => ?_
  obtain ⟨k, present, rfl⟩ := List.mem_map.mp listed
  obtain ⟨x, member, rfl⟩ := List.mem_map.mp (List.mem_eraseDups.mp present)
  have each : ∀ y ∈ (xs.filter fun z => key z == key x).flatMap items, wanted y = p (key x) := by
    intro y found
    obtain ⟨z, kept, own⟩ := List.mem_flatMap.mp found
    obtain ⟨inner, same⟩ := List.mem_filter.mp kept
    rw [told z inner y own, beq_iff_eq.mp same]
  obtain ⟨y, own⟩ := List.exists_mem_of_ne_nil _ (nonempty x member)
  have found : y ∈ (xs.filter fun z => key z == key x).flatMap items :=
    List.mem_flatMap.mpr ⟨x, List.mem_filter.mpr ⟨member, beq_self_eq_true _⟩, own⟩
  cases verdict : p (key x) with
  | true => exact List.any_eq_true.mpr ⟨y, found, (each y found).trans verdict⟩
  | false => exact List.any_eq_false.mpr fun z other => by simp [each z other, verdict]

omit [LawfulBEq κ] in
theorem flatten_append_perm (k : κ) (items : List β) (groups : List (κ × List β)) :
    (flatten (append k items groups)).Perm (flatten groups ++ items) := by
  induction groups with
  | nil => simp [append, flatten]
  | cons group groups ih =>
    obtain ⟨l, found⟩ := group
    simp only [flatten, List.flatMap_cons, append] at ih ⊢
    split
    · simp only [List.flatMap_cons, List.append_assoc]
      exact (List.perm_append_comm).append_left found
    · simpa only [List.flatMap_cons, List.append_assoc] using ih.append_left found

theorem flatten_grouped_perm (key : α → κ) (items : α → List β) (xs : List α) :
    (flatten (grouped key items xs)).Perm (xs.flatMap items) := by
  induction xs using List.reverseRecOn with
  | nil => exact .nil
  | append_singleton xs x ih =>
    rw [← append_grouped, List.flatMap_append, List.flatMap_singleton]
    exact (flatten_append_perm _ _ _).trans (ih.append_right (items x))

end SloCompiler.Ordered
