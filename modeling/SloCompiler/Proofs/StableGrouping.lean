import SloCompiler.Proofs.Ordered
import SloCompiler.Rule.Recording

namespace SloCompiler

namespace Ordered

variable {κ α β : Type} [BEq κ] [LawfulBEq κ]

def keyed (groups : List (κ × List β)) : List (κ × β) :=
  groups.flatMap fun group => group.2.map fun item => (group.1, item)

omit [BEq κ] [LawfulBEq κ] in
theorem keyed_items (groups : List (κ × List β)) : (keyed groups).map (·.2) = flatten groups := by
  simp [keyed, flatten, List.map_flatMap, Function.comp_def]

theorem filter_keyed_group (k l : κ) (items : List β) :
    (items.map fun item => (l, item)).filter (·.1 == k) =
      if l == k then items.map fun item => (k, item) else [] := by
  by_cases same : l = k
  · subst same
    simp
  · simp [same]

theorem filter_keyed {groups : List (κ × List β)} (nodup : (keys groups).Nodup) (k : κ) :
    (keyed groups).filter (·.1 == k) =
      ((get? groups k).getD []).map fun item => (k, item) := by
  induction groups with
  | nil => rfl
  | cons group groups ih =>
    obtain ⟨l, items⟩ := group
    obtain ⟨fresh, nodup⟩ := List.nodup_cons.mp nodup
    have shape : keyed ((l, items) :: groups) =
        (items.map fun item => (l, item)) ++ keyed groups := List.flatMap_cons ..
    rw [shape, List.filter_append, filter_keyed_group, ih nodup, get?_cons]
    by_cases same : l = k
    · subst same
      simp [get?_eq_none_iff.mpr fresh]
    · simp [same, Ne.symm same]

def arrivals (key : α → κ) (items : α → List β) (xs : List α) : List (κ × β) :=
  xs.flatMap fun x => (items x).map fun item => (key x, item)

theorem filter_arrivals (key : α → κ) (items : α → List β) (xs : List α) (k : κ) :
    (arrivals key items xs).filter (·.1 == k) =
      ((xs.filter fun x => key x == k).flatMap items).map fun item => (k, item) := by
  induction xs with
  | nil => rfl
  | cons x xs ih =>
    have shape : arrivals key items (x :: xs) =
        ((items x).map fun item => (key x, item)) ++ arrivals key items xs := List.flatMap_cons ..
    rw [shape, List.filter_append, filter_keyed_group, ih, List.filter_cons]
    split <;> simp

theorem keyed_grouped (key : α → κ) (items : α → List β) (xs : List α) (k : κ) :
    (keyed (grouped key items xs)).filter (·.1 == k) =
      (arrivals key items xs).filter (·.1 == k) := by
  have nodup : (keys (grouped key items xs)).Nodup := by
    simpa [keys, grouped, Function.comp_def] using nodup_eraseDups (xs.map key)
  rw [filter_keyed nodup, get?_grouped, filter_arrivals]

end Ordered

namespace RecordingGroups

structure Addition where
  product : String
  interval : String
  rules : List RecordingRule

def Addition.key (a : Addition) : String × String := (a.product, a.interval)

def addAll (groups : RecordingGroups) (additions : List Addition) : RecordingGroups :=
  additions.foldl (fun groups a => groups.add a.product a.interval a.rules) groups

-- Groups that are a partition of the rules added: one for each product and interval, and in it the
-- rules for these in the order in which they came.
structure Partitions (additions : List Addition) (groups : RecordingGroups) : Prop where
  document : groups.document = (additions.map (·.key)).eraseDups.map fun key =>
    ⟨groupName key.1 key.2, key.2, (additions.filter (·.key == key)).flatMap (·.rules)⟩
  rules : groups.rules = groups.document.flatMap (·.rules)
  kept : groups.rules.Perm (additions.flatMap (·.rules))
  placed : groups.rules = (Ordered.keyed groups).map (·.2)
  order : ∀ key, (Ordered.keyed groups).filter (·.1 == key) =
    (Ordered.arrivals Addition.key Addition.rules additions).filter (·.1 == key)

theorem document_rules (groups : RecordingGroups) :
    groups.document.flatMap (·.rules) = groups.rules := List.flatMap_map ..

theorem addAll_grouped (additions : List Addition) :
    addAll [] additions = Ordered.grouped Addition.key Addition.rules additions :=
  Ordered.foldl_append _ _ _

theorem addAll_partitions (additions : List Addition) :
    Partitions additions (addAll [] additions) where
  document := by
    rw [addAll_grouped, document, Ordered.grouped, List.map_map]
    rfl
  rules := (document_rules _).symm
  kept := by
    rw [addAll_grouped]
    exact Ordered.flatten_grouped_perm _ _ _
  placed := (Ordered.keyed_items _).symm
  order key := by
    rw [addAll_grouped]
    exact Ordered.keyed_grouped _ _ _ key

end RecordingGroups

end SloCompiler
