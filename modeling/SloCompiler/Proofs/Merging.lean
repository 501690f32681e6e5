import SloCompiler.Labels
import SloCompiler.Proofs.Ordered
import SloCompiler.Selector.Clause

namespace SloCompiler

namespace Ordered

variable {κ α : Type} [BEq κ] [LawfulBEq κ]

theorem eraseDups_of_nodup {xs : List κ} (nodup : xs.Nodup) : xs.eraseDups = xs := by
  induction xs using List.reverseRecOn with
  | nil => rfl
  | append_singleton xs x ih =>
    obtain ⟨before, _, apart⟩ := List.nodup_append.mp nodup
    have fresh : x ∉ xs := fun seen => apart x seen x (List.mem_singleton_self x) rfl
    rw [eraseDups_concat, if_neg fresh, ih before]

theorem eraseDups_append_left (xs ys : List κ) :
    (xs.eraseDups ++ ys).eraseDups = (xs ++ ys).eraseDups := by
  have listed : ys.removeAll xs.eraseDups = ys.removeAll xs :=
    List.filter_congr fun y _ => by simp [List.mem_eraseDups]
  rw [List.eraseDups_append, List.eraseDups_append, eraseDups_of_nodup (nodup_eraseDups xs), listed]

theorem eraseDups_append_right (xs ys : List κ) :
    (xs ++ ys.eraseDups).eraseDups = (xs ++ ys).eraseDups := by
  rw [List.eraseDups_append, List.eraseDups_append, List.removeAll, filter_eraseDups,
    eraseDups_of_nodup (nodup_eraseDups _), ← List.removeAll]

omit [BEq κ] [LawfulBEq κ] in
theorem keys_append (table pairs : List (κ × α)) :
    keys (table ++ pairs) = keys table ++ keys pairs := List.map_append

omit [LawfulBEq κ] in
theorem get?_append (table pairs : List (κ × α)) (key : κ) :
    get? (table ++ pairs) key = (get? table key).or (get? pairs key) := List.lookup_append

theorem eq_of_keys {table other : List (κ × α)} (nodup : (keys table).Nodup)
    (same : keys table = keys other) (values : ∀ key, get? table key = get? other key) :
    table = other := by
  have lengths : table.length = other.length := by simpa [keys] using congrArg List.length same
  refine List.ext_getElem lengths fun i inside inside' => ?_
  have named : table[i].1 = other[i].1 := by
    have listed : i < (keys table).length := by simpa [keys] using inside
    simpa [keys] using List.getElem_of_eq same listed
  have value : get? table table[i].1 = some table[i].2 :=
    (get?_eq_some_iff nodup).mpr (List.getElem_mem inside)
  have value' : get? other other[i].1 = some other[i].2 :=
    (get?_eq_some_iff (same ▸ nodup)).mpr (List.getElem_mem inside')
  rw [values, named, value'] at value
  exact Prod.ext named (Option.some.inj value).symm

theorem keys_put (key : κ) (value : α) (table : List (κ × α)) :
    keys (put key value table) = if key ∈ keys table then keys table else keys table ++ [key] := by
  induction table with
  | nil => rfl
  | cons entry table ih =>
    obtain ⟨k, v⟩ := entry
    by_cases same : k = key
    · simp [put, keys, same]
    · have rest : keys ((k, v) :: table) = k :: keys table := rfl
      have apart : key ≠ k := Ne.symm same
      rw [put, if_neg (by simpa using same), keys, List.map_cons, ← keys, ih, rest]
      by_cases seen : key ∈ keys table <;> simp [seen, apart]

omit [LawfulBEq κ] in
theorem ofPairs_concat (pairs : List (κ × α)) (key : κ) (value : α) :
    ofPairs (pairs ++ [(key, value)]) = put key value (ofPairs pairs) := List.foldl_concat ..

theorem keys_ofPairs (pairs : List (κ × α)) : keys (ofPairs pairs) = (keys pairs).eraseDups := by
  induction pairs using List.reverseRecOn with
  | nil => rfl
  | append_singleton pairs entry ih =>
    have last : keys [entry] = [entry.1] := rfl
    rw [ofPairs_concat, keys_put, ih, keys_append, last, eraseDups_concat]
    simp only [List.mem_eraseDups]

theorem get?_ofPairs (pairs : List (κ × α)) (key : κ) :
    get? (ofPairs pairs) key = get? pairs.reverse key := by
  induction pairs using List.reverseRecOn with
  | nil => rfl
  | append_singleton pairs entry ih =>
    rw [ofPairs_concat, get?_put, ih, List.reverse_concat, get?_cons]

theorem ofPairs_nodup (pairs : List (κ × α)) : (keys (ofPairs pairs)).Nodup :=
  keys_ofPairs pairs ▸ nodup_eraseDups _

theorem get?_reverse {table : List (κ × α)} (nodup : (keys table).Nodup) (key : κ) :
    get? table.reverse key = get? table key := by
  have nodup' : (keys table.reverse).Nodup := by
    rw [keys, List.map_reverse]
    exact List.nodup_reverse.mpr nodup
  exact congrFun ((get?_eq_iff_perm nodup' nodup).mpr (List.reverse_perm table)) key

theorem ofPairs_congr {pairs other : List (κ × α)}
    (order : (keys pairs).eraseDups = (keys other).eraseDups)
    (values : ∀ key, get? pairs.reverse key = get? other.reverse key) :
    ofPairs pairs = ofPairs other := by
  refine eq_of_keys (ofPairs_nodup pairs) ?_ fun key => ?_
  · rw [keys_ofPairs, keys_ofPairs, order]
  · rw [get?_ofPairs, get?_ofPairs, values]

theorem ofPairs_self {table : List (κ × α)} (nodup : (keys table).Nodup) :
    ofPairs table = table := by
  refine eq_of_keys (ofPairs_nodup table) ?_ fun key => ?_
  · rw [keys_ofPairs, eraseDups_of_nodup nodup]
  · rw [get?_ofPairs, get?_reverse nodup]

theorem ofPairs_twice (pairs : List (κ × α)) : ofPairs (pairs ++ pairs) = ofPairs pairs := by
  refine ofPairs_congr ?_ fun key => ?_
  · have listed : (keys pairs).removeAll (keys pairs) = [] :=
      List.filter_eq_nil_iff.mpr fun key member => by simpa using member
    rw [keys_append, List.eraseDups_append, listed, List.eraseDups_nil, List.append_nil]
  · rw [List.reverse_append, get?_append, Option.or_self]

theorem ofPairs_append_left (pairs more : List (κ × α)) :
    ofPairs (ofPairs pairs ++ more) = ofPairs (pairs ++ more) := by
  refine ofPairs_congr ?_ fun key => ?_
  · rw [keys_append, keys_append, keys_ofPairs, eraseDups_append_left]
  · rw [List.reverse_append, List.reverse_append, get?_append, get?_append,
      get?_reverse (ofPairs_nodup pairs), get?_ofPairs]

theorem ofPairs_append_right (pairs more : List (κ × α)) :
    ofPairs (pairs ++ ofPairs more) = ofPairs (pairs ++ more) := by
  refine ofPairs_congr ?_ fun key => ?_
  · rw [keys_append, keys_append, keys_ofPairs, eraseDups_append_right]
  · rw [List.reverse_append, List.reverse_append, get?_append, get?_append,
      get?_reverse (ofPairs_nodup more), get?_ofPairs]

end Ordered

namespace Labels

def entries (sets : List (Option Labels)) : Labels := sets.flatMap (·.getD [])

-- The labels of several sets as one set: names where they first come, with the values that they
-- have last.
structure Merged (sets : List (Option Labels)) (merged : Labels) : Prop where
  names : Ordered.keys merged = (sets.flatMap fun set => Ordered.keys (set.getD [])).eraseDups
  values : ∀ name, Ordered.get? merged name = Ordered.get? (entries sets).reverse name

theorem merge_eq (sets : List (Option Labels)) : merge sets = Ordered.ofPairs (entries sets) :=
  List.foldl_flatMap.symm

theorem merge_merged (sets : List (Option Labels)) : Merged sets (merge sets) where
  names := by
    rw [merge_eq, Ordered.keys_ofPairs, Ordered.keys, entries, List.map_flatMap]
    rfl
  values name := by rw [merge_eq, Ordered.get?_ofPairs]

theorem merge_neutral {set : Option Labels} (empty : set.getD [] = [])
    (before after : List (Option Labels)) :
    merge (before ++ set :: after) = merge (before ++ after) := by
  simp only [merge_eq, entries, List.flatMap_append, List.flatMap_cons, empty, List.nil_append]

theorem entries_pair (a b : Option Labels) : entries [a, b] = a.getD [] ++ b.getD [] := by
  simp [entries]

theorem entries_triple (a b c : Option Labels) :
    entries [a, b, c] = a.getD [] ++ (b.getD [] ++ c.getD []) := by
  simp [entries]

theorem merge_earlier (a b c : Option Labels) :
    merge [some (merge [a, b]), c] = merge [a, b, c] := by
  rw [merge_eq, entries_pair, Option.getD_some, merge_eq, Ordered.ofPairs_append_left, merge_eq,
    entries_pair, entries_triple, List.append_assoc]

theorem merge_later (a b c : Option Labels) :
    merge [a, some (merge [b, c])] = merge [a, b, c] := by
  rw [merge_eq, entries_pair, Option.getD_some, merge_eq, Ordered.ofPairs_append_right, merge_eq,
    entries_pair, entries_triple]

theorem merge_self_iff (labels : Labels) :
    merge [some labels, some labels] = labels ↔ (Ordered.keys labels).Nodup := by
  rw [merge_eq, entries_pair, Option.getD_some, Ordered.ofPairs_twice]
  exact ⟨fun same => same ▸ Ordered.ofPairs_nodup labels, Ordered.ofPairs_self⟩

end Labels

namespace Clause

def byLabel (clauses : List Clause) : List (String × Clause) := clauses.map fun c => (c.label, c)

structure Merged (groups : List (List Clause)) (merged : List Clause) : Prop where
  labels : merged.map (·.label) = (groups.flatten.map (·.label)).eraseDups
  distinct : (merged.map (·.label)).Nodup
  last : ∀ label, merged.find? (·.label == label) =
    groups.flatten.reverse.find? (·.label == label)

theorem byLabel_append (clauses more : List Clause) :
    byLabel (clauses ++ more) = byLabel clauses ++ byLabel more := List.map_append

theorem keys_byLabel (clauses : List Clause) :
    Ordered.keys (byLabel clauses) = clauses.map (·.label) := by
  simp [byLabel, Ordered.keys]

theorem get?_byLabel (clauses : List Clause) (label : String) :
    Ordered.get? (byLabel clauses) label = clauses.find? (·.label == label) := by
  induction clauses with
  | nil => rfl
  | cons c clauses ih =>
    have shape : byLabel (c :: clauses) = (c.label, c) :: byLabel clauses := rfl
    rw [shape, Ordered.get?_cons, List.find?_cons, BEq.comm, ih]
    cases c.label == label <;> rfl

theorem byLabel_injective : Function.Injective byLabel := by
  intro clauses other same
  simpa [byLabel, Function.comp_def] using congrArg (List.map Prod.snd) same

theorem byLabel_merge (groups : List (List Clause)) :
    byLabel (merge groups) = Ordered.ofPairs (byLabel groups.flatten) := by
  have own : ∀ entry ∈ Ordered.ofPairs (byLabel groups.flatten),
      (entry.2.label, entry.2) = entry := by
    rintro ⟨label, c⟩ listed
    have found := (Ordered.get?_eq_some_iff (Ordered.ofPairs_nodup _)).mpr listed
    rw [Ordered.get?_ofPairs] at found
    obtain ⟨d, _, same⟩ := List.mem_map.mp (List.mem_reverse.mp (Ordered.mem_of_get? found))
    cases same
    rfl
  rw [merge, ← byLabel, byLabel, List.map_map]
  exact (List.map_congr_left own).trans (List.map_id _)

theorem merge_merged (groups : List (List Clause)) : Merged groups (merge groups) := by
  have labels : (merge groups).map (·.label) = (groups.flatten.map (·.label)).eraseDups := by
    rw [← keys_byLabel, byLabel_merge, Ordered.keys_ofPairs, keys_byLabel]
  refine ⟨labels, labels ▸ Ordered.nodup_eraseDups _, fun label => ?_⟩
  rw [← get?_byLabel, byLabel_merge, Ordered.get?_ofPairs, ← get?_byLabel, byLabel, byLabel,
    List.map_reverse]

theorem merge_flatten (groups : List (List Clause)) : merge [groups.flatten] = merge groups := by
  rw [merge, merge, List.flatten_singleton]

theorem merge_pair (clauses more : List Clause) :
    byLabel (merge [clauses, more]) = Ordered.ofPairs (byLabel clauses ++ byLabel more) := by
  rw [byLabel_merge, ← byLabel_append]
  simp

theorem merge_triple (x y z : List Clause) :
    byLabel (merge [x, y, z]) = Ordered.ofPairs (byLabel x ++ (byLabel y ++ byLabel z)) := by
  rw [byLabel_merge, ← byLabel_append, ← byLabel_append]
  simp

theorem merge_earlier (x y z : List Clause) : merge [merge [x, y], z] = merge [x, y, z] := by
  apply byLabel_injective
  rw [merge_pair, merge_pair, Ordered.ofPairs_append_left, merge_triple, List.append_assoc]

theorem merge_later (x y z : List Clause) : merge [x, merge [y, z]] = merge [x, y, z] := by
  apply byLabel_injective
  rw [merge_pair, merge_pair, Ordered.ofPairs_append_right, merge_triple]

theorem merge_again (groups : List (List Clause)) :
    merge [merge groups, merge groups] = merge groups := by
  apply byLabel_injective
  rw [merge_pair, Ordered.ofPairs_twice, byLabel_merge,
    Ordered.ofPairs_self (Ordered.ofPairs_nodup _)]

end Clause

-- Label sets and groups of clauses are joined in order, and the last one wins: it makes no
-- difference which of them are joined first, and what is joined with itself stays as it is.
theorem merging_lastWins (sets before after : List (Option Labels)) (a b c : Option Labels)
    (labels : Labels) (groups : List (List Clause)) (x y z : List Clause) :
    (Labels.Merged sets (Labels.merge sets) ∧
      Labels.merge (before ++ none :: after) = Labels.merge (before ++ after) ∧
      Labels.merge (before ++ some [] :: after) = Labels.merge (before ++ after) ∧
      Labels.merge [some (Labels.merge [a, b]), c] = Labels.merge [a, b, c] ∧
      Labels.merge [a, some (Labels.merge [b, c])] = Labels.merge [a, b, c] ∧
      (Labels.merge [some labels, some labels] = labels ↔ (Ordered.keys labels).Nodup)) ∧
    Clause.Merged groups (Clause.merge groups) ∧
      Clause.merge [groups.flatten] = Clause.merge groups ∧
      Clause.merge [Clause.merge [x, y], z] = Clause.merge [x, y, z] ∧
      Clause.merge [x, Clause.merge [y, z]] = Clause.merge [x, y, z] ∧
      Clause.merge [Clause.merge groups, Clause.merge groups] = Clause.merge groups :=
  ⟨⟨Labels.merge_merged sets, Labels.merge_neutral rfl before after,
      Labels.merge_neutral rfl before after, Labels.merge_earlier a b c, Labels.merge_later a b c,
      Labels.merge_self_iff labels⟩,
    Clause.merge_merged groups, Clause.merge_flatten groups, Clause.merge_earlier x y z,
    Clause.merge_later x y z, Clause.merge_again groups⟩

example : Labels.merge [some [("job", "a"), ("env", "dev")], none, some [("job", "b")]] =
    [("job", "b"), ("env", "dev")] := by decide

end SloCompiler
