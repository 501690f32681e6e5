import Mathlib.Data.List.Flatten
import Mathlib.Data.List.Perm.Subperm
import SloCompiler.Build
import SloCompiler.Proofs.Entries
import SloCompiler.Proofs.Outcome

namespace SloCompiler

theorem forall₂_sublist {α β : Type} {R : α → β → Prop} {xs fewer : List α} {ys : List β}
    (each : List.Forall₂ R xs ys) (sub : fewer.Sublist xs) :
    ∃ ys', List.Forall₂ R fewer ys' ∧ ys'.Sublist ys := by
  induction each generalizing fewer with
  | nil => exact ⟨[], List.sublist_nil.mp sub ▸ .nil, .slnil⟩
  | @cons x y xs ys first _ ih =>
    cases sub with
    | cons _ sub =>
      obtain ⟨ys', rest, shorter⟩ := ih sub
      exact ⟨ys', rest, shorter.cons y⟩
    | cons_cons _ sub =>
      obtain ⟨ys', rest, shorter⟩ := ih sub
      exact ⟨y :: ys', .cons first rest, shorter.cons_cons y⟩

-- What is read from some of the values, in any order, is some of what is read from all.
theorem forall₂_subperm {α β : Type} {R : α → β → Prop} (unique : Relator.RightUnique R)
    {xs fewer : List α} {ys found : List β} (each : List.Forall₂ R xs ys)
    (sub : fewer.Subperm xs) (read : List.Forall₂ R fewer found) : found.Subperm ys := by
  obtain ⟨middle, perm, sub⟩ := sub
  obtain ⟨ys', kept, shorter⟩ := forall₂_sublist each sub
  obtain ⟨found', same, perm⟩ := List.perm_comp_forall₂ perm.symm kept
  rw [List.right_unique_forall₂' unique read same]
  exact ⟨ys', perm.symm, shorter⟩

def declaredSlis (v : Value) : List (Value × Value × Value) :=
  v.entries.flatMap fun (product, slis) =>
    slis.entries.map fun (sliId, spec) => (product, sliId, spec)

def ReadAs (raw : Value × Value × Value) (listed : Value × Value × SliSpec) : Prop :=
  listed.1 = raw.1 ∧ listed.2.1 = raw.2.1 ∧ SliSpec.read raw.2.2 raw.1 raw.2.1 = .ok listed.2.2

theorem readAs_unique : Relator.RightUnique ReadAs := by
  rintro ⟨product, sliId, raw⟩ ⟨p, s, spec⟩ ⟨p', s', spec'⟩ ⟨rfl, rfl, read⟩ ⟨rfl, rfl, read'⟩
  have same : spec = spec' := Except.ok.inj (read.symm.trans read')
  rw [same]

namespace SliTable

theorem readProduct_ok {product v : Value} {slis : List (Value × SliSpec)}
    (read : readProduct product v = .ok slis) :
    (∃ given, v = .map given) ∧
      List.Forall₂ ReadAs (v.entries.map fun (sliId, spec) => (product, sliId, spec))
        (slis.map fun (sliId, spec) => (product, sliId, spec)) := by
  unfold readProduct at read
  split at read
  · next given =>
    refine ⟨⟨given, rfl⟩, ?_⟩
    rw [List.forall₂_map_left_iff, List.forall₂_map_right_iff]
    refine (mapM_ok.mp read).imp fun raw listed made => ?_
    obtain ⟨spec, accepted, same⟩ := map_ok.mp made
    cases same
    exact ⟨rfl, rfl, accepted⟩
  · cases read

theorem read_rows {v : Value} {table : SliTable} (read : SliTable.read v = .ok table) :
    ∃ products : Entries, v = .map products ∧
      List.Forall₂ (fun e row => row.1 = e.1 ∧ readProduct e.1 e.2 = .ok row.2) products table := by
  unfold SliTable.read at read
  split at read
  · next products =>
    refine ⟨products, rfl, (mapM_ok.mp read).imp fun e row made => ?_⟩
    obtain ⟨slis, accepted, same⟩ := bind_ok.mp made
    cases same
    exact ⟨rfl, accepted⟩
  · cases read

theorem read_declared {v : Value} {table : SliTable} (read : SliTable.read v = .ok table) :
    List.Forall₂ ReadAs (declaredSlis v) (Mixin.entries table) := by
  obtain ⟨products, rfl, rows⟩ := read_rows read
  refine List.rel_flatMap rows ?_
  rintro ⟨product, v⟩ ⟨p, slis⟩ ⟨rfl, accepted⟩
  exact (readProduct_ok accepted).2

theorem read_exists {products : Entries} (maps : ∀ e ∈ products, ∃ given, e.2 = .map given)
    (readable : ∀ raw ∈ declaredSlis (.map products),
      ∃ spec, SliSpec.read raw.2.2 raw.1 raw.2.1 = .ok spec) :
    ∃ table, SliTable.read (.map products) = .ok table := by
  refine mapM_exists fun e member => ?_
  obtain ⟨product, v⟩ := e
  obtain ⟨given, rfl⟩ := maps _ member
  have each : ∀ s ∈ given, ∃ y, (SliSpec.read s.2 product s.1).map (fun spec => (s.1, spec)) =
      .ok y := by
    intro s listed
    obtain ⟨spec, accepted⟩ := readable (product, s.1, s.2)
      (List.mem_flatMap.mpr ⟨_, member, List.mem_map_of_mem listed⟩)
    exact ⟨_, map_ok.mpr ⟨spec, accepted, rfl⟩⟩
  obtain ⟨slis, made⟩ := mapM_exists each
  exact ⟨(product, slis), bind_ok.mpr ⟨slis, made, rfl⟩⟩

end SliTable

def ThinnedProduct (e thinned : Value × Value) : Prop :=
  ∃ slis fewer : Entries, e.2 = .map slis ∧ thinned = (e.1, .map fewer) ∧ fewer.Sublist slis

-- Some of the declared products, in any order, with some of their SLIs.
inductive Thinned : Value → Value → Prop where
  | intro {products kept thinned shuffled : Entries} (fewer : kept.Sublist products)
    (within : List.Forall₂ ThinnedProduct kept thinned) (order : shuffled.Perm thinned) :
    Thinned (.map products) (.map shuffled)

namespace Thinned

theorem declared {v thinned : Value} (less : Thinned v thinned) :
    (declaredSlis thinned).Subperm (declaredSlis v) := by
  cases less with
  | @intro products kept thinned shuffled fewer within order =>
    have inner : (declaredSlis (.map thinned)).Sublist (declaredSlis (.map kept)) := by
      clear fewer order
      induction within with
      | nil => exact .slnil
      | @cons e t kept thinned first _ ih =>
        obtain ⟨slis, given, shape, rfl, sub⟩ := first
        obtain ⟨product, v⟩ := e
        cases shape
        exact (sub.map _).append ih
    exact ((order.flatMap_right _).subperm).trans (inner.trans (fewer.flatMap _)).subperm

theorem maps {v : Value} {products : Entries} (less : Thinned v (.map products)) :
    ∀ e ∈ products, ∃ given, e.2 = .map given := by
  cases less with
  | intro fewer within order =>
    intro e member
    obtain ⟨before, _, slis, given, _, rfl, _⟩ := forall₂_left within.flip (order.mem_iff.mp member)
    exact ⟨given, rfl⟩

theorem read {v thinned : Value} (less : Thinned v thinned) {table : SliTable}
    (accepted : SliTable.read v = .ok table) :
    ∃ table', SliTable.read thinned = .ok table' ∧
      (Mixin.entries table').Subperm (Mixin.entries table) := by
  have all := SliTable.read_declared accepted
  have readable : ∀ raw ∈ declaredSlis thinned,
      ∃ spec, SliSpec.read raw.2.2 raw.1 raw.2.1 = .ok spec := by
    intro raw member
    obtain ⟨listed, _, _, _, made⟩ := forall₂_left all (less.declared.subset member)
    exact ⟨listed.2.2, made⟩
  obtain ⟨products, rfl⟩ : ∃ products, thinned = .map products := by
    cases less
    exact ⟨_, rfl⟩
  obtain ⟨table', made⟩ := SliTable.read_exists less.maps readable
  exact ⟨table', made, forall₂_subperm readAs_unique all less.declared (SliTable.read_declared made)⟩

end Thinned

def slisOf (product : String) (v : Value) : List Value :=
  (v.entries.filter (·.1.isText product)).map (·.2)

theorem declared_of_product (product : String) (v : Value) :
    (declaredSlis v).filter (·.1.isText product) =
      (slisOf product v).flatMap fun slis =>
        slis.entries.map fun (sliId, spec) => (.str product, sliId, spec) := by
  unfold declaredSlis slisOf
  induction v.entries with
  | nil => rfl
  | cons e products ih =>
    obtain ⟨key, slis⟩ := e
    rw [List.flatMap_cons, List.filter_append, ih, List.filter_cons]
    by_cases own : key.isText product = true
    · have all : (slis.entries.map fun (s : Value × Value) => (key, s.1, s.2)).filter
          (·.1.isText product) = slis.entries.map fun s => (key, s.1, s.2) := by
        refine List.filter_eq_self.mpr fun raw member => ?_
        obtain ⟨_, _, rfl⟩ := List.mem_map.mp member
        exact own
      rw [if_pos own, all, isText_iff.mp own]
      rfl
    · have none : (slis.entries.map fun (s : Value × Value) => (key, s.1, s.2)).filter
          (·.1.isText product) = [] := by
        refine List.filter_eq_nil_iff.mpr fun raw member => ?_
        obtain ⟨_, _, rfl⟩ := List.mem_map.mp member
        exact own
      rw [if_neg own, none, List.nil_append]

theorem entries_of_product {product : String} {v v' : Value} {table table' : SliTable}
    (read : SliTable.read v = .ok table) (read' : SliTable.read v' = .ok table')
    (same : slisOf product v' = slisOf product v) :
    (Mixin.entries table').filter (·.1.isText product) =
      (Mixin.entries table).filter (·.1.isText product) := by
  have keyed {w : Value} {t : SliTable} (made : SliTable.read w = .ok t) :
      List.Forall₂ ReadAs ((declaredSlis w).filter (·.1.isText product))
        ((Mixin.entries t).filter (·.1.isText product)) := by
    refine List.rel_filter ?_ (SliTable.read_declared made)
    rintro raw listed ⟨key, _, _⟩
    simp only [key]
  refine List.right_unique_forall₂' readAs_unique (keyed read') ?_
  rw [declared_of_product, same, ← declared_of_product]
  exact keyed read

end SloCompiler
