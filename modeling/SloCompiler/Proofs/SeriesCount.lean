import Mathlib.Data.Set.Card
import SloCompiler.Proofs.RuleChecks

namespace SloCompiler.Check

def series (r : RecordingRule) : String × (String → Option String) :=
  (r.record, Ordered.get? r.labels)

theorem series_eq_iff {r s : RecordingRule} (keyed : (Ordered.keys r.labels).Nodup)
    (keyed' : (Ordered.keys s.labels).Nodup) : series r = series s ↔ seriesKey r = seriesKey s := by
  rw [seriesKey_eq_iff, series, series, Prod.mk.injEq, Ordered.get?_eq_iff_perm keyed keyed']

theorem seriesFrom_cons (seen : List (String × Labels)) (r : RecordingRule)
    (rules : List RecordingRule) : (seriesFrom seen (r :: rules)).length =
      (if seriesKey r ∈ seen then 1 else 0) + (seriesFrom (seriesKey r :: seen) rules).length := by
  rw [seriesFrom, List.length_append, ← seriesKey]
  congr 1
  by_cases repeated : seriesKey r ∈ seen
  · rw [if_pos repeated, if_pos (List.contains_iff_mem.mpr repeated), List.length_singleton]
  · rw [if_neg repeated, if_neg (List.contains_iff_mem.not.mpr repeated), List.length_nil]

-- Each rule has a finding or adds a key to those seen.
theorem seriesFrom_length (seen : List (String × Labels)) (rules : List RecordingRule) :
    (seriesFrom seen rules).length + (seen.toFinset ∪ (rules.map seriesKey).toFinset).card =
      rules.length + seen.toFinset.card := by
  induction rules generalizing seen with
  | nil => simp [seriesFrom]
  | cons r rules ih =>
    have rest := ih (seriesKey r :: seen)
    rw [List.toFinset_cons, Finset.insert_union, ← Finset.union_insert, ← List.toFinset_cons,
      ← List.map_cons] at rest
    rw [seriesFrom_cons, List.length_cons]
    by_cases repeated : seriesKey r ∈ seen
    · rw [Finset.insert_eq_of_mem (List.mem_toFinset.mpr repeated)] at rest
      rw [if_pos repeated]
      omega
    · rw [Finset.card_insert_of_notMem (List.mem_toFinset.not.mpr repeated)] at rest
      rw [if_neg repeated]
      omega

theorem uniqueSeries_length (rules : List RecordingRule) :
    (uniqueSeries rules).length + (rules.map seriesKey).toFinset.card = rules.length := by
  simpa [uniqueSeries] using seriesFrom_length [] rules

def recordedSeries (rules : List RecordingRule) : Set (String × (String → Option String)) :=
  {s | ∃ r ∈ rules, series r = s}

def keySeries (key : String × Labels) : String × (String → Option String) :=
  (key.1, Ordered.get? key.2)

theorem sortLabels_keyed {labels : Labels} (keyed : (Ordered.keys labels).Nodup) :
    (Ordered.keys (sortLabels labels)).Nodup :=
  ((Ordered.sort_perm _ labels).map _).nodup_iff.mpr keyed

theorem keySeries_seriesKey {r : RecordingRule} (keyed : (Ordered.keys r.labels).Nodup) :
    keySeries (seriesKey r) = series r := by
  have same := (Ordered.get?_eq_iff_perm (sortLabels_keyed keyed) keyed).mpr (Ordered.sort_perm _ _)
  rw [keySeries, seriesKey, series, same]

theorem recordedSeries_ncard {rules : List RecordingRule}
    (keyed : ∀ r ∈ rules, (Ordered.keys r.labels).Nodup) :
    (recordedSeries rules).ncard = (rules.map seriesKey).toFinset.card := by
  have image : recordedSeries rules = keySeries '' (rules.map seriesKey).toFinset := by
    ext s
    simp only [recordedSeries, Set.mem_ofPred_eq, Set.mem_image, Finset.mem_coe, List.mem_toFinset,
      List.mem_map, exists_exists_and_eq_and]
    exact exists_congr fun r => and_congr_right fun member => by
      rw [keySeries_seriesKey (keyed r member)]
  have injective : Set.InjOn keySeries (rules.map seriesKey).toFinset := by
    intro key listed other listed' same
    obtain ⟨r, member, rfl⟩ := List.mem_map.mp (List.mem_toFinset.mp listed)
    obtain ⟨s, member', rfl⟩ := List.mem_map.mp (List.mem_toFinset.mp listed')
    rw [keySeries_seriesKey (keyed r member), keySeries_seriesKey (keyed s member')] at same
    exact (series_eq_iff (keyed r member) (keyed s member')).mp same
  rw [image, injective.ncard_image, Set.ncard_coe_finset]

theorem uniqueSeries_pairwise {rules : List RecordingRule}
    (keyed : ∀ r ∈ rules, (Ordered.keys r.labels).Nodup) :
    uniqueSeries rules = [] ↔ rules.Pairwise fun r s => series r ≠ series s := by
  rw [uniqueSeries_nil, List.Nodup, List.pairwise_map]
  exact List.Pairwise.iff_of_mem fun member member' =>
    (series_eq_iff (keyed _ member) (keyed _ member')).symm.not

def Rearranged (rules other : List RecordingRule) : Prop :=
  ∃ middle, rules.Perm middle ∧
    List.Forall₂ (fun r s => r.record = s.record ∧ r.labels.Perm s.labels) middle other

theorem Rearranged.length_eq {rules other : List RecordingRule} (moved : Rearranged rules other) :
    (uniqueSeries other).length = (uniqueSeries rules).length := by
  obtain ⟨middle, perm, each⟩ := moved
  have keys : middle.map seriesKey = other.map seriesKey := by
    rw [← List.forall₂_eq_eq_eq, List.forall₂_map_left_iff, List.forall₂_map_right_iff]
    exact each.imp fun _ _ => seriesKey_eq_iff.mpr
  have found := uniqueSeries_length rules
  have found' := uniqueSeries_length other
  rw [← keys, ← List.toFinset_eq_of_perm _ _ (perm.map seriesKey), ← each.length_eq,
    ← perm.length_eq] at found'
  omega

-- There is a finding for each rule but one for each series, and so none exactly if no series is
-- recorded twice; in what order rules and labels stand makes no difference.
theorem uniqueSeries_counts {rules : List RecordingRule}
    (keyed : ∀ r ∈ rules, (Ordered.keys r.labels).Nodup) :
    (uniqueSeries rules).length + (recordedSeries rules).ncard = rules.length ∧
      (uniqueSeries rules = [] ↔ rules.Pairwise fun r s => series r ≠ series s) ∧
      ∀ other, Rearranged rules other →
        (uniqueSeries other).length = (uniqueSeries rules).length :=
  ⟨recordedSeries_ncard keyed ▸ uniqueSeries_length rules, uniqueSeries_pairwise keyed,
    fun _ => Rearranged.length_eq⟩

def threefold : List RecordingRule := [
  ⟨"hits", "vector(1)", [("job", "api"), ("zone", "a")]⟩,
  ⟨"hits", "vector(2)", [("zone", "a"), ("job", "api")]⟩,
  ⟨"hits", "vector(1)", [("job", "api"), ("zone", "b")]⟩,
  ⟨"hits", "vector(1)", [("job", "api"), ("zone", "a")]⟩]

theorem threefold_counts :
    (∀ r ∈ threefold, (Ordered.keys r.labels).Nodup) ∧ (uniqueSeries threefold).length = 2 ∧
      ((uniqueSeries threefold).length + (recordedSeries threefold).ncard = threefold.length ∧
        (uniqueSeries threefold = [] ↔ threefold.Pairwise fun r s => series r ≠ series s) ∧
        ∀ other, Rearranged threefold other →
          (uniqueSeries other).length = (uniqueSeries threefold).length) := by
  have keyed : ∀ r ∈ threefold, (Ordered.keys r.labels).Nodup := by decide
  exact ⟨keyed, by decide, uniqueSeries_counts keyed⟩

end SloCompiler.Check
