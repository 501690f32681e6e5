import SloCompiler.Check.Rules
import SloCompiler.Proofs.Ordered

namespace SloCompiler.Check

-- What tells a series from all others: its record, and its labels in the order of their names.
def seriesKey (r : RecordingRule) : String × Labels := (r.record, sortLabels r.labels)

def Precedes (a b : String × String) : Prop := a.1 < b.1 ∨ a.1 = b.1 ∧ a.2 ≤ b.2

namespace Precedes

variable {a b c : String × String}

theorem total (a b : String × String) : Precedes a b ∨ Precedes b a := by
  by_cases before : a.1 < b.1
  · exact .inl (.inl before)
  · by_cases after : b.1 < a.1
    · exact .inr (.inl after)
    · have same : a.1 = b.1 := String.le_antisymm (String.not_lt.mp after) (String.not_lt.mp before)
      exact (String.le_total a.2 b.2).imp (fun le => .inr ⟨same, le⟩) fun le => .inr ⟨same.symm, le⟩

theorem trans (first : Precedes a b) (second : Precedes b c) : Precedes a c := by
  rcases first with first | ⟨same, le⟩ <;> rcases second with second | ⟨same', le'⟩
  · exact .inl (String.lt_trans first second)
  · exact .inl (same' ▸ first)
  · exact .inl (same ▸ second)
  · exact .inr ⟨same.trans same', String.le_trans le le'⟩

theorem antisymm (first : Precedes a b) (second : Precedes b a) : a = b := by
  rcases first with first | ⟨same, le⟩
  · rcases second with second | ⟨same, _⟩
    · exact absurd (String.lt_trans first second) (String.lt_irrefl _)
    · exact absurd (same ▸ first) (String.lt_irrefl _)
  · rcases second with second | ⟨_, le'⟩
    · exact absurd (same ▸ second) (String.lt_irrefl _)
    · exact Prod.ext same (String.le_antisymm le le')

end Precedes

theorem sortLabels_pairwise (labels : Labels) : (sortLabels labels).Pairwise Precedes := by
  have precedes {a b : String × String} :
      (decide (a.1 < b.1) || (a.1 == b.1 && !decide (b.2 < a.2))) = true ↔ Precedes a b := by
    rw [Bool.or_eq_true, Bool.and_eq_true, Bool.not_eq_true', decide_eq_true_iff, beq_iff_eq,
      decide_eq_false_iff_not, String.not_lt, Precedes]
  refine (Ordered.sort_pairwise ?_ ?_ labels).imp precedes.mp
  · intro a b
    rw [precedes, precedes]
    exact Precedes.total a b
  · intro a b c first second
    rw [precedes] at first second ⊢
    exact first.trans second

theorem sortLabels_eq_iff {labels other : Labels} :
    sortLabels labels = sortLabels other ↔ labels.Perm other := by
  have first : (sortLabels labels).Perm labels := Ordered.sort_perm _ _
  have second : (sortLabels other).Perm other := Ordered.sort_perm _ _
  constructor
  · exact fun same => first.symm.trans (same ▸ second)
  · exact fun perm => List.Perm.eq_of_pairwise (fun _ _ _ _ => Precedes.antisymm)
      (sortLabels_pairwise labels) (sortLabels_pairwise other)
      (first.trans (perm.trans second.symm))

theorem seriesKey_eq_iff {r s : RecordingRule} :
    seriesKey r = seriesKey s ↔ r.record = s.record ∧ r.labels.Perm s.labels := by
  rw [seriesKey, seriesKey, Prod.mk.injEq, sortLabels_eq_iff]

theorem findings_nil {rule : String} {defects : List RuleDefect} :
    findings rule defects = [] ↔ defects = [] := by
  rw [findings, List.map_eq_nil_iff]

theorem seriesFrom_nil (rules : List RecordingRule) (seen : List (String × Labels)) :
    seriesFrom seen rules = [] ↔
      (rules.map seriesKey).Nodup ∧ ∀ r ∈ rules, seriesKey r ∉ seen := by
  induction rules generalizing seen with
  | nil => simp [seriesFrom]
  | cons r rules ih =>
    simp only [seriesFrom, List.append_eq_nil_iff, ih, List.map_cons, List.nodup_cons,
      List.mem_cons, List.mem_map, not_exists, not_and, not_or, forall_eq_or_imp]
    constructor
    · rintro ⟨first, nodup, rest⟩
      refine ⟨⟨fun other member => (rest other member).1, nodup⟩, ?_,
        fun other member => (rest other member).2⟩
      intro repeated
      simp [seriesKey] at repeated
      simp [repeated] at first
    · rintro ⟨⟨apart, nodup⟩, first, rest⟩
      refine ⟨?_, nodup, fun other member => ⟨apart other member, rest other member⟩⟩
      rw [if_neg]
      simpa [seriesKey] using first

theorem uniqueSeries_nil (rules : List RecordingRule) :
    uniqueSeries rules = [] ↔ (rules.map seriesKey).Nodup := by
  rw [uniqueSeries, seriesFrom_nil]
  simp

def AlertSound (recorded : List String) (a : AlertingRule) : Prop :=
  expressionDefects a.expr = [] ∧ referencedNames a.expr recorded ≠ []

theorem alertsFrom_nil (recorded : List String) (alerts : List AlertingRule) (seen : List String) :
    alertsFrom recorded seen alerts = [] ↔
      (alerts.map (·.alert)).Nodup ∧ (∀ a ∈ alerts, a.alert ∉ seen) ∧
        ∀ a ∈ alerts, AlertSound recorded a := by
  induction alerts generalizing seen with
  | nil => simp [alertsFrom]
  | cons a alerts ih =>
    simp only [alertsFrom, List.append_eq_nil_iff, findings_nil, ih, List.map_cons,
      List.nodup_cons, List.mem_cons, List.mem_map, not_exists, not_and, not_or,
      forall_eq_or_imp, AlertSound]
    constructor
    · rintro ⟨⟨⟨first, readable⟩, reads⟩, nodup, rest, sound⟩
      refine ⟨⟨fun other member => (rest other member).1, nodup⟩,
        ⟨?_, fun other member => (rest other member).2⟩, ⟨readable, ?_⟩, sound⟩
      · intro repeated
        simp [repeated] at first
      · intro none
        simp [none] at reads
    · rintro ⟨⟨apart, nodup⟩, ⟨first, rest⟩, ⟨readable, reads⟩, sound⟩
      refine ⟨⟨⟨?_, readable⟩, ?_⟩, nodup,
        fun other member => ⟨apart other member, rest other member⟩, sound⟩
      · simpa using first
      · simpa using reads

theorem alertingRules_nil (alerts : List AlertingRule) (recorded : List String) :
    alertingRules alerts recorded = [] ↔
      (alerts.map (·.alert)).Nodup ∧ ∀ a ∈ alerts, AlertSound recorded a := by
  rw [alertingRules, alertsFrom_nil]
  simp

theorem requireDocuments_ok {rules : List RecordingRule} {alerts : List AlertingRule} {u : Unit} :
    requireDocuments rules alerts = .ok u ↔
      (rules.map seriesKey).Nodup ∧ (alerts.map (·.alert)).Nodup ∧
        ∀ a ∈ alerts, AlertSound (rules.map (·.record)).eraseDups a := by
  rw [← uniqueSeries_nil, ← alertingRules_nil, ← List.append_eq_nil_iff]
  unfold requireDocuments
  simp only [List.isEmpty_iff]
  split <;> simp [*]

theorem rulesFrom_append (defined seen : List String) (first more : List RecordingRule) :
    rulesFrom defined seen (first ++ more) =
      rulesFrom defined seen first ++
        rulesFrom defined ((first.map (·.record)).reverse ++ seen) more := by
  induction first generalizing seen with
  | nil => rfl
  | cons r first ih =>
    simp only [List.cons_append, rulesFrom, ih, List.append_assoc, List.map_cons,
      List.reverse_cons, List.nil_append]

theorem ruleDefects_nil {defined seen : List String} {r : RecordingRule} :
    ruleDefects defined seen r = [] ↔
      isMetricName r.record = true ∧ expressionDefects r.expr = [] ∧
        ∀ name ∈ referencedNames r.expr defined, name ∈ seen := by
  simp only [ruleDefects, List.append_eq_nil_iff, List.map_eq_nil_iff, List.filter_eq_nil_iff,
    and_assoc]
  refine and_congr ?_ (and_congr Iff.rfl (forall₂_congr fun name _ => ?_))
  · cases isMetricName r.record <;> simp
  · simp

-- Fewer names to look for and more names seen leave rules that are in order in order.
theorem rulesFrom_mono {defined defined' seen seen' : List String} {rules : List RecordingRule}
    (within : ∀ r ∈ rules, ∀ name ∈ referencedNames r.expr defined',
      name ∈ referencedNames r.expr defined)
    (more : ∀ name ∈ seen, name ∈ seen') (ordered : rulesFrom defined seen rules = []) :
    rulesFrom defined' seen' rules = [] := by
  induction rules generalizing seen seen' with
  | nil => rfl
  | cons r rules ih =>
    obtain ⟨first, rest⟩ := List.append_eq_nil_iff.mp ordered
    obtain ⟨named, readable, earlier⟩ := ruleDefects_nil.mp (findings_nil.mp first)
    refine List.append_eq_nil_iff.mpr ⟨findings_nil.mpr (ruleDefects_nil.mpr
      ⟨named, readable, fun name used => ?_⟩), ?_⟩
    · exact more name (earlier name (within r List.mem_cons_self name used))
    · refine ih (fun other member => within other (List.mem_cons_of_mem _ member)) ?_ rest
      intro name member
      rcases List.mem_cons.mp member with rfl | member
      · exact List.mem_cons_self
      · exact List.mem_cons_of_mem _ (more name member)

theorem recordingRules_earlier {rules before after : List RecordingRule} {r : RecordingRule}
    (ordered : recordingRules rules = []) (split : rules = before ++ r :: after) :
    ∀ name ∈ referencedNames r.expr (rules.map (·.record)).eraseDups,
      ∃ earlier ∈ before, earlier.record = name := by
  intro name used
  unfold recordingRules at ordered
  generalize (rules.map (·.record)).eraseDups = defined at ordered used
  rw [split, rulesFrom_append] at ordered
  obtain ⟨first, _⟩ := List.append_eq_nil_iff.mp (List.append_eq_nil_iff.mp ordered).2
  obtain ⟨_, _, seen⟩ := ruleDefects_nil.mp (findings_nil.mp first)
  simpa using seen name used

theorem requireRules_ok {rules : List RecordingRule} {product sliId : Value} {u : Unit} :
    requireRules rules product sliId = .ok u ↔ recordingRules rules = [] := by
  unfold requireRules
  simp only [List.isEmpty_iff]
  split <;> simp [*]

end SloCompiler.Check
