import SloCompiler.Proofs.Outcome
import SloCompiler.Sli.Spec

namespace SloCompiler

namespace Schema.Checked

theorem given_ok {x : Checked α} {f : Checked (α → β)} {b : β} :
    given x f = .ok b ↔ ∃ g a, f = .ok g ∧ x = .ok a ∧ g a = b := by
  cases f <;> cases x <;> simp [given]

theorem require_ok {found : List SchemaIssue} {x : Checked α} {a : α} :
    require found x = .ok a ↔ x = .ok a ∧ found = [] := by
  cases x with
  | error before => simp [require]
  | ok b =>
    cases found with
    | nil => simp [require]
    | cons issue more => simp [require]

theorem within_ok {place : String} {x : Checked α} {a : α} :
    within place x = .ok a ↔ x = .ok a := mapError_ok

end Schema.Checked

namespace SliSpec
open Schema Schema.Checked

-- A spec that is accepted has each field as its own check reads it, and no other keys.
structure Accepts (v : Value) (spec : SliSpec) : Prop where
  title : titleName.required nonEmptyText v = .ok spec.title
  description : descriptionName.withDefault "" text v = .ok spec.description
  metricType : metricTypeName.required nonEmptyText v = .ok spec.metricType
  selectors : selectorsName.withDefault [] selectorTable v = .ok spec.selectors
  metricTarget : metricTargetName.required number v = .ok spec.metricTarget
  comparison : comparisonName.withDefault none (optional (oneOf comparisons)) v =
    .ok spec.comparison
  latencyPercentile :
    latencyPercentileName.withDefault none (optional (numberBelow 1)) v =
      .ok spec.latencyPercentile
  evalInterval : durationField evalIntervalName "1m" v = .ok (.ok spec.evalInterval)
  period : durationField periodName "30d" v = .ok (.ok spec.period)
  sloTarget : sloTargetName.required (numberBelow 100) v = .ok spec.sloTarget
  sliType : sliTypeName.withDefault .availability (oneOf sliTypes) v = .ok spec.sliType
  noFurther : unexpected fieldNames v = []

theorem check_accepts {v : Value} {spec : SliSpec} (checked : check v = .ok (.ok spec)) :
    Accepts v spec := by
  unfold check at checked
  simp only [bind_ok] at checked
  obtain ⟨_, evalInterval, _, period, checked⟩ := checked
  simp only [pure, Except.pure, Except.ok.injEq, require_ok, given_ok] at checked
  obtain ⟨⟨_, _, ⟨_, _, ⟨_, _, ⟨_, _, ⟨_, _, ⟨_, _, ⟨_, _, ⟨_, _, ⟨_, _, ⟨_, _, ⟨_, _, start,
    title, rfl⟩, description, rfl⟩, metricType, rfl⟩, selectors, rfl⟩, metricTarget, rfl⟩,
    comparison, rfl⟩, latencyPercentile, rfl⟩, rfl, rfl⟩, rfl, rfl⟩, sloTarget, rfl⟩, sliType,
    rfl⟩, noFurther⟩ := checked
  cases start
  exact { title, description, metricType, selectors, metricTarget, comparison, latencyPercentile,
          evalInterval, period, sloTarget, sliType, noFurther }

theorem Accepts.check {v : Value} {spec : SliSpec} (accepts : Accepts v spec) :
    SliSpec.check v = .ok (.ok spec) := by
  unfold SliSpec.check
  rw [accepts.evalInterval, accepts.period, accepts.title, accepts.description, accepts.metricType,
    accepts.selectors, accepts.metricTarget, accepts.comparison, accepts.latencyPercentile,
    accepts.sloTarget, accepts.sliType, accepts.noFurther]
  rfl

theorem Accepts.read {entries : Entries} {spec : SliSpec} (accepts : Accepts (.map entries) spec)
    (product sliId : Value) : SliSpec.read (.map entries) product sliId = .ok spec := by
  simp only [SliSpec.read, accepts.check, bind, Except.bind]

theorem read_accepts {v product sliId : Value} {spec : SliSpec}
    (accepted : read v product sliId = .ok spec) : Accepts v spec := by
  unfold read at accepted
  split at accepted
  · obtain ⟨found, checked, kept⟩ := bind_ok.mp accepted
    cases found with
    | error issues => cases kept
    | ok spec' =>
      cases kept
      exact check_accepts checked
  · cases accepted

theorem durationField_parses {name : FieldName} {default s : String} {v : Value}
    (parses : ∃ d, Duration.parse default = .ok d)
    (given : durationField name default v = .ok (.ok s)) : ∃ d, Duration.parse s = .ok d := by
  unfold durationField at given
  split at given
  · obtain ⟨checked, read, kept⟩ := map_ok.mp given
    have checked := within_ok.mp kept
    subst checked
    unfold durationText at read
    split at read
    · cases read
    · split at read
      · next d parsed => cases read; exact ⟨d, parsed⟩
      · cases read
      · cases read
  · cases given
    exact parses

theorem Accepts.evalInterval_parses {v : Value} {spec : SliSpec} (accepts : Accepts v spec) :
    ∃ d, Duration.parse spec.evalInterval = .ok d :=
  durationField_parses (isOk_iff.mp (by decide +kernel)) accepts.evalInterval

theorem Accepts.period_parses {v : Value} {spec : SliSpec} (accepts : Accepts v spec) :
    ∃ d, Duration.parse spec.period = .ok d :=
  durationField_parses (isOk_iff.mp (by decide +kernel)) accepts.period

end SliSpec

namespace SliTable

theorem read_mem {v : Value} {table : SliTable} (accepted : read v = .ok table)
    {product sliId : Value} {spec : SliSpec} {slis : List (Value × SliSpec)}
    (listed : (product, slis) ∈ table) (given : (sliId, spec) ∈ slis) :
    ∃ raw, SliSpec.read raw product sliId = .ok spec := by
  unfold read at accepted
  split at accepted
  · obtain ⟨⟨product', raw⟩, _, made⟩ := mem_of_mapM accepted listed
    obtain ⟨slis', readable, kept⟩ := bind_ok.mp made
    cases kept
    unfold readProduct at readable
    split at readable
    · obtain ⟨⟨sliId', raw⟩, _, made⟩ := mem_of_mapM readable given
      obtain ⟨spec', read, kept⟩ := map_ok.mp made
      cases kept
      exact ⟨raw, read⟩
    · cases readable
  · cases accepted

end SliTable

end SloCompiler
