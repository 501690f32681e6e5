import SloCompiler.Indicator.Rules
import SloCompiler.Proofs.Outcome
import SloCompiler.Proofs.RecordName
import SloCompiler.Registry

namespace SloCompiler.Indicator

def seriesOf (table : List (String × TargetMetric)) (clauses : List Clause) (role : String) :
    Expr :=
  .series ((Ordered.get? table role).getD ⟨"", []⟩) clauses

def exprs (i : Indicator) (spec : SliSpec) (series : String → Expr) (own : String → String) :
    List (String × Expr) :=
  match i with
  | .up =>
    [(sliValueRecord, i.holds spec (Expr.orZero (averageUp (series "up") spec.evalInterval)))]
  | .errorRatio _ _ _ =>
    [(sliValueRecord, i.holds spec
      (errorShare (series "errors") (series "total") spec.evalInterval))]
  | .latency _ =>
    [(sliValueRecord, i.holds spec
      (percentileWithTraffic (percentile spec (series "bucket"))
        (rate (series "count") spec.evalInterval)))]
  | .queueAge =>
    queueExprs i spec (series "oldestMessageAge") (own "sqs_queues_breaching:count")
      (own "sqs_queues:count") (own "sqs_queues_breaching:ratio")

def recorded (metadata : SliMetadata) (named : String × Expr) : RecordingRule :=
  ⟨named.1, named.2.render, metadata.labels⟩

theorem derivedMetric_eq (product sliId operation : String) {role : String}
    (listed : MetricRoles.named? (roles .queueAge).derivedMetrics role = some operation)
    (metric : ∀ c ∈ operation.toList, isMetricChar c = true) :
    (roles .queueAge).derivedMetric role product sliId =
      .ok (ownRecord product sliId operation) := by
  rw [MetricRoles.derivedMetric, listed]
  exact recordName_eq metric

-- What keeps an indicator from measuring is a field that it misses, a selector or a target; all
-- else follows from the series that these give.
theorem rules_eq (i : Indicator) (spec : SliSpec) (metadata : SliMetadata)
    (config : MixinConfig) :
    i.rules spec metadata config = (do
      let _ ← i.checkedRoles spec
      let clauses ← ruleClauses spec config
      let table ← i.targets
      return (i.exprs spec (seriesOf table clauses)
        (ownRecord metadata.product metadata.sliId)).map (recorded metadata)) := by
  unfold rules
  cases given : i.checkedRoles spec with
  | error fault => rfl
  | ok found =>
    cases selected : ruleClauses spec config with
    | error fault => rfl
    | ok clauses =>
      simp only [bind, Except.bind]
      cases i with
      | up => rfl
      | errorRatio metric statusLabel errorPattern =>
        cases read : targets (.errorRatio metric statusLabel errorPattern) with
        | error fault => simp [target, read, Except.map]
        | ok table => simp [target, read, Except.map, exprs, seriesOf, recorded, valueRule, pure,
            Except.pure]
      | latency histogram => rfl
      | queueAge =>
        have roles' : found = roles .queueAge := by
          cases given
          rfl
        subst roles'
        rw [derivedMetric_eq _ _ "sqs_queues_breaching:count" rfl (all_chars rfl rfl),
          derivedMetric_eq _ _ "sqs_queues:count" rfl (all_chars rfl rfl),
          derivedMetric_eq _ _ "sqs_queues_breaching:ratio" rfl (all_chars rfl rfl)]
        rfl

theorem rules_exprs {i : Indicator} {spec : SliSpec} {metadata : SliMetadata}
    {config : MixinConfig} {rules : List RecordingRule}
    (made : i.rules spec metadata config = .ok rules) :
    ∃ clauses table, ruleClauses spec config = .ok clauses ∧ i.targets = .ok table ∧
      rules = (i.exprs spec (seriesOf table clauses)
        (ownRecord metadata.product metadata.sliId)).map (recorded metadata) := by
  rw [rules_eq] at made
  obtain ⟨_, _, made⟩ := bind_ok.mp made
  obtain ⟨clauses, selected, made⟩ := bind_ok.mp made
  obtain ⟨table, read, made⟩ := bind_ok.mp made
  cases made
  exact ⟨clauses, table, selected, read, rfl⟩

-- The value of an SLI is recorded last and once; before it come records of the SLI's own.
theorem exprs_value_last (i : Indicator) (spec : SliSpec) (series : String → Expr)
    (product sliId : String) :
    ∃ before value, i.exprs spec series (ownRecord product sliId) =
        before ++ [(sliValueRecord, value)] ∧
      ∀ named ∈ before, ∃ operation, (∀ c ∈ operation.toList, isMetricChar c = true) ∧
        named.1 = ownRecord product sliId operation := by
  cases i with
  | up => exact ⟨[], _, rfl, by simp⟩
  | errorRatio metric statusLabel errorPattern => exact ⟨[], _, rfl, by simp⟩
  | latency histogram => exact ⟨[], _, rfl, by simp⟩
  | queueAge =>
    refine ⟨[_, _, _], _, rfl, ?_⟩
    intro named member
    simp only [List.mem_cons, List.not_mem_nil, or_false] at member
    rcases member with rfl | rfl | rfl
    · exact ⟨"sqs_queues_breaching:count", all_chars rfl rfl, rfl⟩
    · exact ⟨"sqs_queues:count", all_chars rfl rfl, rfl⟩
    · exact ⟨"sqs_queues_breaching:ratio", all_chars rfl rfl, rfl⟩

end SloCompiler.Indicator
