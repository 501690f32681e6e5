import SloCompiler.Proofs.BlockCheck
import SloCompiler.Proofs.WrittenDurations

namespace SloCompiler

namespace Expr

theorem render_orZero (e : Expr) : (orZero e).render = "(" ++ e.render ++ " or vector(0))" := by
  simp [orZero, vector, String.append_assoc]

theorem render_safeRatio (numerator denominator : Expr) :
    (safeRatio numerator denominator).render =
      "(" ++ numerator.render ++ " / (" ++ denominator.render ++ " > 0) or vector(0))" := by
  rw [← String.toList_inj]
  simp [safeRatio, vector]

def sources : Expr → List (TargetMetric × List Clause)
  | .text _ => []
  | .series target selectors => [(target, selectors)]
  | .window e _ => sources e
  | .call _ argument => sources argument
  | .quantile _ buckets => sources buckets
  | .aggregateBy _ _ e => sources e
  | .binary _ left right => sources left ++ sources right
  | .group e => sources e

-- The expression with more clauses in each of its series, behind the selectors and before the
-- clauses of the metric.
def narrow (added : List Clause) : Expr → Expr
  | .text s => .text s
  | .series target selectors => .series target (selectors ++ added)
  | .window e span => .window (narrow added e) span
  | .call function argument => .call function (narrow added argument)
  | .quantile q buckets => .quantile q (narrow added buckets)
  | .aggregateBy operation label e => .aggregateBy operation label (narrow added e)
  | .binary operation left right => .binary operation (narrow added left) (narrow added right)
  | .group e => .group (narrow added e)

theorem narrow_nil (e : Expr) : e.narrow [] = e := by
  induction e with
  | text s => rfl
  | series target selectors => rw [narrow, List.append_nil]
  | window e span ih => rw [narrow, ih]
  | call function argument ih => rw [narrow, ih]
  | quantile q buckets ih => rw [narrow, ih]
  | aggregateBy operation label e ih => rw [narrow, ih]
  | binary operation left right before after => rw [narrow, before, after]
  | group e ih => rw [narrow, ih]

end Expr

namespace Panel

structure Asked where
  letter : String
  legend : String
  text : String

def HasQueries (panel : Entries) (queries : List Asked) : Prop :=
  ∃ targets, panel.get? "targets" = some (.list targets) ∧
    List.Forall₂ (fun (query : Asked) target =>
      target.field? "refId" = some (.str query.letter) ∧
        target.field? "legendFormat" = some (.str query.legend) ∧
        target.field? "expr" = some (.str query.text)) queries targets

open Indicator in
theorem TimeSeries.panel_hasQueries {p : TimeSeries} {queries : List PanelQuery}
    {datasource : String} (targets : p.targets = queries.map (·.target datasource)) :
    HasQueries p.panel (queries.mapIdx fun index query =>
      ⟨refId index, query.legend, query.expr.render⟩) := by
  refine ⟨(withRefIds p.targets).map .map, rfl, ?_⟩
  rw [withRefIds_values, targets]
  refine List.forall₂_iff_get.mpr ⟨by simp, fun index _ _ => ?_⟩
  simp only [List.get_eq_getElem, List.getElem_mapIdx, List.getElem_map]
  have put (name : String) (query : Entries) :
      Value.field? name (.map (query.put "refId" (.str (refId index)))) =
        if "refId" = name then some (.str (refId index)) else query.get? name :=
    Entries.get?_put query "refId" name _
  refine ⟨?_, ?_, ?_⟩
  · rw [put, if_pos rfl]
  · rw [put, if_neg (by decide)]
    rfl
  · rw [put, if_neg (by decide)]
    rfl

end Panel

namespace Indicator

def addedClauses (config : MixinConfig) (spec : SliSpec) : List Clause :=
  match config.environment with
  | none => []
  | some e =>
    if e ≠ "" ∧ ∀ selector ∈ spec.selectors, selector.1 ≠ "environment" then [environmentClause e]
    else []

theorem ofText_labels {selectors : List (String × String)} {clauses : List Clause}
    (made : List.Forall₂ (fun (selector : String × String) c =>
      Clause.ofText selector.1 selector.2 = .ok c) selectors clauses) :
    clauses.map (·.label) = selectors.map (·.1) := by
  induction made with
  | nil => rfl
  | cons first _ ih => rw [List.map_cons, List.map_cons, (ofText_clause first).1, ih]

theorem environmentOf_eq {config : MixinConfig} {spec : SliSpec} {clauses : List Clause}
    (labels : clauses.map (·.label) = spec.selectors.map (·.1)) :
    environmentOf config.environment clauses = addedClauses config spec := by
  have none : clauses.any (·.label == "environment") = false ↔
      ∀ selector ∈ spec.selectors, selector.1 ≠ "environment" := by
    have all : (∀ label ∈ clauses.map (·.label), label ≠ "environment") ↔
        ∀ label ∈ spec.selectors.map (·.1), label ≠ "environment" := by rw [labels]
    simpa only [List.any_eq_false, beq_iff_eq, List.forall_mem_map] using all
  rw [addedClauses]
  cases config.environment with
  | none => rfl
  | some e =>
    simp only [environmentOf, ← none]
    by_cases empty : e = "" <;>
      cases clauses.any (·.label == "environment") <;> simp [empty]

theorem panelExprs_narrow (i : Indicator) (spec : SliSpec) (table : List (String × TargetMetric))
    (clauses added : List Clause) :
    (i.panelExprs spec (seriesOf table clauses)).map (Expr.narrow added) =
      i.panelExprs spec (seriesOf table (clauses ++ added)) := by
  cases i <;> rfl

theorem render_holds (i : Indicator) (spec : SliSpec) (value : Expr) :
    (i.holds spec value).render =
      value.render ++ " " ++ (i.comparison spec).text ++ " bool " ++ spec.metricTarget.plain := by
  rw [← String.toList_inj]
  simp [holds, threshold]

theorem render_percentileWithTraffic (percentile traffic : Expr) :
    (percentileWithTraffic percentile traffic).render =
      "(" ++ percentile.render ++ " and on() (" ++ traffic.render ++ " > 0) or vector(0))" := by
  rw [percentileWithTraffic, Expr.render_orZero, ← String.toList_inj]
  simp

-- The rules of an SLI, with the texts of two queries in them. On queues they count the series that
-- the first query takes the maximum of.
def WrittenWith (i : Indicator) (spec : SliSpec) (metadata : SliMetadata) (a b : String)
    (rules : List RecordingRule) : Prop :=
  match i with
  | .up => rules = [⟨sliValueRecord, "(" ++ a ++ " or vector(0))" ++ " " ++
      (i.comparison spec).text ++ " bool " ++ spec.metricTarget.plain, metadata.labels⟩]
  | .errorRatio _ _ _ => rules = [⟨sliValueRecord, a ++ " " ++ (i.comparison spec).text ++
      " bool " ++ spec.metricTarget.plain, metadata.labels⟩]
  | .latency _ => rules = [⟨sliValueRecord, "(" ++ a ++ " and on() (" ++ b ++
      " > 0) or vector(0))" ++ " " ++ (i.comparison spec).text ++ " bool " ++
      spec.metricTarget.plain, metadata.labels⟩]
  | .queueAge =>
    let own := ownRecord metadata.product metadata.sliId
    ∃ ages selectors, a = "max by (queue_name) (" ++ TargetMetric.series ages selectors ++ ")" ∧
      rules = [
        ⟨own "sqs_queues_breaching:count", "(count(" ++ ages.series selectors ++ " " ++
          (i.comparison spec).negate.text ++ " " ++ spec.metricTarget.plain ++ ") or vector(0))",
          metadata.labels⟩,
        ⟨own "sqs_queues:count", "(count(" ++ ages.series selectors ++ ") or vector(0))",
          metadata.labels⟩,
        ⟨own "sqs_queues_breaching:ratio", "(sum(" ++ own "sqs_queues_breaching:count" ++
          ") / (sum(" ++ own "sqs_queues:count" ++ ") > 0) or vector(0))", metadata.labels⟩,
        ⟨sliValueRecord, "(sum(" ++ own "sqs_queues_breaching:ratio" ++ ") or vector(0)) == bool 0",
          metadata.labels⟩]

theorem exprs_written {i : Indicator} {spec : SliSpec} {table : List (String × TargetMetric)}
    {clauses : List Clause} {a b : Expr} {rest : List Expr}
    (queries : i.panelExprs spec (seriesOf table clauses) = a :: b :: rest)
    (metadata : SliMetadata) :
    i.WrittenWith spec metadata a.render b.render
      ((i.exprs spec (seriesOf table clauses) (ownRecord metadata.product metadata.sliId)).map
        (recorded metadata)) := by
  cases i with
  | up =>
    cases queries
    simp [WrittenWith, exprs, recorded, render_holds, Expr.render_orZero]
  | errorRatio metric statusLabel errorPattern =>
    cases queries
    simp [WrittenWith, exprs, recorded, render_holds]
  | latency histogram =>
    cases queries
    simp [WrittenWith, exprs, recorded, render_holds, render_percentileWithTraffic]
  | queueAge =>
    cases queries
    refine ⟨_, clauses, rfl, ?_⟩
    simp only [exprs, queueExprs, List.map_cons, List.map_nil, recorded, Expr.render_orZero,
      Expr.render_safeRatio, Expr.render_binary, List.cons.injEq, RecordingRule.mk.injEq, true_and,
      and_true]
    and_intros <;> rw [← String.toList_inj] <;> simp [threshold, seriesOf]

section Agreement

variable {i : Indicator} {spec : SliSpec} {table : List (String × TargetMetric)}
  {clauses : List Clause}

def shown : Indicator → List String
  | .up => ["up"]
  | .errorRatio _ _ _ => ["errors", "total"]
  | .latency _ => ["bucket", "count"]
  | .queueAge => ["oldestMessageAge", "messagesVisible"]

theorem targets_roles (read : i.targets = .ok table) : (table.map (·.1)).Perm i.shown := by
  cases i with
  | up =>
    cases read
    exact .refl _
  | errorRatio metric statusLabel errorPattern =>
    obtain ⟨requests, _, read⟩ := bind_ok.mp read
    obtain ⟨errors, _, read⟩ := bind_ok.mp read
    cases read
    exact .swap _ _ _
  | latency histogram =>
    cases read
    exact .refl _
  | queueAge =>
    cases read
    exact .refl _

theorem panelExprs_sources (i : Indicator) (spec : SliSpec) (series : String → Expr)
    (source : TargetMetric × List Clause) :
    (∃ e ∈ i.panelExprs spec series, source ∈ e.sources) ↔
      ∃ role ∈ i.shown, source ∈ (series role).sources := by
  cases i <;>
    simp [panelExprs, thresholdQuery, averageUp, errorShare, percentile, rate, Expr.orZero,
      Expr.safeRatio, Expr.vector, Expr.sources, shown]

theorem shown_sources (read : i.targets = .ok table) (spec : SliSpec) (clauses : List Clause)
    (source : TargetMetric × List Clause) :
    (∃ e ∈ i.panelExprs spec (seriesOf table clauses), source ∈ e.sources) ↔
      ∃ role target, Ordered.get? table role = some target ∧ source = (target, clauses) := by
  have its {role : String} {target : TargetMetric} (given : Ordered.get? table role = some target) :
      source ∈ (seriesOf table clauses role).sources ↔ source = (target, clauses) := by
    rw [seriesOf, given]
    exact List.mem_singleton
  rw [panelExprs_sources]
  simp only [← (targets_roles read).mem_iff]
  constructor
  · rintro ⟨role, listed, within⟩
    obtain ⟨entry, member, same⟩ := List.mem_map.mp listed
    have found : (Ordered.get? table role).isSome :=
      List.lookup_isSome_iff.mpr ⟨entry, member, beq_iff_eq.mpr same.symm⟩
    obtain ⟨target, given⟩ := Option.isSome_iff_exists.mp found
    exact ⟨role, target, given, (its given).mp within⟩
  · rintro ⟨role, target, given, same⟩
    exact ⟨role, List.mem_map_of_mem (Ordered.mem_of_get? given), (its given).mpr same⟩

theorem queries_made (read : i.targets = .ok table) (spec : SliSpec) (clauses : List Clause) :
    ∃ a b legendA legendB,
      i.queries spec clauses = .ok [⟨a, legendA⟩, ⟨b, legendB⟩, thresholdQuery spec] ∧
        i.panelExprs spec (seriesOf table clauses) = [a, b, (thresholdQuery spec).expr] := by
  unfold queries
  cases i <;> simp only [target_ok read, bind, Except.bind, pure, Except.pure] <;>
    exact ⟨_, _, _, _, rfl, rfl⟩

theorem panel_hasQueries {queries : List PanelQuery} (complete : i.missingField? spec = none)
    (selected : dashboardClauses spec = .ok clauses) (made : i.queries spec clauses = .ok queries)
    (datasource : String) : ∃ panel, i.panel spec datasource = .ok panel ∧
      Panel.HasQueries panel (queries.mapIdx fun index query =>
        ⟨Panel.refId index, query.legend, query.expr.render⟩) := by
  unfold panel
  simp only [checkedRoles_ok complete, selected, made, panelDescription, selectorTexts, Except.map,
    bind, Except.bind, pure, Except.pure]
  exact ⟨_, rfl, Panel.TimeSeries.panel_hasQueries rfl⟩

theorem targets_fail {fault : Fault} (complete : i.missingField? spec = none)
    (selected : dashboardClauses spec = .ok clauses) (unread : i.targets = .error fault)
    (metadata : SliMetadata) (config : MixinConfig) (datasource : String) :
    i.panel spec datasource = .error fault ∧ i.rules spec metadata config = .error fault := by
  constructor
  · have unmade : i.queries spec clauses = .error fault := by
      unfold queries
      cases i <;> simp only [target, unread, Except.map, bind, Except.bind]
    unfold panel
    simp only [checkedRoles_ok complete, selected, unmade, bind, Except.bind]
  · simp only [rules_eq, checkedRoles_ok complete, ruleClauses, selected, unread, Except.map, bind,
      Except.bind]

-- How the rules of an SLI follow from its panel, whose queries are two expressions a and b and the
-- target. The two read the series of the indicator, all of them by the same clauses. The rules are
-- written with the same two, once the added clauses are put into all of these series.
structure Agreement (i : Indicator) (spec : SliSpec) (metadata : SliMetadata)
    (table : List (String × TargetMetric)) (clauses added : List Clause) (a b : Expr)
    (panel : Entries) (rules : List RecordingRule) : Prop where
  exprs : i.panelExprs spec (seriesOf table clauses) = [a, b, .vector spec.metricTarget.plain]
  sources : ∀ source, source ∈ a.sources ++ b.sources ↔
    ∃ role target, Ordered.get? table role = some target ∧ source = (target, clauses)
  asks : ∃ legendA legendB, Panel.HasQueries panel [
    ⟨"A", legendA, a.render⟩, ⟨"B", legendB, b.render⟩,
    ⟨"C", "Target", "vector(" ++ spec.metricTarget.plain ++ ")"⟩]
  measures : i.WrittenWith spec metadata (a.narrow added).render (b.narrow added).render rules
  unadded : added = [] → i.WrittenWith spec metadata a.render b.render rules

theorem refId_letters : Panel.refId 0 = "A" ∧ Panel.refId 1 = "B" ∧ Panel.refId 2 = "C" := by
  decide +kernel

theorem agreement_exists (complete : i.missingField? spec = none)
    (selected : dashboardClauses spec = .ok clauses) (read : i.targets = .ok table)
    {config : MixinConfig} {added : List Clause}
    (narrowed : ruleClauses spec config = .ok (clauses ++ added)) (metadata : SliMetadata)
    (datasource : String) : ∃ panel rules a b, i.panel spec datasource = .ok panel ∧
      i.rules spec metadata config = .ok rules ∧
      i.Agreement spec metadata table clauses added a b panel rules := by
  obtain ⟨a, b, legendA, legendB, made, exprs⟩ := queries_made read spec clauses
  obtain ⟨panel, shows, asks⟩ := panel_hasQueries complete selected made datasource
  have measures := rules_eq i spec metadata config
  rw [checkedRoles_ok complete, narrowed, read] at measures
  have own : i.panelExprs spec (seriesOf table (clauses ++ added)) =
      a.narrow added :: b.narrow added :: [(thresholdQuery spec).expr.narrow added] := by
    rw [← panelExprs_narrow, exprs]
    rfl
  have written := exprs_written own metadata
  refine ⟨panel, _, a, b, shows, measures, exprs, fun source => ?_, ⟨legendA, legendB, ?_⟩,
    written, ?_⟩
  · rw [← shown_sources read spec clauses, exprs]
    simp [thresholdQuery, Expr.vector, Expr.sources]
  · simpa [refId_letters, thresholdQuery, Panel.targetLegend, Expr.vector] using asks
  · rintro rfl
    rwa [Expr.narrow_nil, Expr.narrow_nil] at written

end Agreement

theorem panel_agrees {raw product sliId : Value} {spec : SliSpec}
    (accepted : SliSpec.read raw product sliId = .ok spec) {i : Indicator}
    (complete : i.missingField? spec = none) (config : MixinConfig) (metadata : SliMetadata)
    (datasource : String) : ∃ clauses,
      List.Forall₂ (fun (selector : String × String) c =>
        Clause.ofText selector.1 selector.2 = .ok c) spec.selectors clauses ∧
      dashboardClauses spec = .ok clauses ∧
      ruleClauses spec config = .ok (clauses ++ addedClauses config spec) ∧
      (i ∈ Registry.standard.map (·.2) → ∃ table, i.targets = .ok table) ∧
      (∀ fault, i.targets = .error fault → i.panel spec datasource = .error fault ∧
        i.rules spec metadata config = .error fault) ∧
      ∀ table, i.targets = .ok table → ∃ panel rules a b, i.panel spec datasource = .ok panel ∧
        i.rules spec metadata config = .ok rules ∧
        i.Agreement spec metadata table clauses (addedClauses config spec) a b panel rules := by
  obtain ⟨clauses, selected, _⟩ :=
    dashboardClauses_exists (SliSpec.read_accepts accepted).labels_valid
  have made := mapM_ok.mp (mapError_ok.mp selected)
  have narrowed : ruleClauses spec config = .ok (clauses ++ addedClauses config spec) := by
    rw [ruleClauses, selected, ← environmentOf_eq (ofText_labels made), ← withEnvironment_eq]
    rfl
  refine ⟨clauses, made, selected, narrowed, ?_, fun fault unread => ?_, fun table read => ?_⟩
  · intro shipped
    obtain ⟨named, listed, rfl⟩ := List.mem_map.mp shipped
    exact targets_exists named listed
  · exact targets_fail complete selected unread metadata config datasource
  · exact agreement_exists complete selected read narrowed metadata datasource

theorem selecting_agrees : ∃ spec config clauses table,
    SliSpec.read (Sample.selecting "api") (.str "shop") (.str "cart") = .ok spec ∧
      up.missingField? spec = none ∧ addedClauses config spec = [environmentClause "prod"] ∧
      up.targets = .ok table ∧ ∃ panel rules a b, up.panel spec "prometheus" = .ok panel ∧
        up.rules spec ⟨"shop", "cart", spec.sliType⟩ config = .ok rules ∧
        up.Agreement spec ⟨"shop", "cart", spec.sliType⟩ table clauses
          [environmentClause "prod"] a b panel rules := by
  obtain ⟨spec, accepted, selectors⟩ := toOption_map.mp (show
    ((SliSpec.read (Sample.selecting "api") (.str "shop") (.str "cart")).toOption.map
      (·.selectors)) = some [("job", "api")] by decide +kernel)
  obtain ⟨given, _⟩ := Sample.config_read
  have added : addedClauses { given with environment := some "prod" } spec =
      [environmentClause "prod"] := by
    simp [addedClauses, selectors]
  obtain ⟨clauses, _, _, _, _, _, agrees⟩ := panel_agrees (i := .up) accepted rfl
    { given with environment := some "prod" } ⟨"shop", "cart", spec.sliType⟩ "prometheus"
  obtain ⟨panel, rules, a, b, shows, measures, agreement⟩ := agrees _ rfl
  exact ⟨spec, _, clauses, _, accepted, rfl, added, rfl, panel, rules, a, b, shows, measures,
    added ▸ agreement⟩

example : (do
    let config ← MixinConfig.read Sample.config
    let spec ← SliSpec.read (Sample.selecting "api") (.str "shop") (.str "cart")
    let rules ← (errorRatio "requests" "code" "5..").rules spec ⟨"shop", "cart", spec.sliType⟩
      { config with environment := some "prod" }
    return rules.map RecordingRule.expr).toOption = some [
      "((sum(rate(requests\x7bjob=\"api\", environment=\"prod\", code=~\"5..\"\x7d[1m])) or " ++
        "vector(0)) / (sum(rate(requests\x7bjob=\"api\", environment=\"prod\"\x7d[1m])) > 0) or " ++
        "vector(0)) < bool 1"] := by
  decide +kernel

end Indicator

end SloCompiler
