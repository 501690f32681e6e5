import SloCompiler.Proofs.Familiar
import SloCompiler.Proofs.Formation

namespace SloCompiler
open Check Contribution

def Check.Passes (defined seen : List String) (e : Expr) : Prop :=
  expressionDefects e.render = [] ∧ ∀ name ∈ referencedNames e.render defined, name ∈ seen

theorem Check.rulesFrom_recorded {defined seen : List String} {metadata : SliMetadata}
    {listed : List (String × Expr)} (names : ∀ named ∈ listed, isMetricName named.1 = true) :
    rulesFrom defined seen (listed.map (Indicator.recorded metadata)) = [] ↔
      InTurn (Passes defined) seen listed := by
  induction listed generalizing seen with
  | nil => exact ⟨fun _ => trivial, fun _ => rfl⟩
  | cons named listed ih =>
    have own := names named List.mem_cons_self
    have rest : rulesFrom defined (named.1 :: seen) (listed.map (Indicator.recorded metadata)) = [] ↔
        InTurn (Passes defined) (named.1 :: seen) listed :=
      ih fun other member => names other (List.mem_cons_of_mem _ member)
    rw [List.map_cons, rulesFrom, List.append_eq_nil_iff, findings_nil, ruleDefects_nil]
    exact and_congr ⟨fun passed => passed.2, fun passed => ⟨own, passed⟩⟩ rest

theorem misread_readValue (value : List Char) :
    hasEmptyAggregation false (Clause.readValue value).2 = hasEmptyAggregation false value := by
  unfold Clause.readValue
  split
  · rw [hasEmptyAggregation_cons (c := '\\') (by decide)]
    rfl
  · rw [hasEmptyAggregation_cons (c := '!') (by decide)]
    rfl
  · rfl

theorem ofText_clause {label value : String} {c : Clause} (made : Clause.ofText label value = .ok c) :
    c.label = label ∧ misread c = hasEmptyAggregation false value.toList := by
  unfold Clause.ofText at made
  dsimp only at made
  split at made
  · cases made
    rw [misread, String.toList_ofList, misread_readValue]
    exact ⟨rfl, rfl⟩
  · cases made

theorem ofText_exists {label : String} (valid : isLabelName label = true) (value : String) :
    ∃ c, Clause.ofText label value = .ok c := by
  unfold Clause.ofText
  dsimp only
  rw [dif_pos valid]
  exact ⟨_, rfl⟩

theorem SliSpec.Accepts.labels_valid {v : Value} {spec : SliSpec} (accepts : Accepts v spec) :
    ∀ selector ∈ spec.selectors, isLabelName selector.1 = true := by
  have given := accepts.selectors
  unfold Schema.FieldName.withDefault at given
  split at given
  · next place found _ =>
    have given := Schema.Checked.within_ok.mp given
    unfold SliSpec.selectorTable at given
    cases read : Schema.texts found with
    | error issues =>
      rw [read] at given
      cases given
    | ok table =>
      rw [read] at given
      simp only [Except.bind] at given
      split at given
      · cases given
      · next none =>
        cases given
        intro selector member
        simpa using List.find?_eq_none.mp none selector member
  · rw [← Except.ok.inj given]
    exact List.forall_mem_nil _

namespace Indicator

theorem dashboardClauses_exists {spec : SliSpec}
    (valid : ∀ selector ∈ spec.selectors, isLabelName selector.1 = true) :
    ∃ clauses, dashboardClauses spec = .ok clauses ∧ List.Forall₂ (fun selector c =>
      c.label = selector.1 ∧ misread c = hasEmptyAggregation false selector.2.toList)
      spec.selectors clauses := by
  obtain ⟨clauses, made⟩ := mapM_exists (f := fun selector : String × String =>
    Clause.ofText selector.1 selector.2) fun selector member =>
      ofText_exists (valid selector member) selector.2
  refine ⟨clauses, mapError_ok.mpr made, (mapM_ok.mp made).imp fun _ _ => ofText_clause⟩

def environmentOf : Option String → List Clause → List Clause
  | none, _ => []
  | some e, clauses =>
    if e.isEmpty || clauses.any (·.label == "environment") then [] else [environmentClause e]

theorem withEnvironment_eq (environment : Option String) (clauses : List Clause) :
    withEnvironment environment clauses = clauses ++ environmentOf environment clauses := by
  cases environment with
  | none => simp [withEnvironment, environmentOf]
  | some e =>
    simp only [withEnvironment, environmentOf]
    split <;> simp

theorem targets_exists : ∀ named ∈ Registry.standard, ∃ table, named.2.targets = .ok table := by
  simp only [Registry.standard, List.forall_mem_cons, List.not_mem_nil, IsEmpty.forall_iff,
    implies_true, and_true]
  and_intros <;> exact ⟨_, rfl⟩

theorem checkedRoles_ok {i : Indicator} {spec : SliSpec} (complete : i.missingField? spec = none) :
    i.checkedRoles spec = .ok i.roles := by
  rw [checkedRoles, complete]

theorem target_ok {i : Indicator} {table : List (String × TargetMetric)}
    (read : i.targets = .ok table) (role : String) :
    i.target role = .ok ((Ordered.get? table role).getD ⟨"", []⟩) := by
  rw [target, read]
  rfl

theorem panel_exists {i : Indicator} {spec : SliSpec} {table : List (String × TargetMetric)}
    {clauses : List Clause} (complete : i.missingField? spec = none)
    (selected : dashboardClauses spec = .ok clauses) (read : i.targets = .ok table)
    (datasource : String) : ∃ panel, i.panel spec datasource = .ok panel := by
  have queries : ∃ queries, i.queries spec clauses = .ok queries := by
    unfold queries
    cases i <;> simp only [target_ok read, bind, Except.bind, pure, Except.pure] <;> exact ⟨_, rfl⟩
  obtain ⟨queries, made⟩ := queries
  unfold panel
  simp only [checkedRoles_ok complete, selected, made, panelDescription, selectorTexts, Except.map,
    bind, Except.bind, pure, Except.pure]
  exact ⟨_, rfl⟩

theorem rules_exist {i : Indicator} {spec : SliSpec} {table : List (String × TargetMetric)}
    {clauses : List Clause} (complete : i.missingField? spec = none)
    (selected : dashboardClauses spec = .ok clauses) (read : i.targets = .ok table)
    (metadata : SliMetadata) (config : MixinConfig) :
    i.rules spec metadata config = .ok ((i.exprs spec
      (seriesOf table (clauses ++ environmentOf config.environment clauses))
      (ownRecord metadata.product metadata.sliId)).map (recorded metadata)) := by
  rw [rules_eq, checkedRoles_ok complete, ruleClauses, selected, read, ← withEnvironment_eq]
  rfl

end Indicator

-- Nothing in an SLI that the check of its rules takes for what it is not: no label for a record, no
-- text in quotes for an aggregation of nothing.
structure Unmistakable (config : MixinConfig) (spec : SliSpec) (product sliId : String) : Prop where
  labels : ∀ selector ∈ spec.selectors, bareLabel selector.1 ∉ commonRecords
  values : ∀ selector ∈ spec.selectors, ¬EmptyAggregation false selector.2.toList
  environment : ∀ e, config.environment = some e →
    (∀ selector ∈ spec.selectors, selector.1 ≠ "environment") → ¬EmptyAggregation false e.toList
  product : ¬EmptyAggregation false product.toList
  sliId : ¬EmptyAggregation false sliId.toList

theorem not_emptyAggregation {cs : List Char} :
    ¬EmptyAggregation false cs ↔ hasEmptyAggregation false cs = false := by
  rw [← hasEmptyAggregation_iff, Bool.not_eq_true]

def Clause.Clear (c : Clause) : Prop := bareLabel c.label ∉ commonRecords ∧ misread c = false

theorem identity_read (identity : SliIdentity) :
    (∀ c ∈ identity.clauses, misread c = false) ↔
      ¬EmptyAggregation false identity.product.toList ∧
        ¬EmptyAggregation false identity.sliId.toList := by
  simp [SliIdentity.clauses, misread, not_emptyAggregation]

theorem selectors_clear {selectors : List (String × String)} {clauses : List Clause}
    (made : List.Forall₂ (fun selector c => c.label = selector.1 ∧
      misread c = hasEmptyAggregation false selector.2.toList) selectors clauses) :
    (∀ c ∈ clauses, c.Clear) ↔ (∀ selector ∈ selectors, bareLabel selector.1 ∉ commonRecords) ∧
      ∀ selector ∈ selectors, ¬EmptyAggregation false selector.2.toList := by
  induction made with
  | nil => simp
  | cons first _ ih =>
    obtain ⟨label, verdict⟩ := first
    rw [List.forall_mem_cons, List.forall_mem_cons, List.forall_mem_cons, ih, Clause.Clear, label,
      verdict, not_emptyAggregation]
    exact and_and_and_comm

theorem environment_clear {environment : Option String} {selectors : List (String × String)}
    {clauses : List Clause} (made : List.Forall₂ (fun selector c => c.label = selector.1 ∧
      misread c = hasEmptyAggregation false selector.2.toList) selectors clauses) :
    (∀ c ∈ Indicator.environmentOf environment clauses, c.Clear) ↔
      ∀ e, environment = some e → (∀ selector ∈ selectors, selector.1 ≠ "environment") →
        ¬EmptyAggregation false e.toList := by
  have named : clauses.any (·.label == "environment") = true ↔
      ∃ selector ∈ selectors, selector.1 = "environment" := by
    induction made with
    | nil => simp
    | cons first _ ih => simp [first.1, ih]
  have label : bareLabel "environment" ∉ commonRecords := by decide
  cases environment with
  | none => simp [Indicator.environmentOf]
  | some e =>
    simp only [Option.some.injEq, forall_eq', not_emptyAggregation]
    by_cases own : ∃ selector ∈ selectors, selector.1 = "environment"
    · have any := named.mpr own
      obtain ⟨selector, member, same⟩ := own
      simp only [Indicator.environmentOf, any, Bool.or_true, if_true]
      exact ⟨fun _ other => absurd same (other _ member), fun _ => List.forall_mem_nil _⟩
    · have none : clauses.any (·.label == "environment") = false :=
        Bool.eq_false_iff.mpr fun any => own (named.mp any)
      have other : ∀ selector ∈ selectors, selector.1 ≠ "environment" :=
        fun selector member same => own ⟨selector, member, same⟩
      by_cases empty : e = ""
      · subst empty
        exact ⟨fun _ _ => by decide, fun _ => List.forall_mem_nil _⟩
      · have written : e.isEmpty = false := by simpa using empty
        simp only [Indicator.environmentOf, none, written, Bool.or_false, Bool.false_eq_true,
          if_false, List.forall_mem_singleton, Clause.Clear, misread, Indicator.environmentClause,
          label, not_false_eq_true, true_and]
        exact ⟨fun clear _ => clear, fun clear => clear other⟩

theorem MetricWord.token {s : String} (word : MetricWord s) : Token s := by
  refine .metric ?_ word.metric
  rintro rfl
  obtain ⟨c, head, _⟩ := word.start
  cases head

theorem quoteless_covers : Covers fun _ s => '"' ∉ s.toList where
  constant := by
    have all : ∀ s ∈ vocabulary, '"' ∉ s.toList := by decide
    exact fun s listed _ => all s listed
  numeral x _ := x.plain_lacks (by decide)
  recorded metric _ present := absurd (metric _ present) (by decide)
  later lacks := lacks

namespace Indicator

theorem standard_clear : ∀ named ∈ Registry.standard, ∀ narrow ∈ named.2.narrowing,
    bareLabel narrow.1 ∉ commonRecords ∧ hasEmptyAggregation false narrow.2.toList = false := by
  decide

theorem target_clear {tag : String} {i : Indicator} (found : Registry.standard.get tag = .ok i)
    {table : List (String × TargetMetric)} (read : i.targets = .ok table) :
    ∀ target ∈ table, ∀ c ∈ target.2.clauses, c.Clear := by
  intro target member c own
  have narrow := (targets_listed read target member).2 c own
  exact standard_clear (tag, i) (Registry.get_listed found) (c.label, c.pattern) narrow

section Block

variable {tag : String} {i : Indicator} {spec : SliSpec} {table : List (String × TargetMetric)}
  {clauses : List Clause} {identity : SliIdentity} {raw : Value}

theorem block_formed (clauses : List Clause) (identity : SliIdentity) (accepts : SliSpec.Accepts raw spec)
    (found : Registry.standard.get tag = .ok i) (read : i.targets = .ok table) :
    ∀ named ∈ i.blockExprs spec (seriesOf table clauses) identity,
      named.2.Formed ∧ named.2.Concluded := by
  obtain ⟨d, interval⟩ := accepts.evalInterval_parses
  obtain ⟨d', period⟩ := accepts.period_parses
  intro named member
  rcases List.mem_append.mp member with measured | objective
  · refine i.exprs_formed (duration_unmarked interval) (fun role listed => ?_)
      (fun operation metric => .own _ _ operation metric) named measured
    obtain ⟨target, given⟩ := targets_read read role listed
    have word := Registry.target_word found read _ (Ordered.mem_of_get? given)
    rw [seriesOf, given]
    exact word.token
  · simp only [Slo.exprs, List.mem_cons, List.not_mem_nil, or_false] at objective
    rcases objective with rfl | rfl
    · exact Slo.compliance_formed identity (duration_unmarked period)
    · exact Slo.errorBudget_formed identity spec

theorem block_clauses (found : Registry.standard.get tag = .ok i) (read : i.targets = .ok table) :
    ∀ named ∈ i.blockExprs spec (seriesOf table clauses) identity, ∀ c ∈ named.2.clauses,
      c ∈ clauses ∨ c ∈ identity.clauses ∨ c.Clear := by
  intro named member c within
  rcases List.mem_append.mp member with measured | objective
  · obtain ⟨role, shown⟩ := (i.exprs_clauses _ _ _).1 named measured c within
    rcases List.mem_append.mp shown with selected | own
    · exact .inl selected
    · cases given : Ordered.get? table role with
      | none =>
        rw [given] at own
        cases own
      | some target =>
        rw [given] at own
        exact .inr (.inr (target_clear found read _ (Ordered.mem_of_get? given) c own))
  · simp only [Slo.exprs, List.mem_cons, List.not_mem_nil, or_false] at objective
    rcases objective with rfl | rfl
    · exact .inr (.inl (by simpa [Slo.compliance, SliIdentity.series, Expr.clauses] using within))
    · exact .inr (.inl (by simpa [Slo.errorBudget, SliIdentity.series, Expr.clauses] using within))

theorem block_names (i : Indicator) (spec : SliSpec) (table : List (String × TargetMetric))
    (clauses : List Clause) (identity : SliIdentity) :
    ∀ named ∈ i.blockExprs spec (seriesOf table clauses) identity,
    isMetricName named.1 = true ∧ (∀ c ∈ named.1.toList, isMetricChar c = true) ∧
      Recordable named.1.toList := by
  intro named member
  rcases blockExprs_names _ _ _ _ named member with common | ⟨operation, metric, own⟩
  · have all : ∀ record ∈ commonRecords, isMetricName record = true ∧
        ∀ c ∈ record.toList, isMetricChar c = true := by
      simp only [commonRecords, List.forall_mem_cons]
      exact ⟨⟨by decide, all_chars rfl rfl⟩, ⟨by decide, all_chars rfl rfl⟩,
        ⟨by decide, all_chars rfl rfl⟩, List.forall_mem_nil _⟩
    obtain ⟨name, metric⟩ := all _ common
    exact ⟨name, metric, .inr (by rwa [String.ofList_toList])⟩
  · rw [own]
    exact ⟨isMetricName_ownRecord _ _ metric, ownRecord_metric _ _ metric,
      .inl (colon_mem_ownRecord _ _ _)⟩

theorem block_passes (accepts : SliSpec.Accepts raw spec)
    (found : Registry.standard.get tag = .ok i) (read : i.targets = .ok table)
    (clear : ∀ c ∈ clauses, c.Clear) (own : ∀ c ∈ identity.clauses, misread c = false)
    {defined : List String} (recorded : ∀ name ∈ defined,
      (∀ c ∈ name.toList, isMetricChar c = true) ∧ Recordable name.toList) :
    InTurn (Passes defined) [] (i.blockExprs spec (seriesOf table clauses) identity) := by
  obtain ⟨d, interval⟩ := accepts.evalInterval_parses
  obtain ⟨d', period⟩ := accepts.period_parses
  have narrowed (role : String) : (seriesOf table clauses role).Each (Familiar []) :=
    seriesOf_each (.constant "" rfl rfl rfl) (fun target member =>
      ⟨.metric (Registry.target_word found read target member), fun c shown =>
        .label c.label_valid (target_clear found read target member c shown).1⟩)
      (fun c member => .label c.label_valid (clear c member).1) role
  have familiar := Familiar.covers.block_inTurn i (.duration interval) (.duration period) narrowed
    identity
  refine familiar.imp fun named member seen familiar => ⟨?_, fun name used => ?_⟩
  · obtain ⟨formed, concluded⟩ := block_formed clauses identity accepts found read named member
    refine (Expr.expressionDefects_nil formed concluded).mpr fun c within => ?_
    rcases block_clauses found read named member c within with selected | whose | harmless
    · exact (clear c selected).2
    · exact own c whose
    · exact harmless.2
  · obtain ⟨metric, recordable⟩ := recorded name (List.mem_filter.mp (mem_sortTexts.mp used)).1
    exact Expr.familiar_used familiar metric recordable used

-- The first rule shows all selectors and nothing is recorded before it, and the rule for the
-- compliance shows whose the SLI is.
theorem clear_of_passes (accepts : SliSpec.Accepts raw spec)
    (found : Registry.standard.get tag = .ok i) (read : i.targets = .ok table)
    {defined : List String} (common : ∀ record ∈ commonRecords, record ∈ defined)
    (passes : InTurn (Passes defined) [] (i.blockExprs spec (seriesOf table clauses) identity)) :
    (∀ c ∈ clauses, c.Clear) ∧ ∀ c ∈ identity.clauses, misread c = false := by
  obtain ⟨d, interval⟩ := accepts.evalInterval_parses
  obtain ⟨d', period⟩ := accepts.period_parses
  have formed := block_formed clauses identity accepts found read
  constructor
  · obtain ⟨record, e, rest, shape, role, shown⟩ :=
      (i.exprs_clauses spec (seriesOf table clauses) (ownRecord identity.product identity.sliId)).2
    have narrowed (role : String) : (seriesOf table clauses role).Each ('"' ∉ ·.toList) :=
      seriesOf_each (by decide) (fun target member =>
        ⟨(Registry.target_word found read target member).lacks (by decide), fun c _ =>
          c.label_lacks (by decide) (by decide)⟩) (fun c _ =>
          c.label_lacks (by decide) (by decide)) role
    have quoteless := quoteless_covers.block_inTurn i
      (Duration.text_lacks interval (by decide) (by decide))
      (Duration.text_lacks period (by decide) (by decide)) narrowed identity
    rw [blockExprs, shape] at passes quoteless formed
    obtain ⟨readable, earlier⟩ := passes.1
    obtain ⟨formed, concluded⟩ := formed (record, e) List.mem_cons_self
    intro c member
    have within := shown c (List.mem_append_left _ member)
    refine ⟨fun label => ?_, (Expr.expressionDefects_nil formed concluded).mp readable c within⟩
    -- A label that reads like a record would have to be recorded before the first rule.
    exact absurd (earlier _ (Expr.label_used quoteless.1 within (common _ label)))
      List.not_mem_nil
  · have listed : (complianceRecord, Slo.compliance spec identity) ∈
        i.blockExprs spec (seriesOf table clauses) identity :=
      List.mem_append_right _ List.mem_cons_self
    obtain ⟨before, ⟨readable, _⟩, _⟩ := passes.of_mem listed
    obtain ⟨formed, concluded⟩ := formed _ listed
    intro c member
    refine (Expr.expressionDefects_nil formed concluded).mp readable c ?_
    simpa [Slo.compliance, SliIdentity.series, Expr.clauses] using member

theorem block_ordered (clauses : List Clause) (identity : SliIdentity) (accepts : SliSpec.Accepts raw spec)
    (found : Registry.standard.get tag = .ok i) (read : i.targets = .ok table)
    (metadata : SliMetadata) :
    recordingRules ((i.blockExprs spec (seriesOf table clauses) identity).map
        (recorded metadata)) = [] ↔
      (∀ c ∈ clauses, c.Clear) ∧ ∀ c ∈ identity.clauses, misread c = false := by
  have names := block_names i spec table clauses identity
  rw [recordingRules, rulesFrom_recorded fun named member => (names named member).1]
  have defined : ∀ name, name ∈ (((i.blockExprs spec (seriesOf table clauses) identity).map
      (recorded metadata)).map (·.record)).eraseDups ↔
        name ∈ (i.blockExprs spec (seriesOf table clauses) identity).map (·.1) := by
    intro name
    rw [List.mem_eraseDups, List.map_map]
    rfl
  constructor
  · refine clear_of_passes accepts found read fun record common => (defined record).mpr ?_
    rw [blockExprs_records]
    exact List.mem_append_right _ common
  · rintro ⟨clear, own⟩
    refine block_passes accepts found read clear own fun name listed => ?_
    obtain ⟨named, member, rfl⟩ := List.mem_map.mp ((defined name).mp listed)
    exact (names named member).2

end Block

end Indicator

theorem clear_iff_unmistakable {config : MixinConfig} {spec : SliSpec} {product sliId : String}
    {clauses : List Clause} (made : List.Forall₂ (fun selector c => c.label = selector.1 ∧
      misread c = hasEmptyAggregation false selector.2.toList) spec.selectors clauses) :
    ((∀ c ∈ clauses ++ Indicator.environmentOf config.environment clauses, c.Clear) ∧
        ∀ c ∈ (SliIdentity.mk product sliId).clauses, misread c = false) ↔
      Unmistakable config spec product sliId := by
  rw [List.forall_mem_append, selectors_clear made, environment_clear made, identity_read]
  constructor
  · rintro ⟨⟨⟨labels, values⟩, environment⟩, product, sliId⟩
    exact { labels, values, environment, product, sliId }
  · intro fair
    exact ⟨⟨⟨fair.labels, fair.values⟩, fair.environment⟩, fair.product, fair.sliId⟩

theorem Indicator.measures_iff {raw : Value} {spec : SliSpec} (accepts : SliSpec.Accepts raw spec)
    {i : Indicator} (found : Registry.standard.get spec.metricType = .ok i)
    (complete : i.missingField? spec = none) (config : MixinConfig) (metadata : SliMetadata) :
    ∃ panel measured, i.panel spec config.datasource = .ok panel ∧
      i.rules spec metadata config = .ok measured ∧
        (recordingRules
            (measured ++ [Slo.complianceRule spec metadata, Slo.budgetRule spec metadata]) = [] ↔
          Unmistakable config spec metadata.product metadata.sliId) := by
  obtain ⟨clauses, selected, made⟩ := dashboardClauses_exists accepts.labels_valid
  obtain ⟨table, read⟩ := targets_exists (spec.metricType, i) (Registry.get_listed found)
  obtain ⟨panel, shows⟩ := panel_exists complete selected read config.datasource
  refine ⟨panel, _, shows, rules_exist complete selected read metadata config, ?_⟩
  have ordered := block_ordered (clauses ++ environmentOf config.environment clauses)
    ⟨metadata.product, metadata.sliId⟩ accepts found read metadata
  rw [clear_iff_unmistakable made, blockExprs] at ordered
  rw [Slo.rules_recorded, ← List.map_append]
  exact ordered

namespace Sample

def withSelectors (selectors : List (String × Value)) : Value :=
  .object [
    ("title", .str "T"), ("metricType", .str "up"), ("metricTarget", .int 1),
    ("selectors", .object selectors), ("sloTarget", .int 99)]

def selecting (job : String) : Value := withSelectors [("job", .str job)]

end Sample

namespace CompiledSli

-- Every SLI with an accepted spec and all that its indicator needs has rules. The check of rules
-- passes them unless it takes a label for a record, or what stands in quotes for a call.
theorem rules_pass_iff (config : MixinConfig) {raw : Value} {product sliId : String}
    {spec : SliSpec} (accepted : SliSpec.read raw (.str product) (.str sliId) = .ok spec)
    {i : Indicator} (found : Registry.standard.get spec.metricType = .ok i)
    (complete : i.missingField? spec = none) :
    ∃ panel measured objective,
      measure config Registry.standard ⟨product, sliId, spec.sliType⟩ spec =
          .ok (panel, measured) ∧
        Slo.rules spec (SliMetadata.labels ⟨product, sliId, spec.sliType⟩) = .ok objective ∧
          (recordingRules (measured ++ objective) = [] ↔
            Unmistakable config spec product sliId) := by
  let metadata : SliMetadata := ⟨product, sliId, spec.sliType⟩
  obtain ⟨panel, measured, shows, measures, passes⟩ :=
    Indicator.measures_iff (SliSpec.read_accepts accepted) found complete config metadata
  exact ⟨panel, measured, _, measure_ok.mpr ⟨i, found, shows, measures⟩,
    Slo.rules_eq spec metadata, passes⟩

theorem selecting_rules_pass_iff : ∃ spec panel measured objective,
    SliSpec.read (Sample.selecting "api") (.str "shop") (.str "cart") = .ok spec ∧
      Registry.standard.get spec.metricType = .ok .up ∧
      Indicator.up.missingField? spec = none ∧
      ∃ config, MixinConfig.read Sample.config = .ok config ∧
        measure config Registry.standard ⟨"shop", "cart", spec.sliType⟩ spec =
          .ok (panel, measured) ∧
        Slo.rules spec (SliMetadata.labels ⟨"shop", "cart", spec.sliType⟩) = .ok objective ∧
        (recordingRules (measured ++ objective) = [] ↔
          Unmistakable config spec "shop" "cart") := by
  obtain ⟨spec, accepted⟩ : ∃ spec,
      SliSpec.read (Sample.selecting "api") (.str "shop") (.str "cart") = .ok spec :=
    isOk_iff.mp (by decide +kernel)
  obtain ⟨config, given⟩ := Sample.config_read
  have up : spec.metricType = "up" :=
    (Except.ok.inj (SliSpec.read_accepts accepted).metricType).symm
  have found : Registry.standard.get spec.metricType = .ok .up := by
    rw [up]
    rfl
  obtain ⟨panel, measured, objective, measures, chain, passes⟩ :=
    rules_pass_iff config accepted found rfl
  exact ⟨spec, panel, measured, objective, accepted, found, rfl, config, given, measures, chain,
    passes⟩

theorem quoted_call_fails :
    (do
      let config ← MixinConfig.read Sample.config
      let spec ← SliSpec.read (Sample.selecting "sum()") (.str "shop") (.str "cart")
      let (_, measured) ← measure config Registry.standard ⟨"shop", "cart", spec.sliType⟩ spec
      let objective ← Slo.rules spec (SliMetadata.labels ⟨"shop", "cart", spec.sliType⟩)
      return recordingRules (measured ++ objective)).toOption =
      some [⟨"sli_value", .emptyAggregation⟩] := by
  decide +kernel

end CompiledSli

end SloCompiler
