import SloCompiler.Proofs.BlockCheck

namespace SloCompiler
open Check

theorem mapM_some {α β : Type} {f : α → Option β} {xs : List α}
    (each : ∀ x ∈ xs, ∃ y, f x = some y) : ∃ ys, xs.mapM f = some ys := by
  induction xs with
  | nil => exact ⟨[], rfl⟩
  | cons x xs ih =>
    obtain ⟨y, first⟩ := each x List.mem_cons_self
    obtain ⟨ys, rest⟩ := ih fun z member => each z (List.mem_cons_of_mem _ member)
    exact ⟨y :: ys, by rw [List.mapM_cons, first, rest]; rfl⟩

def Value.Nameable (v : Value) : Prop := v = .null ∨ ∃ s, v = .str s

namespace BuildError

section Names

variable {e : BuildError} (product : e.product.Nameable) (sliId : e.sliId.Nameable)
include product sliId

theorem names_texts : ∀ v ∈ e.names, ∃ s, v = .str s := by
  intro v member
  obtain ⟨listed, given⟩ := List.mem_filter.mp member
  have nameable : v.Nameable := by
    simp only [List.mem_cons, List.not_mem_nil, or_false] at listed
    rcases listed with rfl | rfl
    · exact product
    · exact sliId
  refine nameable.resolve_left fun null => ?_
  rw [null] at given
  cases given

theorem raised : Fault.ofBuildError e = .build e := by
  have placed : e.location?.isSome = true := by
    unfold location?
    split
    · rfl
    · rw [Option.isSome_map]
      refine Option.isSome_iff_exists.mpr (mapM_some fun v member => ?_)
      obtain ⟨s, rfl⟩ := names_texts product sliId v member
      exact ⟨s, rfl⟩
  rw [Fault.ofBuildError, if_pos placed]

end Names

theorem raised_at (cause : Cause) (product sliId : String) :
    Fault.ofBuildError ⟨cause, .str product, .str sliId⟩ =
      .build ⟨cause, .str product, .str sliId⟩ :=
  raised (.inr ⟨product, rfl⟩) (.inr ⟨sliId, rfl⟩)

end BuildError

theorem Check.requireRules_named (rules : List RecordingRule) (product sliId : String) :
    requireRules rules (.str product) (.str sliId) =
      if (recordingRules rules).isEmpty then .ok ()
      else .error (.build ⟨.rules (recordingRules rules), .str product, .str sliId⟩) := by
  rw [requireRules, BuildError.raised_at]

theorem Registry.get_error {registry : Registry} {tag : String} {f : Fault} :
    registry.get tag = .error f ↔
      registry.contains tag = false ∧ f = .ofCause (.metricType tag registry.tags) := by
  unfold get contains
  cases Ordered.get? registry tag <;> simp [eq_comm]

theorem Registry.contains_of_get {registry : Registry} {tag : String} {i : Indicator}
    (found : registry.get tag = .ok i) : registry.contains tag = true := by
  refine Bool.of_not_eq_false fun unknown => ?_
  rw [get_error.mpr ⟨unknown, rfl⟩] at found
  cases found

theorem Indicator.missingField?_some {i : Indicator} {spec : SliSpec} {name : String} :
    i.missingField? spec = some name ↔ (∃ histogram, i = .latency histogram) ∧
      spec.latencyPercentile = none ∧ name = "latency_percentile" := by
  cases i with
  | latency histogram =>
    have given : spec.gives "latency_percentile" = spec.latencyPercentile.isSome := rfl
    cases percentile : spec.latencyPercentile with
    | none => simpa [missingField?, requiredFields, given, percentile] using eq_comm
    | some q => simp [missingField?, requiredFields, given, percentile]
  | _ => simp [missingField?, requiredFields]

theorem Indicator.percentile_given {histogram : String} {spec : SliSpec}
    (complete : (latency histogram).missingField? spec = none) : spec.latencyPercentile ≠ none := by
  intro missing
  rw [missingField?_some.mpr ⟨⟨histogram, rfl⟩, missing, rfl⟩] at complete
  cases complete

namespace CompiledSli

variable {config : MixinConfig} {registry : Registry} {product sliId : String} {raw : Value}
  {spec : SliSpec} {i : Indicator} {metadata : SliMetadata}

theorem measure_unknown (unknown : registry.contains spec.metricType = false) :
    measure config registry metadata spec =
      .error (.ofCause (.metricType spec.metricType registry.tags)) :=
  bind_error.mpr (.inl (Registry.get_error.mpr ⟨unknown, rfl⟩))

-- The panel is asked for first, and it is refused before anything is looked at.
theorem measure_incomplete {name : String} (found : registry.get spec.metricType = .ok i)
    (missing : i.missingField? spec = some name) :
    measure config registry metadata spec =
      .error (.ofCause (.specField spec.metricType name)) := by
  have refused : i.panel spec config.datasource =
      .error (.ofCause (.specField spec.metricType name)) := by
    rw [Indicator.panel, Indicator.checkedRoles, missing]
    rfl
  exact bind_error.mpr (.inr ⟨i, found, bind_error.mpr (.inl refused)⟩)

theorem compile_unmeasured {cause : Cause}
    (failed : measure config registry ⟨product, sliId, spec.sliType⟩ spec =
      .error (.ofCause cause)) :
    compile config registry (.str product) (.str sliId) spec =
      .error (.build ⟨cause, .str product, .str sliId⟩) := by
  unfold compile
  simp only [Value.label_text, failed, bind, Except.bind, locate, Except.mapError, Fault.ofCause,
    BuildError.withLocation, BuildError.raised_at]

theorem compile_measured {panel : Entries} {measured : List RecordingRule}
    (made : measure config registry ⟨product, sliId, spec.sliType⟩ spec = .ok (panel, measured)) :
    (∃ s, compile config registry (.str product) (.str sliId) spec = .ok s) ∨
      ∃ findings, compile config registry (.str product) (.str sliId) spec =
        .error (.build ⟨.rules findings, .str product, .str sliId⟩) := by
  let metadata : SliMetadata := ⟨product, sliId, spec.sliType⟩
  let rules := measured ++ [Slo.complianceRule spec metadata, Slo.budgetRule spec metadata]
  unfold compile
  simp only [Value.label_text, made, Slo.rules_eq, AlertingRule.forSli_eq, requireRules_named, bind,
    Except.bind]
  by_cases passed : (recordingRules rules).isEmpty
  · exact .inl ⟨_, by rw [if_pos passed]; rfl⟩
  · refine .inr ⟨recordingRules rules, ?_⟩
    rw [if_neg passed]
    exact congrArg Except.error (BuildError.raised_at _ product sliId)

inductive Ends (product sliId : String) (spec : SliSpec) : Except Fault CompiledSli → Prop where
  | unknown (unknown : Registry.standard.contains spec.metricType = false) :
      Ends product sliId spec (.error (.build
        ⟨.metricType spec.metricType Registry.standard.tags, .str product, .str sliId⟩))
  | incomplete {histogram : String}
      (found : Registry.standard.get spec.metricType = .ok (.latency histogram))
      (missing : spec.latencyPercentile = none) :
      Ends product sliId spec (.error (.build
        ⟨.specField spec.metricType "latency_percentile", .str product, .str sliId⟩))
  | disordered {i : Indicator} (found : Registry.standard.get spec.metricType = .ok i)
      (complete : i.missingField? spec = none) (findings : List RuleFinding) :
      Ends product sliId spec (.error (.build ⟨.rules findings, .str product, .str sliId⟩))
  | compiled {i : Indicator} (found : Registry.standard.get spec.metricType = .ok i)
      (complete : i.missingField? spec = none) (s : CompiledSli) : Ends product sliId spec (.ok s)

theorem compile_ends (accepts : SliSpec.Accepts raw spec) (config : MixinConfig)
    (product sliId : String) : Ends product sliId spec
      (compile config Registry.standard (.str product) (.str sliId) spec) := by
  cases found : Registry.standard.get spec.metricType with
  | error f =>
    obtain ⟨unknown, rfl⟩ := Registry.get_error.mp found
    rw [compile_unmeasured (measure_unknown unknown)]
    exact .unknown unknown
  | ok i =>
    cases complete : i.missingField? spec with
    | some name =>
      rw [compile_unmeasured (measure_incomplete found complete)]
      obtain ⟨⟨histogram, rfl⟩, missing, rfl⟩ := Indicator.missingField?_some.mp complete
      exact .incomplete found missing
    | none =>
      obtain ⟨panel, measured, shows, measures, _⟩ := Indicator.measures_iff accepts found complete
        config ⟨product, sliId, spec.sliType⟩
      rcases compile_measured (measure_ok.mpr ⟨i, found, shows, measures⟩) with
        ⟨s, made⟩ | ⟨findings, failed⟩
      · rw [made]
        exact .compiled found complete s
      · rw [failed]
        exact .disordered found complete findings

end CompiledSli

theorem Clause.make_self (c : Clause) : make c.label c.operator.text c.pattern = .ok c := by
  obtain ⟨label, operator, pattern, valid⟩ := c
  rw [make, dif_pos valid]
  cases operator <;> rfl

theorem Comparison.negateText_text (c : Comparison) : negateText c.text = .ok c.negate.text := by
  cases c <;> rfl

-- Everything that is asked for on the way from an SLI to its panel, rules and alert is there: its
-- selectors, the environment and the labels that tell it from others are clauses, the roles of its
-- indicator have names, its own records are metric names, its comparison has an opposite, and its
-- numbers can be written out.
structure Unobstructed (config : MixinConfig) (i : Indicator) (spec : SliSpec)
    (metadata : SliMetadata) : Prop where
  selectors : ∃ clauses, Clause.ofSelectors spec.selectors = .ok clauses
  environment : ∀ e, config.environment = some e →
    Clause.make "environment" "=" e = .ok (Indicator.environmentClause e)
  identity : ∀ record, sliSeries record [("product", metadata.product), ("sliId", metadata.sliId)] =
    .ok (SliIdentity.series ⟨metadata.product, metadata.sliId⟩ record)
  targets : ∃ table, i.targets = .ok table ∧
    (∀ role ∈ i.reads, ∃ target, Ordered.get? table role = some target) ∧
    ∀ target ∈ table, (∃ role, i.roles.metric role = .ok target.2.name) ∧
      ∀ c ∈ target.2.clauses, Clause.make c.label c.operator.text c.pattern = .ok c
  records : ∀ role ∈ Ordered.keys i.roles.derivedMetrics, ∃ record,
    i.roles.derivedMetric role metadata.product metadata.sliId = .ok record ∧
      isMetricName record = true
  breach : Comparison.negateText (i.comparison spec).text = .ok (i.comparison spec).negate.text
  percentile : ∀ histogram, i = .latency histogram → ∃ q, spec.latencyPercentile = some q
  numbers : ∀ x : Binary64, (Value.float x).plain = .ok x.plain
  panel : ∃ panel, i.panel spec config.datasource = .ok panel
  rules : ∃ rules, i.rules spec metadata config = .ok rules
  objective : ∃ rules, Slo.rules spec metadata.labels = .ok rules
  alert : ∃ alert, AlertingRule.forSli config spec metadata.labels = .ok alert

theorem MetricRoles.metric_ok {roles : MetricRoles} {role name : String}
    (listed : Ordered.get? roles.metrics role = some name) (written : name ≠ "") :
    roles.metric role = .ok name := by
  have given : named? roles.metrics role = some name := by
    rw [named?, listed, Option.filter_some, if_pos (by simpa using written)]
  rw [metric, given]

namespace Indicator

theorem targets_named {i : Indicator} {table : List (String × TargetMetric)}
    (read : i.targets = .ok table) :
    ∀ target ∈ table, ∃ role, i.roles.metric role = .ok target.2.name := by
  cases i with
  | up =>
    cases read
    exact List.forall_mem_singleton.mpr ⟨"up", rfl⟩
  | errorRatio metric statusLabel errorPattern =>
    obtain ⟨requests, named, read⟩ := bind_ok.mp read
    obtain ⟨errors, _, read⟩ := bind_ok.mp read
    cases read
    exact List.forall_mem_cons.mpr
      ⟨⟨"requests", named⟩, List.forall_mem_singleton.mpr ⟨"requests", named⟩⟩
  | latency histogram =>
    cases read
    exact List.forall_mem_cons.mpr ⟨⟨"bucket", MetricRoles.metric_ok rfl (by simp)⟩,
      List.forall_mem_singleton.mpr ⟨"count", MetricRoles.metric_ok rfl (by simp)⟩⟩
  | queueAge =>
    cases read
    exact List.forall_mem_cons.mpr
      ⟨⟨"oldestMessageAge", rfl⟩, List.forall_mem_singleton.mpr ⟨"messagesVisible", rfl⟩⟩

theorem derivedMetric_exists (i : Indicator) (product sliId : String) :
    ∀ role ∈ Ordered.keys i.roles.derivedMetrics, ∃ record,
      i.roles.derivedMetric role product sliId = .ok record ∧ isMetricName record = true := by
  intro role listed
  cases i with
  | queueAge =>
    have metric : ∀ operation, (∀ c ∈ operation.toList, isMetricChar c = true) →
        MetricRoles.named? (roles .queueAge).derivedMetrics role = some operation →
          ∃ record, (roles .queueAge).derivedMetric role product sliId = .ok record ∧
            isMetricName record = true := fun operation metric given =>
      ⟨_, derivedMetric_eq product sliId operation given metric, isMetricName_ownRecord _ _ metric⟩
    simp only [roles, Ordered.keys, List.map_cons, List.map_nil, List.mem_cons, List.not_mem_nil,
      or_false] at listed
    rcases listed with rfl | rfl | rfl
    · exact metric _ (all_chars rfl rfl) rfl
    · exact metric _ (all_chars rfl rfl) rfl
    · exact metric _ (all_chars rfl rfl) rfl
  | _ => cases listed

end Indicator

theorem unobstructed {raw : Value} {spec : SliSpec} (accepts : SliSpec.Accepts raw spec)
    {i : Indicator} (found : Registry.standard.get spec.metricType = .ok i)
    (complete : i.missingField? spec = none) (config : MixinConfig) (metadata : SliMetadata) :
    Unobstructed config i spec metadata := by
  obtain ⟨clauses, selected, _⟩ := Indicator.dashboardClauses_exists accepts.labels_valid
  obtain ⟨table, read⟩ := Indicator.targets_exists (spec.metricType, i) (Registry.get_listed found)
  obtain ⟨panel, measured, shows, measures, _⟩ :=
    Indicator.measures_iff accepts found complete config metadata
  exact {
    selectors := ⟨clauses, mapError_ok.mp selected⟩
    environment := fun e _ => Clause.make_self (Indicator.environmentClause e)
    identity := fun record => rfl
    targets := ⟨table, read, Indicator.targets_read read, fun target member =>
      ⟨Indicator.targets_named read target member, fun c _ => c.make_self⟩⟩
    records := i.derivedMetric_exists metadata.product metadata.sliId
    breach := Comparison.negateText_text _
    percentile := by
      rintro histogram rfl
      exact Option.ne_none_iff_exists'.mp (Indicator.percentile_given complete)
    numbers := fun x => rfl
    panel := ⟨panel, shows⟩
    rules := ⟨measured, measures⟩
    objective := ⟨_, Slo.rules_eq spec metadata⟩
    alert := ⟨_, AlertingRule.forSli_eq config spec metadata⟩ }

def Raises {α : Type} (outcome : Except Fault α) (kind : ErrorKind) : Prop :=
  ∃ e : BuildError, outcome = .error (.build e) ∧ e.kind = kind

theorem raises_error {α : Type} {e : BuildError} {kind : ErrorKind} :
    Raises (.error (.build e) : Except Fault α) kind ↔ e.kind = kind := by
  simp [Raises]

theorem not_raises_ok {α : Type} {a : α} {kind : ErrorKind} : ¬Raises (.ok a) kind := by
  simp [Raises]

namespace CompiledSli

-- An SLI with an accepted spec compiles unless its metric type is not known, its indicator takes a
-- percentile and there is none, or its rules are not in order. Nothing else stands in the way.
theorem compile_obstacles (config : MixinConfig) {raw named called : Value} {spec : SliSpec}
    (accepted : SliSpec.read raw named called = .ok spec) (product sliId : String) :
    (Raises (compile config Registry.standard (.str product) (.str sliId) spec)
        .unknownMetricType ↔ Registry.standard.contains spec.metricType = false) ∧
      (Raises (compile config Registry.standard (.str product) (.str sliId) spec)
          .missingSpecField ↔
        ∃ histogram, Registry.standard.get spec.metricType = .ok (.latency histogram) ∧
          spec.latencyPercentile = none) ∧
      (Registry.standard.contains spec.metricType = true →
        (∀ histogram, Registry.standard.get spec.metricType = .ok (.latency histogram) →
          spec.latencyPercentile ≠ none) →
        ((∃ s, compile config Registry.standard (.str product) (.str sliId) spec = .ok s) ∨
            Raises (compile config Registry.standard (.str product) (.str sliId) spec)
              .invalidRules) ∧
          ∃ i, Registry.standard.get spec.metricType = .ok i ∧
            Unobstructed config i spec ⟨product, sliId, spec.sliType⟩) := by
  have accepts := SliSpec.read_accepts accepted
  have ends := compile_ends accepts config product sliId
  generalize compile config Registry.standard (.str product) (.str sliId) spec = compiled at ends ⊢
  have known {i : Indicator} (found : Registry.standard.get spec.metricType = .ok i) :
      ¬Registry.standard.contains spec.metricType = false := by
    simp [Registry.contains_of_get found]
  have given {i : Indicator} (found : Registry.standard.get spec.metricType = .ok i)
      (complete : i.missingField? spec = none) :
      ¬∃ histogram, Registry.standard.get spec.metricType = .ok (.latency histogram) ∧
        spec.latencyPercentile = none := by
    rintro ⟨histogram, same, missing⟩
    cases found.symm.trans same
    exact Indicator.percentile_given complete missing
  have reached {i : Indicator} (found : Registry.standard.get spec.metricType = .ok i)
      (complete : i.missingField? spec = none) :
      ∃ i, Registry.standard.get spec.metricType = .ok i ∧
        Unobstructed config i spec ⟨product, sliId, spec.sliType⟩ :=
    ⟨i, found, unobstructed accepts found complete config _⟩
  -- No two ways to end go together, so each decides all three statements.
  cases ends with
  | unknown unknown =>
    refine ⟨iff_of_true (raises_error.mpr rfl) unknown, iff_of_false ?_ ?_, ?_⟩
    · exact fun raised => by cases raises_error.mp raised
    · exact fun ⟨_, found, _⟩ => known found unknown
    · exact fun registered => by simp [unknown] at registered
  | incomplete found missing =>
    refine ⟨iff_of_false ?_ (known found), iff_of_true (raises_error.mpr rfl) ?_, ?_⟩
    · exact fun raised => by cases raises_error.mp raised
    · exact ⟨_, found, missing⟩
    · exact fun _ percentile => absurd missing (percentile _ found)
  | disordered found complete findings =>
    refine ⟨iff_of_false ?_ (known found), iff_of_false ?_ (given found complete), ?_⟩
    · exact fun raised => by cases raises_error.mp raised
    · exact fun raised => by cases raises_error.mp raised
    · exact fun _ _ => ⟨.inr (raises_error.mpr rfl), reached found complete⟩
  | compiled found complete s =>
    exact ⟨iff_of_false not_raises_ok (known found),
      iff_of_false not_raises_ok (given found complete),
      fun _ _ => ⟨.inl ⟨s, rfl⟩, reached found complete⟩⟩

end CompiledSli

namespace Sample

def ageless : Value :=
  .object [
    ("title", .str "T"), ("metricType", .str "aws_sqs_message_age"), ("metricTarget", .str "inf"),
    ("selectors", .object [("environment", .str "!a\"b")]), ("sloTarget", .int 99)]

end Sample

namespace CompiledSli

theorem ageless_obstacles : ∃ config spec,
    MixinConfig.read Sample.config = .ok config ∧
      SliSpec.read Sample.ageless .null .null = .ok spec ∧
      (Raises (compile config Registry.standard (.str "") (.str "1%") spec) .unknownMetricType ↔
        Registry.standard.contains spec.metricType = false) ∧
      (Raises (compile config Registry.standard (.str "") (.str "1%") spec) .missingSpecField ↔
        ∃ histogram, Registry.standard.get spec.metricType = .ok (.latency histogram) ∧
          spec.latencyPercentile = none) ∧
      (Registry.standard.contains spec.metricType = true →
        (∀ histogram, Registry.standard.get spec.metricType = .ok (.latency histogram) →
          spec.latencyPercentile ≠ none) →
        ((∃ s, compile config Registry.standard (.str "") (.str "1%") spec = .ok s) ∨
            Raises (compile config Registry.standard (.str "") (.str "1%") spec) .invalidRules) ∧
          ∃ i, Registry.standard.get spec.metricType = .ok i ∧
            Unobstructed config i spec ⟨"", "1%", spec.sliType⟩) := by
  obtain ⟨config, configured⟩ := Sample.config_read
  obtain ⟨spec, accepted⟩ : ∃ spec, SliSpec.read Sample.ageless .null .null = .ok spec :=
    isOk_iff.mp (by decide +kernel)
  exact ⟨config, spec, configured, accepted, compile_obstacles config accepted "" "1%"⟩

end CompiledSli

end SloCompiler
