import SloCompiler.Build
import SloCompiler.Proofs.Measurement
import SloCompiler.Proofs.RuleChecks

namespace SloCompiler

theorem merge_labels_self (metadata : SliMetadata) :
    Labels.merge [some metadata.labels, some metadata.labels] = metadata.labels := by
  simp [Labels.merge, Ordered.putAll, Ordered.put, SliMetadata.labels]

namespace Indicator

theorem rules_labels {i : Indicator} {spec : SliSpec} {metadata : SliMetadata}
    {config : MixinConfig} {rules : List RecordingRule}
    (made : i.rules spec metadata config = .ok rules) :
    ∀ r ∈ rules, r.labels = metadata.labels := by
  obtain ⟨clauses, table, _, _, rfl⟩ := rules_exprs made
  intro r member
  obtain ⟨named, _, rfl⟩ := List.mem_map.mp member
  rfl

theorem rules_withLabels {i : Indicator} {spec : SliSpec} {metadata : SliMetadata}
    {config : MixinConfig} {rules : List RecordingRule}
    (made : i.rules spec metadata config = .ok rules) :
    rules.map (·.withLabels metadata.labels) = rules := by
  have same : ∀ r ∈ rules, r.withLabels metadata.labels = id r := by
    intro r member
    have labels := rules_labels made r member
    simp only [RecordingRule.withLabels, labels, merge_labels_self, id]
    rw [← labels]
  rw [List.map_congr_left same, List.map_id]

theorem rules_value_last {i : Indicator} {spec : SliSpec} {metadata : SliMetadata}
    {config : MixinConfig} {rules : List RecordingRule}
    (made : i.rules spec metadata config = .ok rules) :
    ∃ before value, rules = before ++ [⟨sliValueRecord, value, metadata.labels⟩] ∧
      ∀ r ∈ before, ∃ operation, (∀ c ∈ operation.toList, isMetricChar c = true) ∧
        r.record = ownRecord metadata.product metadata.sliId operation := by
  obtain ⟨clauses, table, _, _, rfl⟩ := rules_exprs made
  obtain ⟨before, value, shape, own⟩ :=
    exprs_value_last i spec (seriesOf table clauses) metadata.product metadata.sliId
  refine ⟨before.map (recorded metadata), value.render, ?_, ?_⟩
  · rw [shape, List.map_append]
    rfl
  · intro r member
    obtain ⟨named, listed, rfl⟩ := List.mem_map.mp member
    exact own named listed

end Indicator

theorem SliIdentity.render_series (identity : SliIdentity) (record : String) :
    (identity.series record).render = record ++ renderSelector identity.clauses := rfl

namespace Slo

def complianceRule (spec : SliSpec) (metadata : SliMetadata) : RecordingRule :=
  ⟨complianceRecord, (compliance spec ⟨metadata.product, metadata.sliId⟩).render, metadata.labels⟩

def budgetRule (spec : SliSpec) (metadata : SliMetadata) : RecordingRule :=
  ⟨errorBudgetRecord, (errorBudget spec ⟨metadata.product, metadata.sliId⟩).render,
    metadata.labels⟩

theorem rules_eq (spec : SliSpec) (metadata : SliMetadata) :
    rules spec metadata.labels =
      .ok [complianceRule spec metadata, budgetRule spec metadata] := rfl

end Slo

def AlertingRule.ofSli (config : MixinConfig) (spec : SliSpec) (metadata : SliMetadata) :
    AlertingRule :=
  let identity : SliIdentity := ⟨metadata.product, metadata.sliId⟩
  ⟨Alert.name identity, (Slo.breach spec identity).render, spec.period,
    Alert.labels config metadata.labels, Alert.annotations config spec identity⟩

theorem AlertingRule.forSli_eq (config : MixinConfig) (spec : SliSpec) (metadata : SliMetadata) :
    AlertingRule.forSli config spec metadata.labels = .ok (.ofSli config spec metadata) := rfl

-- An SLI with the indicator that measures it, what this yields, and why it is accepted.
structure Contribution (config : MixinConfig) (registry : Registry) where
  metadata : SliMetadata
  spec : SliSpec
  indicator : Indicator
  measured : List RecordingRule
  panel : Entries
  type_eq : metadata.sliType = spec.sliType
  found : registry.get spec.metricType = .ok indicator
  measures : indicator.rules spec metadata config = .ok measured
  shows : indicator.panel spec config.datasource = .ok panel
  ordered : Check.recordingRules
    (measured ++ [Slo.complianceRule spec metadata, Slo.budgetRule spec metadata]) = []

namespace Contribution

variable {config : MixinConfig} {registry : Registry}

def product (part : Contribution config registry) : String := part.metadata.product

def sliId (part : Contribution config registry) : String := part.metadata.sliId

def interval (part : Contribution config registry) : String := part.spec.evalInterval

def labels (part : Contribution config registry) : Labels := part.metadata.labels

def entry (part : Contribution config registry) : Value × Value × SliSpec :=
  (.str part.product, .str part.sliId, part.spec)

def block (part : Contribution config registry) : List RecordingRule :=
  part.measured ++ [Slo.complianceRule part.spec part.metadata, Slo.budgetRule part.spec part.metadata]

def alert (part : Contribution config registry) : AlertingRule :=
  .ofSli config part.spec part.metadata

def compiled (part : Contribution config registry) : CompiledSli :=
  ⟨part.product, part.interval, part.block, part.alert, part.panel⟩

theorem block_labels (part : Contribution config registry) :
    ∀ r ∈ part.block, r.labels = part.labels := by
  intro r member
  rcases List.mem_append.mp member with measured | objective
  · exact Indicator.rules_labels part.measures r measured
  · rcases List.mem_cons.mp objective with rfl | objective
    · rfl
    · rw [List.mem_singleton.mp objective]
      rfl

theorem measured_shape (part : Contribution config registry) :
    ∃ before value, part.measured = before ++ [⟨sliValueRecord, value, part.labels⟩] ∧
      ∀ r ∈ before, ∃ operation, (∀ c ∈ operation.toList, isMetricChar c = true) ∧
        r.record = ownRecord part.product part.sliId operation :=
  Indicator.rules_value_last part.measures

end Contribution

theorem CompiledSli.measure_ok {config : MixinConfig} {registry : Registry}
    {metadata : SliMetadata} {spec : SliSpec} {panel : Entries} {measured : List RecordingRule} :
    CompiledSli.measure config registry metadata spec = .ok (panel, measured) ↔
      ∃ indicator, registry.get spec.metricType = .ok indicator ∧
        indicator.panel spec config.datasource = .ok panel ∧
        indicator.rules spec metadata config = .ok measured := by
  unfold CompiledSli.measure
  simp only [bind_ok]
  constructor
  · rintro ⟨indicator, found, shown, shows, rules, measures, kept⟩
    rw [Indicator.rules_withLabels measures] at kept
    cases kept
    exact ⟨indicator, found, shows, measures⟩
  · rintro ⟨indicator, found, shows, measures⟩
    refine ⟨indicator, found, panel, shows, measured, measures, ?_⟩
    rw [Indicator.rules_withLabels measures]
    rfl

theorem compile_ok {config : MixinConfig} {registry : Registry} {product sliId : Value}
    {spec : SliSpec} {c : CompiledSli} :
    CompiledSli.compile config registry product sliId spec = .ok c ↔
      ∃ part : Contribution config registry,
        part.entry = (product, sliId, spec) ∧ part.compiled = c := by
  constructor
  · intro compiled
    have compiled := mapError_ok.mp compiled
    obtain ⟨⟨panel, measured⟩, made, compiled⟩ := bind_ok.mp compiled
    obtain ⟨indicator, found, shows, measures⟩ := CompiledSli.measure_ok.mp made
    obtain ⟨name, id, rfl, rfl⟩ : ∃ name id, product = .str name ∧ sliId = .str id := by
      cases product <;> cases sliId <;> first | cases compiled | exact ⟨_, _, rfl, rfl⟩
    obtain ⟨_, objective, compiled⟩ := bind_ok.mp compiled
    cases objective
    obtain ⟨_, checked, compiled⟩ := bind_ok.mp compiled
    cases compiled
    exact ⟨{
      metadata := ⟨name, id, spec.sliType⟩
      spec, indicator, measured, panel, found, measures, shows
      type_eq := rfl
      ordered := Check.requireRules_ok.mp checked }, rfl, rfl⟩
  · rintro ⟨part, same, rfl⟩
    cases same
    have whole : (⟨part.product, part.sliId, part.spec.sliType⟩ : SliMetadata) = part.metadata := by
      rw [← part.type_eq]
      rfl
    have measured : CompiledSli.measure config registry part.metadata part.spec =
        .ok (part.panel, part.measured) :=
      CompiledSli.measure_ok.mpr ⟨part.indicator, part.found, part.shows, part.measures⟩
    have checked : Check.requireRules (part.measured ++ [Slo.complianceRule part.spec part.metadata,
        Slo.budgetRule part.spec part.metadata]) (.str part.product) (.str part.sliId) = .ok () :=
      Check.requireRules_ok.mpr part.ordered
    refine mapError_ok.mpr ?_
    simp only [Value.label_text, whole, measured, Slo.rules_eq, AlertingRule.forSli_eq, checked, bind,
      Except.bind, pure, Except.pure]
    rfl

theorem compileAll_ok {config : MixinConfig} {registry : Registry}
    {listed : List (Value × Value × SliSpec)} {slis : List CompiledSli} :
    (listed.mapM fun (product, sliId, spec) =>
        CompiledSli.compile config registry product sliId spec) = .ok slis ↔
      ∃ parts : List (Contribution config registry),
        listed = parts.map (·.entry) ∧ slis = parts.map (·.compiled) := by
  rw [mapM_ok]
  constructor
  · intro each
    induction each with
    | nil => exact ⟨[], rfl, rfl⟩
    | @cons x y xs ys first _ ih =>
      obtain ⟨part, same, made⟩ := compile_ok.mp first
      obtain ⟨parts, rfl, rfl⟩ := ih
      exact ⟨part :: parts, by rw [List.map_cons, same], by rw [List.map_cons, made]⟩
  · rintro ⟨parts, rfl, rfl⟩
    induction parts with
    | nil => exact .nil
    | cons part parts ih => exact .cons (compile_ok.mpr ⟨part, rfl, rfl⟩) ih

end SloCompiler
