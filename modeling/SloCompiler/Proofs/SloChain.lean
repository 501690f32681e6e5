import SloCompiler.Proofs.Accounting
import SloCompiler.Proofs.DurationReading
import SloCompiler.Proofs.SelectorReader

namespace SloCompiler

def Labels.value (labels : Labels) (label : String) : String :=
  (Ordered.get? labels label).getD ""

-- Whether a selector by equalities selects the series that a rule records.
def TargetMetric.Selects (t : TargetMetric) (r : RecordingRule) : Bool :=
  r.record == t.name &&
    t.clauses.all fun c => c.operator == .equal && r.labels.value c.label == c.pattern

theorem product_label : isLabelName "product" = true := by decide

theorem sliId_label : isLabelName "sliId" = true := by decide

def ownSelector (record product sliId : String) : TargetMetric where
  name := record
  clauses := [⟨"product", .equal, product, product_label⟩, ⟨"sliId", .equal, sliId, sliId_label⟩]

def Braceless (s : String) : Prop := '\x7b' ∉ s.toList

namespace Braceless

theorem of_metric {s : String} (metric : ∀ c ∈ s.toList, isMetricChar c = true) : Braceless s :=
  fun present => absurd (metric _ present) (by decide)

theorem constant (s : String) {cs : List Char} (written : s = String.ofList cs)
    (plain : cs.all (· != '\x7b') = true) : Braceless s :=
  fun present => absurd (all_chars written plain _ present) (by decide)

theorem numeral (x : Binary64) : Braceless x.plain := x.plain_lacks (by decide)

theorem label (c : Clause) : Braceless c.label := c.label_lacks (by decide) (by decide)

end Braceless

theorem own_series_named {record : String} (metric : ∀ c ∈ record.toList, isMetricChar c = true)
    (identity : SliIdentity) : (identity.series record).Named := metric

theorem own_series_braceless {record : String}
    (metric : ∀ c ∈ record.toList, isMetricChar c = true) (identity : SliIdentity) :
    (identity.series record).Each Braceless := .series (.of_metric metric) .label

namespace Slo

variable (spec : SliSpec) (identity : SliIdentity)

theorem breach_reads : SelectorReader.selectors (breach spec identity).render =
    [ownSelector complianceRecord identity.product identity.sliId] := by
  have record : ∀ c ∈ complianceRecord.toList, isMetricChar c = true := all_chars rfl rfl
  have plain : (breach spec identity).Each Braceless :=
    .binary (.constant "<" rfl rfl) (own_series_braceless record identity) (.text (.numeral _))
  rw [Expr.selectors_render plain]
  · rfl
  · exact ⟨own_series_named record identity, trivial⟩

theorem errorBudget_reads : SelectorReader.selectors (errorBudget spec identity).render =
    [ownSelector complianceRecord identity.product identity.sliId] := by
  have record : ∀ c ∈ complianceRecord.toList, isMetricChar c = true := all_chars rfl rfl
  have left : (Expr.binary "-" (identity.series complianceRecord)
      (.text spec.sloTarget.plain)).Each Braceless :=
    .binary (.constant "-" rfl rfl) (own_series_braceless record identity) (.text (.numeral _))
  have plain : (errorBudget spec identity).Each Braceless :=
    .binary (.constant "*" rfl rfl) (.binary (.constant "/" rfl rfl) left (.text (.numeral _)))
      (.text (.constant "100" rfl rfl))
  rw [Expr.selectors_render plain]
  · rfl
  · exact ⟨⟨⟨own_series_named record identity, trivial⟩, trivial⟩, trivial⟩

theorem compliance_reads {spec : SliSpec} {d : Duration}
    (period : Duration.parse spec.period = .ok d) :
    SelectorReader.selectors (compliance spec identity).render =
      [ownSelector sliValueRecord identity.product identity.sliId] := by
  have record : ∀ c ∈ sliValueRecord.toList, isMetricChar c = true := all_chars rfl rfl
  have span : Braceless spec.period := Duration.text_lacks period (by decide) (by decide)
  have plain : (compliance spec identity).Each Braceless :=
    .binary (.constant "*" rfl rfl) (.call (.constant "avg_over_time" rfl rfl)
      (.window (own_series_braceless record identity) span)) (.text (.constant "100" rfl rfl))
  rw [Expr.selectors_render plain]
  · rfl
  · exact ⟨own_series_named record identity, trivial⟩

end Slo

namespace Contribution

variable {config : MixinConfig} {registry : Registry}

theorem selects_own {part : Contribution config registry} {r : RecordingRule}
    (member : r ∈ part.block) {record product sliId : String} :
    (ownSelector record product sliId).Selects r = true ↔
      r.record = record ∧ part.product = product ∧ part.sliId = sliId := by
  have labels := part.block_labels r member
  have first : r.labels.value "product" = part.product := by rw [labels]; rfl
  have second : r.labels.value "sliId" = part.sliId := by rw [labels]; rfl
  simp [TargetMetric.Selects, ownSelector, first, second]

namespace BlockShape

variable {part : Contribution config registry} {before : List RecordingRule}
  {value compliance budget : RecordingRule}

theorem filter_common (shape : part.BlockShape before value compliance budget) {record : String}
    (common : record ∈ commonRecords) :
    part.block.filter (·.record == record) =
      [value, compliance, budget].filter (·.record == record) := by
  have none : before.filter (·.record == record) = [] := by
    refine List.filter_eq_nil_iff.mpr fun r member same => shape.before_records r member ?_
    rwa [beq_iff_eq.mp same]
  rw [shape.block, List.filter_append, none, List.nil_append]

theorem only_value (shape : part.BlockShape before value compliance budget) :
    part.block.filter (·.record == sliValueRecord) = [value] := by
  rw [shape.filter_common (by simp [commonRecords])]
  simp [shape.value_record, shape.compliance_record, shape.budget_record, sliValueRecord,
    complianceRecord, errorBudgetRecord]

theorem only_compliance (shape : part.BlockShape before value compliance budget) :
    part.block.filter (·.record == complianceRecord) = [compliance] := by
  rw [shape.filter_common (by simp [commonRecords])]
  simp [shape.value_record, shape.compliance_record, shape.budget_record, sliValueRecord,
    complianceRecord, errorBudgetRecord]

theorem objective (shape : part.BlockShape before value compliance budget) :
    compliance = Slo.complianceRule part.spec part.metadata ∧
      budget = Slo.budgetRule part.spec part.metadata := by
  have same : part.measured ++ [compliance, budget] = part.block := by
    rw [shape.block, shape.measured]
    simp
  simpa using List.append_cancel_left same

end BlockShape

end Contribution

-- The rules and the alert of an SLI read each other, and nothing else is what they read.
structure Chained (a : Artifacts) (product sliId : String) (alert : AlertingRule)
    (value compliance budget : RecordingRule) : Prop where
  alert_reads : SelectorReader.selectors alert.expr = [ownSelector complianceRecord product sliId]
  budget_reads : SelectorReader.selectors budget.expr = [ownSelector complianceRecord product sliId]
  compliance_reads : SelectorReader.selectors compliance.expr =
    [ownSelector sliValueRecord product sliId]
  compliance_only : (a.recording.flatMap (·.rules)).filter
    (ownSelector complianceRecord product sliId).Selects = [compliance]
  value_only : (a.recording.flatMap (·.rules)).filter
    (ownSelector sliValueRecord product sliId).Selects = [value]
  in_order : ∃ g ∈ a.recording, ∃ before after,
    g.rules = before ++ value :: compliance :: budget :: after

namespace Mixin

variable {config : MixinConfig} {registry : Registry} {parts : List (Contribution config registry)}

theorem filter_selected (whole : Compatible parts) {part : Contribution config registry}
    (member : part ∈ parts) (record : String) :
    ((assembled config (parts.map (·.compiled))).recording.flatMap (·.rules)).filter
        (ownSelector record part.product part.sliId).Selects =
      part.block.filter (·.record == record) := by
  have own : ∀ other ∈ parts, ∀ r ∈ other.block,
      (ownSelector record part.product part.sliId).Selects r = true →
        other.identity = part.identity := by
    intro other _ r listed selected
    obtain ⟨_, product, sliId⟩ := (Contribution.selects_own listed).mp selected
    rw [Contribution.identity, Contribution.identity, product, sliId]
  rw [rules_filter whole member own]
  refine List.filter_congr fun r listed => ?_
  rw [Bool.eq_iff_iff, Contribution.selects_own listed, beq_iff_eq]
  simp

theorem alert_listed {part : Contribution config registry} (member : part ∈ parts) :
    part.alert ∈ (assembled config (parts.map (·.compiled))).alerting.flatMap (·.rules) := by
  have key : part.product ∈ (parts.map (·.product)).eraseDups :=
    List.mem_eraseDups.mpr (List.mem_map_of_mem member)
  have kept : part ∈ parts.filter (·.product == part.product) :=
    List.mem_filter.mpr ⟨member, beq_self_eq_true _⟩
  rw [assembled_alerting]
  exact List.mem_flatMap.mpr ⟨_, List.mem_map_of_mem key, List.mem_map_of_mem kept⟩

theorem chained (whole : Compatible parts) {part : Contribution config registry}
    (member : part ∈ parts) {d : Duration} (period : Duration.parse part.spec.period = .ok d)
    {before : List RecordingRule} {value compliance budget : RecordingRule}
    (shape : part.BlockShape before value compliance budget) :
    Chained (assembled config (parts.map (·.compiled))) part.product part.sliId part.alert value
      compliance budget where
  alert_reads := Slo.breach_reads part.spec part.identity
  budget_reads := by
    rw [shape.objective.2]
    exact Slo.errorBudget_reads part.spec part.identity
  compliance_reads := by
    rw [shape.objective.1]
    exact Slo.compliance_reads part.identity period
  compliance_only := by
    rw [filter_selected whole member, shape.only_compliance]
  value_only := by
    rw [filter_selected whole member, shape.only_value]
  in_order := by
    obtain ⟨g, present, _, first, last, rules⟩ := whole.accounts.part_group member
    refine ⟨g, present, first ++ before, last, ?_⟩
    rw [rules, shape.block]
    simp

-- What the alert and the rules of an SLI select is recorded once, by the SLI itself, and in
-- time.
theorem buildFrom_chains {config slis : Value} {a : Artifacts}
    (built : buildFrom config slis Registry.standard = .ok a) :
    ∃ c table, MixinConfig.read config = .ok c ∧ SliTable.read slis = .ok table ∧
      ∃ parts : List (Contribution c Registry.standard), entries table = parts.map (·.entry) ∧
        ∀ part ∈ parts, part.alert ∈ a.alerting.flatMap (·.rules) ∧
          ∃ before value compliance budget, part.BlockShape before value compliance budget ∧
            Chained a part.product part.sliId part.alert value compliance budget := by
  obtain ⟨c, table, configured, declared, parts, listed, whole, rfl⟩ := buildFrom_ok.mp built
  refine ⟨c, table, configured, declared, parts, listed, fun part member => ?_⟩
  have entry : part.entry ∈ entries table := by
    rw [listed]
    exact List.mem_map_of_mem member
  obtain ⟨raw, read⟩ := spec_read declared entry
  obtain ⟨d, period⟩ := (SliSpec.read_accepts read).period_parses
  obtain ⟨before, value, compliance, budget, shape⟩ := part.block_shape
  exact ⟨alert_listed member, before, value, compliance, budget, shape,
    chained whole member period shape⟩

theorem sample_chains : ∃ a,
    buildFrom Sample.config Sample.slis Registry.standard = .ok a ∧
      ∃ c table, MixinConfig.read Sample.config = .ok c ∧
        SliTable.read Sample.slis = .ok table ∧
          ∃ parts : List (Contribution c Registry.standard),
            entries table = parts.map (·.entry) ∧
              ∀ part ∈ parts, part.alert ∈ a.alerting.flatMap (·.rules) ∧
                ∃ before value compliance budget,
                  part.BlockShape before value compliance budget ∧
                    Chained a part.product part.sliId part.alert value compliance budget := by
  obtain ⟨a, built⟩ := Sample.builds
  exact ⟨a, built, buildFrom_chains built⟩

end Mixin

end SloCompiler
