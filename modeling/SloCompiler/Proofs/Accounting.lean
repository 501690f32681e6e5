import SloCompiler.Proofs.Assembly

namespace SloCompiler

def SameLabels (a b : Labels) : Prop := ∀ label, Ordered.get? a label = Ordered.get? b label

theorem sameLabels_metadata {m n : SliMetadata} (same : SameLabels m.labels n.labels) :
    m.labels = n.labels := by
  have product := same "product"
  have sliId := same "sliId"
  have sliType := same "sliType"
  simp [Ordered.get?, SliMetadata.labels, List.lookup_cons] at product sliId sliType ⊢
  exact ⟨product, sliId, sliType⟩

namespace Contribution

variable {config : MixinConfig} {registry : Registry}

def commonRecords : List String := [sliValueRecord, complianceRecord, errorBudgetRecord]

theorem ownRecord_uncommon (product sliId operation : String) :
    ownRecord product sliId operation ∉ commonRecords := by
  intro member
  have colon := colon_mem_ownRecord product sliId operation
  simp only [commonRecords, List.mem_cons, List.not_mem_nil, or_false] at member
  rcases member with same | same | same <;> rw [same] at colon <;> revert colon <;> decide

-- What an SLI records: what its indicator measures, of which the last and only the last is its
-- value, then its compliance and its error budget, and all of it under its own labels.
structure BlockShape (part : Contribution config registry) (before : List RecordingRule)
    (value compliance budget : RecordingRule) : Prop where
  measured : part.measured = before ++ [value]
  block : part.block = before ++ [value, compliance, budget]
  before_records : ∀ r ∈ before, r.record ∉ commonRecords
  value_record : value.record = sliValueRecord
  compliance_record : compliance.record = complianceRecord
  budget_record : budget.record = errorBudgetRecord
  labels : ∀ r ∈ part.block, r.labels =
    [("product", part.product), ("sliId", part.sliId), ("sliType", part.spec.sliType.text)]

theorem block_shape (part : Contribution config registry) :
    ∃ before value compliance budget, part.BlockShape before value compliance budget := by
  obtain ⟨before, value, shape, own⟩ := part.measured_shape
  refine ⟨before, _, Slo.complianceRule part.spec part.metadata,
    Slo.budgetRule part.spec part.metadata, shape, ?_, ?_, rfl, rfl, rfl, ?_⟩
  · rw [block, shape]
    simp
  · intro r member
    obtain ⟨operation, _, same⟩ := own r member
    rw [same]
    exact ownRecord_uncommon _ _ _
  · intro r member
    rw [part.block_labels r member, ← part.type_eq]
    rfl

end Contribution

-- How a mixin accounts for the SLIs that it is made from: no SLI is lost, none comes twice, and
-- none comes under another's name.
structure Accounts {config : MixinConfig} {registry : Registry}
    (parts : List (Contribution config registry)) (a : Artifacts) : Prop where
  identities : (parts.map (·.identity)).Nodup
  blocks : ∀ part ∈ parts, ∃ before value compliance budget,
    part.BlockShape before value compliance budget
  recording : a.recording = (parts.map (·.groupKey)).eraseDups.map fun key =>
    ⟨RecordingGroups.groupName key.1 key.2, key.2,
      (parts.filter (·.groupKey == key)).flatMap (·.block)⟩
  series : (a.recording.flatMap (·.rules)).Pairwise fun r s =>
    ¬(r.record = s.record ∧ SameLabels r.labels s.labels)
  alerting : a.alerting = (parts.map (·.product)).eraseDups.map fun product =>
    ⟨sanitizeName product ++ "_slo_alerts", (parts.filter (·.product == product)).map (·.alert)⟩
  dashboards : (a.dashboards.map fun named => (named.1, named.2.panels.map (·.panel))) =
    (parts.map (·.product)).eraseDups.map fun product =>
      (product, Panel.row (.str product) (.bool false) ::
        (parts.filter (·.product == product)).map (·.panel))
  summary : a.summary.panels.map (·.panel) = (parts.map (·.product)).eraseDups.flatMap fun product =>
    Panel.row (.str product) (.bool false) :: (parts.filter (·.product == product)).map (·.panel)
  ids : ∀ d ∈ a.summary :: a.dashboards.map (·.2),
    d.panels.map (·.id) = List.range' 1 d.panels.length

namespace Accounts

variable {config : MixinConfig} {registry : Registry} {parts : List (Contribution config registry)}
  {a : Artifacts}

theorem group_parts (accounts : Accounts parts a) {group : RecordingGroup}
    (listed : group ∈ a.recording) :
    (∃ part ∈ parts, group.interval = part.spec.evalInterval) ∧
      ∀ r ∈ group.rules, ∃ part ∈ parts, r ∈ part.block := by
  rw [accounts.recording] at listed
  obtain ⟨key, keyed, rfl⟩ := List.mem_map.mp listed
  obtain ⟨part, member, rfl⟩ := List.mem_map.mp (List.mem_eraseDups.mp keyed)
  refine ⟨⟨part, member, rfl⟩, fun r found => ?_⟩
  obtain ⟨other, its, own⟩ := List.mem_flatMap.mp found
  exact ⟨other, (List.mem_filter.mp its).1, own⟩

theorem part_group (accounts : Accounts parts a) {part : Contribution config registry}
    (member : part ∈ parts) : ∃ group ∈ a.recording, group.interval = part.spec.evalInterval ∧
      ∃ before after, group.rules = before ++ part.block ++ after := by
  have key : part.groupKey ∈ (parts.map (·.groupKey)).eraseDups :=
    List.mem_eraseDups.mpr (List.mem_map_of_mem member)
  have kept : part ∈ parts.filter (·.groupKey == part.groupKey) :=
    List.mem_filter.mpr ⟨member, beq_self_eq_true _⟩
  obtain ⟨first, last, split⟩ := List.append_of_mem kept
  rw [accounts.recording]
  refine ⟨_, List.mem_map_of_mem key, rfl, first.flatMap (·.block), last.flatMap (·.block), ?_⟩
  simp [split]

theorem alert_parts (accounts : Accounts parts a) {group : AlertGroup}
    (listed : group ∈ a.alerting) : ∀ r ∈ group.rules, ∃ part ∈ parts, r = part.alert := by
  rw [accounts.alerting] at listed
  obtain ⟨product, _, rfl⟩ := List.mem_map.mp listed
  intro r found
  obtain ⟨part, its, rfl⟩ := List.mem_map.mp found
  exact ⟨part, (List.mem_filter.mp its).1, rfl⟩

theorem panel_parts (accounts : Accounts parts a) {d : Dashboard}
    (listed : d ∈ a.summary :: a.dashboards.map (·.2)) : ∀ placed ∈ d.panels,
      (∃ product, placed.panel = Panel.row (.str product) (.bool false)) ∨
        ∃ part ∈ parts, placed.panel = part.panel := by
  have kinds {product : String} {panel : Entries} (present : panel ∈
      Panel.row (.str product) (.bool false) ::
        (parts.filter (·.product == product)).map (·.panel)) :
      (∃ product, panel = Panel.row (.str product) (.bool false)) ∨
        ∃ part ∈ parts, panel = part.panel := by
    rcases List.mem_cons.mp present with header | own
    · exact .inl ⟨product, header⟩
    · obtain ⟨part, its, rfl⟩ := List.mem_map.mp own
      exact .inr ⟨part, (List.mem_filter.mp its).1, rfl⟩
  intro placed found
  have shown := List.mem_map_of_mem (f := (·.panel)) found
  rcases List.mem_cons.mp listed with rfl | named
  · rw [accounts.summary] at shown
    obtain ⟨product, _, present⟩ := List.mem_flatMap.mp shown
    exact kinds present
  · obtain ⟨board, member, rfl⟩ := List.mem_map.mp named
    have row := List.mem_map_of_mem
      (f := fun named : String × Dashboard => (named.1, named.2.panels.map (·.panel))) member
    rw [accounts.dashboards] at row
    obtain ⟨product, _, same⟩ := List.mem_map.mp row
    rw [← (Prod.mk.inj same).2] at shown
    exact kinds shown

end Accounts

namespace Mixin

variable {config : MixinConfig} {registry : Registry} (parts : List (Contribution config registry))

theorem assembled_recording :
    (assembled config (parts.map (·.compiled))).recording =
      (parts.map (·.groupKey)).eraseDups.map fun key =>
        ⟨RecordingGroups.groupName key.1 key.2, key.2,
          (parts.filter (·.groupKey == key)).flatMap (·.block)⟩ := by
  rw [assembled, recordingGroups_parts, RecordingGroups.document, Ordered.grouped, List.map_map]
  rfl

theorem assembled_rules :
    (assembled config (parts.map (·.compiled))).recording.flatMap (·.rules) =
      (recordingGroups (parts.map (·.compiled))).rules := by
  rw [assembled, RecordingGroups.document, RecordingGroups.rules, Ordered.flatten,
    List.flatMap_map]

theorem assembled_alerting :
    (assembled config (parts.map (·.compiled))).alerting =
      (parts.map (·.product)).eraseDups.map fun product =>
        ⟨sanitizeName product ++ "_slo_alerts",
          (parts.filter (·.product == product)).map (·.alert)⟩ := by
  rw [assembled, alertGroups_parts, AlertGroups.document, Ordered.grouped, List.map_map]
  simp only [Function.comp_def, List.map_eq_flatMap]

theorem dashboard_panels (product : String) :
    (PanelGroups.productDashboard config (panelGroups (parts.map (·.compiled))) product).panels.map
        (·.panel) =
      Panel.row (.str product) (.bool false) ::
        (parts.filter (·.product == product)).map (·.panel) := by
  rw [PanelGroups.productDashboard, PanelGroups.dashboard, Layout.place_panels, panelGroups_parts,
    Ordered.get?_grouped, List.map_eq_flatMap]
  simp [Layout.rowPanels]

theorem assembled_dashboards :
    ((assembled config (parts.map (·.compiled))).dashboards.map fun named =>
        (named.1, named.2.panels.map (·.panel))) =
      (parts.map (·.product)).eraseDups.map fun product =>
        (product, Panel.row (.str product) (.bool false) ::
          (parts.filter (·.product == product)).map (·.panel)) := by
  rw [assembled, PanelGroups.dashboards, List.map_map]
  simp only [Function.comp_def, dashboard_panels]
  rw [panelGroups_parts, Ordered.grouped, List.map_map]
  rfl

theorem assembled_summary :
    (assembled config (parts.map (·.compiled))).summary.panels.map (·.panel) =
      (parts.map (·.product)).eraseDups.flatMap fun product =>
        Panel.row (.str product) (.bool false) ::
          (parts.filter (·.product == product)).map (·.panel) := by
  rw [assembled, PanelGroups.summary, PanelGroups.dashboard, Layout.place_panels,
    panelGroups_parts, Ordered.grouped, List.flatMap_map]
  simp only [Layout.rowPanels, List.map_eq_flatMap]

theorem assembled_ids :
    ∀ d ∈ (assembled config (parts.map (·.compiled))).summary ::
        (assembled config (parts.map (·.compiled))).dashboards.map (·.2),
      d.panels.map (·.id) = List.range' 1 d.panels.length := by
  intro d member
  cases member with
  | head => exact Layout.place_ids _
  | tail _ listed =>
    rw [assembled, PanelGroups.dashboards, List.map_map] at listed
    obtain ⟨product, _, rfl⟩ := List.mem_map.mp listed
    exact Layout.place_ids _

end Mixin

namespace Compatible

variable {config : MixinConfig} {registry : Registry} {parts : List (Contribution config registry)}

theorem alert_names (parts : List (Contribution config registry)) :
    parts.map (·.alert.alert) = (parts.map (·.identity)).map Alert.name := by
  rw [List.map_map]
  rfl

-- The name of an alert comes from the names of its SLI, so these cannot be given twice.
theorem identities (whole : Compatible parts) : (parts.map (·.identity)).Nodup := by
  have names := whole.alerts
  rw [alert_names] at names
  exact names.of_map

theorem rules_apart (whole : Compatible parts) :
    (parts.flatMap (·.block)).Pairwise fun r s =>
      ¬(r.record = s.record ∧ SameLabels r.labels s.labels) := by
  refine (List.pairwise_map.mp whole.series).imp_of_mem ?_
  intro r s first second apart same
  obtain ⟨part, _, own⟩ := List.mem_flatMap.mp first
  obtain ⟨other, _, its⟩ := List.mem_flatMap.mp second
  have labels : r.labels = s.labels := by
    have same := same.2
    rw [part.block_labels r own, other.block_labels s its] at same ⊢
    exact sameLabels_metadata same
  exact apart (by rw [Check.seriesKey, Check.seriesKey, same.1, labels])

theorem accounts (whole : Compatible parts) :
    Accounts parts (Mixin.assembled config (parts.map (·.compiled))) where
  identities := whole.identities
  blocks := fun part _ => part.block_shape
  recording := Mixin.assembled_recording parts
  series := by
    rw [Mixin.assembled_rules]
    refine ((Mixin.recorded_perm parts).pairwise_iff ?_).mpr whole.rules_apart
    intro r s apart same
    exact apart ⟨same.1.symm, fun label => (same.2 label).symm⟩
  alerting := Mixin.assembled_alerting parts
  dashboards := Mixin.assembled_dashboards parts
  summary := Mixin.assembled_summary parts
  ids := Mixin.assembled_ids parts

end Compatible

namespace Mixin

variable {config : MixinConfig} {registry : Registry}

def order (parts : List (Contribution config registry)) : List (Contribution config registry) :=
  (parts.map (·.groupKey)).eraseDups.flatMap fun key => parts.filter (·.groupKey == key)

theorem order_perm (parts : List (Contribution config registry)) : (order parts).Perm parts := by
  have grouped := Ordered.flatten_grouped_perm (·.groupKey)
    (fun part : Contribution config registry => [part]) parts
  rw [Ordered.flatten, Ordered.grouped, List.flatMap_map] at grouped
  simpa [order] using grouped

theorem rules_blocks (parts : List (Contribution config registry)) :
    (assembled config (parts.map (·.compiled))).recording.flatMap (·.rules) =
      (order parts).flatMap (·.block) := by
  rw [assembled_recording, List.flatMap_map, order, List.flatMap_assoc]

theorem rules_filter {parts : List (Contribution config registry)} (whole : Compatible parts)
    {part : Contribution config registry} (member : part ∈ parts) {wanted : RecordingRule → Bool}
    (own : ∀ other ∈ parts, ∀ r ∈ other.block, wanted r = true →
      other.identity = part.identity) :
    ((assembled config (parts.map (·.compiled))).recording.flatMap (·.rules)).filter wanted =
      part.block.filter wanted := by
  have nodup : ((order parts).map (·.identity)).Nodup :=
    ((order_perm parts).map _).nodup_iff.mpr whole.identities
  rw [rules_blocks, List.filter_flatMap]
  refine Ordered.flatMap_only nodup ((order_perm parts).mem_iff.mpr member) fun other listed apart =>
    List.filter_eq_nil_iff.mpr fun r found wanted => apart ?_
  exact own other ((order_perm parts).mem_iff.mp listed) r found wanted

-- A mixin is exactly what its SLIs contribute, in the order in which they are declared.
theorem buildFrom_accounts {config slis : Value} {a : Artifacts}
    (built : buildFrom config slis Registry.standard = .ok a) :
    ∃ c table, MixinConfig.read config = .ok c ∧ SliTable.read slis = .ok table ∧
      ∃ parts : List (Contribution c Registry.standard), entries table = parts.map (·.entry) ∧
        Accounts parts a := by
  obtain ⟨c, table, configured, declared, parts, listed, whole, rfl⟩ := buildFrom_ok.mp built
  exact ⟨c, table, configured, declared, parts, listed, whole.accounts⟩

theorem sample_accounts : ∃ a,
    buildFrom Sample.config Sample.slis Registry.standard = .ok a ∧
      ∃ c table, MixinConfig.read Sample.config = .ok c ∧
        SliTable.read Sample.slis = .ok table ∧
          ∃ parts : List (Contribution c Registry.standard),
            entries table = parts.map (·.entry) ∧ Accounts parts a := by
  obtain ⟨a, built⟩ := Sample.builds
  exact ⟨a, built, buildFrom_accounts built⟩

end Mixin

end SloCompiler
