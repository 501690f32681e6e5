import SloCompiler.Proofs.Contribution
import SloCompiler.Proofs.DashboardCheck
import SloCompiler.Proofs.Ordered
import SloCompiler.Proofs.SpecReading

namespace SloCompiler

theorem forIn_ok {ε α : Type} {f : α → Except ε Unit} {xs : List α}
    (each : ∀ x ∈ xs, f x = .ok ()) :
    forIn xs () (fun x _ => f x >>= fun _ => pure (.yield ())) = (.ok () : Except ε Unit) := by
  induction xs with
  | nil => rfl
  | cons x xs ih =>
    have first := each x List.mem_cons_self
    have rest := ih fun y member => each y (List.mem_cons_of_mem _ member)
    rw [List.forIn_cons, first]
    exact rest

namespace Mixin

variable {config : MixinConfig} {registry : Registry}

def assembled (config : MixinConfig) (slis : List CompiledSli) : Artifacts :=
  ⟨(recordingGroups slis).document, (alertGroups slis).document,
    (panelGroups slis).dashboards config, (panelGroups slis).summary config⟩

theorem panelGroups_presentable {slis : List CompiledSli}
    (presentable : ∀ s ∈ slis, Presentable s.panel) : (panelGroups slis).AllPresentable :=
  PanelGroups.foldl_presentable CompiledSli.product CompiledSli.panel slis (List.forall_mem_nil _)
    presentable

theorem dashboards_required (config : MixinConfig) {slis : List CompiledSli}
    (presentable : ∀ s ∈ slis, Presentable s.panel) :
    ∀ named ∈ (panelGroups slis).dashboards config,
      Check.requireDashboard named.2.toValue (.str named.1) = .ok () := by
  intro named listed
  obtain ⟨row, present, rfl⟩ := List.mem_map.mp listed
  exact Check.requireDashboard_ok
    (PanelGroups.productDashboard_passes config (panelGroups_presentable presentable) row.1) _

theorem summary_required (config : MixinConfig) {slis : List CompiledSli}
    (presentable : ∀ s ∈ slis, Presentable s.panel) :
    Check.requireDashboard ((panelGroups slis).summary config).toValue .null = .ok () :=
  Check.requireDashboard_ok
    (PanelGroups.summary_passes config (panelGroups_presentable presentable)) _

-- Only the rules can be wrong, as every dashboard of panels that can be presented passes.
theorem assemble_eq {slis : List CompiledSli} (presentable : ∀ s ∈ slis, Presentable s.panel) :
    assemble config slis =
      (Check.requireDocuments (recordingGroups slis).rules (alertGroups slis).rules).map
        fun _ => assembled config slis := by
  have looped := forIn_ok (dashboards_required config presentable)
  have summary := summary_required config presentable
  unfold assemble
  cases required : Check.requireDocuments (recordingGroups slis).rules (alertGroups slis).rules with
  | error fault => simp only [bind, Except.bind, Except.map, required]
  | ok passed =>
    simp only [bind, Except.bind, Except.map, required] at looped ⊢
    rw [looped]
    simp only [summary]
    rfl

end Mixin

theorem Check.referenced_series {expr name rest : String} (nonempty : name ≠ "")
    (metric : ∀ c ∈ name.toList, isMetricChar c = true) (starts : expr = name ++ "\x7b" ++ rest)
    {names : List String} (listed : name ∈ names) : name ∈ Check.referencedNames expr names := by
  refine (Check.mem_referencedNames nonempty metric).mpr ⟨listed, ?_⟩
  have plain : '"' ∉ name.toList := fun present => absurd (metric _ present) (by decide)
  have text : expr.toList = name.toList ++ '\x7b' :: rest.toList := by simp [starts]
  rw [text, Check.unquoted_append plain, Check.unquoted_cons (by decide),
    Check.words_append _ _ (by decide), Check.words_metric metric]
  exact List.mem_append_left _ List.mem_cons_self

namespace Contribution

variable {config : MixinConfig} {registry : Registry}

def groupKey (part : Contribution config registry) : String × String :=
  (part.product, part.interval)

def identity (part : Contribution config registry) : SliIdentity := ⟨part.product, part.sliId⟩

theorem compliance_listed {parts : List (Contribution config registry)}
    {part : Contribution config registry} (member : part ∈ parts) :
    complianceRecord ∈ (parts.flatMap (·.block)).map (·.record) := by
  refine List.mem_map.mpr ⟨Slo.complianceRule part.spec part.metadata, ?_, rfl⟩
  exact List.mem_flatMap.mpr ⟨part, member, List.mem_append_right _ List.mem_cons_self⟩

theorem alert_sound (part : Contribution config registry) {recorded : List String}
    (listed : complianceRecord ∈ recorded) :
    Check.AlertSound recorded part.alert ↔ Check.expressionDefects part.alert.expr = [] := by
  refine ⟨fun sound => sound.1, fun readable => ⟨readable, ?_⟩⟩
  have used : complianceRecord ∈ Check.referencedNames part.alert.expr recorded := by
    have starts : part.alert.expr = complianceRecord ++ "\x7b" ++
        (", ".intercalate (part.identity.clauses.map Clause.render) ++ "\x7d < " ++
          part.spec.sloTarget.plain) := by
      rw [alert, AlertingRule.ofSli, Slo.breach, Expr.render_binary, SliIdentity.render_series,
        renderSelector]
      simp [identity, product, sliId, String.append_assoc]
    exact Check.referenced_series (by decide) (all_chars rfl rfl) starts listed
  exact List.ne_nil_of_mem used

end Contribution

-- What contributions have to meet together so that they can be put together.
structure Compatible {config : MixinConfig} {registry : Registry}
    (parts : List (Contribution config registry)) : Prop where
  series : ((parts.flatMap (·.block)).map Check.seriesKey).Nodup
  alerts : (parts.map (·.alert.alert)).Nodup
  readable : ∀ part ∈ parts, Check.expressionDefects part.alert.expr = []

namespace Mixin

variable {config : MixinConfig} {registry : Registry}

theorem recordingGroups_parts (parts : List (Contribution config registry)) :
    recordingGroups (parts.map (·.compiled)) = Ordered.grouped (·.groupKey) (·.block) parts := by
  rw [recordingGroups, List.foldl_map]
  exact Ordered.foldl_append (fun part : Contribution config registry => part.groupKey) (·.block) _

theorem alertGroups_parts (parts : List (Contribution config registry)) :
    alertGroups (parts.map (·.compiled)) =
      Ordered.grouped (·.product) (fun part => [part.alert]) parts := by
  rw [alertGroups, List.foldl_map]
  exact Ordered.foldl_append (fun part : Contribution config registry => part.product)
    (fun part => [part.alert]) _

theorem panelGroups_parts (parts : List (Contribution config registry)) :
    panelGroups (parts.map (·.compiled)) =
      Ordered.grouped (·.product) (fun part => [part.panel]) parts := by
  rw [panelGroups, List.foldl_map]
  exact Ordered.foldl_append (fun part : Contribution config registry => part.product)
    (fun part => [part.panel]) _

theorem recorded_perm (parts : List (Contribution config registry)) :
    (recordingGroups (parts.map (·.compiled))).rules.Perm (parts.flatMap (·.block)) := by
  rw [recordingGroups_parts]
  exact Ordered.flatten_grouped_perm _ _ _

theorem alerts_perm (parts : List (Contribution config registry)) :
    (alertGroups (parts.map (·.compiled))).rules.Perm (parts.map (·.alert)) := by
  rw [alertGroups_parts, List.map_eq_flatMap]
  exact Ordered.flatten_grouped_perm _ _ _

theorem alerts_sound (parts : List (Contribution config registry)) :
    (∀ a ∈ (alertGroups (parts.map (·.compiled))).rules, Check.AlertSound
        ((recordingGroups (parts.map (·.compiled))).rules.map (·.record)).eraseDups a) ↔
      ∀ part ∈ parts, Check.expressionDefects part.alert.expr = [] := by
  simp only [(alerts_perm parts).mem_iff, List.forall_mem_map]
  refine forall₂_congr fun part member => part.alert_sound ?_
  exact List.mem_eraseDups.mpr
    (((recorded_perm parts).map _).mem_iff.mpr (part.compliance_listed member))

theorem requireDocuments_parts {parts : List (Contribution config registry)} {u : Unit} :
    Check.requireDocuments (recordingGroups (parts.map (·.compiled))).rules
      (alertGroups (parts.map (·.compiled))).rules = .ok u ↔ Compatible parts := by
  have rules := recorded_perm parts
  have alerts := alerts_perm parts
  rw [Check.requireDocuments_ok, (rules.map _).nodup_iff, (alerts.map _).nodup_iff, List.map_map,
    alerts_sound]
  exact ⟨fun ⟨series, names, readable⟩ => ⟨series, names, readable⟩,
    fun whole => ⟨whole.series, whole.alerts, whole.readable⟩⟩

theorem assemble_parts (parts : List (Contribution config registry)) :
    assemble config (parts.map (·.compiled)) =
      (Check.requireDocuments (recordingGroups (parts.map (·.compiled))).rules
        (alertGroups (parts.map (·.compiled))).rules).map
          fun _ => assembled config (parts.map (·.compiled)) := by
  refine assemble_eq fun s member => ?_
  obtain ⟨part, _, rfl⟩ := List.mem_map.mp member
  exact Indicator.panel_presentable part.shows

theorem assemble_ok {parts : List (Contribution config registry)} {a : Artifacts} :
    assemble config (parts.map (·.compiled)) = .ok a ↔
      Compatible parts ∧ a = assembled config (parts.map (·.compiled)) := by
  rw [assemble_parts, map_ok]
  constructor
  · rintro ⟨u, passed, rfl⟩
    exact ⟨requireDocuments_parts.mp passed, rfl⟩
  · rintro ⟨whole, rfl⟩
    exact ⟨(), requireDocuments_parts.mpr whole, rfl⟩

theorem build_parts {table : SliTable} {parts : List (Contribution config registry)}
    (listed : entries table = parts.map (·.entry)) :
    build config registry table = assemble config (parts.map (·.compiled)) := by
  unfold build
  rw [compileAll_ok.mpr ⟨parts, listed, rfl⟩]
  rfl

theorem build_ok {table : SliTable} {a : Artifacts} :
    build config registry table = .ok a ↔
      ∃ parts : List (Contribution config registry), entries table = parts.map (·.entry) ∧
        Compatible parts ∧ a = assembled config (parts.map (·.compiled)) := by
  constructor
  · intro built
    obtain ⟨slis, compiled, made⟩ := bind_ok.mp built
    obtain ⟨parts, listed, rfl⟩ := compileAll_ok.mp compiled
    exact ⟨parts, listed, assemble_ok.mp made⟩
  · rintro ⟨parts, listed, made⟩
    rw [build_parts listed]
    exact assemble_ok.mpr made

theorem buildFrom_ok {config slis : Value} {registry : Registry} {a : Artifacts} :
    buildFrom config slis registry = .ok a ↔
      ∃ c table, MixinConfig.read config = .ok c ∧ SliTable.read slis = .ok table ∧
        ∃ parts : List (Contribution c registry), entries table = parts.map (·.entry) ∧
          Compatible parts ∧ a = assembled c (parts.map (·.compiled)) := by
  unfold buildFrom
  simp only [bind_ok, build_ok]
  constructor
  · rintro ⟨c, configured, table, declared, made⟩
    exact ⟨c, table, configured, declared, made⟩
  · rintro ⟨c, table, configured, declared, made⟩
    exact ⟨c, configured, table, declared, made⟩

theorem spec_read {slis : Value} {table : SliTable} (declared : SliTable.read slis = .ok table)
    {product sliId : Value} {spec : SliSpec} (listed : (product, sliId, spec) ∈ entries table) :
    ∃ raw, SliSpec.read raw product sliId = .ok spec := by
  obtain ⟨⟨p, named⟩, present, member⟩ := List.mem_flatMap.mp listed
  obtain ⟨⟨s, given⟩, found, same⟩ := List.mem_map.mp member
  cases same
  exact SliTable.read_mem declared present found

end Mixin

namespace Sample

def config : Value :=
  .object [
    ("product", .str "shop"), ("displayName", .str "Shop"),
    ("alertRoutingTarget", .str "shop-team"), ("grafanaUrl", .str "https://grafana"),
    ("alertmanagerUrl", .str "https://alerts")]

theorem config_read : ∃ c, MixinConfig.read config = .ok c := isOk_iff.mp (by decide +kernel)

def spec (metricType interval : String) : Value :=
  .object [
    ("title", .str "T"), ("metricType", .str metricType), ("metricTarget", .int 1),
    ("evalInterval", .str interval), ("sloTarget", .int 99)]

def slis : Value :=
  .object [
    ("cart", .object [("a", spec "up" "1m"), ("\"q\"", spec "up" "5m")]),
    ("p\\", .object [("a", spec "up" "1m")])]

theorem builds : ∃ a, Mixin.buildFrom config slis Registry.standard = .ok a :=
  isOk_iff.mp (by decide +kernel)

end Sample

end SloCompiler
