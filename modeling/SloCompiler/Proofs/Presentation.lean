import SloCompiler.Proofs.Assembly

namespace SloCompiler

structure Panel.TimeSeries.Asks (p : Panel.TimeSeries) : Prop where
  nonempty : p.targets ≠ []
  each : ∀ query ∈ p.targets, asksFor query

def PanelGroups.ofHistory (history : List (String × Panel.TimeSeries)) : PanelGroups :=
  history.foldl (fun groups call => groups.add call.1 call.2.panel) []

theorem PanelGroups.ofHistory_presentable {history : List (String × Panel.TimeSeries)}
    (asks : ∀ call ∈ history, call.2.Asks) : (ofHistory history).AllPresentable := by
  refine foldl_presentable (·.1) (·.2.panel) history (List.forall_mem_nil _) ?_
  intro call listed
  exact call.2.presentable (asks call listed).nonempty (asks call listed).each

namespace Mixin

theorem compiled_presentable {config : MixinConfig} {registry : Registry}
    {listed : List (Value × Value × SliSpec)} {slis : List CompiledSli}
    (compiled : (listed.mapM fun (product, sliId, spec) =>
      CompiledSli.compile config registry product sliId spec) = .ok slis) :
    ∀ s ∈ slis, Presentable s.panel := by
  obtain ⟨parts, _, rfl⟩ := compileAll_ok.mp compiled
  intro s member
  obtain ⟨part, _, rfl⟩ := List.mem_map.mp member
  exact Indicator.panel_presentable part.shows

-- Dashboards pass their check after every history of panels that ask for something; so no build
-- that comes to the check of its dashboards fails there.
theorem dashboards_pass (config : MixinConfig) :
    (∀ history : List (String × Panel.TimeSeries), (∀ call ∈ history, call.2.Asks) →
      (∀ product, Check.dashboard
        ((PanelGroups.ofHistory history).productDashboard config product).toValue = .ok []) ∧
      Check.dashboard ((PanelGroups.ofHistory history).summary config).toValue = .ok []) ∧
    ∀ (registry : Registry) (table : SliTable) (slis : List CompiledSli),
      ((entries table).mapM fun (product, sliId, spec) =>
        CompiledSli.compile config registry product sliId spec) = .ok slis →
      (∀ named ∈ (panelGroups slis).dashboards config,
        Check.requireDashboard named.2.toValue (.str named.1) = .ok ()) ∧
      Check.requireDashboard ((panelGroups slis).summary config).toValue .null = .ok () := by
  constructor
  · intro history asks
    have sound := PanelGroups.ofHistory_presentable asks
    exact ⟨PanelGroups.productDashboard_passes config sound,
      PanelGroups.summary_passes config sound⟩
  · intro registry table slis compiled
    have presentable := compiled_presentable compiled
    exact ⟨dashboards_required _ presentable, summary_required _ presentable⟩

end Mixin

namespace Sample

def series (product : String) (queries : Nat) : String × Panel.TimeSeries :=
  (product, {
    title := .str "T"
    description := .null
    datasource := .str "metrics"
    targets := List.replicate queries (Panel.target (.str "up") (.str "Up") (.str "metrics")) })

theorem series_asks (product : String) {queries : Nat} (some : queries ≠ 0) :
    (series product queries).2.Asks where
  nonempty := by simpa [series] using some
  each := fun query member => (List.mem_replicate.mp member).2 ▸ ⟨"up", rfl, by decide⟩

def history : List (String × Panel.TimeSeries) :=
  [series "cart" 3, series "p\\" 1, series "cart" 30]

theorem history_asks : ∀ call ∈ history, call.2.Asks := by
  simp only [history, List.forall_mem_cons]
  exact ⟨series_asks _ (by decide), series_asks _ (by decide), series_asks _ (by decide),
    List.forall_mem_nil _⟩

end Sample

namespace Mixin

theorem sample_dashboards_pass : ∃ c table slis, MixinConfig.read Sample.config = .ok c ∧
    SliTable.read Sample.slis = .ok table ∧
    ((entries table).mapM fun (product, sliId, spec) =>
      CompiledSli.compile c Registry.standard product sliId spec) = .ok slis ∧
    (∀ call ∈ Sample.history, call.2.Asks) ∧
    ((∀ product, Check.dashboard
        ((PanelGroups.ofHistory Sample.history).productDashboard c product).toValue = .ok []) ∧
      Check.dashboard ((PanelGroups.ofHistory Sample.history).summary c).toValue = .ok []) ∧
    (∀ named ∈ (panelGroups slis).dashboards c,
      Check.requireDashboard named.2.toValue (.str named.1) = .ok ()) ∧
    Check.requireDashboard ((panelGroups slis).summary c).toValue .null = .ok () := by
  obtain ⟨_, built⟩ := Sample.builds
  obtain ⟨c, table, configured, declared, parts, listed, _, _⟩ := buildFrom_ok.mp built
  have compiled := compileAll_ok.mpr ⟨parts, listed, rfl⟩
  exact ⟨c, table, _, configured, declared, compiled, Sample.history_asks,
    (dashboards_pass c).1 Sample.history Sample.history_asks,
    (dashboards_pass c).2 Registry.standard table _ compiled⟩

end Mixin

end SloCompiler
