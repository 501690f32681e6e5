import SloCompiler.Check.Dashboard
import SloCompiler.Check.Rules
import SloCompiler.Dashboard.Basic
import SloCompiler.Indicator.Panels
import SloCompiler.Indicator.Rules
import SloCompiler.Registry

namespace SloCompiler

structure CompiledSli where
  product : String
  interval : String
  rules : List RecordingRule
  alert : AlertingRule
  panel : Entries

namespace CompiledSli

def measure (config : MixinConfig) (registry : Registry) (metadata : SliMetadata)
    (spec : SliSpec) : Except Fault (Entries × List RecordingRule) := do
  let indicator ← registry.get spec.metricType
  let panel ← indicator.panel spec config.datasource
  let rules ← indicator.rules spec metadata config
  return (panel, rules.map (·.withLabels metadata.labels))

def locate (product sliId : Value) (r : Except Fault α) : Except Fault α :=
  r.mapError fun
    | .build e => .ofBuildError (e.withLocation product sliId)
    | .refused cause => .ofBuildError { cause := .refused cause, product, sliId }
    | fault => fault

-- Names in definitions may be other scalars than texts; these serve an indicator, but select no
-- series.
def compile (config : MixinConfig) (registry : Registry) (product sliId : Value)
    (spec : SliSpec) : Except Fault CompiledSli :=
  locate product sliId do
    let metadata : SliMetadata := ⟨product.label, sliId.label, spec.sliType⟩
    let (panel, measured) ← measure config registry metadata spec
    match product, sliId with
    | .str name, .str _ =>
      let labels := metadata.labels
      let rules := measured ++ (← Slo.rules spec labels)
      Check.requireRules rules product sliId
      return ⟨name, spec.evalInterval, rules, ← AlertingRule.forSli config spec labels, panel⟩
    | _, _ => .error .noAttribute

end CompiledSli

structure Artifacts where
  recording : List RecordingGroup
  alerting : List AlertGroup
  dashboards : List (String × Dashboard)
  summary : Dashboard

namespace Mixin

def recordingGroups (slis : List CompiledSli) : RecordingGroups :=
  slis.foldl (fun groups s => groups.add s.product s.interval s.rules) []

def alertGroups (slis : List CompiledSli) : AlertGroups :=
  slis.foldl (fun groups s => groups.add s.product s.alert) []

def panelGroups (slis : List CompiledSli) : PanelGroups :=
  slis.foldl (fun groups s => groups.add s.product s.panel) []

def assemble (config : MixinConfig) (slis : List CompiledSli) : Except Fault Artifacts := do
  let recording := recordingGroups slis
  let alerting := alertGroups slis
  let panels := panelGroups slis
  Check.requireDocuments recording.rules alerting.rules
  let dashboards := panels.dashboards config
  let summary := panels.summary config
  for (product, dashboard) in dashboards do
    Check.requireDashboard dashboard.toValue (.str product)
  Check.requireDashboard summary.toValue .null
  return ⟨recording.document, alerting.document, dashboards, summary⟩

def entries (table : SliTable) : List (Value × Value × SliSpec) :=
  table.flatMap fun (product, slis) => slis.map fun (sliId, spec) => (product, sliId, spec)

-- Every SLI is compiled on its own, in order, before anything is put together.
def build (config : MixinConfig) (registry : Registry) (table : SliTable) :
    Except Fault Artifacts := do
  let slis ← (entries table).mapM fun (product, sliId, spec) =>
    CompiledSli.compile config registry product sliId spec
  assemble config slis

def buildFrom (config slis : Value) (registry : Registry) : Except Fault Artifacts := do
  let config ← MixinConfig.read config
  let table ← SliTable.read slis
  build config registry table

end Mixin

end SloCompiler
