import SloCompiler.Dashboard.Panel
import SloCompiler.Indicator.Query

namespace SloCompiler.Indicator

structure PanelQuery where
  expr : Expr
  legend : String

def PanelQuery.target (q : PanelQuery) (datasource : String) : Entries :=
  Panel.target (.str q.expr.render) (.str q.legend) (.str datasource)

def thresholdQuery (spec : SliSpec) : PanelQuery :=
  ⟨Expr.vector spec.metricTarget.plain, Panel.targetLegend⟩

def percentileLegend (spec : SliSpec) : String :=
  let percent := Binary64.roundTo 4
    (Binary64.mul (spec.latencyPercentile.getD .nan) (Binary64.ofRatio false 100 1))
  "P" ++ percent.plain ++ " latency"

def queries (i : Indicator) (spec : SliSpec) (clauses : List Clause) :
    Except Fault (List PanelQuery) := do
  match i with
  | .up =>
    let up := Expr.series (← i.target "up") clauses
    return [
      ⟨averageUp up spec.evalInterval, "Average up"⟩, ⟨.call "sum" up, "Instances up"⟩,
      thresholdQuery spec]
  | .errorRatio _ _ _ =>
    let errors := Expr.series (← i.target "errors") clauses
    let total := Expr.series (← i.target "total") clauses
    return [
      ⟨errorShare errors total spec.evalInterval, "Error ratio"⟩,
      ⟨rate total spec.evalInterval, "Requests per second"⟩, thresholdQuery spec]
  | .latency _ =>
    let bucket := Expr.series (← i.target "bucket") clauses
    let count := Expr.series (← i.target "count") clauses
    return [
      ⟨percentile spec bucket, percentileLegend spec⟩,
      ⟨rate count spec.evalInterval, "Requests per second"⟩, thresholdQuery spec]
  | .queueAge =>
    let age := Expr.series (← i.target "oldestMessageAge") clauses
    let visible := Expr.series (← i.target "messagesVisible") clauses
    let perQueue := "\x7b\x7b" ++ queueLabel ++ "\x7d\x7d"
    return [
      ⟨.aggregateBy "max" queueLabel age, perQueue ++ " oldest message age"⟩,
      ⟨.aggregateBy "sum" queueLabel visible, perQueue ++ " messages visible"⟩,
      thresholdQuery spec]

def colored (legend : String) (color : Panel.Color) : Value :=
  Panel.overrideByLegend legend (.list [Panel.colorProperty color])

def onRightAxis (legend unit : String) : Value :=
  Panel.overrideByLegend legend
    (.list (Panel.rightAxis (.str unit) ++ [Panel.colorProperty .blue]))

def overrides : Indicator → List Value
  | .up => [colored "Average" .green, onRightAxis "Instances" "none",
      Panel.thresholdOverride Panel.targetLegend]
  | .errorRatio _ _ _ => [colored "Error ratio" .orange,
      onRightAxis "Requests per second" "reqps", Panel.thresholdOverride Panel.targetLegend]
  | .latency _ => [colored "latency" .purple, onRightAxis "Requests per second" "reqps",
      Panel.thresholdOverride Panel.targetLegend]
  | .queueAge => [onRightAxis "messages visible" "none",
      Panel.thresholdOverride Panel.targetLegend]

def unit : Indicator → String
  | .up => "none"
  | .errorRatio _ _ _ => "percentunit"
  | .latency _ | .queueAge => "s"

def panel (i : Indicator) (spec : SliSpec) (datasource : String) : Except Fault Entries := do
  let _ ← i.checkedRoles spec
  let clauses ← dashboardClauses spec
  let queries ← i.queries spec clauses
  let description ← i.panelDescription spec
  return Panel.TimeSeries.panel {
    title := .str spec.title
    description := .str description
    datasource := .str datasource
    targets := queries.map (·.target datasource)
    overrides := i.overrides
    unit := .str i.unit
    min := .int 0 }

end SloCompiler.Indicator
