import SloCompiler.Indicator.Query

namespace SloCompiler.Indicator

def valueRule (metadata : SliMetadata) (e : Expr) : RecordingRule :=
  ⟨sliValueRecord, e.render, metadata.labels⟩

def queueExprs (i : Indicator) (spec : SliSpec) (age : Expr) (breaching total ratio : String) :
    List (String × Expr) := [
  (breaching, Expr.orZero (.call "count"
    (.binary (i.comparison spec).negate.text age (threshold spec)))),
  (total, Expr.orZero (.call "count" age)),
  (ratio, Expr.safeRatio (.call "sum" (.text breaching)) (.call "sum" (.text total))),
  (sliValueRecord, .binary "== bool" (Expr.orZero (.call "sum" (.text ratio))) (.text "0"))]

-- The rules that record the value of an SLI; the last one is the value itself.
def rules (i : Indicator) (spec : SliSpec) (metadata : SliMetadata) (config : MixinConfig) :
    Except Fault (List RecordingRule) := do
  let roles ← i.checkedRoles spec
  let clauses ← ruleClauses spec config
  match i with
  | .up =>
    let up ← i.target "up"
    let value := Expr.orZero (averageUp (.series up clauses) spec.evalInterval)
    return [valueRule metadata (i.holds spec value)]
  | .errorRatio _ _ _ =>
    let errors ← i.target "errors"
    let total ← i.target "total"
    let value := errorShare (.series errors clauses) (.series total clauses) spec.evalInterval
    return [valueRule metadata (i.holds spec value)]
  | .latency _ =>
    let bucket ← i.target "bucket"
    let count ← i.target "count"
    let value := percentileWithTraffic (percentile spec (.series bucket clauses))
      (rate (.series count clauses) spec.evalInterval)
    return [valueRule metadata (i.holds spec value)]
  | .queueAge =>
    let age ← i.target "oldestMessageAge"
    let name (role : String) := roles.derivedMetric role metadata.product metadata.sliId
    let breaching ← name "queuesBreaching"
    let total ← name "queuesTotal"
    let ratio ← name "breachingRatio"
    return (queueExprs i spec (.series age clauses) breaching total ratio).map fun (record, e) =>
      ⟨record, e.render, metadata.labels⟩

end SloCompiler.Indicator
