import SloCompiler.Config
import SloCompiler.Labels
import SloCompiler.Metric.Name
import SloCompiler.Number.Plain
import SloCompiler.Promql.Expr
import SloCompiler.Rule.Recording
import SloCompiler.Sli.Spec
import SloCompiler.Text.Case
import SloCompiler.Text.Percent

namespace SloCompiler

structure AlertingRule where
  alert : String
  expr : String
  hold : String
  labels : Labels
  annotations : Labels
  deriving DecidableEq, Repr

def textTable (labels : Labels) : Value := .object (labels.map fun (k, v) => (k, .str v))

def AlertingRule.toValue (r : AlertingRule) : Value :=
  .object [
    ("alert", .str r.alert), ("expr", .str r.expr), ("for", .str r.hold),
    ("labels", textTable r.labels), ("annotations", textTable r.annotations)]

def complianceRecord : String := "sli_compliance_percent"

def errorBudgetRecord : String := "slo_error_budget_remaining_percent"

def sliSeries (record : String) (labels : Labels) : Except Refusal Expr :=
  (labels.mapM fun (label, value) => Clause.make label "=" value).map fun clauses =>
    .series ⟨record, []⟩ clauses

structure SliIdentity where
  product : String
  sliId : String
  deriving DecidableEq, Repr

namespace SliIdentity

def ofLabels (labels : Labels) : Except Fault SliIdentity :=
  match Ordered.get? labels "product", Ordered.get? labels "sliId" with
  | some product, some sliId => .ok ⟨product, sliId⟩
  | none, _ => .error (.unknownKey "product")
  | _, none => .error (.unknownKey "sliId")

def clauses (i : SliIdentity) : List Clause :=
  [⟨"product", .equal, i.product, by decide⟩, ⟨"sliId", .equal, i.sliId, by decide⟩]

def series (i : SliIdentity) (record : String) : Expr := .series ⟨record, []⟩ i.clauses

end SliIdentity

namespace Slo

def compliance (spec : SliSpec) (identity : SliIdentity) : Expr :=
  .binary "*" (.call "avg_over_time" (.window (identity.series sliValueRecord) spec.period))
    (.text "100")

def budget (spec : SliSpec) : Binary64 :=
  Binary64.roundTo 6 (Binary64.sub (Binary64.ofRatio false 100 1) spec.sloTarget)

def errorBudget (spec : SliSpec) (identity : SliIdentity) : Expr :=
  .binary "*"
    (.binary "/"
      (.group (.binary "-" (identity.series complianceRecord) (.text spec.sloTarget.plain)))
      (.text (budget spec).plain))
    (.text "100")

def breach (spec : SliSpec) (identity : SliIdentity) : Expr :=
  .binary "<" (identity.series complianceRecord) (.text spec.sloTarget.plain)

def rules (spec : SliSpec) (labels : Labels) : Except Fault (List RecordingRule) :=
  (SliIdentity.ofLabels labels).map fun identity => [
    ⟨complianceRecord, (compliance spec identity).render, labels⟩,
    ⟨errorBudgetRecord, (errorBudget spec identity).render, labels⟩]

end Slo

-- Names the dashboard of a product; longer names are cut off.
def dashboardUid (mixin product : String) : String :=
  let name := (mixin ++ "-" ++ product ++ "-slis").toList.map fun c =>
    if c.isAlphanum || c == '_' || c == '-' then c.toLower else '-'
  String.ofList (name.take 40)

namespace Alert

def namePart (s : String) : String :=
  String.join ((Text.pieces (fun c => c == '-' || c == '_') s.toList).map fun piece =>
    Text.capitalize (String.ofList piece))

def name (identity : SliIdentity) : String :=
  namePart identity.product ++ namePart identity.sliId ++ "SloBreach"

def labels (config : MixinConfig) (sliLabels : Labels) : Labels :=
  let environment := match config.environment with
    | some e => if e.isEmpty then none else some [("environment", e)]
    | none => none
  Labels.merge [
    some sliLabels,
    some [
      ("severity", config.maxAlertSeverity.text), ("routing_target", config.alertRoutingTarget)],
    environment]

def silenceFilter (identity : SliIdentity) : String :=
  Text.percentEncode
    ("\x7bproduct=\"" ++ identity.product ++ "\", sliId=\"" ++ identity.sliId ++ "\"\x7d")

def description (config : MixinConfig) (spec : SliSpec) : String :=
  Text.trim (config.displayName ++ ": SLI '" ++ spec.title ++ "' held for less than " ++
    spec.sloTarget.plain ++ "% of the last " ++ spec.period ++ ". " ++ spec.description)

def annotations (config : MixinConfig) (spec : SliSpec) (identity : SliIdentity) : Labels :=
  let runbook := match config.runbookUrl with
    | some url =>
      let product := identity.product.map fun c => if c == '_' then '-' else c
      if url.isEmpty then [] else [("runbook_url", url ++ "/" ++ product ++ "/" ++ identity.sliId)]
    | none => []
  [ ("summary",
      "SLO breach: " ++ spec.title ++ " (" ++ identity.product ++ " " ++ identity.sliId ++ ")"),
    ("description", description config spec),
    ("dashboard", config.grafanaUrl ++ "/d/" ++ dashboardUid config.product identity.product),
    ("silence_url",
      config.alertmanagerUrl ++ "/#/silences/new?filter=" ++ silenceFilter identity)] ++ runbook

end Alert

def AlertingRule.forSli (config : MixinConfig) (spec : SliSpec) (sliLabels : Labels) :
    Except Fault AlertingRule :=
  (SliIdentity.ofLabels sliLabels).map fun identity =>
    ⟨Alert.name identity, (Slo.breach spec identity).render, spec.period,
      Alert.labels config sliLabels, Alert.annotations config spec identity⟩

abbrev AlertGroups := List (String × List AlertingRule)

structure AlertGroup where
  name : String
  rules : List AlertingRule
  deriving DecidableEq, Repr

namespace AlertGroups

def add (groups : AlertGroups) (product : String) (alert : AlertingRule) : AlertGroups :=
  Ordered.append product [alert] groups

def rules (groups : AlertGroups) : List AlertingRule := Ordered.flatten groups

def document (groups : AlertGroups) : List AlertGroup :=
  groups.map fun (product, rules) => ⟨sanitizeName product ++ "_slo_alerts", rules⟩

end AlertGroups

def AlertGroup.toValue (g : AlertGroup) : Value :=
  .object [("name", .str g.name), ("rules", .list (g.rules.map AlertingRule.toValue))]

def alertingDocument (groups : List AlertGroup) : Value :=
  .object [("groups", .list (groups.map AlertGroup.toValue))]

end SloCompiler
