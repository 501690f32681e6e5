import SloCompiler.Config
import SloCompiler.Metric.Template
import SloCompiler.Number.Plain
import SloCompiler.Promql.Expr
import SloCompiler.Rule.Recording
import SloCompiler.Sli.Spec

namespace SloCompiler

-- How an SLI is measured: the average of `up`, the share of failed requests of a counter, a
-- percentile of a latency histogram, or the age of the oldest message on queues.
inductive Indicator where
  | up
  | errorRatio (metric statusLabel errorPattern : String)
  | latency (histogram : String)
  | queueAge
  deriving DecidableEq, Repr

structure SliMetadata where
  product : String
  sliId : String
  sliType : SliType

def SliMetadata.labels (m : SliMetadata) : Labels :=
  [("product", m.product), ("sliId", m.sliId), ("sliType", m.sliType.text)]

structure MetricRoles where
  metrics : Labels
  selectorLabels : Labels := []
  customSelectors : Labels := []
  derivedMetrics : Labels := []

namespace MetricRoles

def named? (table : Labels) (role : String) : Option String :=
  (Ordered.get? table role).filter (!·.isEmpty)

def metric (roles : MetricRoles) (role : String) : Except Fault String :=
  match named? roles.metrics role with
  | some name => .ok name
  | none => .error (.ofCause (.noMetric role))

def derivedMetric (roles : MetricRoles) (role product sliId : String) : Except Fault String :=
  match named? roles.derivedMetrics role with
  | some operation => recordName product sliId operation
  | none => .error (.ofCause (.noDerivedMetric role))

end MetricRoles

namespace Indicator

def defaultComparison : Indicator → Comparison
  | .up => .eq
  | _ => .lt

def requiredFields : Indicator → List String
  | .latency _ => ["latency_percentile"]
  | _ => []

def comparison (i : Indicator) (spec : SliSpec) : Comparison :=
  spec.comparison.getD i.defaultComparison

def ageMetric : String := "aws_sqs_approximate_age_of_oldest_message_maximum"
def visibleMetric : String := "aws_sqs_approximate_number_of_messages_visible_average"
def queueLabel : String := "queue_name"
def deadLetterPattern : String := ".*(deadletter|dlq).*"
def bucketLabel : String := "le"

def roles : Indicator → MetricRoles
  | .up => { metrics := [("up", "up")] }
  | .errorRatio metric statusLabel errorPattern => {
      metrics := [("requests", metric)]
      selectorLabels := [("statusCode", statusLabel)]
      customSelectors := [("errorStatus", errorPattern)] }
  | .latency histogram => {
      metrics := [("bucket", histogram ++ "_bucket"), ("count", histogram ++ "_count")]
      selectorLabels := [("bucketBoundary", bucketLabel)] }
  | .queueAge => {
      metrics := [("oldestMessageAge", ageMetric), ("messagesVisible", visibleMetric)]
      selectorLabels := [("queueType", queueLabel)]
      customSelectors := [("deadletterQueue", deadLetterPattern)]
      derivedMetrics := [
        ("queuesBreaching", "sqs_queues_breaching:count"), ("queuesTotal", "sqs_queues:count"),
        ("breachingRatio", "sqs_queues_breaching:ratio")] }

def missingField? (i : Indicator) (spec : SliSpec) : Option String :=
  i.requiredFields.find? fun field => !spec.gives field

def checkedRoles (i : Indicator) (spec : SliSpec) : Except Fault MetricRoles :=
  match i.missingField? spec with
  | some name => .error (.ofCause (.specField spec.metricType name))
  | none => .ok i.roles

def deadLetters : Clause := ⟨queueLabel, .regexNoMatch, deadLetterPattern, by decide⟩

def targets : Indicator → Except Fault (List (String × TargetMetric))
  | .up => .ok [("up", ⟨"up", []⟩)]
  | .errorRatio metric statusLabel errorPattern => do
    let requests ← (roles (.errorRatio metric statusLabel errorPattern)).metric "requests"
    let errors ← (Clause.make statusLabel "=~" errorPattern).mapError .refused
    return [("total", ⟨requests, []⟩), ("errors", ⟨requests, [errors]⟩)]
  | .latency histogram =>
    .ok [("bucket", ⟨histogram ++ "_bucket", []⟩), ("count", ⟨histogram ++ "_count", []⟩)]
  | .queueAge =>
    .ok [("oldestMessageAge", ⟨ageMetric, [deadLetters]⟩),
      ("messagesVisible", ⟨visibleMetric, [deadLetters]⟩)]

def target (i : Indicator) (role : String) : Except Fault TargetMetric :=
  i.targets.map fun table => (Ordered.get? table role).getD ⟨"", []⟩

def dashboardClauses (spec : SliSpec) : Except Fault (List Clause) :=
  (Clause.ofSelectors spec.selectors).mapError .refused

def environmentClause (environment : String) : Clause :=
  ⟨"environment", .equal, environment, by decide⟩

-- Rules select by the environment too, unless the SLI does so itself.
def withEnvironment (environment : Option String) (clauses : List Clause) : List Clause :=
  match environment with
  | none => clauses
  | some e =>
    if e.isEmpty || clauses.any (·.label == "environment") then clauses
    else clauses ++ [environmentClause e]

def ruleClauses (spec : SliSpec) (config : MixinConfig) : Except Fault (List Clause) :=
  (dashboardClauses spec).map (withEnvironment config.environment)

def selectorTexts (spec : SliSpec) : Except Fault (List String) :=
  (dashboardClauses spec).map fun clauses => clauses.map Clause.describe

def threshold (spec : SliSpec) : Expr := .text spec.metricTarget.plain

def panelDescription (i : Indicator) (spec : SliSpec) : Except Fault String :=
  (selectorTexts spec).map fun selectors =>
    let goal := "Target: value " ++ (i.comparison spec).text ++ " " ++ spec.metricTarget.plain ++
      " for " ++ spec.sloTarget.plain ++ "% of " ++ spec.period
    "\n\n".intercalate <|
      (if spec.description.isEmpty then [] else [spec.description]) ++ [goal] ++
        (if selectors.isEmpty then [] else ["Selectors: " ++ ", ".intercalate selectors])

end Indicator

end SloCompiler
