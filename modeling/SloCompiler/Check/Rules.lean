import SloCompiler.Check.Expression
import SloCompiler.Fault
import SloCompiler.Rule.Alerting

namespace SloCompiler.Check

def findings (rule : String) (defects : List RuleDefect) : List RuleFinding :=
  defects.map fun d => ⟨rule, d⟩

-- What is wrong with one rule, given the names defined before it and those defined anywhere.
def ruleDefects (defined seen : List String) (r : RecordingRule) : List RuleDefect :=
  (if isMetricName r.record then [] else [.recordName r.record]) ++ expressionDefects r.expr ++
    ((referencedNames r.expr defined).filter (!seen.contains ·)).map .notYetDefined

def rulesFrom (defined seen : List String) : List RecordingRule → List RuleFinding
  | [] => []
  | r :: rest =>
    findings r.record (ruleDefects defined seen r) ++ rulesFrom defined (r.record :: seen) rest

def recordingRules (rules : List RecordingRule) : List RuleFinding :=
  rulesFrom ((rules.map (·.record)).eraseDups) [] rules

def sortLabels (labels : Labels) : Labels :=
  Ordered.sort (fun a b => a.1 < b.1 || (a.1 == b.1 && !(b.2 < a.2))) labels

def seriesFrom (seen : List (String × Labels)) : List RecordingRule → List RuleFinding
  | [] => []
  | r :: rest =>
    let key := (r.record, sortLabels r.labels)
    (if seen.contains key then [⟨r.record, .duplicateSeries r.record key.2⟩] else []) ++
      seriesFrom (key :: seen) rest

-- Rules may share a record only if their labels differ, in whatever order these stand.
def uniqueSeries (rules : List RecordingRule) : List RuleFinding := seriesFrom [] rules

def alertsFrom (recorded seen : List String) : List AlertingRule → List RuleFinding
  | [] => []
  | a :: rest =>
    findings a.alert
      ((if seen.contains a.alert then [.duplicateAlert a.alert] else []) ++
        expressionDefects a.expr ++
        (if (referencedNames a.expr recorded).isEmpty then [.noRecordedSeries] else [])) ++
      alertsFrom recorded (a.alert :: seen) rest

def alertingRules (alerts : List AlertingRule) (recorded : List String) : List RuleFinding :=
  alertsFrom recorded [] alerts

def requireRules (rules : List RecordingRule) (product sliId : Value) : Except Fault Unit :=
  let found := recordingRules rules
  if found.isEmpty then .ok ()
  else .error (.ofBuildError { cause := .rules found, product, sliId })

def requireDocuments (rules : List RecordingRule) (alerts : List AlertingRule) :
    Except Fault Unit :=
  let found := uniqueSeries rules ++ alertingRules alerts ((rules.map (·.record)).eraseDups)
  if found.isEmpty then .ok () else .error (.ofCause (.rules found))

end SloCompiler.Check
