import SloCompiler.Schema.Check

namespace SloCompiler

inductive Severity where
  | critical
  | error
  | warning
  | info
  deriving DecidableEq, Repr

def Severity.text : Severity → String
  | .critical => "critical"
  | .error => "error"
  | .warning => "warning"
  | .info => "info"

structure MixinConfig where
  product : String
  displayName : String
  alertRoutingTarget : String
  maxAlertSeverity : Severity
  grafanaUrl : String
  alertmanagerUrl : String
  environment : Option String
  datasource : String
  runbookUrl : Option String
  deriving DecidableEq, Repr

namespace MixinConfig

open Schema

def productName : FieldName := ⟨"product", "product"⟩
def displayNameName : FieldName := ⟨"displayName", "display_name"⟩
def alertRoutingTargetName : FieldName := ⟨"alertRoutingTarget", "alert_routing_target"⟩
def maxAlertSeverityName : FieldName := ⟨"maxAlertSeverity", "max_alert_severity"⟩
def grafanaUrlName : FieldName := ⟨"grafanaUrl", "grafana_url"⟩
def alertmanagerUrlName : FieldName := ⟨"alertmanagerUrl", "alertmanager_url"⟩
def environmentName : FieldName := ⟨"environment", "environment"⟩
def datasourceName : FieldName := ⟨"datasource", "datasource"⟩
def runbookUrlName : FieldName := ⟨"runbookUrl", "runbook_url"⟩

def fieldNames : List FieldName := [
  productName, displayNameName, alertRoutingTargetName, maxAlertSeverityName, grafanaUrlName,
  alertmanagerUrlName, environmentName, datasourceName, runbookUrlName]

def severities : List (String × Severity) :=
  [Severity.critical, .error, .warning, .info].map fun s => (s.text, s)

def defaultDatasource : String := "$\x7bDS_PROMETHEUS\x7d"

def address (v : Value) : Checked String :=
  (text v).map fun s => String.ofList (Text.dropEndWhile (· == '/') s.toList)

def check (v : Value) : Checked MixinConfig :=
  let config : Checked MixinConfig :=
    (.ok MixinConfig.mk : Checked _)
      |> Checked.given (productName.required nonEmptyText v)
      |> Checked.given (displayNameName.required nonEmptyText v)
      |> Checked.given (alertRoutingTargetName.required nonEmptyText v)
      |> Checked.given (maxAlertSeverityName.withDefault .warning (oneOf severities) v)
      |> Checked.given (grafanaUrlName.required address v)
      |> Checked.given (alertmanagerUrlName.required address v)
      |> Checked.given (environmentName.withDefault none (optional text) v)
      |> Checked.given (datasourceName.withDefault defaultDatasource text v)
      |> Checked.given (runbookUrlName.withDefault none (optional address) v)
  config.require (unexpected fieldNames v)

def read (v : Value) : Except Fault MixinConfig :=
  match v with
  | .map _ => (check v).mapError fun issues => .ofCause (.config issues)
  | _ => .error (.ofCause .configNotMapping)

end MixinConfig

end SloCompiler
