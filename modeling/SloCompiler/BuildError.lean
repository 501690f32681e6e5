import SloCompiler.Check.Finding
import SloCompiler.Schema.Issue

namespace SloCompiler

inductive ErrorKind where
  | general
  | configuration
  | unknownMetricType
  | missingSpecField
  | malformedSpec
  | unresolvedMetric
  | invalidRules
  | invalidDashboard
  deriving DecidableEq, Repr

def ErrorKind.code : ErrorKind → String
  | .general | .configuration => "CONFIGURATION_ERROR"
  | .unknownMetricType => "UNKNOWN_METRIC_TYPE"
  | .missingSpecField => "MISSING_SPEC_FIELD"
  | .malformedSpec => "MALFORMED_SPEC"
  | .unresolvedMetric => "TARGET_METRIC_UNRESOLVED"
  | .invalidRules => "INVALID_RULES"
  | .invalidDashboard => "INVALID_DASHBOARD"

inductive Cause where
  | stated (kind : ErrorKind) (message : String)
  | definitionNotFound (path : String)
  | definitionNotYaml (path : String)
  | definitionNotMapping (path : String)
  | definitionKeysMissing (path : String) (keys : List String)
  | configNotMapping
  | config (issues : List SchemaIssue)
  | slisNotMapping
  | productNotMapping
  | specNotMapping (kind : String)
  | spec (issues : List SchemaIssue)
  | metricType (tag : String) (registered : List String)
  | specField (tag field : String)
  | noMetric (role : String)
  | noDerivedMetric (role : String)
  | refused (cause : Refusal)
  | rules (findings : List RuleFinding)
  | dashboard (findings : List DashboardFinding)

def Cause.kind : Cause → ErrorKind
  | .stated kind _ => kind
  | .definitionNotFound _ | .definitionNotYaml _ | .definitionNotMapping _
  | .definitionKeysMissing _ _ | .configNotMapping | .config _ | .slisNotMapping
  | .refused _ => .configuration
  | .productNotMapping | .specNotMapping _ | .spec _ => .malformedSpec
  | .metricType _ _ => .unknownMetricType
  | .specField _ _ => .missingSpecField
  | .noMetric _ | .noDerivedMetric _ => .unresolvedMetric
  | .rules _ => .invalidRules
  | .dashboard _ => .invalidDashboard

def Cause.message : Cause → String
  | .stated _ message => message
  | .definitionNotFound path => "Mixin definition not found: " ++ path
  | .definitionNotYaml path => "Mixin definition " ++ path ++ " is not valid YAML"
  | .definitionNotMapping path => "Mixin definition " ++ path ++ " must be a mapping"
  | .definitionKeysMissing path keys =>
    "Mixin definition " ++ path ++ " is missing keys: " ++ ", ".intercalate keys
  | .configNotMapping => "Mixin config must be a mapping"
  | .config issues => "Invalid mixin config: " ++ SchemaIssue.summary issues
  | .slisNotMapping => "SLI definitions must be a mapping of product to SLIs"
  | .productNotMapping => "SLIs must be a mapping of SLI id to spec"
  | .specNotMapping kind => "SLI spec must be a mapping, got " ++ kind
  | .spec issues => SchemaIssue.summary issues
  | .metricType tag registered =>
    "Unknown metricType '" ++ tag ++ "' (registered: " ++ ", ".intercalate registered ++ ")"
  | .specField tag field => "metricType '" ++ tag ++ "' requires '" ++ field ++ "'"
  | .noMetric role => "No metric configured for role '" ++ role ++ "'"
  | .noDerivedMetric role => "No derived metric configured for role '" ++ role ++ "'"
  | .refused cause => cause.message
  | .rules findings => "; ".intercalate (findings.map RuleFinding.text)
  | .dashboard findings => "; ".intercalate (findings.map DashboardFinding.text)

structure BuildError where
  cause : Cause
  product : Value := .null
  sliId : Value := .null

namespace BuildError

def kind (e : BuildError) : ErrorKind := e.cause.kind

def names (e : BuildError) : List Value := [e.product, e.sliId].filter Value.isTruthy

-- The names joined by points; only texts can be joined.
def location? (e : BuildError) : Option (Option String) :=
  if e.names.isEmpty then some none
  else
    (e.names.mapM fun
      | Value.str s => some s
      | _ => none).map fun parts => some (".".intercalate parts)

def text? (e : BuildError) : Option String :=
  e.location?.map fun
    | some place => "[" ++ e.kind.code ++ "] " ++ place ++ ": " ++ e.cause.message
    | none => "[" ++ e.kind.code ++ "] " ++ e.cause.message

def text (e : BuildError) : String := e.text?.getD ""

def withLocation (e : BuildError) (product sliId : Value) : BuildError :=
  { e with
    product := match e.product with
      | .null => product
      | known => known
    sliId := match e.sliId with
      | .null => sliId
      | known => known }

end BuildError

end SloCompiler
