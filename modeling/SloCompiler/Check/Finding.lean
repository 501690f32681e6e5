import SloCompiler.Labels
import SloCompiler.Text.Quoted

namespace SloCompiler

inductive RuleDefect where
  | emptyExpression
  | unbalanced
  | danglingOperator
  | emptyAggregation
  | recordName (name : String)
  | notYetDefined (name : String)
  | duplicateSeries (record : String) (labels : Labels)
  | duplicateAlert (name : String)
  | noRecordedSeries
  deriving DecidableEq

def Labels.shown (labels : Labels) : String :=
  "\x7b" ++ ", ".intercalate (labels.map fun (k, v) => Text.quoted k ++ ": " ++ Text.quoted v) ++
    "\x7d"

def RuleDefect.message : RuleDefect → String
  | .emptyExpression => "Empty PromQL expression"
  | .unbalanced => "Unbalanced parentheses, brackets, or braces"
  | .danglingOperator => "Expression ends with binary operator"
  | .emptyAggregation => "Empty aggregation function"
  | .recordName name => "Invalid record name: " ++ Text.quoted name
  | .notYetDefined name => "References '" ++ name ++ "' before it is defined"
  | .duplicateSeries record labels =>
    "Duplicate series '" ++ record ++ "' with labels " ++ labels.shown
  | .duplicateAlert name => "Duplicate alert name '" ++ name ++ "'"
  | .noRecordedSeries => "Alert does not reference any recorded SLI series"

structure RuleFinding where
  rule : String
  defect : RuleDefect
  deriving DecidableEq

def RuleFinding.text (f : RuleFinding) : String :=
  if f.rule.isEmpty then f.defect.message else f.rule ++ ": " ++ f.defect.message

inductive DashboardDefect where
  | notObject
  | missingField (name : String)
  | oldSchema (version : String)
  | panelsNotArray
  | panelNotObject
  | missingPanelField (name : String)
  | duplicatePanelId (id : String)
  | panelType (type : String)
  | noTarget
  | noExpression
  | duplicateRefId (id : String)
  deriving DecidableEq

def DashboardDefect.message : DashboardDefect → String
  | .notObject => "Dashboard must be a JSON object"
  | .missingField name => "Missing required field: " ++ name
  | .oldSchema version => "schemaVersion " ++ version ++ " is too old (minimum: 16)"
  | .panelsNotArray => "panels must be an array"
  | .panelNotObject => "Panel must be an object"
  | .missingPanelField name => "Missing required panel field: " ++ name
  | .duplicatePanelId id => "Duplicate panel ID: " ++ id
  | .panelType type => "Invalid panel type: " ++ type
  | .noTarget => "Panel must have at least one target"
  | .noExpression => "Target must have an expr"
  | .duplicateRefId id => "Duplicate refId: " ++ id

structure DashboardFinding where
  path : String
  defect : DashboardDefect
  deriving DecidableEq

def DashboardFinding.text (f : DashboardFinding) : String := f.path ++ ": " ++ f.defect.message

end SloCompiler
