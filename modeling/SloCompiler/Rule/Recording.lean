import SloCompiler.Labels
import SloCompiler.Metric.Name
import SloCompiler.Value.Basic

namespace SloCompiler

structure RecordingRule where
  record : String
  expr : String
  labels : Labels := []
  deriving DecidableEq, Repr

namespace RecordingRule

def withLabels (r : RecordingRule) (labels : Labels) : RecordingRule :=
  { r with labels := Labels.merge [some r.labels, some labels] }

def toValue (r : RecordingRule) : Value :=
  .object <| [("record", .str r.record), ("expr", .str r.expr)] ++
    if r.labels.isEmpty then [] else [("labels", .object (r.labels.map fun (k, v) => (k, .str v)))]

end RecordingRule

def sliValueRecord : String := "sli_value"

abbrev RecordingGroups := List ((String × String) × List RecordingRule)

namespace RecordingGroups

def add (groups : RecordingGroups) (product interval : String) (rules : List RecordingRule) :
    RecordingGroups :=
  Ordered.append (product, interval) rules groups

def rules (groups : RecordingGroups) : List RecordingRule := Ordered.flatten groups

def groupName (product interval : String) : String :=
  sanitizeName product ++ "_" ++ interval ++ "_sli_recording_rules"

end RecordingGroups

structure RecordingGroup where
  name : String
  interval : String
  rules : List RecordingRule
  deriving DecidableEq, Repr

namespace RecordingGroups

def document (groups : RecordingGroups) : List RecordingGroup :=
  groups.map fun ((product, interval), rules) =>
    ⟨groupName product interval, interval, rules⟩

end RecordingGroups

def RecordingGroup.toValue (g : RecordingGroup) : Value :=
  .object [
    ("name", .str g.name), ("interval", .str g.interval),
    ("rules", .list (g.rules.map RecordingRule.toValue))]

def recordingDocument (groups : List RecordingGroup) : Value :=
  .object [("groups", .list (groups.map RecordingGroup.toValue))]

end SloCompiler
