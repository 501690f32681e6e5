import SloCompiler.Event
import SloCompiler.Files.Tree
import SloCompiler.Json.Writer
import SloCompiler.Yaml.Writer

namespace SloCompiler

structure Parts where
  rules : Bool
  dashboards : Bool

inductive FileStep where
  | remove (folder : Path)
  | makeFolder (folder : Path)
  | write (file : Path) (text : String)

def FileTree.perform (t : FileTree) : FileStep → FileOutcome
  | .remove folder => t.remove folder
  | .makeFolder folder => t.makeFolder folder
  | .write file s => t.write file s

def FileTree.performAll (t : FileTree) (steps : List FileStep) : FileOutcome :=
  t.inTurn perform steps

structure Deployment where
  folder : Path
  steps : List FileStep

namespace Deployment

def ruleSteps (artifacts : Artifacts) (folder : Path) (mixin : String) : List FileStep :=
  let rules := folder / "prometheus-rules"
  [ .makeFolder rules,
    .write (rules / (mixin ++ "-recording-rules.yaml"))
      (Yaml.write (recordingDocument artifacts.recording)),
    .write (rules / (mixin ++ "-alerting-rules.yaml"))
      (Yaml.write (alertingDocument artifacts.alerting))]

def dashboardText (d : Dashboard) : String := Json.write (some 2) d.toValue

def dashboardSteps (artifacts : Artifacts) (folder : Path) (mixin : String) : List FileStep :=
  let boards := folder / "grafana-dashboards"
  [.makeFolder boards] ++
    artifacts.dashboards.map (fun (product, d) =>
      .write (boards / (product ++ ".json")) (dashboardText d)) ++
    [.write (boards / (mixin ++ "-summary.json")) (dashboardText artifacts.summary)]

def ofArtifacts (artifacts : Artifacts) (output : Path) (mixin : String) (parts : Parts) :
    Deployment :=
  let folder := output / mixin
  { folder
    steps := (if parts.rules then ruleSteps artifacts folder mixin else []) ++
      if parts.dashboards then dashboardSteps artifacts folder mixin else [] }

def files (d : Deployment) : List Path :=
  d.steps.filterMap fun
    | .write file _ => some file
    | _ => none

def stepsFrom (d : Deployment) (isPresent : Bool) : List FileStep :=
  if isPresent then .remove d.folder :: d.steps else d.steps

-- What is reported besides; files count as written when all of them are.
def events (d : Deployment) (isPresent isDone : Bool) : List Event :=
  (if isPresent then [.clearing d.folder.text] else []) ++
    if isDone then d.files.map fun file => .wrote file.text else []

end Deployment

def FileTree.deploy (t : FileTree) (d : Deployment) : FileOutcome × List Event :=
  match t.isPresent d.folder with
  | .error fault => (⟨t, some fault⟩, [])
  | .ok isPresent =>
    let done := t.performAll (d.stepsFrom isPresent)
    (done, d.events isPresent done.fault.isNone)

end SloCompiler
