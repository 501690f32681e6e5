import SloCompiler.CommandLine.Options
import SloCompiler.Definition
import SloCompiler.Deployment

namespace SloCompiler.CommandLine

namespace Options

def mixinName (o : Options) : String := o.mixin.getD "[]"

def definitionPath (o : Options) : Except Fault Path :=
  match o.inputFolder with
  | some folder => .ok (Path.ofText folder / "mixin-defs" / (o.mixinName ++ ".yaml"))
  | none => .error .mistyped

def outputPath (o : Options) : Except Fault Path :=
  match o.outputFolder, o.inputFolder with
  | some "", some folder | none, some folder => .ok (Path.ofText folder / "output")
  | some folder, _ => .ok (Path.ofText folder)
  | none, none => .error .mistyped

def parts (o : Options) : Parts := ⟨o.rules || !o.dashboards, o.dashboards || !o.rules⟩

def deployment (o : Options) (artifacts : Artifacts) : Except Fault Deployment := do
  let output ← o.outputPath
  match o.mixin with
  | some mixin => return .ofArtifacts artifacts output mixin o.parts
  | none => .error .mistyped

end Options

def definition (path : Path) : Except Fault String → Except Fault Definition
  | .ok s => Definition.load path.text (some s)
  | .error (.file .notFound) => Definition.load path.text none
  | .error fault => .error fault

def loaded (path : Path) (d : Definition) : Event :=
  .loaded d.config.product path.text d.slis.length (Mixin.entries d.slis).length

-- All that is done before any file changes.
structure Preparation where
  events : List Event
  deployment : Except Fault Deployment

namespace Preparation

def ofDefinition (o : Options) (path : Path) (d : Definition) : Preparation :=
  let started := loaded path d :: Mixin.progress d.config Registry.standard d.slis
  match Mixin.build d.config Registry.standard d.slis with
  | .ok artifacts => ⟨started ++ [artifacts.built d.config], o.deployment artifacts⟩
  | .error fault => ⟨started, .error fault⟩

def reported (o : Options) (p : Preparation) : Preparation :=
  match p.deployment with
  | .error (.build e) => { p with events := p.events ++ [.failed o.mixinName e.text] }
  | _ => p

def ofText (o : Options) (path : Path) (source : Except Fault String) : Preparation :=
  reported o <|
    match definition path source with
    | .ok d => ofDefinition o path d
    | .error fault => ⟨[], .error fault⟩

end Preparation

inductive Ending where
  | done
  | buildFailed
  | stopped (cause : Fault)
  | help
  | misuse (cause : Misuse)

structure Report where
  ending : Ending
  log : String
  tree : FileTree

namespace Ending

def ofFault : Fault → Ending
  | .build _ => .buildFailed
  | fault => .stopped fault

def ofStop : Stop → Ending
  | .help => .help
  | .misuse cause => .misuse cause

def usage : Ending → String
  | .misuse cause => "monitoring-mixin: error: " ++ cause.message
  | _ => ""

end Ending

def Options.run (o : Options) (level : LogLevel) (path : Path) (t : FileTree) : Report :=
  let prepared := Preparation.ofText o path (t.read path)
  match prepared.deployment with
  | .error fault => ⟨.ofFault fault, Event.log level prepared.events, t⟩
  | .ok deployment =>
    let (outcome, events) := t.deploy deployment
    let ending := match outcome.fault with
      | some fault => .stopped fault
      | none => .done
    ⟨ending, Event.log level (prepared.events ++ events), outcome.tree⟩

def run (t : FileTree) (texts : List String) : Report :=
  match Options.ofTexts texts with
  | .error stop => ⟨.ofStop stop, "", t⟩
  | .ok o =>
    match o.level, o.definitionPath with
    | some level, .ok path => o.run level path t
    | none, _ => ⟨.stopped .mistyped, "", t⟩
    | _, .error fault => ⟨.stopped fault, "", t⟩

end SloCompiler.CommandLine
