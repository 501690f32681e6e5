import SloCompiler.Build

namespace SloCompiler

inductive LogLevel where
  | debug
  | info
  | warning
  | error
  deriving DecidableEq, Repr

namespace LogLevel

def all : List LogLevel := [.debug, .info, .warning, .error]

def text : LogLevel → String
  | .debug => "DEBUG"
  | .info => "INFO"
  | .warning => "WARNING"
  | .error => "ERROR"

def ofText? (s : String) : Option LogLevel := all.find? (·.text == s)

def rank : LogLevel → Nat
  | .debug => 0
  | .info => 1
  | .warning => 2
  | .error => 3

end LogLevel

inductive Event where
  | loaded (product path : String) (products slis : Nat)
  | rulesAdded (count : Nat) (group : String)
  | productCompiled (slis : Nat) (product : String)
  | built (product : String) (rules alerts dashboards : Nat)
  | clearing (folder : String)
  | wrote (file : String)
  | failed (mixin error : String)
  deriving DecidableEq, Repr

namespace Event

def level : Event → LogLevel
  | .rulesAdded _ _ | .productCompiled _ _ => .debug
  | .failed _ _ => .error
  | _ => .info

def source : Event → String
  | .loaded _ _ _ _ => "monitoring_mixin.config"
  | .rulesAdded _ _ => "monitoring_mixin.generators.recording_rule_generator"
  | .productCompiled _ _ | .built _ _ _ _ => "monitoring_mixin.builder"
  | .clearing _ | .wrote _ | .failed _ _ => "monitoring_mixin.cli"

def message : Event → String
  | .loaded product path products slis =>
    s!"Loaded mixin '{product}' from {path}: {products} products, {slis} SLIs"
  | .rulesAdded count group => s!"Added {count} recording rules to group {group}"
  | .productCompiled slis product => s!"Compiled {slis} SLIs for product '{product}'"
  | .built product rules alerts dashboards =>
    s!"Built mixin '{product}': {rules} recording rules, {alerts} alerts, {dashboards} dashboards"
  | .clearing folder => "Clearing previous output in " ++ folder
  | .wrote file => "Wrote " ++ file
  | .failed mixin error => s!"Build of mixin '{mixin}' failed: {error}"

def line (e : Event) : String :=
  e.source ++ " - " ++ e.level.text ++ " - " ++ e.message ++ "\n"

def log (threshold : LogLevel) (events : List Event) : String :=
  String.join ((events.filter fun e => threshold.rank ≤ e.level.rank).map line)

end Event

namespace Mixin

-- What is reported while SLIs are compiled. After the first that fails there is nothing more.
def progress (config : MixinConfig) (registry : Registry) : SliTable → List Event
  | [] => []
  | (product, slis) :: rest =>
    let compiled := slis.map fun (sliId, spec) =>
      (CompiledSli.compile config registry product sliId spec).toOption
    let added := (compiled.takeWhile Option.isSome).filterMap fun sli => sli.map fun s =>
      Event.rulesAdded s.rules.length (RecordingGroups.groupName s.product s.interval)
    if compiled.all Option.isSome then
      added ++ .productCompiled slis.length product.label :: progress config registry rest
    else added

end Mixin

namespace Artifacts

def built (a : Artifacts) (config : MixinConfig) : Event :=
  .built config.product (a.recording.flatMap (·.rules)).length
    (a.alerting.flatMap (·.rules)).length a.dashboards.length

end Artifacts

end SloCompiler
