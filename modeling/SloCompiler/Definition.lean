import SloCompiler.Config
import SloCompiler.Sli.Spec
import SloCompiler.Yaml.Reader

namespace SloCompiler

structure Definition where
  config : MixinConfig
  slis : SliTable

namespace Definition

def parse (path text : String) : Except Fault Value :=
  (Yaml.read text).mapError fun
    | .malformed => .ofCause (.definitionNotYaml path)
    | .fault cause => cause

def ofText (path text : String) : Except Fault Definition := do
  let v ← parse path text
  match v with
  | .map _ =>
    match v.field? "config", v.field? "slis" with
    | some config, some slis => return ⟨← MixinConfig.read config, ← SliTable.read slis⟩
    | config, slis =>
      let missing := (if config.isNone then ["config"] else []) ++
        (if slis.isNone then ["slis"] else [])
      .error (.ofCause (.definitionKeysMissing path missing))
  | _ => .error (.ofCause (.definitionNotMapping path))

def load (path : String) : Option String → Except Fault Definition
  | some text => ofText path text
  | none => .error (.ofCause (.definitionNotFound path))

end Definition

end SloCompiler
