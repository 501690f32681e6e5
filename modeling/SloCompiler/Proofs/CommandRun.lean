import SloCompiler.CommandLine.Run
import SloCompiler.Proofs.DashboardLinks
import SloCompiler.Proofs.Replacing

namespace SloCompiler

-- Where a definition comes from shows in errors only.
theorem Definition.ofText_path {one two text : String} {d : Definition}
    (read : Definition.ofText one text = .ok d) : Definition.ofText two text = .ok d := by
  unfold Definition.ofText Definition.parse at read ⊢
  rw [bind_ok] at read ⊢
  obtain ⟨v, parsed, rest⟩ := read
  refine ⟨v, mapError_ok.mpr (mapError_ok.mp parsed), ?_⟩
  cases v with
  | map entries =>
    dsimp only at rest ⊢
    split at rest
    · next config slis found => simpa [found] using rest
    · cases rest
  | _ => cases rest

namespace CommandLine

-- A run that has come to the point from which on files can change: words that are understood, a
-- definition that is read and a mixin that is built from it.
structure Ready (t : FileTree) (texts : List String) where
  options : Options
  level : LogLevel
  mixin : String
  source : Path
  output : Path
  definition : Definition
  artifacts : Artifacts
  understood : Options.ofTexts texts = .ok options
  heard : options.level = some level
  named : options.mixin = some mixin
  sourced : options.definitionPath = .ok source
  loaded : CommandLine.definition source (t.read source) = .ok definition
  built : Mixin.build definition.config Registry.standard definition.slis = .ok artifacts
  directed : options.outputPath = .ok output

namespace Ready

variable {t : FileTree} {texts : List String}

def deployment (r : Ready t texts) : Deployment :=
  .ofArtifacts r.artifacts r.output r.mixin r.options.parts

-- The places at which a file can change: those in the folder of the mixin and those of its files.
def Touches (r : Ready t texts) (l : Location) : Prop :=
  (r.output / r.mixin).place t.home <+: l ∨ ∃ file ∈ r.deployment.files, l = file.place t.home

def Fits (r : Ready t texts) : Prop :=
  SloCompiler.Fits r.artifacts r.output r.mixin r.options.parts t.home

def Permitted (r : Ready t texts) : Prop := r.deployment.Permitted t

theorem asked (r : Ready t texts) :
    r.options.parts.rules = true ∨ r.options.parts.dashboards = true := by
  unfold Options.parts
  cases r.options.rules <;> cases r.options.dashboards <;> simp

theorem products (r : Ready t texts) (product : String) :
    product ∈ r.artifacts.dashboards.map (·.1) ↔
      ∃ sliId spec, (Value.str product, sliId, spec) ∈ Mixin.entries r.definition.slis := by
  obtain ⟨parts, listed, _, made⟩ := Mixin.build_ok.mp r.built
  rw [made]
  exact (Mixin.assembled_linked parts listed).products product

theorem products_nodup (r : Ready t texts) : (r.artifacts.dashboards.map (·.1)).Nodup := by
  obtain ⟨parts, listed, _, made⟩ := Mixin.build_ok.mp r.built
  rw [made]
  exact (Mixin.assembled_linked parts listed).distinct

theorem adds (r : Ready t texts) : r.deployment.Adds :=
  Deployment.ofArtifacts_adds r.artifacts r.output r.mixin r.options.parts

theorem deploy_touches (r : Ready t texts) :
    FileTree.Changes r.Touches t (t.deploy r.deployment).1.tree :=
  (FileTree.deploy_changes t r.adds).mono fun _ within => within

end Ready

namespace Ending

def ofOutcome (outcome : FileOutcome) : Ending :=
  match outcome.fault with
  | some fault => .stopped fault
  | none => .done

theorem ofOutcome_done {outcome : FileOutcome} :
    ofOutcome outcome = .done ↔ outcome.fault = none := by
  unfold ofOutcome
  cases outcome.fault <;> simp

theorem ofFault_ne_done (fault : Fault) : ofFault fault ≠ .done := by
  cases fault <;> simp [ofFault]

theorem ofStop_ne_done (stop : Stop) : ofStop stop ≠ .done := by
  cases stop <;> simp [ofStop]

end Ending

theorem ofText_deployment (o : Options) (source : Path) (found : Except Fault String) :
    (Preparation.ofText o source found).deployment =
      (definition source found).bind fun d =>
        (Mixin.build d.config Registry.standard d.slis).bind o.deployment := by
  have kept (p : Preparation) : (p.reported o).deployment = p.deployment := by
    unfold Preparation.reported
    split <;> rfl
  rw [Preparation.ofText, kept]
  cases definition source found with
  | error fault => rfl
  | ok d =>
    dsimp only [Preparation.ofDefinition, Except.bind]
    cases Mixin.build d.config Registry.standard d.slis <;> rfl

theorem deployment_ok {o : Options} {a : Artifacts} {d : Deployment} :
    o.deployment a = .ok d ↔ ∃ output mixin, o.outputPath = .ok output ∧ o.mixin = some mixin ∧
      .ofArtifacts a output mixin o.parts = d := by
  unfold Options.deployment
  rw [bind_ok]
  cases named : o.mixin <;> simp [pure, Except.pure]

theorem run_deploys (o : Options) (level : LogLevel) (source : Path) (t : FileTree) :
    (o.run level source t).tree = t ∧ (o.run level source t).ending ≠ .done ∨
      ∃ d, (Preparation.ofText o source (t.read source)).deployment = .ok d ∧
        (o.run level source t).tree = (t.deploy d).1.tree ∧
          (o.run level source t).ending = .ofOutcome (t.deploy d).1 := by
  unfold Options.run
  dsimp only
  cases (Preparation.ofText o source (t.read source)).deployment with
  | error fault => exact .inl ⟨rfl, Ending.ofFault_ne_done fault⟩
  | ok d => exact .inr ⟨d, rfl, rfl, rfl⟩

-- Either a run ends before it touches a file, or it is ready and ends as its deployment does.
theorem run_cases (t : FileTree) (texts : List String) :
    (run t texts).tree = t ∧ (run t texts).ending ≠ .done ∨
      ∃ r : Ready t texts, (run t texts).tree = (t.deploy r.deployment).1.tree ∧
        (run t texts).ending = .ofOutcome (t.deploy r.deployment).1 := by
  unfold run
  cases understood : Options.ofTexts texts with
  | error stop => exact .inl ⟨rfl, Ending.ofStop_ne_done stop⟩
  | ok o =>
    dsimp only
    cases heard : o.level with
    | none => exact .inl ⟨rfl, by simp⟩
    | some level =>
      cases sourced : o.definitionPath with
      | error fault => exact .inl ⟨rfl, by simp⟩
      | ok source =>
        rcases run_deploys o level source t with unready | ⟨d, prepared, tree, ending⟩
        · exact .inl unready
        · rw [ofText_deployment] at prepared
          obtain ⟨definition, loaded, made⟩ := bind_ok.mp prepared
          obtain ⟨artifacts, built, deployed⟩ := bind_ok.mp made
          obtain ⟨output, mixin, directed, named, rfl⟩ := deployment_ok.mp deployed
          exact .inr ⟨⟨o, level, mixin, source, output, definition, artifacts, understood, heard,
            named, sourced, loaded, built, directed⟩, tree, ending⟩

theorem Ready.run_eq {t : FileTree} {texts : List String} (r : Ready t texts) :
    (run t texts).tree = (t.deploy r.deployment).1.tree ∧
      (run t texts).ending = .ofOutcome (t.deploy r.deployment).1 := by
  have prepared : (Preparation.ofText r.options r.source (t.read r.source)).deployment =
      .ok r.deployment := by
    rw [ofText_deployment, r.loaded, Except.bind, r.built]
    exact deployment_ok.mpr ⟨r.output, r.mixin, r.directed, r.named, rfl⟩
  unfold run
  rw [r.understood]
  dsimp only
  rw [r.heard, r.sourced]
  dsimp only [Options.run]
  rw [prepared]
  exact ⟨rfl, rfl⟩

end CommandLine

end SloCompiler
