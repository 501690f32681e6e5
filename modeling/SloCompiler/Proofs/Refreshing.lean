import SloCompiler.Proofs.AllOrNothing
import SloCompiler.Proofs.Filing
import SloCompiler.Proofs.Leftovers

namespace SloCompiler.CommandLine

open FileStep (lastText)
open FileTree (AgreeWithin)

def source? (texts : List String) : Option Path :=
  match Options.ofTexts texts with
  | .ok o => o.definitionPath.toOption
  | .error _ => none

-- Two trees that may differ in all but the definition of a run and the place of the run.
structure SameSource (texts : List String) (t u : FileTree) : Prop where
  home : u.home = t.home
  read : ∀ source, source? texts = some source → u.read source = t.read source

variable {t u : FileTree} {texts : List String}

namespace Ready

def folder (r : Ready t texts) : Path := r.output / r.mixin

theorem source_eq (r : Ready t texts) : source? texts = some r.source := by
  rw [source?, r.understood]
  dsimp only
  rw [r.sourced]
  rfl

theorem determined (r : Ready t texts) (r' : Ready u texts) (same : SameSource texts t u) :
    r'.folder = r.folder ∧ r'.deployment = r.deployment := by
  have options : r'.options = r.options := by
    have understood := r'.understood
    rw [r.understood] at understood
    exact (Except.ok.inj understood).symm
  have mixin : r'.mixin = r.mixin := by
    have named := r'.named
    rw [options, r.named] at named
    exact (Option.some.inj named).symm
  have output : r'.output = r.output := by
    have directed := r'.directed
    rw [options, r.directed] at directed
    exact (Except.ok.inj directed).symm
  have source : r'.source = r.source := by
    have sourced := r'.sourced
    rw [options, r.sourced] at sourced
    exact (Except.ok.inj sourced).symm
  have definition : r'.definition = r.definition := by
    have loaded := r'.loaded
    rw [source, same.read r.source r.source_eq, r.loaded] at loaded
    exact (Except.ok.inj loaded).symm
  have artifacts : r'.artifacts = r.artifacts := by
    have built := r'.built
    rw [definition, r.built] at built
    exact (Except.ok.inj built).symm
  constructor
  · rw [folder, folder, output, mixin]
  · rw [deployment, deployment, artifacts, output, mixin, options]

end Ready

structure Refreshed (r : Ready t texts) (u t' u' : FileTree) : Prop where
  files : ∀ l, r.folder.place t.home <+: l → ∀ s, t'.entry? l = some (.file s) ↔
    lastText t.home l r.deployment.steps = some s ∨ r.deployment.Leaves t l s
  agree : AgreeWithin (r.folder.place t.home) t' u' ↔
    ∀ l s, r.deployment.Leaves t l s ↔ r.deployment.Leaves u l s
  straight : r.folder.Straight → AgreeWithin (r.folder.place t.home) t' u'

theorem finished (done : (run t texts).ending = .done) : ∃ r : Ready t texts,
    (t.deploy r.deployment).1.fault = none ∧
      (run t texts).tree = (t.deploy r.deployment).1.tree := by
  cases run_cases t texts with
  | inl stopped => exact absurd done stopped.2
  | inr ready =>
    obtain ⟨r, tree, ending⟩ := ready
    exact ⟨r, Ending.ofOutcome_done.mp (ending.symm.trans done), tree⟩

-- Two finished runs of the same words on the same definition leave the same files in the folder
-- of the mixin exactly if they leave the same files there unseen; on a straight path there are
-- none of these.
theorem run_refreshes (formed : t.Formed) (formed' : u.Formed) (same : SameSource texts t u)
    (done : (run t texts).ending = .done) (done' : (run u texts).ending = .done) :
    ∃ r : Ready t texts, Refreshed r u (run t texts).tree (run u texts).tree := by
  obtain ⟨r, deployed, tree⟩ := finished done
  obtain ⟨r', deployed', tree'⟩ := finished done'
  obtain ⟨folder, deployment⟩ := r.determined r' same
  rw [deployment] at deployed' tree'
  have files : ∀ l, r.folder.place t.home <+: l → ∀ s,
      FileTree.entry? (run t texts).tree l = some (.file s) ↔
        lastText t.home l r.deployment.steps = some s ∨ r.deployment.Leaves t l s := by
    intro l within s
    rw [tree]
    exact FileTree.deploy_file_iff formed.parents r.adds deployed within
  have files' : ∀ l, r.folder.place t.home <+: l → ∀ s,
      FileTree.entry? (run u texts).tree l = some (.file s) ↔
        lastText t.home l r.deployment.steps = some s ∨ r.deployment.Leaves u l s := by
    intro l within s
    rw [← same.home] at within ⊢
    rw [tree']
    exact FileTree.deploy_file_iff formed'.parents r.adds deployed' within
  have agree := FileTree.agreeWithin_iff files files'
    (fun l s left => ⟨left.within, left.unwritten⟩)
    (fun l s left => same.home ▸ ⟨left.within, left.unwritten⟩)
  refine ⟨r, files, agree, fun straight => agree.mpr fun l s => ?_⟩
  exact iff_of_false (FileTree.not_leaves formed straight r.asked deployed)
    (FileTree.not_leaves formed' straight r.asked deployed')

namespace Detour

-- The output path leads through a folder that is missing, to one that holds an old document.
def words : List String := ["-m", "m", "-i", "in", "-o", "new/../out"]

def old : Location := ["work", "out", "m", "old.yaml"]

def bare : FileTree where
  home := ["work"]
  entries := [([], .folder), (["work"], .folder), (["work", "in"], .folder),
    (["work", "in", "mixin-defs"], .folder),
    (["work", "in", "mixin-defs", "m.yaml"], .file Overlong.text)]

def tree : FileTree where
  home := ["work"]
  entries := bare.entries ++
    [(["work", "out"], .folder), (["work", "out", "m"], .folder), (old, .file "")]

def options : Options where
  mixin := some "m"
  inputFolder := some "in"
  outputFolder := some "new/../out"
  rules := false
  dashboards := false
  level := some .info

theorem bare_runs : ((run bare words).ending.isDone &&
    (FileTree.entry? (run bare words).tree old).isNone) = true := by
  decide +kernel

theorem tree_runs : ((run tree words).ending.isDone &&
    FileTree.entry? (run tree words).tree old == some (.file "")) = true := by
  decide +kernel

theorem understood : Options.ofTexts words = .ok options := by
  rfl

theorem sameSource : SameSource words bare tree where
  home := rfl
  read := by
    intro source found
    have place : source? words = some ⟨.here, ["in", "mixin-defs", "m.yaml"]⟩ := by
      rw [source?, understood]
      rfl
    rw [place] at found
    cases found
    rfl

theorem bare_formed : bare.Formed := by
  refine FileTree.Formed.of_entries rfl ?_
  simp [bare, FileTree.entry?, Ordered.get?, List.lookup_cons]

theorem tree_formed : tree.Formed := by
  refine FileTree.Formed.of_entries rfl ?_
  simp [tree, bare, old, FileTree.entry?, Ordered.get?, List.lookup_cons]

theorem bare_done : (run bare words).ending = .done :=
  Ending.isDone_iff.mp (Bool.and_eq_true_iff.mp bare_runs).1

theorem tree_done : (run tree words).ending = .done :=
  Ending.isDone_iff.mp (Bool.and_eq_true_iff.mp tree_runs).1

theorem folder_place (r : Ready bare words) :
    r.folder.place bare.home = ["work", "out", "m"] := by
  have options : r.options = options := (Except.ok.inj (understood.symm.trans r.understood)).symm
  have output : Path.ofText "new/../out" = r.output := by
    have directed := r.directed
    rw [options] at directed
    exact Except.ok.inj directed
  have mixin : "m" = r.mixin := by
    have named := r.named
    rw [options] at named
    exact Option.some.inj named
  rw [Ready.folder, ← output, ← mixin]
  rfl

end Detour

theorem detour_refreshes :
    Detour.bare.Formed ∧ Detour.tree.Formed ∧ SameSource Detour.words Detour.bare Detour.tree ∧
      (run Detour.bare Detour.words).ending = .done ∧
        (run Detour.tree Detour.words).ending = .done ∧
          ∃ r : Ready Detour.bare Detour.words, Refreshed r Detour.tree
            (run Detour.bare Detour.words).tree (run Detour.tree Detour.words).tree :=
  ⟨Detour.bare_formed, Detour.tree_formed, Detour.sameSource, Detour.bare_done, Detour.tree_done,
    run_refreshes Detour.bare_formed Detour.tree_formed Detour.sameSource Detour.bare_done
      Detour.tree_done⟩

theorem detour_keeps :
    Detour.bare.Formed ∧ Detour.tree.Formed ∧ SameSource Detour.words Detour.bare Detour.tree ∧
      (run Detour.bare Detour.words).ending = .done ∧
        (run Detour.tree Detour.words).ending = .done ∧
          ∃ r : Ready Detour.bare Detour.words,
            ¬AgreeWithin (r.folder.place Detour.bare.home)
              (run Detour.bare Detour.words).tree (run Detour.tree Detour.words).tree := by
  obtain ⟨r, _⟩ := finished Detour.bare_done
  refine ⟨Detour.bare_formed, Detour.tree_formed, Detour.sameSource, Detour.bare_done,
    Detour.tree_done, r, fun agree => ?_⟩
  have within : r.folder.place Detour.bare.home <+: Detour.old := by
    rw [Detour.folder_place]
    exact ⟨["old.yaml"], rfl⟩
  have kept : FileTree.entry? (run Detour.tree Detour.words).tree Detour.old = some (.file "") :=
    eq_of_beq (Bool.and_eq_true_iff.mp Detour.tree_runs).2
  have absent := Option.isNone_iff_eq_none.mp (Bool.and_eq_true_iff.mp Detour.bare_runs).2
  rw [(agree _ within "").mpr kept] at absent
  cases absent

end SloCompiler.CommandLine
