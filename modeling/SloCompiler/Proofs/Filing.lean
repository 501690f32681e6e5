import SloCompiler.Proofs.CommandRun

namespace SloCompiler.CommandLine

-- What the files of a finished run are: a document is in the file of its path if no later one leads
-- to the same place, and with plain names all is stored in the folder of the mixin.
structure Filed {t : FileTree} {texts : List String} (r : Ready t texts) (u : FileTree) :
    Prop where
  changes : FileTree.Changes r.Touches t u
  documents : ∀ before file s after, r.deployment.documents = before ++ (file, s) :: after →
    (∀ other ∈ after, other.1.place t.home ≠ file.place t.home) → u.read file = .ok s
  products : ∀ product, product ∈ r.artifacts.dashboards.map (·.1) ↔
    ∃ sliId spec, (Value.str product, sliId, spec) ∈ Mixin.entries r.definition.slis
  stored : Deployment.Slashless r.artifacts r.mixin r.options.parts →
    Stored r.artifacts r.output r.mixin r.options.parts t u

variable {t : FileTree} {texts : List String}

theorem run_files (done : (run t texts).ending = .done) :
    ∃ r : Ready t texts, Filed r (run t texts).tree := by
  rcases run_cases t texts with ⟨_, unfinished⟩ | ⟨r, tree, ending⟩
  · exact absurd done unfinished
  · have deployed := Ending.ofOutcome_done.mp (ending.symm.trans done)
    rw [tree]
    refine ⟨r, r.deploy_touches, ?_, r.products, fun plain => ?_⟩
    · intro before file s after split last
      exact FileTree.deploy_read r.adds deployed split last
    · exact FileTree.deploy_stored plain r.products_nodup deployed

def Ending.isDone : Ending → Bool
  | .done => true
  | _ => false

theorem Ending.isDone_iff {ending : Ending} : ending.isDone = true ↔ ending = .done := by
  cases ending <;> simp [isDone]

namespace Straying

def text : String :=
  "\x7bconfig: \x7bproduct: shop, displayName: Shop, alertRoutingTarget: t, grafanaUrl: g, " ++
    "alertmanagerUrl: a\x7d, slis: \x7b../../x: \x7bs: \x7btitle: T, metricType: up, " ++
      "metricTarget: 1, sloTarget: 99\x7d\x7d\x7d\x7d"

def other : Location := ["work", "out", "x.json"]

def tree : FileTree where
  home := ["work"]
  entries := [([], .folder), (["work"], .folder), (["work", "in"], .folder),
    (["work", "in", "mixin-defs"], .folder), (["work", "in", "mixin-defs", "m.yaml"], .file text),
    (["work", "out"], .folder), (other, .file "keep")]

def words : List String := ["-m", "m", "-i", "in", "-o", "out", "-d"]

theorem runs :
    ((run tree words).ending.isDone &&
      FileTree.entry? (run tree words).tree other != some (.file "keep")) = true := by
  decide +kernel

theorem done : (run tree words).ending = .done :=
  Ending.isDone_iff.mp (Bool.and_eq_true_iff.mp runs).1

end Straying

theorem straying_files :
    (run Straying.tree Straying.words).ending = .done ∧
      ∃ r : Ready Straying.tree Straying.words, Filed r (run Straying.tree Straying.words).tree :=
  ⟨Straying.done, run_files Straying.done⟩

theorem straying_overwrites :
    (run Straying.tree Straying.words).ending = .done ∧
      ¬(Path.ofText "out" / "m").place Straying.tree.home <+: Straying.other ∧
        Straying.tree.entry? Straying.other = some (.file "keep") ∧
          FileTree.entry? (run Straying.tree Straying.words).tree Straying.other ≠
            some (.file "keep") := by
  refine ⟨Straying.done, by decide +kernel, by decide +kernel, ?_⟩
  simpa using (Bool.and_eq_true_iff.mp Straying.runs).2

end SloCompiler.CommandLine
