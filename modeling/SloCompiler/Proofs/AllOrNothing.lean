import SloCompiler.Proofs.CommandRun

namespace SloCompiler.CommandLine

variable {t : FileTree} {texts : List String}

theorem Ready.contains (r : Ready t texts) :
    ∃ part, part ∈ Deployment.contents r.artifacts r.mixin r.options.parts := by
  cases r.asked with
  | inl rules => exact ⟨_, Deployment.rules_contained rules⟩
  | inr dashboards => exact ⟨_, Deployment.boards_contained dashboards⟩

-- A run that does not come to its end leaves the tree as it was, unless what it builds does not
-- fit or the system does not let it take the place of what was there before.
theorem run_all_or_nothing (formed : t.Formed) (unfinished : (run t texts).ending ≠ .done) :
    (run t texts).tree = t ∨ ∃ r : Ready t texts, ¬(r.Fits ∧ r.Permitted) ∧
      FileTree.Changes r.Touches t (run t texts).tree := by
  rcases run_cases t texts with ⟨same, _⟩ | ⟨r, tree, ending⟩
  · exact .inl same
  · rw [tree]
    by_cases smooth : r.Fits ∧ r.Permitted
    · obtain ⟨part, contained⟩ := r.contains
      rcases FileTree.deploy_replaces formed smooth.1 smooth.2 contained with done | same
      · exact absurd (ending.trans (Ending.ofOutcome_done.mpr done)) unfinished
      · exact .inl same
    · exact .inr ⟨r, smooth, r.deploy_touches⟩

theorem Word.ofText_plain {s : String} (plain : s.toList.head? ≠ some '-') :
    Word.ofText s = .ok (.argument s) := by
  unfold Word.ofText
  split
  · next second rest shape => simp [shape] at plain
  · rfl

def usualWords (mixin : String) : List String := ["-m", mixin, "-i", "in", "-o", "out"]

def usualOptions (mixin : String) : Options where
  mixin := some mixin
  inputFolder := some "in"
  outputFolder := some "out"
  rules := false
  dashboards := false
  level := some .info

theorem ofTexts_usual {mixin : String} (plain : mixin.toList.head? ≠ some '-') :
    Options.ofTexts (usualWords mixin) = .ok (usualOptions mixin) := by
  have other : mixin ≠ "--" := by
    rintro rfl
    exact plain rfl
  have words : Word.ofTexts (usualWords mixin) = .ok
      [.setting .mixin true none, .argument mixin, .setting .inputFolder true none, .argument "in",
        .setting .outputFolder true none, .argument "out"] := by
    have m : Word.ofText "-m" = .ok (.setting .mixin true none) := by decide +kernel
    have i : Word.ofText "-i" = .ok (.setting .inputFolder true none) := by decide +kernel
    have o : Word.ofText "-o" = .ok (.setting .outputFolder true none) := by decide +kernel
    have input : Word.ofText "in" = .ok (.argument "in") := by decide +kernel
    have output : Word.ofText "out" = .ok (.argument "out") := by decide +kernel
    simp [usualWords, Word.ofTexts, beq_false_of_ne other, Word.ofText_plain plain, m, i, o, input,
      output, bind, Except.bind, pure, Except.pure]
  rw [Options.ofTexts, words]
  rfl

-- A mixin whose definition can be read, but whose name leaves no room for those of its rule files.
structure Overlong (mixin : String) : Prop where
  whole : '/' ∉ mixin.toList
  noNull : '\x00' ∉ mixin.toList
  start : mixin.toList.head? ≠ some '-'
  most : mixin.utf8ByteSize ≤ 250
  least : 234 < mixin.utf8ByteSize

namespace Overlong

def text : String :=
  "\x7bconfig: \x7bproduct: shop, displayName: Shop, alertRoutingTarget: t, grafanaUrl: g, " ++
    "alertmanagerUrl: a\x7d, slis: \x7b\x7d\x7d"

def old (mixin : String) : Location := ["work", "out", mixin, "old.yaml"]

def tree (mixin : String) : FileTree where
  home := ["work"]
  entries := [([], .folder), (["work"], .folder), (["work", "in"], .folder),
    (["work", "in", "mixin-defs"], .folder),
    (["work", "in", "mixin-defs", mixin ++ ".yaml"], .file text), (["work", "out"], .folder),
    (["work", "out", mixin], .folder), (old mixin, .file "")]

theorem tree_formed (mixin : String) : (tree mixin).Formed := by
  refine FileTree.Formed.of_entries rfl ?_
  simp [tree, old, FileTree.entry?, Ordered.get?, List.lookup_cons]

theorem text_read : ∃ c, ∀ path, Definition.ofText path text = .ok ⟨c, []⟩ := by
  have read : ((Definition.ofText "" text).toOption.any fun d => d.slis.isEmpty) = true := by
    decide +kernel
  cases found : Definition.ofText "" text with
  | error fault =>
    rw [found] at read
    cases read
  | ok d =>
    obtain ⟨c, slis⟩ := d
    rw [found] at read
    obtain rfl := List.isEmpty_iff.mp read
    exact ⟨c, fun path => Definition.ofText_path found⟩

theorem build_empty (c : MixinConfig) :
    ∃ a, Mixin.build c Registry.standard [] = .ok a ∧ a.dashboards = [] := by
  refine ⟨_, Mixin.build_ok.mpr ⟨[], rfl, ⟨?_, ?_, ?_⟩, rfl⟩, rfl⟩ <;> simp

def source (mixin : String) : Path := Path.ofText "in" / "mixin-defs" / (mixin ++ ".yaml")

def folder (mixin : String) : Path := Path.ofText "out" / mixin

variable {mixin : String}

theorem single (overlong : Overlong mixin) : Path.Single mixin := by
  have size := overlong.least
  refine Path.single_of_whole overlong.whole ?_ ?_ ?_
  all_goals
    rintro rfl
    exact absurd size (by decide)

theorem source_single (overlong : Overlong mixin) : Path.Single (mixin ++ ".yaml") :=
  Path.single_suffixed overlong.whole (by decide) (by decide)

theorem source_eq (overlong : Overlong mixin) :
    source mixin = ⟨.here, ["in", "mixin-defs", mixin ++ ".yaml"]⟩ := by
  rw [source, Path.div_single _ overlong.source_single]
  rfl

theorem folder_eq (overlong : Overlong mixin) : folder mixin = ⟨.here, ["out", mixin]⟩ := by
  rw [folder, Path.div_single _ overlong.single]
  rfl

theorem source_size (overlong : Overlong mixin) : (mixin ++ ".yaml").utf8ByteSize ≤ 255 := by
  have size := overlong.most
  have ending : ".yaml".utf8ByteSize = 5 := by decide
  rw [String.utf8ByteSize_append]
  omega

theorem source_read (overlong : Overlong mixin) : (tree mixin).read (source mixin) = .ok text := by
  have size := overlong.source_size
  have down := overlong.source_single.down
  rw [overlong.source_eq, FileTree.read_ok]
  refine ⟨?_, ["work", "in", "mixin-defs", mixin ++ ".yaml"],
    FileTree.locate_ok.mpr ⟨?_, ?_, ?_⟩, ?_⟩
  · simp [Path.hasNull, overlong.noNull]
  · have before : ("" ++ ("in" ++ "/" ++ ("mixin-defs" ++ "/"))).utf8ByteSize = 14 := by decide
    rw [Path.text_size, PathRoot.text, String.intercalate_cons_cons, String.intercalate_cons_cons,
      String.intercalate_singleton]
    simp only [String.utf8ByteSize_append] at before size ⊢
    rw [FileTree.pathLimit]
    omega
  · have first : "in".utf8ByteSize ≤ FileTree.nameLimit := by decide
    have second : "mixin-defs".utf8ByteSize ≤ FileTree.nameLimit := by decide
    refine ⟨rfl, .inr first, rfl, .inr second, ?_, .inr size, trivial⟩
    simp [tree, Path.start, Path.follow, FileTree.entry?, Ordered.get?, List.lookup_cons]
  · simp [Path.place, Path.start, Path.follow, down, tree]
  · simp [tree, old, FileTree.entry?, Ordered.get?, List.lookup_cons]

def deployment (a : Artifacts) (mixin : String) : Deployment :=
  .ofArtifacts a (Path.ofText "out") mixin (usualOptions mixin).parts

theorem deploys (overlong : Overlong mixin) : ∃ a, a.dashboards = [] ∧
    (run (tree mixin) (usualWords mixin)).tree = ((tree mixin).deploy (deployment a mixin)).1.tree ∧
      (run (tree mixin) (usualWords mixin)).ending =
        .ofOutcome ((tree mixin).deploy (deployment a mixin)).1 := by
  obtain ⟨c, read⟩ := text_read
  obtain ⟨a, built, empty⟩ := build_empty c
  have loaded : definition (source mixin) ((tree mixin).read (source mixin)) = .ok ⟨c, []⟩ := by
    rw [overlong.source_read]
    exact read _
  let r : Ready (tree mixin) (usualWords mixin) :=
    ⟨usualOptions mixin, .info, mixin, source mixin, Path.ofText "out", ⟨c, []⟩, a,
      ofTexts_usual overlong.start, rfl, rfl, rfl, loaded, built, rfl⟩
  exact ⟨a, empty, r.run_eq⟩

theorem folder_place (overlong : Overlong mixin) (home : Location) :
    (folder mixin).place home = home ++ ["out", mixin] := by
  rw [folder, Path.place_div _ overlong.single]
  have out : (Path.ofText "out").place home = home ++ ["out"] := rfl
  rw [out, List.append_assoc]
  rfl

theorem folder_located (overlong : Overlong mixin) :
    (tree mixin).locate (folder mixin) = .ok ((folder mixin).place ["work"]) := by
  have size := overlong.most
  rw [overlong.folder_eq]
  refine FileTree.locate_ok.mpr ⟨?_, ?_, rfl⟩
  · have before : ("" ++ ("out" ++ "/")).utf8ByteSize = 4 := by decide
    rw [Path.text_size, PathRoot.text, String.intercalate_cons_cons, String.intercalate_singleton]
    simp only [String.utf8ByteSize_append] at before ⊢
    rw [FileTree.pathLimit]
    omega
  · have first : "out".utf8ByteSize ≤ FileTree.nameLimit := by decide
    have second : mixin.utf8ByteSize ≤ FileTree.nameLimit := by
      rw [FileTree.nameLimit]
      omega
    refine ⟨rfl, .inr first, ?_, .inr second, trivial⟩
    simp [tree, Path.start, Path.follow, FileTree.entry?, Ordered.get?, List.lookup_cons]

theorem folder_present (overlong : Overlong mixin) :
    FileTree.entry? (tree mixin) ((folder mixin).place ["work"]) = some .folder := by
  rw [overlong.folder_place]
  simp [tree, FileTree.entry?, Ordered.get?, List.lookup_cons]

theorem folder_seen (overlong : Overlong mixin) :
    (tree mixin).isPresent (folder mixin) = .ok true := by
  have noNull : (folder mixin).hasNull = false := by
    rw [overlong.folder_eq]
    simp [Path.hasNull, overlong.noNull]
  have found := FileTree.find_ok.mpr ⟨overlong.folder_located, overlong.folder_present⟩
  rw [FileTree.isPresent, FileTree.test, noNull, found]
  rfl

theorem folder_removed (overlong : Overlong mixin) :
    ((tree mixin).remove (folder mixin)).fault = none ∧
      FileTree.entry? ((tree mixin).remove (folder mixin)).tree (old mixin) = none := by
  have down := overlong.single.down
  have straight : (folder mixin).Straight := by
    rw [overlong.folder_eq]
    simp [Path.Straight, Path.downs, down.symm]
  have apart : ¬(folder mixin).place (tree mixin).home <+: (tree mixin).home := by
    rw [overlong.folder_place]
    exact append_not_within _
  have short : ∀ row ∈ (tree mixin).entries, row.1.length ≤ 5 := by simp [tree, old]
  have removable : (tree mixin).Removable (tree mixin).reach
      ((folder mixin).place (tree mixin).home) := by
    intro l _ present
    obtain ⟨e, found⟩ := Option.ne_none_iff_exists'.mp present
    have length : l.length ≤ 5 := short _ (Ordered.mem_of_get? found)
    have reach : (tree mixin).reach = 990 := rfl
    exact ⟨rfl, by omega⟩
  have rooted := (tree_formed mixin).parents
  have done := FileTree.remove_done rooted straight apart overlong.folder_located
    overlong.folder_present rfl removable
  refine ⟨done, FileTree.remove_gone rooted done _ ?_⟩
  rw [overlong.folder_place]
  exact ⟨["old.yaml"], rfl⟩

theorem plain (overlong : Overlong mixin) {a : Artifacts} (empty : a.dashboards = [])
    (parts : Parts) : Deployment.Slashless a mixin parts where
  mixin := overlong.whole
  products := by simp [empty]

theorem unwritten (overlong : Overlong mixin) {a : Artifacts} (empty : a.dashboards = []) :
    ((tree mixin).deploy (deployment a mixin)).1.fault ≠ none := by
  intro done
  have stored := FileTree.deploy_stored (overlong.plain empty _) (by simp [empty]) done
  obtain ⟨_, l, located, _⟩ := FileTree.read_ok.mp (stored.recording rfl)
  have named : Path.Single (mixin ++ "-recording-rules.yaml") :=
    Path.single_suffixed overlong.whole (by decide) (by decide)
  rw [Path.div_single _ named] at located
  have ending := (FileTree.open_append.mp (FileTree.locate_ok.mp located).2.1).2.2.1
  have size := overlong.least
  have rest : "-recording-rules.yaml".utf8ByteSize = 21 := by decide
  rw [or_iff_right named.down, String.utf8ByteSize_append, FileTree.nameLimit] at ending
  omega

-- What was there before lies no deeper than the folders that are made.
theorem old_apart (overlong : Overlong mixin) {a : Artifacts} (empty : a.dashboards = [])
    (home : Location) (same : home = ["work"]) :
    ¬∃ step ∈ (deployment a mixin).steps, step.Reaches home (old mixin) := by
  intro reached
  obtain ⟨file, listed, place⟩ :=
    Deployment.reaches_files (Deployment.ofArtifacts_adds _ _ _ _) reached
  rw [Deployment.files_documents] at listed
  obtain ⟨document, among, rfl⟩ := List.mem_map.mp listed
  obtain ⟨sub, name, _, deeper⟩ := (overlong.plain empty _).document_place among home
  have folder := overlong.folder_place home
  rw [CommandLine.Overlong.folder] at folder
  rw [deeper, folder, same] at place
  simp [old] at place

theorem removed (overlong : Overlong mixin) {a : Artifacts} (empty : a.dashboards = []) :
    FileTree.entry? ((tree mixin).deploy (deployment a mixin)).1.tree (old mixin) ≠
      some (.file "") := by
  obtain ⟨done, gone⟩ := overlong.folder_removed
  intro present
  let u := ((tree mixin).remove (folder mixin)).tree
  have onwards : ((tree mixin).deploy (deployment a mixin)).1 =
      u.performAll (deployment a mixin).steps :=
    (FileTree.deploy_seen (d := deployment a mixin) overlong.folder_seen).trans
      (FileTree.performAll_cons (tree mixin) (.remove (folder mixin)) _ done)
  rw [onwards] at present
  have home : u.home = ["work"] := (FileTree.remove_changes (tree mixin) (folder mixin)).home
  have kept := (FileTree.performAll_changes u (deployment a mixin).steps).files (old mixin)
    (overlong.old_apart empty u.home home) ""
  rw [kept.mp present] at gone
  cases gone

theorem loses (overlong : Overlong mixin) :
    (run (tree mixin) (usualWords mixin)).ending ≠ .done ∧
      FileTree.entry? (tree mixin) (old mixin) = some (.file "") ∧
        FileTree.entry? (run (tree mixin) (usualWords mixin)).tree (old mixin) ≠
          some (.file "") := by
  obtain ⟨a, empty, tree', ending⟩ := overlong.deploys
  refine ⟨fun done => ?_, ?_, ?_⟩
  · exact overlong.unwritten empty (Ending.ofOutcome_done.mp (ending.symm.trans done))
  · simp [tree, old, FileTree.entry?, Ordered.get?, List.lookup_cons]
  · rw [tree']
    exact overlong.removed empty

end Overlong

def lengthy (n : Nat) : String := String.ofList (List.replicate n 'm')

theorem lengthy_size (n : Nat) : (lengthy n).utf8ByteSize = n := by
  unfold lengthy
  induction n with
  | zero => rfl
  | succ n ih =>
    rw [List.replicate_succ', String.ofList_append, String.utf8ByteSize_append, ih]
    rfl

theorem lengthy_overlong {n : Nat} (least : 234 < n) (most : n ≤ 250) : Overlong (lengthy n) := by
  have size := lengthy_size n
  have letters : ∀ c ∈ (lengthy n).toList, c = 'm' := by
    rw [lengthy, String.toList_ofList]
    exact fun c listed => List.eq_of_mem_replicate listed
  refine ⟨fun listed => ?_, fun listed => ?_, fun first => ?_, by omega, by omega⟩
  · exact absurd (letters _ listed) (by decide)
  · exact absurd (letters _ listed) (by decide)
  · exact absurd (letters _ (List.mem_of_head? first)) (by decide)

theorem lengthy_loses :
    (Overlong.tree (lengthy 240)).Formed ∧
      (run (Overlong.tree (lengthy 240)) (usualWords (lengthy 240))).ending ≠ .done ∧
        FileTree.entry? (Overlong.tree (lengthy 240)) (Overlong.old (lengthy 240)) =
            some (.file "") ∧
          FileTree.entry? (run (Overlong.tree (lengthy 240)) (usualWords (lengthy 240))).tree
            (Overlong.old (lengthy 240)) ≠ some (.file "") :=
  ⟨Overlong.tree_formed _, (lengthy_overlong (by decide) (by decide)).loses⟩

theorem lengthy_all_or_nothing :
    (Overlong.tree (lengthy 240)).Formed ∧
      (run (Overlong.tree (lengthy 240)) (usualWords (lengthy 240))).ending ≠ .done ∧
        ((run (Overlong.tree (lengthy 240)) (usualWords (lengthy 240))).tree =
            Overlong.tree (lengthy 240) ∨
          ∃ r : Ready (Overlong.tree (lengthy 240)) (usualWords (lengthy 240)),
            ¬(r.Fits ∧ r.Permitted) ∧ FileTree.Changes r.Touches (Overlong.tree (lengthy 240))
              (run (Overlong.tree (lengthy 240)) (usualWords (lengthy 240))).tree) := by
  have formed := Overlong.tree_formed (lengthy 240)
  have unfinished := (lengthy_overlong (by decide : 234 < 240) (by decide)).loses.1
  exact ⟨formed, unfinished, run_all_or_nothing formed unfinished⟩

end SloCompiler.CommandLine
