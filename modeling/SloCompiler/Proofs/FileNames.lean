import SloCompiler.Proofs.Deploying
import SloCompiler.Proofs.Words

namespace SloCompiler

theorem last_where {α : Type} {p : α → Bool} {xs : List α} {x : α} (listed : x ∈ xs)
    (holds : p x = true) :
    ∃ before y after, xs = before ++ y :: after ∧ p y = true ∧ ∀ z ∈ after, p z = false := by
  have found : (xs.reverse.find? p).isSome = true :=
    List.find?_isSome.mpr ⟨x, List.mem_reverse.mpr listed, holds⟩
  obtain ⟨y, last⟩ := Option.isSome_iff_exists.mp found
  obtain ⟨own, later, earlier, whole, none⟩ := List.find?_eq_some_iff_append.mp last
  refine ⟨earlier.reverse, y, later.reverse, ?_, own, fun z after => ?_⟩
  · rw [← List.reverse_reverse xs, whole]
    simp
  · simpa using none z (List.mem_reverse.mp after)

namespace Path

structure Single (name : String) : Prop where
  own : ofText name = ⟨.here, [name]⟩
  down : name ≠ ".."

theorem single_of_whole {name : String} (whole : '/' ∉ name.toList) (filled : name ≠ "")
    (other : name ≠ ".") (down : name ≠ "..") : Single name := by
  have apart : ∀ c ∈ name.toList, (c == '/') = false := by
    intro c present
    exact beq_false_of_ne fun same => whole (same ▸ present)
  have root : rootOf name.toList = .here := by
    unfold rootOf
    cases shape : name.toList with
    | nil => rfl
    | cons c rest => simp [apart c (shape ▸ List.mem_cons_self)]
  refine ⟨?_, down⟩
  simp [ofText, root, Text.pieces_unseparated apart, filled, other]

theorem single_of_long {name : String} (whole : '/' ∉ name.toList) (long : 2 < name.length) :
    Single name := by
  have apart (short : String) (few : short.length ≤ 2) : name ≠ short := by
    rintro rfl
    omega
  exact single_of_whole whole (apart "" (by decide)) (apart "." (by decide))
    (apart ".." (by decide))

theorem single_suffixed {name ending : String} (whole : '/' ∉ name.toList)
    (plain : '/' ∉ ending.toList) (long : 2 < ending.length) : Single (name ++ ending) := by
  refine single_of_long ?_ ?_
  · rw [String.toList_append, List.mem_append]
    rintro (among | among)
    · exact whole among
    · exact plain among
  · rw [String.length_append]
    omega

theorem div_single (p : Path) {name : String} (single : Single name) :
    p / name = ⟨p.root, p.names ++ [name]⟩ := by
  change p.join name = _
  rw [join, single.own]
  rfl

theorem div_parent (p : Path) {name : String} (single : Single name) : (p / name).parent = p := by
  rw [div_single p single]
  simp [parent]

theorem place_div (p : Path) {name : String} (single : Single name) (home : Location) :
    (p / name).place home = p.place home ++ [name] := by
  rw [div_single p single]
  simp [place, start, follow, single.down]

end Path

def FileStep.batch (folder : Path) (files : List (String × String)) : List FileStep :=
  .makeFolder folder :: files.map fun file => .write (folder / file.1) file.2

namespace Deployment

variable {a : Artifacts} {output : Path} {mixin : String} {parts : Parts}

def ruleFiles (a : Artifacts) (mixin : String) : List (String × String) :=
  [(mixin ++ "-recording-rules.yaml", Yaml.write (recordingDocument a.recording)),
    (mixin ++ "-alerting-rules.yaml", Yaml.write (alertingDocument a.alerting))]

def boardFiles (a : Artifacts) (mixin : String) : List (String × String) :=
  a.dashboards.map (fun row => (row.1 ++ ".json", dashboardText row.2)) ++
    [(mixin ++ "-summary.json", dashboardText a.summary)]

def contents (a : Artifacts) (mixin : String) (parts : Parts) :
    List (String × List (String × String)) :=
  (if parts.rules then [("prometheus-rules", ruleFiles a mixin)] else []) ++
    if parts.dashboards then [("grafana-dashboards", boardFiles a mixin)] else []

theorem ofArtifacts_steps (a : Artifacts) (output : Path) (mixin : String) (parts : Parts) :
    (ofArtifacts a output mixin parts).steps =
      (contents a mixin parts).flatMap fun part =>
        FileStep.batch (output / mixin / part.1) part.2 := by
  obtain ⟨rules, dashboards⟩ := parts
  cases rules <;> cases dashboards <;>
    simp [ofArtifacts, contents, ruleSteps, ruleFiles, dashboardSteps, boardFiles, FileStep.batch]

theorem ofArtifacts_folder (a : Artifacts) (output : Path) (mixin : String) (parts : Parts) :
    (ofArtifacts a output mixin parts).folder = output / mixin := rfl

theorem ofArtifacts_documents (a : Artifacts) (output : Path) (mixin : String) (parts : Parts) :
    (ofArtifacts a output mixin parts).documents = (contents a mixin parts).flatMap fun part =>
      part.2.map fun file => (output / mixin / part.1 / file.1, file.2) := by
  rw [documents, ofArtifacts_steps, List.filterMap_flatMap]
  congr 1
  funext part
  rw [FileStep.batch, List.filterMap_cons_none rfl, List.filterMap_map]
  exact congrFun List.filterMap_eq_map part.2

theorem contents_files {sub : String} {files more : List (String × String)}
    (one : (sub, files) ∈ contents a mixin parts) (two : (sub, more) ∈ contents a mixin parts) :
    files = more := by
  have apart : "grafana-dashboards" ≠ "prometheus-rules" := by decide
  obtain ⟨rules, dashboards⟩ := parts
  cases rules <;> cases dashboards <;> simp [contents] at one two <;> grind

theorem contents_ne_nil {part : String × List (String × String)}
    (contained : part ∈ contents a mixin parts) : part.2 ≠ [] := by
  rcases List.mem_append.mp contained with rules | boards
  · split at rules
    · cases List.mem_singleton.mp rules
      exact List.cons_ne_nil _ _
    · cases rules
  · split at boards
    · cases List.mem_singleton.mp boards
      exact List.append_ne_nil_of_right_ne_nil _ (List.cons_ne_nil _ _)
    · cases boards

theorem rules_contained (asked : parts.rules = true) :
    ("prometheus-rules", ruleFiles a mixin) ∈ contents a mixin parts := by
  simp [contents, asked]

theorem boards_contained (asked : parts.dashboards = true) :
    ("grafana-dashboards", boardFiles a mixin) ∈ contents a mixin parts := by
  simp [contents, asked]

theorem ofArtifacts_ends (asked : parts.dashboards = true) :
    ∃ before, (ofArtifacts a output mixin parts).documents = before ++
      [(output / mixin / "grafana-dashboards" / (mixin ++ "-summary.json"),
        dashboardText a.summary)] := by
  rw [ofArtifacts_documents, contents, if_pos asked, List.flatMap_append, List.flatMap_singleton,
    boardFiles, List.map_append, ← List.append_assoc]
  exact ⟨_, rfl⟩

theorem board_agrees (distinct : (a.dashboards.map (·.1)).Nodup) {product text : String}
    {d : Dashboard} (listed : (product, d) ∈ a.dashboards) (other : product ≠ mixin ++ "-summary")
    (among : (product ++ ".json", text) ∈ boardFiles a mixin) : text = dashboardText d := by
  rcases List.mem_append.mp among with board | summary
  · obtain ⟨row, shown, same⟩ := List.mem_map.mp board
    obtain ⟨names, rfl⟩ := Prod.mk.inj same
    have named : row.1 = product := (String.append_left_inj _).mp names
    rw [List.inj_on_of_nodup_map distinct shown listed named]
  · have named := congrArg Prod.fst (List.mem_singleton.mp summary)
    have ending : "-summary.json" = "-summary" ++ ".json" := by decide
    rw [ending, ← String.append_assoc] at named
    exact absurd ((String.append_left_inj _).mp named) other

theorem ofArtifacts_adds (a : Artifacts) (output : Path) (mixin : String) (parts : Parts) :
    (ofArtifacts a output mixin parts).Adds := by
  intro step among
  rw [ofArtifacts_steps] at among
  obtain ⟨part, _, own⟩ := List.mem_flatMap.mp among
  rcases List.mem_cons.mp own with rfl | written
  · trivial
  · obtain ⟨file, _, rfl⟩ := List.mem_map.mp written
    trivial

-- No file that is written is named like a path, by the mixin or by a product.
structure Slashless (a : Artifacts) (mixin : String) (parts : Parts) : Prop where
  mixin : '/' ∉ mixin.toList
  products : parts.dashboards = true → ∀ product ∈ a.dashboards.map (·.1), '/' ∉ product.toList

theorem rulesFolder_single : Path.Single "prometheus-rules" :=
  Path.single_of_long (by decide) (by decide)

theorem boardsFolder_single : Path.Single "grafana-dashboards" :=
  Path.single_of_long (by decide) (by decide)

theorem Slashless.contents_single (plain : Slashless a mixin parts) :
    ∀ part ∈ contents a mixin parts,
      Path.Single part.1 ∧ ∀ file ∈ part.2, Path.Single file.1 := by
  have suffixed {name : String} (whole : '/' ∉ name.toList) {ending : String}
      (plainEnding : ('/' ∉ ending.toList) ∧ 2 < ending.length) : Path.Single (name ++ ending) :=
    Path.single_suffixed whole plainEnding.1 plainEnding.2
  intro part listed
  rcases List.mem_append.mp listed with rules | boards
  · split at rules
    · cases List.mem_singleton.mp rules
      refine ⟨rulesFolder_single, ?_⟩
      simp only [ruleFiles, List.forall_mem_cons]
      exact ⟨suffixed plain.mixin (by decide), suffixed plain.mixin (by decide), by simp⟩
    · cases rules
  · split at boards
    · next asked =>
      cases List.mem_singleton.mp boards
      refine ⟨boardsFolder_single, fun file among => ?_⟩
      rcases List.mem_append.mp among with board | summary
      · obtain ⟨row, shown, rfl⟩ := List.mem_map.mp board
        exact suffixed (plain.products asked _ (List.mem_map_of_mem shown)) (by decide)
      · cases List.mem_singleton.mp summary
        exact suffixed plain.mixin (by decide)
    · cases boards

theorem Slashless.document_place (plain : Slashless a mixin parts) {document : Path × String}
    (listed : document ∈ (ofArtifacts a output mixin parts).documents) (home : Location) :
    ∃ sub name, document.1 = output / mixin / sub / name ∧
      document.1.place home = (output / mixin).place home ++ [sub, name] := by
  rw [ofArtifacts_documents] at listed
  obtain ⟨part, contained, own⟩ := List.mem_flatMap.mp listed
  obtain ⟨file, among, rfl⟩ := List.mem_map.mp own
  obtain ⟨sub, names⟩ := plain.contents_single part contained
  refine ⟨part.1, file.1, rfl, ?_⟩
  rw [Path.place_div _ (names file among), Path.place_div _ sub, List.append_assoc]
  rfl

theorem Slashless.place_injective (plain : Slashless a mixin parts) {one two : Path × String}
    (first : one ∈ (ofArtifacts a output mixin parts).documents)
    (second : two ∈ (ofArtifacts a output mixin parts).documents) {home : Location}
    (same : one.1.place home = two.1.place home) : one.1 = two.1 := by
  obtain ⟨sub, name, path, place⟩ := plain.document_place first home
  obtain ⟨sub', name', path', place'⟩ := plain.document_place second home
  rw [place, place', List.append_cancel_left_eq] at same
  cases same
  rw [path, path']

end Deployment

open Deployment in
-- What is found after a mixin has been written in full: nothing else has changed, and every
-- document is in the file of its name, but that a product can take the name of the summary.
structure Stored (a : Artifacts) (output : Path) (mixin : String) (parts : Parts)
    (t u : FileTree) : Prop where
  frame : FileTree.Changes (fun l => (output / mixin).place t.home <+: l) t u
  recording : parts.rules = true →
    u.read (output / mixin / "prometheus-rules" / (mixin ++ "-recording-rules.yaml")) =
      .ok (Yaml.write (recordingDocument a.recording))
  alerting : parts.rules = true →
    u.read (output / mixin / "prometheus-rules" / (mixin ++ "-alerting-rules.yaml")) =
      .ok (Yaml.write (alertingDocument a.alerting))
  boards : parts.dashboards = true → ∀ product d, (product, d) ∈ a.dashboards →
    product ≠ mixin ++ "-summary" →
      u.read (output / mixin / "grafana-dashboards" / (product ++ ".json")) =
        .ok (dashboardText d)
  summary : parts.dashboards = true →
    u.read (output / mixin / "grafana-dashboards" / (mixin ++ "-summary.json")) =
      .ok (dashboardText a.summary)

namespace FileTree

open Deployment

variable {t : FileTree} {a : Artifacts} {output : Path} {mixin : String} {parts : Parts}

theorem deploy_frame (t : FileTree) (output : Path) (plain : Slashless a mixin parts) :
    Changes (fun l => (output / mixin).place t.home <+: l) t
      (t.deploy (ofArtifacts a output mixin parts)).1.tree := by
  refine (deploy_changes t (ofArtifacts_adds a output mixin parts)).mono ?_
  rintro l (within | ⟨file, listed, rfl⟩)
  · exact within
  · rw [files_documents] at listed
    obtain ⟨document, among, rfl⟩ := List.mem_map.mp listed
    obtain ⟨sub, name, _, place⟩ := plain.document_place among t.home
    rw [place]
    exact List.prefix_append _ _

theorem deploy_document (plain : Slashless a mixin parts)
    (done : (t.deploy (ofArtifacts a output mixin parts)).1.fault = none) {file : Path} {s : String}
    (listed : (file, s) ∈ (ofArtifacts a output mixin parts).documents)
    (agree : ∀ text, (file, text) ∈ (ofArtifacts a output mixin parts).documents → text = s) :
    (t.deploy (ofArtifacts a output mixin parts)).1.tree.read file = .ok s := by
  obtain ⟨before, ⟨path, text⟩, after, split, own, later⟩ :=
    last_where (p := fun document => document.1 == file) listed (beq_self_eq_true file)
  obtain rfl : path = file := eq_of_beq own
  have among : (path, text) ∈ (ofArtifacts a output mixin parts).documents := by
    rw [split]
    exact List.mem_append_right _ List.mem_cons_self
  obtain rfl := agree text among
  refine deploy_read (ofArtifacts_adds a output mixin parts) done split fun other among' same => ?_
  have written : other ∈ (ofArtifacts a output mixin parts).documents := by
    rw [split]
    exact List.mem_append_right _ (List.mem_cons_of_mem _ among')
  exact ne_of_beq_false (later other among') (plain.place_injective written among same)

theorem deploy_file (plain : Slashless a mixin parts)
    (done : (t.deploy (ofArtifacts a output mixin parts)).1.fault = none)
    {sub name s : String} {files : List (String × String)}
    (contained : (sub, files) ∈ contents a mixin parts) (among : (name, s) ∈ files)
    (agree : ∀ text, (name, text) ∈ files → text = s) :
    (t.deploy (ofArtifacts a output mixin parts)).1.tree.read (output / mixin / sub / name) =
      .ok s := by
  have single := plain.contents_single
  have shape {sub name : String} {files : List (String × String)} {s : String}
      (contained : (sub, files) ∈ contents a mixin parts) (among : (name, s) ∈ files) :
      output / mixin / sub / name =
        ⟨(output / mixin).root, (output / mixin).names ++ [sub] ++ [name]⟩ := by
    obtain ⟨down, named⟩ := single _ contained
    rw [Path.div_single _ (named _ among), Path.div_single _ down]
  apply deploy_document plain done
  · rw [ofArtifacts_documents]
    exact List.mem_flatMap.mpr ⟨_, contained, List.mem_map.mpr ⟨_, among, rfl⟩⟩
  · intro text listed
    rw [ofArtifacts_documents] at listed
    obtain ⟨⟨sub', files'⟩, contained', own⟩ := List.mem_flatMap.mp listed
    obtain ⟨⟨name', text'⟩, among', same⟩ := List.mem_map.mp own
    have paths := congrArg Prod.fst same
    dsimp only at paths
    rw [shape contained' among', shape contained among] at paths
    cases congrArg Prod.snd same
    simp only [Path.mk.injEq, true_and, List.append_assoc, List.append_cancel_left_eq,
      List.cons_append, List.nil_append, List.cons.injEq, and_true] at paths
    obtain ⟨rfl, rfl⟩ := paths
    rw [contents_files contained' contained] at among'
    exact agree _ among'

theorem deploy_stored (plain : Slashless a mixin parts) (distinct : (a.dashboards.map (·.1)).Nodup)
    (done : (t.deploy (ofArtifacts a output mixin parts)).1.fault = none) :
    Stored a output mixin parts t (t.deploy (ofArtifacts a output mixin parts)).1.tree where
  frame := deploy_frame t output plain
  recording := by
    intro asked
    refine deploy_file plain done (rules_contained asked) List.mem_cons_self ?_
    simp [ruleFiles]
  alerting := by
    intro asked
    refine deploy_file plain done (rules_contained asked)
      (List.mem_cons_of_mem _ List.mem_cons_self) ?_
    simp [ruleFiles]
  boards := by
    intro asked product d listed other
    refine deploy_file plain done (boards_contained asked)
      (List.mem_append_left _ (List.mem_map_of_mem listed)) fun text among => ?_
    exact board_agrees distinct listed other among
  summary := by
    intro asked
    obtain ⟨before, split⟩ := ofArtifacts_ends (a := a) asked
    exact deploy_read (ofArtifacts_adds a output mixin parts) done split (by simp)

end FileTree

end SloCompiler
