import SloCompiler.Proofs.StraightPaths

namespace SloCompiler

namespace FileTree

variable {t : FileTree} {l m : Location} {p : Path}

theorem remove_done (rooted : t.Rooted) (straight : p.Straight) (apart : ¬p.place t.home <+: t.home)
    (found : t.locate p = .ok (p.place t.home))
    (folder : t.entry? (p.place t.home) = some .folder)
    (allowed : t.refuses .remove (p.place t.home) = false)
    (removable : t.Removable t.reach (p.place t.home)) : (t.remove p).fault = none := by
  have removes := removes_within t.reach
  have sheds := removes.sheds t (p.place t.home)
  have again : (removeWithin t.reach t (p.place t.home)).tree.locate p =
      .ok (p.place t.home) := by
    obtain ⟨short, way, _⟩ := locate_ok.mp found
    rw [locate_ok, sheds.home]
    refine ⟨short, open_congr way fun names before => sheds.elsewhere ?_, rfl⟩
    -- The way to the folder leads through nothing that is in it.
    intro ⟨under, other⟩
    rcases straight.passes_cases ⟨names, before, rfl⟩ with above | onTheWay
    · exact apart (under.trans above)
    · exact other (onTheWay.eq_of_length_le under.length_le)
  have ending : ∃ name, p.names.getLast? = some name ∧ name ≠ ".." := by
    cases last : p.downs.getLast? with
    | none =>
      rw [straight.place_eq, List.getLast?_eq_none_iff.mp last, List.append_nil] at apart
      exact absurd (p.top_above _) apart
    | some name =>
      refine ⟨name, ?_, straight.down name (List.mem_of_getLast? last)⟩
      rw [← p.ups_downs, List.getLast?_append, last, Option.some_or]
  obtain ⟨name, last, other⟩ := ending
  have unlinked : (removeWithin t.reach t (p.place t.home)).tree.removeFolder p =
      (removeWithin t.reach t (p.place t.home)).tree.unlink (p.place t.home) := by
    simp only [removeFolder, again, last]
  rw [remove, find_ok.mpr ⟨found, folder⟩]
  refine FileOutcome.andThen_done.mpr ⟨(removes.done t _ rooted).mpr removable, ?_⟩
  rw [unlinked, unlink_done, sheds.refuses]
  exact allowed

-- A tree in which the folder of a mixin can be filled: folders in it and files in these.
structure Tidy (folder : Path) (f : Location) (refuses : FileChange → Location → Bool)
    (t : FileTree) : Prop where
  place : folder.place t.home = f
  system : t.refuses = refuses
  apart : ¬f <+: t.home
  above_home : ∀ l, l <+: t.home → t.entry? l = some .folder
  way : ∀ l, l <+: f → ∀ s, t.entry? l ≠ some (.file s)
  missing : ∀ l, l <+: f → t.entry? l = none → refuses .make l = false
  inside : ∀ sub s, t.entry? (f ++ [sub]) ≠ some (.file s)
  deeper : ∀ sub name, t.entry? (f ++ [sub, name]) ≠ some .folder

structure Room (folder : Path) (f : Location) (refuses : FileChange → Location → Bool)
    (part : String × List (String × String)) : Prop where
  single : Path.Single part.1
  usable : (folder / part.1).Usable
  allowed : refuses .make (f ++ [part.1]) = false
  files : ∀ file ∈ part.2, Path.Single file.1 ∧ (folder / part.1 / file.1).Usable ∧
    refuses .write (f ++ [part.1, file.1]) = false

namespace Tidy

variable {folder : Path} {f : Location} {refuses : FileChange → Location → Bool}
  {part : String × List (String × String)} {name : String}

theorem clear (tidy : Tidy folder f refuses t) (straight : folder.Straight)
    (room : Room folder f refuses part) : t.Clear (folder / part.1) := by
  have passed : ∀ l, (folder / part.1).Passes t.home l →
      t.entry? l = some .folder ∨ l = f ++ [part.1] ∨ l <+: f := by
    intro l passes
    rcases (straight.div room.single).passes_cases passes with above | onTheWay
    · exact .inl (tidy.above_home l above)
    · rw [Path.place_div _ room.single, tidy.place, List.prefix_concat_iff] at onTheWay
      exact .inr onTheWay
  constructor
  · intro l passes s file
    rcases passed l passes with folder | rfl | before
    · rw [folder] at file
      cases file
    · exact tidy.inside part.1 s file
    · exact tidy.way l before s file
  · intro l passes absent
    rw [tidy.system]
    rcases passed l passes with folder | rfl | before
    · rw [folder] at absent
      cases absent
    · exact room.allowed
    · exact tidy.missing l before absent

theorem makeFolder (tidy : Tidy folder f refuses t) (straight : folder.Straight)
    (room : Room folder f refuses part) :
    (t.makeFolder (folder / part.1)).fault = none ∧
      (t.makeFolder (folder / part.1)).tree.Holds (folder / part.1) ∧
        Tidy folder f refuses (t.makeFolder (folder / part.1)).tree := by
  obtain ⟨done, holds⟩ := makeFolder_succeeds room.usable (tidy.clear straight room)
  have furnishes := makeFolder_furnishes t (folder / part.1)
  refine ⟨done, holds, ?_⟩
  constructor
  · rw [furnishes.home]
    exact tidy.place
  · exact furnishes.refuses.trans tidy.system
  · rw [furnishes.home]
    exact tidy.apart
  · rw [furnishes.home]
    exact fun l above => furnishes.grows.folders l (tidy.above_home l above)
  · exact fun l before s file => tidy.way l before s (furnishes.file_iff.mp file)
  · exact fun l before absent => tidy.missing l before (furnishes.absent absent)
  · exact fun sub s file => tidy.inside sub s (furnishes.file_iff.mp file)
  · intro other name present
    rcases furnishes.entries (f ++ [other, name]) with same | ⟨passes, _⟩
    · exact tidy.deeper other name (same ▸ present)
    · rcases (straight.div room.single).passes_cases passes with above | onTheWay
      · exact tidy.apart ((List.prefix_append f _).trans above)
      · rw [Path.place_div _ room.single, tidy.place, List.prefix_append_right_inj] at onTheWay
        simpa using onTheWay.length_le

theorem write (tidy : Tidy folder f refuses t) (room : Room folder f refuses part)
    (holds : t.Holds (folder / part.1)) {file : String × String} (among : file ∈ part.2) :
    (t.write (folder / part.1 / file.1) file.2).fault = none ∧
      (t.write (folder / part.1 / file.1) file.2).tree.Holds (folder / part.1) ∧
        Tidy folder f refuses (t.write (folder / part.1 / file.1) file.2).tree := by
  obtain ⟨named, usable, allowed⟩ := room.files file among
  have place : (folder / part.1 / file.1).place t.home = f ++ [part.1, file.1] := by
    rw [Path.place_div _ named, Path.place_div _ room.single, tidy.place, List.append_assoc]
    rfl
  have located : t.locate (folder / part.1 / file.1) = .ok (f ++ [part.1, file.1]) := by
    rw [← place]
    refine Holds.locate_child ?_ usable ?_
    · rw [Path.div_parent _ named]
      exact holds
    · simp [Path.div_single _ named]
  rw [← tidy.system] at allowed
  have written := write_done (s := file.2) usable.noNull located (tidy.deeper part.1 file.1) allowed
  have grows := write_grows t (folder / part.1 / file.1) file.2
  rw [written] at grows ⊢
  refine ⟨rfl, holds.grows grows, tidy.place, tidy.system, tidy.apart, ?_, ?_, ?_, ?_, ?_⟩
  · exact fun l above => grows.folders l (tidy.above_home l above)
  · intro l before text file
    rw [entry?_put] at file
    split at file
    · next same =>
      rw [same] at before
      exact absurd before (append_not_within f)
    · exact tidy.way l before text file
  · intro l before absent
    rw [entry?_put] at absent
    split at absent
    · cases absent
    · exact tidy.missing l before absent
  · intro other text file
    rw [entry?_put, if_neg (by simp)] at file
    exact tidy.inside other text file
  · intro other another present
    rw [entry?_put] at present
    split at present
    · cases present
    · exact tidy.deeper other another present

theorem writeAll (tidy : Tidy folder f refuses t) (room : Room folder f refuses part)
    (holds : t.Holds (folder / part.1)) {files : List (String × String)}
    (each : ∀ file ∈ files, file ∈ part.2) :
    (t.performAll (files.map fun file => .write (folder / part.1 / file.1) file.2)).fault = none ∧
      Tidy folder f refuses
        (t.performAll (files.map fun file => .write (folder / part.1 / file.1) file.2)).tree := by
  induction files generalizing t with
  | nil => exact ⟨rfl, tidy⟩
  | cons file files ih =>
    obtain ⟨among, others⟩ := List.forall_mem_cons.mp each
    obtain ⟨done, still, onwards⟩ := tidy.write room holds among
    rw [List.map_cons, performAll_cons t (.write (folder / part.1 / file.1) file.2) _ done]
    exact ih onwards still others

theorem fill (tidy : Tidy folder f refuses t) (straight : folder.Straight)
    (room : Room folder f refuses part) :
    (t.performAll (FileStep.batch (folder / part.1) part.2)).fault = none ∧
      Tidy folder f refuses (t.performAll (FileStep.batch (folder / part.1) part.2)).tree := by
  obtain ⟨done, holds, onwards⟩ := tidy.makeFolder straight room
  rw [FileStep.batch, performAll_cons t (.makeFolder (folder / part.1)) _ done]
  exact onwards.writeAll room holds fun file among => among

theorem fillAll (tidy : Tidy folder f refuses t) (straight : folder.Straight)
    {parts : List (String × List (String × String))}
    (each : ∀ part ∈ parts, Room folder f refuses part) :
    (t.performAll (parts.flatMap fun part => FileStep.batch (folder / part.1) part.2)).fault =
      none := by
  induction parts generalizing t with
  | nil => rfl
  | cons part parts ih =>
    obtain ⟨room, others⟩ := List.forall_mem_cons.mp each
    obtain ⟨done, onwards⟩ := tidy.fill straight room
    rw [List.flatMap_cons, performAll_append, FileOutcome.andThen_eq done]
    exact ih onwards others

end Tidy

-- A file in the way of a folder stops its creation before anything is made.
theorem makeFolder_blocked (formed : t.Formed) (straight : p.Straight) (usable : p.Usable)
    {s : String} (file : t.entry? l = some (.file s)) (before : l <+: p.place t.home)
    (apart : l ≠ p.place t.home) :
    (t.makeFolder p).tree = t ∧ (t.makeFolder p).fault ≠ none := by
  have blocked := formed.locate_blocked straight usable file before apart
  have failed : t.createFolder p = .error (.file .notDirectory) := by
    rw [createFolder, usable.noNull, blocked]
    rfl
  have nothing : t.find p = .error .notDirectory := by
    rw [find, blocked]
    rfl
  have noFolder : t.isFolder p = .ok false := by
    rw [isFolder, test, usable.noNull, nothing]
    rfl
  have stopped : t.makeFolder p = ⟨t, some (.file .notDirectory)⟩ := by
    rw [FileTree.makeFolder, failed]
    dsimp only
    rw [orPresent, noFolder]
  rw [stopped]
  exact ⟨rfl, by simp⟩

end FileTree

open Deployment in
-- A mixin whose folder and files can be made wherever no file is in the way.
structure Fits (a : Artifacts) (output : Path) (mixin : String) (parts : Parts)
    (home : Location) : Prop where
  plain : Slashless a mixin parts
  straight : (output / mixin).Straight
  apart : ¬(output / mixin).place home <+: home
  usable : ∀ file ∈ (ofArtifacts a output mixin parts).files, file.Usable

namespace Deployment

-- The system lets a deployment do all that it has to: take away what is in its folder, make the
-- folders that its files need and are missing then, and write the files.
structure Permitted (d : Deployment) (t : FileTree) : Prop where
  removal : ∀ l, d.folder.place t.home <+: l → t.entry? l ≠ none →
    t.refuses .remove l = false ∧ l.length ≤ (d.folder.place t.home).length + t.reach
  folders : ∀ file ∈ d.files, ∀ l, l <+: file.parent.place t.home →
    (d.folder.place t.home <+: l ∨ t.entry? l = none) → t.refuses .make l = false
  files : ∀ file ∈ d.files, t.refuses .write (file.place t.home) = false

variable {a : Artifacts} {output : Path} {mixin : String} {parts : Parts}

theorem contents_listed {part : String × List (String × String)}
    (contained : part ∈ contents a mixin parts) {entry : String × String} (among : entry ∈ part.2) :
    output / mixin / part.1 / entry.1 ∈ (ofArtifacts a output mixin parts).files := by
  rw [files_documents, ofArtifacts_documents]
  exact List.mem_map.mpr ⟨_, List.mem_flatMap.mpr ⟨part, contained, List.mem_map_of_mem among⟩, rfl⟩

end Deployment

namespace Fits

open Deployment

variable {a : Artifacts} {output : Path} {mixin : String} {parts : Parts} {home : Location}
  {part : String × List (String × String)}

theorem parent (fits : Fits a output mixin parts home) (contained : part ∈ contents a mixin parts) :
    ∃ file ∈ (ofArtifacts a output mixin parts).files, file.parent = output / mixin / part.1 := by
  have files := (fits.plain.contents_single part contained).2
  obtain ⟨entry, among⟩ := List.exists_mem_of_ne_nil _ (contents_ne_nil contained)
  exact ⟨_, contents_listed contained among, Path.div_parent _ (files entry among)⟩

theorem sub (fits : Fits a output mixin parts home) (contained : part ∈ contents a mixin parts) :
    (output / mixin / part.1).Usable := by
  obtain ⟨file, listed, above⟩ := fits.parent contained
  exact above ▸ (fits.usable file listed).parent

theorem folder (fits : Fits a output mixin parts home) (contained : part ∈ contents a mixin parts) :
    (output / mixin).Usable := by
  have usable := (fits.sub contained).parent
  rwa [Path.div_parent _ (fits.plain.contents_single part contained).1] at usable

theorem makes {t : FileTree} {l : Location} (fits : Fits a output mixin parts t.home)
    (permitted : (ofArtifacts a output mixin parts).Permitted t)
    (contained : part ∈ contents a mixin parts)
    (before : l <+: (output / mixin).place t.home ++ [part.1])
    (missing : (output / mixin).place t.home <+: l ∨ t.entry? l = none) :
    t.refuses .make l = false := by
  obtain ⟨file, listed, above⟩ := fits.parent contained
  refine permitted.folders file listed l ?_ missing
  rwa [above, Path.place_div _ (fits.plain.contents_single part contained).1]

theorem room {t : FileTree} (fits : Fits a output mixin parts t.home)
    (permitted : (ofArtifacts a output mixin parts).Permitted t)
    (contained : part ∈ contents a mixin parts) :
    FileTree.Room (output / mixin) ((output / mixin).place t.home) t.refuses part := by
  obtain ⟨single, files⟩ := fits.plain.contents_single part contained
  refine ⟨single, fits.sub contained, ?_, fun file among => ?_⟩
  · exact fits.makes permitted contained (List.prefix_refl _) (.inl (List.prefix_append _ _))
  · have listed : output / mixin / part.1 / file.1 ∈ (ofArtifacts a output mixin parts).files :=
      contents_listed contained among
    have written := permitted.files _ listed
    rw [Path.place_div _ (files file among), Path.place_div _ single, List.append_assoc] at written
    exact ⟨files file among, fits.usable _ listed, written⟩

end Fits

namespace FileTree

open Deployment

variable {t : FileTree} {a : Artifacts} {output : Path} {mixin : String} {parts : Parts}
  {part : String × List (String × String)}

theorem Tidy.fills {u : FileTree}
    (tidy : Tidy (output / mixin) ((output / mixin).place t.home) t.refuses u)
    (fits : Fits a output mixin parts t.home)
    (permitted : (ofArtifacts a output mixin parts).Permitted t) :
    (u.performAll (ofArtifacts a output mixin parts).steps).fault = none := by
  rw [ofArtifacts_steps]
  exact tidy.fillAll fits.straight fun part contained => fits.room permitted contained

-- Where nothing lies in the folder of a mixin, the mixin is written in full or not at all.
theorem performAll_bare (formed : t.Formed) (fits : Fits a output mixin parts t.home)
    (permitted : (ofArtifacts a output mixin parts).Permitted t)
    (contained : part ∈ contents a mixin parts)
    (absent : t.entry? ((output / mixin).place t.home) = none) :
    (t.performAll (ofArtifacts a output mixin parts).steps).fault = none ∨
      (t.performAll (ofArtifacts a output mixin parts).steps).tree = t := by
  by_cases blocked : ∃ l s, l <+: (output / mixin).place t.home ∧ t.entry? l = some (.file s)
  · -- A file on the way stops the first folder before anything is made.
    obtain ⟨l, s, before, file⟩ := blocked
    rw [ofArtifacts_steps]
    cases shape : contents a mixin parts with
    | nil => exact .inl rfl
    | cons part others =>
      have contained : part ∈ contents a mixin parts := by
        rw [shape]
        exact List.mem_cons_self
      have single := (fits.plain.contents_single part contained).1
      have deeper := Path.place_div (output / mixin) single t.home
      have apart : l ≠ (output / mixin / part.1).place t.home := by
        rintro rfl
        rw [deeper] at before
        exact append_not_within _ before
      obtain ⟨same, failed⟩ := makeFolder_blocked formed (fits.straight.div single)
        (fits.sub contained) file (deeper ▸ before.trans (List.prefix_append _ _)) apart
      right
      rw [List.flatMap_cons, FileStep.batch, List.cons_append, performAll_failed, perform, same]
      exact failed
  · refine .inl (Tidy.fills ⟨rfl, rfl, fits.apart, ?_, ?_, ?_, ?_, ?_⟩ fits permitted)
    · exact fun l above => formed.above_home above
    · exact fun l before s file => blocked ⟨l, s, before, file⟩
    · intro l before missing
      exact fits.makes permitted contained (before.trans (List.prefix_append _ _)) (.inr missing)
    · intro sub s file
      rw [formed.bare absent (List.prefix_append _ _)] at file
      cases file
    · intro sub name folder
      rw [formed.bare absent (List.prefix_append _ _)] at folder
      cases folder

theorem remove_tidy (formed : t.Formed) (fits : Fits a output mixin parts t.home)
    (permitted : (ofArtifacts a output mixin parts).Permitted t)
    (contained : part ∈ contents a mixin parts)
    (folder : t.entry? ((output / mixin).place t.home) = some .folder)
    (done : (t.remove (output / mixin)).fault = none) :
    Tidy (output / mixin) ((output / mixin).place t.home) t.refuses
      (t.remove (output / mixin)).tree := by
  have sheds := remove_sheds t (output / mixin)
  have gone := remove_gone formed.parents done
  constructor
  · rw [sheds.home]
  · exact sheds.refuses
  · rw [sheds.home]
    exact fits.apart
  · intro l above
    rw [sheds.home] at above
    rw [sheds.elsewhere fun under => fits.apart (under.trans above)]
    exact formed.above_home above
  · intro l before s file
    by_cases under : (output / mixin).place t.home <+: l
    · rw [gone l under] at file
      cases file
    · rw [sheds.elsewhere under] at file
      rcases formed.above before (by simp [folder]) with rfl | present
      · exact under (List.prefix_refl _)
      · rw [present] at file
        cases file
  · intro l before missing
    refine fits.makes permitted contained (before.trans (List.prefix_append _ _)) ?_
    by_cases under : (output / mixin).place t.home <+: l
    · exact .inl under
    · exact .inr (sheds.elsewhere under ▸ missing)
  · intro sub s file
    rw [gone _ (List.prefix_append _ _)] at file
    cases file
  · intro sub name present
    rw [gone _ (List.prefix_append _ _)] at present
    cases present

theorem deploy_replaces (formed : t.Formed) (fits : Fits a output mixin parts t.home)
    (permitted : (ofArtifacts a output mixin parts).Permitted t)
    (contained : part ∈ contents a mixin parts) :
    (t.deploy (ofArtifacts a output mixin parts)).1.fault = none ∨
      (t.deploy (ofArtifacts a output mixin parts)).1.tree = t := by
  cases seen : t.isPresent (output / mixin) with
  | error fault =>
    rw [deploy_unseen (d := ofArtifacts a output mixin parts) seen]
    exact .inr rfl
  | ok isPresent =>
    rw [deploy_seen (d := ofArtifacts a output mixin parts) seen]
    cases isPresent with
    | false =>
      have absent := formed.isPresent_false fits.straight (fits.folder contained) seen
      rw [stepsFrom, if_neg Bool.false_ne_true]
      exact performAll_bare formed fits permitted contained absent
    | true =>
      rw [stepsFrom, if_pos rfl]
      obtain ⟨e, found⟩ := isPresent_true seen
      obtain ⟨located, entry⟩ := find_ok.mp found
      cases e with
      | file s =>
        have kept : t.perform (.remove (ofArtifacts a output mixin parts).folder) =
            ⟨t, some (.file .notDirectory)⟩ := by
          rw [perform, ofArtifacts_folder, remove, found]
        right
        rw [performAll_failed t _ _ (by simp [kept]), kept]
      | folder =>
        left
        have free : t.refuses .remove ((output / mixin).place t.home) = false :=
          (permitted.removal _ (List.prefix_refl _) (Option.ne_none_iff_exists'.mpr ⟨_, entry⟩)).1
        have removable : t.Removable t.reach ((output / mixin).place t.home) :=
          fun l beneath present => permitted.removal l beneath.1 present
        have done := remove_done formed.parents fits.straight fits.apart located entry free removable
        rw [performAll_cons t (.remove (ofArtifacts a output mixin parts).folder) _ done]
        exact (remove_tidy formed fits permitted contained entry done).fills fits permitted

end FileTree

end SloCompiler
