import SloCompiler.Proofs.CommandRun

namespace SloCompiler

-- The text that is written last at a place.
def FileStep.lastText (home l : Location) : List FileStep → Option String
  | [] => none
  | .write file s :: later =>
    (lastText home l later).or (if file.place home = l then some s else none)
  | _ :: later => lastText home l later

-- A file in the folder of a deployment that does not see the folder, and that it does not write.
structure Deployment.Leaves (d : Deployment) (t : FileTree) (l : Location) (s : String) :
    Prop where
  unseen : t.isPresent d.folder = .ok false
  within : d.folder.place t.home <+: l
  unwritten : FileStep.lastText t.home l d.steps = none
  present : t.entry? l = some (.file s)

namespace FileTree

open FileStep (lastText)

variable {t u : FileTree} {l : Location} {p : Path} {s : String}

def AgreeWithin (l : Location) (t u : FileTree) : Prop :=
  ∀ m, l <+: m → ∀ s, t.entry? m = some (.file s) ↔ u.entry? m = some (.file s)

-- What trees hold at a place and below it are files that both have and files that each has left
-- over; they agree exactly if these last ones are the same.
theorem agreeWithin_iff {written : Location → Option String} {left left' : Location → String → Prop}
    (files : ∀ m, l <+: m → ∀ s, t.entry? m = some (.file s) ↔ written m = some s ∨ left m s)
    (files' : ∀ m, l <+: m → ∀ s, u.entry? m = some (.file s) ↔ written m = some s ∨ left' m s)
    (apart : ∀ m s, left m s → l <+: m ∧ written m = none)
    (apart' : ∀ m s, left' m s → l <+: m ∧ written m = none) :
    AgreeWithin l t u ↔ ∀ m s, left m s ↔ left' m s := by
  constructor
  · intro agree m s
    constructor
    · intro kept
      obtain ⟨within, unwritten⟩ := apart m s kept
      have present := (agree m within s).mp ((files m within s).mpr (.inr kept))
      refine ((files' m within s).mp present).resolve_left ?_
      simp [unwritten]
    · intro kept
      obtain ⟨within, unwritten⟩ := apart' m s kept
      have present := (agree m within s).mpr ((files' m within s).mpr (.inr kept))
      refine ((files m within s).mp present).resolve_left ?_
      simp [unwritten]
  · intro same m within s
    rw [files m within s, files' m within s, same m s]

theorem write_file (done : (t.write p s).fault = none) (l : Location) (text : String) :
    entry? (t.write p s).tree l = some (.file text) ↔
      (if p.place t.home = l then some s else none) = some text ∨
        ¬p.place t.home = l ∧ t.entry? l = some (.file text) := by
  cases write_cases t p s with
  | inl failed => exact absurd done failed.2
  | inr written =>
    obtain ⟨m, _, found, _, same⟩ := written
    obtain rfl := locate_place found
    rw [same, entry?_put]
    by_cases here : l = p.place t.home
    · simp [here]
    · simp [here, Ne.symm here]

theorem performAll_file {steps : List FileStep} (adds : ∀ step ∈ steps, step.Adds)
    (done : (t.performAll steps).fault = none) (l : Location) (s : String) :
    entry? (t.performAll steps).tree l = some (.file s) ↔
      lastText t.home l steps = some s ∨
        lastText t.home l steps = none ∧ t.entry? l = some (.file s) := by
  induction steps generalizing t with
  | nil => simp [performAll, inTurn, lastText]
  | cons step steps ih =>
    obtain ⟨one, others⟩ := List.forall_mem_cons.mp adds
    obtain ⟨first, onwards⟩ := performAll_cons_done done
    have home := (perform_changes t step).home
    rw [onwards] at done ⊢
    rw [ih others done, home]
    cases step with
    | remove folder => exact one.elim
    | makeFolder folder =>
      have furnishes := makeFolder_furnishes t folder
      rw [lastText, perform, furnishes.file_iff]
      · intro file text same
        cases same
    | write file text =>
      rw [lastText, perform, write_file first]
      cases lastText t.home l steps with
      | some later => simp
      | none =>
        by_cases here : file.place t.home = l
        · simp [here]
        · simp [here]

variable {d : Deployment}

theorem deploy_file_iff (rooted : t.Rooted) (adds : d.Adds) (done : (t.deploy d).1.fault = none)
    (under : d.folder.place t.home <+: l) :
    entry? (t.deploy d).1.tree l = some (.file s) ↔
      lastText t.home l d.steps = some s ∨ d.Leaves t l s := by
  cases seen : t.isPresent d.folder with
  | error fault =>
    rw [deploy_unseen seen] at done
    cases done
  | ok isPresent =>
    rw [deploy_seen seen] at done ⊢
    cases isPresent with
    | false =>
      have files := performAll_file adds done l s
      rw [Deployment.stepsFrom, if_neg Bool.false_ne_true, files]
      constructor
      · rintro (written | ⟨unwritten, present⟩)
        · exact .inl written
        · exact .inr ⟨seen, under, unwritten, present⟩
      · rintro (written | left)
        · exact .inl written
        · exact .inr ⟨left.unwritten, left.present⟩
    | true =>
      rw [Deployment.stepsFrom, if_pos rfl] at done ⊢
      obtain ⟨first, onwards⟩ := performAll_cons_done done
      have home := (remove_changes t d.folder).home
      have cleared := remove_gone rooted first l under
      rw [onwards] at done ⊢
      rw [performAll_file adds done, perform, home]
      constructor
      · rintro (written | ⟨_, present⟩)
        · exact .inl written
        · rw [cleared] at present
          cases present
      · rintro (written | left)
        · exact .inl written
        · have unseen := left.unseen
          rw [seen] at unseen
          cases unseen

theorem open_names {names : List String} (way : t.Open l names) :
    ∀ name ∈ names, name.utf8ByteSize ≤ nameLimit := by
  induction names generalizing l with
  | nil =>
    intro name listed
    cases listed
  | cons name names ih =>
    obtain ⟨_, size, rest⟩ := way
    refine List.forall_mem_cons.mpr ⟨?_, ih rest⟩
    cases size with
    | inl up =>
      rw [up]
      decide
    | inr short => exact short

theorem Holds.usable (holds : t.Holds p) (noNull : p.hasNull = false) : p.Usable := by
  obtain ⟨short, way, _⟩ := locate_ok.mp holds.located
  exact ⟨noNull, short, open_names way⟩

theorem createFolder_holds {made : FileTree} (created : t.createFolder p = .ok made) :
    p.hasNull = false ∧ made.Holds p := by
  have grows := (createFolder_furnishes created).grows
  obtain ⟨noNull, l, found, _, _, same⟩ := createFolder_ok.mp created
  obtain rfl := locate_place found
  have home := grows.home
  refine ⟨noNull, home ▸ grows.locate found, ?_⟩
  rw [home, ← same, entry?_put, if_pos rfl]

theorem orPresent_done {cause : FileFault} (done : (t.orPresent p cause).fault = none) :
    p.hasNull = false ∧ t.Holds p := by
  unfold orPresent isFolder test at done
  cases null : p.hasNull with
  | true => simp [null] at done
  | false =>
    rw [null, if_neg Bool.false_ne_true] at done
    cases found : t.find p with
    | error cause =>
      rw [found] at done
      cases cause <;> cases done
    | ok there =>
      obtain ⟨l, e⟩ := there
      obtain ⟨located, present⟩ := find_ok.mp found
      obtain rfl := locate_place located
      rw [found] at done
      cases e with
      | file text => cases done
      | folder => exact ⟨rfl, located, present⟩

theorem makeLastFolder_done (done : (t.makeLastFolder p).fault = none) :
    p.hasNull = false ∧ (t.makeLastFolder p).tree.Holds p := by
  unfold makeLastFolder at done ⊢
  split at done
  · next created => exact createFolder_holds created
  · cases done
  · rw [orPresent_tree]
    exact orPresent_done done
  · cases done

theorem makeFolder_done (done : (t.makeFolder p).fault = none) :
    p.hasNull = false ∧ (t.makeFolder p).tree.Holds p := by
  fun_induction makeFolder t p with
  | case1 p made created => exact createFolder_holds created
  | case2 p => cases done
  | case3 p _ _ _ =>
    obtain ⟨first, last⟩ := FileOutcome.andThen_done.mp done
    rw [FileOutcome.andThen_eq first]
    exact makeLastFolder_done last
  | case4 p =>
    rw [orPresent_tree]
    exact orPresent_done done
  | case5 p => cases done

open Deployment

variable {a : Artifacts} {output : Path} {mixin : String} {parts : Parts}

theorem contents_first (a : Artifacts) (mixin : String)
    (asked : parts.rules = true ∨ parts.dashboards = true) :
    ∃ sub files others, Path.Single sub ∧ contents a mixin parts = (sub, files) :: others := by
  unfold contents
  by_cases rules : parts.rules = true
  · rw [if_pos rules]
    exact ⟨_, _, _, rulesFolder_single, rfl⟩
  · rw [if_neg rules, if_pos (asked.resolve_left rules)]
    exact ⟨_, _, _, boardsFolder_single, rfl⟩

theorem steps_first (a : Artifacts) (output : Path) (mixin : String)
    (asked : parts.rules = true ∨ parts.dashboards = true) :
    ∃ sub rest, Path.Single sub ∧
      (ofArtifacts a output mixin parts).steps = .makeFolder (output / mixin / sub) :: rest := by
  obtain ⟨sub, files, others, single, shape⟩ := contents_first a mixin asked
  rw [ofArtifacts_steps, shape, List.flatMap_cons, FileStep.batch, List.cons_append]
  exact ⟨sub, _, single, rfl⟩

-- Nothing is left where no way leads up behind a name.
theorem not_leaves (formed : t.Formed) (straight : (output / mixin).Straight)
    (asked : parts.rules = true ∨ parts.dashboards = true)
    (done : (t.deploy (ofArtifacts a output mixin parts)).1.fault = none) :
    ¬(ofArtifacts a output mixin parts).Leaves t l s := by
  intro left
  have seen := left.unseen
  obtain ⟨sub, rest, single, steps⟩ := steps_first a output mixin asked
  rw [deploy_seen (d := ofArtifacts a output mixin parts) seen, stepsFrom,
    if_neg Bool.false_ne_true, steps] at done
  obtain ⟨noNull, holds⟩ := makeFolder_done (performAll_cons_done done).1
  have usable := (holds.usable noNull).parent
  rw [Path.div_parent _ single] at usable
  have absent := formed.isPresent_false straight usable seen
  have present := left.present
  rw [formed.bare absent left.within] at present
  cases present

end FileTree

end SloCompiler
