import SloCompiler.Deployment
import SloCompiler.Proofs.Removal

namespace SloCompiler

namespace FileStep

def Reaches (home : Location) : FileStep → Location → Prop
  | .remove folder, l => folder.place home <+: l
  | .makeFolder _, _ => False
  | .write file _, l => l = file.place home

def Adds : FileStep → Prop
  | .remove _ => False
  | .makeFolder _ => True
  | .write _ _ => True

end FileStep

namespace FileTree

variable {t t' : FileTree} {step : FileStep} {steps before after : List FileStep}

theorem write_changes (t : FileTree) (p : Path) (s : String) :
    Changes (fun l => l = p.place t.home) t (t.write p s).tree := by
  rcases write_cases t p s with ⟨same, _⟩ | ⟨l, _, found, _, written⟩
  · rw [same]
    exact .refl _ t
  · rw [written]
    obtain rfl := locate_place found
    refine ⟨rfl, fun m elsewhere s => ?_⟩
    rw [entry?_put, if_neg elsewhere]

theorem write_grows (t : FileTree) (p : Path) (s : String) : Grows t (t.write p s).tree := by
  rcases write_cases t p s with ⟨same, _⟩ | ⟨l, _, _, other, written⟩
  · rw [same]
    exact .refl t
  · rw [written]
    refine ⟨rfl, fun m folder => ?_⟩
    rw [entry?_put, if_neg]
    · exact folder
    · rintro rfl
      exact other folder

theorem perform_changes (t : FileTree) (step : FileStep) :
    Changes (step.Reaches t.home) t (t.perform step).tree := by
  cases step with
  | remove folder => exact remove_changes t folder
  | makeFolder folder => exact (makeFolder_furnishes t folder).changes _
  | write file s => exact write_changes t file s

theorem perform_grows (t : FileTree) (adds : step.Adds) : Grows t (t.perform step).tree := by
  cases step with
  | remove folder => exact adds.elim
  | makeFolder folder => exact (makeFolder_furnishes t folder).grows
  | write file s => exact write_grows t file s

theorem performAll_andThen (t : FileTree) (step : FileStep) (steps : List FileStep) :
    t.performAll (step :: steps) = (t.perform step).andThen fun t => t.performAll steps := rfl

theorem performAll_cons (t : FileTree) (step : FileStep) (steps : List FileStep)
    (done : (t.perform step).fault = none) :
    t.performAll (step :: steps) = (t.perform step).tree.performAll steps := by
  rw [performAll_andThen, FileOutcome.andThen_eq done]

theorem performAll_failed (t : FileTree) (step : FileStep) (steps : List FileStep)
    (failed : (t.perform step).fault ≠ none) : t.performAll (step :: steps) = t.perform step := by
  rw [performAll_andThen, FileOutcome.andThen, if_pos (Option.isSome_iff_ne_none.mpr failed)]

theorem performAll_changes (t : FileTree) (steps : List FileStep) :
    Changes (fun l => ∃ step ∈ steps, step.Reaches t.home l) t (t.performAll steps).tree := by
  induction steps generalizing t with
  | nil => exact .refl _ t
  | cons step steps ih =>
    have first :
        Changes (fun l => ∃ s ∈ step :: steps, s.Reaches t.home l) t (t.perform step).tree :=
      (perform_changes t step).mono fun l reaches => ⟨step, List.mem_cons_self, reaches⟩
    refine FileOutcome.andThen_tree first (first.trans ((ih _).mono ?_))
    intro l ⟨s, among, reaches⟩
    exact ⟨s, List.mem_cons_of_mem _ among, first.home ▸ reaches⟩

theorem performAll_grows (t : FileTree) (adds : ∀ step ∈ steps, step.Adds) :
    Grows t (t.performAll steps).tree := by
  induction steps generalizing t with
  | nil => exact .refl t
  | cons step steps ih =>
    obtain ⟨one, others⟩ := List.forall_mem_cons.mp adds
    have first := perform_grows t one
    exact FileOutcome.andThen_tree first (first.trans (ih _ others))

theorem performAll_append (t : FileTree) (before after : List FileStep) :
    t.performAll (before ++ after) =
      (t.performAll before).andThen fun t => t.performAll after := by
  induction before generalizing t with
  | nil => rfl
  | cons step before ih =>
    rw [List.cons_append, performAll_andThen, performAll_andThen, FileOutcome.andThen_assoc]
    simp only [ih]

theorem performAll_append_done (done : (t.performAll (before ++ after)).fault = none) :
    (t.performAll before).fault = none ∧
      t.performAll (before ++ after) = (t.performAll before).tree.performAll after := by
  rw [performAll_append] at done ⊢
  have first := (FileOutcome.andThen_done.mp done).1
  exact ⟨first, FileOutcome.andThen_eq first⟩

theorem performAll_cons_done (done : (t.performAll (step :: steps)).fault = none) :
    (t.perform step).fault = none ∧
      t.performAll (step :: steps) = (t.perform step).tree.performAll steps := by
  have first := (FileOutcome.andThen_done.mp done).1
  exact ⟨first, performAll_cons t step steps first⟩

-- A text stays where it is written as long as no later step comes to its place.
theorem performAll_read {p : Path} {s : String} (adds : ∀ step ∈ after, step.Adds)
    (last : ∀ step ∈ after, ¬step.Reaches t.home (p.place t.home))
    (done : (t.performAll (.write p s :: after)).fault = none) :
    (t.performAll (.write p s :: after)).tree.read p = .ok s := by
  obtain ⟨first, onwards⟩ := performAll_cons_done done
  rw [onwards]
  rcases write_cases t p s with ⟨_, failed⟩ | ⟨l, noNull, found, _, written⟩
  · exact absurd first failed
  · have home := (write_changes t p s).home
    have grows := (write_grows t p s).trans (performAll_grows _ adds)
    have kept := performAll_changes (t.write p s).tree after
    refine read_ok.mpr ⟨noNull, l, grows.locate found, (kept.files l ?_ s).mpr ?_⟩
    · rintro ⟨step, among, reaches⟩
      rw [home, locate_place found] at reaches
      exact last step among reaches
    · rw [written, entry?_put, if_pos rfl]

end FileTree

namespace Deployment

variable {t : FileTree} {d : Deployment}

def documents (d : Deployment) : List (Path × String) :=
  d.steps.filterMap fun
    | .write file s => some (file, s)
    | _ => none

theorem files_documents (d : Deployment) : d.files = d.documents.map (·.1) := by
  unfold files documents
  rw [List.map_filterMap]
  congr 1
  funext step
  cases step <;> rfl

theorem mem_documents {file : Path} {s : String} :
    (file, s) ∈ d.documents ↔ .write file s ∈ d.steps := by
  unfold documents
  rw [List.mem_filterMap]
  constructor
  · rintro ⟨step, among, same⟩
    cases step <;> cases same
    exact among
  · intro among
    exact ⟨_, among, rfl⟩

-- A deployment that only adds to its folder once this is cleared.
def Adds (d : Deployment) : Prop := ∀ step ∈ d.steps, step.Adds

theorem reaches_files (adds : d.Adds) {home l : Location}
    (reached : ∃ step ∈ d.steps, step.Reaches home l) : ∃ file ∈ d.files, l = file.place home := by
  obtain ⟨step, among, reaches⟩ := reached
  cases step with
  | remove folder => exact (adds _ among).elim
  | makeFolder folder => exact reaches.elim
  | write file s =>
    rw [files_documents]
    exact ⟨file, List.mem_map_of_mem (mem_documents.mpr among), reaches⟩

theorem documents_split {before after : List (Path × String)} {file : Path} {s : String}
    (split : d.documents = before ++ (file, s) :: after) :
    ∃ first rest, d.steps = first ++ .write file s :: rest ∧
      ∀ other text, .write other text ∈ rest → (other, text) ∈ after := by
  obtain ⟨first, second, whole, _, later⟩ := List.filterMap_eq_append_iff.mp split
  obtain ⟨skipped, step, rest, rfl, _, written, others⟩ := List.filterMap_eq_cons_iff.mp later
  cases step with
  | remove folder => cases written
  | makeFolder folder => cases written
  | write file s =>
    cases written
    refine ⟨first ++ skipped, rest, by rw [whole, List.append_assoc], fun other text among => ?_⟩
    rw [← others, List.mem_filterMap]
    exact ⟨_, among, rfl⟩

end Deployment

namespace FileTree

variable {t : FileTree} {d : Deployment}

theorem deploy_unseen {fault : Fault} (seen : t.isPresent d.folder = .error fault) :
    (t.deploy d).1 = ⟨t, some fault⟩ := by
  rw [deploy, seen]

theorem deploy_seen {isPresent : Bool} (seen : t.isPresent d.folder = .ok isPresent) :
    (t.deploy d).1 = t.performAll (d.stepsFrom isPresent) := by
  rw [deploy, seen]

theorem deploy_changes (t : FileTree) (adds : d.Adds) :
    Changes (fun l => d.folder.place t.home <+: l ∨ ∃ file ∈ d.files, l = file.place t.home) t
      (t.deploy d).1.tree := by
  cases seen : t.isPresent d.folder with
  | error fault =>
    rw [deploy_unseen seen]
    exact .refl _ t
  | ok isPresent =>
    rw [deploy_seen seen]
    refine (performAll_changes t _).mono ?_
    rintro l ⟨step, among, reaches⟩
    cases isPresent with
    | true =>
      rcases List.mem_cons.mp among with rfl | own
      · exact .inl reaches
      · exact .inr (Deployment.reaches_files adds ⟨step, own, reaches⟩)
    | false => exact .inr (Deployment.reaches_files adds ⟨step, among, reaches⟩)

theorem deploy_done (done : (t.deploy d).1.fault = none) : ∃ u : FileTree, u.home = t.home ∧
    (u.performAll d.steps).fault = none ∧ (t.deploy d).1 = u.performAll d.steps := by
  cases seen : t.isPresent d.folder with
  | error fault =>
    rw [deploy_unseen seen] at done
    cases done
  | ok isPresent =>
    rw [deploy_seen seen] at done ⊢
    cases isPresent with
    | false => exact ⟨t, rfl, done, rfl⟩
    | true =>
      obtain ⟨_, onwards⟩ := performAll_cons_done done
      refine ⟨_, (perform_changes t (.remove d.folder)).home, ?_, onwards⟩
      rw [← onwards]
      exact done

theorem deploy_read (adds : d.Adds) (done : (t.deploy d).1.fault = none)
    {before after : List (Path × String)} {file : Path} {s : String}
    (split : d.documents = before ++ (file, s) :: after)
    (last : ∀ other ∈ after, other.1.place t.home ≠ file.place t.home) :
    (t.deploy d).1.tree.read file = .ok s := by
  obtain ⟨u, home, succeeded, same⟩ := deploy_done done
  obtain ⟨first, rest, whole, later⟩ := Deployment.documents_split split
  rw [same]
  rw [whole] at succeeded ⊢
  have additions : ∀ step ∈ rest, step.Adds := fun step among =>
    adds step (whole ▸ List.mem_append_right _ (List.mem_cons_of_mem _ among))
  obtain ⟨_, onwards⟩ := performAll_append_done succeeded
  have kept := (performAll_changes u first).home.trans home
  rw [onwards] at succeeded ⊢
  refine performAll_read additions ?_ succeeded
  rw [kept]
  intro step among reaches
  cases step with
  | remove folder => exact additions _ among
  | makeFolder folder => exact reaches
  | write other text => exact last _ (later other text among) reaches.symm

end FileTree

end SloCompiler
