import SloCompiler.Proofs.Compilation
import SloCompiler.Proofs.Ordered
import SloCompiler.Registry

namespace SloCompiler

namespace Registry

inductive Request where
  | register (tag : String) (candidate : Option Indicator)
  | get (tag : String)
  | contains (tag : String)

inductive Reply where
  | registered
  | refused (cause : Refusal)
  | found (indicator : Indicator)
  | failed (fault : Fault)
  | known (answer : Bool)

def respond (registry : Registry) : Request → Registry × Reply
  | .register tag candidate =>
    match registry.register tag candidate with
    | .ok next => (next, .registered)
    | .error cause => (registry, .refused cause)
  | .get tag =>
    match registry.get tag with
    | .ok indicator => (registry, .found indicator)
    | .error fault => (registry, .failed fault)
  | .contains tag => (registry, .known (registry.contains tag))

def run (registry : Registry) : List Request → Registry × List (Request × Reply)
  | [] => (registry, [])
  | request :: requests =>
    let (next, reply) := registry.respond request
    let (last, exchanges) := run next requests
    (last, (request, reply) :: exchanges)

def Request.made : Request → Reply → List (String × Indicator)
  | .register tag (some indicator), .registered => [(tag, indicator)]
  | _, _ => []

def made (exchanges : List (Request × Reply)) : List (String × Indicator) :=
  exchanges.flatMap fun exchange => exchange.1.made exchange.2

def offered (candidates : List (String × Option Indicator)) : List (String × Indicator) :=
  candidates.flatMap fun entry => (entry.2.map fun indicator => (entry.1, indicator)).toList

-- A registry that replies by a history of registrations: a tag stands for the first indicator that
-- was registered under it, and another one is refused.
structure Answers (history : List (String × Indicator)) (now : Registry) : Prop where
  once : (Ordered.keys history).Nodup
  taken : ∀ tag candidate, tag ∈ Ordered.keys history →
    now.respond (.register tag candidate) = (now, .refused (.registered tag))
  foreign : ∀ tag, tag ∉ Ordered.keys history →
    now.respond (.register tag none) = (now, .refused (.noIndicator tag))
  fresh : ∀ tag indicator, tag ∉ Ordered.keys history →
    now.respond (.register tag (some indicator)) = (now ++ [(tag, indicator)], .registered)
  found : ∀ tag indicator, now.respond (.get tag) = (now, .found indicator) ↔
    Ordered.get? history tag = some indicator
  unknown : ∀ tag fault, now.respond (.get tag) = (now, .failed fault) ↔
    tag ∉ Ordered.keys history ∧ fault = .ofCause (.metricType tag now.tags)
  contains : ∀ tag, now.respond (.contains tag) = (now, .known (now.get tag).isOk)
  sorted : now.tags.Pairwise (· < ·)
  tagged : ∀ tag, tag ∈ now.tags ↔ tag ∈ Ordered.keys history
  size : now.length = now.tags.length

section Steps

variable {registry next : Registry} {tag : String}

theorem register_taken (known : tag ∈ Ordered.keys registry) (candidate : Option Indicator) :
    registry.register tag candidate = .error (.registered tag) := by
  have present : (Ordered.get? registry tag).isSome = true :=
    Option.isSome_iff_ne_none.mpr fun absent => Ordered.get?_eq_none_iff.mp absent known
  unfold register
  rw [if_pos present]

theorem register_foreign (unknown : tag ∉ Ordered.keys registry) :
    registry.register tag none = .error (.noIndicator tag) := by
  unfold register
  rw [Ordered.get?_eq_none_iff.mpr unknown]
  rfl

theorem register_fresh (unknown : tag ∉ Ordered.keys registry) (indicator : Indicator) :
    registry.register tag (some indicator) = .ok (registry ++ [(tag, indicator)]) := by
  unfold register
  rw [Ordered.get?_eq_none_iff.mpr unknown]
  rfl

theorem register_ok {candidate : Option Indicator} :
    registry.register tag candidate = .ok next ↔ tag ∉ Ordered.keys registry ∧
      ∃ indicator, candidate = some indicator ∧ next = registry ++ [(tag, indicator)] := by
  by_cases known : tag ∈ Ordered.keys registry
  · simp [register_taken known, known]
  · cases candidate with
    | none => simp [register_foreign known]
    | some indicator => simp [register_fresh known, known, eq_comm]

theorem register_keyed (keyed : (Ordered.keys registry).Nodup)
    (unknown : tag ∉ Ordered.keys registry) (indicator : Indicator) :
    (Ordered.keys (registry ++ [(tag, indicator)])).Nodup := by
  rw [Ordered.keys, List.map_append]
  refine List.nodup_append.mpr ⟨keyed, List.nodup_singleton _, ?_⟩
  intro key listed other own same
  obtain rfl := List.mem_singleton.mp own
  exact unknown (same ▸ listed)

theorem register_made (candidate : Option Indicator) :
    (registry.respond (.register tag candidate)).1 =
      registry ++ (Request.register tag candidate).made
        (registry.respond (.register tag candidate)).2 := by
  by_cases known : tag ∈ Ordered.keys registry
  · rw [respond, register_taken known]
    simp [Request.made]
  · cases candidate with
    | none => simp [respond, register_foreign known, Request.made]
    | some indicator => simp [respond, register_fresh known, Request.made]

theorem get_respond : (registry.respond (.get tag)).1 = registry := by
  rw [respond]
  cases registry.get tag <;> rfl

theorem respond_made (registry : Registry) (request : Request) :
    (registry.respond request).1 = registry ++ request.made (registry.respond request).2 := by
  cases request with
  | register tag candidate => exact register_made candidate
  | get tag => exact get_respond.trans (List.append_nil registry).symm
  | contains tag => exact (List.append_nil registry).symm

theorem respond_keyed (keyed : (Ordered.keys registry).Nodup) (request : Request) :
    (Ordered.keys (registry.respond request).1).Nodup := by
  cases request with
  | register tag candidate =>
    rw [respond]
    cases outcome : registry.register tag candidate with
    | error cause => exact keyed
    | ok next =>
      obtain ⟨unknown, indicator, _, rfl⟩ := register_ok.mp outcome
      exact register_keyed keyed unknown indicator
  | get tag => rwa [get_respond]
  | contains tag => exact keyed

end Steps

theorem run_made (registry : Registry) (requests : List Request) :
    (registry.run requests).1 = registry ++ made (registry.run requests).2 := by
  induction requests generalizing registry with
  | nil => exact (List.append_nil registry).symm
  | cons request requests ih =>
    change ((registry.respond request).1.run requests).1 = registry ++ made
      ((request, (registry.respond request).2) :: ((registry.respond request).1.run requests).2)
    rw [ih, made, made, List.flatMap_cons, ← List.append_assoc, ← respond_made]

theorem run_keyed {registry : Registry} (keyed : (Ordered.keys registry).Nodup)
    (requests : List Request) : (Ordered.keys (registry.run requests).1).Nodup := by
  induction requests generalizing registry with
  | nil => exact keyed
  | cons request requests ih => exact ih (respond_keyed keyed request)

theorem registerAll_ok {candidates : List (String × Option Indicator)} (before : Registry)
    {after : Registry} (keyed : (Ordered.keys before).Nodup)
    (accepted : candidates.foldlM (fun registry entry => registry.register entry.1 entry.2) before =
      .ok after) :
    (Ordered.keys after).Nodup ∧ after = before ++ offered candidates := by
  induction candidates generalizing before with
  | nil =>
    cases accepted
    exact ⟨keyed, (List.append_nil _).symm⟩
  | cons entry candidates ih =>
    rw [List.foldlM_cons] at accepted
    obtain ⟨next, first, rest⟩ := bind_ok.mp accepted
    obtain ⟨unknown, indicator, given, rfl⟩ := register_ok.mp first
    obtain ⟨distinct, rfl⟩ := ih _ (register_keyed keyed unknown indicator) rest
    refine ⟨distinct, ?_⟩
    rw [offered, offered, List.flatMap_cons, given, List.append_assoc]
    rfl

theorem ofCandidates_ok {candidates : List (String × Option Indicator)} {registry : Registry}
    (accepted : ofCandidates candidates = .ok registry) :
    (Ordered.keys registry).Nodup ∧ registry = offered candidates :=
  registerAll_ok [] List.nodup_nil accepted

theorem tags_perm (registry : Registry) : registry.tags.Perm (Ordered.keys registry) :=
  List.mergeSort_perm _ _

theorem tags_pairwise {registry : Registry} (keyed : (Ordered.keys registry).Nodup) :
    registry.tags.Pairwise (· < ·) := by
  refine Ordered.pairwise_lt (List.pairwise_mergeSort Ordered.notAfter_trans (fun a b => ?_) _)
    ((tags_perm registry).nodup_iff.mpr keyed)
  rw [Bool.or_eq_true]
  exact Ordered.notAfter_total a b

theorem answers_self {registry : Registry} (keyed : (Ordered.keys registry).Nodup) :
    Answers registry registry where
  once := keyed
  taken tag candidate known := by rw [respond, register_taken known]
  foreign tag unknown := by rw [respond, register_foreign unknown]
  fresh tag indicator unknown := by rw [respond, register_fresh unknown]
  found tag indicator := by
    rw [respond, get]
    cases Ordered.get? registry tag <;> simp
  unknown tag fault := by
    rw [respond, ← Ordered.get?_eq_none_iff, get]
    cases Ordered.get? registry tag <;> simp [eq_comm]
  contains tag := by
    rw [respond, contains, get]
    cases Ordered.get? registry tag <;> rfl
  sorted := tags_pairwise keyed
  tagged tag := (tags_perm registry).mem_iff
  size := by rw [(tags_perm registry).length_eq, Ordered.keys, List.length_map]

-- Nothing that is asked of a registry takes a registration back or replaces it.
theorem run_addOnly {candidates : List (String × Option Indicator)} {initial : Registry}
    (accepted : ofCandidates candidates = .ok initial) (requests : List Request) :
    Answers (offered candidates ++ made (initial.run requests).2) (initial.run requests).1 := by
  obtain ⟨keyed, rfl⟩ := ofCandidates_ok accepted
  rw [← run_made]
  exact answers_self (run_keyed keyed requests)

namespace Rivals

def candidates : List (String × Option Indicator) := [("b", some .up), ("a", some .queueAge)]

def initial : Registry := [("b", .up), ("a", .queueAge)]

def requests : List Request := [
  .register "b" (some .queueAge), .register "c" none, .get "c",
  .register "c" (some (.latency "h")), .register "c" (some .up), .contains "c", .get "c"]

end Rivals

theorem rivals_addOnly :
    ofCandidates Rivals.candidates = .ok Rivals.initial ∧
      (Rivals.initial.run Rivals.requests).1 = Rivals.initial ++ [("c", .latency "h")] ∧
      Answers (offered Rivals.candidates ++ made (Rivals.initial.run Rivals.requests).2)
        (Rivals.initial.run Rivals.requests).1 := by
  have accepted : ofCandidates Rivals.candidates = .ok Rivals.initial := rfl
  exact ⟨accepted, rfl, run_addOnly accepted Rivals.requests⟩

end Registry

end SloCompiler
