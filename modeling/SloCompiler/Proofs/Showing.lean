import SloCompiler.Fault
import SloCompiler.Proofs.Outcome

namespace SloCompiler

-- An outcome is a failure exactly if something is in the way, and then one of these things.
structure Obstructed {ε α : Type} (x : Except ε α) (obstacle : ε → Prop) : Prop where
  free : ∀ a, x = .ok a → ∀ e, ¬obstacle e
  stops : ∀ e, x = .error e → obstacle e

namespace Obstructed

variable {ε ε' α β : Type} {x : Except ε α} {p q : ε → Prop}

theorem ok_iff (obstructed : Obstructed x p) : (∃ a, x = .ok a) ↔ ∀ e, ¬p e := by
  constructor
  · rintro ⟨a, made⟩
    exact obstructed.free a made
  · intro free
    cases x with
    | ok a => exact ⟨a, rfl⟩
    | error e => exact absurd (obstructed.stops e rfl) (free e)

theorem ok {a : α} (free : ∀ e, ¬p e) : Obstructed (.ok a) p :=
  ⟨fun _ _ => free, fun _ failed => by cases failed⟩

theorem error {e : ε} (obstacle : p e) : Obstructed (.error e : Except ε α) p := by
  refine ⟨fun _ made => ?_, fun _ failed => ?_⟩
  · cases made
  · cases failed
    exact obstacle

theorem congr (obstructed : Obstructed x p) (same : ∀ e, p e ↔ q e) : Obstructed x q :=
  ⟨fun a made e => (same e).not.mp (obstructed.free a made e),
    fun e failed => (same e).mp (obstructed.stops e failed)⟩

theorem map (obstructed : Obstructed x p) (f : α → β) : Obstructed (x.map f) p := by
  cases x with
  | ok a => exact ok (obstructed.free a rfl)
  | error e => exact error (obstructed.stops e rfl)

theorem mapError (obstructed : Obstructed x p) (f : ε → ε') :
    Obstructed (x.mapError f) fun e => ∃ cause, p cause ∧ f cause = e := by
  cases x with
  | ok a => exact ok fun _ ⟨cause, obstacle, _⟩ => obstructed.free a rfl cause obstacle
  | error e => exact error ⟨e, obstructed.stops e rfl, rfl⟩

theorem bind {f : α → Except ε β} (first : Obstructed x p)
    (second : ∀ a, x = .ok a → Obstructed (f a) q) :
    Obstructed (x >>= f) fun e => p e ∨ q e := by
  cases x with
  | error e => exact error (.inl (first.stops e rfl))
  | ok a =>
    have passed := first.free a rfl
    exact (second a rfl).congr fun e => (or_iff_right (passed e)).symm

end Obstructed

namespace Value

def parts : Value → List Value
  | .list items | .set items => items
  | .map entries => entries.flatMap fun entry => [entry.1, entry.2]
  | _ => []

-- A value stands in another so many levels down.
inductive Inside (w : Value) : Nat → Value → Prop where
  | self : Inside w 0 w
  | part {level : Nat} {u v : Value} : u ∈ v.parts → Inside w level u → Inside w (level + 1) v

theorem inside_succ {w v : Value} {level : Nat} :
    Inside w (level + 1) v ↔ ∃ u ∈ v.parts, Inside w level u := by
  constructor
  · intro inside
    cases inside with
    | part member inner => exact ⟨_, member, inner⟩
  · rintro ⟨u, member, inner⟩
    exact .part member inner

def IsLong (n : Int) : Prop := 4300 < (Nat.toDigits 10 n.natAbs).length

-- What keeps a value from being shown in so many levels, itself among them.
inductive Hidden (levels : Nat) (v : Value) : Unshown → Prop where
  | longNumber {n : Int} {level : Nat} : Inside (.int n) level v → IsLong n →
      Hidden levels v .longNumber
  | tooDeep {w : Value} {level : Nat} : Inside w level v → levels ≤ level → Hidden levels v .tooDeep

theorem hidden_succ {levels : Nat} {v : Value} {cause : Unshown} :
    Hidden (levels + 1) v cause ↔
      (cause = .longNumber ∧ ∃ n, v = .int n ∧ IsLong n) ∨ ∃ u ∈ v.parts, Hidden levels u cause := by
  constructor
  · intro hidden
    cases hidden with
    | @longNumber n level inside long =>
      cases level with
      | zero =>
        cases inside
        exact .inl ⟨rfl, n, rfl, long⟩
      | succ level =>
        obtain ⟨u, member, inner⟩ := inside_succ.mp inside
        exact .inr ⟨u, member, .longNumber inner long⟩
    | @tooDeep w level inside deep =>
      cases level with
      | zero => exact absurd deep (Nat.not_succ_le_zero levels)
      | succ level =>
        obtain ⟨u, member, inner⟩ := inside_succ.mp inside
        exact .inr ⟨u, member, .tooDeep inner (Nat.le_of_succ_le_succ deep)⟩
  · rintro (⟨rfl, n, rfl, long⟩ | ⟨u, member, hidden⟩)
    · exact .longNumber .self long
    · cases hidden with
      | longNumber inner long => exact .longNumber (.part member inner) long
      | tooDeep inner deep => exact .tooDeep (.part member inner) (Nat.succ_le_succ deep)

theorem hidden_zero (v : Value) : Hidden 0 v .tooDeep := .tooDeep .self (Nat.zero_le 0)

theorem wholeText_obstructed (n : Int) :
    Obstructed (wholeText n) fun cause => cause = .longNumber ∧ IsLong n := by
  unfold wholeText
  split
  · next short => exact .ok fun _ ⟨_, long⟩ => Nat.not_lt_of_le short long
  · next long => exact .error ⟨rfl, Nat.lt_of_not_le long⟩

variable {depth : Nat}

def PartsObstructed (depth : Nat) : Prop :=
  (∀ items, Obstructed (inspectItems depth items) fun cause => ∃ v ∈ items, Hidden depth v cause) ∧
    ∀ entries, Obstructed (inspectEntries depth entries)
      fun cause => ∃ v ∈ (Value.map entries).parts, Hidden depth v cause

theorem parts_zero : PartsObstructed 0 := by
  constructor
  · intro items
    cases items with
    | nil => exact .ok fun _ ⟨_, member, _⟩ => by cases member
    | cons v rest => exact .error ⟨v, List.mem_cons_self, hidden_zero v⟩
  · intro entries
    cases entries with
    | nil => exact .ok fun _ ⟨_, member, _⟩ => by cases member
    | cons entry rest => exact .error ⟨entry.1, List.mem_cons_self, hidden_zero entry.1⟩

theorem parts_succ (each : ∀ v : Value, Obstructed (v.inspect depth) (Hidden (depth + 1) v)) :
    PartsObstructed (depth + 1) := by
  constructor
  · intro items
    induction items with
    | nil => exact .ok fun _ ⟨_, member, _⟩ => by cases member
    | cons v rest ih =>
      rw [inspectItems]
      refine ((each v).bind fun _ _ => ih.bind fun _ _ => .ok fun _ => not_false).congr ?_
      intro cause
      rw [or_false, List.exists_mem_cons_iff]
  · intro entries
    induction entries with
    | nil => exact .ok fun _ ⟨_, member, _⟩ => by cases member
    | cons entry rest ih =>
      rw [inspectEntries]
      refine ((each entry.1).bind fun _ _ => (each entry.2).bind fun _ _ =>
        ih.bind fun _ _ => .ok fun _ => not_false).congr ?_
      intro cause
      change _ ↔ ∃ v ∈ entry.1 :: entry.2 :: (Value.map rest).parts, _
      rw [or_false, List.exists_mem_cons_iff, List.exists_mem_cons_iff]

theorem inspect_of_parts (parts : PartsObstructed depth) (v : Value) :
    Obstructed (v.inspect depth) (Hidden (depth + 1) v) := by
  cases v with
  | int n =>
    rw [inspect]
    exact (wholeText_obstructed n).congr fun cause => by simp [hidden_succ, Value.parts]
  | list items | set items =>
    rw [inspect]
    exact ((parts.1 items).map _).congr fun cause => by simp [hidden_succ, Value.parts]
  | map entries =>
    rw [inspect]
    exact ((parts.2 entries).map _).congr fun cause => by simp [hidden_succ]
  | _ =>
    rw [inspect]
    exact .ok fun cause => by simp [hidden_succ, Value.parts]

-- A value can be shown exactly if nothing inside it is a long number or too far down.
theorem inspect_obstructed (depth : Nat) (v : Value) :
    Obstructed (v.inspect depth) (Hidden (depth + 1) v) := by
  induction depth generalizing v with
  | zero => exact inspect_of_parts parts_zero v
  | succ depth ih => exact inspect_of_parts (parts_succ ih) v

theorem display_obstructed (depth : Nat) (v : Value) :
    Obstructed (v.display depth) (Hidden (depth + 1) v) := by
  cases v with
  | str | date | dateTime => exact .ok fun cause => by simp [hidden_succ, parts]
  | _ => exact inspect_obstructed depth _

end Value

end SloCompiler
