import Mathlib.Algebra.BigOperators.Ring.List
import SloCompiler.Proofs.DurationReading

namespace SloCompiler

namespace DurationUnit

theorem microseconds_pos (unit : DurationUnit) : 0 < unit.microseconds := by
  cases unit <;> decide

theorem mem_all (unit : DurationUnit) : unit ∈ all := by
  cases unit <;> decide

theorem all_descends : all.Pairwise fun unit next => next.microseconds < unit.microseconds := by
  decide

theorem millisecond_dvd (unit : DurationUnit) : 1000 ∣ unit.microseconds := by
  cases unit <;> decide

theorem find?_greatest {p : DurationUnit → Bool} {unit : DurationUnit}
    (found : all.find? p = some unit) {other : DurationUnit} (fits : p other = true) :
    other.microseconds ≤ unit.microseconds := by
  obtain ⟨_, before, after, shape, passed⟩ := List.find?_eq_some_iff_append.mp found
  have descends := all_descends
  have listed := other.mem_all
  rw [shape] at descends listed
  rcases List.mem_append.mp listed with earlier | later
  · simpa [fits] using passed other earlier
  · rcases List.mem_cons.mp later with rfl | below
    · exact Int.le_refl _
    · have behind := (List.pairwise_append.mp descends).2.1
      exact Int.le_of_lt (List.rel_of_pairwise_cons behind below)

end DurationUnit

namespace Duration

-- A duration as a count of the largest unit that goes into it a whole number of times.
structure Largest (d : Duration) (unit : DurationUnit) (count : Nat) : Prop where
  some_unit : 1 ≤ count
  exact : d.microseconds = count * unit.microseconds
  greatest : ∀ other : DurationUnit, other.microseconds ∣ d.microseconds →
    other.microseconds ≤ unit.microseconds

def amountText (count : Nat) (unit : DurationUnit) : String := toString count ++ unit.suffix

theorem divides_iff {unit : DurationUnit} {d : Duration} :
    divides unit d = true ↔ unit.microseconds ∣ d.microseconds := by
  rw [divides, beq_iff_eq, Int.dvd_iff_fmod_eq_zero]

theorem fdiv_count {d : Duration} (positive : 0 < d.microseconds) {unit : DurationUnit}
    (fits : unit.microseconds ∣ d.microseconds) : ∃ count : Nat, 1 ≤ count ∧
      d.microseconds = count * unit.microseconds ∧
      Int.fdiv d.microseconds unit.microseconds = count := by
  have size := unit.microseconds_pos
  have whole := Int.fdiv_mul_cancel fits
  have quotient : 0 < Int.fdiv d.microseconds unit.microseconds := by
    refine Int.pos_of_mul_pos_left ?_ size
    rwa [whole]
  obtain ⟨count, same⟩ := Int.eq_ofNat_of_zero_le (Int.le_of_lt quotient)
  rw [same] at whole quotient
  exact ⟨count, Int.ofNat_lt.mp quotient, whole.symm, same⟩

theorem format_largest {d : Duration} (positive : 0 < d.microseconds)
    (whole : 1000 ∣ d.microseconds) :
    ∃ unit count, Largest d unit count ∧ format d = .ok (amountText count unit) := by
  cases found : DurationUnit.all.find? (divides · d) with
  | none =>
    have unfit := List.find?_eq_none.mp found .millisecond (DurationUnit.mem_all _)
    exact absurd (divides_iff.mpr whole) unfit
  | some unit =>
    have fits := divides_iff.mp (List.find?_some (p := (divides · d)) found)
    obtain ⟨count, some_unit, exact, quotient⟩ := fdiv_count positive fits
    refine ⟨unit, count, ⟨some_unit, exact, fun other divisor => ?_⟩, ?_⟩
    · exact DurationUnit.find?_greatest found (divides_iff.mpr divisor)
    · rw [format, if_neg (Int.not_le.mpr positive), found]
      simp only [quotient]
      rfl

theorem format_error {d : Duration} (other : ¬(0 < d.microseconds ∧ 1000 ∣ d.microseconds)) :
    format d = .error (if d.microseconds ≤ 0 then .durationNotPositive d.clock
      else .durationTooFine d.clock) := by
  unfold format
  split
  · rfl
  · next positive =>
    have unfit : ∀ unit ∈ DurationUnit.all, ¬divides unit d = true := fun unit _ divisor =>
      other ⟨Int.not_le.mp positive,
        Int.dvd_trans unit.millisecond_dvd (divides_iff.mp divisor)⟩
    rw [List.find?_eq_none.mpr unfit]

-- The limit has twenty digits, far fewer than are read.
theorem toDigits_short {count : Nat} (within : (count : Int) < limit) :
    (Nat.toDigits 10 count).length ≤ maxDigits := by
  have top : limit ≤ (10 ^ 20 : Nat) := by decide
  have few : count < 10 ^ maxDigits := Nat.lt_of_lt_of_le
    (Int.ofNat_lt.mp (Int.lt_of_lt_of_le within top)) (Nat.pow_le_pow_right (by decide) (by decide))
  exact (Nat.length_toDigits_le_iff (by decide) (by decide)).mpr few

theorem plainly_amountText {d : Duration} {unit : DurationUnit} {count : Nat}
    (exact : d.microseconds = count * unit.microseconds) (positive : 0 < d.microseconds)
    (limited : d.microseconds < limit) : Plainly (amountText count unit).toList d := by
  have within : (count : Int) < limit := by
    have scaled := Int.mul_le_mul_of_nonneg_left unit.microseconds_pos (Int.natCast_nonneg count)
    omega
  have digits : ∀ c ∈ Nat.toDigits 10 count, c.isDigit = true := fun c =>
    Nat.isDigit_of_mem_toDigits (by decide) (by decide)
  refine ⟨[(Nat.toDigits 10 count, unit)], ⟨List.cons_ne_nil _ _, ?_, ?_, ?_, positive, limited⟩, ?_⟩
  · exact List.forall_mem_singleton.mpr ⟨Nat.toDigits_ne_nil, digits⟩
  · exact List.forall_mem_singleton.mpr (toDigits_short within)
  · simpa [Nat.ofDigitChars_ten_toDigits] using exact
  · rw [amountText, String.toList_append, Nat.toString_eq_repr, Nat.toList_repr]
    exact (List.flatMap_singleton _ _).symm

theorem parse_amountText {d : Duration} {unit : DurationUnit} {count : Nat}
    (exact : d.microseconds = count * unit.microseconds) (positive : 0 < d.microseconds)
    (limited : d.microseconds < limit) : parse (amountText count unit) = .ok d :=
  (plainly_iff_parse.mp (plainly_amountText exact positive limited)).1

def rewritten (text : String) : Except Fault String := do
  let d ← parse text
  (format d).mapError .refused

theorem Spelled.whole {digit : Char → Bool} {worth : List Char → Nat}
    {parts : List (List Char × DurationUnit)} {d : Duration}
    (spelled : Spelled digit worth parts d) : 1000 ∣ d.microseconds := by
  rw [spelled.sum]
  refine List.dvd_sum fun amount listed => ?_
  obtain ⟨part, _, rfl⟩ := List.mem_map.mp listed
  exact Int.dvd_mul_of_dvd_right part.2.millisecond_dvd

theorem rewritten_ok {text shown : String} {d : Duration} (read : parse text = .ok d)
    (written : format d = .ok shown) : rewritten text = .ok shown :=
  bind_ok.mpr ⟨d, read, mapError_ok.mpr written⟩

theorem format_survives :
    (∀ d : Duration, inRange d.microseconds = true → 0 < d.microseconds → 1000 ∣ d.microseconds →
      ∃ unit count, Largest d unit count ∧ format d = .ok (amountText count unit) ∧
        parse (amountText count unit) = .ok d) ∧
    (∀ d : Duration, ¬(0 < d.microseconds ∧ 1000 ∣ d.microseconds) →
      format d = .error (if d.microseconds ≤ 0 then .durationNotPositive d.clock
        else .durationTooFine d.clock)) ∧
    ∀ text d, parse text = .ok d → ∃ shown, format d = .ok shown ∧ parse shown = .ok d ∧
      rewritten text = .ok shown ∧ rewritten shown = .ok shown := by
  refine ⟨fun d range positive whole => ?_, fun d => format_error, fun text d read => ?_⟩
  · obtain ⟨unit, count, largest, shown⟩ := format_largest positive whole
    have limited := of_decide_eq_true ((inRange_nonneg (Int.le_of_lt positive)).symm.trans range)
    exact ⟨unit, count, largest, shown, parse_amountText largest.exact positive limited⟩
  · obtain ⟨_, ⟨parts, spelled, _⟩, _⟩ := parse_iff.mp read
    obtain ⟨unit, count, largest, shown⟩ := format_largest spelled.positive spelled.whole
    have back := parse_amountText largest.exact spelled.positive spelled.limited
    exact ⟨_, shown, back, rewritten_ok read shown, rewritten_ok back shown⟩

theorem compound_survives :
    (∃ unit count, Largest ⟨5400000000⟩ unit count ∧
      format ⟨5400000000⟩ = .ok (amountText count unit) ∧
      parse (amountText count unit) = .ok ⟨5400000000⟩) ∧
    format ⟨1500⟩ = .error (.durationTooFine "0:00:00.001500") ∧
    ∃ shown, format ⟨5400000000⟩ = .ok shown ∧ parse shown = .ok ⟨5400000000⟩ ∧
      rewritten "1h30m" = .ok shown ∧ rewritten shown = .ok shown :=
  ⟨format_survives.1 ⟨5400000000⟩ (by decide) (by decide) (by decide),
    format_survives.2.1 ⟨1500⟩ (by decide),
    format_survives.2.2 "1h30m" ⟨5400000000⟩ (toOption_some.mp (by decide +kernel))⟩

example : (rewritten "1h30m").toOption = some "90m" := by decide +kernel

end Duration

end SloCompiler
