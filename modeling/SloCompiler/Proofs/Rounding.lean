import Mathlib.Algebra.Group.Nat.Defs
import Mathlib.Data.Nat.Log
import Mathlib.Tactic.Ring
import SloCompiler.Number.Decimal

namespace SloCompiler.Binary64

def lastPlace (n : Nat) : Nat := Nat.pow 2 (Nat.log2 n - 52)

theorem lastPlace_pos (n : Nat) : 0 < lastPlace n := Nat.pow_pos (by decide)

theorem lastPlace_le {n : Nat} (nonzero : n ≠ 0) : lastPlace n ≤ n :=
  Nat.le_trans (Nat.pow_le_pow_right (by decide) (Nat.sub_le _ _)) (Nat.log2_self_le nonzero)

theorem roundUnits_eq (num den : Nat) :
    roundUnits num den =
      roundQuotient num (den * lastPlace (num / den)) * lastPlace (num / den) := rfl

theorem le_roundQuotient (num den : Nat) : num / den ≤ roundQuotient num den := by
  unfold roundQuotient
  dsimp only
  split
  · exact Nat.le_succ _
  · exact Nat.le_refl _

theorem roundQuotient_le (num den : Nat) : roundQuotient num den ≤ num / den + 1 := by
  unfold roundQuotient
  dsimp only
  split
  · exact Nat.le_refl _
  · exact Nat.le_succ _

theorem roundQuotient_exact {num den : Nat} (divides : den ∣ num) :
    roundQuotient num den = num / den := by
  have rest : num % den = 0 := Nat.mod_eq_zero_of_dvd divides
  simp only [roundQuotient, rest]
  split
  · next up =>
    simp only [Nat.mul_zero, Bool.or_eq_true, decide_eq_true_eq, Nat.not_lt_zero, false_or,
      Bool.and_eq_true, beq_iff_eq] at up
    obtain ⟨rfl, odd⟩ := up
    simp at odd
  · rfl

theorem roundQuotient_eq_zero {num den : Nat} (positive : 0 < den) :
    roundQuotient num den = 0 ↔ 2 * num ≤ den := by
  rcases Nat.lt_or_ge num den with small | large
  · have whole := Nat.div_eq_of_lt small
    have rest := Nat.mod_eq_of_lt small
    unfold roundQuotient
    simp only [whole, rest]
    simp
  · have some := Nat.le_trans (Nat.div_pos large positive) (le_roundQuotient num den)
    omega

-- Rounding moves a quotient between two neighbours on the grid of its last place.
theorem roundUnits_between (num den : Nat) :
    lastPlace (num / den) * (num / den / lastPlace (num / den)) ≤ roundUnits num den ∧
      roundUnits num den ≤
        lastPlace (num / den) * (num / den / lastPlace (num / den)) + lastPlace (num / den) := by
  have below := le_roundQuotient num (den * lastPlace (num / den))
  have above := roundQuotient_le num (den * lastPlace (num / den))
  rw [← Nat.div_div_eq_div_mul] at below above
  rw [roundUnits_eq, Nat.mul_comm (roundQuotient _ _), ← Nat.mul_succ]
  exact ⟨Nat.mul_le_mul_left _ below, Nat.mul_le_mul_left _ above⟩

theorem roundUnits_le (num den : Nat) : roundUnits num den ≤ 2 * (num / den) + 1 := by
  obtain ⟨_, above⟩ := roundUnits_between num den
  have cut := Nat.mul_div_le (num / den) (lastPlace (num / den))
  by_cases zero : num / den = 0
  · rw [zero] at above ⊢
    exact above
  · have place := lastPlace_le zero
    omega

theorem lt_two_mul_roundUnits {num den : Nat} (some : num / den ≠ 0) :
    num / den < 2 * roundUnits num den := by
  obtain ⟨below, _⟩ := roundUnits_between num den
  have split := Nat.div_add_mod (num / den) (lastPlace (num / den))
  have rest := Nat.mod_lt (num / den) (lastPlace_pos (num / den))
  have kept : lastPlace (num / den) ≤
      lastPlace (num / den) * (num / den / lastPlace (num / den)) :=
    Nat.le_mul_of_pos_right _ (Nat.div_pos (lastPlace_le some) (lastPlace_pos _))
  omega

theorem roundUnits_of_dvd {n : Nat} (divides : lastPlace n ∣ n) : roundUnits n 1 = n := by
  rw [roundUnits_eq, Nat.div_one, Nat.one_mul, roundQuotient_exact divides,
    Nat.div_mul_cancel divides]

theorem lastPlace_dvd_of_rounded {n : Nat} (rounded : roundUnits n 1 = n) : lastPlace n ∣ n := by
  rw [roundUnits_eq, Nat.div_one] at rounded
  exact ⟨_, rounded.symm.trans (Nat.mul_comm _ _)⟩

theorem roundUnits_of_multiple {n k : Nat} (multiple : 2 ^ k ∣ n) (below : n < 2 ^ (k + 53)) :
    roundUnits n 1 = n := by
  by_cases zero : n = 0
  · rw [zero]
    rfl
  · have digits : Nat.log2 n < k + 53 := (Nat.log2_lt zero).mpr below
    exact roundUnits_of_dvd ((Nat.pow_dvd_pow 2 (by omega)).trans multiple)

theorem multiple_of_large {n k : Nat} (rounded : roundUnits n 1 = n) (large : 2 ^ (k + 52) ≤ n) :
    2 ^ k ∣ n := by
  have zero : n ≠ 0 := by
    intro none
    have positive : 0 < 2 ^ (k + 52) := Nat.pow_pos (by decide)
    omega
  have digits : k + 52 ≤ Nat.log2 n := (Nat.le_log2 zero).mpr large
  exact (Nat.pow_dvd_pow 2 (by omega)).trans (lastPlace_dvd_of_rounded rounded)

theorem div_lastPlace_lt (n : Nat) : n / lastPlace n < 2 ^ 53 := by
  rw [Nat.div_lt_iff_lt_mul (lastPlace_pos n)]
  calc n < 2 ^ (Nat.log2 n + 1) := Nat.lt_log2_self
    _ ≤ 2 ^ (53 + (Nat.log2 n - 52)) := Nat.pow_le_pow_right (by decide) (by omega)
    _ = 2 ^ 53 * lastPlace n := Nat.pow_add 2 53 _

theorem roundUnits_idem (num den : Nat) : roundUnits (roundUnits num den) 1 = roundUnits num den := by
  have kept := div_lastPlace_lt (num / den)
  have above := roundQuotient_le num (den * lastPlace (num / den))
  rw [← Nat.div_div_eq_div_mul] at above
  rw [roundUnits_eq num den, lastPlace, Nat.pow_eq] at *
  rcases Nat.lt_or_ge (roundQuotient num (den * 2 ^ (Nat.log2 (num / den) - 52))) (2 ^ 53)
    with fits | full
  · refine roundUnits_of_multiple (Nat.dvd_mul_left _ _) ?_
    rw [Nat.add_comm, Nat.pow_add]
    exact Nat.mul_lt_mul_of_pos_right fits (Nat.pow_pos (by decide))
  · -- Rounding up to the next power of two leaves one digit.
    have power : roundQuotient num (den * 2 ^ (Nat.log2 (num / den) - 52)) = 2 ^ 53 := by omega
    rw [power, ← Nat.pow_add]
    exact roundUnits_of_multiple (Nat.dvd_refl _) (Nat.pow_lt_pow_right (by decide) (by omega))

inductive Representable : Binary64 → Prop
  | nan : Representable .nan
  | infinity (negative : Bool) : Representable (.infinity negative)
  | finite (negative : Bool) {units : Nat} (rounded : roundUnits units 1 = units)
      (fits : units < unitLimit) : Representable (.finite negative units)

theorem ofUnits_representable (negative : Bool) (num den : Nat) :
    (ofUnits negative num den).Representable := by
  rw [ofUnits]
  rcases Nat.lt_or_ge (roundUnits num den) unitLimit with fits | large
  · rw [if_pos fits]
    exact .finite negative (roundUnits_idem num den) fits
  · rw [if_neg (Nat.not_lt.mpr large)]
    exact .infinity negative

theorem ofDecimal_representable (negative : Bool) (digits : Nat) (exponent : Int) :
    (ofDecimal negative digits exponent).Representable := by
  unfold ofDecimal
  dsimp only
  split
  · exact .finite negative rfl (by decide +kernel)
  · split
    · exact .infinity negative
    · split
      · exact ofUnits_representable negative _ _
      · exact ofUnits_representable negative _ _

end SloCompiler.Binary64
