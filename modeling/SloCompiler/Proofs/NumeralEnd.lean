import Mathlib.Algebra.Group.Nat.Defs
import SloCompiler.Proofs.Numeral

namespace SloCompiler

namespace Text

theorem mem_dropEndWhile {drop : Char → Bool} {cs : List Char} {c : Char} (present : c ∈ cs)
    (kept : drop c = false) : c ∈ dropEndWhile drop cs := by
  obtain ⟨before, after, split⟩ := List.append_of_mem (List.mem_reverse.mpr present)
  rw [dropEndWhile, List.mem_reverse, split, List.dropWhile_append]
  split
  · rw [List.dropWhile_cons, if_neg (by simp [kept])]
    exact List.mem_cons_self
  · exact List.mem_append_right _ List.mem_cons_self

end Text

namespace Binary64

theorem digit_ne_zero {n : Nat} (nonzero : n ≠ 0) : ∃ c ∈ Nat.toDigits 10 n, c ≠ '0' := by
  induction n using Nat.strong_induction_on with
  | _ n ih =>
    rcases Nat.lt_or_ge n 10 with small | large
    · have digit : ∀ d < 10, d ≠ 0 → Nat.digitChar d ≠ '0' := by decide
      rw [Nat.toDigits_of_lt_base small]
      exact ⟨_, List.mem_cons_self, digit n small nonzero⟩
    · obtain ⟨c, present, other⟩ := ih (n / 10) (by omega) (by omega)
      rw [Nat.toDigits_of_base_le (by decide) large]
      exact ⟨c, List.mem_append_left _ present, other⟩

theorem pow_digitCount_le {n : Nat} (nonzero : n ≠ 0) : 10 ^ (digitCount n - 1) ≤ n := by
  have some := Nat.length_toDigits_pos (b := 10) (n := n)
  rcases Nat.eq_zero_or_pos (digitCount n - 1) with none | more
  · rw [none, Nat.pow_zero]
    exact Nat.pos_of_ne_zero nonzero
  · have count := (Nat.length_toDigits_le_iff (b := 10) (n := n) (by decide) more).not
    refine Nat.le_of_not_lt (count.mp ?_)
    unfold digitCount
    omega

theorem le_mul_pow {one units count k m : Nat} (places : k + count = m + 17)
    (least : one ≤ units * 10 ^ m) (leading : 10 ^ (count - 1) * one ≤ units * 10 ^ m) :
    one ≤ units * 10 ^ k := by
  rcases Nat.lt_or_ge k m with few | many
  · obtain ⟨j, rfl⟩ : ∃ j, count = j + 17 := ⟨count - 17, by omega⟩
    have scaled : 10 ^ j * (10 ^ 16 * one) ≤ 10 ^ j * (units * 10 ^ k) := by
      calc 10 ^ j * (10 ^ 16 * one) = 10 ^ (j + 17 - 1) * one := by
            rw [show j + 17 - 1 = j + 16 by omega, Nat.pow_add, Nat.mul_assoc]
        _ ≤ units * 10 ^ m := leading
        _ = 10 ^ j * (units * 10 ^ k) := by
            rw [show m = j + k by omega, Nat.pow_add, Nat.mul_left_comm]
    have kept := Nat.le_of_mul_le_mul_left scaled (Nat.pow_pos (by decide))
    exact Nat.le_trans (Nat.le_mul_of_pos_left _ (by decide)) kept
  · exact Nat.le_trans least (Nat.mul_le_mul_left _ (Nat.pow_le_pow_right (by decide) many))

theorem mul_pow_le {one units count k m : Nat} (places : count = k + m + 17)
    (leading : 10 ^ (count - 1) * one ≤ units * 10 ^ m) : one * 10 ^ k ≤ units := by
  subst places
  have scaled : 10 ^ m * (10 ^ 16 * (one * 10 ^ k)) ≤ 10 ^ m * units := by
    calc 10 ^ m * (10 ^ 16 * (one * 10 ^ k)) = 10 ^ (k + m + 17 - 1) * one := by
          rw [show k + m + 17 - 1 = m + (16 + k) by omega, Nat.pow_add, Nat.pow_add 10 16,
            Nat.mul_assoc, Nat.mul_assoc, Nat.mul_comm one]
      _ ≤ units * 10 ^ m := leading
      _ = 10 ^ m * units := Nat.mul_comm _ _
  have kept := Nat.le_of_mul_le_mul_left scaled (Nat.pow_pos (by decide))
  exact Nat.le_trans (Nat.le_mul_of_pos_left _ (by decide)) kept

-- On a grid that leaves sixteen places after its leading digit a number does not vanish.
theorem onGrid_ne_zero {units m : Nat} {exponent : Int} (nonzero : units ≠ 0)
    (scale : unitsPerOne ≤ Nat.pow 10 m)
    (places : exponent = digitCount (units * Nat.pow 10 m / unitsPerOne) - (m + 17)) :
    (onGrid units exponent).1 ≠ 0 := by
  have positive : 0 < unitsPerOne := by decide +kernel
  unfold onGrid
  generalize unitsPerOne = one at *
  have least : one ≤ units * 10 ^ m :=
    Nat.le_trans scale (Nat.le_mul_of_pos_left _ (Nat.pos_of_ne_zero nonzero))
  have leading := (Nat.le_div_iff_mul_le positive).mp
    (pow_digitCount_le (n := units * 10 ^ m / one) (Nat.div_pos least positive).ne')
  simp only [Nat.pow_eq] at places ⊢
  by_cases fine : exponent < 0
  · rw [if_pos fine, if_pos fine]
    exact (Nat.div_pos (le_mul_pow (by omega) least leading) positive).ne'
  · rw [if_neg fine, if_neg fine]
    refine (Nat.div_pos (mul_pow_le (m := m) (by omega) leading) ?_).ne'
    exact Nat.mul_pos positive (Nat.pow_pos (by decide))

theorem onGrid_leading_ne_zero {units : Nat} (nonzero : units ≠ 0) :
    (onGrid units (leadingExponent units - 16)).1 ≠ 0 :=
  onGrid_ne_zero (m := 324) nonzero (by decide +kernel) (by unfold leadingExponent; omega)

theorem readsBack_ne_zero {units digits : Nat} {exponent : Int} (nonzero : units ≠ 0)
    (reads : readsBack units digits exponent = true) : digits ≠ 0 := by
  rintro rfl
  simp [readsBack, ofDecimal, nonzero.symm] at reads

theorem decimalOnGrid?_ne_zero {units : Nat} {exponent : Int} {d : Decimal} (nonzero : units ≠ 0)
    (found : decimalOnGrid? units exponent = some d) : d.digits ≠ 0 := by
  unfold decimalOnGrid? at found
  dsimp only at found
  split at found
  · next chosen =>
    cases found
    simp only [Bool.and_eq_true] at chosen
    exact readsBack_ne_zero nonzero chosen.1
  · split at found
    · next chosen =>
      cases found
      simp only [Bool.and_eq_true] at chosen
      exact readsBack_ne_zero nonzero chosen.2
    · cases found

theorem shortestFrom_ne_zero {units : Nat} (nonzero : units ≠ 0) {leading : Int}
    (finest : (onGrid units (leading - 16)).1 ≠ 0) (counts : List Nat) :
    (shortestFrom units leading counts).digits ≠ 0 := by
  induction counts with
  | nil => exact finest
  | cons count more ih =>
    rw [shortestFrom]
    cases found : decimalOnGrid? units (leading - count) with
    | some d => exact decimalOnGrid?_ne_zero nonzero found
    | none => exact ih

theorem shortest_ne_zero {units : Nat} (nonzero : units ≠ 0) : (shortest units).digits ≠ 0 :=
  shortestFrom_ne_zero nonzero (onGrid_leading_ne_zero nonzero) _

def Unsigned (cs : List Char) : Prop := ∃ c, cs.getLast? = some c ∧ c ≠ '+' ∧ c ≠ '-'

theorem unsigned_append {a b : List Char} (last : Unsigned b) : Unsigned (a ++ b) := by
  obtain ⟨c, shape, other⟩ := last
  exact ⟨c, by rw [List.getLast?_append, shape, Option.some_or], other⟩

theorem unsigned_cons {c : Char} {cs : List Char} (last : Unsigned cs) : Unsigned (c :: cs) :=
  unsigned_append (a := [c]) last

theorem unsigned_of_signless {cs : List Char} (nonempty : cs ≠ [])
    (signless : ∀ c ∈ cs, c ≠ '+' ∧ c ≠ '-') : Unsigned cs := by
  have last := List.getLast?_eq_getLast_of_ne_nil nonempty
  exact ⟨_, last, signless _ (List.getLast_mem nonempty)⟩

theorem signless_digit {n : Nat} {c : Char} (digit : c ∈ Nat.toDigits 10 n) :
    c ≠ '+' ∧ c ≠ '-' := by
  have decimal : c.isDigit = true :=
    Nat.isDigit_of_mem_toDigits (by decide) (by decide) digit
  constructor <;> rintro rfl <;> revert decimal <;> decide

theorem unsigned_digits (n : Nat) : Unsigned (Nat.toDigits 10 n) :=
  unsigned_of_signless Nat.toDigits_ne_nil fun _ => signless_digit

theorem unsigned_exponentText (exponent : Int) : Unsigned (exponentText exponent) := by
  refine unsigned_cons (unsigned_cons ?_)
  split
  · exact unsigned_cons (unsigned_digits _)
  · exact unsigned_digits _

theorem unsigned_withExponent {digits : List Char} (nonempty : digits ≠ []) (exponent : Int) :
    Unsigned (withExponent digits exponent) := by
  match digits with
  | [] => exact absurd rfl nonempty
  | [d] => exact unsigned_cons (unsigned_exponentText exponent)
  | d :: e :: more => exact unsigned_cons (unsigned_cons (unsigned_append (a := e :: more)
      (unsigned_exponentText exponent)))

theorem unsigned_positional {digits : List Char} (signless : ∀ c ∈ digits, c ≠ '+' ∧ c ≠ '-')
    (exponent : Int) : Unsigned (positional digits exponent) := by
  unfold positional
  split
  · refine unsigned_of_signless (by simp) fun c present => ?_
    simp only [List.cons_append, List.mem_cons, List.mem_append] at present
    rcases present with rfl | rfl | zero | digit
    · decide
    · decide
    · rw [List.eq_of_mem_replicate zero]
      decide
    · exact signless c digit
  · refine unsigned_append (unsigned_cons ?_)
    split
    · exact ⟨'0', rfl, by decide⟩
    · next some =>
      exact unsigned_of_signless (by simpa using some) fun c present =>
        signless c (List.mem_of_mem_drop present)

theorem unsigned_magnitudeText (units : Nat) : Unsigned (magnitudeText units) := by
  unfold magnitudeText
  split
  · exact ⟨'0', rfl, by decide⟩
  · next nonzero =>
    obtain ⟨c, present, other⟩ := digit_ne_zero (shortest_ne_zero nonzero)
    have kept : c ∈ (scientific (shortest units)).1 :=
      Text.mem_dropEndWhile present (by simpa using other)
    have signless : ∀ d ∈ (scientific (shortest units)).1, d ≠ '+' ∧ d ≠ '-' := fun d digit =>
      signless_digit (Text.mem_of_mem_dropEndWhile digit)
    dsimp only
    split
    · exact unsigned_withExponent (List.ne_nil_of_mem kept) _
    · exact unsigned_positional signless _

theorem unsigned_text (x : Binary64) : Unsigned x.text.toList := by
  cases x with
  | nan => exact ⟨'n', by decide, by decide⟩
  | infinity negative => cases negative <;> exact ⟨'f', by decide, by decide⟩
  | finite negative units =>
    simp only [text, String.toList_ofList]
    split
    · exact unsigned_cons (unsigned_magnitudeText units)
    · exact unsigned_magnitudeText units

theorem unsigned_int (n : Int) : Unsigned (toString n).toList := by
  cases n with
  | ofNat n => simpa [Int.repr, Nat.repr] using unsigned_digits n
  | negSucc n => simpa [Int.repr, Nat.repr] using unsigned_cons (unsigned_digits (n + 1))

theorem unsigned_plain (x : Binary64) : Unsigned x.plain.toList := by
  unfold plain
  split
  · exact unsigned_int _
  · exact unsigned_text _

end Binary64

end SloCompiler
