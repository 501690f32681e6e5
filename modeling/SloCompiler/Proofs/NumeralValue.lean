import Mathlib.Algebra.Order.Field.Power
import Mathlib.Algebra.Order.Field.Rat
import Mathlib.Tactic.FieldSimp
import Mathlib.Tactic.Positivity
import Mathlib.Tactic.Ring
import SloCompiler.Proofs.NumeralEnd

namespace SloCompiler

namespace Binary64

def Decimal.value (d : Decimal) : ℚ := d.digits * (10 : ℚ) ^ d.exponent

def value? : Binary64 → Option ℚ
  | .finite negative units => some (signedUnits negative units / unitsPerOne)
  | _ => none

theorem value?_finite (units : Nat) :
    (finite false units).value? = some ((units : ℚ) / unitsPerOne) := by
  have natural : ((units : Int) : ℚ) = units := Int.cast_natCast units
  rw [value?, signedUnits, if_neg Bool.false_ne_true, natural]

end Binary64

namespace Numeral
open Binary64

-- Texts of numbers as a query reads them: a sign, digits with a point among them, a power of ten.

def natural? (cs : List Char) : Option Nat :=
  if cs.isEmpty || !cs.all Char.isDigit then none else some (Nat.ofDigitChars 10 cs 0)

def exponent? : List Char → Option Int
  | [] => some 0
  | 'e' :: '-' :: cs => (natural? cs).map fun n : Nat => -(n : Int)
  | 'e' :: '+' :: cs => (natural? cs).map fun n : Nat => (n : Int)
  | 'e' :: cs => (natural? cs).map fun n : Nat => (n : Int)
  | _ => none

def parted (cs : List Char) : List Char × List Char × List Char :=
  let rest := cs.dropWhile Char.isDigit
  match rest with
  | '.' :: more =>
    (cs.takeWhile Char.isDigit, more.takeWhile Char.isDigit, more.dropWhile Char.isDigit)
  | _ => (cs.takeWhile Char.isDigit, [], rest)

def decimal? (cs : List Char) : Option Decimal :=
  let (whole, fraction, power) := parted cs
  if whole.isEmpty && fraction.isEmpty then none
  else (exponent? power).map fun exponent =>
    ⟨Nat.ofDigitChars 10 (whole ++ fraction) 0, exponent - fraction.length⟩

def value? (s : String) : Option ℚ :=
  match s.toList with
  | '-' :: cs => (decimal? cs).map fun d => -d.value
  | cs => (decimal? cs).map (·.value)

def Digits (cs : List Char) : Prop := ∀ c ∈ cs, c.isDigit = true

theorem digits_append {a b : List Char} (left : Digits a) (right : Digits b) : Digits (a ++ b) := by
  intro c present
  cases List.mem_append.mp present with
  | inl first => exact left c first
  | inr second => exact right c second

theorem digits_toDigits (n : Nat) : Digits (Nat.toDigits 10 n) := by
  intro c present
  exact Nat.isDigit_of_mem_toDigits (by decide) (by decide) present

theorem digits_zeros (n : Nat) : Digits (List.replicate n '0') := by
  intro c present
  rw [List.eq_of_mem_replicate present]
  rfl

def Ended (cs : List Char) : Prop := ∀ c, cs.head? = some c → c.isDigit = false ∧ c ≠ '.'

theorem ended_nil : Ended [] := fun _ first => nomatch first

theorem parted_whole {whole power : List Char} (digits : Digits whole) (ended : Ended power) :
    parted (whole ++ power) = (whole, [], power) := by
  obtain ⟨taken, dropped⟩ := Text.partWhile_append digits fun c first => (ended c first).1
  simp only [parted, taken, dropped]
  split
  · exact absurd rfl (ended '.' rfl).2
  · rfl

theorem parted_point {whole fraction power : List Char} (digits : Digits whole)
    (places : Digits fraction) (ended : Ended power) :
    parted (whole ++ '.' :: (fraction ++ power)) = (whole, fraction, power) := by
  have point : ∀ c, ('.' :: (fraction ++ power)).head? = some c → c.isDigit = false := by
    intro c first
    cases first
    rfl
  obtain ⟨taken, dropped⟩ := Text.partWhile_append digits point
  obtain ⟨after, left⟩ := Text.partWhile_append places fun c first => (ended c first).1
  simp only [parted, taken, dropped, after, left]

theorem decimal?_whole {whole power : List Char} {exponent : Int} (digits : Digits whole)
    (some_digit : whole ≠ []) (ended : Ended power) (reads : exponent? power = some exponent) :
    decimal? (whole ++ power) = some ⟨Nat.ofDigitChars 10 whole 0, exponent⟩ := by
  simp [decimal?, parted_whole digits ended, some_digit, reads]

theorem decimal?_point {whole fraction power : List Char} {exponent : Int} (digits : Digits whole)
    (some_digit : whole ≠ []) (places : Digits fraction) (ended : Ended power)
    (reads : exponent? power = some exponent) :
    decimal? (whole ++ '.' :: (fraction ++ power)) =
      some ⟨Nat.ofDigitChars 10 (whole ++ fraction) 0, exponent - fraction.length⟩ := by
  simp [decimal?, parted_point digits places ended, some_digit, reads]

theorem exponent?_nil : exponent? [] = some 0 := rfl

theorem natural?_digits {cs : List Char} (digits : Digits cs) (some_digit : cs ≠ []) :
    natural? cs = some (Nat.ofDigitChars 10 cs 0) := by
  have all : cs.all Char.isDigit = true := List.all_eq_true.mpr digits
  simp [natural?, all, some_digit]

theorem natural?_padded (n : Nat) :
    natural? (if (Nat.toDigits 10 n).length < 2 then '0' :: Nat.toDigits 10 n
      else Nat.toDigits 10 n) = some n := by
  split
  · have digits : Digits ('0' :: Nat.toDigits 10 n) :=
      digits_append (digits_zeros 1) (digits_toDigits n)
    rw [natural?_digits digits (by simp), Nat.ofDigitChars_cons]
    exact congrArg some Nat.ofDigitChars_ten_toDigits
  · rw [natural?_digits (digits_toDigits n) Nat.toDigits_ne_nil, Nat.ofDigitChars_ten_toDigits]

theorem exponent?_exponentText (exponent : Int) :
    exponent? (exponentText exponent) = some exponent := by
  have reads := natural?_padded exponent.natAbs
  by_cases negative : exponent < 0
  · simp only [exponentText, if_pos negative, exponent?, reads, Option.map_some]
    exact congrArg some (by omega)
  · simp only [exponentText, if_neg negative, exponent?, reads, Option.map_some]
    exact congrArg some (by omega)

theorem ended_exponentText (exponent : Int) : Ended (exponentText exponent) := by
  intro c first
  cases first
  decide

-- The worth of digits of which the first stands at an exponent.
def worth (digits : List Char) (leading : Int) : ℚ :=
  Nat.ofDigitChars 10 digits 0 * (10 : ℚ) ^ (leading + 1 - digits.length)

theorem ofDigitChars_zeros (digits : List Char) (n : Nat) :
    Nat.ofDigitChars 10 (digits ++ List.replicate n '0') 0 =
      10 ^ n * Nat.ofDigitChars 10 digits 0 := by
  rw [Nat.ofDigitChars_append, Nat.ofDigitChars_replicate_zero]

theorem zeros_ofDigitChars (n : Nat) (digits : List Char) :
    Nat.ofDigitChars 10 (List.replicate n '0' ++ digits) 0 = Nat.ofDigitChars 10 digits 0 := by
  rw [Nat.ofDigitChars_append, Nat.ofDigitChars_replicate_zero, Nat.mul_zero]

theorem value_zeros (n : Nat) (power : Int) (digits : List Char) :
    (⟨Nat.ofDigitChars 10 (digits ++ List.replicate n '0') 0, power⟩ : Decimal).value =
      Nat.ofDigitChars 10 digits 0 * (10 : ℚ) ^ (n + power) := by
  rw [Decimal.value, ofDigitChars_zeros, zpow_add₀ (by norm_num), zpow_natCast]
  push_cast
  ring

theorem decimal?_withExponent {digits : List Char} (all : Digits digits) (some_digit : digits ≠ [])
    (leading : Int) :
    ∃ d, decimal? (withExponent digits leading) = some d ∧ d.value = worth digits leading := by
  have ended := ended_exponentText leading
  have reads := exponent?_exponentText leading
  match digits with
  | [] => exact absurd rfl some_digit
  | [c] =>
    refine ⟨_, decimal?_whole all some_digit ended reads, ?_⟩
    simp [Decimal.value, worth]
  | c :: e :: more =>
    have first : Digits [c] := fun d present => all d (by simp_all)
    have others : Digits (e :: more) := fun d present => all d (List.mem_cons_of_mem c present)
    refine ⟨_, decimal?_point first (by simp) others ended reads, ?_⟩
    simp only [Decimal.value, worth, List.cons_append, List.nil_append, List.length_cons]
    push_cast
    ring_nf

theorem decimal?_fixed {whole fraction : List Char} (digits : Digits whole)
    (some_digit : whole ≠ []) (places : Digits fraction) :
    decimal? (whole ++ '.' :: fraction) =
      some ⟨Nat.ofDigitChars 10 (whole ++ fraction) 0, -fraction.length⟩ := by
  have reads := decimal?_point digits some_digit places ended_nil exponent?_nil
  rw [List.append_nil, Int.zero_sub] at reads
  exact reads

theorem decimal?_positional {digits : List Char} (all : Digits digits) (some_digit : digits ≠ [])
    (leading : Int) :
    ∃ d, decimal? (positional digits leading) = some d ∧ d.value = worth digits leading := by
  -- The point stands before the digits, among them, or behind them and zeros that fill up.
  by_cases small : leading < 0
  · have places := digits_append (digits_zeros (leading.natAbs - 1)) all
    have shape : positional digits leading =
        ['0'] ++ '.' :: (List.replicate (leading.natAbs - 1) '0' ++ digits) := by
      rw [positional, if_pos small]
      rfl
    refine ⟨_, shape ▸ decimal?_fixed (digits_zeros 1) (by simp) places, ?_⟩
    have spread : -((List.replicate (leading.natAbs - 1) '0' ++ digits).length : Int) =
        leading + 1 - digits.length := by
      rw [List.length_append, List.length_replicate]
      omega
    rw [spread, Decimal.value, worth, ← List.append_assoc, List.replicate_append_replicate,
      zeros_ofDigitChars]
  · rcases Nat.lt_or_ge (leading.natAbs + 1) digits.length with long | short
    · have shape : positional digits leading =
          digits.take (leading.natAbs + 1) ++ '.' :: digits.drop (leading.natAbs + 1) := by
        simp [positional, small, Nat.sub_eq_zero_of_le long.le, long]
      have whole : Digits (digits.take (leading.natAbs + 1)) :=
        fun c present => all c (List.mem_of_mem_take present)
      have places : Digits (digits.drop (leading.natAbs + 1)) :=
        fun c present => all c (List.mem_of_mem_drop present)
      refine ⟨_, shape ▸ decimal?_fixed whole (by simp [some_digit]) places, ?_⟩
      have spread : -((digits.drop (leading.natAbs + 1)).length : Int) =
          leading + 1 - digits.length := by
        rw [List.length_drop]
        omega
      rw [spread, Decimal.value, worth, List.take_append_drop]
    · have shape : positional digits leading =
          (digits ++ List.replicate (leading.natAbs + 1 - digits.length) '0') ++
            '.' :: List.replicate 1 '0' := by
        simp [positional, small, short, List.take_of_length_le short]
      have whole := digits_append all (digits_zeros (leading.natAbs + 1 - digits.length))
      refine ⟨_, shape ▸ decimal?_fixed whole (by simp [some_digit]) (digits_zeros 1), ?_⟩
      have spread : ((leading.natAbs + 1 - digits.length + 1 : Nat) : Int) +
          -((List.replicate 1 '0').length : Int) = leading + 1 - digits.length := by
        rw [List.length_replicate]
        omega
      rw [List.append_assoc, List.replicate_append_replicate, value_zeros, spread, worth]

theorem dropEndWhile_zeros (cs : List Char) :
    ∃ n, cs = Text.dropEndWhile (· == '0') cs ++ List.replicate n '0' := by
  refine ⟨(cs.reverse.takeWhile (· == '0')).length, ?_⟩
  have zeros : cs.reverse.takeWhile (· == '0') =
      List.replicate (cs.reverse.takeWhile (· == '0')).length '0' :=
    List.eq_replicate_of_mem fun c present => by simpa using List.mem_takeWhile_imp present
  rw [Text.dropEndWhile, ← List.reverse_replicate, ← zeros, ← List.reverse_append,
    List.takeWhile_append_dropWhile, List.reverse_reverse]

theorem worth_scientific (d : Decimal) : worth (scientific d).1 (scientific d).2 = d.value := by
  obtain ⟨n, shape⟩ := dropEndWhile_zeros (Nat.toDigits 10 d.digits)
  unfold scientific
  dsimp only
  generalize Text.dropEndWhile (· == '0') (Nat.toDigits 10 d.digits) = kept at shape
  have digits : d.digits = Nat.ofDigitChars 10 (kept ++ List.replicate n '0') 0 := by
    rw [← shape, Nat.ofDigitChars_ten_toDigits]
  have same : d.value =
      (⟨Nat.ofDigitChars 10 (kept ++ List.replicate n '0') 0, d.exponent⟩ : Decimal).value := by
    rw [Decimal.value, digits, Decimal.value]
  have places : d.exponent + (Nat.toDigits 10 d.digits).length - 1 + 1 - kept.length =
      n + d.exponent := by
    rw [shape, List.length_append, List.length_replicate]
    omega
  rw [worth, places, same, value_zeros]

def magnitude (units : Nat) : ℚ := if units = 0 then 0 else (shortest units).value

theorem magnitude_pos {units : Nat} (nonzero : units ≠ 0) : 0 < magnitude units := by
  have digits : 0 < (shortest units).digits := Nat.pos_of_ne_zero (shortest_ne_zero nonzero)
  rw [magnitude, if_neg nonzero, Decimal.value]
  positivity

theorem decimal?_magnitudeText (units : Nat) :
    ∃ d, decimal? (magnitudeText units) = some d ∧ d.value = magnitude units := by
  by_cases zero : units = 0
  · refine ⟨⟨0, -1⟩, by subst zero; decide, ?_⟩
    simp [magnitude, zero, Decimal.value]
  · obtain ⟨c, present, other⟩ := digit_ne_zero (shortest_ne_zero zero)
    have kept : c ∈ (scientific (shortest units)).1 :=
      Text.mem_dropEndWhile present (by simpa using other)
    have digits : Digits (scientific (shortest units)).1 := fun c present =>
      digits_toDigits _ c (Text.mem_of_mem_dropEndWhile present)
    rw [magnitude, if_neg zero, ← worth_scientific, magnitudeText, if_neg zero]
    dsimp only
    split
    · exact decimal?_withExponent digits (List.ne_nil_of_mem kept) _
    · exact decimal?_positional digits (List.ne_nil_of_mem kept) _

theorem decimal?_toDigits (n : Nat) : decimal? (Nat.toDigits 10 n) = some ⟨n, 0⟩ := by
  have reads := decimal?_whole (digits_toDigits n) Nat.toDigits_ne_nil ended_nil exponent?_nil
  rw [List.append_nil, Nat.ofDigitChars_ten_toDigits] at reads
  exact reads

theorem value?_negative {cs : List Char} {d : Decimal} (reads : decimal? cs = some d) :
    value? (String.ofList ('-' :: cs)) = some (-d.value) := by
  simp [value?, reads]

theorem value?_natural {cs : List Char} {d : Decimal} (reads : decimal? cs = some d) :
    value? (String.ofList cs) = some d.value := by
  unfold value?
  rw [String.toList_ofList]
  split
  · cases reads
  · rw [reads]
    rfl

theorem value?_int (n : Int) : value? (toString n) = some (n : ℚ) := by
  cases n with
  | ofNat n =>
    have shape : toString (Int.ofNat n) = String.ofList (Nat.toDigits 10 n) := rfl
    rw [shape, value?_natural (decimal?_toDigits n)]
    simp [Decimal.value]
  | negSucc n =>
    have shape : toString (Int.negSucc n) = String.ofList ('-' :: Nat.toDigits 10 (n + 1)) :=
      String.toList_inj.mp (by simp [Int.repr, Nat.repr])
    rw [shape, value?_negative (decimal?_toDigits (n + 1))]
    simp [Decimal.value]

theorem value?_text (negative : Bool) (units : Nat) :
    value? (Binary64.finite negative units).text =
      some (if negative then -magnitude units else magnitude units) := by
  obtain ⟨d, reads, worth⟩ := decimal?_magnitudeText units
  cases negative with
  | false => simpa [text, worth] using value?_natural reads
  | true => simpa [text, worth] using value?_negative reads

theorem value?_plain (negative : Bool) (units : Nat) :
    ∃ distance : ℚ, value? (Binary64.finite negative units).plain =
      some (if negative then -distance else distance) ∧
        0 ≤ distance ∧ (distance = 0 ↔ units = 0) := by
  unfold plain
  split
  · next n whole =>
    simp only [toInt?, Option.ite_none_right_eq_some, Option.some.injEq] at whole
    obtain ⟨divides, rfl⟩ := whole
    refine ⟨(units / unitsPerOne : Nat), ?_, Nat.cast_nonneg _, ?_⟩
    · rw [value?_int]
      generalize units / unitsPerOne = count
      cases negative <;> simp [signedUnits]
    · rw [Nat.cast_eq_zero]
      have split := Nat.div_add_mod units unitsPerOne
      constructor
      · intro none
        rw [none, divides] at split
        omega
      · intro none
        rw [none, Nat.zero_div]
  · refine ⟨magnitude units, value?_text negative units, ?_, ?_⟩
    · by_cases zero : units = 0
      · rw [magnitude, if_pos zero]
      · exact (magnitude_pos zero).le
    · constructor
      · intro none
        by_contra nonzero
        exact (magnitude_pos nonzero).ne' none
      · intro zero
        rw [magnitude, if_pos zero]

end Numeral

end SloCompiler
