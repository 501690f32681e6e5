import SloCompiler.Proofs.NumeralValue

namespace SloCompiler

-- What a scalar stands for: numbers of all kinds for their value, times for their moment.
inductive Identity where
  | null
  | number (q : ℚ)
  | infinite (negative : Bool)
  | text (s : String)
  | octets (bytes : List UInt8)
  | day (d : Date)
  | moment (zoned : Bool) (instant : Int)

def Identity.isNumber : Identity → Bool
  | .number _ | .infinite _ => true
  | _ => false

namespace Binary64

theorem unitsPerOne_pos : 0 < unitsPerOne := by decide +kernel

def quotient (negative : Bool) (units : Nat) : ℚ := signedUnits negative units / unitsPerOne

theorem quotient_eq_quotient {a b : Bool} {m n : Nat} :
    quotient a m = quotient b n ↔ signedUnits a m = signedUnits b n := by
  have nonzero : (unitsPerOne : ℚ) ≠ 0 := Nat.cast_ne_zero.mpr unitsPerOne_pos.ne'
  rw [quotient, quotient, div_left_inj' nonzero, Int.cast_inj]

theorem quotient_eq_whole {negative : Bool} {units : Nat} {n : Int} :
    quotient negative units = n ↔ signedUnits negative units = n * unitsPerOne := by
  have nonzero : (unitsPerOne : ℚ) ≠ 0 := Nat.cast_ne_zero.mpr unitsPerOne_pos.ne'
  rw [quotient, div_eq_iff nonzero]
  generalize unitsPerOne = one
  exact_mod_cast Iff.rfl

-- A NaN stands for nothing, not even for itself.
def identity? : Binary64 → Option Identity
  | .nan => none
  | .infinity negative => some (.infinite negative)
  | .finite negative units => some (.number (quotient negative units))

theorem identity?_ne {x : Binary64} {i : Identity} (other : i.isNumber = false) :
    x.identity? ≠ some i := by
  rintro stands
  cases x <;> cases stands <;> cases other

theorem equals_iff {x y : Binary64} :
    x.equals y = true ↔ ∃ i, x.identity? = some i ∧ y.identity? = some i := by
  cases x with
  | nan => simp [equals, compare?, identity?]
  | infinity a =>
    cases y with
    | nan => simp [equals, compare?, identity?]
    | infinity b => cases a <;> cases b <;> simp [equals, compare?, identity?]
    | finite b n => cases a <;> simp [equals, compare?, identity?]
  | finite a m =>
    cases y with
    | nan => simp [equals, compare?, identity?]
    | infinity b => cases b <;> simp [equals, compare?, identity?]
    | finite b n =>
      simpa [equals, compare?, identity?, ← quotient_eq_quotient] using eq_comm

theorem compareInt?_iff {x : Binary64} {n : Int} :
    x.compareInt? n = some .eq ↔ x.identity? = some (.number n) := by
  cases x with
  | nan => simp [compareInt?, identity?]
  | infinity negative => cases negative <;> simp [compareInt?, identity?]
  | finite negative units =>
    rw [compareInt?, identity?, Option.some.injEq, Option.some.injEq, Identity.number.injEq,
      quotient_eq_whole, Std.LawfulEqCmp.compare_eq_iff_eq]

end Binary64

namespace Value

def numberIdentity? : Int ⊕ Binary64 → Option Identity
  | .inl n => some (.number n)
  | .inr x => x.identity?

theorem sameNumber_iff {a b : Int ⊕ Binary64} :
    sameNumber a b = true ↔ ∃ i, numberIdentity? a = some i ∧ numberIdentity? b = some i := by
  cases a with
  | inl m =>
    cases b with
    | inl n => simpa [sameNumber, numberIdentity?] using eq_comm
    | inr x => simp [sameNumber, numberIdentity?, Binary64.compareInt?_iff]
  | inr x =>
    cases b with
    | inl n => simp [sameNumber, numberIdentity?, Binary64.compareInt?_iff]
    | inr y => exact Binary64.equals_iff

def identity? : Value → Option Identity
  | .null => some .null
  | .bool b => some (.number b.toNat)
  | .int n => some (.number n)
  | .float x => x.identity?
  | .str s => some (.text s)
  | .bytes octets => some (.octets octets)
  | .date d => some (.day d)
  | .dateTime t => some (.moment t.offset.isSome t.instant)
  | .list _ | .map _ | .set _ => none

def Equals (v w : Value) : Prop := ∃ i, v.identity? = some i ∧ w.identity? = some i

theorem sameScalar_iff {v w : Value} : v.sameScalar w = true ↔ v.Equals w := by
  cases v <;> cases w <;>
    simp [sameScalar, Equals, identity?, number?, sameNumber_iff, numberIdentity?,
      DateTime.equals]
  case str.str | bytes.bytes | date.date => exact eq_comm
  case dateTime.dateTime => exact and_congr eq_comm eq_comm
  -- What is left are floats beside values of other kinds.
  all_goals exact Binary64.identity?_ne rfl

example : (Value.int 1).Equals (.bool true) := ⟨.number 1, rfl, rfl⟩

end Value

end SloCompiler
