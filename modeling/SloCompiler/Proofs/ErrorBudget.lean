import Mathlib.Tactic.Linarith
import SloCompiler.Proofs.Assembly
import SloCompiler.Proofs.NumeralValue
import SloCompiler.Proofs.Rounding

namespace SloCompiler

namespace Schema

theorem required_checked {name : FieldName} {check : Value → Checked α} {v : Value} {a : α}
    (given : name.required check v = .ok a) : ∃ found, check found = .ok a := by
  unfold FieldName.required at given
  split at given
  · next found _ => exact ⟨_, Checked.within_ok.mp given⟩
  · cases Checked.within_ok.mp given

theorem numberBelow_ok {bound : Nat} {v : Value} {x : Binary64}
    (checked : numberBelow bound v = .ok x) :
    ∃ units, x = .finite false units ∧ 0 < units ∧ units < bound * Binary64.unitsPerOne := by
  obtain ⟨y, _, checked⟩ := bind_ok.mp checked
  split at checked
  · cases checked
  · split at checked
    · cases checked
    · next below above =>
      cases checked
      cases x with
      | nan => simp [Binary64.compareInt?] at below
      | infinity negative => cases negative <;> simp [Binary64.compareInt?] at below above
      | finite negative units =>
        simp only [Binary64.compareInt?, bne_iff_ne, ne_eq, not_not, Option.some.injEq,
          Int.compare_eq_lt, Int.compare_eq_gt, Int.zero_mul] at below above
        cases negative with
        | true =>
          simp only [Binary64.signedUnits, if_true] at above
          omega
        | false =>
          simp only [Binary64.signedUnits, Bool.false_eq_true, if_false] at below above
          exact ⟨units, rfl, by omega, by exact_mod_cast below⟩

end Schema

namespace Binary64

theorem ofUnits_finite {num den bound : Nat} (small : num / den ≤ bound)
    (room : 2 * bound + 1 < unitLimit) (negative : Bool) :
    ofUnits negative num den = .finite negative (roundUnits num den) := by
  have rounded := roundUnits_le num den
  rw [ofUnits]
  exact if_pos (by omega)

theorem sub_hundred {units : Nat} (below : units < 100 * unitsPerOne) :
    sub (ofRatio false 100 1) (.finite false units) =
      .finite false (roundUnits (100 * unitsPerOne - units) 1) := by
  have hundred : ofRatio false 100 1 = .finite false (100 * unitsPerOne) := by decide +kernel
  have room : 2 * (100 * unitsPerOne) + 1 < unitLimit := by decide +kernel
  have sum : signedUnits false (100 * unitsPerOne) + signedUnits true units =
      ((100 * unitsPerOne - units : Nat) : Int) := by
    simp only [signedUnits, Bool.false_eq_true, if_false, if_true]
    omega
  have positive : ((100 * unitsPerOne - units : Nat) : Int) ≠ 0 := by omega
  have natural : ¬((100 * unitsPerOne - units : Nat) : Int) < 0 := by omega
  rw [hundred, sub, neg, Bool.not_false, add, sum]
  rw [if_neg positive, Int.natAbs_natCast, decide_eq_false natural]
  exact ofUnits_finite (by rw [Nat.div_one]; omega) room false

theorem ofDecimal_millionths (count : Nat) (few : count < 10 ^ 9) :
    ∃ units, ofDecimal false count (-6) = .finite false units ∧ (units = 0 ↔ count = 0) := by
  by_cases zero : count = 0
  · exact ⟨0, by simp [ofDecimal, zero], by simp [zero]⟩
  · have digits : digitCount count ≤ 9 :=
      (Nat.length_toDigits_le_iff (b := 10) (n := count) (by decide) (by decide)).mpr few
    have room : 2 * (10 ^ 9 * unitsPerOne) + 1 < unitLimit := by decide +kernel
    have scale : 10 ^ 6 ≤ unitsPerOne := by decide +kernel
    have small : count * unitsPerOne / 10 ^ 6 ≤ 10 ^ 9 * unitsPerOne :=
      Nat.le_trans (Nat.div_le_self _ _) (Nat.mul_le_mul_right _ few.le)
    have large : 10 ^ 6 ≤ count * unitsPerOne :=
      Nat.le_trans scale (Nat.le_mul_of_pos_left _ (Nat.pos_of_ne_zero zero))
    have some : count * unitsPerOne / 10 ^ 6 ≠ 0 := (Nat.div_pos large (by decide)).ne'
    have kept := lt_two_mul_roundUnits some
    refine ⟨roundUnits (count * unitsPerOne) (10 ^ 6), ?_, by omega⟩
    have least : ¬(digitCount count : Int) + -6 < -330 := by omega
    have most : ¬(digitCount count : Int) + -6 > 310 := by omega
    have ratio : ofDecimal false count (-6) = ofRatio false count (10 ^ 6) := by
      simp [ofDecimal, zero, least, most]
    rw [ratio, ofRatio]
    exact ofUnits_finite small room false

theorem roundTo_millionths (units : Nat) (below : units ≤ 201 * unitsPerOne) :
    ∃ rounded, roundTo 6 (.finite false units) = .finite false rounded ∧
      (rounded = 0 ↔ 2 * 10 ^ 6 * units ≤ unitsPerOne) := by
  have positive : 0 < unitsPerOne := by decide +kernel
  have quotient : units * 10 ^ 6 / unitsPerOne ≤ 201 * 10 ^ 6 := by
    rw [Nat.div_le_iff_le_mul_add_pred positive]
    nlinarith
  have count := roundQuotient_le (units * 10 ^ 6) unitsPerOne
  obtain ⟨rounded, made, zero⟩ :=
    ofDecimal_millionths (roundQuotient (units * 10 ^ 6) unitsPerOne) (by omega)
  refine ⟨rounded, made, zero.trans ?_⟩
  rw [roundQuotient_eq_zero positive]
  omega

-- Near 100 the distance to it is a double itself, and further off its rounding does not matter.
theorem distance_to_hundred {units : Nat} (rounded : roundUnits units 1 = units)
    (below : units < 100 * unitsPerOne) :
    2 * 10 ^ 6 * roundUnits (100 * unitsPerOne - units) 1 ≤ unitsPerOne ↔
      999999995 * unitsPerOne ≤ 10 ^ 7 * units := by
  rcases Nat.lt_or_ge units (64 * unitsPerOne) with far | near
  · have some : (100 * unitsPerOne - units) / 1 ≠ 0 := by
      rw [Nat.div_one]
      omega
    have kept := lt_two_mul_roundUnits some
    rw [Nat.div_one] at kept
    omega
  · obtain ⟨k, large, hundred, room⟩ : ∃ k, 2 ^ (k + 52) ≤ 64 * unitsPerOne ∧
        2 ^ k ∣ 100 * unitsPerOne ∧ 36 * unitsPerOne < 2 ^ (k + 53) :=
      ⟨1028, by decide +kernel, by decide +kernel, by decide +kernel⟩
    have multiple : 2 ^ k ∣ units := multiple_of_large rounded (large.trans near)
    have exact : roundUnits (100 * unitsPerOne - units) 1 = 100 * unitsPerOne - units :=
      roundUnits_of_multiple (Nat.dvd_sub hundred multiple) (by omega)
    rw [exact]
    omega

end Binary64

namespace Slo
open Binary64

theorem budget_finite {spec : SliSpec} {units : Nat} (target : spec.sloTarget = .finite false units)
    (below : units < 100 * unitsPerOne) (rounded : roundUnits units 1 = units) :
    ∃ rest, budget spec = .finite false rest ∧
      (rest = 0 ↔ 999999995 * unitsPerOne ≤ 10 ^ 7 * units) := by
  have distance := roundUnits_le (100 * unitsPerOne - units) 1
  have one : 1 ≤ unitsPerOne := by decide +kernel
  rw [Nat.div_one] at distance
  obtain ⟨rest, made, zero⟩ :=
    roundTo_millionths (roundUnits (100 * unitsPerOne - units) 1) (by omega)
  refine ⟨rest, ?_, zero.trans (distance_to_hundred rounded below)⟩
  rw [budget, target, sub_hundred below, made]

theorem budgetRule_expr (spec : SliSpec) (metadata : SliMetadata) :
    (budgetRule spec metadata).expr =
      "(" ++ (SliIdentity.series ⟨metadata.product, metadata.sliId⟩ complianceRecord).render ++
        " - " ++ spec.sloTarget.plain ++ ") / " ++ (budget spec).plain ++ " * 100" := by
  rw [budgetRule, errorBudget]
  simp only [Expr.render_binary, Expr.render_group, Expr.render_text]
  apply String.toList_inj.mp
  simp

theorem ratio_lt_iff {units one : Nat} (positive : 0 < one) :
    (units : ℚ) / one < 99.9999995 ↔ ¬999999995 * one ≤ 10 ^ 7 * units := by
  rw [div_lt_iff₀ (Nat.cast_pos.mpr positive), Nat.not_le, ← Nat.cast_lt (α := ℚ)]
  push_cast
  constructor
  · intro low
    linarith
  · intro low
    linarith

-- The second of the rules of an objective divides by what the target leaves. The divisor is never
-- negative, and it is above zero exactly up to a target of 99.9999995.
theorem budget_pos_iff {raw product sliId : Value} {spec : SliSpec}
    (accepted : SliSpec.read raw product sliId = .ok spec) (double : spec.sloTarget.Representable)
    (metadata : SliMetadata) :
    ∃ first second target divisor,
      rules spec metadata.labels = .ok [first, second] ∧
        second.record = errorBudgetRecord ∧
        second.expr =
          "(" ++ (SliIdentity.series ⟨metadata.product, metadata.sliId⟩ complianceRecord).render ++
            " - " ++ spec.sloTarget.plain ++ ") / " ++ (budget spec).plain ++ " * 100" ∧
        spec.sloTarget.value? = some target ∧ 0 < target ∧ target < 100 ∧
        Numeral.value? (budget spec).plain = some divisor ∧
          0 ≤ divisor ∧ (0 < divisor ↔ target < 99.9999995) := by
  obtain ⟨_, checked⟩ := Schema.required_checked (SliSpec.read_accepts accepted).sloTarget
  obtain ⟨units, shape, positive, below⟩ := Schema.numberBelow_ok checked
  rw [shape] at double
  obtain ⟨rest, made, zero⟩ : ∃ rest, budget spec = .finite false rest ∧
      (rest = 0 ↔ 999999995 * unitsPerOne ≤ 10 ^ 7 * units) := by
    cases double with
    | finite _ rounded _ => exact budget_finite shape below rounded
  obtain ⟨divisor, reads, natural, none⟩ := Numeral.value?_plain false rest
  have one : 0 < unitsPerOne := by decide +kernel
  have least : (0 : ℚ) < units / unitsPerOne :=
    div_pos (Nat.cast_pos.mpr positive) (Nat.cast_pos.mpr one)
  have most : (units : ℚ) / unitsPerOne < 100 := by
    rw [div_lt_iff₀ (Nat.cast_pos.mpr one)]
    exact_mod_cast below
  -- The divisor is never negative, so it is above zero exactly if it does not vanish.
  have threshold : 0 < divisor ↔ (units : ℚ) / unitsPerOne < 99.9999995 := by
    rw [ratio_lt_iff one, ← zero, ← none]
    exact natural.lt_iff_ne'
  refine ⟨complianceRule spec metadata, budgetRule spec metadata, (units : ℚ) / unitsPerOne, divisor,
    ?_, ?_, ?_, ?_, ?_, ?_, ?_, ?_, ?_⟩
  · exact rules_eq spec metadata
  · rfl
  · exact budgetRule_expr spec metadata
  · rw [shape]
    exact value?_finite units
  · exact least
  · exact most
  · rw [made, reads]
    rfl
  · exact natural
  · exact threshold

end Slo

namespace Sample

def aiming (target : Binary64) : Value :=
  .object [
    ("title", .str "T"), ("metricType", .str "up"), ("metricTarget", .int 1),
    ("sloTarget", .float target)]

end Sample

namespace Slo
open Binary64

theorem high_budget_pos : ∃ spec first second target divisor,
    SliSpec.read (Sample.aiming (ofDecimal false 999999 (-4))) .null .null = .ok spec ∧
      spec.sloTarget.Representable ∧
      rules spec (SliMetadata.labels ⟨"shop", "cart", .availability⟩) = .ok [first, second] ∧
      second.record = errorBudgetRecord ∧
      second.expr =
        "(" ++ (SliIdentity.series ⟨"shop", "cart"⟩ complianceRecord).render ++
          " - " ++ spec.sloTarget.plain ++ ") / " ++ (budget spec).plain ++ " * 100" ∧
      spec.sloTarget.value? = some target ∧ 0 < target ∧ target < 100 ∧
      Numeral.value? (budget spec).plain = some divisor ∧
        0 ≤ divisor ∧ (0 < divisor ↔ target < 99.9999995) := by
  have evaluated : (SliSpec.read (Sample.aiming (ofDecimal false 999999 (-4))) .null .null).toOption.map
      (·.sloTarget) = some (ofDecimal false 999999 (-4)) := by decide +kernel
  obtain ⟨spec, accepted, target⟩ := toOption_map.mp evaluated
  have double : spec.sloTarget.Representable := by
    rw [target]
    exact ofDecimal_representable false 999999 (-4)
  obtain ⟨first, second, target, divisor, made⟩ :=
    budget_pos_iff accepted double ⟨"shop", "cart", .availability⟩
  exact ⟨spec, first, second, target, divisor, accepted, double, made⟩

theorem highest_budget_zero :
    (do
      let spec ← SliSpec.read (Sample.aiming (ofDecimal false 999999999 (-7))) .null .null
      return ((budgetRule spec ⟨"shop", "cart", .availability⟩).expr,
        Numeral.value? (budget spec).plain)).toOption =
      some ("(sli_compliance_percent\x7bproduct=\"shop\", sliId=\"cart\"\x7d - 99.9999999) / 0 * 100",
        some 0) := by
  decide +kernel

end Slo

end SloCompiler
