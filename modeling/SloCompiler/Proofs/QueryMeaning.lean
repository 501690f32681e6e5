import Mathlib.Algebra.BigOperators.Group.List.Basic
import Mathlib.Algebra.Order.Field.Rat
import SloCompiler.Proofs.NumeralValue
import SloCompiler.Proofs.QueryReader
import SloCompiler.Rule.Recording

namespace SloCompiler

def Comparison.holds (x y : ℚ) : Comparison → Bool
  | .lt => x < y
  | .le => x ≤ y
  | .gt => x > y
  | .ge => x ≥ y
  | .eq => x = y
  | .ne => x ≠ y

theorem Comparison.negate_holds (c : Comparison) (x y : ℚ) :
    c.negate.holds x y = !c.holds x y := by
  rw [Bool.eq_iff_iff]
  cases c <;> simp [holds, negate]

-- What a query gives at one moment: a number, the samples of some series, or one sample without
-- labels, which can be absent.
inductive Reading where
  | number (q : ℚ)
  | samples (values : List ℚ)
  | lone (value : Option ℚ)
  deriving DecidableEq

def Reading.recorded : Reading → List ℚ
  | .number q => [q]
  | .samples values => values
  | .lone value => value.toList

namespace Query

-- Of no samples there is neither a count nor a sum.
def aggregate? (function : String) (values : List ℚ) : Option Reading :=
  if function = "count" then some (.lone (if values.isEmpty then none else some values.length))
  else if function = "sum" then some (.lone (if values.isEmpty then none else some values.sum))
  else none

def called? (function : String) : Reading → Option Reading
  | .number q => if function = "vector" then some (.lone (some q)) else none
  | .samples values => aggregate? function values
  | .lone value => aggregate? function value.toList

-- A comparison keeps the samples for which it holds; as a number it turns each into 1 or 0.
def combine? : QueryOperator → Reading → Reading → Option Reading
  | .compare c false, .samples values, .number q => some (.samples (values.filter (c.holds · q)))
  | .compare c false, .lone value, .number q => some (.lone (value.filter (c.holds · q)))
  | .compare c true, .samples values, .number q =>
    some (.samples (values.map fun x => if c.holds x q then 1 else 0))
  | .compare c true, .lone value, .number q =>
    some (.lone (value.map fun x => if c.holds x q then 1 else 0))
  | .union, .lone x, .lone y => some (.lone (x.or y))
  | .divide, .lone (some x), .lone (some y) =>
    if y = 0 then none else some (.lone (some (x / y)))
  | .divide, .lone _, .lone _ => some (.lone none)
  | _, _, _ => none

-- The samples of series come from outside, those of records from the rules before. A name that no
-- rule before has recorded means nothing.
def eval (data : TargetMetric → List ℚ) (records : List (String × List ℚ)) :
    Query → Option Reading
  | .word s =>
    match Numeral.value? s with
    | some q => some (.number q)
    | none => (records.lookup s).map .samples
  | .series target => some (.samples (data target))
  | .call function argument => (eval data records argument).bind (called? function)
  | .binary operator left right =>
    (eval data records left).bind fun x => (eval data records right).bind (combine? operator x)

end Query

namespace RecordingRule

def evaluate? (data : TargetMetric → List ℚ) (records : List (String × List ℚ))
    (r : RecordingRule) : Option (List (String × List ℚ)) :=
  ((Query.ofText? r.expr).bind (Query.eval data records)).map fun reading =>
    records ++ [(r.record, reading.recorded)]

def evaluateAll? (data : TargetMetric → List ℚ) (rules : List RecordingRule) :
    Option (List (String × List ℚ)) :=
  rules.foldlM (evaluate? data) []

end RecordingRule

namespace Query

variable {data : TargetMetric → List ℚ} {records : List (String × List ℚ)} {p q : Query}

theorem eval_number {s : String} {x : ℚ} (reads : Numeral.value? s = some x) :
    eval data records (.word s) = some (.number x) := by
  rw [eval, reads]

theorem eval_record {s : String} {values : List ℚ} (name : Numeral.value? s = none)
    (known : records.lookup s = some values) :
    eval data records (.word s) = some (.samples values) := by
  rw [eval, name, known, Option.map_some]

theorem eval_nought : eval data records (.word "0") = some (.number 0) :=
  eval_number (by decide +kernel)

theorem eval_zero : eval data records zero = some (.lone (some 0)) := by
  rw [zero, eval, eval_nought]
  rfl

theorem eval_orZero {value : Option ℚ} (reads : eval data records q = some (.lone value)) :
    eval data records (.binary .union q zero) = some (.lone (some (value.getD 0))) := by
  rw [eval, reads, eval_zero]
  cases value <;> rfl

theorem eval_count {values : List ℚ} (reads : eval data records q = some (.samples values)) :
    eval data records (.binary .union (.call "count" q) zero) =
      some (.lone (some values.length)) := by
  have counted : eval data records (.call "count" q) =
      some (.lone (if values.isEmpty then none else some values.length)) := by
    rw [eval, reads]
    rfl
  rw [eval_orZero counted]
  cases values <;> simp

theorem eval_sum_one {x : ℚ} (reads : eval data records q = some (.samples [x])) :
    eval data records (.call "sum" q) = some (.lone (some x)) := by
  rw [eval, reads]
  simp [called?, aggregate?]

-- Where the denominator is not above zero, a ratio falls back on 0 before anything is divided.
theorem eval_ratio {x y : ℚ} (numerator : eval data records p = some (.lone (some x)))
    (denominator : eval data records q = some (.lone (some y))) :
    eval data records (.binary .union (.binary .divide p
        (.binary (.compare .gt false) q (.word "0"))) zero) =
      some (.lone (some (if 0 < y then x / y else 0))) := by
  have guarded : eval data records (.binary (.compare .gt false) q (.word "0")) =
      some (.lone (if 0 < y then some y else none)) := by
    rw [eval, denominator, eval_nought]
    simp [combine?, Option.filter, Comparison.holds]
  have divided : eval data records (.binary .divide p
      (.binary (.compare .gt false) q (.word "0"))) =
        some (.lone (if 0 < y then some (x / y) else none)) := by
    rw [eval, numerator, guarded]
    by_cases positive : 0 < y
    · simp [combine?, positive, positive.ne']
    · simp [combine?, positive]
  rw [eval_orZero divided]
  split <;> rfl

end Query

end SloCompiler
