import SloCompiler.Proofs.Contribution
import SloCompiler.Proofs.ExpressionCheck

namespace SloCompiler
open Check

namespace Expr

theorem formed_orZero {e : Expr} (inner : e.Formed) : (Expr.orZero e).Formed :=
  ⟨.constant "or" rfl rfl rfl rfl, inner, .constant "vector" rfl rfl, .constant "0" rfl rfl⟩

theorem formed_safeRatio {numerator denominator : Expr} (above : numerator.Formed)
    (below : denominator.Formed) : (Expr.safeRatio numerator denominator).Formed :=
  formed_orZero (e := .binary "/" _ _) ⟨.constant "/" rfl rfl rfl rfl, above,
    .constant ">" rfl rfl rfl rfl, below, .constant "0" rfl rfl⟩

end Expr

theorem comparison_operator (c : Comparison) : Operator c.text ∧ Operator (c.text ++ " bool") := by
  have all : ∀ s ∈ ["<", "<=", ">", ">=", "==", "!=", "< bool", "<= bool", "> bool", ">= bool",
      "== bool", "!= bool"], Operator s := by
    simp only [List.forall_mem_cons, List.not_mem_nil, IsEmpty.forall_iff, implies_true, and_true]
    and_intros <;> exact .constant _ rfl rfl rfl rfl
  constructor <;> refine all _ ?_ <;> cases c <;> simp [Comparison.text]

theorem on_operator : Operator "and on()" where
  judged afterWord := by cases afterWord <;> decide
  neutral := (Neutral.unmarked (a := "and on".toList) fun c member => by
    simpa using all_chars (p := (!isMark ·)) rfl rfl c member).append
      (.enclosed (a := []) rfl (.unmarked (by simp)))
  first := ⟨'a', by decide, by decide, by decide, by decide⟩
  last := ⟨')', by decide, by decide⟩

theorem metric_nonblank {c : Char} (metric : isMetricChar c = true) : Text.isBlank c = false := by
  have letter (above : 33 ≤ c.toNat) (below : c.toNat ≤ 126) : Text.isBlank c = false := by
    simp only [Text.isBlank, Bool.or_eq_false_iff, Bool.and_eq_false_iff, decide_eq_false_iff_not,
      beq_eq_false_iff_ne]
    omega
  have kinds : ((((c.isUpper || c.isLower) || c.isDigit) || c == '_') || c == ':') = true := metric
  simp only [Bool.or_eq_true, beq_iff_eq] at kinds
  rcases kinds with (((upper | lower) | digit) | rfl) | rfl
  · have range : 65 ≤ c.toNat ∧ c.toNat ≤ 90 := of_decide_eq_true upper
    exact letter (by omega) (by omega)
  · have range : 97 ≤ c.toNat ∧ c.toNat ≤ 122 :=
      (Bool.and_eq_true_iff.mp lower).imp of_decide_eq_true of_decide_eq_true
    exact letter (by omega) (by omega)
  · exact digit_nonblank digit
  · decide
  · decide

theorem Check.Token.metric {s : String} (nonempty : s ≠ "")
    (metric : ∀ c ∈ s.toList, isMetricChar c = true) : Token s :=
  ⟨nonempty, fun c member =>
    ⟨metric_nonblank (metric c member), not_isMark (metric c member) (by decide)⟩⟩

theorem Check.Token.own (product sliId operation : String)
    (metric : ∀ c ∈ operation.toList, isMetricChar c = true) :
    Token (ownRecord product sliId operation) := by
  refine .metric ?_ (ownRecord_metric product sliId metric)
  intro empty
  have colon := colon_mem_ownRecord product sliId operation
  rw [empty] at colon
  cases colon

namespace Indicator

theorem formed_rate {series : Expr} (inner : series.Formed) {window : String}
    (span : ∀ c ∈ window.toList, isMark c = false) : (rate series window).Formed :=
  ⟨.constant "sum" rfl rfl, .constant "rate" rfl rfl, span, inner⟩

theorem formed_holds (i : Indicator) (spec : SliSpec) {value : Expr} (inner : value.Formed) :
    (i.holds spec value).Formed := ⟨(comparison_operator _).2, inner, .numeral _⟩

def reads : Indicator → List String
  | .up => ["up"]
  | .errorRatio _ _ _ => ["errors", "total"]
  | .latency _ => ["bucket", "count"]
  | .queueAge => ["oldestMessageAge"]

theorem targets_read {i : Indicator} {table : List (String × TargetMetric)}
    (read : i.targets = .ok table) :
    ∀ role ∈ i.reads, ∃ target, Ordered.get? table role = some target := by
  cases i with
  | up =>
    cases read
    exact List.forall_mem_singleton.mpr ⟨_, rfl⟩
  | errorRatio metric statusLabel errorPattern =>
    obtain ⟨requests, _, read⟩ := bind_ok.mp read
    obtain ⟨errors, _, read⟩ := bind_ok.mp read
    cases read
    exact List.forall_mem_cons.mpr ⟨⟨_, rfl⟩, List.forall_mem_singleton.mpr ⟨_, rfl⟩⟩
  | latency histogram =>
    cases read
    exact List.forall_mem_cons.mpr ⟨⟨_, rfl⟩, List.forall_mem_singleton.mpr ⟨_, rfl⟩⟩
  | queueAge =>
    cases read
    exact List.forall_mem_singleton.mpr ⟨_, rfl⟩

theorem exprs_formed (i : Indicator) {spec : SliSpec} {series : String → Expr}
    {name : String → String} (span : ∀ c ∈ spec.evalInterval.toList, isMark c = false)
    (narrowed : ∀ role ∈ i.reads, (series role).Formed)
    (own : ∀ operation, (∀ c ∈ operation.toList, isMetricChar c = true) → Token (name operation)) :
    ∀ named ∈ i.exprs spec series name, named.2.Formed ∧ named.2.Concluded := by
  cases i with
  | up =>
    have up := narrowed "up" (by simp [reads])
    refine List.forall_mem_singleton.mpr ⟨formed_holds _ spec (Expr.formed_orZero ?_),
      .binary (.numeral _)⟩
    exact ⟨.constant "avg" rfl rfl, .constant "avg_over_time" rfl rfl, span, up⟩
  | errorRatio requests statusLabel errorPattern =>
    have errors := formed_rate (narrowed "errors" (by simp [reads])) span
    have total := formed_rate (narrowed "total" (by simp [reads])) span
    exact List.forall_mem_singleton.mpr ⟨formed_holds _ spec
      (Expr.formed_safeRatio (Expr.formed_orZero errors) total), .binary (.numeral _)⟩
  | latency histogram =>
    have buckets : (percentile spec (series "bucket")).Formed :=
      ⟨.numeral _, .constant "sum" rfl rfl, .constant bucketLabel rfl rfl,
        .constant "rate" rfl rfl, span, narrowed "bucket" (by simp [reads])⟩
    have requests := formed_rate (narrowed "count" (by simp [reads])) span
    have traffic : (Expr.binary ">" (rate (series "count") spec.evalInterval)
        (.text "0")).Formed :=
      ⟨.constant ">" rfl rfl rfl rfl, requests, .constant "0" rfl rfl⟩
    exact List.forall_mem_singleton.mpr ⟨formed_holds _ spec (Expr.formed_orZero
      (e := .binary "and on()" _ (.group _)) ⟨on_operator, buckets, traffic⟩), .binary (.numeral _)⟩
  | queueAge =>
    have age := narrowed "oldestMessageAge" (by simp [reads])
    have sum {operation : String} (metric : ∀ c ∈ operation.toList, isMetricChar c = true) :
        (Expr.call "sum" (.text (name operation))).Formed :=
      ⟨.constant "sum" rfl rfl, own operation metric⟩
    intro named member
    simp only [exprs, queueExprs, List.mem_cons, List.not_mem_nil, or_false] at member
    rcases member with rfl | rfl | rfl | rfl
    · exact ⟨Expr.formed_orZero (e := .call "count" (.binary _ _ _))
        ⟨.constant "count" rfl rfl, (comparison_operator _).1, age, .numeral _⟩, .group _⟩
    · exact ⟨Expr.formed_orZero (e := .call "count" _) ⟨.constant "count" rfl rfl, age⟩, .group _⟩
    · exact ⟨Expr.formed_safeRatio (sum (all_chars rfl rfl)) (sum (all_chars rfl rfl)), .group _⟩
    · refine ⟨⟨.constant "== bool" rfl rfl rfl rfl,
        Expr.formed_orZero (sum (all_chars rfl rfl)), .constant "0" rfl rfl⟩, .binary ?_⟩
      exact ⟨'0', by decide, by decide⟩

@[simp] theorem clauses_orZero (e : Expr) : (Expr.orZero e).clauses = e.clauses := by
  simp [Expr.orZero, Expr.vector, Expr.clauses]

@[simp] theorem clauses_safeRatio (numerator denominator : Expr) :
    (Expr.safeRatio numerator denominator).clauses = numerator.clauses ++ denominator.clauses := by
  simp [Expr.safeRatio, Expr.vector, Expr.clauses]

@[simp] theorem clauses_rate (series : Expr) (window : String) :
    (rate series window).clauses = series.clauses := rfl

@[simp] theorem clauses_holds (i : Indicator) (spec : SliSpec) (value : Expr) :
    (i.holds spec value).clauses = value.clauses := by
  simp [holds, threshold, Expr.clauses]

-- The clauses in the expressions of an indicator are those of its series, and all of these stand
-- in its first expression.
theorem exprs_clauses (i : Indicator) (spec : SliSpec) (series : String → Expr)
    (name : String → String) :
    (∀ named ∈ i.exprs spec series name, ∀ c ∈ named.2.clauses, ∃ role, c ∈ (series role).clauses) ∧
      ∃ record e rest, i.exprs spec series name = (record, e) :: rest ∧
        ∃ role, ∀ c ∈ (series role).clauses, c ∈ e.clauses := by
  cases i with
  | up =>
    refine ⟨List.forall_mem_singleton.mpr fun c member => ⟨"up", ?_⟩, _, _, _, rfl, "up",
      fun c member => ?_⟩ <;> simpa [averageUp, Expr.clauses] using member
  | errorRatio requests statusLabel errorPattern =>
    refine ⟨List.forall_mem_singleton.mpr fun c member => ?_, _, _, _, rfl, "errors",
      fun c member => ?_⟩
    · have either : c ∈ (series "errors").clauses ∨ c ∈ (series "total").clauses := by
        simpa [errorShare] using member
      exact either.elim (fun first => ⟨_, first⟩) fun second => ⟨_, second⟩
    · simp [errorShare, member]
  | latency histogram =>
    refine ⟨List.forall_mem_singleton.mpr fun c member => ?_, _, _, _, rfl, "bucket",
      fun c member => ?_⟩
    · have either : c ∈ (series "bucket").clauses ∨ c ∈ (series "count").clauses := by
        simpa [percentileWithTraffic, percentile, Expr.clauses] using member
      exact either.elim (fun first => ⟨_, first⟩) fun second => ⟨_, second⟩
    · simp [percentileWithTraffic, percentile, Expr.clauses, member]
  | queueAge =>
    refine ⟨fun named listed c member => ⟨"oldestMessageAge", ?_⟩, _, _, _, rfl,
      "oldestMessageAge", fun c member => ?_⟩
    · simp only [exprs, queueExprs, List.mem_cons, List.not_mem_nil, or_false] at listed
      rcases listed with rfl | rfl | rfl | rfl
      · simpa [threshold, Expr.clauses] using member
      · simpa [Expr.clauses] using member
      · simp [Expr.clauses] at member
      · simp [Expr.clauses] at member
    · simpa [threshold, Expr.clauses] using member

end Indicator

namespace Slo

variable (identity : SliIdentity)

theorem compliance_formed {spec : SliSpec} (span : ∀ c ∈ spec.period.toList, isMark c = false) :
    (compliance spec identity).Formed ∧ (compliance spec identity).Concluded :=
  ⟨⟨.constant "*" rfl rfl rfl rfl, ⟨.constant "avg_over_time" rfl rfl, span,
      .constant sliValueRecord rfl rfl⟩, .constant "100" rfl rfl⟩,
    .binary ⟨'0', by decide, by decide⟩⟩

theorem errorBudget_formed (spec : SliSpec) :
    (errorBudget spec identity).Formed ∧ (errorBudget spec identity).Concluded :=
  ⟨⟨.constant "*" rfl rfl rfl rfl, ⟨.constant "/" rfl rfl rfl rfl,
      ⟨.constant "-" rfl rfl rfl rfl, .constant complianceRecord rfl rfl, .numeral _⟩,
      .numeral _⟩, .constant "100" rfl rfl⟩,
    .binary ⟨'0', by decide, by decide⟩⟩

theorem breach_formed (spec : SliSpec) :
    (breach spec identity).Formed ∧ (breach spec identity).Concluded :=
  ⟨⟨.constant "<" rfl rfl rfl rfl, .constant complianceRecord rfl rfl, .numeral _⟩,
    .binary (.numeral _)⟩

end Slo

end SloCompiler
