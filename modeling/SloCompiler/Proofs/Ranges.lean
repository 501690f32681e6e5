import Mathlib.Data.String.Basic
import SloCompiler.Proofs.DurationReading
import SloCompiler.Proofs.Wording

namespace SloCompiler

namespace Check

-- A range in a text: what stands from a bracket that opens to the next one that closes.
def IsRange (range cs : List Char) : Prop :=
  ∃ before after, cs = before ++ '[' :: (range ++ ']' :: after) ∧ ']' ∉ range

variable {range : List Char}

theorem isRange_nil : ¬IsRange range [] := by
  rintro ⟨before, after, shape, _⟩
  cases before <;> cases shape

theorem isRange_cons {c : Char} (other : c ≠ '[') (rest : List Char) :
    IsRange range (c :: rest) ↔ IsRange range rest := by
  constructor
  · rintro ⟨before, after, shape, closed⟩
    cases before with
    | nil => exact absurd (List.cons.inj shape).1 other
    | cons d before => exact ⟨before, after, (List.cons.inj shape).2, closed⟩
  · rintro ⟨before, after, rfl, closed⟩
    exact ⟨c :: before, after, rfl, closed⟩

theorem isRange_append {a : List Char} (unopened : '[' ∉ a) (rest : List Char) :
    IsRange range (a ++ rest) ↔ IsRange range rest := by
  induction a with
  | nil => rfl
  | cons c a ih =>
    obtain ⟨other, later⟩ := List.ne_and_not_mem_of_not_mem_cons unopened
    rw [List.cons_append, isRange_cons (Ne.symm other), ih later]

theorem isRange_window {span : List Char} (unopened : '[' ∉ span) (unclosed : ']' ∉ span)
    (rest : List Char) :
    IsRange range ('[' :: (span ++ ']' :: rest)) ↔ range = span ∨ IsRange range rest := by
  constructor
  · rintro ⟨before, after, shape, closed⟩
    cases before with
    | nil =>
      have front {cs more : List Char} (unclosed : ']' ∉ cs) :
          (cs ++ ']' :: more).takeWhile (· != ']') = cs := by
        refine (Text.partWhile_append (fun c member => ?_) fun c first => ?_).1
        · exact bne_iff_ne.mpr fun same => unclosed (same ▸ member)
        · exact Option.some.inj first ▸ rfl
      have same := congrArg (List.takeWhile (· != ']')) (List.cons.inj shape).2
      rw [front unclosed, front closed] at same
      exact .inl same.symm
    | cons c before =>
      have later : IsRange range (span ++ ']' :: rest) :=
        ⟨before, after, (List.cons.inj shape).2, closed⟩
      rw [isRange_append unopened, isRange_cons (by decide)] at later
      exact .inr later
  · rintro (rfl | ⟨before, after, rfl, closed⟩)
    · exact ⟨[], rest, rfl, unclosed⟩
    · exact ⟨'[' :: (span ++ ']' :: before), after, by simp, closed⟩

end Check

structure Bracketless (s : String) : Prop where
  quoteless : '"' ∉ s.toList
  unopened : '[' ∉ s.toList
  unclosed : ']' ∉ s.toList

namespace Bracketless

theorem constant (s : String) {cs : List Char} (written : s = String.ofList cs)
    (plain : cs.all (fun c => c != '"' && c != '[' && c != ']') = true) : Bracketless s := by
  have chars := all_chars written plain
  constructor <;> exact fun present => absurd (chars _ present) (by decide)

theorem metric {s : String} (letters : ∀ c ∈ s.toList, isMetricChar c = true) : Bracketless s := by
  constructor <;> exact fun present => absurd (letters _ present) (by decide)

theorem numeral (x : Binary64) : Bracketless x.plain :=
  ⟨x.plain_lacks (by decide), x.plain_lacks (by decide), x.plain_lacks (by decide)⟩

theorem duration {s : String} {d : Duration} (read : Duration.parse s = .ok d) : Bracketless s :=
  ⟨Duration.text_lacks read (by decide) (by decide),
    Duration.text_lacks read (by decide) (by decide),
    Duration.text_lacks read (by decide) (by decide)⟩

theorem label (c : Clause) : Bracketless c.label :=
  ⟨c.label_lacks (by decide) (by decide), c.label_lacks (by decide) (by decide),
    c.label_lacks (by decide) (by decide)⟩

theorem covers : Covers fun _ => Bracketless where
  constant := by
    simp only [vocabulary, List.forall_mem_cons, List.not_mem_nil, IsEmpty.forall_iff, implies_true,
      and_true]
    and_intros <;> exact fun _ => .constant _ rfl rfl
  numeral x _ := .numeral x
  recorded letters _ := .metric letters
  later plain := plain

end Bracketless

open Check

theorem unopened_clauses (clauses : List Clause) :
    '[' ∉ [',', ' '].intercalate (clauses.map fun c => c.hollow.render.toList) := by
  induction clauses with
  | nil => exact List.not_mem_nil
  | cons c clauses ih =>
    have operator : '[' ∉ c.operator.text.toList := by cases c.operator <;> decide
    have own : '[' ∉ c.hollow.render.toList := by
      simp [Clause.hollow_toList, (Bracketless.label c).unopened, operator]
    cases clauses with
    | nil => simpa using own
    | cons d clauses =>
      simp only [List.map_cons, List.intercalate_cons_cons] at ih ⊢
      simp [own, ih]

theorem unopened_series {metric : String} (name : '[' ∉ metric.toList) (clauses : List Clause) :
    '[' ∉ (renderSeries metric (clauses.map Clause.hollow)).toList := by
  have body := unopened_clauses clauses
  rw [renderSeries_toList]
  split <;> simp [name, body, Function.comp_def]

namespace Expr

def spans : Expr → List String
  | .text _ => []
  | .series _ _ => []
  | .window e span => spans e ++ [span]
  | .call _ argument => spans argument
  | .quantile _ buckets => spans buckets
  | .aggregateBy _ _ e => spans e
  | .binary _ left right => spans left ++ spans right
  | .group e => spans e

variable {range : List Char}

theorem isRange_hollow {e : Expr} (plain : e.Each Bracketless) (rest : List Char) :
    IsRange range (e.hollow.render.toList ++ rest) ↔
      String.ofList range ∈ e.spans ∨ IsRange range rest := by
  induction e generalizing rest with
  | text s =>
    have own := each_text.mp plain
    simp [hollow, spans, isRange_append own.unopened]
  | series target selectors =>
    have name := (each_series.mp plain).1
    have unopened := unopened_series name.unopened (selectors ++ target.clauses)
    simpa [hollow, spans, TargetMetric.series] using isRange_append unopened rest
  | window e span ih =>
    obtain ⟨own, inner⟩ := each_window.mp plain
    simp [hollow, spans, ih inner, isRange_window own.unopened own.unclosed, String.ofList_eq,
      or_assoc]
  | call function argument ih =>
    obtain ⟨own, inner⟩ := each_call.mp plain
    simp [hollow, spans, ih inner, isRange_cons, isRange_append own.unopened]
  | quantile q buckets ih =>
    obtain ⟨own, inner⟩ := each_quantile.mp plain
    simp [hollow, spans, ih inner, isRange_cons, isRange_append own.unopened]
  | aggregateBy operation label e ih =>
    obtain ⟨operation, label, inner⟩ := each_aggregateBy.mp plain
    simp [hollow, spans, ih inner, isRange_cons, isRange_append operation.unopened,
      isRange_append label.unopened]
  | binary operation left right before after =>
    obtain ⟨operation, left, right⟩ := each_binary.mp plain
    simp [hollow, spans, before left, after right, isRange_cons, isRange_append operation.unopened,
      or_assoc]
  | group e ih => simp [hollow, spans, ih plain, isRange_cons]

theorem isRange_iff {e : Expr} (plain : e.Each Bracketless) :
    IsRange range (unquoted e.render.toList) ↔ String.ofList range ∈ e.spans := by
  have quoteless : e.Each ('"' ∉ ·.toList) := fun s member => (plain s member).quoteless
  have text := unquoted_render quoteless []
  rw [List.append_nil, unquoted_nil] at text
  rw [text, isRange_hollow plain, or_iff_left isRange_nil]

end Expr

-- An expression without brackets other than those of ranges, which are some of these.
structure Windowed (windows : List String) (e : Expr) : Prop where
  plain : e.Each Bracketless
  spans : ∀ span ∈ e.spans, span ∈ windows

def RangesRead (query : String) : Prop :=
  ∀ range, IsRange range (unquoted query.toList) →
    ∃ d, Duration.parse (String.ofList range) = .ok d

theorem Windowed.read {windows : List String} {e : Expr} (windowed : Windowed windows e)
    (read : ∀ window ∈ windows, ∃ d, Duration.parse window = .ok d) : RangesRead e.render :=
  fun _ found => read _ (windowed.spans _ ((Expr.isRange_iff windowed.plain).mp found))

namespace Indicator

def panelExprs (i : Indicator) (spec : SliSpec) (series : String → Expr) : List Expr :=
  match i with
  | .up =>
    [averageUp (series "up") spec.evalInterval, .call "sum" (series "up"),
      (thresholdQuery spec).expr]
  | .errorRatio _ _ _ =>
    [errorShare (series "errors") (series "total") spec.evalInterval,
      rate (series "total") spec.evalInterval, (thresholdQuery spec).expr]
  | .latency _ =>
    [percentile spec (series "bucket"), rate (series "count") spec.evalInterval,
      (thresholdQuery spec).expr]
  | .queueAge =>
    [.aggregateBy "max" queueLabel (series "oldestMessageAge"),
      .aggregateBy "sum" queueLabel (series "messagesVisible"), (thresholdQuery spec).expr]

theorem queries_exprs {i : Indicator} {spec : SliSpec} {clauses : List Clause}
    {queries : List PanelQuery} (made : i.queries spec clauses = .ok queries) :
    ∃ table, i.targets = .ok table ∧
      queries.map (·.expr) = i.panelExprs spec (seriesOf table clauses) := by
  cases i with
  | up => cases made; exact ⟨_, rfl, rfl⟩
  | errorRatio metric statusLabel errorPattern =>
    obtain ⟨_, errors, made⟩ := bind_ok.mp made
    obtain ⟨_, total, made⟩ := bind_ok.mp made
    obtain ⟨table, read, rfl⟩ := map_ok.mp errors
    obtain ⟨_, again, rfl⟩ := map_ok.mp total
    cases read.symm.trans again
    cases made
    exact ⟨table, read, rfl⟩
  | latency histogram => cases made; exact ⟨_, rfl, rfl⟩
  | queueAge => cases made; exact ⟨_, rfl, rfl⟩

theorem panelExprs_each (i : Indicator) {spec : SliSpec} {series : String → Expr}
    (interval : Bracketless spec.evalInterval) (narrowed : ∀ role, (series role).Each Bracketless) :
    ∀ e ∈ i.panelExprs spec series, e.Each Bracketless := by
  have covers := Bracketless.covers
  have threshold : (thresholdQuery spec).expr.Each Bracketless :=
    .call (.constant "vector" rfl rfl) (.text (.numeral _))
  have queue : Bracketless queueLabel := .constant _ rfl rfl
  cases i with
  | up =>
    simp only [panelExprs, List.forall_mem_cons]
    exact ⟨@covers.averageUp _ [] _ (narrowed _) _ interval, @covers.sum _ [] _ (narrowed _),
      threshold, List.forall_mem_nil _⟩
  | errorRatio requests statusLabel errorPattern =>
    simp only [panelExprs, List.forall_mem_cons]
    exact ⟨@covers.errorShare _ [] _ _ (narrowed _) (narrowed _) _ interval,
      @covers.rate _ [] _ (narrowed _) _ interval, threshold, List.forall_mem_nil _⟩
  | latency histogram =>
    simp only [panelExprs, List.forall_mem_cons]
    exact ⟨@covers.percentile _ [] _ _ (narrowed _) interval,
      @covers.rate _ [] _ (narrowed _) _ interval, threshold, List.forall_mem_nil _⟩
  | queueAge =>
    simp only [panelExprs, List.forall_mem_cons]
    exact ⟨.aggregateBy (.constant "max" rfl rfl) queue (narrowed _),
      .aggregateBy (.constant "sum" rfl rfl) queue (narrowed _), threshold, List.forall_mem_nil _⟩

section Spans

variable (i : Indicator) (spec : SliSpec) (table : List (String × TargetMetric))
  (clauses : List Clause)

theorem panelExprs_spans : ∀ e ∈ i.panelExprs spec (seriesOf table clauses), ∀ span ∈ e.spans,
    span = spec.evalInterval := by
  cases i <;>
    simp [panelExprs, thresholdQuery, averageUp, errorShare, percentile, rate, seriesOf,
      Expr.orZero, Expr.safeRatio, Expr.vector, Expr.spans]

theorem exprs_spans (own : String → String) :
    ∀ named ∈ i.exprs spec (seriesOf table clauses) own, ∀ span ∈ named.2.spans,
      span = spec.evalInterval := by
  cases i <;>
    simp [exprs, queueExprs, holds, averageUp, errorShare, percentileWithTraffic, percentile, rate,
      seriesOf, threshold, Expr.orZero, Expr.safeRatio, Expr.vector, Expr.spans]

theorem blockExprs_spans (identity : SliIdentity) :
    ∀ named ∈ i.blockExprs spec (seriesOf table clauses) identity, ∀ span ∈ named.2.spans,
      span ∈ [spec.evalInterval, spec.period] := by
  intro named member span listed
  rcases List.mem_append.mp member with measured | objective
  · rw [i.exprs_spans spec table clauses _ named measured span listed]
    exact List.mem_cons_self
  · simp only [Slo.exprs, List.mem_cons, List.not_mem_nil, or_false] at objective
    rcases objective with rfl | rfl
    · rw [List.mem_singleton.mp (show span ∈ [spec.period] from listed)]
      exact List.mem_cons_of_mem _ List.mem_cons_self
    · cases listed

end Spans

end Indicator

end SloCompiler
