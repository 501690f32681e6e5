import SloCompiler.Proofs.Accounting
import SloCompiler.Proofs.Rendering
import SloCompiler.Registry

namespace SloCompiler
open Contribution

theorem Expr.says_used {allowed : List Char → Prop} (keywords : Keywords allowed) {e : Expr}
    (quoteless : e.Each ('"' ∉ ·.toList)) (within : e.Each (Check.Says allowed ·.toList))
    {name : String} (nonempty : name ≠ "") (metric : ∀ c ∈ name.toList, isMetricChar c = true)
    {names : List String} (used : name ∈ Check.referencedNames e.render names) :
    allowed name.toList := by
  have word := ((Check.mem_referencedNames nonempty metric).mp used).2
  have unquoted := Expr.unquoted_render quoteless []
  have text : Check.unquoted e.render.toList = e.hollow.render.toList := by
    simpa [Check.unquoted_nil] using unquoted
  have all := Expr.says_render keywords within ' ' (by decide) (.nil keywords.empty)
  rw [text] at word
  refine all name.toList ?_
  rw [Check.words_append _ _ (by decide)]
  exact List.mem_append_left _ word

-- Records with expressions, each of which has a property that depends on the records before it.
def InTurn (p : List String → Expr → Prop) : List String → List (String × Expr) → Prop
  | _, [] => True
  | seen, (record, e) :: rest => p seen e ∧ InTurn p (record :: seen) rest

namespace InTurn

variable {p q : List String → Expr → Prop}

theorem imp {listed : List (String × Expr)} {seen : List String} (each : InTurn p seen listed)
    (more : ∀ named ∈ listed, ∀ seen, p seen named.2 → q seen named.2) :
    InTurn q seen listed := by
  induction listed generalizing seen with
  | nil => trivial
  | cons named listed ih =>
    exact ⟨more named List.mem_cons_self seen each.1,
      ih each.2 fun other member => more other (List.mem_cons_of_mem _ member)⟩

theorem append {first rest : List (String × Expr)} {seen : List String}
    (before : InTurn p seen first)
    (after : InTurn p ((first.map (·.1)).reverse ++ seen) rest) :
    InTurn p seen (first ++ rest) := by
  induction first generalizing seen with
  | nil => exact after
  | cons named first ih =>
    refine ⟨before.1, ih before.2 ?_⟩
    simpa using after

theorem of_mem {listed : List (String × Expr)} {seen : List String} (each : InTurn p seen listed)
    {named : String × Expr} (member : named ∈ listed) :
    ∃ before, p before named.2 ∧ ∀ name ∈ before, name ∈ seen ∨ name ∈ listed.map (·.1) := by
  induction listed generalizing seen with
  | nil => cases member
  | cons first listed ih =>
    rcases List.mem_cons.mp member with rfl | later
    · exact ⟨seen, each.1, fun name => .inl⟩
    · obtain ⟨before, holds, within⟩ := ih each.2 later
      refine ⟨before, holds, fun name listed => ?_⟩
      rcases within name listed with here | after
      · rcases List.mem_cons.mp here with rfl | earlier
        · exact .inr List.mem_cons_self
        · exact .inl earlier
      · exact .inr (List.mem_cons_of_mem _ after)

end InTurn

def vocabulary : List String := [
  "sum", "avg", "count", "rate", "avg_over_time", "vector", "or", "and on()", "/", "*", "-",
  "<", "<=", ">", ">=", "==", "!=", "< bool", "<= bool", "> bool", ">= bool", "== bool", "!= bool",
  "0", "100", Indicator.bucketLabel, "product", "sliId"]

theorem comparison_listed (c : Comparison) :
    c.text ∈ vocabulary ∧ c.text ++ " bool" ∈ vocabulary := by
  cases c <;> simp [vocabulary, Comparison.text]

-- A property of texts, given the records before, that the texts of an SLI's own making have.
structure Covers (p : List String → String → Prop) : Prop where
  constant : ∀ s ∈ vocabulary, ∀ seen, p seen s
  numeral : ∀ (x : Binary64) seen, p seen x.plain
  recorded : ∀ {s seen}, (∀ c ∈ s.toList, isMetricChar c = true) → s ∈ seen → p seen s
  later : ∀ {s seen record}, p seen s → p (record :: seen) s

namespace Covers

variable {p : List String → String → Prop} {seen : List String}

theorem word (covers : Covers p) (s : String) (listed : s ∈ vocabulary) : p seen s :=
  covers.constant s listed seen

theorem zero (covers : Covers p) : (Expr.text "0").Each (p seen) :=
  .text (covers.word "0" (by simp [vocabulary]))

theorem sum (covers : Covers p) {e : Expr} (inner : e.Each (p seen)) :
    (Expr.call "sum" e).Each (p seen) := .call (covers.word "sum" (by simp [vocabulary])) inner

theorem count (covers : Covers p) {e : Expr} (inner : e.Each (p seen)) :
    (Expr.call "count" e).Each (p seen) := .call (covers.word "count" (by simp [vocabulary])) inner

theorem orZero (covers : Covers p) {e : Expr} (inner : e.Each (p seen)) :
    (Expr.orZero e).Each (p seen) :=
  .binary (covers.word "or" (by simp [vocabulary])) inner
    (.call (covers.word "vector" (by simp [vocabulary])) covers.zero)

theorem safeRatio (covers : Covers p) {numerator denominator : Expr}
    (above : numerator.Each (p seen)) (below : denominator.Each (p seen)) :
    (Expr.safeRatio numerator denominator).Each (p seen) :=
  covers.orZero (.binary (covers.word "/" (by simp [vocabulary])) above
    (.binary (covers.word ">" (by simp [vocabulary])) below covers.zero))

theorem rate (covers : Covers p) {series : Expr} (inner : series.Each (p seen)) {window : String}
    (span : p seen window) : (Indicator.rate series window).Each (p seen) :=
  covers.sum (.call (covers.word "rate" (by simp [vocabulary])) (.window inner span))

theorem averageUp (covers : Covers p) {up : Expr} (inner : up.Each (p seen)) {window : String}
    (span : p seen window) : (Indicator.averageUp up window).Each (p seen) :=
  .call (covers.word "avg" (by simp [vocabulary]))
    (.call (covers.word "avg_over_time" (by simp [vocabulary])) (.window inner span))

theorem errorShare (covers : Covers p) {errors total : Expr} (above : errors.Each (p seen))
    (below : total.Each (p seen)) {window : String} (span : p seen window) :
    (Indicator.errorShare errors total window).Each (p seen) :=
  covers.safeRatio (covers.orZero (covers.rate above span)) (covers.rate below span)

theorem percentile (covers : Covers p) {spec : SliSpec} {buckets : Expr}
    (inner : buckets.Each (p seen)) (span : p seen spec.evalInterval) :
    (Indicator.percentile spec buckets).Each (p seen) :=
  .quantile (covers.numeral _ _) (.aggregateBy (covers.word "sum" (by simp [vocabulary]))
    (covers.word Indicator.bucketLabel (by simp [vocabulary]))
    (.call (covers.word "rate" (by simp [vocabulary])) (.window inner span)))

theorem holds (covers : Covers p) (i : Indicator) (spec : SliSpec) {value : Expr}
    (inner : value.Each (p seen)) : (i.holds spec value).Each (p seen) :=
  .binary (covers.word _ (comparison_listed _).2) inner (.text (covers.numeral _ seen))

theorem at_once (covers : Covers p) {s : String} (first : p [] s) : p seen s := by
  induction seen with
  | nil => exact first
  | cons record seen ih => exact covers.later ih

theorem each_at_once (covers : Covers p) {e : Expr} (each : e.Each (p [])) : e.Each (p seen) :=
  fun s member => covers.at_once (each s member)

theorem exprs_inTurn (covers : Covers p) (i : Indicator) {spec : SliSpec} {series : String → Expr}
    {name : String → String} (span : p [] spec.evalInterval)
    (narrowed : ∀ role, (series role).Each (p []))
    (metric : ∀ operation, (∀ c ∈ operation.toList, isMetricChar c = true) →
      ∀ c ∈ (name operation).toList, isMetricChar c = true) :
    InTurn (fun seen e => e.Each (p seen)) [] (i.exprs spec series name) := by
  cases i with
  | up =>
    exact ⟨covers.holds _ spec (covers.orZero (covers.averageUp (narrowed _) span)), trivial⟩
  | errorRatio requests statusLabel errorPattern =>
    exact ⟨covers.holds _ spec (covers.errorShare (narrowed _) (narrowed _) span), trivial⟩
  | latency histogram =>
    refine ⟨covers.holds _ spec (covers.orZero (.binary
      (covers.word "and on()" (by simp [vocabulary])) (covers.percentile (narrowed _) span)
      (.binary (covers.word ">" (by simp [vocabulary])) (covers.rate (narrowed _) span)
        covers.zero))), trivial⟩
  | queueAge =>
    have age {seen : List String} : (series "oldestMessageAge").Each (p seen) :=
      covers.each_at_once (narrowed "oldestMessageAge")
    have own {operation : String} {seen : List String}
        (chars : ∀ c ∈ operation.toList, isMetricChar c = true) (listed : name operation ∈ seen) :
        (Expr.text (name operation)).Each (p seen) :=
      .text (covers.recorded (metric operation chars) listed)
    refine ⟨covers.orZero (covers.count (.binary (covers.word _ (comparison_listed _).1) age
      (.text (covers.numeral _ _)))), covers.orZero (covers.count age), ?_, ?_, trivial⟩
    · exact covers.safeRatio (covers.sum (own (all_chars rfl rfl) (by simp)))
        (covers.sum (own (all_chars rfl rfl) (by simp)))
    · exact .binary (covers.word "== bool" (by simp [vocabulary]))
        (covers.orZero (covers.sum (own (all_chars rfl rfl) (by simp)))) covers.zero

theorem own_series (covers : Covers p) (identity : SliIdentity) {record : String}
    (name : p seen record) : (identity.series record).Each (p seen) := by
  refine Expr.each_series.mpr ⟨name, ?_⟩
  rw [List.append_nil]
  exact List.forall_mem_cons.mpr ⟨covers.word "product" (by simp [vocabulary]),
    List.forall_mem_singleton.mpr (covers.word "sliId" (by simp [vocabulary]))⟩

theorem compliance (covers : Covers p) {spec : SliSpec} (identity : SliIdentity)
    (span : p seen spec.period) (value : sliValueRecord ∈ seen) :
    (Slo.compliance spec identity).Each (p seen) :=
  .binary (covers.word "*" (by simp [vocabulary]))
    (.call (covers.word "avg_over_time" (by simp [vocabulary]))
      (.window (covers.own_series identity (covers.recorded (all_chars rfl rfl) value)) span))
    (.text (covers.word "100" (by simp [vocabulary])))

theorem errorBudget (covers : Covers p) {spec : SliSpec} (identity : SliIdentity)
    (compliance : complianceRecord ∈ seen) : (Slo.errorBudget spec identity).Each (p seen) :=
  .binary (covers.word "*" (by simp [vocabulary])) (.binary (covers.word "/" (by simp [vocabulary]))
    (.binary (covers.word "-" (by simp [vocabulary]))
      (covers.own_series identity (covers.recorded (all_chars rfl rfl) compliance))
      (.text (covers.numeral _ _))) (.text (covers.numeral _ _)))
    (.text (covers.word "100" (by simp [vocabulary])))

end Covers

namespace Slo

def exprs (spec : SliSpec) (identity : SliIdentity) : List (String × Expr) := [
  (complianceRecord, compliance spec identity),
  (errorBudgetRecord, errorBudget spec identity)]

theorem rules_recorded (spec : SliSpec) (metadata : SliMetadata) :
    [complianceRule spec metadata, budgetRule spec metadata] =
      (exprs spec ⟨metadata.product, metadata.sliId⟩).map (Indicator.recorded metadata) := rfl

end Slo

namespace Indicator

def operations : Indicator → List String
  | .queueAge => ["sqs_queues_breaching:count", "sqs_queues:count", "sqs_queues_breaching:ratio"]
  | .up | .errorRatio _ _ _ | .latency _ => []

theorem operations_metric (i : Indicator) :
    ∀ operation ∈ i.operations, ∀ c ∈ operation.toList, isMetricChar c = true := by
  cases i with
  | queueAge =>
    simp only [operations, List.forall_mem_cons]
    exact ⟨all_chars rfl rfl, all_chars rfl rfl, all_chars rfl rfl, List.forall_mem_nil _⟩
  | up => exact List.forall_mem_nil _
  | errorRatio _ _ _ => exact List.forall_mem_nil _
  | latency _ => exact List.forall_mem_nil _

theorem record_kinds (i : Indicator) {product sliId record : String}
    (listed : record ∈ i.operations.map (ownRecord product sliId) ++ commonRecords) :
    record ∈ commonRecords ∨ ∃ operation, (∀ c ∈ operation.toList, isMetricChar c = true) ∧
      record = ownRecord product sliId operation := by
  rcases List.mem_append.mp listed with own | common
  · obtain ⟨operation, of, same⟩ := List.mem_map.mp own
    exact .inr ⟨operation, i.operations_metric operation of, same.symm⟩
  · exact .inl common

theorem exprs_records (i : Indicator) (spec : SliSpec) (series : String → Expr)
    (own : String → String) :
    (i.exprs spec series own).map (·.1) = i.operations.map own ++ [sliValueRecord] := by
  cases i <;> rfl

def blockExprs (i : Indicator) (spec : SliSpec) (series : String → Expr) (identity : SliIdentity) :
    List (String × Expr) :=
  i.exprs spec series (ownRecord identity.product identity.sliId) ++ Slo.exprs spec identity

section Block

variable (i : Indicator) (spec : SliSpec) (series : String → Expr) (identity : SliIdentity)

theorem blockExprs_records : (i.blockExprs spec series identity).map (·.1) =
    i.operations.map (ownRecord identity.product identity.sliId) ++ commonRecords := by
  rw [blockExprs, List.map_append, exprs_records, List.append_assoc]
  rfl

theorem blockExprs_names : ∀ named ∈ i.blockExprs spec series identity, named.1 ∈ commonRecords ∨
    ∃ operation, (∀ c ∈ operation.toList, isMetricChar c = true) ∧
      named.1 = ownRecord identity.product identity.sliId operation := by
  intro named member
  have listed := List.mem_map_of_mem (f := (·.1)) member
  rw [blockExprs_records] at listed
  exact i.record_kinds listed

end Block

end Indicator

theorem Covers.block_inTurn {p : List String → String → Prop} (covers : Covers p) (i : Indicator)
    {spec : SliSpec} {series : String → Expr} (interval : p [] spec.evalInterval)
    (period : p [] spec.period) (narrowed : ∀ role, (series role).Each (p []))
    (identity : SliIdentity) :
    InTurn (fun seen e => e.Each (p seen)) [] (i.blockExprs spec series identity) := by
  refine (covers.exprs_inTurn i interval narrowed fun _ => ownRecord_metric _ _).append ?_
  rw [Indicator.exprs_records]
  exact ⟨covers.compliance identity (covers.at_once period) (by simp),
    covers.errorBudget identity List.mem_cons_self, trivial⟩

namespace Contribution

variable {config : MixinConfig} {registry : Registry}

theorem block_exprs (part : Contribution config registry) :
    ∃ clauses table, Indicator.ruleClauses part.spec config = .ok clauses ∧
      part.indicator.targets = .ok table ∧
      part.block = (part.indicator.blockExprs part.spec (Indicator.seriesOf table clauses)
        ⟨part.product, part.sliId⟩).map (Indicator.recorded part.metadata) := by
  obtain ⟨clauses, table, selected, read, shape⟩ := Indicator.rules_exprs part.measures
  refine ⟨clauses, table, selected, read, ?_⟩
  rw [block, shape, Slo.rules_recorded, Indicator.blockExprs, List.map_append]
  rfl

def ownRecords (part : Contribution config registry) : List String :=
  part.indicator.operations.map (ownRecord part.product part.sliId)

theorem block_names (part : Contribution config registry) :
    part.block.map (·.record) = part.ownRecords ++ commonRecords := by
  obtain ⟨clauses, table, _, _, shape⟩ := part.block_exprs
  rw [shape, List.map_map]
  exact Indicator.blockExprs_records _ _ _ _

theorem block_records (part : Contribution config registry) :
    ∀ r ∈ part.block, r.record ∈ commonRecords ∨
      ∃ operation, (∀ c ∈ operation.toList, isMetricChar c = true) ∧
        r.record = ownRecord part.product part.sliId operation := by
  intro r member
  have listed := List.mem_map_of_mem (f := (·.record)) member
  rw [block_names] at listed
  exact part.indicator.record_kinds listed

theorem common_listed (part : Contribution config registry) {record : String}
    (common : record ∈ commonRecords) : record ∈ part.block.map (·.record) := by
  rw [block_names]
  exact List.mem_append_right _ common

end Contribution

theorem labelChar_metric {c : Char} (letter : isLabelChar c = true) : isMetricChar c = true := by
  simp only [isLabelChar, isMetricChar, Bool.or_eq_true] at letter ⊢
  exact .inl letter

-- A name of a metric without colons that starts in no way like the names that every SLI records.
structure MetricWord (s : String) : Prop where
  letters : ∀ c ∈ s.toList, isLabelChar c = true
  start : ∃ c, s.toList.head? = some c ∧ c ≠ 's'

namespace MetricWord

theorem constant (s : String) {cs : List Char} (written : s = String.ofList cs)
    (letters : cs.all isLabelChar = true) (start : cs.head?.any (· != 's') = true) :
    MetricWord s := by
  obtain ⟨c, head, other⟩ := (Option.any_eq_true _ _).mp start
  refine ⟨all_chars written letters, c, ?_, by simpa using other⟩
  rw [written, String.toList_ofList, head]

theorem append {s t : String} (word : MetricWord s) (letters : ∀ c ∈ t.toList, isLabelChar c = true) :
    MetricWord (s ++ t) := by
  obtain ⟨c, head, other⟩ := word.start
  refine ⟨fun d member => ?_, c, by simp [List.head?_append, head], other⟩
  rw [String.toList_append] at member
  exact (List.mem_append.mp member).elim (word.letters d) (letters d)

theorem lacks {s : String} (word : MetricWord s) {c : Char} (other : isLabelChar c = false) :
    c ∉ s.toList := fun present => by simp [word.letters c present] at other

theorem metric {s : String} (word : MetricWord s) : ∀ c ∈ s.toList, isMetricChar c = true :=
  fun c member => labelChar_metric (word.letters c member)

end MetricWord

namespace Indicator

def metrics : Indicator → List String
  | .up => ["up"]
  | .errorRatio metric _ _ => [metric]
  | .latency histogram => [histogram ++ "_bucket", histogram ++ "_count"]
  | .queueAge => [ageMetric, visibleMetric]

def narrowing : Indicator → List (String × String)
  | .errorRatio _ statusLabel errorPattern => [(statusLabel, errorPattern)]
  | .queueAge => [(queueLabel, deadLetterPattern)]
  | .up | .latency _ => []

def Targets (i : Indicator) (target : TargetMetric) : Prop :=
  target.name ∈ i.metrics ∧ ∀ c ∈ target.clauses, (c.label, c.pattern) ∈ i.narrowing

theorem make_ok {label operator pattern : String} {c : Clause}
    (made : Clause.make label operator pattern = .ok c) :
    c.label = label ∧ c.pattern = pattern := by
  unfold Clause.make at made
  split at made
  · split at made
    · cases made
      exact ⟨rfl, rfl⟩
    · cases made
  · cases made

theorem targets_listed {i : Indicator} {table : List (String × TargetMetric)}
    (read : i.targets = .ok table) : ∀ target ∈ table, i.Targets target.2 := by
  intro target member
  cases i with
  | up =>
    cases read
    rw [List.mem_singleton.mp member]
    exact ⟨List.mem_cons_self, List.forall_mem_nil _⟩
  | errorRatio metric statusLabel errorPattern =>
    obtain ⟨requests, named, read⟩ := bind_ok.mp read
    obtain ⟨errors, made, read⟩ := bind_ok.mp read
    cases read
    have same : requests = metric := by
      unfold MetricRoles.metric MetricRoles.named? at named
      split at named
      · next name given =>
        cases named
        exact (Option.some.inj (Option.filter_eq_some_iff.mp given).1).symm
      · cases named
    obtain ⟨label, pattern⟩ := make_ok (mapError_ok.mp made)
    simp only [List.mem_cons, List.not_mem_nil, or_false] at member
    rcases member with rfl | rfl
    · exact ⟨by simp [metrics, same], List.forall_mem_nil _⟩
    · exact ⟨by simp [metrics, same],
        List.forall_mem_singleton.mpr (by simp [narrowing, label, pattern])⟩
  | latency histogram =>
    cases read
    simp only [List.mem_cons, List.not_mem_nil, or_false] at member
    rcases member with rfl | rfl <;> exact ⟨by simp [metrics], List.forall_mem_nil _⟩
  | queueAge =>
    cases read
    have own : ∀ c ∈ [deadLetters], (c.label, c.pattern) ∈ queueAge.narrowing :=
      List.forall_mem_singleton.mpr List.mem_cons_self
    simp only [List.mem_cons, List.not_mem_nil, or_false] at member
    rcases member with rfl | rfl <;> exact ⟨by simp [metrics], own⟩

theorem seriesOf_each {p : String → Prop} {table : List (String × TargetMetric)}
    {clauses : List Clause} (empty : p "")
    (targets : ∀ target ∈ table, p target.2.name ∧ ∀ c ∈ target.2.clauses, p c.label)
    (labels : ∀ c ∈ clauses, p c.label) (role : String) :
    (seriesOf table clauses role).Each p := by
  refine Expr.each_series.mpr ?_
  cases found : Ordered.get? table role with
  | none =>
    refine ⟨empty, fun c member => ?_⟩
    rw [Option.getD_none, List.append_nil] at member
    exact labels c member
  | some target =>
    obtain ⟨name, own⟩ := targets (role, target) (Ordered.mem_of_get? found)
    exact ⟨name, fun c member => (List.mem_append.mp member).elim (labels c) (own c)⟩

theorem latency_words {histogram : String} (word : MetricWord histogram) :
    ∀ metric ∈ (latency histogram).metrics, MetricWord metric := by
  refine List.forall_mem_cons.mpr ⟨word.append (all_chars rfl rfl), ?_⟩
  exact List.forall_mem_singleton.mpr (word.append (all_chars rfl rfl))

theorem standard_words :
    ∀ named ∈ Registry.standard, ∀ metric ∈ named.2.metrics, MetricWord metric := by
  have queues : ∀ metric ∈ queueAge.metrics, MetricWord metric :=
    List.forall_mem_cons.mpr
      ⟨.constant _ rfl rfl rfl, List.forall_mem_singleton.mpr (.constant _ rfl rfl rfl)⟩
  simp only [Registry.standard, List.forall_mem_cons]
  refine ⟨?_, ?_, ?_, ?_, latency_words (.constant _ rfl rfl rfl),
    latency_words (.constant _ rfl rfl rfl), latency_words (.constant _ rfl rfl rfl), queues,
    List.forall_mem_nil _⟩
  · exact List.forall_mem_singleton.mpr (.constant "up" rfl rfl rfl)
  · exact List.forall_mem_singleton.mpr (.constant "http_requests_total" rfl rfl rfl)
  · exact List.forall_mem_singleton.mpr (.constant "prometheus_http_requests_total" rfl rfl rfl)
  · exact List.forall_mem_singleton.mpr
      (.constant "grafana_http_request_duration_seconds_count" rfl rfl rfl)

end Indicator

namespace Registry

theorem get_listed {registry : Registry} {tag : String} {i : Indicator}
    (found : registry.get tag = .ok i) : (tag, i) ∈ registry := by
  unfold get at found
  split at found
  · next indicator given =>
    cases found
    exact Ordered.mem_of_get? given
  · cases found

theorem target_word {tag : String} {i : Indicator} (found : standard.get tag = .ok i)
    {table : List (String × TargetMetric)} (read : i.targets = .ok table) :
    ∀ target ∈ table, MetricWord target.2.name := fun target member =>
  Indicator.standard_words _ (get_listed found) _ (Indicator.targets_listed read target member).1

end Registry

end SloCompiler
