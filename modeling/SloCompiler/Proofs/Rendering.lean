import SloCompiler.Promql.Expr
import SloCompiler.Proofs.Words

namespace SloCompiler
open Check

theorem isLabelChars_forall {cs : List Char} (named : isLabelChars cs = true) {c : Char}
    (member : c ∈ cs) : isLabelChar c = true := by
  cases cs with
  | nil => cases member
  | cons d rest =>
    simp only [isLabelChars, Bool.and_eq_true, List.all_eq_true] at named
    rcases List.mem_cons.mp member with rfl | later
    · have start := named.1
      simp only [isLabelStart, isLabelChar, Char.isAlphanum, Bool.or_eq_true] at start ⊢
      exact start.imp .inl id
    · exact named.2 c later

theorem finalNewline_cases (cs : List Char) :
    cs = Text.withoutFinalNewline cs ∨ cs = Text.withoutFinalNewline cs ++ ['\n'] := by
  unfold Text.withoutFinalNewline
  split
  · next final => exact .inr (List.dropLast_append_getLast? '\n' final).symm
  · exact .inl rfl

theorem label_chars {label : String} (valid : isLabelName label = true) {c : Char}
    (present : c ∈ label.toList) : isLabelChar c = true ∨ c = '\n' := by
  rcases finalNewline_cases label.toList with bare | fed
  · rw [bare] at present
    exact .inl (isLabelChars_forall valid present)
  · rw [fed] at present
    exact (List.mem_append.mp present).imp (isLabelChars_forall valid) List.mem_singleton.mp

namespace Clause

def hollow (c : Clause) : Clause := { c with pattern := "" }

theorem label_lacks (c : Clause) {mark : Char} (other : isLabelChar mark = false)
    (noFeed : mark ≠ '\n') : mark ∉ c.label.toList := fun present => by
  rcases label_chars c.label_valid present with letter | feed
  · simp [letter] at other
  · exact noFeed feed

theorem render_toList (c : Clause) : c.render.toList =
    c.label.toList ++ (c.operator.text.toList ++ '"' :: (escape c.pattern.toList ++ ['"'])) := by
  simp [render]

theorem hollow_toList (c : Clause) : c.hollow.render.toList =
    c.label.toList ++ (c.operator.text.toList ++ ['"', '"']) := by
  simp [render_toList, hollow, escape]

theorem operator_lacks_quote (operator : MatchOperator) : '"' ∉ operator.text.toList := by
  cases operator <;> decide

theorem unquoted_render (c : Clause) (rest : List Char) :
    unquoted (c.render.toList ++ rest) = c.hollow.render.toList ++ unquoted rest := by
  have label : '"' ∉ c.label.toList := c.label_lacks (by decide) (by decide)
  rw [hollow_toList, render_toList]
  simp only [List.append_assoc, List.cons_append, List.nil_append]
  rw [unquoted_append label, unquoted_append (operator_lacks_quote _), unquoted_quoted]

end Clause

theorem unquoted_clauses (clauses : List Clause) (rest : List Char) :
    unquoted ([',', ' '].intercalate (clauses.map fun c => c.render.toList) ++ rest) =
      [',', ' '].intercalate (clauses.map fun c => c.hollow.render.toList) ++ unquoted rest := by
  induction clauses with
  | nil => rfl
  | cons c clauses ih =>
    cases clauses with
    | nil => simpa using c.unquoted_render rest
    | cons d clauses =>
      simp only [List.map_cons, List.intercalate_cons_cons, List.append_assoc] at ih ⊢
      rw [c.unquoted_render, unquoted_append (by decide), ih]

theorem renderSeries_toList (metric : String) (clauses : List Clause) :
    (renderSeries metric clauses).toList = metric.toList ++
      if clauses.isEmpty then [] else
        '\x7b' :: ([',', ' '].intercalate (clauses.map fun c => c.render.toList) ++ ['\x7d']) := by
  unfold renderSeries renderSelector
  split <;> simp [Function.comp_def]

theorem unquoted_series {metric : String} (plain : '"' ∉ metric.toList) (clauses : List Clause)
    (rest : List Char) :
    unquoted ((renderSeries metric clauses).toList ++ rest) =
      (renderSeries metric (clauses.map Clause.hollow)).toList ++ unquoted rest := by
  cases clauses with
  | nil => simpa [renderSeries_toList] using unquoted_append plain rest
  | cons c clauses =>
    have body := unquoted_clauses (c :: clauses) ('\x7d' :: rest)
    simp only [renderSeries_toList, List.isEmpty_cons, List.map_cons, Bool.false_eq_true, if_false,
      List.append_assoc, List.cons_append, List.nil_append, List.map_map,
      Function.comp_def] at body ⊢
    rw [unquoted_append plain, unquoted_cons (by decide), body, unquoted_cons (by decide)]

namespace Expr

def leaves : Expr → List String
  | .text s => [s]
  | .series target selectors => target.name :: (selectors ++ target.clauses).map (·.label)
  | .window e span => span :: leaves e
  | .call function argument => function :: leaves argument
  | .quantile q buckets => q :: leaves buckets
  | .aggregateBy operation label e => operation :: label :: leaves e
  | .binary operation left right => operation :: (leaves left ++ leaves right)
  | .group e => leaves e

-- An expression all of whose texts have a property, the patterns of its selectors aside.
def Each (p : String → Prop) (e : Expr) : Prop := ∀ s ∈ e.leaves, p s

section Each

variable {p : String → Prop}

theorem each_text {s : String} : (text s).Each p ↔ p s := List.forall_mem_singleton

theorem each_series {target : TargetMetric} {selectors : List Clause} :
    (series target selectors).Each p ↔
      p target.name ∧ ∀ c ∈ selectors ++ target.clauses, p c.label :=
  List.forall_mem_cons.trans (and_congr_right fun _ => List.forall_mem_map)

theorem each_window {e : Expr} {span : String} : (window e span).Each p ↔ p span ∧ e.Each p :=
  List.forall_mem_cons

theorem each_call {function : String} {argument : Expr} :
    (call function argument).Each p ↔ p function ∧ argument.Each p := List.forall_mem_cons

theorem each_quantile {q : String} {buckets : Expr} :
    (quantile q buckets).Each p ↔ p q ∧ buckets.Each p := List.forall_mem_cons

theorem each_aggregateBy {operation label : String} {e : Expr} :
    (aggregateBy operation label e).Each p ↔ p operation ∧ p label ∧ e.Each p :=
  List.forall_mem_cons.trans (and_congr_right fun _ => List.forall_mem_cons)

theorem each_binary {operation : String} {left right : Expr} :
    (binary operation left right).Each p ↔ p operation ∧ left.Each p ∧ right.Each p :=
  List.forall_mem_cons.trans (and_congr_right fun _ => List.forall_mem_append)

end Each

namespace Each

variable {p : String → Prop}

theorem text {s : String} (own : p s) : (Expr.text s).Each p := each_text.mpr own

theorem series {target : TargetMetric} {selectors : List Clause} (name : p target.name)
    (labels : ∀ c : Clause, p c.label) : (Expr.series target selectors).Each p :=
  each_series.mpr ⟨name, fun c _ => labels c⟩

theorem window {e : Expr} (inner : e.Each p) {span : String} (own : p span) :
    (Expr.window e span).Each p := each_window.mpr ⟨own, inner⟩

theorem call {function : String} (own : p function) {argument : Expr}
    (inner : argument.Each p) : (Expr.call function argument).Each p :=
  each_call.mpr ⟨own, inner⟩

theorem quantile {q : String} (own : p q) {buckets : Expr} (inner : buckets.Each p) :
    (Expr.quantile q buckets).Each p := each_quantile.mpr ⟨own, inner⟩

theorem aggregateBy {operation label : String} (first : p operation) (second : p label) {e : Expr}
    (inner : e.Each p) : (Expr.aggregateBy operation label e).Each p :=
  each_aggregateBy.mpr ⟨first, second, inner⟩

theorem binary {operation : String} (own : p operation) {left right : Expr} (first : left.Each p)
    (second : right.Each p) : (Expr.binary operation left right).Each p :=
  each_binary.mpr ⟨own, first, second⟩

end Each

def hollow : Expr → Expr
  | .text s => .text s
  | .series target selectors =>
    .series ⟨target.name, target.clauses.map Clause.hollow⟩ (selectors.map Clause.hollow)
  | .window e span => .window (hollow e) span
  | .call function argument => .call function (hollow argument)
  | .quantile q buckets => .quantile q (hollow buckets)
  | .aggregateBy operation label e => .aggregateBy operation label (hollow e)
  | .binary operation left right => .binary operation (hollow left) (hollow right)
  | .group e => .group (hollow e)

@[simp] theorem render_text (s : String) : (text s).render = s := rfl

@[simp] theorem render_series (target : TargetMetric) (selectors : List Clause) :
    (series target selectors).render = target.series selectors := rfl

@[simp] theorem render_window (e : Expr) (span : String) :
    (window e span).render = e.render ++ "[" ++ span ++ "]" := rfl

@[simp] theorem render_call (function : String) (argument : Expr) :
    (call function argument).render = function ++ "(" ++ argument.render ++ ")" := rfl

@[simp] theorem render_quantile (q : String) (buckets : Expr) :
    (quantile q buckets).render = "histogram_quantile(" ++ q ++ ", " ++ buckets.render ++ ")" := rfl

@[simp] theorem render_aggregateBy (operation label : String) (e : Expr) :
    (aggregateBy operation label e).render =
      operation ++ " by (" ++ label ++ ") (" ++ e.render ++ ")" := rfl

@[simp] theorem render_binary (operation : String) (left right : Expr) :
    (binary operation left right).render =
      left.render ++ " " ++ operation ++ " " ++ right.render := rfl

@[simp] theorem render_group (e : Expr) : (group e).render = "(" ++ e.render ++ ")" := rfl

-- Emptying the quoted texts of an expression empties the patterns of its clauses and nothing
-- else, unless a quote stands elsewhere.
theorem unquoted_render {e : Expr} (plain : e.Each ('"' ∉ ·.toList)) (rest : List Char) :
    unquoted (e.render.toList ++ rest) = e.hollow.render.toList ++ unquoted rest := by
  induction e generalizing rest with
  | text s => rw [hollow, render_text, unquoted_append (each_text.mp plain)]
  | series target selectors =>
    have name := (each_series.mp plain).1
    simpa [hollow, TargetMetric.series] using
      unquoted_series name (selectors ++ target.clauses) rest
  | window e span ih =>
    obtain ⟨span, inner⟩ := each_window.mp plain
    simp [hollow, ih inner, unquoted_cons, unquoted_append span]
  | call function argument ih =>
    obtain ⟨function, inner⟩ := each_call.mp plain
    simp [hollow, ih inner, unquoted_cons, unquoted_append function]
  | quantile q buckets ih =>
    obtain ⟨q, inner⟩ := each_quantile.mp plain
    simp [hollow, ih inner, unquoted_cons, unquoted_append q]
  | aggregateBy operation label e ih =>
    obtain ⟨operation, label, inner⟩ := each_aggregateBy.mp plain
    simp [hollow, ih inner, unquoted_cons, unquoted_append operation, unquoted_append label]
  | binary operation left right before after =>
    obtain ⟨operation, left, right⟩ := each_binary.mp plain
    simp [hollow, before left, after right, unquoted_cons, unquoted_append operation]
  | group e ih => simp [hollow, ih plain, unquoted_cons]

end Expr

namespace Check

def Says (allowed : List Char → Prop) (cs : List Char) : Prop := ∀ w ∈ words cs, allowed w

variable {allowed : List Char → Prop}

theorem Says.append {a b : List Char} {c : Char} (before : Says allowed a)
    (after : Says allowed b) (mark : isMetricChar c = false := by decide) :
    Says allowed (a ++ c :: b) := by
  intro w listed
  rw [words_append a b mark] at listed
  exact (List.mem_append.mp listed).elim (before w) (after w)

theorem Says.nil (empty : allowed []) : Says allowed [] := by
  intro w listed
  rw [List.mem_singleton.mp (show w ∈ [[]] from listed)]
  exact empty

theorem Says.mark {c : Char} {rest : List Char} (empty : allowed []) (after : Says allowed rest)
    (mark : isMetricChar c = false := by decide) : Says allowed (c :: rest) :=
  Says.append (Says.nil empty) after mark

theorem says_clause (empty : allowed []) (c : Clause) (label : Says allowed c.label.toList)
    {rest : List Char} (after : Says allowed rest) :
    Says allowed (c.hollow.render.toList ++ rest) := by
  simp only [Clause.hollow_toList, List.append_assoc, List.cons_append, List.nil_append]
  have quotes : Says allowed ('"' :: '"' :: rest) := .mark empty (.mark empty after)
  cases c.operator with
  | equal => exact label.append quotes
  | notEqual => exact label.append (.mark empty quotes)
  | regexMatch => exact label.append (.mark empty quotes)
  | regexNoMatch => exact label.append (.mark empty quotes)

theorem says_clauses (empty : allowed []) {clauses : List Clause}
    (labels : ∀ c ∈ clauses, Says allowed c.label.toList) {rest : List Char}
    (after : Says allowed rest) :
    Says allowed ([',', ' '].intercalate (clauses.map fun c => c.hollow.render.toList) ++ rest) := by
  induction clauses with
  | nil => exact after
  | cons c clauses ih =>
    have tail := ih fun d member => labels d (List.mem_cons_of_mem _ member)
    cases clauses with
    | nil => simpa using says_clause empty c (labels c List.mem_cons_self) after
    | cons d clauses =>
      simp only [List.map_cons, List.intercalate_cons_cons, List.append_assoc] at tail ⊢
      exact says_clause empty c (labels c List.mem_cons_self) (.mark empty (.mark empty tail))

end Check

namespace Expr

variable {allowed : List Char → Prop}

theorem says_series (empty : allowed []) {metric : String} (name : Says allowed metric.toList)
    {clauses : List Clause} (labels : ∀ c ∈ clauses, Says allowed c.label.toList)
    {rest : List Char} (c : Char) (mark : isMetricChar c = false) (after : Says allowed rest) :
    Says allowed ((renderSeries metric (clauses.map Clause.hollow)).toList ++ c :: rest) := by
  rw [renderSeries_toList]
  split
  · simpa using name.append after mark
  · have body := says_clauses empty labels (Says.mark (c := '\x7d') empty (.mark empty after mark))
    simpa [Function.comp_def] using name.append (c := '\x7b') body

structure Keywords (allowed : List Char → Prop) : Prop where
  empty : allowed []
  by' : Says allowed "by".toList
  quantile : Says allowed "histogram_quantile".toList

-- Outside quotes an expression says what its leaves say, and the words of its notation. What
-- follows starts with a mark, so that no word of the expression goes on in it.
theorem says_render (keywords : Keywords allowed) {e : Expr}
    (plain : e.Each (Says allowed ·.toList)) {rest : List Char} (c : Char)
    (mark : isMetricChar c = false) (after : Says allowed rest) :
    Says allowed (e.hollow.render.toList ++ c :: rest) := by
  have empty := keywords.empty
  induction e generalizing rest c with
  | text s =>
    rw [hollow, render_text]
    exact (each_text.mp plain).append after mark
  | series target selectors =>
    obtain ⟨name, labels⟩ := each_series.mp plain
    simpa [hollow, TargetMetric.series] using says_series empty name labels c mark after
  | window e span ih =>
    obtain ⟨span, inner⟩ := each_window.mp plain
    have inner := ih inner '[' (by decide) (span.append (c := ']') (.mark empty after mark))
    simpa [hollow] using inner
  | call function argument ih =>
    obtain ⟨function, inner⟩ := each_call.mp plain
    have inner := ih inner ')' (by decide) (.mark empty after mark)
    simpa [hollow] using function.append inner
  | quantile q buckets ih =>
    obtain ⟨q, inner⟩ := each_quantile.mp plain
    have inner := ih inner ')' (by decide) (.mark empty after mark)
    have arguments := q.append (c := ',') (.mark (c := ' ') empty inner)
    simpa [hollow] using keywords.quantile.append (c := '(') arguments
  | aggregateBy operation label e ih =>
    obtain ⟨operation, label, inner⟩ := each_aggregateBy.mp plain
    have inner := ih inner ')' (by decide) (.mark empty after mark)
    have body := label.append (c := ')') (.mark (c := ' ') empty (.mark (c := '(') empty inner))
    have grouping := keywords.by'.append (c := ' ') (.mark (c := '(') empty body)
    simpa [hollow] using operation.append (c := ' ') grouping
  | binary operation left right before later =>
    obtain ⟨operation, left, right⟩ := each_binary.mp plain
    have right := later right c mark after
    have left := before left ' ' (by decide) (operation.append (c := ' ') right)
    simpa [hollow] using left
  | group e ih =>
    have inner := ih plain ')' (by decide) (.mark empty after mark)
    simpa [hollow] using Says.mark (c := '(') empty inner

end Expr

end SloCompiler
