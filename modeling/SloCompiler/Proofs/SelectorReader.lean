import SloCompiler.Proofs.Rendering

namespace SloCompiler

-- Reading selectors back from the text of an expression. Nothing here is used to write them.
namespace SelectorReader

def readPattern? : List Char → Option (List Char × List Char)
  | [] => none
  | c :: rest =>
    if c == '"' then some ([], rest)
    else if c == '\\' then
      match rest with
      | [] => none
      | d :: more => (readPattern? more).map fun (pattern, after) => (d :: pattern, after)
    else (readPattern? rest).map fun (pattern, after) => (c :: pattern, after)

def readOperator? : List Char → Option (MatchOperator × List Char)
  | '=' :: '~' :: rest => some (.regexMatch, rest)
  | '=' :: rest => some (.equal, rest)
  | '!' :: '~' :: rest => some (.regexNoMatch, rest)
  | '!' :: '=' :: rest => some (.notEqual, rest)
  | _ => none

def startsOperator (c : Char) : Bool := c == '=' || c == '!'

def readClause? (cs : List Char) : Option (Clause × List Char) :=
  let label := String.ofList (cs.takeWhile (!startsOperator ·))
  if valid : isLabelName label = true then
    match readOperator? (cs.dropWhile (!startsOperator ·)) with
    | some (operator, '"' :: rest) =>
      (readPattern? rest).map fun (pattern, after) =>
        (⟨label, operator, String.ofList pattern, valid⟩, after)
    | _ => none
  else none

theorem readPattern?_shorter {cs pattern after : List Char}
    (read : readPattern? cs = some (pattern, after)) : after.length < cs.length := by
  fun_induction readPattern? cs generalizing pattern after with
  | case1 => cases read
  | case2 c rest quote => cases read; simp
  | case3 => cases read
  | case4 c slash d more apart ih =>
    obtain ⟨⟨p, a⟩, found, same⟩ := Option.map_eq_some_iff.mp read
    cases same
    have shorter := ih found
    simp only [List.length_cons]
    omega
  | case5 c rest quote slash ih =>
    obtain ⟨⟨p, a⟩, found, same⟩ := Option.map_eq_some_iff.mp read
    cases same
    have shorter := ih found
    simp only [List.length_cons]
    omega

theorem readOperator?_shorter {cs after : List Char} {operator : MatchOperator}
    (read : readOperator? cs = some (operator, after)) : after.length < cs.length := by
  unfold readOperator? at read
  split at read <;> cases read <;> simp only [List.length_cons] <;> omega

theorem readClause?_shorter {cs after : List Char} {c : Clause}
    (read : readClause? cs = some (c, after)) : after.length < cs.length := by
  unfold readClause? at read
  dsimp only at read
  split at read
  · split at read
    · next operator rest found =>
      obtain ⟨⟨pattern, a⟩, quoted, same⟩ := Option.map_eq_some_iff.mp read
      cases same
      have inner := readPattern?_shorter quoted
      have outer := readOperator?_shorter found
      have dropped := (List.dropWhile_suffix (!startsOperator ·) : _ <:+ cs).length_le
      simp only [List.length_cons] at inner outer ⊢
      omega
    · cases read
  · cases read

def readClauses? (cs : List Char) : Option (List Clause × List Char) :=
  match _found : readClause? cs with
  | some (c, '\x7d' :: rest) => some ([c], rest)
  | some (c, ',' :: ' ' :: rest) =>
    (readClauses? rest).map fun (clauses, after) => (c :: clauses, after)
  | _ => none
termination_by cs.length
decreasing_by
  have shorter := readClause?_shorter _found
  simp only [List.length_cons] at shorter
  omega

theorem readPattern?_escape (pattern rest : List Char) :
    readPattern? (Clause.escape pattern ++ '"' :: rest) = some (pattern, rest) := by
  induction pattern with
  | nil =>
    rw [readPattern?.eq_def]
    rfl
  | cons c pattern ih =>
    have split : Clause.escape (c :: pattern) =
        (if c == '"' || c == '\\' then ['\\', c] else [c]) ++ Clause.escape pattern := rfl
    by_cases special : (c == '"' || c == '\\') = true
    · rw [split, if_pos special]
      simp only [List.cons_append, List.nil_append]
      rw [readPattern?.eq_def]
      simp [ih]
    · rw [split, if_neg special]
      simp only [List.cons_append, List.nil_append]
      rw [readPattern?.eq_def]
      simp only [Bool.or_eq_true, not_or] at special
      simp [special, ih]

theorem readOperator?_text (operator : MatchOperator) (rest : List Char) :
    readOperator? (operator.text.toList ++ '"' :: rest) = some (operator, '"' :: rest) := by
  cases operator <;> rfl

theorem operator_starts (operator : MatchOperator) :
    ∃ c more, operator.text.toList = c :: more ∧ startsOperator c = true := by
  cases operator <;> exact ⟨_, _, rfl, rfl⟩

theorem readClause?_render (c : Clause) (rest : List Char) :
    readClause? (c.render.toList ++ rest) = some (c, rest) := by
  obtain ⟨first, more, text, starts⟩ := operator_starts c.operator
  have label : ∀ d ∈ c.label.toList, (!startsOperator d) = true := by
    intro d member
    have equal : d ≠ '=' := fun same => c.label_lacks (by decide) (by decide) (same ▸ member)
    have mark : d ≠ '!' := fun same => c.label_lacks (by decide) (by decide) (same ▸ member)
    simp [startsOperator, equal, mark]
  have shape : c.render.toList ++ rest = c.label.toList ++ (first :: (more ++
      '"' :: (Clause.escape c.pattern.toList ++ '"' :: rest))) := by
    simp [c.render_toList, text]
  have operator := readOperator?_text c.operator
    (Clause.escape c.pattern.toList ++ '"' :: rest)
  rw [text, List.cons_append] at operator
  have taken : (c.render.toList ++ rest).takeWhile (!startsOperator ·) = c.label.toList := by
    rw [shape, List.takeWhile_append_of_pos label, List.takeWhile_cons, if_neg (by simp [starts])]
    simp
  have dropped : (c.render.toList ++ rest).dropWhile (!startsOperator ·) = first :: (more ++
      '"' :: (Clause.escape c.pattern.toList ++ '"' :: rest)) := by
    rw [shape, List.dropWhile_append_of_pos label, List.dropWhile_cons, if_neg (by simp [starts])]
  unfold readClause?
  simp only [taken, dropped, operator, readPattern?_escape, String.ofList_toList, c.label_valid,
    dif_pos, Option.map_some]

theorem readClauses?_last {cs rest : List Char} {c : Clause}
    (read : readClause? cs = some (c, '\x7d' :: rest)) :
    readClauses? cs = some ([c], rest) := by
  unfold readClauses?
  split <;> simp_all

theorem readClauses?_more {cs rest : List Char} {c : Clause}
    (read : readClause? cs = some (c, ',' :: ' ' :: rest)) :
    readClauses? cs =
      (readClauses? rest).map fun (clauses, after) => (c :: clauses, after) := by
  rw [readClauses?]
  split <;> simp_all

theorem readClauses?_render (c : Clause) (clauses : List Clause) (rest : List Char) :
    readClauses? ([',', ' '].intercalate ((c :: clauses).map fun d => d.render.toList) ++
      '\x7d' :: rest) = some (c :: clauses, rest) := by
  induction clauses generalizing c with
  | nil => exact readClauses?_last (by simp [readClause?_render])
  | cons d clauses ih =>
    have first := readClause?_render c (',' :: ' ' :: ([',', ' '].intercalate
      ((d :: clauses).map fun d => d.render.toList) ++ '\x7d' :: rest))
    have later := ih d
    simp only [List.map_cons, List.intercalate_cons_cons, List.append_assoc, List.cons_append,
      List.nil_append] at first later ⊢
    rw [readClauses?_more first, later]
    rfl

theorem readClauses?_shorter {cs after : List Char} {clauses : List Clause}
    (read : readClauses? cs = some (clauses, after)) : after.length < cs.length := by
  fun_induction readClauses? cs generalizing clauses after with
  | case1 cs c rest found =>
    cases read
    have shorter := readClause?_shorter found
    simp only [List.length_cons] at shorter
    omega
  | case2 cs c rest found ih =>
    obtain ⟨⟨cl, a⟩, more, same⟩ := Option.map_eq_some_iff.mp read
    cases same
    have outer := readClause?_shorter found
    have inner := ih more
    simp only [List.length_cons] at outer
    omega
  | case3 => cases read

-- All selectors of a text with the metrics that they stand behind. A metric is a run of
-- characters of metric names right before the brace; such characters are kept, last one first.
def selectorsFrom (word : List Char) (cs : List Char) : List TargetMetric :=
  match cs with
  | [] => []
  | c :: rest =>
    if c == '\x7b' then
      match _found : readClauses? rest with
      | some (clauses, after) => ⟨String.ofList word.reverse, clauses⟩ :: selectorsFrom [] after
      | none => selectorsFrom [] rest
    else selectorsFrom (if isMetricChar c then c :: word else []) rest
termination_by cs.length
decreasing_by
  · have shorter := readClauses?_shorter _found
    simp only [List.length_cons]
    omega
  · simp
  · simp

def selectors (text : String) : List TargetMetric := selectorsFrom [] text.toList

theorem selectorsFrom_nil (word : List Char) : selectorsFrom word [] = [] := by
  rw [selectorsFrom]

theorem selectorsFrom_brace {rest after : List Char} {clauses : List Clause} (word : List Char)
    (read : readClauses? rest = some (clauses, after)) :
    selectorsFrom word ('\x7b' :: rest) =
      ⟨String.ofList word.reverse, clauses⟩ :: selectorsFrom [] after := by
  rw [selectorsFrom, if_pos (by decide)]
  split <;> simp_all

theorem selectorsFrom_metric {c : Char} (metric : isMetricChar c = true) (word rest : List Char) :
    selectorsFrom word (c :: rest) = selectorsFrom (c :: word) rest := by
  have other : c ≠ '\x7b' := fun same => absurd (same ▸ metric) (by decide)
  rw [selectorsFrom, if_neg (by simpa using other), if_pos metric]

theorem selectorsFrom_mark {c : Char} (other : c ≠ '\x7b') (mark : isMetricChar c = false)
    (word rest : List Char) : selectorsFrom word (c :: rest) = selectorsFrom [] rest := by
  rw [selectorsFrom, if_neg (by simpa using other), if_neg (by simp [mark])]

theorem selectorsFrom_name {name : List Char} (metric : ∀ c ∈ name, isMetricChar c = true)
    (word rest : List Char) :
    selectorsFrom word (name ++ rest) = selectorsFrom (name.reverse ++ word) rest := by
  induction name generalizing word with
  | nil => rfl
  | cons c name ih =>
    rw [List.cons_append, selectorsFrom_metric (metric c List.mem_cons_self),
      ih fun d member => metric d (List.mem_cons_of_mem _ member)]
    simp

inductive Parted : List Char → Prop where
  | nil : Parted []
  | mark {c : Char} (rest : List Char) (other : c ≠ '\x7b' := by decide)
    (mark : isMetricChar c = false := by decide) : Parted (c :: rest)

theorem selectorsFrom_parted {rest : List Char} (parted : Parted rest) (word : List Char) :
    selectorsFrom word rest = selectorsFrom [] rest := by
  cases parted with
  | nil => rw [selectorsFrom_nil, selectorsFrom_nil]
  | mark rest other mark => rw [selectorsFrom_mark other mark, selectorsFrom_mark other mark]

theorem selectorsFrom_plain {s rest : List Char} (plain : '\x7b' ∉ s) (parted : Parted rest)
    (word : List Char) : selectorsFrom word (s ++ rest) = selectorsFrom [] rest := by
  induction s generalizing word with
  | nil => exact selectorsFrom_parted parted word
  | cons c s ih =>
    obtain ⟨other, plain⟩ := not_or.mp (List.mem_cons.not.mp plain)
    rw [List.cons_append, selectorsFrom, if_neg (by simpa using Ne.symm other)]
    exact ih plain _

theorem selectorsFrom_skip {s : List Char} (plain : '\x7b' ∉ s) {c : Char} (rest : List Char)
    (other : c ≠ '\x7b' := by decide) (mark : isMetricChar c = false := by decide)
    (word : List Char := []) : selectorsFrom word (s ++ c :: rest) = selectorsFrom [] rest := by
  rw [selectorsFrom_plain plain (.mark rest other mark), selectorsFrom_mark other mark]

theorem selectorsFrom_series {metric : String} (name : ∀ c ∈ metric.toList, isMetricChar c = true)
    (clauses : List Clause) {rest : List Char} (parted : Parted rest) :
    selectorsFrom [] ((renderSeries metric clauses).toList ++ rest) =
      (if clauses.isEmpty then [] else [⟨metric, clauses⟩]) ++ selectorsFrom [] rest := by
  rw [renderSeries_toList]
  cases clauses with
  | nil =>
    simp only [List.isEmpty_nil, if_true, List.append_nil, List.nil_append]
    rw [selectorsFrom_name name]
    exact selectorsFrom_parted parted _
  | cons c clauses =>
    have read := readClauses?_render c clauses rest
    simp only [List.isEmpty_cons, Bool.false_eq_true, if_false, List.append_assoc,
      List.cons_append, List.nil_append]
    rw [selectorsFrom_name name, selectorsFrom_brace _ read]
    simp

end SelectorReader

namespace Expr
open SelectorReader

def selectors : Expr → List TargetMetric
  | .text _ => []
  | .series target narrowing =>
    if (narrowing ++ target.clauses).isEmpty then []
    else [⟨target.name, narrowing ++ target.clauses⟩]
  | .window e _ => selectors e
  | .call _ argument => selectors argument
  | .quantile _ buckets => selectors buckets
  | .aggregateBy _ _ e => selectors e
  | .binary _ left right => selectors left ++ selectors right
  | .group e => selectors e

def Named : Expr → Prop
  | .text _ => True
  | .series target _ => ∀ c ∈ target.name.toList, isMetricChar c = true
  | .window e _ => Named e
  | .call _ argument => Named argument
  | .quantile _ buckets => Named buckets
  | .aggregateBy _ _ e => Named e
  | .binary _ left right => Named left ∧ Named right
  | .group e => Named e

-- The selectors of an expression can be read back from its text, in order, and nothing else can.
def ReadsBack (e : Expr) : Prop := ∀ rest : List Char, Parted rest →
  selectorsFrom [] (e.render.toList ++ rest) = e.selectors ++ selectorsFrom [] rest

theorem ReadsBack.mark {e : Expr} (reads : e.ReadsBack) {c : Char} (rest : List Char)
    (other : c ≠ '\x7b' := by decide) (mark : isMetricChar c = false := by decide) :
    selectorsFrom [] (e.render.toList ++ c :: rest) = e.selectors ++ selectorsFrom [] rest := by
  rw [reads _ (.mark rest other mark), selectorsFrom_mark other mark]

theorem reads_back {e : Expr} (plain : e.Each ('\x7b' ∉ ·.toList)) (named : e.Named) :
    e.ReadsBack := by
  -- What follows an argument is read first, so that the name before it can be passed over.
  induction e with
  | text s =>
    intro rest parted
    exact selectorsFrom_plain (each_text.mp plain) parted []
  | series target narrowing =>
    intro rest parted
    exact selectorsFrom_series named _ parted
  | window e span ih =>
    intro rest parted
    obtain ⟨span_plain, inner_plain⟩ := each_window.mp plain
    have inner : e.ReadsBack := ih inner_plain named
    have skipped := selectorsFrom_skip (c := ']') span_plain rest
    have read := inner.mark (c := '[') (span.toList ++ ']' :: rest)
    rw [skipped] at read
    simpa [selectors] using read
  | call function argument ih =>
    intro rest parted
    obtain ⟨function_plain, inner_plain⟩ := each_call.mp plain
    have inner : argument.ReadsBack := ih inner_plain named
    have skipped := selectorsFrom_skip (c := '(') function_plain
      (argument.render.toList ++ ')' :: rest)
    rw [inner.mark] at skipped
    simpa [selectors] using skipped
  | quantile q buckets ih =>
    intro rest parted
    obtain ⟨q_plain, inner_plain⟩ := each_quantile.mp plain
    have inner : buckets.ReadsBack := ih inner_plain named
    have argument := selectorsFrom_skip (c := ',') q_plain
      (' ' :: (buckets.render.toList ++ ')' :: rest))
    have name := selectorsFrom_skip (s := "histogram_quantile".toList) (c := '(') (by decide)
      (q.toList ++ ',' :: ' ' :: (buckets.render.toList ++ ')' :: rest))
    rw [argument, selectorsFrom_mark (by decide) (by decide), inner.mark] at name
    simpa [selectors] using name
  | aggregateBy operation label e ih =>
    intro rest parted
    obtain ⟨operation_plain, label_plain, inner_plain⟩ := each_aggregateBy.mp plain
    have inner : e.ReadsBack := ih inner_plain named
    have grouping := selectorsFrom_skip (c := ')') label_plain
      (' ' :: '(' :: (e.render.toList ++ ')' :: rest))
    have by' := selectorsFrom_skip (s := "by".toList) (c := ' ') (by decide)
      ('(' :: (label.toList ++ ')' :: ' ' :: '(' :: (e.render.toList ++ ')' :: rest)))
    have name := selectorsFrom_skip (c := ' ') operation_plain
      ("by".toList ++ ' ' :: '(' :: (label.toList ++
        ')' :: ' ' :: '(' :: (e.render.toList ++ ')' :: rest)))
    rw [by', selectorsFrom_mark (by decide) (by decide), grouping,
      selectorsFrom_mark (by decide) (by decide), selectorsFrom_mark (by decide) (by decide),
      inner.mark] at name
    simpa [selectors] using name
  | binary operation left right before after =>
    intro rest parted
    obtain ⟨operation_plain, left_plain, right_plain⟩ := each_binary.mp plain
    have first : left.ReadsBack := before left_plain named.1
    have second : right.ReadsBack := after right_plain named.2
    have between := selectorsFrom_skip (c := ' ') operation_plain
      (right.render.toList ++ rest)
    have read := first.mark (c := ' ') (operation.toList ++ ' ' :: (right.render.toList ++ rest))
    rw [between, second rest parted] at read
    simpa [selectors] using read
  | group e ih =>
    intro rest parted
    have inner : e.ReadsBack := ih plain named
    have opened := selectorsFrom_mark (c := '(') (by decide) (by decide) []
      (e.render.toList ++ ')' :: rest)
    rw [inner.mark] at opened
    simpa [selectors] using opened

theorem selectors_render {e : Expr} (plain : e.Each ('\x7b' ∉ ·.toList)) (named : e.Named) :
    SelectorReader.selectors e.render = e.selectors := by
  have read := reads_back plain named [] .nil
  rwa [List.append_nil, selectorsFrom_nil, List.append_nil] at read

end Expr

end SloCompiler
