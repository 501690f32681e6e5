import SloCompiler.Proofs.Delimiters
import SloCompiler.Proofs.DurationReading
import SloCompiler.Proofs.NumeralEnd
import SloCompiler.Proofs.RecordName
import SloCompiler.Proofs.Rendering

namespace SloCompiler
open Check

namespace Check

def concludes (c : Char) : Bool := c == ')' || (isNumeralChar c && c != '+' && c != '-')

theorem digit_nonblank {c : Char} (digit : c.isDigit = true) : Text.isBlank c = false := by
  have code : 48 ≤ c.toNat ∧ c.toNat ≤ 57 := Char.isDigit_iff_toNat.mp digit
  simp only [Text.isBlank, Bool.or_eq_false_iff, Bool.and_eq_false_iff, decide_eq_false_iff_not,
    beq_eq_false_iff_ne]
  omega

theorem numeral_nonblank {c : Char} (numeral : isNumeralChar c = true) :
    Text.isBlank c = false := by
  rcases Bool.or_eq_true_iff.mp numeral with digit | mark
  · exact digit_nonblank digit
  · have all : ∀ d ∈ "+-.aefin".toList, (!Text.isBlank d) = true := List.all_eq_true.mp (by decide)
    simpa using all c (List.contains_iff_mem.mp mark)

theorem concludes_nonblank {c : Char} (last : concludes c = true) : Text.isBlank c = false := by
  simp only [concludes, Bool.or_eq_true, Bool.and_eq_true, beq_iff_eq] at last
  rcases last with rfl | ⟨⟨numeral, _⟩, _⟩
  · decide
  · exact numeral_nonblank numeral

theorem trimWhile_last {drop : Char → Bool} {cs : List Char} {c : Char}
    (last : cs.getLast? = some c) (kept : drop c = false) :
    ∃ before, Text.trimWhile drop cs = before ++ [c] := by
  obtain ⟨before, rfl⟩ := List.getLast?_eq_some_iff.mp last
  have stops : [c].dropWhile drop = [c] := by simp [kept]
  have start : ∃ rest, (before ++ [c]).dropWhile drop = rest ++ [c] := by
    rw [List.dropWhile_append]
    split
    · exact ⟨[], stops⟩
    · exact ⟨_, rfl⟩
  obtain ⟨rest, trimmed⟩ := start
  refine ⟨rest, ?_⟩
  rw [Text.trimWhile, Text.dropEndWhile, trimmed, List.reverse_append]
  simp [kept]

theorem endsWithOperator_concluded {before : List Char} {c : Char} (last : concludes c = true) :
    endsWithOperator (before ++ [c]) = false := by
  have marks : ∀ d ∈ "-+*/<>=".toList, (!concludes d) = true := List.all_eq_true.mp (by decide)
  have words : ∀ word ∈ danglingWords,
      word.toList.reverse.head?.any (!concludes ·) = true := List.all_eq_true.mp (by decide)
  simp only [endsWithOperator, List.reverse_append, List.reverse_singleton, List.singleton_append,
    List.head?_cons, Option.any_some, Bool.or_eq_false_iff, List.any_eq_false]
  refine ⟨Bool.eq_false_iff.mpr fun listed => ?_, fun word listed => ?_⟩
  · simpa [last] using marks c (List.contains_iff_mem.mp listed)
  · have ends := words word listed
    unfold endsWithWord
    dsimp only
    cases letters : word.toList.reverse with
    | nil => simp [letters] at ends
    | cons d rest =>
      have other : d ≠ c := by
        rintro rfl
        simp [letters, last] at ends
      simp [List.isPrefixOf_cons_cons, other]

end Check

namespace Expr

def clauses : Expr → List Clause
  | .text _ => []
  | .series target selectors => selectors ++ target.clauses
  | .window e _ => clauses e
  | .call _ argument => clauses argument
  | .quantile _ buckets => clauses buckets
  | .aggregateBy _ _ e => clauses e
  | .binary _ left right => clauses left ++ clauses right
  | .group e => clauses e

end Expr

namespace Check

-- A text that is an operand: it changes nothing for a reader of delimiters, and parentheses
-- around it are not empty. The verdict is on aggregations of nothing.
structure Operand (verdict : Bool) (cs : List Char) : Prop where
  judged : Judged verdict cs
  neutral : Neutral cs
  first : ∃ c, cs.head? = some c ∧ Text.isBlank c = false ∧ c ≠ ')'
  last : ∃ c, cs.getLast? = some c ∧ Text.isBlank c = false ∧ c ≠ '('

structure Token (s : String) : Prop where
  nonempty : s ≠ ""
  plain : ∀ c ∈ s.toList, Text.isBlank c = false ∧ isMark c = false

structure Operator (s : String) : Prop where
  judged : Judged false s.toList
  neutral : Neutral s.toList
  first : ∃ c, s.toList.head? = some c ∧ Text.isBlank c = false ∧ c ≠ '(' ∧ c ≠ ')'
  last : ∃ c, s.toList.getLast? = some c ∧ opens c = false

theorem parted_of_last {a b : List Char} (ends : ∀ c, a.getLast? = some c → opens c = false) :
    Parted a b := fun _ last _ _ => joins_of_not_opens (ends _ last) _

theorem parted_of_first {a b : List Char} (starts : ∀ d, b.head? = some d → follows d = false) :
    Parted a b := fun _ _ _ first => joins_of_not_follows _ (starts _ first)

theorem unmarked_unopened {cs : List Char} (plain : ∀ c ∈ cs, isMark c = false) : '(' ∉ cs :=
  fun present => absurd (plain _ present) (by decide)

namespace Token

variable {s : String}

theorem constant (s : String) {cs : List Char} (written : s = String.ofList cs)
    (plain : (!cs.isEmpty && cs.all fun c => !Text.isBlank c && !isMark c) = true) : Token s := by
  obtain ⟨some, all⟩ := Bool.and_eq_true_iff.mp plain
  constructor
  · rintro rfl
    have empty : cs = [] := by simpa using congrArg String.toList written.symm
    simp [empty] at some
  · simpa using all_chars written all

theorem numeral (x : Binary64) : Token x.plain := by
  obtain ⟨c, last, _⟩ := x.unsigned_plain
  constructor
  · intro empty
    simp [empty] at last
  · intro d present
    have numeral := Binary64.numeral_of_mem_plain present
    exact ⟨numeral_nonblank numeral, not_isMark numeral (by decide)⟩

theorem operand (token : Token s) : Operand false s.toList where
  judged := .unopened (unmarked_unopened fun c member => (token.plain c member).2)
  neutral := .unmarked fun c member => (token.plain c member).2
  first := by
    obtain ⟨c, rest, shape⟩ := List.exists_cons_of_ne_nil
      (fun empty => token.nonempty (String.toList_eq_nil_iff.mp empty))
    have plain := token.plain c (by rw [shape]; exact List.mem_cons_self)
    refine ⟨c, by rw [shape]; rfl, plain.1, ?_⟩
    rintro rfl
    exact absurd plain.2 (by decide)
  last := by
    have some : s.toList ≠ [] := fun empty => token.nonempty (String.toList_eq_nil_iff.mp empty)
    have plain := token.plain _ (List.getLast_mem some)
    refine ⟨_, List.getLast?_eq_getLast_of_ne_nil some, plain.1, fun same => ?_⟩
    rw [same] at plain
    exact absurd plain.2 (by decide)

end Token

theorem Operator.constant (s : String) {cs : List Char} (written : s = String.ofList cs)
    (plain : (cs.all fun c => !isMark c) = true)
    (start : (cs.head?.any fun c => !Text.isBlank c) = true)
    (finish : (cs.getLast?.any fun c => !opens c) = true) : Operator s := by
  have unmarked : ∀ c ∈ s.toList, isMark c = false := by simpa using all_chars written plain
  have text : s.toList = cs := by rw [written, String.toList_ofList]
  obtain ⟨c, head, nonblank⟩ := (Option.any_eq_true _ _).mp start
  obtain ⟨d, last, closed⟩ := (Option.any_eq_true _ _).mp finish
  have present : c ∈ s.toList := text ▸ List.mem_of_head? head
  refine ⟨.unopened (unmarked_unopened unmarked), .unmarked unmarked, ⟨c, text ▸ head,
    by simpa using nonblank, ?_, ?_⟩, ⟨d, text ▸ last, by simpa using closed⟩⟩
  · rintro rfl
    exact absurd (unmarked _ present) (by decide)
  · rintro rfl
    exact absurd (unmarked _ present) (by decide)

theorem duration_unmarked {s : String} {d : Duration} (read : Duration.parse s = .ok d) :
    ∀ c ∈ s.toList, isMark c = false := by
  intro c present
  rcases Duration.span_of_parse read present with span | rfl
  · exact not_isMark span (by decide)
  · decide

theorem parted_argument {cs : List Char}
    (first : ∃ c, cs.head? = some c ∧ Text.isBlank c = false ∧ c ≠ ')') (before rest : List Char) :
    Parted (before ++ ['(']) (cs ++ rest) := by
  obtain ⟨c, head, nonblank, other⟩ := first
  intro l last d start
  obtain rfl : '(' = l := by simpa using last
  obtain rfl : c = d := by simpa [List.head?_append, head] using start
  have letter : isAggregationLetter '(' = false := by decide
  simp [joins, letter, nonblank, other, show Text.isBlank '(' = false by decide]

theorem parted_closing {cs : List Char}
    (last : ∃ c, cs.getLast? = some c ∧ Text.isBlank c = false ∧ c ≠ '(') (rest : List Char) :
    Parted cs (')' :: rest) := by
  obtain ⟨c, ends, nonblank, other⟩ := last
  intro l last d start
  obtain rfl : c = l := by simpa [ends] using last
  obtain rfl : ')' = d := by simpa using start
  simp [joins, nonblank, other, show isAggregationLetter ')' = false by decide,
    show Text.isBlank ')' = false by decide]

namespace Operand

variable {v w : Bool} {a b : List Char}

theorem call (argument : Operand v a) {f : List Char} (plain : ∀ c ∈ f, isMark c = false)
    (start : ∃ c, (f ++ ['(']).head? = some c ∧ Text.isBlank c = false ∧ c ≠ ')') :
    Operand v (f ++ '(' :: (a ++ [')'])) where
  judged := by
    have before : Judged false (f ++ ['(']) := (Judged.unopened (unmarked_unopened plain)).snoc
      (by decide)
    have closed := argument.judged.append (Judged.unopened (a := [')']) (by decide))
      (parted_closing argument.last [])
    have whole := before.append closed (parted_argument argument.first f _)
    simpa using whole
  neutral := (Neutral.unmarked plain).append (.enclosed rfl argument.neutral)
  first := by
    obtain ⟨c, head, kind⟩ := start
    refine ⟨c, ?_, kind⟩
    cases f with
    | nil => simpa using head
    | cons d f => simpa using head
  last := ⟨')', by simp [List.getLast?_append, List.getLast?_cons], by decide, by decide⟩

theorem group (inner : Operand v a) : Operand v ('(' :: (a ++ [')'])) :=
  inner.call (f := []) (fun _ member => by cases member) ⟨'(', rfl, by decide, by decide⟩

theorem function (argument : Operand v a) {s : String} (name : Token s) :
    Operand v (s.toList ++ '(' :: (a ++ [')'])) := by
  refine argument.call (fun c member => (name.plain c member).2) ?_
  obtain ⟨c, head, kind⟩ := name.operand.first
  exact ⟨c, by rw [List.head?_append, head, Option.some_or], kind⟩

theorem binary (left : Operand v a) (right : Operand w b) {s : String} (operator : Operator s) :
    Operand (v || w) (a ++ ' ' :: (s.toList ++ ' ' :: b)) where
  judged := by
    have first : Judged v (a ++ [' ']) := left.judged.snoc (by decide)
    have second : Judged w (' ' :: b) := right.judged.cons (by decide)
    have rest := operator.judged.append second (parted_of_last fun c last => by
      obtain ⟨d, ends, closed⟩ := operator.last
      rw [ends] at last
      exact Option.some.inj last ▸ closed)
    have parted : Parted (a ++ [' ']) (s.toList ++ ' ' :: b) := by
      obtain ⟨d, head, nonblank, noOpening, noClosing⟩ := operator.first
      intro l last c start
      obtain rfl : ' ' = l := by simpa using last
      obtain rfl : d = c := by simpa [List.head?_append, head] using start
      simp [joins, nonblank, noOpening, noClosing, show isAggregationLetter ' ' = false by decide]
    have whole := first.append rest parted
    simpa using whole
  neutral := by
    have blank : Neutral [' '] := .unmarked (List.forall_mem_singleton.mpr (by decide))
    have whole := left.neutral.append (blank.append (operator.neutral.append
      (blank.append right.neutral)))
    simpa using whole
  first := by
    obtain ⟨c, head, kind⟩ := left.first
    exact ⟨c, by rw [List.head?_append, head, Option.some_or], kind⟩
  last := by
    obtain ⟨c, ends, kind⟩ := right.last
    exact ⟨c, by simp [List.getLast?_append, List.getLast?_cons, ends], kind⟩

theorem window (inner : Operand v a) {s : String} (plain : ∀ c ∈ s.toList, isMark c = false) :
    Operand v (a ++ '[' :: (s.toList ++ [']'])) where
  judged := by
    have span : Judged false ('[' :: (s.toList ++ [']'])) :=
      ((Judged.unopened (unmarked_unopened plain)).snoc (by decide)).cons (by decide)
    have whole := inner.judged.append span (parted_of_first fun d start => by
      obtain rfl : '[' = d := by simpa using start
      decide)
    rwa [Bool.or_false] at whole
  neutral := inner.neutral.append (.enclosed rfl (.unmarked plain))
  first := by
    obtain ⟨c, head, kind⟩ := inner.first
    exact ⟨c, by rw [List.head?_append, head, Option.some_or], kind⟩
  last := ⟨']', by simp [List.getLast?_append, List.getLast?_cons], by decide, by decide⟩

-- Two operands next to each other, of which the first goes on in nothing.
theorem beside (left : Operand v a) (right : Operand w b)
    (ends : ∀ c, a.getLast? = some c → opens c = false) : Operand (v || w) (a ++ ' ' :: b) where
  judged := left.judged.append (right.judged.cons (by decide)) (parted_of_last ends)
  neutral := by
    have blank : Neutral [' '] := .unmarked (List.forall_mem_singleton.mpr (by decide))
    simpa using left.neutral.append (blank.append right.neutral)
  first := by
    obtain ⟨c, head, kind⟩ := left.first
    exact ⟨c, by rw [List.head?_append, head, Option.some_or], kind⟩
  last := by
    obtain ⟨c, ends, kind⟩ := right.last
    exact ⟨c, by simp [List.getLast?_append, List.getLast?_cons, ends], kind⟩

theorem pair (left : Operand v a) (right : Operand w b) :
    Operand (v || w) (a ++ ',' :: ' ' :: b) where
  judged := by
    refine left.judged.append ((right.judged.cons (by decide)).cons (by decide))
      (parted_of_first fun d start => ?_)
    obtain rfl : ',' = d := by simpa using start
    decide
  neutral := by
    have comma : Neutral [',', ' '] := .unmarked fun c member => by
      simp only [List.mem_cons, List.not_mem_nil, or_false] at member
      rcases member with rfl | rfl <;> decide
    simpa using left.neutral.append (comma.append right.neutral)
  first := by
    obtain ⟨c, head, kind⟩ := left.first
    exact ⟨c, by rw [List.head?_append, head, Option.some_or], kind⟩
  last := by
    obtain ⟨c, ends, kind⟩ := right.last
    exact ⟨c, by simp [List.getLast?_append, List.getLast?_cons, ends], kind⟩

end Operand

def misread (c : Clause) : Bool := hasEmptyAggregation false c.pattern.toList

theorem label_unmarked (c : Clause) : ∀ d ∈ c.label.toList ++ c.operator.text.toList,
    isMark d = false := by
  intro d member
  rcases List.mem_append.mp member with label | operator
  · rcases label_chars c.label_valid label with letter | rfl
    · exact not_isMark letter (by decide)
    · decide
  · have plain : c.operator.text.toList.all (!isMark ·) = true := by cases c.operator <;> decide
    simpa using List.all_eq_true.mp plain d operator

theorem clause_split (c : Clause) : c.render.toList =
    (c.label.toList ++ c.operator.text.toList) ++
      '"' :: (Clause.escape c.pattern.toList ++ ['"']) := by
  rw [c.render_toList, List.append_assoc]

theorem clause_judged (c : Clause) : Judged (misread c) c.render.toList := by
  have before : Judged false (c.label.toList ++ c.operator.text.toList) :=
    .unopened (unmarked_unopened (label_unmarked c))
  rw [clause_split]
  refine before.append (.quoted _) (parted_of_first fun d start => ?_)
  obtain rfl : '"' = d := by simpa using start
  decide

theorem clause_neutral (c : Clause) : Neutral c.render.toList := by
  rw [clause_split]
  exact (Neutral.unmarked (label_unmarked c)).append (.quoted (.escape _))

theorem clause_last (c : Clause) : c.render.toList.getLast? = some '"' := by
  simp [clause_split, List.getLast?_append, List.getLast?_cons]

theorem clauses_judged (clauses : List Clause) : Judged (clauses.any misread)
    ([',', ' '].intercalate (clauses.map fun c => c.render.toList)) := by
  induction clauses with
  | nil => exact .unopened (by simp)
  | cons c clauses ih =>
    cases clauses with
    | nil => simpa using clause_judged c
    | cons d clauses =>
      have rest := (ih.cons (c := ' ') (by decide)).cons (c := ',') (by decide)
      have whole := (clause_judged c).append rest (parted_of_last fun l last => by
        rw [clause_last] at last
        exact Option.some.inj last ▸ by decide)
      rw [List.any_cons, List.map_cons, List.map_cons, List.intercalate_cons_cons, List.append_assoc]
      simpa using whole

theorem clauses_neutral (clauses : List Clause) :
    Neutral ([',', ' '].intercalate (clauses.map fun c => c.render.toList)) := by
  induction clauses with
  | nil => exact .unmarked (by simp)
  | cons c clauses ih =>
    cases clauses with
    | nil => simpa using clause_neutral c
    | cons d clauses =>
      have comma : Neutral [',', ' '] := .unmarked fun c member => by
        simp only [List.mem_cons, List.not_mem_nil, or_false] at member
        rcases member with rfl | rfl <;> decide
      have whole := (clause_neutral c).append (comma.append ih)
      rw [List.map_cons, List.map_cons, List.intercalate_cons_cons, List.append_assoc]
      simpa using whole

theorem Operand.series {metric : String} (name : Token metric) (clauses : List Clause) :
    Operand (clauses.any misread) (renderSeries metric clauses).toList := by
  rw [renderSeries_toList]
  cases clauses with
  | nil => simpa using name.operand
  | cons c clauses =>
    rw [List.isEmpty_cons, if_neg (by decide)]
    generalize more : c :: clauses = clauses
    have inside := clauses_judged clauses
    have body := clauses_neutral clauses
    exact {
      judged := by
        have closed := (inside.snoc (c := '\x7d') (by decide)).cons (c := '\x7b') (by decide)
        have whole := name.operand.judged.append closed (parted_of_first fun d start => by
          obtain rfl : '\x7b' = d := by simpa using start
          decide)
        rwa [Bool.false_or] at whole
      neutral := name.operand.neutral.append (.enclosed rfl body)
      first := by
        obtain ⟨d, head, kind⟩ := name.operand.first
        exact ⟨d, by rw [List.head?_append, head, Option.some_or], kind⟩
      last := ⟨'\x7d', by simp [List.getLast?_append, List.getLast?_cons], by decide, by decide⟩ }

end Check

namespace Expr

-- An expression whose texts stand where they may: names and numbers without blanks and marks,
-- operators between operands, anything without marks in brackets.
def Formed : Expr → Prop
  | .text s => Token s
  | .series target _ => Token target.name
  | .window e span => (∀ c ∈ span.toList, isMark c = false) ∧ Formed e
  | .call function argument => Token function ∧ Formed argument
  | .quantile q buckets => Token q ∧ Formed buckets
  | .aggregateBy operation label e => Token operation ∧ Token label ∧ Formed e
  | .binary operation left right => Operator operation ∧ Formed left ∧ Formed right
  | .group e => Formed e

-- Only what stands in the quotes of an expression can look like an aggregation of nothing.
theorem operand_render {e : Expr} (formed : e.Formed) :
    Operand (e.clauses.any misread) e.render.toList := by
  induction e with
  | text s => exact Token.operand formed
  | series target selectors => exact .series formed _
  | window e span ih =>
    obtain ⟨plain, inner⟩ := formed
    simpa [clauses] using (ih inner).window plain
  | call function argument ih =>
    obtain ⟨name, inner⟩ := formed
    simpa [clauses] using (ih inner).function name
  | quantile q buckets ih =>
    obtain ⟨number, inner⟩ := formed
    have whole := (number.operand.pair (ih inner)).function
      (.constant "histogram_quantile" rfl rfl)
    simpa [clauses] using whole
  | aggregateBy operation label e ih =>
    obtain ⟨name, own, inner⟩ := formed
    have plain : ∀ c ∈ operation.toList ++ " by ".toList, isMark c = false := by
      intro c member
      rcases List.mem_append.mp member with letter | keyword
      · exact (name.plain c letter).2
      · simpa using all_chars (p := (!isMark ·)) rfl rfl c keyword
    obtain ⟨c, head, kind⟩ := name.operand.first
    have grouping := own.operand.call plain ⟨c, by simp [List.head?_append, head], kind⟩
    have whole := grouping.beside (ih inner).group fun d last => by
      obtain rfl : ')' = d := by simpa [List.getLast?_append, List.getLast?_cons] using last
      decide
    simpa [clauses] using whole
  | binary operation left right before after =>
    obtain ⟨operator, first, second⟩ := formed
    simpa [clauses] using (before first).binary (after second) operator
  | group e ih => simpa [clauses] using (ih formed).group

def Concluded (e : Expr) : Prop := ∃ c, e.render.toList.getLast? = some c ∧ concludes c = true

namespace Concluded

theorem numeral (x : Binary64) : (Expr.text x.plain).Concluded := by
  obtain ⟨c, last, plus, minus⟩ := x.unsigned_plain
  have numeral := Binary64.numeral_of_mem_plain (List.mem_of_getLast? last)
  exact ⟨c, last, by simp [concludes, numeral, plus, minus]⟩

theorem group (e : Expr) : (Expr.group e).Concluded :=
  ⟨')', by simp [List.getLast?_append, List.getLast?_cons], by decide⟩

theorem binary {operation : String} {left right : Expr} (last : right.Concluded) :
    (Expr.binary operation left right).Concluded := by
  obtain ⟨c, ends, concluded⟩ := last
  exact ⟨c, by simp [List.getLast?_append, List.getLast?_cons, ends], concluded⟩

end Concluded

theorem expressionDefects_nil {e : Expr} (formed : e.Formed) (concluded : e.Concluded) :
    expressionDefects e.render = [] ↔ ∀ c ∈ e.clauses, misread c = false := by
  obtain ⟨c, last, ends⟩ := concluded
  have operand := operand_render formed
  obtain ⟨before, trimmed⟩ := trimWhile_last last (concludes_nonblank ends)
  have nonempty : (before ++ [c]).isEmpty = false := by simp
  unfold expressionDefects
  simp only [trimmed, nonempty, Bool.false_eq_true, if_false, operand.neutral.balanced, if_true,
    endsWithOperator_concluded ends, operand.judged false, List.nil_append]
  cases judged : e.clauses.any misread with
  | false => simpa using List.any_eq_false.mp judged
  | true => simpa using List.any_eq_true.mp judged

end Expr

end SloCompiler
