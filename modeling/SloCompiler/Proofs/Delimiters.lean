import SloCompiler.Proofs.EmptyAggregation

namespace SloCompiler.Check

def isMark (c : Char) : Bool := c == '"' || (closing? c).isSome || isClosing c

theorem isMark_listed {c : Char} (marked : isMark c = true) :
    c ∈ ['"', '(', ')', '[', ']', '\x7b', '\x7d'] := by
  simp only [isMark, isClosing, closing?, Bool.or_eq_true, beq_iff_eq] at marked
  rcases marked with (rfl | opening) | (rfl | rfl) | rfl
  · simp
  · split at opening <;> simp at opening ⊢
  · simp
  · simp
  · simp

theorem not_isMark {p : Char → Bool} {c : Char} (holds : p c = true)
    (others : (['"', '(', ')', '[', ']', '\x7b', '\x7d'].all (!p ·)) = true) :
    isMark c = false := by
  refine Bool.eq_false_iff.mpr fun marked => ?_
  simpa [holds] using List.all_eq_true.mp others c (isMark_listed marked)

theorem delimiterRun_append (s : DelimiterState) (a b : List Char) :
    delimiterRun s (a ++ b) = (delimiterRun s a).bind fun t => delimiterRun t b :=
  List.foldlM_append

theorem delimiterRun_cons (s : DelimiterState) (c : Char) (cs : List Char) :
    delimiterRun s (c :: cs) = (s.step c).bind fun t => delimiterRun t cs := rfl

inductive Quotable : List Char → Prop where
  | empty : Quotable []
  | plain {c : Char} {cs : List Char} (noQuote : c ≠ '"') (noSlash : c ≠ '\\')
      (rest : Quotable cs) : Quotable (c :: cs)
  | escaped (c : Char) {cs : List Char} (rest : Quotable cs) : Quotable ('\\' :: c :: cs)

namespace Quotable

theorem escape (pattern : List Char) : Quotable (Clause.escape pattern) := by
  induction pattern with
  | nil => exact .empty
  | cons c pattern ih =>
    by_cases special : c = '"' ∨ c = '\\'
    · rw [escape_special special]
      exact .escaped c ih
    · rw [escape_other special]
      obtain ⟨noQuote, noSlash⟩ := not_or.mp special
      exact .plain noQuote noSlash ih

theorem unique {one two rest more : List Char} (first : Quotable one) (second : Quotable two)
    (same : one ++ '"' :: rest = two ++ '"' :: more) : one = two ∧ rest = more := by
  induction first generalizing two with
  | empty =>
    cases second with
    | empty => exact ⟨rfl, (List.cons.inj same).2⟩
    | plain noQuote _ _ => exact absurd (List.cons.inj same).1.symm noQuote
    | escaped c _ => exact absurd (List.cons.inj same).1 (by decide)
  | plain noQuote noSlash _ ih =>
    cases second with
    | empty => exact absurd (List.cons.inj same).1 noQuote
    | plain _ _ inner =>
      obtain ⟨rfl, tails⟩ := List.cons.inj same
      obtain ⟨rfl, rests⟩ := ih inner tails
      exact ⟨rfl, rests⟩
    | escaped c _ => exact absurd (List.cons.inj same).1 noSlash
  | escaped c _ ih =>
    cases second with
    | empty => exact absurd (List.cons.inj same).1 (by decide)
    | plain _ noSlash _ => exact absurd (List.cons.inj same).1.symm noSlash
    | escaped d inner =>
      obtain ⟨rfl, tails⟩ := List.cons.inj (List.cons.inj same).2
      obtain ⟨rfl, rests⟩ := ih inner tails
      exact ⟨rfl, rests⟩

end Quotable

theorem delimiterRun_quotable {inner : List Char} (quotable : Quotable inner)
    (opened rest : List Char) :
    delimiterRun { opened, inText := true } (inner ++ rest) =
      delimiterRun { opened, inText := true } rest := by
  induction quotable with
  | empty => rfl
  | plain noQuote noSlash _ ih =>
    rw [List.cons_append, delimiterRun_cons]
    simpa [DelimiterState.step, noQuote, noSlash] using ih
  | escaped c _ ih =>
    rw [List.cons_append, List.cons_append, delimiterRun_cons]
    simp only [DelimiterState.step, if_true]
    exact ih

def Neutral (cs : List Char) : Prop :=
  ∀ opened, delimiterRun { opened } cs = some { opened }

namespace Neutral

variable {a b : List Char}

theorem append (first : Neutral a) (second : Neutral b) : Neutral (a ++ b) := fun opened => by
  rw [delimiterRun_append, first, Option.bind_some, second]

theorem unmarked (unmarked : ∀ c ∈ a, isMark c = false) : Neutral a := by
  intro opened
  induction a with
  | nil => rfl
  | cons c a ih =>
    have plain := unmarked c List.mem_cons_self
    simp only [isMark, Bool.or_eq_false_iff, beq_eq_false_iff_ne] at plain
    have passed : (DelimiterState.mk opened false false).step c = some { opened } := by
      simp [DelimiterState.step, plain]
    rw [delimiterRun_cons, passed]
    exact ih fun d member => unmarked d (List.mem_cons_of_mem _ member)

theorem enclosed {first last : Char} (pair : closing? first = some last) (inner : Neutral a) :
    Neutral (first :: (a ++ [last])) := by
  intro opened
  have sorts : first ≠ '"' ∧ last ≠ '"' ∧ closing? last = none ∧ isClosing last = true := by
    unfold closing? at pair
    split at pair <;> cases pair <;> decide
  obtain ⟨noQuote, noEnd, noOpening, closes⟩ := sorts
  have enters : (DelimiterState.mk opened false false).step first =
      some { opened := first :: opened } := by
    simp [DelimiterState.step, noQuote, pair]
  have leaves : (DelimiterState.mk (first :: opened) false false).step last = some { opened } := by
    simp [DelimiterState.step, noEnd, noOpening, closes, pair]
  rw [delimiterRun_cons, enters, Option.bind_some, delimiterRun_append, inner, Option.bind_some,
    delimiterRun_cons, leaves]
  rfl

theorem quoted (quotable : Quotable a) : Neutral ('"' :: (a ++ ['"'])) := fun opened => by
  have enters : (DelimiterState.mk opened false false).step '"' =
      some { opened, inText := true } := rfl
  rw [delimiterRun_cons, enters, Option.bind_some, delimiterRun_quotable quotable]
  rfl

theorem balanced (neutral : Neutral a) : isBalanced a = true := by
  rw [isBalanced, neutral]
  rfl

end Neutral

theorem step_outside {c : Char} (noQuote : c ≠ '"') (opened : List Char) :
    (DelimiterState.mk opened false false).step c = none ∨
      ∃ more, (DelimiterState.mk opened false false).step c = some { opened := more } := by
  have quote : (c == '"') = false := beq_false_of_ne noQuote
  simp only [DelimiterState.step, quote, Bool.false_eq_true, if_false]
  split
  · exact .inr ⟨_, rfl⟩
  · split
    · cases opened with
      | nil => exact .inl rfl
      | cons o opened =>
        by_cases pair : (closing? o == some c) = true
        · exact .inr ⟨opened, if_pos pair⟩
        · exact .inl (if_neg pair)
    · exact .inr ⟨opened, rfl⟩

theorem run_outside {cs : List Char} (quoteless : '"' ∉ cs) (opened : List Char) :
    delimiterRun { opened } cs = none ∨ ∃ more, delimiterRun { opened } cs = some { opened := more } := by
  induction cs generalizing opened with
  | nil => exact .inr ⟨opened, rfl⟩
  | cons c cs ih =>
    obtain ⟨first, rest⟩ := not_or.mp (List.mem_cons.not.mp quoteless)
    rw [delimiterRun_cons]
    rcases step_outside (Ne.symm first) opened with stops | ⟨more, goes⟩
    · exact .inl (by rw [stops, Option.bind_none])
    · rw [goes, Option.bind_some]
      exact ih rest more

def isDelimiter (c : Char) : Bool := ['(', ')', '[', ']', '\x7b', '\x7d'].contains c

theorem isDelimiter_kinds {c : Char} (delimiter : isDelimiter c = true) :
    c ≠ '"' ∧ ((∃ last, closing? c = some last) ∨ closing? c = none ∧ isClosing c = true) := by
  have listed := List.contains_iff_mem.mp delimiter
  simp only [List.mem_cons, List.not_mem_nil, or_false] at listed
  rcases listed with rfl | rfl | rfl | rfl | rfl | rfl
  · exact ⟨by decide, .inl ⟨_, rfl⟩⟩
  · exact ⟨by decide, .inr ⟨rfl, rfl⟩⟩
  · exact ⟨by decide, .inl ⟨_, rfl⟩⟩
  · exact ⟨by decide, .inr ⟨rfl, rfl⟩⟩
  · exact ⟨by decide, .inl ⟨_, rfl⟩⟩
  · exact ⟨by decide, .inr ⟨rfl, rfl⟩⟩

theorem not_isDelimiter {c : Char} (noQuote : c ≠ '"') (other : isDelimiter c = false) :
    isMark c = false := by
  refine Bool.eq_false_iff.mpr fun marked => ?_
  rcases List.mem_cons.mp (isMark_listed marked) with rfl | listed
  · exact noQuote rfl
  · rw [isDelimiter, List.contains_iff_mem.mpr listed] at other
    cases other

-- A text that ends outside quotes, and in order the delimiters that it has outside them.
inductive Outside : List Char → List Char → Prop where
  | empty : Outside [] []
  | delimiter {c : Char} {cs marks : List Char} (listed : isDelimiter c = true)
      (rest : Outside cs marks) : Outside (c :: cs) (c :: marks)
  | other {c : Char} {cs marks : List Char} (noQuote : c ≠ '"') (plain : isDelimiter c = false)
      (rest : Outside cs marks) : Outside (c :: cs) marks
  | quoted {inner cs marks : List Char} (quotable : Quotable inner) (rest : Outside cs marks) :
      Outside ('"' :: (inner ++ '"' :: cs)) marks

namespace Outside

variable {cs marks : List Char}

theorem unique (reading : Outside cs marks) {others : List Char} (second : Outside cs others) :
    others = marks := by
  induction reading generalizing others with
  | empty => cases second; rfl
  | delimiter listed _ ih =>
    cases second with
    | delimiter _ rest => rw [ih rest]
    | other _ plain _ => simp [listed] at plain
    | quoted => exact absurd listed (by decide)
  | other noQuote plain _ ih =>
    cases second with
    | delimiter listed _ => simp [listed] at plain
    | other _ _ rest => exact ih rest
    | quoted => exact absurd rfl noQuote
  | @quoted inner cs marks quotable _ ih =>
    generalize shape : '"' :: (inner ++ '"' :: cs) = text at second
    cases second with
    | empty => cases shape
    | delimiter listed _ =>
      rw [← (List.cons.inj shape).1] at listed
      exact absurd listed (by decide)
    | other noQuote _ _ => exact absurd (List.cons.inj shape).1.symm noQuote
    | quoted inside rest =>
      obtain ⟨_, rfl⟩ := quotable.unique inside (List.cons.inj shape).2
      exact ih rest

theorem delimiters (reading : Outside cs marks) : ∀ c ∈ marks, isDelimiter c = true := by
  induction reading with
  | empty => exact List.forall_mem_nil _
  | delimiter listed _ ih => exact List.forall_mem_cons.mpr ⟨listed, ih⟩
  | other _ _ _ ih => exact ih
  | quoted _ _ ih => exact ih

theorem run (reading : Outside cs marks) (opened : List Char) :
    delimiterRun { opened } cs = delimiterRun { opened } marks := by
  induction reading generalizing opened with
  | empty => rfl
  | @delimiter c cs marks listed _ ih =>
    rw [delimiterRun_cons, delimiterRun_cons]
    rcases step_outside (isDelimiter_kinds listed).1 opened with stops | ⟨more, goes⟩
    · rw [stops, Option.bind_none, Option.bind_none]
    · rw [goes, Option.bind_some, Option.bind_some, ih]
  | @other c cs marks noQuote plain _ ih =>
    have passed := Neutral.unmarked (a := [c])
      (List.forall_mem_singleton.mpr (not_isDelimiter noQuote plain))
    rw [← List.singleton_append, delimiterRun_append, passed, Option.bind_some, ih]
  | @quoted inner cs marks quotable _ ih =>
    have passed := Neutral.quoted quotable
    have shape : '"' :: (inner ++ '"' :: cs) = '"' :: (inner ++ ['"']) ++ cs := by simp
    rw [shape, delimiterRun_append, passed, Option.bind_some, ih]

end Outside

def Inside (cs : List Char) : Prop :=
  ∃ inner rest marks, cs = inner ++ '"' :: rest ∧ Quotable inner ∧ Outside rest marks

namespace Inside

variable {cs : List Char}

theorem quote {marks : List Char} (rest : Outside cs marks) : Inside ('"' :: cs) :=
  ⟨[], cs, marks, rfl, .empty, rest⟩

theorem plain {c : Char} (noQuote : c ≠ '"') (noSlash : c ≠ '\\') (inside : Inside cs) :
    Inside (c :: cs) := by
  obtain ⟨inner, rest, marks, rfl, quotable, outside⟩ := inside
  exact ⟨c :: inner, rest, marks, rfl, .plain noQuote noSlash quotable, outside⟩

theorem escaped (c : Char) (inside : Inside cs) : Inside ('\\' :: c :: cs) := by
  obtain ⟨inner, rest, marks, rfl, quotable, outside⟩ := inside
  exact ⟨'\\' :: c :: inner, rest, marks, rfl, .escaped c quotable, outside⟩

end Inside

theorem reading_of_run {t : DelimiterState} (ended : t.inText = false) (cs opened : List Char) :
    (delimiterRun { opened } cs = some t → ∃ marks, Outside cs marks) ∧
      (delimiterRun { opened, inText := true } cs = some t → Inside cs) ∧
      (delimiterRun { opened, inText := true, escaped := true } cs = some t →
        Inside ('\\' :: cs)) := by
  -- One statement for each state of the reader, as a step leads from one into another.
  induction cs generalizing opened with
  | nil =>
    refine ⟨fun _ => ⟨[], .empty⟩, fun run => ?_, fun run => ?_⟩ <;>
      · cases Option.some.inj run
        cases ended
  | cons c cs ih =>
    simp only [delimiterRun_cons]
    refine ⟨fun run => ?_, fun run => ?_, fun run => ?_⟩
    · by_cases quote : c = '"'
      · subst quote
        obtain ⟨inner, rest, marks, rfl, quotable, outside⟩ := (ih opened).2.1 run
        exact ⟨marks, .quoted quotable outside⟩
      · rcases step_outside quote opened with stops | ⟨more, goes⟩
        · rw [stops] at run
          cases run
        · rw [goes] at run
          obtain ⟨marks, outside⟩ := (ih more).1 run
          cases delimiter : isDelimiter c with
          | true => exact ⟨c :: marks, .delimiter delimiter outside⟩
          | false => exact ⟨marks, .other quote delimiter outside⟩
    · by_cases slash : c = '\\'
      · subst slash
        exact (ih opened).2.2 run
      · by_cases quote : c = '"'
        · subst quote
          obtain ⟨marks, outside⟩ := (ih opened).1 run
          exact .quote outside
        · have stays : (DelimiterState.mk opened true false).step c =
              some { opened, inText := true } := by
            simp [DelimiterState.step, slash, quote]
          rw [stays] at run
          exact .plain quote slash ((ih opened).2.1 run)
    · exact .escaped c ((ih opened).2.1 run)

-- Delimiters in pairs: S → ε | ( S ) S | [ S ] S | { S } S.
inductive Paired : List Char → Prop where
  | empty : Paired []
  | round {a b : List Char} (inner : Paired a) (rest : Paired b) : Paired ('(' :: (a ++ ')' :: b))
  | square {a b : List Char} (inner : Paired a) (rest : Paired b) :
      Paired ('[' :: (a ++ ']' :: b))
  | curly {a b : List Char} (inner : Paired a) (rest : Paired b) :
      Paired ('\x7b' :: (a ++ '\x7d' :: b))

namespace Paired

variable {a b : List Char}

theorem enclose {first last : Char} (pair : closing? first = some last) (inner : Paired a)
    (rest : Paired b) : Paired (first :: (a ++ last :: b)) := by
  unfold closing? at pair
  split at pair <;> cases pair
  · exact .round inner rest
  · exact .square inner rest
  · exact .curly inner rest

theorem neutral (paired : Paired a) : Neutral a := by
  have step {first last : Char} {a b : List Char} (pair : closing? first = some last)
      (inner : Neutral a) (rest : Neutral b) : Neutral (first :: (a ++ last :: b)) := by
    simpa using (inner.enclosed pair).append rest
  induction paired with
  | empty => exact .unmarked (List.forall_mem_nil _)
  | round _ _ inner rest => exact step rfl inner rest
  | square _ _ inner rest => exact step rfl inner rest
  | curly _ _ inner rest => exact step rfl inner rest

end Paired

def Closes : List Char → List Char → Prop
  | [], marks => Paired marks
  | first :: opened, marks => ∃ inner last rest, marks = inner ++ last :: rest ∧
      closing? first = some last ∧ Paired inner ∧ Closes opened rest

theorem Closes.enclose {first last : Char} (pair : closing? first = some last)
    {inner rest opened : List Char} (paired : Paired inner) (closes : Closes opened rest) :
    Closes opened (first :: (inner ++ last :: rest)) := by
  cases opened with
  | nil => exact paired.enclose pair closes
  | cons o opened =>
    obtain ⟨between, next, after, rfl, own, pairs, outer⟩ := closes
    exact ⟨first :: (inner ++ last :: between), next, after, by simp, own,
      paired.enclose pair pairs, outer⟩

-- The delimiters that are open when the reading begins are the stack that the rest must close.
theorem closes_of_run {marks : List Char} (listed : ∀ c ∈ marks, isDelimiter c = true)
    {opened : List Char} {t : DelimiterState} (run : delimiterRun { opened } marks = some t)
    (none : t.opened = []) : Closes opened marks := by
  induction marks generalizing opened with
  | nil =>
    cases Option.some.inj run
    cases none
    exact .empty
  | cons c marks ih =>
    obtain ⟨own, listed⟩ := List.forall_mem_cons.mp listed
    obtain ⟨noQuote, ⟨last, opening⟩ | ⟨noOpening, closing⟩⟩ := isDelimiter_kinds own
    · have enters : (DelimiterState.mk opened false false).step c =
          some { opened := c :: opened } := by
        simp [DelimiterState.step, noQuote, opening]
      rw [delimiterRun_cons, enters] at run
      obtain ⟨inner, last, rest, rfl, pair, paired, closes⟩ := ih listed run
      exact closes.enclose pair paired
    · cases opened with
      | nil =>
        have stops : (DelimiterState.mk [] false false).step c = Option.none := by
          simp [DelimiterState.step, noQuote, noOpening, closing]
        rw [delimiterRun_cons, stops] at run
        cases run
      | cons o opened =>
        -- Nothing but the partner of the innermost one that is open goes on.
        by_cases pair : closing? o = some c
        · have leaves : (DelimiterState.mk (o :: opened) false false).step c = some { opened } := by
            simp [DelimiterState.step, noQuote, noOpening, closing, pair]
          rw [delimiterRun_cons, leaves] at run
          exact ⟨[], c, marks, rfl, pair, .empty, ih listed run⟩
        · have stops : (DelimiterState.mk (o :: opened) false false).step c = Option.none := by
            simp [DelimiterState.step, noQuote, noOpening, closing, pair]
          rw [delimiterRun_cons, stops] at run
          cases run

-- An expression is balanced exactly if it ends outside quotes and its delimiters outside quotes,
-- of which there is one reading only, are in pairs.
theorem isBalanced_iff (text : String) : isBalanced text.toList = true ↔
    ∃ marks, (∀ others, Outside text.toList others ↔ others = marks) ∧ Paired marks := by
  constructor
  · intro balanced
    unfold isBalanced at balanced
    split at balanced
    · next t run =>
      obtain ⟨none, ended⟩ := Bool.and_eq_true_iff.mp balanced
      obtain ⟨marks, reading⟩ := (reading_of_run (by simpa using ended) _ []).1 run
      rw [reading.run] at run
      have paired : Closes [] marks :=
        closes_of_run reading.delimiters run (List.isEmpty_iff.mp none)
      refine ⟨marks, fun others => ⟨reading.unique, ?_⟩, paired⟩
      rintro rfl
      exact reading
    · cases balanced
  · rintro ⟨marks, only, paired⟩
    have reading := (only marks).mpr rfl
    rw [isBalanced, reading.run, paired.neutral]
    rfl

end SloCompiler.Check
