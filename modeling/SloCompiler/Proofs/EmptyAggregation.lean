import Mathlib.Data.List.Basic
import Mathlib.Data.List.Chain
import Mathlib.Data.List.Infix
import Mathlib.Data.List.TakeWhile
import SloCompiler.Check.Expression
import SloCompiler.Selector.Clause

namespace SloCompiler.Check

inductive EmptyCall : List Char → Prop where
  | intro {word : String} {before within : List Char} (listed : word ∈ aggregations)
      (apart : ∀ c ∈ before, Text.isBlank c = true)
      (nothing : ∀ c ∈ within, Text.isBlank c = true) :
      EmptyCall (word.toList ++ (before ++ '(' :: (within ++ [')'])))

theorem startsWithEmptyCall_iff {cs : List Char} :
    startsWithEmptyCall cs = true ↔ ∃ before within, (∀ c ∈ before, Text.isBlank c = true) ∧
      (∀ c ∈ within, Text.isBlank c = true) ∧ before ++ '(' :: (within ++ [')']) <+: cs := by
  unfold startsWithEmptyCall
  constructor
  · intro starts
    split at starts
    · next rest opened =>
      obtain ⟨more, closed⟩ := List.head?_eq_some_iff.mp (beq_iff_eq.mp starts)
      refine ⟨cs.takeWhile Text.isBlank, rest.takeWhile Text.isBlank,
        fun c member => List.mem_takeWhile_imp member,
        fun c member => List.mem_takeWhile_imp member, more, ?_⟩
      conv => rhs; rw [← List.takeWhile_append_dropWhile (p := Text.isBlank) (l := cs), opened]
      conv => rhs; rw [← List.takeWhile_append_dropWhile (p := Text.isBlank) (l := rest), closed]
      simp
    · cases starts
  · rintro ⟨before, within, apart, nothing, more, whole⟩
    have opened : cs.dropWhile Text.isBlank =
        '(' :: (within ++ ')' :: more) := by
      rw [← whole, List.append_assoc, List.dropWhile_append_of_pos apart, List.cons_append,
        List.dropWhile_cons, if_neg (by decide)]
      simp
    have closed : (within ++ ')' :: more).dropWhile Text.isBlank = ')' :: more := by
      rw [List.dropWhile_append_of_pos nothing, List.dropWhile_cons, if_neg (by decide)]
    simp [opened, closed]

theorem startsWithEmptyAggregation_iff {cs : List Char} :
    startsWithEmptyAggregation cs = true ↔ ∃ call, EmptyCall call ∧ call <+: cs := by
  simp only [startsWithEmptyAggregation, List.any_eq_true, Bool.and_eq_true,
    List.isPrefixOf_iff_prefix, startsWithEmptyCall_iff]
  constructor
  · rintro ⟨word, listed, ⟨rest, rfl⟩, before, within, apart, nothing, more⟩
    rw [← String.length_toList, List.drop_left] at more
    exact ⟨_, .intro listed apart nothing, (List.prefix_append_right_inj _).mpr more⟩
  · rintro ⟨_, ⟨listed, apart, nothing⟩, more, rfl⟩
    refine ⟨_, listed, ⟨_, (List.append_assoc _ _ _).symm⟩, _, _, apart, nothing, more, ?_⟩
    rw [← String.length_toList, List.append_assoc (String.toList _), List.drop_left]

def endsInWord (afterWord : Bool) (cs : List Char) : Bool :=
  (cs.getLast?.map Text.isWord).getD afterWord

theorem endsInWord_cons (afterWord : Bool) (c : Char) (cs : List Char) :
    endsInWord afterWord (c :: cs) = endsInWord (Text.isWord c) cs := by
  rw [endsInWord, endsInWord, List.getLast?_cons]
  cases cs.getLast? <;> rfl

def EmptyAggregation (afterWord : Bool) (cs : List Char) : Prop :=
  ∃ before call after, cs = before ++ (call ++ after) ∧ EmptyCall call ∧
    endsInWord afterWord before = false

theorem hasEmptyAggregation_iff {afterWord : Bool} {cs : List Char} :
    hasEmptyAggregation afterWord cs = true ↔ EmptyAggregation afterWord cs := by
  induction cs generalizing afterWord with
  | nil =>
    refine ⟨fun found => (Bool.false_ne_true found).elim, ?_⟩
    rintro ⟨before, call, after, whole, ⟨_, _, _⟩, _⟩
    simp at whole
  | cons c rest ih =>
    simp only [hasEmptyAggregation, Bool.or_eq_true, Bool.and_eq_true, Bool.not_eq_true',
      startsWithEmptyAggregation_iff, ih]
    constructor
    · rintro (⟨fresh, call, empty, after, whole⟩ | ⟨before, call, after, rfl, empty, fresh⟩)
      · exact ⟨[], call, after, whole.symm, empty, fresh⟩
      · exact ⟨c :: before, call, after, rfl, empty, by rwa [endsInWord_cons]⟩
    · rintro ⟨before, call, after, whole, empty, fresh⟩
      cases before with
      | nil => exact .inl ⟨fresh, call, empty, after, whole.symm⟩
      | cons d before =>
        cases whole
        exact .inr ⟨before, call, after, rfl, empty, by rwa [endsInWord_cons] at fresh⟩

instance (afterWord : Bool) (cs : List Char) : Decidable (EmptyAggregation afterWord cs) :=
  decidable_of_iff _ hasEmptyAggregation_iff

def isAggregationLetter (c : Char) : Bool := aggregations.any (·.toList.contains c)

-- Whether an aggregation of nothing can go on with one character behind another.
def joins (c d : Char) : Bool :=
  (isAggregationLetter c && isAggregationLetter d) ||
    ((isAggregationLetter c || Text.isBlank c) && (Text.isBlank d || d == '(')) ||
      ((c == '(' || Text.isBlank c) && (Text.isBlank d || d == ')'))

def opens (c : Char) : Bool := isAggregationLetter c || Text.isBlank c || c == '('

def follows (d : Char) : Bool :=
  isAggregationLetter d || Text.isBlank d || d == '(' || d == ')'

theorem joins_of_not_opens {c : Char} (ends : opens c = false) (d : Char) :
    joins c d = false := by
  simp only [opens, Bool.or_eq_false_iff] at ends
  simp [joins, ends.1.1, ends.1.2, ends.2]

theorem joins_of_not_follows (c : Char) {d : Char} (starts : follows d = false) :
    joins c d = false := by
  simp only [follows, Bool.or_eq_false_iff] at starts
  simp [joins, starts.1.1.1, starts.1.1.2, starts.1.2, starts.2]

theorem isChain_of_forall {p : Char → Prop} {R : Char → Char → Prop} {cs : List Char}
    (all : ∀ c ∈ cs, p c) (both : ∀ c d, p c → p d → R c d) : cs.IsChain R :=
  (List.pairwise_of_forall_mem_list fun c first d second =>
    both c d (all c first) (all d second)).isChain

theorem EmptyCall.chain {call : List Char} (empty : EmptyCall call) :
    call.IsChain fun c d => joins c d = true := by
  -- Two neighbours join in the word, in the blanks and in the parentheses, and at the seams.
  cases empty with
  | @intro word before within listed apart nothing =>
    have letters : ∀ c ∈ word.toList, isAggregationLetter c = true := fun c member =>
      List.any_eq_true.mpr ⟨word, listed, List.contains_iff_mem.mpr member⟩
    have blank_chain {cs : List Char} (blank : ∀ c ∈ cs, Text.isBlank c = true) :
        cs.IsChain fun c d => joins c d = true :=
      isChain_of_forall blank fun c d first second => by simp [joins, first, second]
    have inside : (within ++ [')']).IsChain fun c d => joins c d = true := by
      refine List.isChain_append.mpr ⟨blank_chain nothing, List.isChain_singleton _, ?_⟩
      intro c last d head
      have blank := nothing c (List.mem_of_getLast? last)
      cases head
      simp [joins, blank]
    have opened : ('(' :: (within ++ [')'])).IsChain fun c d => joins c d = true := by
      refine List.isChain_cons.mpr ⟨fun d head => ?_, inside⟩
      cases within with
      | nil => cases head; decide
      | cons b within =>
        have blank := nothing b List.mem_cons_self
        cases head
        simp [joins, blank]
    refine List.isChain_append.mpr ⟨isChain_of_forall letters fun c d first second => by
      simp [joins, first, second], ?_, ?_⟩
    · refine List.isChain_append.mpr ⟨blank_chain apart, opened, ?_⟩
      intro c last d head
      have blank := apart c (List.mem_of_getLast? last)
      cases head
      simp [joins, blank]
    · intro c last d head
      have letter := letters c (List.mem_of_getLast? last)
      cases before with
      | nil => cases head; simp [joins, letter]
      | cons b before =>
        have blank := apart b List.mem_cons_self
        cases head
        simp [joins, letter, blank]

def Parted (a b : List Char) : Prop :=
  ∀ c, a.getLast? = some c → ∀ d, b.head? = some d → joins c d = false

theorem EmptyCall.within_first {call a b : List Char} (empty : EmptyCall call) (some : a ≠ [])
    (parted : Parted a b) (starts : call <+: a ++ b) : call <+: a := by
  obtain ⟨rest, whole⟩ := starts
  rcases List.append_eq_append_iff.mp whole with ⟨more, rfl, _⟩ | ⟨across, rfl, rfl⟩
  · exact List.prefix_append _ _
  · cases across with
    | nil => simp
    | cons d across =>
      obtain ⟨_, _, joined⟩ := List.isChain_append.mp empty.chain
      have last := List.getLast?_eq_getLast_of_ne_nil some
      have goes := joined _ last d rfl
      rw [parted _ last d rfl] at goes
      cases goes

theorem hasEmptyAggregation_append {a b : List Char} (parted : Parted a b) (afterWord : Bool) :
    hasEmptyAggregation afterWord (a ++ b) =
      (hasEmptyAggregation afterWord a || hasEmptyAggregation (endsInWord afterWord a) b) := by
  induction a generalizing afterWord with
  | nil => rfl
  | cons c a ih =>
    have starts : startsWithEmptyAggregation (c :: a ++ b) =
        startsWithEmptyAggregation (c :: a) := by
      rw [Bool.eq_iff_iff, startsWithEmptyAggregation_iff, startsWithEmptyAggregation_iff]
      refine exists_congr fun call => and_congr_right fun empty => ?_
      exact ⟨empty.within_first (List.cons_ne_nil _ _) parted,
        fun starts => starts.trans (List.prefix_append _ _)⟩
    have rest := ih (fun d last => parted d (by
      rw [List.getLast?_cons, last]
      rfl)) (Text.isWord c)
    rw [endsInWord_cons, List.cons_append, hasEmptyAggregation, hasEmptyAggregation,
      ← List.cons_append, starts, rest, Bool.or_assoc]

theorem startsWithEmptyAggregation_letter {c : Char} (other : isAggregationLetter c = false)
    (rest : List Char) : startsWithEmptyAggregation (c :: rest) = false := by
  refine Bool.eq_false_iff.mpr fun starts => ?_
  obtain ⟨_, ⟨listed, _, _⟩, more, whole⟩ := startsWithEmptyAggregation_iff.mp starts
  have first : ∀ word ∈ aggregations, ∃ d letters, word.toList = d :: letters ∧
      isAggregationLetter d = true := by
    simp only [aggregations, List.forall_mem_cons]
    exact ⟨⟨_, _, rfl, by decide⟩, ⟨_, _, rfl, by decide⟩, ⟨_, _, rfl, by decide⟩,
      ⟨_, _, rfl, by decide⟩, ⟨_, _, rfl, by decide⟩, List.forall_mem_nil _⟩
  obtain ⟨d, letters, text, letter⟩ := first _ listed
  rw [text] at whole
  cases whole
  rw [letter] at other
  cases other

theorem startsWithEmptyAggregation_snoc {c : Char} (other : c ≠ ')') (cs : List Char) :
    startsWithEmptyAggregation (cs ++ [c]) = startsWithEmptyAggregation cs := by
  rw [Bool.eq_iff_iff, startsWithEmptyAggregation_iff, startsWithEmptyAggregation_iff]
  refine exists_congr fun call => and_congr_right fun empty => ⟨fun starts => ?_,
    fun starts => starts.trans (List.prefix_append _ _)⟩
  rcases List.prefix_concat_iff.mp starts with rfl | before
  · have last : (cs ++ [c]).getLast? = some ')' := by
      generalize cs ++ [c] = call at empty
      cases empty
      simp [List.getLast?_append, List.getLast?_cons]
    simp [other] at last
  · exact before

theorem hasEmptyAggregation_cons {c : Char} (other : isAggregationLetter c = false)
    (afterWord : Bool) (rest : List Char) :
    hasEmptyAggregation afterWord (c :: rest) = hasEmptyAggregation (Text.isWord c) rest := by
  rw [hasEmptyAggregation, startsWithEmptyAggregation_letter other, Bool.and_false, Bool.false_or]

theorem hasEmptyAggregation_snoc {c : Char} (other : c ≠ ')') (afterWord : Bool)
    (cs : List Char) :
    hasEmptyAggregation afterWord (cs ++ [c]) = hasEmptyAggregation afterWord cs := by
  induction cs generalizing afterWord with
  | nil =>
    have alone : startsWithEmptyAggregation [c] = startsWithEmptyAggregation [] :=
      startsWithEmptyAggregation_snoc other []
    have nothing : startsWithEmptyAggregation [] = false := by decide
    rw [List.nil_append]
    simp only [hasEmptyAggregation, alone, nothing, Bool.and_false, Bool.false_or]
  | cons d cs ih =>
    rw [List.cons_append, hasEmptyAggregation, hasEmptyAggregation, ← List.cons_append,
      startsWithEmptyAggregation_snoc other, ih]

theorem hasEmptyAggregation_unopened {cs : List Char} (unopened : '(' ∉ cs) (afterWord : Bool) :
    hasEmptyAggregation afterWord cs = false := by
  refine Bool.eq_false_iff.mpr fun found => unopened ?_
  obtain ⟨before, _, after, rfl, ⟨_, _, _⟩, _⟩ := hasEmptyAggregation_iff.mp found
  simp

theorem EmptyCall.follows {call : List Char} (empty : EmptyCall call) :
    ∀ c ∈ call, follows c = true := by
  cases empty with
  | @intro word before within listed apart nothing =>
    intro c member
    simp only [List.mem_append, List.mem_cons, List.not_mem_nil, or_false] at member
    rcases member with letter | blank | rfl | blank | rfl
    · have letter : isAggregationLetter c = true :=
        List.any_eq_true.mpr ⟨word, listed, List.contains_iff_mem.mpr letter⟩
      simp [Check.follows, letter]
    · simp [Check.follows, apart c blank]
    · decide
    · simp [Check.follows, nothing c blank]
    · decide

theorem escape_special {c : Char} (special : c = '"' ∨ c = '\\') (cs : List Char) :
    Clause.escape (c :: cs) = '\\' :: c :: Clause.escape cs := by
  rcases special with rfl | rfl <;> rfl

theorem escape_other {c : Char} (other : ¬(c = '"' ∨ c = '\\')) (cs : List Char) :
    Clause.escape (c :: cs) = c :: Clause.escape cs := by
  obtain ⟨quote, slash⟩ := not_or.mp other
  simp only [Clause.escape, List.flatMap_cons, beq_false_of_ne quote, beq_false_of_ne slash]
  rfl

theorem prefix_escape {call : List Char} (plain : ∀ c ∈ call, c ≠ '"' ∧ c ≠ '\\')
    (cs : List Char) : call <+: Clause.escape cs ↔ call <+: cs := by
  induction call generalizing cs with
  | nil => simp
  | cons d call ih =>
    obtain ⟨quote, slash⟩ := plain d List.mem_cons_self
    have rest := ih fun c member => plain c (List.mem_cons_of_mem _ member)
    cases cs with
    | nil => simp [Clause.escape]
    | cons c cs =>
      by_cases special : c = '"' ∨ c = '\\'
      · have other : d ≠ c := by rintro rfl; exact special.elim quote slash
        simp [escape_special special, List.cons_prefix_cons, slash, other]
      · simp [escape_other special, List.cons_prefix_cons, rest]

-- Behind a backslash stand quotes and backslashes only, which are no part of what is looked for.
theorem startsWithEmptyAggregation_escape (cs : List Char) :
    startsWithEmptyAggregation (Clause.escape cs) = startsWithEmptyAggregation cs := by
  rw [Bool.eq_iff_iff, startsWithEmptyAggregation_iff, startsWithEmptyAggregation_iff]
  refine exists_congr fun call => and_congr_right fun empty => prefix_escape ?_ cs
  intro c member
  have part := empty.follows c member
  constructor <;> rintro rfl <;> revert part <;> decide

theorem hasEmptyAggregation_escape (afterWord : Bool) (cs : List Char) :
    hasEmptyAggregation afterWord (Clause.escape cs) = hasEmptyAggregation afterWord cs := by
  induction cs generalizing afterWord with
  | nil => rfl
  | cons c cs ih =>
    by_cases special : c = '"' ∨ c = '\\'
    · have other : isAggregationLetter c = false := by rcases special with rfl | rfl <;> decide
      rw [escape_special special, hasEmptyAggregation_cons (by decide),
        hasEmptyAggregation_cons other, hasEmptyAggregation_cons other, ih]
    · have starts := startsWithEmptyAggregation_escape (c :: cs)
      rw [escape_other special] at starts ⊢
      rw [hasEmptyAggregation, starts, ih, hasEmptyAggregation]

def Judged (verdict : Bool) (cs : List Char) : Prop :=
  ∀ afterWord, hasEmptyAggregation afterWord cs = verdict

namespace Judged

variable {v w : Bool} {a b : List Char}

theorem append (first : Judged v a) (second : Judged w b) (parted : Parted a b) :
    Judged (v || w) (a ++ b) := fun afterWord => by
  rw [hasEmptyAggregation_append parted, first, second]

theorem cons {c : Char} (other : isAggregationLetter c = false) (rest : Judged v b) :
    Judged v (c :: b) := fun afterWord => by rw [hasEmptyAggregation_cons other, rest]

theorem snoc {c : Char} (other : c ≠ ')') (first : Judged v a) : Judged v (a ++ [c]) :=
  fun afterWord => by rw [hasEmptyAggregation_snoc other, first]

theorem unopened (unopened : '(' ∉ a) : Judged false a :=
  hasEmptyAggregation_unopened unopened

-- In quotes a pattern stands behind no word, so it is judged as if it stood alone.
theorem quoted (pattern : List Char) : Judged (hasEmptyAggregation false pattern)
    ('"' :: (Clause.escape pattern ++ ['"'])) := fun afterWord => by
  rw [hasEmptyAggregation_cons (by decide), hasEmptyAggregation_snoc (by decide),
    hasEmptyAggregation_escape]
  rfl

end Judged

end SloCompiler.Check
