import Mathlib.Algebra.Ring.Int.Defs
import SloCompiler.Proofs.Numeral
import SloCompiler.Proofs.Outcome
import SloCompiler.Proofs.Rendering

namespace SloCompiler

namespace Text

theorem withoutFinalNewline_iff {cs body : List Char} (unfed : body.getLast? ≠ some '\n') :
    withoutFinalNewline cs = body ↔ cs = body ∨ cs = body ++ ['\n'] := by
  constructor
  · rintro rfl
    exact finalNewline_cases cs
  · rintro (rfl | rfl)
    · exact if_neg unfed
    · simp [withoutFinalNewline]

theorem ascii_of_digit {c : Char} (digit : c.isDigit = true) : c.toNat < 128 :=
  Nat.lt_of_le_of_lt (Char.isDigit_iff_toNat.mp digit).2 (by decide)

theorem digitValue?_ascii {c : Char} (digit : c.isDigit = true) :
    digitValue? c = some (c.toNat - 48) := by
  rw [digitValue?, if_pos (ascii_of_digit digit), if_pos digit]

theorem isDigit_ascii {c : Char} (ascii : c.toNat < 128) : isDigit c = c.isDigit := by
  unfold isDigit digitValue?
  rw [if_pos ascii]
  cases c.isDigit <;> rfl

end Text

theorem Binary64.natOfDigits_ascii {cs : List Char} (digits : ∀ c ∈ cs, c.isDigit = true) :
    natOfDigits cs = Nat.ofDigitChars 10 cs 0 := by
  unfold natOfDigits Nat.ofDigitChars
  refine List.foldl_ext _ _ _ fun n c member => ?_
  rw [Text.digitValue?_ascii (digits c member), Option.getD_some]
  rfl

namespace DurationUnit

theorem suffix_starts (unit : DurationUnit) (rest : List Char) :
    ∀ c, (unit.suffix.toList ++ rest).head? = some c → Text.isDigit c = false := by
  cases unit <;> exact fun c first => Option.some.inj first ▸ (by decide)

theorem suffix_ends (unit : DurationUnit) (cs : List Char) :
    (cs ++ unit.suffix.toList).getLast? ≠ some '\n' := by
  cases unit <;> simp [suffix]

theorem suffix_ascii (unit : DurationUnit) : ∀ c ∈ unit.suffix.toList, c.toNat < 128 := by
  have all : (unit.suffix.toList.all fun c => c.toNat < 128) = true := by
    cases unit <;> decide
  exact fun c present => of_decide_eq_true (List.all_eq_true.mp all c present)

-- A unit is read back, unless an `s` behind it makes another unit of it.
theorem read?_suffix (unit : DurationUnit) {rest : List Char}
    (apart : rest.head? ≠ some 's') : read? (unit.suffix.toList ++ rest) = some (unit, rest) := by
  cases unit with
  | minute =>
    cases rest with
    | nil => rfl
    | cons c rest =>
      have other : c ≠ 's' := fun same => apart (congrArg some same)
      simp [suffix, read?, other]
  | _ => rfl

theorem read?_shape {cs rest : List Char} {unit : DurationUnit}
    (read : read? cs = some (unit, rest)) : cs = unit.suffix.toList ++ rest := by
  unfold read? at read
  split at read <;> cases read <;> rfl

end DurationUnit

namespace Duration

def limit : Int := 1000000000 * perDay

def span (part : List Char × DurationUnit) : Int :=
  Binary64.natOfDigits part.1 * part.2.microseconds

-- A text of amounts with units some of which, from the first on, are longer than any duration. An
-- amount of too many digits stops the reading.
def TooLong (text : String) : Prop :=
  let cs := Text.withoutFinalNewline text.toList
  ∃ before after, parts? (cs.length + 1) cs = some (before ++ after) ∧
    (∀ part ∈ before, part.1.length ≤ maxDigits) ∧ limit ≤ (before.map span).sum

theorem inRange_nonneg {n : Int} (nonneg : 0 ≤ n) : inRange n = decide (n < limit) := by
  have above : decide (-999999999 * perDay ≤ n) = true :=
    decide_eq_true (by unfold perDay; omega)
  rw [inRange, above, Bool.true_and]
  rfl

theorem ofMicroseconds_nonneg {n : Int} (nonneg : 0 ≤ n) :
    ofMicroseconds n = if n < limit then .ok ⟨n⟩ else .error .overflow := by
  simp only [ofMicroseconds, inRange_nonneg nonneg, decide_eq_true_eq]

theorem span_nonneg (part : List Char × DurationUnit) : 0 ≤ span part := by
  refine Int.mul_nonneg (Int.natCast_nonneg _) ?_
  cases part.2 <;> decide

theorem addPart_eq {total : Duration} (nonneg : 0 ≤ total.microseconds)
    (part : List Char × DurationUnit) :
    addPart total part =
      if part.1.length ≤ maxDigits then
        if total.microseconds + span part < limit then .ok ⟨total.microseconds + span part⟩
        else .error .overflow
      else .error (.refused (.tooManyDigits part.1.length)) := by
  have long := span_nonneg part
  have spanned : ofMicroseconds (Binary64.natOfDigits part.1 * part.2.microseconds) =
      if span part < limit then .ok ⟨span part⟩ else .error .overflow :=
    ofMicroseconds_nonneg long
  unfold addPart amount
  split
  · simp only [bind, Except.bind, spanned]
    by_cases short : span part < limit
    · rw [if_pos short]
      exact ofMicroseconds_nonneg (Int.add_nonneg nonneg long)
    · rw [if_neg short, if_neg (by omega)]
  · rfl

def Overruns (total : Int) (parts : List (List Char × DurationUnit)) : Prop :=
  ∃ before after, parts = before ++ after ∧ (∀ part ∈ before, part.1.length ≤ maxDigits) ∧
    limit ≤ total + (before.map span).sum

theorem overruns_of_le {total : Int} (long : limit ≤ total)
    (parts : List (List Char × DurationUnit)) : Overruns total parts :=
  ⟨[], parts, rfl, List.forall_mem_nil _, by simpa using long⟩

theorem overruns_nil {total : Int} : Overruns total [] ↔ limit ≤ total := by
  refine ⟨fun ⟨before, after, shape, _, long⟩ => ?_, fun long => overruns_of_le long []⟩
  rw [(List.nil_eq_append_iff.mp shape).1] at long
  simpa using long

theorem overruns_cons {total : Int} {part : List Char × DurationUnit}
    {parts : List (List Char × DurationUnit)} : Overruns total (part :: parts) ↔
      limit ≤ total ∨ part.1.length ≤ maxDigits ∧ Overruns (total + span part) parts := by
  constructor
  · rintro ⟨before, after, shape, each, long⟩
    cases before with
    | nil => exact .inl (by simpa using long)
    | cons first before =>
      obtain ⟨rfl, rfl⟩ := List.cons.inj shape
      obtain ⟨digits, each⟩ := List.forall_mem_cons.mp each
      rw [List.map_cons, List.sum_cons, ← Int.add_assoc] at long
      exact .inr ⟨digits, before, after, rfl, each, long⟩
  · rintro (long | ⟨digits, before, after, rfl, each, long⟩)
    · exact overruns_of_le long _
    · refine ⟨part :: before, after, rfl, List.forall_mem_cons.mpr ⟨digits, each⟩, ?_⟩
      rwa [List.map_cons, List.sum_cons, ← Int.add_assoc]

-- Amounts are added until one has too many digits or the sum is too long, whichever is first.
theorem foldlM_overflow {parts : List (List Char × DurationUnit)} {total : Duration}
    (nonneg : 0 ≤ total.microseconds) (short : total.microseconds < limit) :
    parts.foldlM addPart total = .error .overflow ↔ Overruns total.microseconds parts := by
  induction parts generalizing total with
  | nil =>
    rw [overruns_nil]
    exact iff_of_false nofun (Int.not_le.mpr short)
  | cons part parts ih =>
    have more := Int.add_nonneg nonneg (span_nonneg part)
    rw [List.foldlM_cons, addPart_eq nonneg, overruns_cons,
      or_iff_right (Int.not_le.mpr short)]
    by_cases digits : part.1.length ≤ maxDigits
    · rw [if_pos digits, and_iff_right digits]
      by_cases fits : total.microseconds + span part < limit
      · rw [if_pos fits]
        exact @ih ⟨total.microseconds + span part⟩ more fits
      · rw [if_neg fits]
        exact iff_of_true rfl (overruns_of_le (Int.not_lt.mp fits) parts)
    · rw [if_neg digits]
      exact iff_of_false nofun fun overruns => digits overruns.1

theorem foldlM_error {parts : List (List Char × DurationUnit)} {total : Duration} {f : Fault}
    (nonneg : 0 ≤ total.microseconds) (failed : parts.foldlM addPart total = .error f) :
    f = .overflow ∨ ∃ cause, f = .refused cause := by
  induction parts generalizing total with
  | nil => cases failed
  | cons part parts ih =>
    have more := span_nonneg part
    rw [List.foldlM_cons, addPart_eq nonneg] at failed
    split at failed
    · split at failed
      · exact ih (by simp; omega) failed
      · cases failed
        exact .inl rfl
    · cases failed
      exact .inr ⟨_, rfl⟩

theorem spans_nonneg (parts : List (List Char × DurationUnit)) : 0 ≤ (parts.map span).sum := by
  induction parts with
  | nil => exact Int.le_refl 0
  | cons part parts ih => exact Int.add_nonneg (span_nonneg part) ih

theorem foldlM_ok {parts : List (List Char × DurationUnit)} {total d : Duration}
    (nonneg : 0 ≤ total.microseconds) (short : total.microseconds < limit) :
    parts.foldlM addPart total = .ok d ↔ (∀ part ∈ parts, part.1.length ≤ maxDigits) ∧
      d.microseconds = total.microseconds + (parts.map span).sum ∧ d.microseconds < limit := by
  induction parts generalizing total with
  | nil =>
    rw [List.foldlM_nil, List.map_nil, List.sum_nil, Int.add_zero]
    constructor
    · rintro ⟨⟩
      exact ⟨List.forall_mem_nil _, rfl, short⟩
    · rintro ⟨_, same, _⟩
      exact congrArg (Except.ok ∘ mk) same.symm
  | cons part parts ih =>
    have more := Int.add_nonneg nonneg (span_nonneg part)
    have rest := spans_nonneg parts
    rw [List.foldlM_cons, addPart_eq nonneg, List.forall_mem_cons, List.map_cons, List.sum_cons,
      ← Int.add_assoc]
    by_cases digits : part.1.length ≤ maxDigits
    · rw [if_pos digits, and_iff_right digits]
      by_cases fits : total.microseconds + span part < limit
      · rw [if_pos fits]
        exact @ih ⟨total.microseconds + span part⟩ more fits
      · rw [if_neg fits]
        exact iff_of_false nofun fun ⟨_, same, short⟩ => fits (by omega)
    · rw [if_neg digits]
      exact iff_of_false nofun fun added => digits added.1.1

def written (parts : List (List Char × DurationUnit)) : List Char :=
  parts.flatMap fun part => part.1 ++ part.2.suffix.toList

theorem written_cons (part : List Char × DurationUnit) (parts : List (List Char × DurationUnit)) :
    written (part :: parts) = part.1 ++ (part.2.suffix.toList ++ written parts) := by
  simp [written]

def Counted (digit : Char → Bool) (parts : List (List Char × DurationUnit)) : Prop :=
  ∀ part ∈ parts, part.1 ≠ [] ∧ ∀ c ∈ part.1, digit c = true

section Reading

variable {parts : List (List Char × DurationUnit)}

theorem Counted.head_ne (counted : Counted Text.isDigit parts) :
    (written parts).head? ≠ some 's' := by
  cases parts with
  | nil => nofun
  | cons part parts =>
    obtain ⟨⟨some_digit, digits⟩, _⟩ := List.forall_mem_cons.mp counted
    obtain ⟨c, more, shape⟩ := List.exists_cons_of_ne_nil some_digit
    rw [written_cons, shape]
    rintro ⟨⟩
    exact absurd (digits 's' (shape ▸ List.mem_cons_self)) (by decide)

theorem Counted.written_ne (counted : Counted Text.isDigit parts) (nonempty : parts ≠ []) :
    written parts ≠ [] := by
  obtain ⟨part, parts, rfl⟩ := List.exists_cons_of_ne_nil nonempty
  rw [written_cons]
  exact List.append_ne_nil_of_left_ne_nil (counted part List.mem_cons_self).1 _

theorem written_unfed (nonempty : parts ≠ []) : (written parts).getLast? ≠ some '\n' := by
  obtain ⟨before, part, rfl⟩ := (List.eq_nil_or_concat parts).resolve_left nonempty
  rw [written, List.concat_eq_append, List.flatMap_append, List.flatMap_singleton,
    ← List.append_assoc]
  exact part.2.suffix_ends _

theorem parts?_written {n : Nat} (enough : parts.length ≤ n) (nonempty : parts ≠ [])
    (counted : Counted Text.isDigit parts) : parts? n (written parts) = some parts := by
  induction parts generalizing n with
  | nil => exact absurd rfl nonempty
  | cons part parts ih =>
    obtain ⟨n, rfl⟩ : ∃ m, n = m + 1 := Nat.exists_eq_add_one.mpr (Nat.zero_lt_of_lt enough)
    obtain ⟨⟨some_digit, digits⟩, rest⟩ := List.forall_mem_cons.mp counted
    obtain ⟨taken, dropped⟩ :=
      Text.partWhile_append digits (part.2.suffix_starts (written parts))
    have unit := part.2.read?_suffix (Counted.head_ne rest)
    unfold parts?
    simp only [written_cons, taken, dropped, unit, List.isEmpty_iff, some_digit, if_false,
      Option.bind_eq_bind, Option.bind_some]
    by_cases last : parts = []
    · rw [if_pos (by rw [last]; rfl), last]
    · rw [if_neg (Counted.written_ne rest last),
        ih (Nat.le_of_succ_le_succ enough) last rest, Option.map_some]

theorem written_of_parts? {n : Nat} {cs : List Char} (read : parts? n cs = some parts) :
    cs = written parts ∧ parts ≠ [] ∧ Counted Text.isDigit parts := by
  induction n generalizing cs parts with
  | zero => cases read
  | succ n ih =>
    unfold parts? at read
    dsimp only at read
    split at read
    · cases read
    · next some_digit =>
      obtain ⟨⟨unit, rest⟩, behind, read⟩ := Option.bind_eq_some_iff.mp read
      dsimp only at read
      have parted := List.takeWhile_append_dropWhile (p := Text.isDigit) (l := cs)
      rw [DurationUnit.read?_shape behind] at parted
      have first : cs.takeWhile Text.isDigit ≠ [] ∧
          ∀ c ∈ cs.takeWhile Text.isDigit, Text.isDigit c = true :=
        ⟨by simpa using some_digit, fun c => List.mem_takeWhile_imp⟩
      split at read
      · next nothing =>
        cases read
        rw [List.isEmpty_iff.mp nothing] at parted
        refine ⟨?_, List.cons_ne_nil _ _, List.forall_mem_singleton.mpr first⟩
        rw [written_cons]
        exact parted.symm
      · obtain ⟨more, tail, rfl⟩ := Option.map_eq_some_iff.mp read
        obtain ⟨rfl, _, counted⟩ := ih tail
        refine ⟨?_, List.cons_ne_nil _ _, List.forall_mem_cons.mpr ⟨first, counted⟩⟩
        rw [written_cons]
        exact parted.symm

end Reading

-- Amounts whose digits are of some kind and worth something, added up to a duration.
structure Spelled (digit : Char → Bool) (worth : List Char → Nat)
    (parts : List (List Char × DurationUnit)) (d : Duration) : Prop where
  nonempty : parts ≠ []
  counted : Counted digit parts
  short : ∀ part ∈ parts, part.1.length ≤ maxDigits
  sum : d.microseconds = (parts.map fun part => (worth part.1 : Int) * part.2.microseconds).sum
  positive : 0 < d.microseconds
  limited : d.microseconds < limit

def Reads (cs : List Char) (d : Duration) : Prop :=
  ∃ parts, Spelled Text.isDigit Binary64.natOfDigits parts d ∧ cs = written parts

def Plainly (cs : List Char) (d : Duration) : Prop :=
  ∃ parts, Spelled Char.isDigit (Nat.ofDigitChars 10 · 0) parts d ∧ cs = written parts

theorem mem_written {parts : List (List Char × DurationUnit)} {c : Char} :
    c ∈ written parts ↔ ∃ part ∈ parts, c ∈ part.1 ∨ c ∈ part.2.suffix.toList := by
  simp [written]

def isSpanChar (c : Char) : Bool := Text.isDigit c || "ywdhms".toList.contains c

theorem Counted.span {parts : List (List Char × DurationUnit)}
    (counted : Counted Text.isDigit parts) {c : Char} (present : c ∈ written parts) :
    isSpanChar c = true := by
  have letters (unit : DurationUnit) : ∀ d ∈ unit.suffix.toList, isSpanChar d = true := by
    cases unit <;> exact List.all_eq_true.mp (by decide)
  obtain ⟨part, member, digit | letter⟩ := mem_written.mp present
  · rw [isSpanChar, (counted part member).2 c digit, Bool.true_or]
  · exact letters part.2 c letter

theorem Counted.length_le {digit : Char → Bool} {parts : List (List Char × DurationUnit)}
    (counted : Counted digit parts) : parts.length ≤ (written parts).length := by
  induction parts with
  | nil => exact Nat.le_refl 0
  | cons part parts ih =>
    obtain ⟨⟨some_digit, _⟩, rest⟩ := List.forall_mem_cons.mp counted
    have first := List.length_pos_of_ne_nil some_digit
    have more := ih rest
    rw [written_cons, List.length_append, List.length_append, List.length_cons]
    omega

theorem parse_ok {text : String} {d : Duration} :
    parse text = .ok d ↔ Reads (Text.withoutFinalNewline text.toList) d := by
  unfold parse
  dsimp only
  generalize Text.withoutFinalNewline text.toList = cs
  have added {parts : List (List Char × DurationUnit)} :=
    @foldlM_ok parts ⟨0⟩ d (by decide) (by decide)
  simp only [Int.zero_add] at added
  constructor
  · intro read
    split at read
    · cases read
    · next parts found =>
      obtain ⟨shape, nonempty, counted⟩ := written_of_parts? found
      obtain ⟨total, adding, read⟩ := bind_ok.mp read
      split at read
      · cases read
      · next positive =>
        cases read
        obtain ⟨short, sum, limited⟩ := added.mp adding
        exact ⟨parts, ⟨nonempty, counted, short, sum, Int.not_le.mp positive, limited⟩, shape⟩
  · rintro ⟨parts, spelled, rfl⟩
    have enough := Nat.le_succ_of_le spelled.counted.length_le
    rw [parts?_written enough spelled.nonempty spelled.counted]
    exact bind_ok.mpr ⟨d, added.mpr ⟨spelled.short, spelled.sum, spelled.limited⟩,
      if_neg (Int.not_le.mpr spelled.positive)⟩

-- What is read is what the grammar has, but for a line feed that may end the text.
theorem parse_iff {text : String} {d : Duration} : parse text = .ok d ↔
    ∃ cs, Reads cs d ∧ (text.toList = cs ∨ text.toList = cs ++ ['\n']) := by
  rw [parse_ok]
  constructor
  · intro reads
    exact ⟨_, reads, finalNewline_cases _⟩
  · rintro ⟨cs, reads, ends⟩
    obtain ⟨parts, spelled, rfl⟩ := reads
    rw [(Text.withoutFinalNewline_iff (written_unfed spelled.nonempty)).mpr ends]
    exact ⟨parts, spelled, rfl⟩

theorem span_of_parse {text : String} {d : Duration} (read : parse text = .ok d) {c : Char}
    (present : c ∈ text.toList) : isSpanChar c = true ∨ c = '\n' := by
  obtain ⟨_, ⟨parts, spelled, rfl⟩, bare | fed⟩ := parse_iff.mp read
  · rw [bare] at present
    exact .inl (spelled.counted.span present)
  · rw [fed] at present
    rcases List.mem_append.mp present with body | last
    · exact .inl (spelled.counted.span body)
    · exact .inr (List.mem_singleton.mp last)

theorem text_lacks {text : String} {d : Duration} (read : parse text = .ok d) {c : Char}
    (other : isSpanChar c = false) (mark : c ≠ '\n') : c ∉ text.toList := by
  intro present
  cases span_of_parse read present with
  | inl span => rw [span] at other; cases other
  | inr feed => exact mark feed

theorem Spelled.imp {digit digit' : Char → Bool} {worth worth' : List Char → Nat}
    {parts : List (List Char × DurationUnit)} {d : Duration} (spelled : Spelled digit worth parts d)
    (kinds : ∀ part ∈ parts, ∀ c ∈ part.1, digit c = true → digit' c = true)
    (worths : ∀ part ∈ parts, worth part.1 = worth' part.1) : Spelled digit' worth' parts d where
  nonempty := spelled.nonempty
  counted := fun part member =>
    have ⟨some_digit, digits⟩ := spelled.counted part member
    ⟨some_digit, fun c present => kinds part member c present (digits c present)⟩
  short := spelled.short
  sum := by
    rw [spelled.sum]
    exact congrArg List.sum (List.map_congr_left fun part member => by rw [worths part member])
  positive := spelled.positive
  limited := spelled.limited

theorem plainly_iff {cs : List Char} {d : Duration} :
    Plainly cs d ↔ Reads cs d ∧ ∀ c ∈ cs, c.toNat < 128 := by
  constructor
  · rintro ⟨parts, spelled, rfl⟩
    refine ⟨⟨parts, spelled.imp ?_ ?_, rfl⟩, ?_⟩
    · intro part _ c _ digit
      rw [Text.isDigit_ascii (Text.ascii_of_digit digit), digit]
    · exact fun part member =>
        (Binary64.natOfDigits_ascii (spelled.counted part member).2).symm
    · intro c present
      obtain ⟨part, member, digit | letter⟩ := mem_written.mp present
      · exact Text.ascii_of_digit ((spelled.counted part member).2 c digit)
      · exact part.2.suffix_ascii c letter
  · rintro ⟨⟨parts, spelled, rfl⟩, ascii⟩
    have kinds {part : List Char × DurationUnit} (member : part ∈ parts) {c : Char}
        (present : c ∈ part.1) (digit : Text.isDigit c = true) : c.isDigit = true := by
      rwa [Text.isDigit_ascii (ascii c (mem_written.mpr ⟨part, member, .inl present⟩))] at digit
    refine ⟨parts, spelled.imp (fun _ member _ => kinds member) fun part member => ?_, rfl⟩
    exact Binary64.natOfDigits_ascii fun c present =>
      kinds member present ((spelled.counted part member).2 c present)

theorem plainly_iff_parse {text : String} {d : Duration} : Plainly text.toList d ↔
    parse text = .ok d ∧ ∀ c ∈ text.toList, c.toNat < 128 ∧ c ≠ '\n' := by
  rw [plainly_iff, parse_iff]
  constructor
  · rintro ⟨⟨parts, spelled, shape⟩, ascii⟩
    refine ⟨⟨_, ⟨parts, spelled, shape⟩, .inl rfl⟩, fun c present => ⟨ascii c present, ?_⟩⟩
    rintro rfl
    rw [shape] at present
    exact absurd (spelled.counted.span present) (by decide)
  · rintro ⟨⟨cs, reads, bare | fed⟩, chars⟩
    · rw [bare] at chars ⊢
      exact ⟨reads, fun c present => (chars c present).1⟩
    · exact absurd rfl (chars '\n' (by simp [fed])).2

theorem parse_error {text : String} {f : Fault} (failed : parse text = .error f) :
    f = .overflow ∨ ∃ cause, f = .refused cause := by
  unfold parse at failed
  dsimp only at failed
  split at failed
  · cases failed
    exact .inr ⟨_, rfl⟩
  · rcases bind_error.mp failed with summing | ⟨total, _, failed⟩
    · exact foldlM_error (by decide) summing
    · split at failed
      · cases failed
        exact .inr ⟨_, rfl⟩
      · cases failed

theorem parse_overflow_iff {text : String} : parse text = .error .overflow ↔ TooLong text := by
  unfold parse TooLong
  dsimp only
  split
  · next none => simp [none]
  · next parts read =>
    have summing := @foldlM_overflow parts ⟨0⟩ (by decide) (by decide)
    rw [bind_error, summing, read]
    constructor
    · rintro (⟨before, after, rfl, each, long⟩ | ⟨total, _, failed⟩)
      · exact ⟨before, after, rfl, each, by simpa using long⟩
      · split at failed <;> cases failed
    · rintro ⟨before, after, shape, each, long⟩
      exact .inl ⟨before, after, Option.some.inj shape, each, by simpa using long⟩

end Duration

end SloCompiler
