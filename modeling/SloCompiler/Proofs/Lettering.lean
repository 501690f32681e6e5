import Mathlib.Data.List.Shortlex
import SloCompiler.Proofs.DashboardCheck

namespace SloCompiler.Panel

def IsCapital (c : Char) : Prop := 'A' ≤ c ∧ c ≤ 'Z'

def AreCapitals (cs : List Char) : Prop := ∀ c ∈ cs, IsCapital c

def IsReference (s : String) : Prop := s ≠ "" ∧ AreCapitals s.toList

-- The rounds in which a number is written, and the word that they leave: as long as a number is
-- left, its last letter goes in front of those found before.
inductive Lettered : Nat → List Char → Nat → List Char → Prop where
  | done (word : List Char) : Lettered 0 word 0 word
  | round {n rounds : Nat} {letters word : List Char}
    (rest : Lettered (n / 26) (Char.ofNat (65 + n % 26) :: letters) rounds word) :
    Lettered (n + 1) letters (rounds + 1) word

-- A numbering of all words of letters, the shorter words first and those of one length as in a
-- dictionary.
structure Numbering (word : Nat → String) : Prop where
  injective : Function.Injective word
  exact : ∀ s, (∃ n, word n = s) ↔ IsReference s
  increasing : ∀ m n, m < n ↔ List.Shortlex (· < ·) (word m).toList (word n).toList

def HasReferences (panel : Entries) (ids : List String) : Prop :=
  ∃ targets, panel.get? "targets" = some (.list targets) ∧
    targets.map (·.field? "refId") = ids.map fun id => some (.str id)

theorem isCapital_iff {c : Char} : IsCapital c ↔ 65 ≤ c.toNat ∧ c.toNat ≤ 90 := Iff.rfl

theorem lettered_refLetters (letters : List Char) (n : Nat) :
    ∃ rounds, Lettered n letters rounds (refLetters letters n) ∧
      (refLetters letters n).length = letters.length + rounds := by
  induction letters, n using refLetters.induct with
  | case1 letters =>
    rw [refLetters, if_pos rfl]
    exact ⟨0, .done letters, rfl⟩
  | case2 letters n positive ih =>
    obtain ⟨rounds, rest, length⟩ := ih
    obtain ⟨m, rfl⟩ := Nat.exists_eq_succ_of_ne_zero positive
    rw [refLetters, if_neg positive]
    refine ⟨rounds + 1, .round rest, ?_⟩
    rw [length, List.length_cons]
    omega

theorem refId_lettered (n : Nat) : Lettered (n + 1) [] (refId n).length (refId n).toList := by
  obtain ⟨rounds, ends, length⟩ := lettered_refLetters [] (n + 1)
  rw [List.length_nil, Nat.zero_add] at length
  rw [refId, String.length_ofList, String.toList_ofList, length]
  exact ends

theorem refLetters_capitals {letters : List Char} {n : Nat} (capitals : AreCapitals letters) :
    AreCapitals (refLetters letters n) := by
  induction letters, n using refLetters.induct with
  | case1 letters => rwa [refLetters, if_pos rfl]
  | case2 letters n positive ih =>
    rw [refLetters, if_neg positive]
    refine ih (List.forall_mem_cons.mpr ⟨isCapital_iff.mpr ?_, capitals⟩)
    rw [letter_toNat]
    omega

theorem refId_isReference (n : Nat) : IsReference (refId n) := by
  constructor
  · intro empty
    have value := letterValue_refLetters [] (n + 1)
    rw [refId, ← String.toList_inj, String.toList_ofList] at empty
    rw [empty] at value
    cases value
  · rw [refId, String.toList_ofList]
    exact refLetters_capitals (List.forall_mem_nil _)

section Value

variable {s t : List Char} {m n : Nat}

theorem letterValue_parts {c : Char} (capital : IsCapital c) :
    letterValue n c ≠ 0 ∧ (letterValue n c - 1) / 26 = n ∧
      65 + (letterValue n c - 1) % 26 = c.toNat := by
  obtain ⟨first, last⟩ := isCapital_iff.mp capital
  unfold letterValue
  omega

theorem refLetters_value (capitals : AreCapitals s) (letters : List Char) :
    refLetters letters (s.foldl letterValue 0) = s ++ letters := by
  induction s using List.reverseRecOn generalizing letters with
  | nil => rw [List.foldl_nil, refLetters, if_pos rfl, List.nil_append]
  | append_singleton s c ih =>
    obtain ⟨before, last⟩ := List.forall_mem_append.mp capitals
    obtain ⟨positive, rest, letter⟩ :=
      letterValue_parts (n := s.foldl letterValue 0) (List.forall_mem_singleton.mp last)
    rw [List.foldl_append, List.foldl_cons, List.foldl_nil, refLetters, if_neg positive, rest,
      letter, Char.ofNat_toNat, ih before, List.append_assoc, List.singleton_append]

theorem value_pos (capitals : AreCapitals s) (nonempty : s ≠ []) :
    0 < s.foldl letterValue 0 := by
  apply Nat.pos_of_ne_zero
  intro zero
  have word := refLetters_value capitals []
  rw [zero, refLetters, if_pos rfl, List.append_nil] at word
  exact nonempty word.symm

theorem letterValue_lt {c d : Char} (less : m < n) (left : IsCapital c) (right : IsCapital d) :
    letterValue m c < letterValue n d := by
  have upper := (isCapital_iff.mp left).2
  have lower := (isCapital_iff.mp right).1
  unfold letterValue
  omega

theorem foldl_letterValue_lt (less : m < n) (left : AreCapitals s) (right : AreCapitals t)
    (length : s.length = t.length) : s.foldl letterValue m < t.foldl letterValue n := by
  induction s generalizing t m n with
  | nil =>
    obtain rfl := List.length_eq_zero_iff.mp length.symm
    exact less
  | cons c s ih =>
    obtain ⟨d, t, rfl⟩ := List.exists_cons_of_length_eq_add_one length.symm
    obtain ⟨first, left⟩ := List.forall_mem_cons.mp left
    obtain ⟨other, right⟩ := List.forall_mem_cons.mp right
    rw [List.foldl_cons, List.foldl_cons]
    exact ih (letterValue_lt less first other) left right (Nat.succ.inj length)

theorem value_lt_of_lex (before : List.Lex (· < ·) s t) (left : AreCapitals s)
    (right : AreCapitals t) (length : s.length = t.length) (n : Nat) :
    s.foldl letterValue n < t.foldl letterValue n := by
  induction before generalizing n with
  | nil => cases length
  | @cons c s t _ ih =>
    obtain ⟨_, left⟩ := List.forall_mem_cons.mp left
    obtain ⟨_, right⟩ := List.forall_mem_cons.mp right
    rw [List.foldl_cons, List.foldl_cons]
    exact ih left right (Nat.succ.inj length) (letterValue n c)
  | @rel c s d t less =>
    obtain ⟨first, left⟩ := List.forall_mem_cons.mp left
    obtain ⟨other, right⟩ := List.forall_mem_cons.mp right
    rw [List.foldl_cons, List.foldl_cons]
    refine foldl_letterValue_lt ?_ left right (Nat.succ.inj length)
    have code : c.toNat < d.toNat := less
    have lower := (isCapital_iff.mp first).1
    unfold letterValue
    omega

-- A longer word begins with letters that the shorter one has none for.
theorem value_lt_of_length (left : AreCapitals s) (right : AreCapitals t)
    (length : s.length < t.length) : s.foldl letterValue 0 < t.foldl letterValue 0 := by
  let extra := t.length - s.length
  rw [← List.take_append_drop extra t] at right ⊢
  obtain ⟨front, back⟩ := List.forall_mem_append.mp right
  rw [List.foldl_append]
  refine foldl_letterValue_lt (value_pos front ?_) left back ?_
  · rw [← List.length_pos_iff, List.length_take]
    omega
  · rw [List.length_drop]
    omega

theorem value_lt_of_shortlex (before : List.Shortlex (· < ·) s t) (left : AreCapitals s)
    (right : AreCapitals t) : s.foldl letterValue 0 < t.foldl letterValue 0 := by
  rcases List.shortlex_def.mp before with shorter | ⟨length, lex⟩
  · exact value_lt_of_length left right shorter
  · exact value_lt_of_lex lex left right length 0

end Value

theorem refId_value (n : Nat) : (refId n).toList.foldl letterValue 0 = n + 1 := by
  rw [refId, String.toList_ofList, letterValue_refLetters, List.foldl_nil]

theorem lt_of_shortlex {m n : Nat}
    (before : List.Shortlex (· < ·) (refId m).toList (refId n).toList) : m < n := by
  have less := value_lt_of_shortlex before (refId_isReference m).2 (refId_isReference n).2
  rw [refId_value, refId_value] at less
  exact Nat.lt_of_succ_lt_succ less

theorem shortlex_of_lt {m n : Nat} (less : m < n) :
    List.Shortlex (· < ·) (refId m).toList (refId n).toList := by
  by_contra other
  have behind : ¬List.Shortlex (· < ·) (refId n).toList (refId m).toList := by
    intro before
    exact Nat.lt_asymm less (lt_of_shortlex before)
  have same : (refId m).toList = (refId n).toList :=
    Std.Trichotomous.trichotomous _ _ other behind
  exact Nat.ne_of_lt less (refId_injective (String.toList_injective same))

theorem refId_surjective {s : String} (word : IsReference s) : ∃ n, refId n = s := by
  obtain ⟨nonempty, capitals⟩ := word
  have positive : 0 < s.toList.foldl letterValue 0 := by
    apply value_pos capitals
    intro empty
    exact nonempty (String.toList_eq_nil_iff.mp empty)
  obtain ⟨n, value⟩ := Nat.exists_eq_add_one_of_ne_zero (Nat.ne_of_gt positive)
  refine ⟨n, ?_⟩
  rw [refId, ← value, refLetters_value capitals, List.append_nil, String.ofList_toList]

theorem refId_numbering : Numbering refId where
  injective _ _ := refId_injective
  exact s := by
    constructor
    · rintro ⟨n, rfl⟩
      exact refId_isReference n
    · exact refId_surjective
  increasing _ _ := ⟨shortlex_of_lt, lt_of_shortlex⟩

theorem TimeSeries.panel_hasReferences (p : TimeSeries) :
    HasReferences p.panel ((List.range p.targets.length).map refId) := by
  refine ⟨(withRefIds p.targets).map .map, rfl, ?_⟩
  rw [withRefIds_values]
  refine List.ext_getElem (by simp) fun i _ _ => ?_
  simp [Value.field?, Value.entries, Entries.get?_put]

-- Writing a number ends after one round for each letter of its word, the words are numbered
-- without gaps and in order, and so no two queries of a panel have the same id, however many
-- there are.
theorem refIds_number (n : Nat) (p : TimeSeries) :
    Lettered (n + 1) [] (refId n).length (refId n).toList ∧ Numbering refId ∧
      ∃ ids, HasReferences p.panel ids ∧ ids = (List.range p.targets.length).map refId ∧
        ids.Nodup :=
  ⟨refId_lettered n, refId_numbering, _, p.panel_hasReferences, rfl,
    List.nodup_range.map refId_numbering.injective⟩

end SloCompiler.Panel
