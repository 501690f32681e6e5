import SloCompiler.Proofs.Outcome
import SloCompiler.Selector.Clause

namespace SloCompiler

namespace MatchOperator

def isNegative : MatchOperator → Bool
  | .notEqual | .regexNoMatch => true
  | .equal | .regexMatch => false

def isRegex : MatchOperator → Bool
  | .regexMatch | .regexNoMatch => true
  | .equal | .notEqual => false

theorem operatorFor_iff {negative regex : Bool} {operator : MatchOperator} :
    Clause.operatorFor negative regex = operator ↔
      operator.isNegative = negative ∧ operator.isRegex = regex := by
  cases negative <;> cases regex <;> cases operator <;>
    simp [Clause.operatorFor, isNegative, isRegex]

end MatchOperator

namespace Clause

-- The value that stands for a clause: a mark for a negative match, and a backslash for a pattern
-- that would be taken for one.
def writeValue : Bool → List Char → List Char
  | true, pattern => '!' :: pattern
  | false, '!' :: rest => '\\' :: '!' :: rest
  | false, pattern => pattern

-- Of the patterns of positive clauses only these cannot be told from an escaped mark.
def LooksEscaped (pattern : List Char) : Prop := ['\\', '!'] <+: pattern

theorem readValue_escaped (rest : List Char) :
    readValue ('\\' :: '!' :: rest) = (false, '!' :: rest) := rfl

theorem readValue_marked (rest : List Char) : readValue ('!' :: rest) = (true, rest) := rfl

theorem readValue_plain {cs : List Char} (unmarked : cs.head? ≠ some '!')
    (free : ¬LooksEscaped cs) : readValue cs = (false, cs) := by
  unfold readValue
  split
  · exact absurd (List.prefix_append ['\\', '!'] _) free
  · exact absurd rfl unmarked
  · rfl

theorem writeValue_plain {pattern : List Char} (unmarked : pattern.head? ≠ some '!') :
    writeValue false pattern = pattern := by
  unfold writeValue
  split
  · contradiction
  · exact absurd rfl unmarked
  · rfl

theorem readValue_writeValue {negative : Bool} {pattern : List Char}
    (free : negative = false → ¬LooksEscaped pattern) :
    readValue (writeValue negative pattern) = (negative, pattern) := by
  cases negative with
  | true => exact readValue_marked pattern
  | false =>
    by_cases marked : pattern.head? = some '!'
    · obtain ⟨rest, rfl⟩ := List.head?_eq_some_iff.mp marked
      exact readValue_escaped rest
    · rw [writeValue_plain marked, readValue_plain marked (free rfl)]

theorem readValue_iff {value pattern : List Char} {negative : Bool} :
    readValue value = (negative, pattern) ↔
      (negative = false → ¬LooksEscaped pattern) ∧ value = writeValue negative pattern := by
  constructor
  · intro read
    unfold readValue at read
    split at read
    · cases read
      exact ⟨fun _ => by simp [LooksEscaped], rfl⟩
    · cases read
      exact ⟨nofun, rfl⟩
    · next free unmarked =>
      cases read
      refine ⟨fun _ looks => ?_, (writeValue_plain fun marked => ?_).symm⟩
      · obtain ⟨rest, same⟩ := looks
        exact free rest same.symm
      · obtain ⟨rest, same⟩ := List.head?_eq_some_iff.mp marked
        exact unmarked rest same
  · rintro ⟨free, rfl⟩
    exact readValue_writeValue free

def value (c : Clause) : String :=
  String.ofList (writeValue c.operator.isNegative c.pattern.toList)

-- A clause that some value stands for: its operator takes patterns exactly if its pattern is one.
structure Expressible (c : Clause) : Prop where
  regex : c.operator.isRegex = true ↔ isRegex c.pattern = true
  free : c.operator.isNegative = false → ¬LooksEscaped c.pattern.toList

theorem ofText_eq {label value : String} (valid : isLabelName label = true) {negative : Bool}
    {pattern : List Char} (read : readValue value.toList = (negative, pattern)) :
    ofText label value = .ok ⟨label, operatorFor negative (pattern.any isRegexChar),
      String.ofList pattern, valid⟩ := by
  unfold ofText
  rw [read]
  exact dif_pos valid

theorem ofText_valid {label value : String} {c : Clause} (made : ofText label value = .ok c) :
    isLabelName label = true := by
  unfold ofText at made
  dsimp only at made
  split at made
  · assumption
  · cases made

theorem ofText_iff {label value : String} {c : Clause} :
    ofText label value = .ok c ↔ c.label = label ∧ c.Expressible ∧ value = c.value := by
  constructor
  · intro made
    obtain ⟨negative, pattern, read⟩ : ∃ negative pattern,
        readValue value.toList = (negative, pattern) := ⟨_, _, rfl⟩
    obtain ⟨free, written⟩ := readValue_iff.mp read
    have valid := ofText_valid made
    rw [ofText_eq valid read] at made
    obtain ⟨negates, searches⟩ := MatchOperator.operatorFor_iff.mp
      (rfl : operatorFor negative (pattern.any isRegexChar) = _)
    obtain rfl := Except.ok.inj made
    refine ⟨rfl, ⟨?_, ?_⟩, ?_⟩
    · rw [searches, SloCompiler.isRegex, String.toList_ofList]
    · rw [negates, String.toList_ofList]
      exact free
    · rw [Clause.value, negates, String.toList_ofList, ← written, String.ofList_toList]
  · rintro ⟨rfl, ⟨regex, free⟩, rfl⟩
    have read : readValue c.value.toList = (c.operator.isNegative, c.pattern.toList) := by
      rw [value, String.toList_ofList]
      exact readValue_writeValue free
    have operator : operatorFor c.operator.isNegative (c.pattern.toList.any isRegexChar) =
        c.operator :=
      MatchOperator.operatorFor_iff.mpr ⟨rfl, Bool.eq_iff_iff.mpr regex⟩
    rw [ofText_eq c.label_valid read, operator, String.ofList_toList]

theorem ofValue_iff {label value : String} {c : Clause} :
    ofValue label (.str value) = .ok c ↔ c.label = label ∧ c.Expressible ∧ value = c.value :=
  mapError_ok.trans ofText_iff

theorem notation_unambiguous {label : String} (valid : isLabelName label = true) :
    (∀ text, ∃ c, ofValue label (.str text) = .ok c) ∧
      (∀ text text', ofValue label (.str text) = ofValue label (.str text') → text = text') ∧
      (∀ c : Clause, (∃ text, ofValue label (.str text) = .ok c) ↔
        c.label = label ∧ c.Expressible) ∧
      ∀ text c, ofValue label (.str text) = .ok c → text = c.value := by
  have reads (text : String) : ∃ c, ofValue label (.str text) = .ok c :=
    ⟨_, mapError_ok.mpr (ofText_eq valid rfl)⟩
  refine ⟨reads, ?_, ?_, fun text c made => (ofValue_iff.mp made).2.2⟩
  · intro text text' same
    obtain ⟨c, made⟩ := reads text
    have again : ofValue label (.str text') = .ok c := same.symm.trans made
    exact (ofValue_iff.mp made).2.2.trans (ofValue_iff.mp again).2.2.symm
  · intro c
    constructor
    · rintro ⟨text, made⟩
      obtain ⟨labelled, expressible, _⟩ := ofValue_iff.mp made
      exact ⟨labelled, expressible⟩
    · rintro ⟨labelled, expressible⟩
      exact ⟨c.value, ofValue_iff.mpr ⟨labelled, expressible, rfl⟩⟩

namespace Escaping

theorem job_label : isLabelName "job" = true := by decide

def clause : Clause := ⟨"job", .regexMatch, "\\!a", job_label⟩

theorem looks_escaped : LooksEscaped clause.pattern.toList := ⟨['a'], rfl⟩

end Escaping

theorem escaped_unambiguous : isLabelName "job" = true ∧
    (∃ c, ofValue "job" (.str "\\!a") = .ok c ∧ c.operator = .equal ∧ c.pattern = "!a" ∧
      "\\!a" = c.value) ∧
    ¬∃ text, ofValue "job" (.str text) = .ok Escaping.clause := by
  obtain ⟨_, _, image, inverse⟩ := notation_unambiguous Escaping.job_label
  have read : ofValue "job" (.str "\\!a") = .ok ⟨"job", .equal, "!a", Escaping.job_label⟩ := rfl
  refine ⟨Escaping.job_label, ⟨_, read, rfl, rfl, inverse _ _ read⟩, fun found => ?_⟩
  exact ((image Escaping.clause).mp found).2.free rfl Escaping.looks_escaped

end Clause

end SloCompiler
