import SloCompiler.Proofs.WholeNames

namespace SloCompiler

theorem isMetricChar_iff {c : Char} :
    isMetricChar c = true ↔ IsLetter c ∨ IsFigure c ∨ c ∈ metricMarks := by
  rw [isMetricChar, Char.isAlphanum, Bool.or_eq_true, Bool.or_eq_true, Bool.or_eq_true,
    isLetter_iff, isFigure_iff, beq_iff_eq, beq_iff_eq]
  simp [metricMarks, or_assoc]

theorem sanitizeChars_eq_nil {cs : List Char} : sanitizeChars cs = [] ↔ cs = [] := by
  cases cs with
  | nil => simp [sanitizeChars]
  | cons c rest =>
    rw [sanitizeChars, List.map_cons]
    generalize (if isMetricChar c then c else '_') = first
    cases digit : first.isDigit <;> simp [digit]

theorem sanitizeChars_whole {cs : List Char} (nonempty : cs ≠ []) :
    isMetricChars (sanitizeChars cs) = true := by
  have some_left : sanitizeChars cs ≠ [] := by
    intro none
    exact nonempty (sanitizeChars_eq_nil.mp none)
  obtain ⟨c, rest, shape⟩ := List.exists_cons_of_ne_nil some_left
  have all : ∀ d ∈ c :: rest, isMetricChar d = true := by
    intro d present
    exact sanitizeChars_metric (shape ▸ present)
  rw [shape, isMetricChars, sanitizeChars_start shape, Bool.true_and, List.all_eq_true]
  exact (List.forall_mem_cons.mp all).2

theorem sanitizeChars_name {cs : List Char} (valid : isMetricChars cs = true) :
    sanitizeChars cs = cs := by
  have kept : cs.map (fun c => if isMetricChar c then c else '_') = cs :=
    (List.map_congr_left fun c present => if_pos (isMetricChars_all valid c present)).trans
      (List.map_id cs)
  rw [sanitizeChars, kept]
  cases cs with
  | nil => rfl
  | cons c rest =>
    have letter := start_not_digit (Bool.and_eq_true_iff.mp valid).1
    dsimp only
    rw [letter, if_neg Bool.false_ne_true]

theorem sanitizeChars_eq_self {cs : List Char} :
    sanitizeChars cs = cs ↔ cs = [] ∨ WholeChars metricMarks cs := by
  rw [← isMetricChars_iff]
  constructor
  · intro same
    cases cs with
    | nil => exact .inl rfl
    | cons c rest =>
      right
      rw [← same]
      exact sanitizeChars_whole (List.cons_ne_nil c rest)
  · rintro (rfl | valid)
    · rfl
    · exact sanitizeChars_name valid

theorem sanitizeName_eq_self {s : String} :
    sanitizeName s = s ↔ s = "" ∨ WholeName metricMarks s := by
  rw [sanitizeName, ← String.toList_inj, String.toList_ofList, sanitizeChars_eq_self,
    String.toList_eq_nil_iff, WholeName]

theorem sanitizeName_whole {s : String} : WholeName metricMarks (sanitizeName s) ↔ s ≠ "" := by
  rw [WholeName, sanitizeName, String.toList_ofList, ← isMetricChars_iff, Ne,
    ← String.toList_eq_nil_iff]
  constructor
  · intro valid empty
    rw [empty] at valid
    cases valid
  · exact sanitizeChars_whole

theorem sanitizeName_twice (s : String) : sanitizeName (sanitizeName s) = sanitizeName s := by
  apply sanitizeName_eq_self.mpr
  by_cases empty : s = ""
  · left
    rw [empty]
    rfl
  · right
    exact sanitizeName_whole.mpr empty

theorem ownRecord_whole (product sliId : String) {operation : String}
    (metric : ∀ c ∈ operation.toList, isMetricChar c = true) :
    WholeName metricMarks (ownRecord product sliId operation) := by
  have noFeed : '\n' ∉ (ownRecord product sliId operation).toList := by
    intro feed
    have kept := ownRecord_metric product sliId metric _ feed
    exact absurd kept (by decide)
  have named := isMetricName_ownRecord product sliId metric
  rwa [isMetricName, Text.withoutFinalNewline_eq noFeed, isMetricChars_iff] at named

-- Sanitizing makes a name of every text but the empty one, and leaves the names as they are and no
-- other text. A record of an SLI's own always has such a name, whatever the product and the SLI are
-- called.
theorem sanitized_names (s product sliId operation : String) :
    (WholeName metricMarks (sanitizeName s) ↔ s ≠ "") ∧
      sanitizeName (sanitizeName s) = sanitizeName s ∧
      (sanitizeName s = s ↔ s = "" ∨ WholeName metricMarks s) ∧
      ((∀ c ∈ operation.toList, IsLetter c ∨ IsFigure c ∨ c ∈ metricMarks) →
        ∃ name, recordName product sliId operation = .ok name ∧
          name = sanitizeName product ++ ":" ++ sanitizeName sliId ++ "_" ++ operation ∧
          sanitizeName name = name) := by
  refine ⟨sanitizeName_whole, sanitizeName_twice s, sanitizeName_eq_self, fun plain => ?_⟩
  have metric : ∀ c ∈ operation.toList, isMetricChar c = true := fun c present =>
    isMetricChar_iff.mpr (plain c present)
  refine ⟨_, recordName_eq metric, ?_, sanitizeName_eq_self.mpr (.inr ?_)⟩
  · simp only [ownRecord, String.append_assoc]
  · exact ownRecord_whole product sliId metric

theorem nameless_product_sanitized :
    (∀ c ∈ "9:count".toList, IsLetter c ∨ IsFigure c ∨ c ∈ metricMarks) ∧
      recordName "" "9.é" "9:count" = .ok ":_9___9:count" ∧
      sanitizeName ":_9___9:count" = ":_9___9:count" := by
  have plain : ∀ c ∈ "9:count".toList, IsLetter c ∨ IsFigure c ∨ c ∈ metricMarks := by
    intro c present
    exact isMetricChar_iff.mp (all_chars rfl rfl c present)
  obtain ⟨_, _, _, recorded⟩ := sanitized_names "" "" "9.é" "9:count"
  obtain ⟨name, made, written, kept⟩ := recorded plain
  have text : name = ":_9___9:count" := by
    rw [written]
    decide +kernel
  rw [text] at made kept
  exact ⟨plain, made, kept⟩

end SloCompiler
