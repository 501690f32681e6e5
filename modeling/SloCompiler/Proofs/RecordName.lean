import Mathlib.Data.List.Basic
import SloCompiler.Metric.Template

namespace SloCompiler

theorem underscore_metric : isMetricChar '_' = true := by decide

-- The kernel compares a literal with its characters at once, but takes long to list them.
theorem all_chars {p : Char → Bool} {s : String} {cs : List Char} (written : s = String.ofList cs)
    (all : cs.all p = true) : ∀ c ∈ s.toList, p c = true := by
  rw [written, String.toList_ofList]
  exact List.all_eq_true.mp all

theorem start_of_metric {c : Char} (metric : isMetricChar c = true) (letter : c.isDigit = false) :
    isMetricStart c = true := by
  simpa [isMetricStart, isMetricChar, Char.isAlphanum, letter] using metric

theorem metric_of_start {c : Char} (start : isMetricStart c = true) : isMetricChar c = true := by
  simp only [isMetricStart, isMetricChar, Char.isAlphanum, Bool.or_eq_true] at start ⊢
  exact start.imp_left fun letter => letter.imp_left .inl

theorem isMetricChars_all {cs : List Char} (named : isMetricChars cs = true) :
    ∀ c ∈ cs, isMetricChar c = true := by
  cases cs with
  | nil => exact List.forall_mem_nil _
  | cons c rest =>
    obtain ⟨start, others⟩ := Bool.and_eq_true_iff.mp named
    exact List.forall_mem_cons.mpr ⟨metric_of_start start, List.all_eq_true.mp others⟩

theorem start_not_digit {c : Char} (start : isMetricStart c = true) : c.isDigit = false := by
  rw [Bool.eq_false_iff]
  intro digit
  have code : 48 ≤ c.toNat ∧ c.toNat ≤ 57 :=
    (Bool.and_eq_true_iff.mp digit).imp of_decide_eq_true of_decide_eq_true
  have kinds : (((c.isUpper || c.isLower) || c == '_') || c == ':') = true := start
  simp only [Bool.or_eq_true, beq_iff_eq] at kinds
  rcases kinds with ((upper | lower) | rfl) | rfl
  · have range : 65 ≤ c.toNat ∧ c.toNat ≤ 90 := of_decide_eq_true upper
    omega
  · have range : 97 ≤ c.toNat ∧ c.toNat ≤ 122 :=
      (Bool.and_eq_true_iff.mp lower).imp of_decide_eq_true of_decide_eq_true
    omega
  · cases digit
  · cases digit

theorem sanitizeChars_metric {cs : List Char} {c : Char} (present : c ∈ sanitizeChars cs) :
    isMetricChar c = true := by
  have safe : ∀ d ∈ cs.map (fun c => if isMetricChar c then c else '_'),
      isMetricChar d = true := by
    intro d member
    obtain ⟨b, _, rfl⟩ := List.mem_map.mp member
    split
    · assumption
    · exact underscore_metric
  unfold sanitizeChars at present
  dsimp only at present
  split at present
  · cases present
  · split at present
    · rcases List.mem_cons.mp present with rfl | kept
      · exact underscore_metric
      · exact safe c kept
    · exact safe c present

theorem sanitizeChars_start {cs rest : List Char} {c : Char}
    (shape : sanitizeChars cs = c :: rest) : isMetricStart c = true := by
  have metric : isMetricChar c = true :=
    sanitizeChars_metric (show c ∈ sanitizeChars cs from shape ▸ List.mem_cons_self)
  unfold sanitizeChars at shape
  dsimp only at shape
  split at shape
  · cases shape
  · next d _ found =>
    split at shape
    · cases shape
      decide
    · next letter =>
      rw [found] at shape
      cases shape
      exact start_of_metric metric (by simpa using letter)

theorem sanitizeName_metric {name : String} {c : Char} (present : c ∈ (sanitizeName name).toList) :
    isMetricChar c = true := by
  rw [sanitizeName, String.toList_ofList] at present
  exact sanitizeChars_metric present

namespace Text

theorem withoutFinalNewline_eq {cs : List Char} (none : '\n' ∉ cs) :
    withoutFinalNewline cs = cs := by
  unfold withoutFinalNewline
  split
  · next final => exact absurd (List.mem_of_getLast? final) none
  · rfl

end Text

theorem isMetricName_ofChars {name : String} (c : Char) (rest : List Char)
    (shape : name.toList = c :: rest) (start : isMetricStart c = true)
    (metric : ∀ d ∈ name.toList, isMetricChar d = true) : isMetricName name = true := by
  have noFeed : '\n' ∉ name.toList := fun feed => absurd (metric _ feed) (by decide)
  rw [isMetricName, Text.withoutFinalNewline_eq noFeed, shape]
  simp only [isMetricChars, start, Bool.true_and, List.all_eq_true]
  intro d member
  exact metric d (shape ▸ List.mem_cons_of_mem _ member)

namespace Template

variable {expand : List Char → Except Fault (List Char)} {template : String} {values : Values}

theorem fillWith_text {cs : List Char} (plain : ∀ c ∈ cs, c ≠ '\x7b' ∧ c ≠ '\x7d')
    (done : List Char) {n : Nat} (enough : cs.length ≤ n) (rest : List Char) :
    fillWith expand template values n done (cs ++ rest) =
      fillWith expand template values (n - cs.length) (cs.reverse ++ done) rest := by
  induction cs generalizing done n with
  | nil => rfl
  | cons c cs ih =>
    obtain ⟨noOpen, noClose⟩ := plain c List.mem_cons_self
    obtain ⟨m, rfl⟩ : ∃ m, n = m + 1 := ⟨n - 1, by simp only [List.length_cons] at enough; omega⟩
    have room : cs.length ≤ m := Nat.le_of_succ_le_succ enough
    have step : fillWith expand template values (m + 1) done (c :: cs ++ rest) =
        fillWith expand template values m (c :: done) (cs ++ rest) := by
      rw [List.cons_append, fillWith.eq_def]
      simp [noOpen, noClose]
    rw [step, ih (fun d member => plain d (List.mem_cons_of_mem _ member)) _ room]
    simp

theorem fillWith_end (done : List Char) (n : Nat) :
    fillWith expand template values n done [] = .ok done.reverse := by
  cases n <;> rfl

theorem fillWith_field (value done : List Char) {name tail : List Char} {c : Char} (n : Nat)
    (other : c ≠ '\x7b') {rest : List Char}
    (field : readField (c :: rest) = .ok (⟨name, none, []⟩, tail))
    (found : valueOf template values name = .ok value) :
    fillWith expand template values (n + 1) done ('\x7b' :: c :: rest) =
      fillWith expand template values n (value.reverse ++ done) tail := by
  rw [fillWith.eq_def]
  simp [other, field, found, convert, setText, bind, Except.bind, pure, Except.pure]

end Template

open Template in
theorem fill_record (product sliId : String) {operation : String}
    (plain : ∀ c ∈ operation.toList, c ≠ '\x7b' ∧ c ≠ '\x7d') :
    fill ("\x7bproduct\x7d:\x7bsli_id\x7d_" ++ operation)
        [("product", product), ("sli_id", sliId)] =
      .ok (product ++ ":" ++ (sliId ++ "_" ++ operation)) := by
  let tail := '_' :: operation.toList
  have noBrace : ∀ c ∈ tail, c ≠ '\x7b' ∧ c ≠ '\x7d' := by
    intro c present
    rcases List.mem_cons.mp present with rfl | own
    · decide
    · exact plain c own
  have first : readField ('p' :: ("roduct\x7d:\x7bsli_id\x7d".toList ++ tail)) =
      .ok (⟨"product".toList, none, []⟩, [':'] ++ '\x7b' :: 's' :: ("li_id\x7d".toList ++ tail)) :=
    rfl
  have second : readField ('s' :: ("li_id\x7d".toList ++ tail)) =
      .ok (⟨"sli_id".toList, none, []⟩, tail ++ []) := by
    rw [List.append_nil]
    rfl
  have shape : ("\x7bproduct\x7d:\x7bsli_id\x7d_" ++ operation).toList =
      '\x7b' :: 'p' :: ("roduct\x7d:\x7bsli_id\x7d".toList ++ tail) := by simp [tail]
  have size : ("\x7bproduct\x7d:\x7bsli_id\x7d_" ++ operation).toList.length =
      tail.length + 17 + 1 := by simp [tail]
  have colon : ∀ c ∈ [':'], c ≠ '\x7b' ∧ c ≠ '\x7d' := List.forall_mem_singleton.mpr (by decide)
  unfold fill
  dsimp only
  rw [size, shape, fillWith_field product.toList [] _ (by decide) first rfl,
    fillWith_text colon _ (by simp),
    show tail.length + 17 - [':'].length = tail.length + 15 + 1 from rfl,
    fillWith_field sliId.toList _ _ (by decide) second rfl,
    fillWith_text noBrace _ (by omega), fillWith_end]
  simp [Except.map, tail, ← String.toList_inj]

def ownRecord (product sliId operation : String) : String :=
  sanitizeName product ++ ":" ++ (sanitizeName sliId ++ "_" ++ operation)

theorem ownRecord_metric (product sliId : String) {operation : String}
    (metric : ∀ c ∈ operation.toList, isMetricChar c = true) :
    ∀ c ∈ (ownRecord product sliId operation).toList, isMetricChar c = true := by
  intro c present
  simp only [ownRecord, String.toList_append, List.mem_append] at present
  rcases present with (above | colon) | (id | mark) | own
  · exact sanitizeName_metric above
  · exact all_chars rfl rfl c colon
  · exact sanitizeName_metric id
  · exact all_chars rfl rfl c mark
  · exact metric c own

theorem colon_mem_ownRecord (product sliId operation : String) :
    ':' ∈ (ownRecord product sliId operation).toList := by
  simp [ownRecord]

theorem isMetricName_ownRecord (product sliId : String) {operation : String}
    (metric : ∀ c ∈ operation.toList, isMetricChar c = true) :
    isMetricName (ownRecord product sliId operation) = true := by
  have all := ownRecord_metric product sliId metric
  cases above : sanitizeChars product.toList with
  | nil =>
    refine isMetricName_ofChars ':' (sanitizeName sliId ++ "_" ++ operation).toList ?_
      (by decide) all
    simp [ownRecord, sanitizeName, above]
  | cons c rest =>
    refine isMetricName_ofChars c
      (rest ++ ':' :: (sanitizeName sliId ++ "_" ++ operation).toList) ?_
      (sanitizeChars_start above) all
    simp [ownRecord, sanitizeName, above]

theorem recordName_eq {product sliId operation : String}
    (metric : ∀ c ∈ operation.toList, isMetricChar c = true) :
    recordName product sliId operation = .ok (ownRecord product sliId operation) := by
  have plain : ∀ c ∈ operation.toList, c ≠ '\x7b' ∧ c ≠ '\x7d' := fun c own =>
    ⟨fun eq => absurd (eq ▸ metric c own) (by decide),
      fun eq => absurd (eq ▸ metric c own) (by decide)⟩
  have named := isMetricName_ownRecord product sliId metric
  have noOwn : (Ordered.get? [("product", product), ("sli_id", sliId)] ownName).isSome = false := by
    rfl
  have filled := fill_record (sanitizeName product) (sanitizeName sliId) plain
  simp only [recordName, metricName, noOwn, List.map_cons, List.map_nil, filled, bind, Except.bind,
    Bool.false_eq_true, if_false]
  exact if_pos named

end SloCompiler
