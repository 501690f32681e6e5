import SloCompiler.Proofs.DurationReading
import SloCompiler.Proofs.ExpressionCheck
import SloCompiler.Proofs.Wording

namespace SloCompiler
open Check Contribution

def Recordable (w : List Char) : Prop := ':' ∈ w ∨ String.ofList w ∈ commonRecords

-- The common names start alike; texts of other kinds never do so.
def looksCommon (w : List Char) : Bool := w.head? == some 's' && w[3]? == some '_'

theorem common_looks {w : List Char} (common : String.ofList w ∈ commonRecords) :
    looksCommon w = true := by
  have all : ∀ record ∈ commonRecords, looksCommon record.toList = true :=
    List.all_eq_true.mp (by decide)
  simpa using all _ common

-- A text that opens no quoted text and of recordable words says only those recorded before.
structure Familiar (seen : List String) (s : String) : Prop where
  quoteless : '"' ∉ s.toList
  known : Says (fun w => Recordable w → String.ofList w ∈ seen) s.toList

namespace Familiar

variable {seen : List String}

theorem of_words {s : String} (quoteless : '"' ∉ s.toList) (colonless : ':' ∉ s.toList)
    (apart : ∀ w ∈ words s.toList, looksCommon w = false) : Familiar seen s := by
  refine ⟨quoteless, fun w listed recordable => ?_⟩
  rcases recordable with own | common
  · exact absurd (mem_of_mem_words listed own) colonless
  · have looks := common_looks common
    rw [apart w listed] at looks
    cases looks

theorem constant (s : String) {cs : List Char} (written : s = String.ofList cs)
    (plain : cs.all (fun c => c != '"' && c != ':') = true)
    (apart : (words cs).all (!looksCommon ·) = true) : Familiar seen s := by
  have chars := all_chars written plain
  refine of_words (fun present => absurd (chars _ present) (by decide))
    (fun present => absurd (chars _ present) (by decide)) fun w listed => ?_
  rw [written, String.toList_ofList] at listed
  simpa using List.all_eq_true.mp apart w listed

theorem numeral (x : Binary64) : Familiar seen x.plain := by
  refine of_words (x.plain_lacks (by decide)) (x.plain_lacks (by decide)) fun w listed => ?_
  refine Bool.eq_false_iff.mpr fun looks => x.plain_lacks (c := 's') (by decide) ?_
  have head := beq_iff_eq.mp (Bool.and_eq_true_iff.mp looks).1
  exact mem_of_mem_words listed (List.mem_of_head? head)

theorem duration {s : String} {d : Duration} (read : Duration.parse s = .ok d) :
    Familiar seen s := by
  refine of_words (Duration.text_lacks read (by decide) (by decide))
    (Duration.text_lacks read (by decide) (by decide)) fun w listed => ?_
  refine Bool.eq_false_iff.mpr fun looks =>
    Duration.text_lacks read (c := '_') (by decide) (by decide) ?_
  have mark := beq_iff_eq.mp (Bool.and_eq_true_iff.mp looks).2
  exact mem_of_mem_words listed (List.mem_of_getElem? mark)

theorem recorded {s : String} (metric : ∀ c ∈ s.toList, isMetricChar c = true)
    (listed : s ∈ seen) : Familiar seen s := by
  refine ⟨fun present => absurd (metric _ present) (by decide), fun w said _ => ?_⟩
  rw [words_metric metric, List.mem_singleton] at said
  rwa [said, String.ofList_toList]

theorem later {s record : String} (familiar : Familiar seen s) : Familiar (record :: seen) s :=
  ⟨familiar.quoteless, fun w listed recordable =>
    List.mem_cons_of_mem _ (familiar.known w listed recordable)⟩

theorem covers : Covers Familiar where
  constant := by
    simp only [vocabulary, List.forall_mem_cons, List.not_mem_nil, IsEmpty.forall_iff, implies_true,
      and_true]
    and_intros <;> exact fun _ => .constant _ rfl rfl rfl
  numeral x _ := .numeral x
  recorded := .recorded
  later := .later

theorem metric {s : String} (word : MetricWord s) : Familiar seen s := by
  refine of_words (word.lacks (by decide)) (word.lacks (by decide)) fun w listed => ?_
  rw [words_metric word.metric, List.mem_singleton] at listed
  obtain ⟨c, head, other⟩ := word.start
  simp [looksCommon, listed, head, other]

end Familiar

def bareLabel (label : String) : String :=
  String.ofList (Text.withoutFinalNewline label.toList)

theorem bareLabel_nonempty {label : String} (valid : isLabelName label = true) :
    bareLabel label ≠ "" := by
  intro empty
  have nothing : Text.withoutFinalNewline label.toList = [] := by
    simpa [bareLabel] using congrArg String.toList empty
  simp [isLabelName, nothing, isLabelChars] at valid

theorem bareLabel_letters {label : String} (valid : isLabelName label = true) :
    ∀ c ∈ (bareLabel label).toList, isLabelChar c = true := by
  intro c member
  rw [bareLabel, String.toList_ofList] at member
  exact isLabelChars_forall valid member

theorem label_words {label : String} (valid : isLabelName label = true) :
    words label.toList = [(bareLabel label).toList] ∨
      words label.toList = [(bareLabel label).toList, []] := by
  have bare : words (Text.withoutFinalNewline label.toList) = [(bareLabel label).toList] := by
    rw [bareLabel, String.toList_ofList]
    exact words_metric fun c member => labelChar_metric (isLabelChars_forall valid member)
  rcases finalNewline_cases label.toList with same | fed
  · rw [← same] at bare
    exact .inl bare
  · rw [fed, words_append _ [] (by decide), bare]
    exact .inr rfl

theorem Familiar.label {seen : List String} {label : String} (valid : isLabelName label = true)
    (apart : bareLabel label ∉ commonRecords) : Familiar seen label := by
  have chars : ∀ c ∈ label.toList, c ≠ '"' := by
    rintro c present rfl
    rcases label_chars valid present with letter | feed
    · exact absurd letter (by decide)
    · exact absurd feed (by decide)
  refine ⟨fun present => chars _ present rfl, fun w listed recordable => ?_⟩
  have kinds : w = (bareLabel label).toList ∨ w = [] := by
    rcases label_words valid with alone | fed
    · exact .inl (List.mem_singleton.mp (alone ▸ listed))
    · rw [fed] at listed
      exact (List.mem_cons.mp listed).imp id List.mem_singleton.mp
  rcases kinds with rfl | rfl <;> rcases recordable with own | common
  · exact absurd (bareLabel_letters valid _ own) (by decide)
  · rw [String.ofList_toList] at common
    exact absurd common apart
  · cases own
  · exact absurd common (by decide)

namespace Expr

variable {seen : List String}

theorem familiar_keywords : Keywords fun w => Recordable w → String.ofList w ∈ seen where
  empty recordable := recordable.elim (fun own => by cases own)
    fun common => absurd common (by decide)
  by' := (Familiar.constant "by" rfl rfl rfl).known
  quantile := (Familiar.constant "histogram_quantile" rfl rfl rfl).known

theorem familiar_used {e : Expr} (familiar : e.Each (Familiar seen)) {name : String}
    (metric : ∀ c ∈ name.toList, isMetricChar c = true) (recordable : Recordable name.toList)
    {names : List String} (used : name ∈ referencedNames e.render names) : name ∈ seen := by
  have nonempty : name ≠ "" := by
    rintro rfl
    exact recordable.elim (fun own => by cases own) fun common => absurd common (by decide)
  have found := says_used familiar_keywords (fun s member => (familiar s member).quoteless)
    (fun s member => (familiar s member).known) nonempty metric used recordable
  rwa [String.ofList_toList] at found

def Shows (cs : List Char) (c : Clause) : Prop :=
  ∃ before m after, cs = before ++ m :: (c.hollow.render.toList ++ after) ∧ isMetricChar m = false

theorem Shows.inside {cs : List Char} {c : Clause} (shown : Shows cs c) (before after : List Char) :
    Shows (before ++ (cs ++ after)) c := by
  obtain ⟨start, m, rest, rfl, mark⟩ := shown
  exact ⟨before ++ start, m, rest ++ after, by simp, mark⟩

theorem shows_clauses {clauses : List Clause} {c : Clause} (member : c ∈ clauses) {m : Char}
    (mark : isMetricChar m = false) : Shows
      (m :: [',', ' '].intercalate (clauses.map fun c => c.hollow.render.toList)) c := by
  induction clauses generalizing m with
  | nil => cases member
  | cons d clauses ih =>
    cases clauses with
    | nil =>
      rw [List.mem_singleton.mp member]
      exact ⟨[], m, [], by simp, mark⟩
    | cons f clauses =>
      rw [List.map_cons, List.map_cons, List.intercalate_cons_cons]
      rcases List.mem_cons.mp member with rfl | later
      · refine ⟨[], m, [',', ' '] ++ [',', ' '].intercalate
          ((f :: clauses).map fun c => c.hollow.render.toList), ?_, mark⟩
        simp
      · have rest := (ih later (m := ' ') (by decide)).inside (m :: (d.hollow.render.toList ++ [','])) []
        simpa using rest

theorem shows_render {e : Expr} {c : Clause} (member : c ∈ e.clauses) :
    Shows e.hollow.render.toList c := by
  induction e with
  | text s => cases member
  | series target selectors =>
    have shown := shows_clauses member (m := '\x7b') (by decide)
    have nonempty : (selectors ++ target.clauses).isEmpty = false :=
      List.isEmpty_eq_false_iff.mpr (List.ne_nil_of_mem member)
    have whole := shown.inside target.name.toList ['\x7d']
    simp only [hollow, render_series, TargetMetric.series, renderSeries_toList, ← List.map_append,
      List.isEmpty_map, nonempty, List.map_map, Function.comp_def]
    simpa [clauses, -List.map_append] using whole
  | window e span ih =>
    simpa [hollow] using (ih member).inside [] ('[' :: (span.toList ++ [']']))
  | call function argument ih =>
    simpa [hollow] using (ih member).inside (function.toList ++ ['(']) [')']
  | quantile q buckets ih =>
    simpa [hollow] using (ih member).inside
      ("histogram_quantile(".toList ++ (q.toList ++ [',', ' '])) [')']
  | aggregateBy operation label e ih =>
    simpa [hollow] using (ih member).inside
      (operation.toList ++ (" by (".toList ++ (label.toList ++ [')', ' ', '(']))) [')']
  | binary operation left right before after =>
    rcases List.mem_append.mp member with first | second
    · simpa [hollow] using (before first).inside []
        (' ' :: (operation.toList ++ ' ' :: right.hollow.render.toList))
    · simpa [hollow] using (after second).inside
        (left.hollow.render.toList ++ ' ' :: (operation.toList ++ [' '])) []
  | group e ih => simpa [hollow] using (ih member).inside ['('] [')']

theorem words_hollow (c : Clause) (after : List Char) {w : List Char}
    (listed : w ∈ words c.label.toList) : w ∈ words (c.hollow.render.toList ++ after) := by
  obtain ⟨mark, rest, text, other⟩ : ∃ mark rest, c.operator.text.toList = mark :: rest ∧
      isMetricChar mark = false := by
    cases c.operator <;> exact ⟨_, _, rfl, by decide⟩
  rw [Clause.hollow_toList, text, List.append_assoc, List.cons_append, List.cons_append,
    words_append _ _ other]
  exact List.mem_append_left _ listed

-- An expression uses the labels of its clauses, as if they were metrics.
theorem label_used {e : Expr} (quoteless : e.Each ('"' ∉ ·.toList)) {c : Clause}
    (member : c ∈ e.clauses) {names : List String} (listed : bareLabel c.label ∈ names) :
    bareLabel c.label ∈ referencedNames e.render names := by
  have nonempty := bareLabel_nonempty c.label_valid
  have metric : ∀ d ∈ (bareLabel c.label).toList, isMetricChar d = true := fun d present =>
    labelChar_metric (bareLabel_letters c.label_valid d present)
  refine (mem_referencedNames nonempty metric).mpr ⟨listed, ?_⟩
  have unquoted := unquoted_render quoteless []
  rw [List.append_nil, unquoted_nil, List.append_nil] at unquoted
  obtain ⟨before, m, after, shape, mark⟩ := shows_render member
  rw [unquoted, shape, words_append _ _ mark]
  refine List.mem_append_right _ (words_hollow c after ?_)
  rcases label_words c.label_valid with alone | fed
  · exact alone ▸ List.mem_cons_self
  · exact fed ▸ List.mem_cons_self

end Expr

end SloCompiler
