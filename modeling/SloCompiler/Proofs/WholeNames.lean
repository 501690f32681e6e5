import SloCompiler.Proofs.BlockCheck
import SloCompiler.Proofs.ForwardReferences
import SloCompiler.Proofs.SelectorRoundTrip

namespace SloCompiler

def IsLetter (c : Char) : Prop := 'a' ≤ c ∧ c ≤ 'z' ∨ 'A' ≤ c ∧ c ≤ 'Z'
  deriving Decidable

def IsFigure (c : Char) : Prop := '0' ≤ c ∧ c ≤ '9'
  deriving Decidable

-- Characters that are a name from the first to the last: letters, figures and marks, with no figure
-- in front.
def WholeChars (marks cs : List Char) : Prop :=
  ∃ c rest, cs = c :: rest ∧ (IsLetter c ∨ c ∈ marks) ∧
    ∀ d ∈ rest, IsLetter d ∨ IsFigure d ∨ d ∈ marks

def WholeName (marks : List Char) (s : String) : Prop := WholeChars marks s.toList

def FedName (marks : List Char) (s : String) : Prop :=
  WholeName marks s ∨ ∃ name, WholeName marks name ∧ s = name ++ "\n"

def labelMarks : List Char := ['_']

def metricMarks : List Char := ['_', ':']

theorem isUpper_iff {c : Char} : c.isUpper = true ↔ 'A' ≤ c ∧ c ≤ 'Z' := decide_eq_true_iff

theorem isLower_iff {c : Char} : c.isLower = true ↔ 'a' ≤ c ∧ c ≤ 'z' := by
  change (decide ('a' ≤ c) && decide (c ≤ 'z')) = true ↔ _
  rw [Bool.and_eq_true, decide_eq_true_iff, decide_eq_true_iff]

theorem isFigure_iff {c : Char} : c.isDigit = true ↔ IsFigure c := by
  change (decide ('0' ≤ c) && decide (c ≤ '9')) = true ↔ _
  rw [Bool.and_eq_true, decide_eq_true_iff, decide_eq_true_iff, IsFigure]

theorem isLetter_iff {c : Char} : c.isAlpha = true ↔ IsLetter c := by
  change (c.isUpper || c.isLower) = true ↔ _
  rw [Bool.or_eq_true, isUpper_iff, isLower_iff]
  exact or_comm

theorem isLabelChars_iff {cs : List Char} : isLabelChars cs = true ↔ WholeChars labelMarks cs := by
  cases cs with
  | nil => simp [isLabelChars, WholeChars]
  | cons c rest =>
    simp only [isLabelChars, isLabelStart, isLabelChar, Char.isAlphanum, Bool.and_eq_true,
      Bool.or_eq_true, List.all_eq_true, isLetter_iff, isFigure_iff, beq_iff_eq]
    simp [WholeChars, labelMarks, or_assoc]

theorem isMetricChars_iff {cs : List Char} :
    isMetricChars cs = true ↔ WholeChars metricMarks cs := by
  cases cs with
  | nil => simp [isMetricChars, WholeChars]
  | cons c rest =>
    simp only [isMetricChars, isMetricStart, isMetricChar, Char.isAlphanum, Bool.and_eq_true,
      Bool.or_eq_true, List.all_eq_true, isLetter_iff, isFigure_iff, beq_iff_eq]
    simp [WholeChars, metricMarks, or_assoc]

theorem WholeChars.unfed {marks cs : List Char} (plain : '\n' ∉ marks)
    (whole : WholeChars marks cs) : cs.getLast? ≠ some '\n' := by
  obtain ⟨c, rest, rfl, start, others⟩ := whole
  intro last
  have noLetter : ¬IsLetter '\n' := by decide
  have noFigure : ¬IsFigure '\n' := by decide
  rcases List.mem_cons.mp (List.mem_of_getLast? last) with rfl | later
  · exact start.elim noLetter plain
  · exact (others _ later).elim noLetter fun other => other.elim noFigure plain

-- To look at a text without the line feed that may end it is to let a line feed follow the name.
theorem fedName_iff {marks : List Char} (plain : '\n' ∉ marks) {s : String} :
    FedName marks s ↔ WholeChars marks (Text.withoutFinalNewline s.toList) := by
  constructor
  · rintro (whole | ⟨name, whole, rfl⟩)
    · rwa [(Text.withoutFinalNewline_iff (whole.unfed plain)).mpr (.inl rfl)]
    · rwa [(Text.withoutFinalNewline_iff (whole.unfed plain)).mpr (.inr String.toList_append)]
  · intro whole
    rcases finalNewline_cases s.toList with bare | fed
    · exact .inl (by rwa [WholeName, bare])
    · refine .inr ⟨String.ofList (Text.withoutFinalNewline s.toList), ?_, ?_⟩
      · rwa [WholeName, String.toList_ofList]
      · refine String.toList_injective ?_
        rw [String.toList_append, String.toList_ofList]
        exact fed

theorem isLabelName_iff {s : String} : isLabelName s = true ↔ FedName labelMarks s := by
  rw [isLabelName, isLabelChars_iff, fedName_iff (by decide)]

theorem isMetricName_iff {s : String} : isMetricName s = true ↔ FedName metricMarks s := by
  rw [isMetricName, isMetricChars_iff, fedName_iff (by decide)]

theorem Clause.make_exists {label operator pattern : String} :
    (∃ c, make label operator pattern = .ok c ∧ c.label = label) ↔
      FedName labelMarks label ∧ (MatchOperator.ofText? operator).isSome := by
  rw [← isLabelName_iff, make]
  split
  · next valid =>
    cases MatchOperator.ofText? operator with
    | none => simp
    | some op => simp [valid]
  · next other => simp [other]

namespace Sample

def labelling (label : String) : Value :=
  .object [
    ("title", .str "T"), ("metricType", .str "up"), ("metricTarget", .int 1),
    ("selectors", .object [(label, .str "api")]), ("sloTarget", .int 99)]

theorem labelling_read (label : String) (valid : isLabelName label = true) :
    ∃ spec, SliSpec.read (labelling label) .null .null = .ok spec ∧
      spec.selectors = [(label, "api")] := by
  obtain ⟨spec, read⟩ : ∃ spec, SliSpec.read (labelling "job") .null .null = .ok spec :=
    isOk_iff.mp (by decide +kernel)
  have table : SliSpec.selectorTable (.object [(label, .str "api")]) = .ok [(label, "api")] := by
    have listed : Schema.texts (.object [(label, .str "api")]) = .ok [(label, "api")] := rfl
    rw [SliSpec.selectorTable, listed]
    simp [Except.bind, valid]
  have selectors : SliSpec.selectorsName.withDefault [] SliSpec.selectorTable (labelling label) =
      .ok [(label, "api")] := by
    change Schema.within "selectors" (SliSpec.selectorTable _) = _
    rw [table]
    rfl
  have accepts : SliSpec.Accepts (labelling label) { spec with selectors := [(label, "api")] } :=
    { SliSpec.read_accepts read with selectors }
  exact ⟨_, accepts.read _ _, rfl⟩

end Sample

theorem SliSpec.label_accepted_iff {label : String} :
    (∃ raw product sliId spec value, read raw product sliId = .ok spec ∧
      (label, value) ∈ spec.selectors) ↔ FedName labelMarks label := by
  rw [← isLabelName_iff]
  constructor
  · rintro ⟨raw, product, sliId, spec, value, accepted, listed⟩
    exact (read_accepts accepted).labels_valid _ listed
  · intro valid
    obtain ⟨spec, accepted, selectors⟩ := Sample.labelling_read label valid
    exact ⟨_, _, _, spec, "api", accepted, by simp [selectors]⟩

theorem Template.fillWith_plain {expand : List Char → Except Fault (List Char)} {template : String}
    {values : Values} {cs : List Char} (plain : ∀ c ∈ cs, c ≠ '\x7b' ∧ c ≠ '\x7d') :
    fillWith expand template values cs.length [] cs = .ok cs := by
  have run : fillWith expand template values cs.length [] (cs ++ []) = _ :=
    fillWith_text plain [] (le_refl cs.length) []
  rwa [List.append_nil, fillWith_end, List.append_nil, List.reverse_reverse] at run

theorem metricName_self {name : String} (valid : isMetricName name = true) :
    metricName name [] = .ok name := by
  have plain : ∀ c ∈ name.toList, c ≠ '\x7b' ∧ c ≠ '\x7d' := by
    intro c present
    rcases metricName_chars valid present with letter | feed
    · exact ⟨by rintro rfl; revert letter; decide, by rintro rfl; revert letter; decide⟩
    · exact feed ▸ by decide
  have filled : Template.fill name [] = .ok name := by
    unfold Template.fill
    dsimp only
    rw [Template.fillWith_plain plain, Except.map, String.ofList_toList]
  unfold metricName
  rw [List.map_nil, filled]
  simp [Ordered.get?, valid, bind, Except.bind]

theorem metricName_exists {name : String} :
    (∃ template values, metricName template values = .ok name) ↔ FedName metricMarks name := by
  rw [← isMetricName_iff]
  constructor
  · rintro ⟨template, values, made⟩
    unfold metricName at made
    split at made
    · cases made
    · obtain ⟨filled, _, made⟩ := bind_ok.mp made
      split at made
      · next valid =>
        cases made
        exact valid
      · cases made
  · exact fun valid => ⟨name, [], metricName_self valid⟩

namespace Check

def invalidName (record : String) : String := "Invalid record name: " ++ Text.quoted record

theorem message_invalidName {d : RuleDefect} {name : String} (same : d.message = invalidName name) :
    ∃ other, d = .recordName other := by
  have first : initial d = 'I' := initial_of_message (same ▸ head_append rfl _)
  cases d with
  | recordName other => exact ⟨other, rfl⟩
  | _ => simp [initial] at first

theorem recordName_mem {defined seen : List String} {r : RecordingRule} {name : String} :
    .recordName name ∈ ruleDefects defined seen r ↔
      name = r.record ∧ isMetricName name = false := by
  have own : .recordName name ∉ expressionDefects r.expr := fun found => by
    simpa using expressionDefects_kinds found
  unfold ruleDefects
  simp only [List.mem_append, own, or_false, List.mem_map, reduceCtorEq, and_false, exists_false]
  cases valid : isMetricName r.record with
  | true =>
    simp only [if_true, List.not_mem_nil, false_iff, not_and]
    rintro rfl
    simp [valid]
  | false =>
    simp only [Bool.false_eq_true, if_false, List.mem_singleton, RuleDefect.recordName.injEq]
    exact (and_iff_left_of_imp fun same => same ▸ valid).symm

def Nameless (rules : List RecordingRule) (record : String) : Prop :=
  ∃ f ∈ recordingRules rules, f.rule = record ∧ f.defect.message = invalidName record

theorem nameless_iff {rules : List RecordingRule} {record : String} :
    Nameless rules record ↔ record ∈ rules.map (·.record) ∧ ¬FedName metricMarks record := by
  rw [← isMetricName_iff, Bool.not_eq_true]
  constructor
  · rintro ⟨f, found, rfl, same⟩
    rw [recordingRules_reports] at found
    obtain ⟨i, _, found⟩ := List.mem_flatMap.mp found
    unfold report reportFrom at found
    split at found
    · next r here =>
      obtain ⟨d, defect, rfl⟩ := List.mem_map.mp found
      obtain ⟨name, rfl⟩ := message_invalidName same
      obtain ⟨rfl, unnamed⟩ := recordName_mem.mp defect
      exact ⟨List.mem_map_of_mem (List.mem_of_getElem? here), unnamed⟩
    · cases found
  · rintro ⟨listed, unnamed⟩
    obtain ⟨r, member, rfl⟩ := List.mem_map.mp listed
    obtain ⟨i, inside, here⟩ := List.mem_iff_getElem.mp member
    refine ⟨⟨r.record, .recordName r.record⟩, ?_, rfl, rfl⟩
    rw [recordingRules_reports]
    refine List.mem_flatMap.mpr ⟨i, List.mem_range.mpr inside, ?_⟩
    unfold report reportFrom
    rw [List.getElem?_eq_getElem inside, here]
    exact List.mem_map_of_mem (recordName_mem.mpr ⟨rfl, unnamed⟩)

end Check

-- What passes for a name, for clauses, in specs, from templates and of records, is a name from end
-- to end or such a name with a line feed behind it.
theorem accepted_names (s : String) :
    (∀ operator pattern, (∃ c, Clause.make s operator pattern = .ok c ∧ c.label = s) ↔
        FedName labelMarks s ∧ (MatchOperator.ofText? operator).isSome) ∧
      ((∃ raw product sliId spec value, SliSpec.read raw product sliId = .ok spec ∧
        (s, value) ∈ spec.selectors) ↔ FedName labelMarks s) ∧
      ((∃ template values, metricName template values = .ok s) ↔ FedName metricMarks s) ∧
      ∀ rules, Check.Nameless rules s ↔
        s ∈ rules.map (·.record) ∧ ¬FedName metricMarks s :=
  ⟨fun _ _ => Clause.make_exists, SliSpec.label_accepted_iff, metricName_exists,
    fun _ => Check.nameless_iff⟩

theorem fed_names_accepted :
    (∃ c, Clause.make "job\n" "=" "a" = .ok c ∧ c.label = "job\n") ∧
      (∃ spec, SliSpec.read (Sample.labelling "job\n") .null .null = .ok spec ∧
        ("job\n", "api") ∈ spec.selectors) ∧
      metricName "up\n" [] = .ok "up\n" ∧
      Check.recordingRules [⟨"up\n", "vector(1)", []⟩] = [] ∧
      ¬WholeName labelMarks "job\n" ∧ ¬WholeName metricMarks "up\n" := by
  obtain ⟨spec, accepted, selectors⟩ := Sample.labelling_read "job\n" (by decide)
  exact ⟨⟨_, rfl, rfl⟩, ⟨spec, accepted, by simp [selectors]⟩, metricName_self (by decide),
    by decide +kernel, fun whole => absurd (isLabelChars_iff.mpr whole) (by decide),
    fun whole => absurd (isMetricChars_iff.mpr whole) (by decide)⟩

end SloCompiler
