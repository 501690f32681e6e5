import SloCompiler.Proofs.RuleChecks
import SloCompiler.Proofs.Words

namespace SloCompiler.Check

def Uses (expr name : String) : Prop := name ∈ referencedNames expr [name]

theorem mem_referencedNames_iff {expr name : String} {names : List String} :
    name ∈ referencedNames expr names ↔ name ∈ names ∧ Uses expr name := by
  simp only [Uses, referencedNames, mem_sortTexts, List.mem_filter, List.mem_singleton, true_and]

def reportFrom (defined seen : List String) (rules : List RecordingRule) (i : Nat) :
    List RuleFinding :=
  match rules[i]? with
  | some r =>
    findings r.record (ruleDefects defined (((rules.take i).map (·.record)).reverse ++ seen) r)
  | none => []

theorem rulesFrom_reports (defined seen : List String) (rules : List RecordingRule) :
    rulesFrom defined seen rules =
      (List.range rules.length).flatMap (reportFrom defined seen rules) := by
  induction rules generalizing seen with
  | nil => rfl
  | cons r rules ih =>
    have later : (fun i => reportFrom defined seen (r :: rules) (i + 1)) =
        reportFrom defined (r.record :: seen) rules := by
      funext i
      simp [reportFrom]
    rw [List.length_cons, List.range_succ_eq_map, List.flatMap_cons, List.flatMap_map, later,
      rulesFrom, ih]
    rfl

def report (rules : List RecordingRule) (i : Nat) : List RuleFinding :=
  reportFrom (rules.map (·.record)).eraseDups [] rules i

theorem recordingRules_reports (rules : List RecordingRule) :
    recordingRules rules = (List.range rules.length).flatMap (report rules) :=
  rulesFrom_reports _ _ _

theorem report_rule {rules : List RecordingRule} {i : Nat} {f : RuleFinding}
    (found : f ∈ report rules i) : rules[i]?.map (·.record) = some f.rule := by
  unfold report reportFrom at found
  split at found
  · next r here =>
    obtain ⟨d, _, rfl⟩ := List.mem_map.mp found
    rw [here]
    rfl
  · cases found

def forwardReference (name : String) : String := "References '" ++ name ++ "' before it is defined"

def initial : RuleDefect → Char
  | .emptyExpression | .danglingOperator | .emptyAggregation => 'E'
  | .unbalanced => 'U'
  | .recordName _ => 'I'
  | .notYetDefined _ => 'R'
  | .duplicateSeries _ _ | .duplicateAlert _ => 'D'
  | .noRecordedSeries => 'A'

theorem head_append {s : String} {c : Char} (first : s.toList.head? = some c) (t : String) :
    (s ++ t).toList.head? = some c := by
  rw [String.toList_append, List.head?_append, first]
  rfl

theorem message_initial (d : RuleDefect) : d.message.toList.head? = some (initial d) := by
  cases d with
  | emptyExpression => rfl
  | unbalanced => rfl
  | danglingOperator => rfl
  | emptyAggregation => rfl
  | recordName name => exact head_append rfl _
  | notYetDefined name => exact head_append (head_append rfl _) _
  | duplicateSeries record labels => exact head_append (head_append (head_append rfl _) _) _
  | duplicateAlert name => exact head_append (head_append rfl _) _
  | noRecordedSeries => rfl

theorem initial_of_message {d : RuleDefect} {c : Char} (first : d.message.toList.head? = some c) :
    initial d = c :=
  Option.some.inj ((message_initial d).symm.trans first)

-- No other message reads like that of a name that is not yet defined.
theorem message_forwardReference {d : RuleDefect} {name : String} :
    d.message = forwardReference name ↔ d = .notYetDefined name := by
  constructor
  · intro same
    have first : initial d = 'R' := initial_of_message (same ▸ head_append (head_append rfl _) _)
    cases d with
    | notYetDefined other =>
      have inner := (String.append_left_inj _).mp same
      rw [(String.append_right_inj _).mp inner]
    | _ => simp [initial] at first
  · rintro rfl
    rfl

def Reported (rules : List RecordingRule) (i : Nat) (name : String) : Prop :=
  ∃ f ∈ report rules i, f.defect.message = forwardReference name

-- A name that the rules define, but none before the rule at a place, which uses it.
def Premature (rules : List RecordingRule) (i : Nat) (name : String) : Prop :=
  name ∈ rules.map (·.record) ∧
    ∃ r, rules[i]? = some r ∧ Uses r.expr name ∧ ∀ earlier ∈ rules.take i, earlier.record ≠ name

theorem expressionDefects_kinds {expr : String} {d : RuleDefect}
    (found : d ∈ expressionDefects expr) :
    d ∈ [.emptyExpression, .unbalanced, .danglingOperator, .emptyAggregation] := by
  unfold expressionDefects at found
  dsimp only at found
  split at found
  · exact List.mem_cons.mpr (.inl (List.mem_singleton.mp found))
  · simp only [List.mem_append, List.mem_ite_nil_left, List.mem_ite_nil_right,
      List.mem_singleton] at found
    rcases found with (⟨_, rfl⟩ | ⟨_, rfl⟩) | ⟨_, rfl⟩ <;> simp

theorem notYetDefined_mem {defined seen : List String} {r : RecordingRule} {name : String} :
    .notYetDefined name ∈ ruleDefects defined seen r ↔
      (name ∈ defined ∧ Uses r.expr name) ∧ name ∉ seen := by
  have formed : .notYetDefined name ∉
      (if isMetricName r.record then [] else [RuleDefect.recordName r.record]) := by
    split <;> simp
  have own : .notYetDefined name ∉ expressionDefects r.expr := fun found => by
    simpa using expressionDefects_kinds found
  simp [ruleDefects, formed, own, mem_referencedNames_iff]

theorem findings_defect {rule : String} {defects : List RuleDefect} {d : RuleDefect} :
    (∃ f ∈ findings rule defects, f.defect = d) ↔ d ∈ defects := by
  simp [findings]

theorem reported_iff {rules : List RecordingRule} {i : Nat} {name : String} :
    Reported rules i name ↔ Premature rules i name := by
  unfold Reported Premature report reportFrom
  simp only [message_forwardReference]
  cases rules[i]? with
  | none => simp
  | some r =>
    rw [findings_defect, notYetDefined_mem]
    simp [and_assoc, -List.map_take]

def Orderly (rules : List RecordingRule) : Prop := ∀ i name, ¬Reported rules i name

theorem orderly_iff {rules : List RecordingRule} :
    Orderly rules ↔ ∀ i r, rules[i]? = some r → ∀ name ∈ rules.map (·.record), Uses r.expr name →
      ∃ earlier ∈ rules.take i, earlier.record = name := by
  simp only [Orderly, reported_iff, Premature]
  constructor
  · intro orderly i r here name defined used
    by_contra none
    exact orderly i name
      ⟨defined, r, here, used, fun earlier member same => none ⟨earlier, member, same⟩⟩
  · rintro given i name ⟨defined, r, here, used, fresh⟩
    obtain ⟨earlier, member, same⟩ := given i r here name defined used
    exact fresh earlier member same

theorem Orderly.first_unused {rules : List RecordingRule} (orderly : Orderly rules) {i : Nat}
    {r : RecordingRule} (here : rules[i]? = some r)
    (first : ∀ earlier ∈ rules.take i, earlier.record ≠ r.record) : ¬Uses r.expr r.record := by
  intro used
  have defined : r.record ∈ rules.map (·.record) := List.mem_map_of_mem (List.mem_of_getElem? here)
  obtain ⟨earlier, member, same⟩ := orderly_iff.mp orderly i r here r.record defined used
  exact first earlier member same

theorem Orderly.of_prefix {first rules : List RecordingRule} (orderly : Orderly rules)
    (part : first <+: rules) : Orderly first := by
  obtain ⟨more, rfl⟩ := part
  refine orderly_iff.mpr fun i r here name defined used => ?_
  have bound : i < first.length := (List.getElem?_eq_some_iff.mp here).1
  have whole : (first ++ more)[i]? = some r := by rw [List.getElem?_append_left bound, here]
  have listed : name ∈ (first ++ more).map (·.record) := by
    rw [List.map_append]
    exact List.mem_append_left _ defined
  obtain ⟨earlier, member, same⟩ := orderly_iff.mp orderly i r whole name listed used
  rw [List.take_append_of_le_length (Nat.le_of_lt bound)] at member
  exact ⟨earlier, member, same⟩

theorem report_nil {rules : List RecordingRule} {i : Nat} :
    report rules i = [] ↔ ∀ r, rules[i]? = some r →
      isMetricName r.record = true ∧ expressionDefects r.expr = [] ∧
        ∀ name ∈ rules.map (·.record), Uses r.expr name →
          ∃ earlier ∈ rules.take i, earlier.record = name := by
  unfold report reportFrom
  cases rules[i]? with
  | none => simp
  | some r =>
    rw [findings_nil, ruleDefects_nil]
    simp [mem_referencedNames_iff, -List.map_take]

theorem accepted_iff {rules : List RecordingRule} :
    recordingRules rules = [] ↔ Orderly rules ∧
      ∀ r ∈ rules, isMetricName r.record = true ∧ expressionDefects r.expr = [] := by
  have within {i : Nat} {r : RecordingRule} (here : rules[i]? = some r) : i < rules.length :=
    (List.getElem?_eq_some_iff.mp here).1
  simp only [recordingRules_reports, List.flatMap_eq_nil_iff, List.mem_range, report_nil,
    orderly_iff]
  constructor
  · intro accepted
    refine ⟨fun i r here => (accepted i (within here) r here).2.2, fun r member => ?_⟩
    obtain ⟨i, here⟩ := List.getElem?_of_mem member
    have own := accepted i (within here) r here
    exact ⟨own.1, own.2.1⟩
  · rintro ⟨orderly, formed⟩ i _ r here
    have own := formed r (List.mem_of_getElem? here)
    exact ⟨own.1, own.2, orderly i r here⟩

theorem accepted_prefix {first rules : List RecordingRule} (accepted : recordingRules rules = [])
    (part : first <+: rules) : recordingRules first = [] := by
  obtain ⟨orderly, formed⟩ := accepted_iff.mp accepted
  exact accepted_iff.mpr ⟨orderly.of_prefix part, fun r member => formed r (part.subset member)⟩

section Evaluation

variable {α : Type}

def recordedAs (results : List (String × α)) (name : String) : List α :=
  (results.filter (·.1 == name)).map (·.2)

-- The rule is evaluated from what has been recorded under the names that it uses. It cannot be
-- while there is nothing under one of them.
def evaluateNext? (meaning : String → List (String × List α) → α) (defined : List String)
    (results : List (String × α)) (r : RecordingRule) : Option (List (String × α)) :=
  let used := referencedNames r.expr defined
  if used.all (results.map (·.1)).contains then
    some (results ++
      [(r.record, meaning r.expr (used.map fun name => (name, recordedAs results name)))])
  else none

def evaluateInOrder? (meaning : String → List (String × List α) → α)
    (rules : List RecordingRule) : Option (List (String × α)) :=
  rules.foldlM (evaluateNext? meaning (rules.map (·.record)).eraseDups) []

variable {meaning : String → List (String × List α) → α} {defined : List String}

theorem evaluateNext?_some {results : List (String × α)} {r : RecordingRule} :
    (∃ more, evaluateNext? meaning defined results r = some more) ↔
      ∀ name ∈ referencedNames r.expr defined, name ∈ results.map (·.1) := by
  simp [evaluateNext?]

theorem evaluateNext?_records {results more : List (String × α)} {r : RecordingRule}
    (next : evaluateNext? meaning defined results r = some more) :
    more.map (·.1) = results.map (·.1) ++ [r.record] := by
  unfold evaluateNext? at next
  dsimp only at next
  split at next
  · cases next
    simp
  · cases next

theorem foldlM_evaluateNext? {rules : List RecordingRule} {results : List (String × α)} :
    (∃ final, rules.foldlM (evaluateNext? meaning defined) results = some final) ↔
      ∀ i r, rules[i]? = some r → ∀ name ∈ referencedNames r.expr defined,
        name ∈ results.map (·.1) ++ (rules.take i).map (·.record) := by
  induction rules generalizing results with
  | nil => simp [pure]
  | cons r rules ih =>
    have step : (∃ final, (r :: rules).foldlM (evaluateNext? meaning defined) results =
          some final) ↔
        ∃ more, evaluateNext? meaning defined results r = some more ∧
          ∃ final, rules.foldlM (evaluateNext? meaning defined) more = some final := by
      simp only [List.foldlM_cons, Option.bind_eq_bind, Option.bind_eq_some_iff]
      exact ⟨fun ⟨final, more, next, rest⟩ => ⟨more, next, final, rest⟩,
        fun ⟨more, next, final, rest⟩ => ⟨final, more, next, rest⟩⟩
    rw [step]
    constructor
    · rintro ⟨more, next, rest⟩ i s here name used
      cases i with
      | zero =>
        cases here
        exact List.mem_append_left _ (evaluateNext?_some.mp ⟨more, next⟩ name used)
      | succ i =>
        have found := ih.mp rest i s here name used
        rwa [evaluateNext?_records next, List.append_assoc] at found
    · intro given
      have first : ∃ more, evaluateNext? meaning defined results r = some more :=
        evaluateNext?_some.mpr fun name used => by simpa using given 0 r rfl name used
      obtain ⟨more, next⟩ := first
      refine ⟨more, next, ih.mpr fun i s here name used => ?_⟩
      rw [evaluateNext?_records next, List.append_assoc]
      exact given (i + 1) s here name used

theorem orderly_iff_evaluates (meaning : String → List (String × List α) → α)
    (rules : List RecordingRule) :
    Orderly rules ↔ ∃ results, evaluateInOrder? meaning rules = some results := by
  rw [evaluateInOrder?, foldlM_evaluateNext?, orderly_iff]
  simp only [mem_referencedNames_iff, List.mem_eraseDups, List.map_nil, List.nil_append]
  constructor
  · intro given i r here name used
    obtain ⟨earlier, member, rfl⟩ := given i r here name used.1 used.2
    exact List.mem_map_of_mem member
  · intro given i r here name defined used
    obtain ⟨earlier, member, same⟩ := List.mem_map.mp (given i r here name ⟨defined, used⟩)
    exact ⟨earlier, member, same⟩

end Evaluation

-- The check of a sequence says of each rule in turn which names it uses that are defined, though by
-- no rule before it. Where it says so of none, each rule can be evaluated from the results of those
-- before it, and the same holds of what a sequence begins with.
theorem references_exact (rules : List RecordingRule) :
    (recordingRules rules = (List.range rules.length).flatMap (report rules) ∧
      ∀ i, ∀ f ∈ report rules i, rules[i]?.map (·.record) = some f.rule) ∧
    (∀ i name, Reported rules i name ↔ Premature rules i name) ∧
    (∀ (α : Type) (meaning : String → List (String × List α) → α),
      Orderly rules ↔ ∃ results, evaluateInOrder? meaning rules = some results) ∧
    (Orderly rules → ∀ i r, rules[i]? = some r →
      (∀ earlier ∈ rules.take i, earlier.record ≠ r.record) → ¬Uses r.expr r.record) ∧
    (recordingRules rules = [] ↔ Orderly rules ∧
      ∀ r ∈ rules, isMetricName r.record = true ∧ expressionDefects r.expr = []) ∧
    ∀ first, first <+: rules →
      (Orderly rules → Orderly first) ∧ (recordingRules rules = [] → recordingRules first = []) :=
  ⟨⟨recordingRules_reports rules, fun _ _ => report_rule⟩, fun _ _ => reported_iff,
    fun _ meaning => orderly_iff_evaluates meaning rules,
    fun orderly _ _ here first => orderly.first_unused here first, accepted_iff,
    fun _ part => ⟨fun orderly => orderly.of_prefix part,
      fun accepted => accepted_prefix accepted part⟩⟩

end SloCompiler.Check
