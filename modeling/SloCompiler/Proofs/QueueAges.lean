import Mathlib.Tactic.NormNum
import SloCompiler.Proofs.BlockCheck
import SloCompiler.Proofs.OwnRecords
import SloCompiler.Proofs.QueryMeaning

namespace SloCompiler

namespace Query

theorem isWord_of_chars {p : Char → Bool} {s : String} (some_letter : s.toList ≠ [])
    (all : ∀ c ∈ s.toList, p c = true)
    (marks : (p '\x7b' || p '(' || p ')' || p ' ') = false) : IsWord s := by
  refine ⟨some_letter, fun c present => ?_⟩
  simp only [Bool.or_eq_false_iff] at marks
  obtain ⟨⟨⟨brace, opening⟩, closing⟩, blank⟩ := marks
  have letter := all c present
  rw [Bool.eq_false_iff]
  intro mark
  simp only [isMark, Bool.or_eq_true, beq_iff_eq] at mark
  rcases mark with ((rfl | rfl) | rfl) | rfl <;> simp_all

theorem isWord_ownRecord (product sliId : String) {operation : String}
    (metric : ∀ c ∈ operation.toList, isMetricChar c = true) :
    IsWord (ownRecord product sliId operation) :=
  isWord_of_chars (List.ne_nil_of_mem (colon_mem_ownRecord product sliId operation))
    (ownRecord_metric product sliId metric) (by decide)

theorem isWord_plain (x : Binary64) : IsWord x.plain := by
  obtain ⟨c, last, _⟩ := Binary64.unsigned_plain x
  exact isWord_of_chars (List.ne_nil_of_mem (List.mem_of_getLast? last))
    (fun _ => Binary64.numeral_of_mem_plain) (by decide)

end Query

theorem ownRecord_ne (product sliId : String) {one two : String} (apart : one ≠ two) :
    ownRecord product sliId one ≠ ownRecord product sliId two := by
  intro same
  have texts := congrArg String.toList same
  rw [ownRecord_scope ⟨product, sliId⟩, ownRecord_scope ⟨product, sliId⟩] at texts
  have tails := List.append_cancel_left texts
  exact apart (String.toList_inj.mp (List.cons.inj tails).2)

theorem metricName_head {name : String} (valid : isMetricName name = true) :
    ∃ c rest, name.toList = c :: rest ∧ isMetricStart c = true := by
  have named : isMetricChars (Text.withoutFinalNewline name.toList) = true := valid
  cases shape : Text.withoutFinalNewline name.toList with
  | nil => simp [shape, isMetricChars] at named
  | cons c rest =>
    rw [shape] at named
    have start := (Bool.and_eq_true_iff.mp named).1
    rcases finalNewline_cases name.toList with bare | fed
    · exact ⟨c, rest, bare.trans shape, start⟩
    · exact ⟨c, rest ++ ['\n'], by rw [fed, shape, List.cons_append], start⟩

namespace Numeral

theorem value?_name {s : String} (valid : isMetricName s = true) : value? s = none := by
  obtain ⟨c, rest, shape, start⟩ := metricName_head valid
  have digitless : ¬c.isDigit = true := Bool.eq_false_iff.mp (start_not_digit start)
  have unread : decimal? (c :: rest) = none := by
    have nowhere : parted (c :: rest) = ([], [], c :: rest) := by
      simp only [parted, List.takeWhile_cons_of_neg digitless, List.dropWhile_cons_of_neg digitless]
      split
      · next more same =>
        cases same
        cases start
      · rfl
    simp [decimal?, nowhere]
  unfold value?
  rw [shape]
  split
  · next more same =>
    cases same
    cases start
  · rw [unread, Option.map_none]

end Numeral

namespace RecordingRule
open Query

variable {data : TargetMetric → List ℚ} {records : List (String × List ℚ)}

theorem evaluate?_of_readAs {e : Expr} {q : Query} {reading : Reading} (reads : e.ReadAs 3 q)
    (gives : eval data records q = some reading) (record : String) (labels : Labels) :
    evaluate? data records ⟨record, e.render, labels⟩ =
      some (records ++ [(record, reading.recorded)]) := by
  rw [evaluate?, reads.ofText?, Option.bind_some, gives, Option.map_some]

theorem evaluate_next {r : RecordingRule} {rules : List RecordingRule}
    {next : List (String × List ℚ)} (gives : evaluate? data records r = some next) :
    (r :: rules).foldlM (evaluate? data) records = rules.foldlM (evaluate? data) next := by
  rw [List.foldlM_cons, gives]
  rfl

end RecordingRule

namespace Indicator
open Query

def breaching (c : Comparison) (target : ℚ) (ages : List ℚ) : ℚ :=
  (ages.filter (c.negate.holds · target)).length

def breachingShare (c : Comparison) (target : ℚ) (ages : List ℚ) : ℚ :=
  if (0 : ℚ) < ages.length then breaching c target ages / ages.length else 0

theorem breaching_eq_zero (c : Comparison) (target : ℚ) (ages : List ℚ) :
    breaching c target ages = 0 ↔ ∀ age ∈ ages, c.holds age target = true := by
  rw [breaching, Nat.cast_eq_zero, List.length_eq_zero_iff, List.filter_eq_nil_iff]
  simp only [Comparison.negate_holds, Bool.not_eq_true, Bool.not_eq_false']

-- No age misses the target exactly if all meet it, as they do where there is none.
theorem breachingShare_eq_zero (c : Comparison) (target : ℚ) (ages : List ℚ) :
    breachingShare c target ages = 0 ↔ ∀ age ∈ ages, c.holds age target = true := by
  rw [← breaching_eq_zero]
  unfold breachingShare
  split
  · next some =>
    rw [div_eq_zero_iff, or_iff_left some.ne']
  · next none =>
    have empty : ages = [] := by
      rw [← List.length_eq_zero_iff]
      by_contra more
      exact none (Nat.cast_pos.mpr (Nat.pos_of_ne_zero more))
    simp [empty, breaching]

variable {age : Expr} {ages : TargetMetric}

def breachingQuery (c : Comparison) (threshold : String) (ages : TargetMetric) : Query :=
  .binary .union (.call "count" (.binary (.compare c.negate false) (.series ages) (.word threshold)))
    Query.zero

def queuesQuery (ages : TargetMetric) : Query :=
  .binary .union (.call "count" (.series ages)) Query.zero

def ratioQuery (breaching total : String) : Query :=
  .binary .union (.binary .divide (.call "sum" (.word breaching))
    (.binary (.compare .gt false) (.call "sum" (.word total)) (.word "0"))) Query.zero

def valueQuery (ratio : String) : Query :=
  .binary (.compare .eq true) (.binary .union (.call "sum" (.word ratio)) Query.zero) (.word "0")

theorem count_readAs {q : Query} (reads : age.ReadAs 3 q) :
    (Expr.orZero (.call "count" age)).ReadAs 0 (.binary .union (.call "count" q) Query.zero) :=
  Expr.orZero_readAs (Expr.call_readAs isWord_count reads).loosen.loosen

theorem sum_readAs {record : String} (word : IsWord record) :
    (Expr.call "sum" (.text record)).ReadAs 0 (.call "sum" (.word record)) :=
  Expr.call_readAs isWord_sum (Expr.text_readAs word).loosen.loosen.loosen

theorem breaching_readAs (c : Comparison) (reads : age.ReadAs 0 (.series ages)) (x : Binary64)
    (number : x.plain ≠ "bool") :
    (Expr.orZero (.call "count" (.binary c.negate.text age (.text x.plain)))).ReadAs 0
      (breachingQuery c x.plain ages) :=
  count_readAs (Expr.comparison_readAs c.negate reads.loosen (isWord_plain x) number).loosen

theorem ratio_readAs {breaching total : String} (one : IsWord breaching) (other : IsWord total) :
    (Expr.safeRatio (.call "sum" (.text breaching)) (.call "sum" (.text total))).ReadAs 0
      (ratioQuery breaching total) :=
  Expr.safeRatio_readAs (sum_readAs one) (sum_readAs other).loosen

theorem value_readAs {ratio : String} (word : IsWord ratio) :
    (Expr.binary "== bool" (Expr.orZero (.call "sum" (.text ratio))) (.text "0")).ReadAs 2
      (valueQuery ratio) :=
  Expr.verdict_readAs .eq (Expr.orZero_readAs (sum_readAs word).loosen.loosen).loosen
    (Expr.text_readAs isWord_zero).loosen

variable {data : TargetMetric → List ℚ} {records : List (String × List ℚ)}

theorem eval_breachingQuery (c : Comparison) {threshold : String} {target : ℚ}
    (reads : Numeral.value? threshold = some target) (ages : TargetMetric) :
    eval data records (breachingQuery c threshold ages) =
      some (.lone (some (breaching c target (data ages)))) := by
  refine eval_count ?_
  rw [eval, eval_number reads]
  rfl

theorem eval_queuesQuery (ages : TargetMetric) :
    eval data records (queuesQuery ages) = some (.lone (some ((data ages).length : ℚ))) :=
  eval_count rfl

theorem eval_ratioQuery {breaching total : String} {x y : ℚ}
    (one : eval data records (.word breaching) = some (.samples [x]))
    (other : eval data records (.word total) = some (.samples [y])) :
    eval data records (ratioQuery breaching total) =
      some (.lone (some (if 0 < y then x / y else 0))) :=
  eval_ratio (eval_sum_one one) (eval_sum_one other)

theorem eval_valueQuery {ratio : String} {x : ℚ}
    (known : eval data records (.word ratio) = some (.samples [x])) :
    eval data records (valueQuery ratio) = some (.lone (some (if x = 0 then 1 else 0))) := by
  rw [valueQuery, eval, eval_orZero (eval_sum_one known), eval_nought]
  simp [combine?, Comparison.holds]

-- The rules record one after another how many queues breach, how many there are, which share of
-- them breaches and whether none does; each reads nothing but what those before have recorded.
theorem evaluateAll?_queues {breach total ratio threshold : String} {c : Comparison}
    {target : ℚ} (labels : Labels) {one two three four : Expr} {ages : TargetMetric}
    (named : Numeral.value? breach = none ∧ Numeral.value? total = none ∧
      Numeral.value? ratio = none)
    (apart : total ≠ breach ∧ ratio ≠ breach ∧ ratio ≠ total)
    (number : Numeral.value? threshold = some target)
    (first : one.ReadAs 3 (breachingQuery c threshold ages))
    (second : two.ReadAs 3 (queuesQuery ages)) (third : three.ReadAs 3 (ratioQuery breach total))
    (fourth : four.ReadAs 3 (valueQuery ratio)) (data : TargetMetric → List ℚ) :
    RecordingRule.evaluateAll? data [⟨breach, one.render, labels⟩, ⟨total, two.render, labels⟩,
      ⟨ratio, three.render, labels⟩, ⟨sliValueRecord, four.render, labels⟩] =
        some [(breach, [breaching c target (data ages)]), (total, [((data ages).length : ℚ)]),
          (ratio, [breachingShare c target (data ages)]),
          (sliValueRecord, [if breachingShare c target (data ages) = 0 then 1 else 0])] := by
  have totalApart : (total == breach) = false := beq_eq_false_iff_ne.mpr apart.1
  have ratioApart : (ratio == breach) = false := beq_eq_false_iff_ne.mpr apart.2.1
  have ratioOther : (ratio == total) = false := beq_eq_false_iff_ne.mpr apart.2.2
  let k := breaching c target (data ages)
  let n : ℚ := (data ages).length
  let share := breachingShare c target (data ages)
  have breachKnown : eval data [(breach, [k]), (total, [n])] (.word breach) =
      some (.samples [k]) := eval_record named.1 (by simp)
  have totalKnown : eval data [(breach, [k]), (total, [n])] (.word total) = some (.samples [n]) :=
    eval_record named.2.1 (by simp [List.lookup_cons, totalApart])
  have ratioKnown : eval data [(breach, [k]), (total, [n]), (ratio, [share])] (.word ratio) =
      some (.samples [share]) :=
    eval_record named.2.2 (by simp [List.lookup_cons, ratioApart, ratioOther])
  have breachNext : RecordingRule.evaluate? data [] ⟨breach, one.render, labels⟩ =
      some [(breach, [k])] :=
    RecordingRule.evaluate?_of_readAs first (eval_breachingQuery c number ages) breach labels
  have totalNext : RecordingRule.evaluate? data [(breach, [k])] ⟨total, two.render, labels⟩ =
      some [(breach, [k]), (total, [n])] :=
    RecordingRule.evaluate?_of_readAs second (eval_queuesQuery ages) total labels
  have ratioNext : RecordingRule.evaluate? data [(breach, [k]), (total, [n])]
      ⟨ratio, three.render, labels⟩ = some [(breach, [k]), (total, [n]), (ratio, [share])] :=
    RecordingRule.evaluate?_of_readAs third (eval_ratioQuery breachKnown totalKnown) ratio labels
  have valueNext := RecordingRule.evaluate?_of_readAs fourth (eval_valueQuery ratioKnown)
    sliValueRecord labels
  rw [RecordingRule.evaluateAll?, RecordingRule.evaluate_next breachNext,
    RecordingRule.evaluate_next totalNext, RecordingRule.evaluate_next ratioNext,
    RecordingRule.evaluate_next valueNext]
  rfl

theorem queueAge_value {raw product sliId : Value} {spec : SliSpec}
    (accepted : SliSpec.read raw product sliId = .ok spec) {negative : Bool} {units : Nat}
    (finite : spec.metricTarget = .finite negative units) (metadata : SliMetadata)
    (config : MixinConfig) :
    ∃ target clauses rules breach total ratio,
      Numeral.value? spec.metricTarget.plain = some target ∧
        ruleClauses spec config = .ok clauses ∧
        queueAge.rules spec metadata config = .ok rules ∧
        rules.map (·.record) = [breach, total, ratio, sliValueRecord] ∧
        ∀ (data : TargetMetric → List ℚ) (ages : List ℚ),
          data ⟨ageMetric, clauses ++ [deadLetters]⟩ = ages →
            RecordingRule.evaluateAll? data rules = some [
              (breach, [breaching (queueAge.comparison spec) target ages]),
              (total, [(ages.length : ℚ)]),
              (ratio, [breachingShare (queueAge.comparison spec) target ages]),
              (sliValueRecord,
                [if ∀ age ∈ ages, (queueAge.comparison spec).holds age target = true then 1
                  else 0])] := by
  obtain ⟨given, selected, _⟩ :=
    dashboardClauses_exists (SliSpec.read_accepts accepted).labels_valid
  obtain ⟨distance, number, _⟩ := Numeral.value?_plain negative units
  rw [← finite] at number
  let own := ownRecord metadata.product metadata.sliId
  let clauses := given ++ environmentOf config.environment given
  let ages : TargetMetric := ⟨ageMetric, clauses ++ [deadLetters]⟩
  let c := queueAge.comparison spec
  have chosen : ruleClauses spec config = .ok clauses := by
    rw [ruleClauses, selected]
    exact congrArg Except.ok (withEnvironment_eq config.environment given)
  have word : IsWord ageMetric :=
    .literal rfl rfl rfl
  have series : (Expr.series ⟨ageMetric, [deadLetters]⟩ clauses).ReadAs 0 (.series ages) :=
    Expr.series_readAs word (by simp)
  have other : spec.metricTarget.plain ≠ "bool" := by
    intro same
    have lacks := Binary64.plain_lacks spec.metricTarget (c := 'b') (by decide)
    rw [same] at lacks
    exact lacks (by decide)
  have breachChars : ∀ c ∈ "sqs_queues_breaching:count".toList, isMetricChar c = true :=
    all_chars rfl rfl
  have totalChars : ∀ c ∈ "sqs_queues:count".toList, isMetricChar c = true := all_chars rfl rfl
  have ratioChars : ∀ c ∈ "sqs_queues_breaching:ratio".toList, isMetricChar c = true :=
    all_chars rfl rfl
  -- The rules come out by computation; what is left is what their texts mean.
  refine ⟨_, clauses, _, own "sqs_queues_breaching:count", own "sqs_queues:count",
    own "sqs_queues_breaching:ratio", number, chosen, rules_exist rfl selected rfl metadata config,
    rfl, ?_⟩
  intro data values seen
  have evaluated := evaluateAll?_queues metadata.labels
    ⟨Numeral.value?_name (isMetricName_ownRecord _ _ breachChars),
      Numeral.value?_name (isMetricName_ownRecord _ _ totalChars),
      Numeral.value?_name (isMetricName_ownRecord _ _ ratioChars)⟩
    ⟨ownRecord_ne metadata.product metadata.sliId (by decide),
      ownRecord_ne metadata.product metadata.sliId (by decide),
      ownRecord_ne metadata.product metadata.sliId (by decide)⟩ number
    (breaching_readAs c series spec.metricTarget other).loosen.loosen.loosen
    (count_readAs series.loosen.loosen.loosen).loosen.loosen.loosen
    (ratio_readAs (isWord_ownRecord metadata.product metadata.sliId breachChars)
      (isWord_ownRecord metadata.product metadata.sliId totalChars)).loosen.loosen.loosen
    (value_readAs (isWord_ownRecord metadata.product metadata.sliId ratioChars)).loosen data
  rw [seen] at evaluated
  simp only [breachingShare_eq_zero] at evaluated
  exact evaluated

theorem sample_queueAge_value : ∃ spec config clauses rules breach total ratio,
    SliSpec.read (Sample.spec "aws_sqs_message_age" "1m") .null .null = .ok spec ∧
      spec.metricTarget = .finite false Binary64.unitsPerOne ∧
      queueAge.comparison spec = .lt ∧
      MixinConfig.read Sample.config = .ok config ∧
      Numeral.value? spec.metricTarget.plain = some 1 ∧
        ruleClauses spec config = .ok clauses ∧
        queueAge.rules spec ⟨"shop", "cart", .latency⟩ config = .ok rules ∧
        rules.map (·.record) = [breach, total, ratio, sliValueRecord] ∧
        RecordingRule.evaluateAll? (fun _ => [0, 5]) rules =
          some [(breach, [1]), (total, [2]), (ratio, [1 / 2]), (sliValueRecord, [0])] := by
  have evaluated : (SliSpec.read (Sample.spec "aws_sqs_message_age" "1m") .null .null).toOption.map
      (fun spec => (spec.metricTarget, spec.comparison)) =
        some (.finite false Binary64.unitsPerOne, none) := by decide +kernel
  obtain ⟨spec, accepted, fields⟩ := toOption_map.mp evaluated
  obtain ⟨finite, unset⟩ := Prod.mk.inj fields
  have less : queueAge.comparison spec = .lt := by
    rw [comparison, unset]
    rfl
  obtain ⟨config, configured⟩ := Sample.config_read
  obtain ⟨target, clauses, rules, breach, total, ratio, number, chosen, made, records, each⟩ :=
    queueAge_value accepted finite ⟨"shop", "cart", .latency⟩ config
  have one : target = 1 := by
    have text : Numeral.value? (Binary64.finite false Binary64.unitsPerOne).plain = some 1 := by
      decide +kernel
    rw [finite, text] at number
    exact (Option.some.inj number).symm
  subst one
  have values := each (fun _ => [0, 5]) [0, 5] rfl
  rw [less] at values
  refine ⟨spec, config, clauses, rules, breach, total, ratio, accepted, finite, less, configured,
    number, chosen, made, records, values.trans ?_⟩
  norm_num [breachingShare, breaching, Comparison.negate, Comparison.holds]

end Indicator

end SloCompiler
