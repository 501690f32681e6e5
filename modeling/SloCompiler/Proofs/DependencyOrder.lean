import SloCompiler.Proofs.DurationReading
import SloCompiler.Proofs.Wording

namespace SloCompiler

structure Plain (s : String) : Prop where
  quoteless : '"' ∉ s.toList
  colonless : ':' ∉ s.toList

namespace Plain

theorem constant (s : String) {cs : List Char} (written : s = String.ofList cs)
    (plain : cs.all (fun c => c != '"' && c != ':') = true) : Plain s := by
  have chars := all_chars written plain
  constructor
  · exact fun present => absurd (chars _ present) (by decide)
  · exact fun present => absurd (chars _ present) (by decide)

end Plain

-- A text that says nothing with a colon in it, except for a name out of these.
inductive Discreet (own : List String) (s : String) : Prop where
  | plain (plain : Plain s)
  | own (metric : ∀ c ∈ s.toList, isMetricChar c = true) (listed : s ∈ own)

namespace Discreet

variable {own : List String}

theorem quoteless {s : String} (discreet : Discreet own s) : '"' ∉ s.toList := by
  cases discreet with
  | plain plain => exact plain.quoteless
  | own metric _ => exact fun present => absurd (metric _ present) (by decide)

theorem constant (s : String) {cs : List Char} (written : s = String.ofList cs)
    (plain : cs.all (fun c => c != '"' && c != ':') = true) : Discreet own s :=
  .plain (.constant s written plain)

theorem wording {s : String} (discreet : Discreet own s) :
    Check.Says (fun w => ':' ∈ w → String.ofList w ∈ own) s.toList := by
  intro w listed colon
  cases discreet with
  | plain plain => exact absurd (Check.mem_of_mem_words listed colon) plain.colonless
  | own metric named =>
    rw [Check.words_metric metric, List.mem_singleton] at listed
    rwa [listed, String.ofList_toList]

theorem numeral (x : Binary64) : Discreet own x.plain :=
  .plain ⟨x.plain_lacks (by decide), x.plain_lacks (by decide)⟩

theorem duration {s : String} {d : Duration} (read : Duration.parse s = .ok d) :
    Discreet own s :=
  .plain ⟨Duration.text_lacks read (by decide) (by decide),
    Duration.text_lacks read (by decide) (by decide)⟩

theorem label (c : Clause) : Discreet own c.label :=
  .plain ⟨c.label_lacks (by decide) (by decide), c.label_lacks (by decide) (by decide)⟩

end Discreet

namespace Discreet

variable {own : List String}

theorem used {e : Expr} (discreet : e.Each (Discreet own)) {name : String}
    (metric : ∀ c ∈ name.toList, isMetricChar c = true) (colon : ':' ∈ name.toList)
    {names : List String} (used : name ∈ Check.referencedNames e.render names) : name ∈ own := by
  have nonempty : name ≠ "" := by
    rintro rfl
    exact absurd colon (by decide)
  have keywords : Expr.Keywords fun w => ':' ∈ w → String.ofList w ∈ own :=
    ⟨fun colon => (List.not_mem_nil colon).elim,
      fun w listed colon => absurd (Check.mem_of_mem_words listed colon) (by decide),
      fun w listed colon => absurd (Check.mem_of_mem_words listed colon) (by decide)⟩
  have found := Expr.says_used keywords (fun s member => (discreet s member).quoteless)
    (fun s member => (discreet s member).wording) nonempty metric used colon
  rwa [String.ofList_toList] at found

theorem metric {s : String} (word : MetricWord s) : Discreet own s :=
  .plain ⟨word.lacks (by decide), word.lacks (by decide)⟩

theorem mono {more : List String} {s : String} (discreet : Discreet own s)
    (within : ∀ name ∈ own, name ∈ more) : Discreet more s := by
  cases discreet with
  | plain plain => exact .plain plain
  | own metric listed => exact .own metric (within _ listed)

theorem covers : Covers Discreet where
  constant := by
    simp only [vocabulary, List.forall_mem_cons, List.not_mem_nil, IsEmpty.forall_iff, implies_true,
      and_true]
    and_intros <;> exact fun _ => .constant _ rfl rfl
  numeral x _ := .numeral x
  recorded := .own
  later discreet := discreet.mono fun _ => List.mem_cons_of_mem _

end Discreet

namespace Contribution

variable {config : MixinConfig}

theorem block_discreet (part : Contribution config Registry.standard) {raw : Value}
    (accepted : SliSpec.Accepts raw part.spec) :
    ∀ r ∈ part.block, ∃ e : Expr, r.expr = e.render ∧
      e.Each (Discreet (part.block.map (·.record))) := by
  obtain ⟨d, interval⟩ := accepted.evalInterval_parses
  obtain ⟨d', period⟩ := accepted.period_parses
  obtain ⟨clauses, table, _, read, shape⟩ := part.block_exprs
  have narrowed (role : String) : (Indicator.seriesOf table clauses role).Each (Discreet []) :=
    Indicator.seriesOf_each (.constant "" rfl rfl) (fun target member =>
      ⟨.metric (Registry.target_word part.found read target member), fun c _ => .label c⟩)
      (fun c _ => .label c) role
  have each := Discreet.covers.block_inTurn part.indicator (.duration interval)
    (.duration period) narrowed ⟨part.product, part.sliId⟩
  intro r member
  rw [shape] at member ⊢
  obtain ⟨named, present, rfl⟩ := List.mem_map.mp member
  obtain ⟨before, discreet, within⟩ := each.of_mem present
  refine ⟨named.2, rfl, fun s said => (discreet s said).mono fun name listed => ?_⟩
  have found := (within name listed).resolve_left List.not_mem_nil
  rwa [List.map_map]

theorem block_uses (part : Contribution config Registry.standard) {raw : Value}
    (accepted : SliSpec.Accepts raw part.spec) {other : Contribution config Registry.standard}
    {s : RecordingRule} (recorded : s ∈ other.block) {r : RecordingRule} (member : r ∈ part.block)
    {names : List String} (used : s.record ∈ Check.referencedNames r.expr names) :
    s.record ∈ part.block.map (·.record) := by
  rcases other.block_records s recorded with common | ⟨operation, metric, own⟩
  · exact part.common_listed common
  · obtain ⟨e, text, discreet⟩ := part.block_discreet accepted r member
    rw [text] at used
    rw [own] at used ⊢
    exact Discreet.used discreet (ownRecord_metric _ _ metric) (colon_mem_ownRecord _ _ _) used

theorem blocks_ordered (order : List (Contribution config Registry.standard))
    (accepted : ∀ part ∈ order, ∃ raw, SliSpec.Accepts raw part.spec) :
    Check.recordingRules (order.flatMap (·.block)) = [] := by
  unfold Check.recordingRules
  -- The names looked for stay those of all blocks, while the names seen grow block by block.
  suffices together : ∀ (rest : List (Contribution config Registry.standard)) (seen : List String),
      (∀ part ∈ rest, part ∈ order) →
      Check.rulesFrom ((order.flatMap (·.block)).map (·.record)).eraseDups seen
        (rest.flatMap (·.block)) = [] from together order [] fun _ member => member
  intro rest
  induction rest with
  | nil => exact fun _ _ => rfl
  | cons part rest ih =>
    intro seen within
    obtain ⟨raw, read⟩ := accepted part (within part List.mem_cons_self)
    rw [List.flatMap_cons, Check.rulesFrom_append]
    refine List.append_eq_nil_iff.mpr ⟨?_, ih _ fun other member =>
      within other (List.mem_cons_of_mem _ member)⟩
    -- The block has passed its own check, with fewer names to look for and none seen before it.
    refine Check.rulesFrom_mono ?_ (by simp) part.ordered
    intro r member name used
    have listed := (List.mem_filter.mp (Check.mem_sortTexts.mp used)).1
    obtain ⟨s, recorded, rfl⟩ := List.mem_map.mp (List.mem_eraseDups.mp listed)
    obtain ⟨other, _, recorded⟩ := List.mem_flatMap.mp recorded
    exact Check.used_among used
      (List.mem_eraseDups.mpr (part.block_uses read recorded member used))

end Contribution

namespace Mixin

-- All rules together are in order, though only those of one SLI are checked together: what a
-- rule uses of all that is recorded anywhere is recorded before it.
theorem buildFrom_ordered {config slis : Value} {a : Artifacts}
    (built : buildFrom config slis Registry.standard = .ok a) :
    Check.recordingRules (a.recording.flatMap (·.rules)) = [] ∧
      ∀ before r after, a.recording.flatMap (·.rules) = before ++ r :: after →
        ∀ name ∈ Check.referencedNames r.expr
            ((a.recording.flatMap (·.rules)).map (·.record)).eraseDups,
          ∃ earlier ∈ before, earlier.record = name := by
  obtain ⟨c, table, _, declared, parts, listed, _, rfl⟩ := buildFrom_ok.mp built
  have ordered : Check.recordingRules
      ((assembled c (parts.map (·.compiled))).recording.flatMap (·.rules)) = [] := by
    rw [rules_blocks]
    refine Contribution.blocks_ordered _ fun part member => ?_
    have entry : part.entry ∈ entries table := by
      rw [listed]
      exact List.mem_map_of_mem ((order_perm parts).mem_iff.mp member)
    obtain ⟨raw, read⟩ := spec_read declared entry
    exact ⟨raw, SliSpec.read_accepts read⟩
  exact ⟨ordered, fun before r after split => Check.recordingRules_earlier ordered split⟩

theorem sample_ordered : ∃ a,
    buildFrom Sample.config Sample.slis Registry.standard = .ok a ∧
      Check.recordingRules (a.recording.flatMap (·.rules)) = [] ∧
        ∀ before r after, a.recording.flatMap (·.rules) = before ++ r :: after →
          ∀ name ∈ Check.referencedNames r.expr
              ((a.recording.flatMap (·.rules)).map (·.record)).eraseDups,
            ∃ earlier ∈ before, earlier.record = name := by
  obtain ⟨a, built⟩ := Sample.builds
  exact ⟨a, built, buildFrom_ordered built⟩

end Mixin

end SloCompiler
