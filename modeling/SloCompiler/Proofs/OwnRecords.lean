import SloCompiler.Proofs.Acceptance
import SloCompiler.Proofs.DependencyOrder
import SloCompiler.Proofs.Independence

namespace SloCompiler
open Contribution

def SliIdentity.scope (i : SliIdentity) : String :=
  sanitizeName i.product ++ ":" ++ sanitizeName i.sliId

theorem ownRecord_scope (i : SliIdentity) (operation : String) :
    (ownRecord i.product i.sliId operation).toList = i.scope.toList ++ '_' :: operation.toList := by
  simp [ownRecord, SliIdentity.scope]

namespace Indicator

theorem operations_apart : ∀ one ∈ queueAge.operations, ∀ two ∈ queueAge.operations,
    '_' :: one.toList <:+ '_' :: two.toList → one = two := by
  decide

-- The names of different things never end alike, so that records of one name have one scope.
theorem scope_of_ownRecord (one two : SliIdentity) {operation other : String}
    (listed : operation ∈ queueAge.operations) (listed' : other ∈ queueAge.operations)
    (same : ownRecord one.product one.sliId operation = ownRecord two.product two.sliId other) :
    one.scope = two.scope := by
  have text := congrArg String.toList same
  rw [ownRecord_scope, ownRecord_scope] at text
  have ends : '_' :: operation.toList <:+ two.scope.toList ++ '_' :: other.toList := by
    rw [← text]
    exact List.suffix_append _ _
  have alike : operation = other := by
    rcases List.suffix_or_suffix_of_suffix ends (List.suffix_append _ _) with within | within
    · exact operations_apart _ listed _ listed' within
    · exact (operations_apart _ listed' _ listed within).symm
  rw [alike] at text
  exact String.toList_inj.mp (List.append_cancel_right text)

end Indicator

theorem Check.referenced_call {expr name : String} {before rest : List Char}
    (shape : expr.toList = before ++ '(' :: (name.toList ++ ')' :: rest)) (plain : '"' ∉ before)
    (nonempty : name ≠ "") (metric : ∀ c ∈ name.toList, isMetricChar c = true)
    {names : List String} (listed : name ∈ names) : name ∈ Check.referencedNames expr names := by
  refine (Check.mem_referencedNames nonempty metric).mpr ⟨listed, ?_⟩
  have quoteless : '"' ∉ name.toList := fun present => absurd (metric _ present) (by decide)
  rw [shape, Check.unquoted_append plain, Check.unquoted_cons (by decide),
    Check.unquoted_append quoteless, Check.unquoted_cons (by decide),
    Check.words_append _ _ (by decide), Check.words_append _ _ (by decide),
    Check.words_metric metric]
  simp

namespace Contribution

variable {config : MixinConfig} {registry : Registry}

theorem filter_names (part : Contribution config registry) :
    (part.block.map (·.record)).filter (· ∉ commonRecords) = part.ownRecords := by
  rw [block_names, List.filter_append]
  have own : part.ownRecords.filter (· ∉ commonRecords) = part.ownRecords := by
    refine List.filter_eq_self.mpr fun record member => ?_
    obtain ⟨operation, _, rfl⟩ := List.mem_map.mp member
    exact decide_eq_true (ownRecord_uncommon _ _ _)
  have common : commonRecords.filter (· ∉ commonRecords) = [] := by decide
  rw [own, common, List.append_nil]

theorem reads_own (part : Contribution config registry) (queues : part.indicator = .queueAge) :
    ∃ record ∈ part.ownRecords, ∃ r ∈ part.block,
      ∀ names, record ∈ names → record ∈ Check.referencedNames r.expr names := by
  obtain ⟨clauses, table, _, _, shape⟩ := part.block_exprs
  let name (operation : String) : String := ownRecord part.product part.sliId operation
  let share : Expr := Expr.safeRatio (.call "sum" (.text (name "sqs_queues_breaching:count")))
    (.call "sum" (.text (name "sqs_queues:count")))
  refine ⟨name "sqs_queues_breaching:count", ?_, Indicator.recorded part.metadata
    (name "sqs_queues_breaching:ratio", share), ?_, fun names listed => ?_⟩
  · rw [ownRecords, queues]
    exact List.mem_cons_self
  · rw [shape, queues]
    refine List.mem_map_of_mem (List.mem_append_left _ ?_)
    exact List.mem_cons_of_mem _ (List.mem_cons_of_mem _ List.mem_cons_self)
  · have metric : ∀ c ∈ (name "sqs_queues_breaching:count").toList, isMetricChar c = true :=
      ownRecord_metric _ _ (all_chars rfl rfl)
    have nonempty : name "sqs_queues_breaching:count" ≠ "" := fun empty => by
      have colon := colon_mem_ownRecord part.product part.sliId "sqs_queues_breaching:count"
      rw [show ownRecord _ _ _ = "" from empty] at colon
      cases colon
    have text : ∃ rest, share.render.toList =
        "(sum".toList ++ '(' :: ((name "sqs_queues_breaching:count").toList ++ ')' :: rest) :=
      ⟨_, by simp [share, Expr.safeRatio]; rfl⟩
    obtain ⟨rest, text⟩ := text
    exact Check.referenced_call text (by decide) nonempty metric listed

end Contribution

namespace Artifacts

def ownRecords (a : Artifacts) (i : SliIdentity) : List String :=
  ((a.rulesOf i.product i.sliId).map (·.record)).filter (· ∉ commonRecords)

def records (a : Artifacts) : List String :=
  ((a.recording.flatMap (·.rules)).map (·.record)).eraseDups

def Shares (a : Artifacts) (one two : SliIdentity) : Prop :=
  ∃ record ∈ a.ownRecords one, record ∈ a.ownRecords two

def Reads (a : Artifacts) (one two : SliIdentity) : Prop :=
  ∃ r ∈ a.rulesOf one.product one.sliId, ∃ record ∈ a.ownRecords two,
    record ∈ Check.referencedNames r.expr a.records

end Artifacts

-- SLIs on the age of messages whose names are the same but for characters that records cannot
-- hold, or but for the place of a colon.
structure Clash (one : SliIdentity) (spec : SliSpec) (two : SliIdentity) (spec' : SliSpec) :
    Prop where
  first : spec.metricType = "aws_sqs_message_age"
  second : spec'.metricType = "aws_sqs_message_age"
  scope : one.scope = two.scope

namespace Contribution

variable {config : MixinConfig}

theorem queueAge_iff (part : Contribution config Registry.standard) :
    part.indicator = .queueAge ↔ part.spec.metricType = "aws_sqs_message_age" := by
  have found := part.found
  constructor
  · intro queues
    have listed := Registry.get_listed found
    rw [queues] at listed
    simpa [Registry.standard] using listed
  · intro tag
    rw [tag] at found
    exact (Except.ok.inj found).symm

theorem entry_identity {part : Contribution config Registry.standard} {i : SliIdentity}
    {spec : SliSpec} (same : part.entry = (.str i.product, .str i.sliId, spec)) :
    part.identity = i ∧ part.spec = spec := by
  obtain ⟨product, sliId, read⟩ : part.product = i.product ∧ part.sliId = i.sliId ∧
      part.spec = spec := by
    simpa [entry] using same
  exact ⟨congrArg₂ SliIdentity.mk product sliId, read⟩

theorem clash_records {part other : Contribution config Registry.standard}
    (clash : Clash part.identity part.spec other.identity other.spec) :
    part.ownRecords = other.ownRecords := by
  have same (operation : String) : ownRecord part.product part.sliId operation =
      ownRecord other.product other.sliId operation := by
    refine String.toList_inj.mp ((ownRecord_scope part.identity operation).trans ?_)
    rw [clash.scope]
    exact (ownRecord_scope other.identity operation).symm
  rw [ownRecords, ownRecords, part.queueAge_iff.mpr clash.first,
    other.queueAge_iff.mpr clash.second]
  exact List.map_congr_left fun operation _ => same operation

theorem shares_iff (part other : Contribution config Registry.standard) :
    (∃ record ∈ part.ownRecords, record ∈ other.ownRecords) ↔
      Clash part.identity part.spec other.identity other.spec := by
  constructor
  · rintro ⟨record, own, its⟩
    obtain ⟨operation, listed, rfl⟩ := List.mem_map.mp own
    obtain ⟨operation', listed', same⟩ := List.mem_map.mp its
    have queues {i : Indicator} {operation : String} (listed : operation ∈ i.operations) :
        i = .queueAge := by cases i <;> first | rfl | cases listed
    have first := queues listed
    have second := queues listed'
    rw [first] at listed
    rw [second] at listed'
    exact ⟨part.queueAge_iff.mp first, other.queueAge_iff.mp second,
      (Indicator.scope_of_ownRecord other.identity part.identity listed' listed same).symm⟩
  · intro clash
    obtain ⟨record, own, _⟩ := part.reads_own (part.queueAge_iff.mpr clash.first)
    exact ⟨record, own, clash_records clash ▸ own⟩

end Contribution

namespace Mixin

variable {c : MixinConfig} {parts : List (Contribution c Registry.standard)}

theorem ownRecords_part (whole : Compatible parts) {part : Contribution c Registry.standard}
    (member : part ∈ parts) :
    (assembled c (parts.map (·.compiled))).ownRecords part.identity = part.ownRecords := by
  rw [Artifacts.ownRecords, ← part.filter_names]
  exact congrArg _ (congrArg _ (rulesOf_part whole member))

theorem records_listed (parts : List (Contribution c Registry.standard))
    {part : Contribution c Registry.standard} (member : part ∈ parts) {record : String}
    (recorded : record ∈ part.block.map (·.record)) :
    record ∈ (assembled c (parts.map (·.compiled))).records := by
  rw [Artifacts.records, List.mem_eraseDups, rules_blocks, List.map_flatMap]
  exact List.mem_flatMap.mpr ⟨part, (order_perm parts).mem_iff.mpr member, recorded⟩

-- What an SLI records of its own is recorded and used by itself alone, unless its name clashes with
-- that of another.
theorem buildFrom_scoped {config slis : Value} {a : Artifacts}
    (built : buildFrom config slis Registry.standard = .ok a) :
    ∃ table, SliTable.read slis = .ok table ∧
      ∀ (one two : SliIdentity) (spec spec' : SliSpec),
        (.str one.product, .str one.sliId, spec) ∈ entries table →
        (.str two.product, .str two.sliId, spec') ∈ entries table →
          (a.Shares one two ↔ Clash one spec two spec') ∧
            (a.Reads one two ↔ Clash one spec two spec') := by
  obtain ⟨c, table, _, declared, parts, listed, whole, rfl⟩ := buildFrom_ok.mp built
  refine ⟨table, declared, fun one two spec spec' first second => ?_⟩
  obtain ⟨raw, accepted⟩ := spec_read declared first
  rw [listed] at first second
  obtain ⟨part, member, same⟩ := List.mem_map.mp first
  obtain ⟨other, member', same'⟩ := List.mem_map.mp second
  obtain ⟨rfl, rfl⟩ := Contribution.entry_identity same
  obtain ⟨rfl, rfl⟩ := Contribution.entry_identity same'
  have shares := part.shares_iff other
  rw [Artifacts.Shares, Artifacts.Reads, ownRecords_part whole member,
    ownRecords_part whole member', Contribution.identity, rulesOf_part whole member]
  refine ⟨shares, ?_, fun clash => ?_⟩
  · rintro ⟨r, own, record, its, used⟩
    -- What a rule uses its own SLI records, so that the name belongs to both.
    refine shares.mp ⟨record, ?_, its⟩
    rw [← other.filter_names] at its
    obtain ⟨recorded, uncommon⟩ := List.mem_filter.mp its
    obtain ⟨s, found, rfl⟩ := List.mem_map.mp recorded
    rw [← part.filter_names]
    exact List.mem_filter.mpr
      ⟨part.block_uses (SliSpec.read_accepts accepted) found own used, uncommon⟩
  · obtain ⟨record, own, r, listed, uses⟩ := part.reads_own (part.queueAge_iff.mpr clash.first)
    refine ⟨r, listed, record, ?_, uses _ (records_listed parts member ?_)⟩
    · exact Contribution.clash_records clash ▸ own
    · rw [part.block_names]
      exact List.mem_append_left _ own

theorem sample_scoped : ∃ a, buildFrom Sample.config Sample.slis Registry.standard = .ok a ∧
    ∃ table, SliTable.read Sample.slis = .ok table ∧
      ∀ (one two : SliIdentity) (spec spec' : SliSpec),
        (.str one.product, .str one.sliId, spec) ∈ entries table →
        (.str two.product, .str two.sliId, spec') ∈ entries table →
          (a.Shares one two ↔ Clash one spec two spec') ∧
            (a.Reads one two ↔ Clash one spec two spec') := by
  obtain ⟨a, built⟩ := Sample.builds
  exact ⟨a, built, buildFrom_scoped built⟩

end Mixin

namespace Sample

def clashing : Mixin.SliMap :=
  [("a.b", [("s", spec "aws_sqs_message_age" "1m")]),
    ("a_b", [("s", spec "aws_sqs_message_age" "1m")])]

theorem clashing_builds :
    ∃ a, Mixin.buildFrom config clashing.toValue Registry.standard = .ok a := by
  obtain ⟨c, configured⟩ := config_read
  refine Mixin.buildFrom_succeeds_iff.mpr ⟨c, configured, ?_, by decide +kernel⟩
  exact List.forall_mem_cons.mpr ⟨compiles configured (.inr rfl) (by decide) (by decide),
    List.forall_mem_singleton.mpr (compiles configured (.inr rfl) (by decide) (by decide))⟩

end Sample

namespace Mixin

theorem clashing_shares :
    ∃ a, buildFrom Sample.config Sample.clashing.toValue Registry.standard = .ok a ∧
      "a_b:s_sqs_queues:count" ∉ commonRecords ∧
      "a_b:s_sqs_queues:count" ∈ (a.rulesOf "a.b" "s").map (·.record) ∧
      "a_b:s_sqs_queues:count" ∈ (a.rulesOf "a_b" "s").map (·.record) := by
  obtain ⟨a, built⟩ := Sample.clashing_builds
  refine ⟨a, built, by decide, ?_⟩
  obtain ⟨c, _, parts, each, whole, rfl⟩ := contributions_of_build built
  have records {product : String}
      (listed : (product, "s", Sample.spec "aws_sqs_message_age" "1m") ∈ Sample.clashing.entries)
      (named : "a_b:s_sqs_queues:count" ∈ Indicator.queueAge.operations.map (ownRecord product "s")) :
      "a_b:s_sqs_queues:count" ∈
        ((assembled c (parts.map (·.compiled))).rulesOf product "s").map (·.record) := by
    obtain ⟨part, member, own, called, accepted⟩ := forall₂_left each listed
    obtain rfl : part.product = product := Value.str.inj own
    have sliId : part.sliId = "s" := Value.str.inj called
    have queues : part.indicator = .queueAge := part.queueAge_iff.mpr
      (Except.ok.inj (SliSpec.read_accepts accepted).metricType).symm
    rw [← sliId, rulesOf_part whole member, Contribution.block_names, Contribution.ownRecords,
      queues, sliId]
    exact List.mem_append_left _ named
  exact ⟨records List.mem_cons_self (by decide +kernel),
    records (List.mem_cons_of_mem _ List.mem_cons_self) (by decide +kernel)⟩

end Mixin

end SloCompiler
