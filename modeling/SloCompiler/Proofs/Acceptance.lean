import SloCompiler.Proofs.BlockCheck
import SloCompiler.Proofs.Thinning

namespace SloCompiler
open Check

theorem forall₂_exists {α β : Type} {R : α → β → Prop} {xs : List α}
    (each : ∀ x ∈ xs, ∃ y, R x y) : ∃ ys, List.Forall₂ R xs ys := by
  induction xs with
  | nil => exact ⟨[], .nil⟩
  | cons x xs ih =>
    obtain ⟨y, first⟩ := each x List.mem_cons_self
    obtain ⟨ys, rest⟩ := ih fun z member => each z (List.mem_cons_of_mem _ member)
    exact ⟨y :: ys, .cons first rest⟩

namespace Contribution

variable {config : MixinConfig} {registry : Registry}

theorem identity_of_seriesKey {part other : Contribution config registry} {r s : RecordingRule}
    (own : r ∈ part.block) (its : s ∈ other.block) (same : Check.seriesKey r = Check.seriesKey s) :
    part.identity = other.identity := by
  have perm := (Check.seriesKey_eq_iff.mp same).2
  rw [part.block_labels r own, other.block_labels s its] at perm
  have within := perm.subset
  have product : ("product", part.product) ∈ other.labels := within List.mem_cons_self
  have sliId : ("sliId", part.sliId) ∈ other.labels :=
    within (List.mem_cons_of_mem _ List.mem_cons_self)
  simp [labels, SliMetadata.labels] at product sliId
  rw [identity, identity, product, sliId]
  rfl

theorem ownRecords_nodup (part : Contribution config registry) : part.ownRecords.Nodup := by
  have operations : part.indicator.operations.Nodup := by
    cases part.indicator <;> first | exact List.nodup_nil | decide
  refine operations.map fun one two same => ?_
  have text := congrArg String.toList same
  simp only [ownRecord, String.toList_append] at text
  exact String.toList_inj.mp (List.append_cancel_left (List.append_cancel_left text))

theorem records_nodup (part : Contribution config registry) :
    (part.block.map (·.record)).Nodup := by
  rw [block_names]
  refine part.ownRecords_nodup.append (by decide) fun record own common => ?_
  obtain ⟨operation, _, rfl⟩ := List.mem_map.mp own
  exact ownRecord_uncommon _ _ _ common

end Contribution

namespace Contribution

variable {config : MixinConfig}

theorem complete {registry : Registry} (part : Contribution config registry) :
    part.indicator.missingField? part.spec = none := by
  have measures := part.measures
  rw [Indicator.rules_eq] at measures
  obtain ⟨roles, given, _⟩ := bind_ok.mp measures
  unfold Indicator.checkedRoles at given
  split at given
  · cases given
  · assumption

theorem unmistakable (part : Contribution config Registry.standard) {raw : Value}
    (accepts : SliSpec.Accepts raw part.spec) :
    Unmistakable config part.spec part.product part.sliId := by
  obtain ⟨_, measured, _, measures, passes⟩ :=
    Indicator.measures_iff accepts part.found part.complete config part.metadata
  obtain rfl : part.measured = measured := Except.ok.inj (part.measures.symm.trans measures)
  exact passes.mp part.ordered

theorem exists_iff {raw : Value} {spec : SliSpec} (accepts : SliSpec.Accepts raw spec)
    {product sliId : String} :
    (∃ part : Contribution config Registry.standard, part.entry = (.str product, .str sliId, spec)) ↔
      ∃ i, Registry.standard.get spec.metricType = .ok i ∧ i.missingField? spec = none ∧
        Unmistakable config spec product sliId := by
  constructor
  · rintro ⟨part, same⟩
    obtain ⟨rfl, rfl, rfl⟩ : part.product = product ∧ part.sliId = sliId ∧ part.spec = spec := by
      simpa [entry] using same
    exact ⟨part.indicator, part.found, part.complete, part.unmistakable accepts⟩
  · rintro ⟨indicator, found, complete, fair⟩
    obtain ⟨panel, measured, shows, measures, passes⟩ :=
      Indicator.measures_iff accepts found complete config ⟨product, sliId, spec.sliType⟩
    exact ⟨{
      metadata := ⟨product, sliId, spec.sliType⟩
      spec, indicator, measured, panel, found, measures, shows
      type_eq := rfl
      ordered := passes.mpr fair }, rfl⟩

theorem alone (part : Contribution config Registry.standard) {raw : Value}
    (accepts : SliSpec.Accepts raw part.spec) : Compatible [part] where
  series := by
    rw [List.flatMap_singleton]
    refine List.Nodup.of_map Prod.fst ?_
    rw [List.map_map]
    exact part.records_nodup
  alerts := List.nodup_singleton _
  readable := by
    have fair := part.unmistakable accepts
    obtain ⟨formed, concluded⟩ := Slo.breach_formed part.identity part.spec
    refine List.forall_mem_singleton.mpr ((Expr.expressionDefects_nil formed concluded).mpr ?_)
    have clear := (identity_read part.identity).mpr ⟨fair.product, fair.sliId⟩
    simpa [Slo.breach, SliIdentity.series, Expr.clauses] using clear

end Contribution

namespace Compatible

variable {config : MixinConfig} {registry : Registry} {parts : List (Contribution config registry)}

-- What different SLIs record never collides.
theorem series_of_alone (alone : ∀ part ∈ parts, Compatible [part])
    (distinct : (parts.map (·.identity)).Nodup) :
    ((parts.flatMap (·.block)).map Check.seriesKey).Nodup := by
  rw [List.map_flatMap, List.nodup_flatMap]
  constructor
  · intro part member
    simpa using (alone part member).series
  · refine (List.pairwise_map.mp distinct).imp fun apart key own its => apart ?_
    obtain ⟨r, member, rfl⟩ := List.mem_map.mp own
    obtain ⟨s, found, same⟩ := List.mem_map.mp its
    exact Contribution.identity_of_seriesKey member found same.symm

end Compatible

namespace Mixin

variable {c : MixinConfig} {registry : Registry}

abbrev SliMap := List (String × List (String × Value))

def SliMap.toValue (slis : SliMap) : Value :=
  .object (slis.map fun (product, named) => (product, .object named))

def SliMap.one (product sliId : String) (spec : Value) : SliMap := [(product, [(sliId, spec)])]

def SliMap.entries (slis : SliMap) : List (String × String × Value) :=
  slis.flatMap fun (product, named) => named.map fun (sliId, spec) => (product, sliId, spec)

def SliMap.identities (slis : SliMap) : List SliIdentity :=
  slis.entries.map fun sli => ⟨sli.1, sli.2.1⟩

theorem SliMap.declared (slis : SliMap) : declaredSlis slis.toValue =
    slis.entries.map fun (product, sliId, spec) => (.str product, .str sliId, spec) := by
  simp [declaredSlis, toValue, entries, Value.object, Value.entries, Entries.ofFields,
    List.flatMap_map, List.map_flatMap, Function.comp_def]

theorem SliMap.rows (slis : SliMap) : ∃ products, slis.toValue = .map products ∧
    ∀ e ∈ products, ∃ given, e.2 = .map given := by
  refine ⟨_, rfl, fun e member => ?_⟩
  simp only [Entries.ofFields, List.map_map, List.mem_map] at member
  obtain ⟨row, _, rfl⟩ := member
  exact ⟨_, rfl⟩

theorem contributes_together {slis : SliMap} {parts : List (Contribution c registry)}
    (each : List.Forall₂ (fun sli part => ReadAs (.str sli.1, .str sli.2.1, sli.2.2)
      (Contribution.entry part)) slis.entries parts) :
    ∃ table, SliTable.read slis.toValue = .ok table ∧ Mixin.entries table = parts.map (·.entry) := by
  have each : List.Forall₂ ReadAs (declaredSlis slis.toValue) (parts.map (·.entry)) := by
    rwa [slis.declared, List.forall₂_map_left_iff, List.forall₂_map_right_iff]
  obtain ⟨products, shape, maps⟩ := slis.rows
  obtain ⟨table, read⟩ : ∃ table, SliTable.read slis.toValue = .ok table := by
    rw [shape] at each ⊢
    refine SliTable.read_exists maps fun raw member => ?_
    obtain ⟨entry, _, _, _, accepted⟩ := forall₂_left each member
    exact ⟨entry.2.2, accepted⟩
  exact ⟨table, read, List.right_unique_forall₂' readAs_unique (SliTable.read_declared read) each⟩

theorem identities_of_read {slis : SliMap} {parts : List (Contribution c registry)}
    (each : List.Forall₂ (fun sli part => ReadAs (.str sli.1, .str sli.2.1, sli.2.2)
      (Contribution.entry part)) slis.entries parts) :
    parts.map (·.identity) = slis.identities := by
  rw [SliMap.identities, ← List.forall₂_eq_eq_eq, List.forall₂_map_left_iff,
    List.forall₂_map_right_iff]
  refine each.flip.imp fun part sli ⟨product, sliId, _⟩ => ?_
  exact congrArg₂ SliIdentity.mk (Value.str.inj product) (Value.str.inj sliId)

theorem contributions_of_build {config : Value} {slis : SliMap} {a : Artifacts}
    (built : buildFrom config slis.toValue registry = .ok a) :
    ∃ c, MixinConfig.read config = .ok c ∧ ∃ parts : List (Contribution c registry),
      List.Forall₂ (fun sli part => ReadAs (.str sli.1, .str sli.2.1, sli.2.2)
        (Contribution.entry part)) slis.entries parts ∧
        Compatible parts ∧ a = assembled c (parts.map (·.compiled)) := by
  obtain ⟨c, table, configured, declared, parts, listed, whole, made⟩ := buildFrom_ok.mp built
  have each := SliTable.read_declared declared
  rw [listed, slis.declared, List.forall₂_map_left_iff, List.forall₂_map_right_iff] at each
  exact ⟨c, configured, parts, each, whole, made⟩

theorem contributions_of_each {slis : SliMap} (each : ∀ sli ∈ slis.entries,
      ∃ part : Contribution c registry,
        ReadAs (.str sli.1, .str sli.2.1, sli.2.2) part.entry ∧ Compatible [part]) :
    ∃ (parts : List (Contribution c registry)) (table : SliTable),
      SliTable.read slis.toValue = .ok table ∧ Mixin.entries table = parts.map (·.entry) ∧
        parts.map (·.identity) = slis.identities ∧ ∀ part ∈ parts, Compatible [part] := by
  obtain ⟨parts, each⟩ := forall₂_exists each
  have read := each.imp fun _ _ => And.left
  obtain ⟨table, declared, listed⟩ := contributes_together read
  refine ⟨parts, table, declared, listed, identities_of_read read, fun part member => ?_⟩
  obtain ⟨_, _, _, own⟩ := forall₂_left each.flip member
  exact own

theorem buildFrom_together {config : Value} (configured : MixinConfig.read config = .ok c)
    {slis : SliMap} (each : ∀ sli ∈ slis.entries, ∃ part : Contribution c registry,
      ReadAs (.str sli.1, .str sli.2.1, sli.2.2) part.entry ∧ Compatible [part])
    (apart : (slis.identities.map Alert.name).Nodup) :
    ∃ a, buildFrom config slis.toValue registry = .ok a := by
  obtain ⟨parts, table, declared, listed, identities, alone⟩ := contributions_of_each each
  rw [← identities] at apart
  refine ⟨_, buildFrom_ok.mpr ⟨c, table, configured, declared, parts, listed,
    ⟨Compatible.series_of_alone alone apart.of_map, ?_, fun part member =>
      (alone part member).readable part List.mem_cons_self⟩, rfl⟩⟩
  rw [Compatible.alert_names]
  exact apart

-- An SLI with a spec that is accepted, a known indicator with all it needs, and nothing that the
-- check of its rules misreads.
def Compiles (c : MixinConfig) (product sliId : String) (raw : Value) : Prop :=
  ∃ spec i, SliSpec.read raw (.str product) (.str sliId) = .ok spec ∧
    Registry.standard.get spec.metricType = .ok i ∧ i.missingField? spec = none ∧
      Unmistakable c spec product sliId

theorem buildFrom_succeeds_iff {config : Value} {slis : SliMap} :
    (∃ a, buildFrom config slis.toValue Registry.standard = .ok a) ↔
      ∃ c, MixinConfig.read config = .ok c ∧
        (∀ sli ∈ slis.entries, Compiles c sli.1 sli.2.1 sli.2.2) ∧
          (slis.identities.map Alert.name).Nodup := by
  constructor
  · rintro ⟨a, built⟩
    obtain ⟨c, configured, parts, each, whole, rfl⟩ := contributions_of_build built
    refine ⟨c, configured, fun sli member => ?_, ?_⟩
    · obtain ⟨part, _, product, sliId, accepted⟩ := forall₂_left each member
      have accepts := SliSpec.read_accepts accepted
      obtain ⟨i, found, complete, fair⟩ := (Contribution.exists_iff accepts).mp
        ⟨part, Prod.ext product (Prod.ext sliId rfl)⟩
      exact ⟨part.spec, i, accepted, found, complete, fair⟩
    · rw [← identities_of_read each, ← Compatible.alert_names]
      exact whole.alerts
  · rintro ⟨c, configured, compiles, apart⟩
    refine buildFrom_together configured (fun sli member => ?_) apart
    obtain ⟨spec, i, accepted, found, complete, fair⟩ := compiles sli member
    have accepts := SliSpec.read_accepts accepted
    obtain ⟨part, same⟩ := (Contribution.exists_iff accepts).mpr ⟨i, found, complete, fair⟩
    have own : part.spec = spec := congrArg (·.2.2) same
    exact ⟨part, same ▸ ⟨rfl, rfl, accepted⟩, part.alone (own ▸ accepts)⟩

end Mixin

theorem SliSpec.read_renamed {v product sliId : Value} {spec : SliSpec}
    (accepted : read v product sliId = .ok spec) (product' sliId' : Value) :
    read v product' sliId' = .ok spec := by
  unfold read at accepted ⊢
  split at accepted
  · obtain ⟨found, checked, kept⟩ := bind_ok.mp accepted
    cases found with
    | error issues => cases kept
    | ok spec => exact bind_ok.mpr ⟨_, checked, kept⟩
  · cases accepted

namespace Sample

theorem compiles {c : MixinConfig} (configured : MixinConfig.read config = .ok c)
    {metricType : String} (known : metricType = "up" ∨ metricType = "aws_sqs_message_age")
    {product sliId : String} (named : ¬EmptyAggregation false product.toList)
    (called : ¬EmptyAggregation false sliId.toList) :
    Mixin.Compiles c product sliId (spec metricType "1m") := by
  obtain ⟨s, read⟩ : ∃ s, SliSpec.read (spec metricType "1m") .null .null = .ok s :=
    isOk_iff.mp (by rcases known with rfl | rfl <;> decide +kernel)
  have accepts := SliSpec.read_accepts read
  have unselective : s.selectors = [] := (Except.ok.inj accepts.selectors).symm
  have everywhere : c.environment = none := by
    have none : (MixinConfig.read config).toOption.all (·.environment.isNone) = true := by
      decide +kernel
    rw [configured] at none
    simpa [Except.toOption] using none
  have fair : Unmistakable c s product sliId :=
    ⟨by simp [unselective], by simp [unselective], by simp [everywhere], named, called⟩
  have tag : s.metricType = metricType := by
    rcases known with rfl | rfl <;> exact (Except.ok.inj accepts.metricType).symm
  obtain ⟨i, found, complete⟩ : ∃ i, Registry.standard.get metricType = .ok i ∧
      i.missingField? s = none := by
    rcases known with rfl | rfl <;> exact ⟨_, rfl, rfl⟩
  exact ⟨s, i, SliSpec.read_renamed read _ _, tag ▸ found, complete, fair⟩

end Sample

end SloCompiler
