import SloCompiler.Proofs.Acceptance

namespace SloCompiler

namespace Check

theorem alertsFrom_shared {recorded seen : List String} {alerts : List AlertingRule}
    (sound : ∀ a ∈ alerts, AlertSound recorded a) :
    ∀ f ∈ alertsFrom recorded seen alerts, f.defect = .duplicateAlert f.rule ∧
      2 ≤ (seen ++ alerts.map (·.alert)).count f.rule := by
  induction alerts generalizing seen with
  | nil => exact List.forall_mem_nil _
  | cons a alerts ih =>
    obtain ⟨readable, reads⟩ := sound a List.mem_cons_self
    intro f member
    rcases List.mem_append.mp member with own | later
    · obtain ⟨d, found, rfl⟩ := List.mem_map.mp own
      have seenBefore : a.alert ∈ seen ∧ d = .duplicateAlert a.alert := by
        simpa [readable, reads] using found
      obtain ⟨before, rfl⟩ := seenBefore
      have once := List.count_pos_iff.mpr before
      refine ⟨rfl, ?_⟩
      dsimp only
      rw [List.count_append, List.map_cons, List.count_cons_self]
      omega
    · obtain ⟨kind, twice⟩ := ih (fun b listed => sound b (List.mem_cons_of_mem _ listed)) f later
      refine ⟨kind, ?_⟩
      rw [List.cons_append, List.count_cons, List.count_append] at twice
      rw [List.count_append, List.map_cons, List.count_cons]
      omega

theorem requireDocuments_shared {rules : List RecordingRule} {alerts : List AlertingRule}
    (series : (rules.map seriesKey).Nodup)
    (sound : ∀ a ∈ alerts, AlertSound (rules.map (·.record)).eraseDups a)
    (shared : ¬(alerts.map (·.alert)).Nodup) :
    ∃ findings, requireDocuments rules alerts = .error (.ofCause (.rules findings)) ∧
      ∀ f ∈ findings, f.defect = .duplicateAlert f.rule ∧
        2 ≤ (alerts.map (·.alert)).count f.rule := by
  have refused : ¬∃ u, requireDocuments rules alerts = .ok u := fun ⟨_, passed⟩ =>
    shared (requireDocuments_ok.mp passed).2.1
  unfold requireDocuments at refused ⊢
  rw [(uniqueSeries_nil rules).mpr series, List.nil_append] at refused ⊢
  dsimp only at refused ⊢
  split
  · next none => exact absurd ⟨(), if_pos none⟩ refused
  · exact ⟨_, rfl, alertsFrom_shared sound⟩

end Check

namespace Sample

def colliding : Mixin.SliMap :=
  [("a-b", [("c", spec "up" "1m")]), ("a", [("b-c", spec "up" "1m")])]

theorem colliding_alone : ∀ sli ∈ colliding.entries, ∃ a, Mixin.buildFrom config
    (Mixin.SliMap.one sli.1 sli.2.1 sli.2.2).toValue Registry.standard = .ok a := by
  obtain ⟨c, configured⟩ := config_read
  have builds {product sliId : String} (named : ¬Check.EmptyAggregation false product.toList)
      (called : ¬Check.EmptyAggregation false sliId.toList) : ∃ a, Mixin.buildFrom config
        (Mixin.SliMap.one product sliId (spec "up" "1m")).toValue Registry.standard = .ok a :=
    Mixin.buildFrom_succeeds_iff.mpr ⟨c, configured,
      List.forall_mem_singleton.mpr (compiles configured (.inl rfl) named called),
      List.nodup_singleton _⟩
  exact List.forall_mem_cons.mpr ⟨builds (by decide) (by decide),
    List.forall_mem_singleton.mpr (builds (by decide) (by decide))⟩

end Sample

namespace Mixin

variable {config : Value} {c : MixinConfig} {registry : Registry}

theorem contributes_alone (configured : MixinConfig.read config = .ok c) {product sliId : String}
    {spec : Value}
    (alone : ∃ a, buildFrom config (SliMap.one product sliId spec).toValue registry = .ok a) :
    ∃ part : Contribution c registry, ReadAs (.str product, .str sliId, spec) part.entry ∧
      Compatible [part] := by
  obtain ⟨a, built⟩ := alone
  obtain ⟨c', configured', parts, read, whole, rfl⟩ := contributions_of_build built
  obtain rfl : c = c' := Except.ok.inj (configured.symm.trans configured')
  cases parts with
  | nil => cases read
  | cons part parts =>
    obtain ⟨own, rest⟩ := List.forall₂_cons.mp read
    obtain rfl : parts = [] := by simpa using List.forall₂_nil_left_iff.mp rest
    exact ⟨part, own, whole⟩

theorem buildFrom_shared (configured : MixinConfig.read config = .ok c) {slis : SliMap}
    (distinct : slis.identities.Nodup)
    (each : ∀ sli ∈ slis.entries, ∃ part : Contribution c registry,
      ReadAs (.str sli.1, .str sli.2.1, sli.2.2) part.entry ∧ Compatible [part])
    (shared : ¬(slis.identities.map Alert.name).Nodup) :
    ∃ findings, buildFrom config slis.toValue registry = .error (.ofCause (.rules findings)) ∧
      ∀ f ∈ findings, f.defect = .duplicateAlert f.rule ∧
        2 ≤ (slis.identities.map Alert.name).count f.rule := by
  obtain ⟨parts, table, declared, listed, identities, alone⟩ := contributions_of_each each
  have names : (alertGroups (parts.map (·.compiled))).rules.map (·.alert) |>.Perm
      (slis.identities.map Alert.name) := by
    rw [← identities, ← Compatible.alert_names]
    have perm := (alerts_perm parts).map (·.alert)
    rwa [List.map_map] at perm
  have series := Compatible.series_of_alone alone (identities ▸ distinct)
  obtain ⟨findings, refused, duplicates⟩ := Check.requireDocuments_shared
    (((recorded_perm parts).map _).nodup_iff.mpr series)
    ((alerts_sound parts).mpr fun part member =>
      (alone part member).readable part List.mem_cons_self)
    (names.nodup_iff.not.mpr shared)
  refine ⟨findings, ?_, fun f member => ?_⟩
  · rw [buildFrom, configured, declared]
    exact (build_parts listed).trans (by rw [assemble_parts, refused]; rfl)
  · rw [← names.count_eq]
    exact duplicates f member

-- SLIs that build each on its own build together, unless alerts of two of them have one name;
-- then these names are all that is wrong.
theorem buildFrom_composes (configured : MixinConfig.read config = .ok c) {slis : SliMap}
    (distinct : slis.identities.Nodup)
    (alone : ∀ sli ∈ slis.entries, ∃ a,
      buildFrom config (SliMap.one sli.1 sli.2.1 sli.2.2).toValue registry = .ok a) :
    ((slis.identities.map Alert.name).Nodup →
        ∃ a, buildFrom config slis.toValue registry = .ok a) ∧
      (¬(slis.identities.map Alert.name).Nodup → ∃ findings,
        buildFrom config slis.toValue registry = .error (.ofCause (.rules findings)) ∧
          ∀ f ∈ findings, f.defect = .duplicateAlert f.rule ∧
            2 ≤ (slis.identities.map Alert.name).count f.rule) := by
  have each := fun sli member => contributes_alone configured (alone sli member)
  exact ⟨buildFrom_together configured each, buildFrom_shared configured distinct each⟩

theorem colliding_composes : ∃ c, MixinConfig.read Sample.config = .ok c ∧
    Sample.colliding.identities.Nodup ∧
    (∀ sli ∈ Sample.colliding.entries, ∃ a, buildFrom Sample.config
      (SliMap.one sli.1 sli.2.1 sli.2.2).toValue Registry.standard = .ok a) ∧
    ((Sample.colliding.identities.map Alert.name).Nodup →
        ∃ a, buildFrom Sample.config Sample.colliding.toValue Registry.standard = .ok a) ∧
      (¬(Sample.colliding.identities.map Alert.name).Nodup → ∃ findings,
        buildFrom Sample.config Sample.colliding.toValue Registry.standard =
            .error (.ofCause (.rules findings)) ∧
          ∀ f ∈ findings, f.defect = .duplicateAlert f.rule ∧
            2 ≤ (Sample.colliding.identities.map Alert.name).count f.rule) := by
  obtain ⟨c, configured⟩ := Sample.config_read
  have distinct : Sample.colliding.identities.Nodup := by decide
  exact ⟨c, configured, distinct, Sample.colliding_alone,
    buildFrom_composes configured distinct Sample.colliding_alone⟩

theorem colliding_fails :
    Sample.colliding.identities.Nodup ∧
      Sample.colliding.identities.map Alert.name = ["ABCSloBreach", "ABCSloBreach"] ∧
      (∀ sli ∈ Sample.colliding.entries, ∃ a, buildFrom Sample.config
        (SliMap.one sli.1 sli.2.1 sli.2.2).toValue Registry.standard = .ok a) ∧
      ¬∃ a, buildFrom Sample.config Sample.colliding.toValue Registry.standard = .ok a := by
  refine ⟨by decide, by decide +kernel, Sample.colliding_alone, fun built => ?_⟩
  obtain ⟨_, _, _, apart⟩ := buildFrom_succeeds_iff.mp built
  exact absurd apart (by decide +kernel)

end Mixin

end SloCompiler
