import Mathlib.Data.List.Nodup
import SloCompiler.Proofs.Acceptance
import SloCompiler.Proofs.DurationReading

namespace SloCompiler

theorem append_cons_inj_last {α : Type} {xs ys before after : List α} {c : α}
    (last : c ∉ before) (last' : c ∉ after) :
    xs ++ c :: before = ys ++ c :: after ↔ xs = ys ∧ before = after := by
  constructor
  · intro same
    rcases List.append_eq_append_iff.mp same with ⟨rest, rfl, shape⟩ | ⟨rest, rfl, shape⟩
    · cases rest with
      | nil => simpa using shape
      | cons d rest =>
        cases shape
        exact absurd (List.mem_append_right _ List.mem_cons_self) last
    · cases rest with
      | nil => simpa using shape.symm
      | cons d rest =>
        cases shape
        exact absurd (List.mem_append_right _ List.mem_cons_self) last'
  · rintro ⟨rfl, rfl⟩
    rfl

namespace RecordingGroups

theorem groupName_toList (product interval : String) :
    (groupName product interval).toList =
      (sanitizeName product).toList ++ '_' :: interval.toList ++
        "_sli_recording_rules".toList := by
  simp [groupName]

theorem groupName_eq_iff {one two interval other : String} (plain : '_' ∉ interval.toList)
    (plain' : '_' ∉ other.toList) :
    groupName one interval = groupName two other ↔
      sanitizeName one = sanitizeName two ∧ interval = other := by
  rw [← String.toList_inj, groupName_toList, groupName_toList, List.append_cancel_right_eq,
    append_cons_inj_last plain plain', String.toList_inj, String.toList_inj]

end RecordingGroups

theorem SliSpec.read_interval_plain {raw product sliId : Value} {spec : SliSpec}
    (accepted : read raw product sliId = .ok spec) : '_' ∉ spec.evalInterval.toList := by
  obtain ⟨d, parsed⟩ := (read_accepts accepted).evalInterval_parses
  exact Duration.text_lacks parsed (by decide) (by decide)

structure GroupsNamed (table : SliTable) (a : Artifacts) : Prop where
  recording : (a.recording.map (·.name)).Nodup ↔
    ∀ (one two : String) (sliId sliId' : Value) (spec spec' : SliSpec),
      (.str one, sliId, spec) ∈ Mixin.entries table →
      (.str two, sliId', spec') ∈ Mixin.entries table →
      spec.evalInterval = spec'.evalInterval → sanitizeName one = sanitizeName two → one = two
  alerting : (a.alerting.map (·.name)).Nodup ↔
    ∀ (one two : String) (sliId sliId' : Value) (spec spec' : SliSpec),
      (.str one, sliId, spec) ∈ Mixin.entries table →
      (.str two, sliId', spec') ∈ Mixin.entries table →
      sanitizeName one = sanitizeName two → one = two

namespace Mixin

variable {config : MixinConfig} {registry : Registry} {parts : List (Contribution config registry)}
  {table : SliTable}

theorem recording_names (parts : List (Contribution config registry)) :
    (assembled config (parts.map (·.compiled))).recording.map (·.name) =
      (parts.map (·.groupKey)).eraseDups.map fun key =>
        RecordingGroups.groupName key.1 key.2 := by
  rw [assembled_recording, List.map_map]
  rfl

theorem alerting_names (parts : List (Contribution config registry)) :
    (assembled config (parts.map (·.compiled))).alerting.map (·.name) =
      (parts.map (·.product)).eraseDups.map fun product =>
        sanitizeName product ++ "_slo_alerts" := by
  rw [assembled_alerting, List.map_map]
  rfl

theorem forall_entries (listed : entries table = parts.map (·.entry))
    {P : String → SliSpec → String → SliSpec → Prop} :
    (∀ part ∈ parts, ∀ other ∈ parts, P part.product part.spec other.product other.spec) ↔
      ∀ (one two : String) (sliId sliId' : Value) (spec spec' : SliSpec),
        (.str one, sliId, spec) ∈ entries table → (.str two, sliId', spec') ∈ entries table →
          P one spec two spec' := by
  rw [listed]
  constructor
  · intro each one two sliId sliId' spec spec' first second
    obtain ⟨part, member, same⟩ := List.mem_map.mp first
    obtain ⟨other, member', same'⟩ := List.mem_map.mp second
    cases same
    cases same'
    exact each part member other member'
  · intro each part member other member'
    exact each _ _ _ _ _ _ (List.mem_map_of_mem member) (List.mem_map_of_mem member')

theorem recording_names_nodup (plain : ∀ part ∈ parts, '_' ∉ part.interval.toList) :
    ((assembled config (parts.map (·.compiled))).recording.map (·.name)).Nodup ↔
      ∀ part ∈ parts, ∀ other ∈ parts, part.interval = other.interval →
        sanitizeName part.product = sanitizeName other.product → part.product = other.product := by
  rw [recording_names, List.nodup_map_iff_inj_on (Ordered.nodup_eraseDups _)]
  simp only [List.mem_eraseDups, List.forall_mem_map, Contribution.groupKey, Prod.mk.injEq]
  refine forall₂_congr fun part member => forall₂_congr fun other member' => ?_
  rw [RecordingGroups.groupName_eq_iff (plain part member) (plain other member')]
  constructor
  · intro apart same alike
    exact (apart ⟨alike, same⟩).1
  · rintro apart ⟨alike, same⟩
    exact ⟨apart same alike, same⟩

theorem alerting_names_nodup :
    ((assembled config (parts.map (·.compiled))).alerting.map (·.name)).Nodup ↔
      ∀ part ∈ parts, ∀ other ∈ parts,
        sanitizeName part.product = sanitizeName other.product → part.product = other.product := by
  rw [alerting_names, List.nodup_map_iff_inj_on (Ordered.nodup_eraseDups _)]
  simp only [List.mem_eraseDups, List.forall_mem_map, String.append_left_inj]

-- Groups are kept by product and interval, but named after what is left of the product in a name:
-- their names differ exactly if no two products that share a document come out the same.
theorem buildFrom_groupsNamed {config slis : Value} {registry : Registry} {a : Artifacts}
    (built : buildFrom config slis registry = .ok a) :
    ∃ table, SliTable.read slis = .ok table ∧ GroupsNamed table a := by
  obtain ⟨c, table, _, declared, parts, listed, _, rfl⟩ := buildFrom_ok.mp built
  have plain : ∀ part ∈ parts, '_' ∉ part.interval.toList := by
    intro part member
    obtain ⟨raw, accepted⟩ := spec_read declared (listed ▸ List.mem_map_of_mem member)
    exact SliSpec.read_interval_plain accepted
  refine ⟨table, declared, ?_, ?_⟩
  · rw [recording_names_nodup plain]
    exact forall_entries listed (P := fun one spec two spec' =>
      spec.evalInterval = spec'.evalInterval → sanitizeName one = sanitizeName two → one = two)
  · rw [alerting_names_nodup]
    exact forall_entries listed (P := fun one _ two _ =>
      sanitizeName one = sanitizeName two → one = two)

theorem sample_groupsNamed :
    ∃ a, buildFrom Sample.config Sample.slis Registry.standard = .ok a ∧
      ∃ table, SliTable.read Sample.slis = .ok table ∧ GroupsNamed table a := by
  obtain ⟨a, built⟩ := Sample.builds
  exact ⟨a, built, buildFrom_groupsNamed built⟩

end Mixin

namespace Sample

def alike : Mixin.SliMap := [("a.b", [("s", spec "up" "1m")]), ("a_b", [("s", spec "up" "1m")])]

theorem alike_builds : ∃ a, Mixin.buildFrom config alike.toValue Registry.standard = .ok a := by
  obtain ⟨c, configured⟩ := config_read
  refine Mixin.buildFrom_succeeds_iff.mpr ⟨c, configured, ?_, by decide +kernel⟩
  exact List.forall_mem_cons.mpr ⟨compiles configured (.inl rfl) (by decide) (by decide),
    List.forall_mem_singleton.mpr (compiles configured (.inl rfl) (by decide) (by decide))⟩

end Sample

namespace Mixin

theorem alike_groups :
    ∃ a, buildFrom Sample.config Sample.alike.toValue Registry.standard = .ok a ∧
      ¬(a.recording.map (·.name)).Nodup ∧ ¬(a.alerting.map (·.name)).Nodup := by
  obtain ⟨a, built⟩ := Sample.alike_builds
  refine ⟨a, built, ?_⟩
  obtain ⟨c, _, parts, each, _, rfl⟩ := contributions_of_build built
  obtain ⟨part, member, product, _, accepted⟩ := forall₂_left each List.mem_cons_self
  obtain ⟨other, member', product', _, accepted'⟩ :=
    forall₂_left each (List.mem_cons_of_mem _ List.mem_cons_self)
  have named : part.product = "a.b" := Value.str.inj product
  have named' : other.product = "a_b" := Value.str.inj product'
  have renamed := SliSpec.read_renamed accepted (.str "a_b") (.str "s")
  have same : part.interval = other.interval :=
    congrArg SliSpec.evalInterval (Except.ok.inj (renamed.symm.trans accepted'))
  have sanitized : sanitizeName part.product = sanitizeName other.product := by
    rw [named, named']
    decide +kernel
  have apart : part.product ≠ other.product := by
    rw [named, named']
    decide
  have plain : ∀ part ∈ parts, '_' ∉ part.interval.toList := by
    intro part member
    obtain ⟨_, _, _, _, accepted⟩ := forall₂_left each.flip member
    exact SliSpec.read_interval_plain accepted
  refine ⟨fun distinct => apart ?_, fun distinct => apart ?_⟩
  · exact (recording_names_nodup plain).mp distinct part member other member' same sanitized
  · exact alerting_names_nodup.mp distinct part member other member' sanitized

end Mixin

end SloCompiler
