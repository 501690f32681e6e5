import SloCompiler.Proofs.Acceptance
import SloCompiler.Proofs.Independence

namespace SloCompiler

def uidChar (c : Char) : Char := if c.isAlphanum || c == '_' || c == '-' then c.toLower else '-'

def uidChars (name : String) : List Char := name.toList.map uidChar

def uidRoom (mixin : String) : Nat := 39 - mixin.length

def uidEnding : List Char := "-slis".toList

-- Names of which a uid shows no difference: they are written alike in it, or differ only behind
-- the place at which both are cut off.
inductive Indistinct (mixin one two : String) : Prop where
  | alike (same : uidChars one = uidChars two)
  | cutOff (first : uidRoom mixin ≤ one.length + uidEnding.length)
      (second : uidRoom mixin ≤ two.length + uidEnding.length)
      (same : (uidChars one ++ uidEnding).take (uidRoom mixin) =
        (uidChars two ++ uidEnding).take (uidRoom mixin))

theorem Indistinct.refl (mixin name : String) : Indistinct mixin name name := .alike rfl

theorem take_eq_take_iff {α : Type} {xs ys : List α} {n : Nat} :
    xs.take n = ys.take n ↔
      xs = ys ∨ n ≤ xs.length ∧ n ≤ ys.length ∧ xs.take n = ys.take n := by
  constructor
  · intro same
    have lengths := congrArg List.length same
    simp only [List.length_take] at lengths
    by_cases long : n ≤ xs.length ∧ n ≤ ys.length
    · exact .inr ⟨long.1, long.2, same⟩
    · have all : xs.length ≤ n ∧ ys.length ≤ n := by omega
      rw [List.take_of_length_le all.1, List.take_of_length_le all.2] at same
      exact .inl same
  · rintro (rfl | ⟨_, _, same⟩)
    · rfl
    · exact same

theorem dashboardUid_toList (mixin product : String) :
    (dashboardUid mixin product).toList =
      (uidChars mixin ++ ['-'] ++ (uidChars product ++ uidEnding)).take 40 := by
  have dash : "-".toList.map uidChar = ['-'] := rfl
  have ending : "-slis".toList.map uidChar = uidEnding := rfl
  have shape : (mixin ++ "-" ++ product ++ "-slis").toList.map uidChar =
      uidChars mixin ++ ['-'] ++ (uidChars product ++ uidEnding) := by
    simp only [String.toList_append, List.map_append, dash, ending, uidChars, List.append_assoc]
  rw [← shape]
  exact String.toList_ofList

theorem dashboardUid_eq_iff {mixin one two : String} :
    dashboardUid mixin one = dashboardUid mixin two ↔ Indistinct mixin one two := by
  have before : (uidChars mixin ++ ['-']).length = mixin.length + 1 := by
    simp [uidChars, String.length_toList]
  have room : 40 - (mixin.length + 1) = uidRoom mixin := by
    rw [uidRoom]
    omega
  have size (name : String) : (uidChars name ++ uidEnding).length =
      name.length + uidEnding.length := by simp [uidChars, String.length_toList]
  have shape (name : String) : (dashboardUid mixin name).toList =
      (uidChars mixin ++ ['-']).take 40 ++ (uidChars name ++ uidEnding).take (uidRoom mixin) := by
    rw [dashboardUid_toList, List.take_append, before, room]
  rw [← String.toList_inj, shape, shape, List.append_cancel_left_eq, take_eq_take_iff,
    List.append_cancel_right_eq, size, size]
  constructor
  · rintro (same | ⟨first, second, same⟩)
    · exact .alike same
    · exact .cutOff first second same
  · intro indistinct
    cases indistinct with
    | alike same => exact .inl same
    | cutOff first second same => exact .inr ⟨first, second, same⟩

def Artifacts.boards (a : Artifacts) : List (String × Dashboard) :=
  a.dashboards ++ [("summary", a.summary)]

structure Linked (c : MixinConfig) (table : SliTable) (a : Artifacts) : Prop where
  products : ∀ product, product ∈ a.dashboards.map (·.1) ↔
    ∃ sliId spec, (Value.str product, sliId, spec) ∈ Mixin.entries table
  distinct : (a.dashboards.map (·.1)).Nodup
  uids : (a.boards.map (·.2.uid)).Nodup ↔
    (a.dashboards.map (·.1)).Pairwise (fun one two => ¬Indistinct c.product one two) ∧
      ∀ product ∈ a.dashboards.map (·.1), ¬Indistinct c.product product "summary"
  links : ∀ r ∈ a.alerting.flatMap (·.rules), ∃ product d,
    Ordered.get? r.labels "product" = some product ∧ (product, d) ∈ a.dashboards ∧
      Ordered.get? r.annotations "dashboard" = some (c.grafanaUrl ++ "/d/" ++ d.uid) ∧
        ∀ board ∈ a.boards, board.2.uid = d.uid ↔ Indistinct c.product board.1 product

namespace Contribution

variable {config : MixinConfig} {registry : Registry}

theorem alert_link (part : Contribution config registry) :
    Ordered.get? part.alert.annotations "dashboard" =
      some (config.grafanaUrl ++ "/d/" ++ dashboardUid config.product part.product) := by
  simp [alert, AlertingRule.ofSli, Alert.annotations, Ordered.get?, List.lookup_cons, product]

end Contribution

namespace Mixin

variable {config : MixinConfig} {registry : Registry} (parts : List (Contribution config registry))

theorem dashboard_names :
    (assembled config (parts.map (·.compiled))).dashboards.map (·.1) =
      (parts.map (·.product)).eraseDups := by
  rw [assembled, PanelGroups.dashboards, List.map_map, panelGroups_parts, Ordered.grouped,
    List.map_map]
  exact List.map_id _

theorem board_uid {board : String × Dashboard}
    (listed : board ∈ (assembled config (parts.map (·.compiled))).boards) :
    board.2.uid = dashboardUid config.product board.1 := by
  rcases List.mem_append.mp listed with own | summary
  · obtain ⟨row, _, rfl⟩ := List.mem_map.mp own
    rfl
  · cases List.mem_singleton.mp summary
    rfl

theorem boards_apart {a : Artifacts}
    (uid : ∀ board ∈ a.boards, board.2.uid = dashboardUid config.product board.1) :
    (a.boards.map (·.2.uid)).Nodup ↔
      (a.dashboards.map (·.1)).Pairwise (fun one two => ¬Indistinct config.product one two) ∧
        ∀ product ∈ a.dashboards.map (·.1), ¬Indistinct config.product product "summary" := by
  have names : a.boards.map (·.2.uid) =
      (a.dashboards.map (·.1) ++ ["summary"]).map (dashboardUid config.product) := by
    rw [List.map_congr_left uid, Artifacts.boards, List.map_append, List.map_append, List.map_map]
    rfl
  rw [names, List.Nodup, List.pairwise_map, List.pairwise_append]
  simp only [ne_eq, dashboardUid_eq_iff, List.pairwise_singleton, List.mem_singleton,
    forall_eq, true_and]

theorem assembled_linked {table : SliTable} (listed : entries table = parts.map (·.entry)) :
    Linked config table (assembled config (parts.map (·.compiled))) where
  products := by
    intro product
    rw [dashboard_names, List.mem_eraseDups, listed]
    constructor
    · intro named
      obtain ⟨part, member, rfl⟩ := List.mem_map.mp named
      exact ⟨_, _, List.mem_map_of_mem member⟩
    · rintro ⟨sliId, spec, found⟩
      obtain ⟨part, member, same⟩ := List.mem_map.mp found
      cases same
      exact List.mem_map_of_mem member
  distinct := by
    rw [dashboard_names]
    exact Ordered.nodup_eraseDups _
  uids := boards_apart fun _ => board_uid parts
  links := by
    intro r found
    rw [assembled_alerts] at found
    obtain ⟨part, member, rfl⟩ := List.mem_map.mp ((alerts_perm parts).mem_iff.mp found)
    have named :
        part.product ∈ (assembled config (parts.map (·.compiled))).dashboards.map (·.1) := by
      rw [dashboard_names, List.mem_eraseDups]
      exact List.mem_map_of_mem member
    obtain ⟨⟨product, d⟩, present, same⟩ := List.mem_map.mp named
    cases same
    have own := board_uid parts (List.mem_append_left _ present)
    refine ⟨part.product, d, part.alert_labels.1, present, ?_, fun board shown => ?_⟩
    · rw [own]
      exact part.alert_link
    · rw [board_uid parts shown, own]
      exact dashboardUid_eq_iff

-- Every alert leads to the dashboard of its own product, and to others exactly if the uid shows no
-- difference between their names.
theorem buildFrom_linked {config slis : Value} {registry : Registry} {a : Artifacts}
    (built : buildFrom config slis registry = .ok a) :
    ∃ c table, MixinConfig.read config = .ok c ∧ SliTable.read slis = .ok table ∧
      Linked c table a := by
  obtain ⟨c, table, configured, declared, parts, listed, _, rfl⟩ := buildFrom_ok.mp built
  exact ⟨c, table, configured, declared, assembled_linked parts listed⟩

theorem sample_linked :
    ∃ a, buildFrom Sample.config Sample.slis Registry.standard = .ok a ∧
      ∃ c table, MixinConfig.read Sample.config = .ok c ∧
        SliTable.read Sample.slis = .ok table ∧ Linked c table a := by
  obtain ⟨a, built⟩ := Sample.builds
  exact ⟨a, built, buildFrom_linked built⟩

end Mixin

namespace Sample

def reserved : Mixin.SliMap := .one "summary" "s" (spec "up" "1m")

theorem reserved_builds :
    ∃ a, Mixin.buildFrom config reserved.toValue Registry.standard = .ok a := by
  obtain ⟨c, configured⟩ := config_read
  exact Mixin.buildFrom_succeeds_iff.mpr ⟨c, configured,
    List.forall_mem_singleton.mpr (compiles configured (.inl rfl) (by decide) (by decide)),
    List.nodup_singleton _⟩

end Sample

namespace Mixin

theorem reserved_shares :
    ∃ a, buildFrom Sample.config Sample.reserved.toValue Registry.standard = .ok a ∧
      ∃ d, ("summary", d) ∈ a.dashboards ∧ d.uid = a.summary.uid ∧
        ¬(a.boards.map (·.2.uid)).Nodup := by
  obtain ⟨a, built⟩ := Sample.reserved_builds
  refine ⟨a, built, ?_⟩
  obtain ⟨c, _, parts, each, _, rfl⟩ := contributions_of_build built
  obtain ⟨part, member, product, _⟩ := forall₂_left each List.mem_cons_self
  have named : "summary" ∈ (assembled c (parts.map (·.compiled))).dashboards.map (·.1) := by
    rw [dashboard_names, List.mem_eraseDups]
    exact List.mem_map.mpr ⟨part, member, Value.str.inj product⟩
  obtain ⟨⟨_, d⟩, present, rfl⟩ := List.mem_map.mp named
  refine ⟨d, present, board_uid parts (List.mem_append_left _ present), fun apart => ?_⟩
  exact ((boards_apart fun _ => board_uid parts).mp apart).2 _ named (.refl _ _)

end Mixin

end SloCompiler
