import SloCompiler.Proofs.Accounting
import SloCompiler.Proofs.Thinning

namespace SloCompiler

theorem subperm_map {α β : Type} {f : α → β} {xs : List α} {ys : List β}
    (sub : ys.Subperm (xs.map f)) : ∃ fewer : List α, fewer.Subperm xs ∧ ys = fewer.map f := by
  obtain ⟨middle, perm, sub⟩ := sub
  obtain ⟨kept, shorter, rfl⟩ := List.sublist_map_iff.mp sub
  have each : List.Forall₂ (fun y x => y = f x) (kept.map f) kept := by
    rw [List.forall₂_map_left_iff]
    exact List.forall₂_same.mpr fun _ _ => rfl
  obtain ⟨fewer, same, perm⟩ := List.perm_comp_forall₂ perm.symm each
  refine ⟨fewer, ⟨kept, perm.symm, shorter⟩, ?_⟩
  rwa [← List.forall₂_eq_eq_eq, List.forall₂_map_right_iff]

-- What of a mixin concerns one SLI or one product, as its labels tell.
namespace Artifacts

def concerns (product sliId : String) (labels : Labels) : Bool :=
  Ordered.get? labels "product" == some product && Ordered.get? labels "sliId" == some sliId

def concernsProduct (product : String) (labels : Labels) : Bool :=
  Ordered.get? labels "product" == some product

def rulesOf (a : Artifacts) (product sliId : String) : List RecordingRule :=
  (a.recording.flatMap (·.rules)).filter fun r => concerns product sliId r.labels

def alertsOf (a : Artifacts) (product sliId : String) : List AlertingRule :=
  (a.alerting.flatMap (·.rules)).filter fun r => concerns product sliId r.labels

def recordingOf (a : Artifacts) (product : String) : List RecordingGroup :=
  a.recording.filter fun g => g.rules.any fun r => concernsProduct product r.labels

def alertingOf (a : Artifacts) (product : String) : List AlertGroup :=
  a.alerting.filter fun g => g.rules.any fun r => concernsProduct product r.labels

def dashboardOf (a : Artifacts) (product : String) : Option Dashboard :=
  Ordered.get? a.dashboards product

end Artifacts

open Artifacts

namespace Contribution

variable {config : MixinConfig} {registry : Registry}

theorem entry_injective {part other : Contribution config registry}
    (same : part.entry = other.entry) : part = other := by
  obtain ⟨⟨product, sliId, type⟩, spec, indicator, measured, panel, type_eq, found, measures, shows,
    ordered⟩ := part
  obtain ⟨⟨product', sliId', type'⟩, spec', indicator', measured', panel', type_eq', found',
    measures', shows', ordered'⟩ := other
  have given : product = product' ∧ sliId = sliId' ∧ spec = spec' := by
    simpa [entry, Contribution.product, Contribution.sliId] using same
  clear same
  obtain ⟨rfl, rfl, rfl⟩ := given
  have type : type = type' := type_eq.trans type_eq'.symm
  subst type
  have indicator : indicator = indicator' := Except.ok.inj (found.symm.trans found')
  subst indicator
  have measured : measured = measured' := Except.ok.inj (measures.symm.trans measures')
  have panel : panel = panel' := Except.ok.inj (shows.symm.trans shows')
  subst measured panel
  rfl

theorem alert_labels (part : Contribution config registry) :
    Ordered.get? part.alert.labels "product" = some part.product ∧
      Ordered.get? part.alert.labels "sliId" = some part.sliId := by
  cases given : config.environment with
  | none =>
    simp [alert, AlertingRule.ofSli, Alert.labels, given, Labels.merge, Ordered.putAll,
      Ordered.put, Ordered.get?, SliMetadata.labels, List.lookup_cons, product, sliId]
  | some environment =>
    by_cases empty : environment.isEmpty = true <;>
      simp [alert, AlertingRule.ofSli, Alert.labels, given, empty, Labels.merge, Ordered.putAll,
        Ordered.put, Ordered.get?, SliMetadata.labels, List.lookup_cons, product, sliId]

theorem rule_concerns {part : Contribution config registry} {r : RecordingRule}
    (member : r ∈ part.block) (product sliId : String) :
    concerns product sliId r.labels = true ↔ part.product = product ∧ part.sliId = sliId := by
  rw [part.block_labels r member]
  simp [concerns, Ordered.get?, labels, SliMetadata.labels, List.lookup_cons,
    Contribution.product, Contribution.sliId]

theorem alert_concerns (part : Contribution config registry) (product sliId : String) :
    concerns product sliId part.alert.labels = true ↔
      part.product = product ∧ part.sliId = sliId := by
  rw [concerns, part.alert_labels.1, part.alert_labels.2]
  simp

theorem rule_product {part : Contribution config registry} {r : RecordingRule}
    (member : r ∈ part.block) (product : String) :
    concernsProduct product r.labels = (part.product == product) := by
  rw [part.block_labels r member]
  simp [concernsProduct, Ordered.get?, labels, SliMetadata.labels, Contribution.product]

theorem alert_product (part : Contribution config registry) (product : String) :
    concernsProduct product part.alert.labels = (part.product == product) := by
  rw [concernsProduct, part.alert_labels.1]
  simp

end Contribution

namespace Mixin

variable {config : MixinConfig} {registry : Registry} {parts : List (Contribution config registry)}

theorem rulesOf_part (whole : Compatible parts) {part : Contribution config registry}
    (member : part ∈ parts) :
    (assembled config (parts.map (·.compiled))).rulesOf part.product part.sliId = part.block := by
  rw [Artifacts.rulesOf, rules_filter whole member]
  · exact List.filter_eq_self.mpr fun r listed =>
      (Contribution.rule_concerns listed _ _).mpr ⟨rfl, rfl⟩
  · intro other _ r listed wanted
    obtain ⟨product, sliId⟩ := (Contribution.rule_concerns listed _ _).mp wanted
    rw [Contribution.identity, Contribution.identity, product, sliId]

theorem assembled_alerts :
    (assembled config (parts.map (·.compiled))).alerting.flatMap (·.rules) =
      (alertGroups (parts.map (·.compiled))).rules := by
  rw [assembled, AlertGroups.document, AlertGroups.rules, Ordered.flatten, List.flatMap_map]

theorem alertsOf_part (whole : Compatible parts) {part : Contribution config registry}
    (member : part ∈ parts) :
    (assembled config (parts.map (·.compiled))).alertsOf part.product part.sliId =
      [part.alert] := by
  have only : (parts.map (·.alert)).filter (fun r => concerns part.product part.sliId r.labels) =
      [part.alert] := by
    rw [List.map_eq_flatMap, List.filter_flatMap, Ordered.flatMap_only whole.identities member]
    · exact List.filter_eq_self.mpr fun r listed => by
        rw [List.mem_singleton.mp listed]
        exact (part.alert_concerns _ _).mpr ⟨rfl, rfl⟩
    · intro other _ apart
      refine List.filter_eq_nil_iff.mpr fun r listed wanted => apart ?_
      rw [List.mem_singleton.mp listed] at wanted
      obtain ⟨product, sliId⟩ := (other.alert_concerns _ _).mp wanted
      rw [Contribution.identity, Contribution.identity, product, sliId]
  rw [Artifacts.alertsOf, assembled_alerts]
  exact List.perm_singleton.mp (only ▸ (alerts_perm parts).filter _)

theorem recordingOf_product (parts : List (Contribution config registry)) (product : String) :
    (assembled config (parts.map (·.compiled))).recordingOf product =
      RecordingGroups.document
        (Ordered.grouped (·.groupKey) (·.block) (parts.filter (·.product == product))) := by
  have kept := Ordered.filter_grouped_any (fun r : RecordingRule => concernsProduct product r.labels)
    (fun key : String × String => key.1 == product)
    (fun part : Contribution config registry => part.groupKey) (·.block) parts
    (fun part _ r own => Contribution.rule_product own product)
    (fun part _ => List.append_ne_nil_of_right_ne_nil _ (List.cons_ne_nil _ _))
  rw [Artifacts.recordingOf, assembled, recordingGroups_parts, RecordingGroups.document,
    List.filter_map]
  exact congrArg RecordingGroups.document kept

theorem alertingOf_product (parts : List (Contribution config registry)) (product : String) :
    (assembled config (parts.map (·.compiled))).alertingOf product =
      AlertGroups.document
        (Ordered.grouped (·.product) (fun part => [part.alert])
          (parts.filter (·.product == product))) := by
  have kept := Ordered.filter_grouped_any (fun r : AlertingRule => concernsProduct product r.labels)
    (fun key : String => key == product)
    (fun part : Contribution config registry => part.product) (fun part => [part.alert]) parts
    (fun part _ r own => by
      rw [List.mem_singleton.mp own]
      exact part.alert_product product)
    (fun part _ => List.cons_ne_nil _ _)
  rw [Artifacts.alertingOf, assembled, alertGroups_parts, AlertGroups.document, List.filter_map]
  exact congrArg AlertGroups.document kept

theorem listed_product (parts : List (Contribution config registry)) (product : String) :
    product ∈ (parts.map (·.product)).eraseDups ↔ parts.filter (·.product == product) ≠ [] := by
  rw [List.mem_eraseDups, List.mem_map, Ne, List.filter_eq_nil_iff]
  simp

theorem dashboardOf_product (parts : List (Contribution config registry)) (product : String) :
    (assembled config (parts.map (·.compiled))).dashboardOf product =
      if parts.filter (·.product == product) = [] then none
      else some (PanelGroups.dashboard config product
        (config.displayName ++ " / " ++ product ++ " SLIs") product
        [(product, (parts.filter (·.product == product)).map (·.panel))]) := by
  have panels : (Ordered.get? (panelGroups (parts.map (·.compiled))) product).getD [] =
      (parts.filter (·.product == product)).map (·.panel) := by
    rw [panelGroups_parts, Ordered.get?_grouped, List.map_eq_flatMap]
  have named : (panelGroups (parts.map (·.compiled))).dashboards config =
      (parts.map (·.product)).eraseDups.map fun product =>
        (product, PanelGroups.productDashboard config (panelGroups (parts.map (·.compiled)))
          product) := by
    rw [PanelGroups.dashboards]
    conv => lhs; arg 2; rw [panelGroups_parts, Ordered.grouped]
    rw [List.map_map]
    rfl
  rw [Artifacts.dashboardOf, assembled, named, Ordered.lookup_map, PanelGroups.productDashboard,
    panels]
  by_cases none : parts.filter (·.product == product) = []
  · rw [if_pos none, if_neg fun listed => (listed_product parts product).mp listed none]
  · rw [if_neg none, if_pos ((listed_product parts product).mpr none)]

end Mixin

namespace Compatible

variable {config : MixinConfig} {registry : Registry}
  {parts fewer : List (Contribution config registry)}

theorem subperm (whole : Compatible parts) (sub : fewer.Subperm parts) : Compatible fewer := by
  obtain ⟨kept, perm, shorter⟩ := sub
  refine ⟨?_, ?_, fun part member => whole.readable part (shorter.subset (perm.mem_iff.mpr member))⟩
  · refine ((perm.flatMap_right _).map _).nodup_iff.mp ?_
    exact whole.series.sublist ((shorter.flatMap _).map _)
  · exact (perm.map _).nodup_iff.mp (whole.alerts.sublist (shorter.map _))

end Compatible

namespace Sample

def fewer : Value :=
  .object [
    ("p\\", .object [("a", spec "up" "1m")]),
    ("cart", .object [("a", spec "up" "1m")])]

theorem thinned : Thinned slis fewer := by
  refine .intro (List.Sublist.refl _) (.cons ?_ (.cons ?_ .nil)) (List.Perm.swap _ _ _)
  · exact ⟨_, _, rfl, rfl, List.Sublist.cons_cons _ (List.Sublist.cons _ .slnil)⟩
  · exact ⟨_, _, rfl, rfl, List.Sublist.refl _⟩

end Sample

namespace Mixin

-- What is left out changes nothing about what is kept.
theorem buildFrom_independent {config slis thinned : Value} {a : Artifacts}
    (built : buildFrom config slis Registry.standard = .ok a) (less : Thinned slis thinned) :
    ∃ c a', MixinConfig.read config = .ok c ∧
      buildFrom config thinned Registry.standard = .ok a' ∧
      (∀ product sliId raw, (.str product, .str sliId, raw) ∈ declaredSlis thinned →
        ∃ part : Contribution c Registry.standard, part.product = product ∧ part.sliId = sliId ∧
          a.rulesOf product sliId = part.block ∧ a'.rulesOf product sliId = part.block ∧
          a.alertsOf product sliId = [part.alert] ∧ a'.alertsOf product sliId = [part.alert]) ∧
      ∀ product, slisOf product thinned = slisOf product slis →
        a'.recordingOf product = a.recordingOf product ∧
        a'.alertingOf product = a.alertingOf product ∧
        a'.dashboardOf product = a.dashboardOf product := by
  obtain ⟨c, table, configured, declared, parts, listed, whole, rfl⟩ := buildFrom_ok.mp built
  obtain ⟨table', read, sub⟩ := less.read declared
  rw [listed] at sub
  obtain ⟨fewer, sub, listed'⟩ := subperm_map sub
  have whole' := whole.subperm sub
  refine ⟨c, _, configured, buildFrom_ok.mpr ⟨c, table', configured, read, fewer, listed', whole',
    rfl⟩, ?_, ?_⟩
  · intro product sliId raw given
    obtain ⟨entry, found, first, second, _⟩ := forall₂_left (SliTable.read_declared read) given
    rw [listed'] at found
    obtain ⟨part, member, rfl⟩ := List.mem_map.mp found
    obtain rfl : part.product = product := Value.str.inj first
    obtain rfl : part.sliId = sliId := Value.str.inj second
    exact ⟨part, rfl, rfl, rulesOf_part whole (sub.subset member), rulesOf_part whole' member,
      alertsOf_part whole (sub.subset member), alertsOf_part whole' member⟩
  · intro product same
    -- The same entries contribute the same, so whatever comes from them alone is the same.
    have entries := entries_of_product declared read same
    rw [listed, listed', List.filter_map, List.filter_map] at entries
    have own : fewer.filter (·.product == product) = parts.filter (·.product == product) :=
      List.map_injective_iff.mpr (fun _ _ => Contribution.entry_injective) entries
    rw [recordingOf_product, recordingOf_product, alertingOf_product, alertingOf_product,
      dashboardOf_product, dashboardOf_product, own]
    exact ⟨rfl, rfl, rfl⟩

theorem sample_independent : ∃ a,
    buildFrom Sample.config Sample.slis Registry.standard = .ok a ∧
      Thinned Sample.slis Sample.fewer ∧
      ∃ c a', MixinConfig.read Sample.config = .ok c ∧
        buildFrom Sample.config Sample.fewer Registry.standard = .ok a' ∧
        (∀ product sliId raw, (.str product, .str sliId, raw) ∈ declaredSlis Sample.fewer →
          ∃ part : Contribution c Registry.standard, part.product = product ∧
            part.sliId = sliId ∧
            a.rulesOf product sliId = part.block ∧ a'.rulesOf product sliId = part.block ∧
            a.alertsOf product sliId = [part.alert] ∧
            a'.alertsOf product sliId = [part.alert]) ∧
        ∀ product, slisOf product Sample.fewer = slisOf product Sample.slis →
          a'.recordingOf product = a.recordingOf product ∧
          a'.alertingOf product = a.alertingOf product ∧
          a'.dashboardOf product = a.dashboardOf product := by
  obtain ⟨a, built⟩ := Sample.builds
  exact ⟨a, built, Sample.thinned, buildFrom_independent built Sample.thinned⟩

end Mixin

end SloCompiler
