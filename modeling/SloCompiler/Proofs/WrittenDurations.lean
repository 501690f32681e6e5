import SloCompiler.Proofs.Accounting
import SloCompiler.Proofs.DurationReading
import SloCompiler.Proofs.Ranges

namespace SloCompiler
open Check

def Panel.HasQuery (panel : Entries) (query : String) : Prop :=
  ∃ targets, panel.get? "targets" = some (.list targets) ∧
    ∃ target ∈ targets, target.field? "expr" = some (.str query)

namespace Panel

theorem row_asks_nothing (title : Value) (query : String) :
    ¬HasQuery (row title (.bool false)) query := by
  rintro ⟨targets, listed, _⟩
  cases listed

theorem TimeSeries.panel_hasQuery {p : TimeSeries} {query : String} :
    HasQuery p.panel query ↔ ∃ target ∈ p.targets, target.get? "expr" = some (.str query) := by
  have shown : p.panel.get? "targets" = some (.list ((withRefIds p.targets).map .map)) := rfl
  have kept (target : Entries) (index : Nat) :
      (target.put "refId" (.str (refId index))).get? "expr" = target.get? "expr" := by
    rw [Entries.get?_put, if_neg (by decide)]
  simp only [HasQuery, shown, withRefIds_values, Option.some.injEq, Value.list.injEq,
    exists_eq_left', List.mem_mapIdx]
  constructor
  · rintro ⟨_, ⟨index, bound, rfl⟩, asked⟩
    exact ⟨_, List.getElem_mem bound, (kept _ _).symm.trans asked⟩
  · rintro ⟨target, listed, asked⟩
    obtain ⟨index, bound, rfl⟩ := List.getElem_of_mem listed
    exact ⟨_, ⟨index, bound, rfl⟩, (kept _ _).trans asked⟩

end Panel

theorem Indicator.panel_query {i : Indicator} {spec : SliSpec} {datasource query : String}
    {panel : Entries} (shown : i.panel spec datasource = .ok panel)
    (asked : Panel.HasQuery panel query) : ∃ clauses table, i.targets = .ok table ∧
      ∃ e ∈ i.panelExprs spec (seriesOf table clauses), query = e.render := by
  obtain ⟨_, _, shown⟩ := bind_ok.mp shown
  obtain ⟨clauses, _, shown⟩ := bind_ok.mp shown
  obtain ⟨queries, made, shown⟩ := bind_ok.mp shown
  obtain ⟨_, _, shown⟩ := bind_ok.mp shown
  rw [← Except.ok.inj shown, Panel.TimeSeries.panel_hasQuery] at asked
  obtain ⟨target, listed, text⟩ := asked
  obtain ⟨q, present, rfl⟩ := List.mem_map.mp listed
  obtain ⟨table, read, exprs⟩ := queries_exprs made
  cases text
  exact ⟨clauses, table, read, q.expr, exprs ▸ List.mem_map_of_mem present, rfl⟩

namespace Contribution

variable {config : MixinConfig} (part : Contribution config Registry.standard) {raw : Value}

theorem narrowed_each {table : List (String × TargetMetric)}
    (read : part.indicator.targets = .ok table) (clauses : List Clause) (role : String) :
    (Indicator.seriesOf table clauses role).Each Bracketless :=
  Indicator.seriesOf_each (.constant "" rfl rfl) (fun target member =>
      ⟨.metric (Registry.target_word part.found read target member).metric, fun c _ => .label c⟩)
    (fun c _ => .label c) role

theorem block_ranges (accepted : SliSpec.Accepts raw part.spec) :
    ∀ r ∈ part.block, RangesRead r.expr := by
  obtain ⟨interval, wholeInterval⟩ := accepted.evalInterval_parses
  obtain ⟨period, wholePeriod⟩ := accepted.period_parses
  obtain ⟨clauses, table, _, read, shape⟩ := part.block_exprs
  have each := Bracketless.covers.block_inTurn part.indicator (.duration wholeInterval)
    (.duration wholePeriod) (part.narrowed_each read clauses) ⟨part.product, part.sliId⟩
  have spans := part.indicator.blockExprs_spans part.spec table clauses
    ⟨part.product, part.sliId⟩
  intro r member
  rw [shape] at member
  obtain ⟨named, present, rfl⟩ := List.mem_map.mp member
  obtain ⟨_, plain, _⟩ := each.of_mem present
  have windowed : Windowed [part.spec.evalInterval, part.spec.period] named.2 :=
    ⟨plain, spans named present⟩
  exact windowed.read (List.forall_mem_cons.mpr
    ⟨⟨_, wholeInterval⟩, List.forall_mem_singleton.mpr ⟨_, wholePeriod⟩⟩)

theorem panel_ranges (accepted : SliSpec.Accepts raw part.spec) {query : String}
    (asked : Panel.HasQuery part.panel query) : RangesRead query := by
  obtain ⟨interval, whole⟩ := accepted.evalInterval_parses
  obtain ⟨clauses, table, read, e, listed, rfl⟩ := Indicator.panel_query part.shows asked
  have plain := part.indicator.panelExprs_each (.duration whole)
    (part.narrowed_each read clauses) e listed
  have spans := part.indicator.panelExprs_spans part.spec table clauses e listed
  have windowed : Windowed [part.spec.evalInterval] e :=
    ⟨plain, fun span said => List.mem_singleton.mpr (spans span said)⟩
  exact windowed.read (List.forall_mem_singleton.mpr ⟨_, whole⟩)

theorem alert_ranges : RangesRead part.alert.expr := by
  have covers := Bracketless.covers
  have plain : (Slo.breach part.spec ⟨part.product, part.sliId⟩).Each Bracketless :=
    .binary (.constant "<" rfl rfl)
      (@covers.own_series _ [] ⟨part.product, part.sliId⟩ _ (.constant complianceRecord rfl rfl))
      (.text (.numeral _))
  have windowed : Windowed [] (Slo.breach part.spec ⟨part.product, part.sliId⟩) :=
    ⟨plain, fun _ said => said⟩
  exact windowed.read (List.forall_mem_nil _)

theorem compliance_range (accepted : SliSpec.Accepts raw part.spec) :
    IsRange part.spec.period.toList
      (unquoted (Slo.complianceRule part.spec part.metadata).expr.toList) := by
  obtain ⟨_, whole⟩ := accepted.period_parses
  have plain : (Slo.compliance part.spec ⟨part.product, part.sliId⟩).Each Bracketless :=
    @Covers.compliance _ [sliValueRecord] Bracketless.covers _ _ (.duration whole)
      List.mem_cons_self
  refine (Expr.isRange_iff plain).mpr ?_
  rw [String.ofList_toList]
  exact List.mem_cons_self

end Contribution

-- Wherever a mixin has a range, an interval or a time to wait, it has a text that is read as a
-- duration; the interval and the period of each SLI are among these texts.
structure DurationsRead (table : SliTable) (a : Artifacts) : Prop where
  intervals : ∀ group ∈ a.recording, ∃ d, Duration.parse group.interval = .ok d
  waits : ∀ group ∈ a.alerting, ∀ r ∈ group.rules, ∃ d, Duration.parse r.hold = .ok d
  rules : ∀ group ∈ a.recording, ∀ r ∈ group.rules, RangesRead r.expr
  alerts : ∀ group ∈ a.alerting, ∀ r ∈ group.rules, RangesRead r.expr
  panels : ∀ d ∈ a.summary :: a.dashboards.map (·.2), ∀ placed ∈ d.panels,
    ∀ query, Panel.HasQuery placed.panel query → RangesRead query
  written : ∀ product sliId spec, (product, sliId, spec) ∈ Mixin.entries table →
    ∃ group ∈ a.recording, group.interval = spec.evalInterval ∧
      ∃ r ∈ group.rules, IsRange spec.period.toList (unquoted r.expr.toList)

namespace Accounts

variable {config : MixinConfig} {parts : List (Contribution config Registry.standard)}
  {a : Artifacts}

theorem durationsRead {table : SliTable} (entered : Mixin.entries table = parts.map (·.entry))
    (accounts : Accounts parts a)
    (accepted : ∀ part ∈ parts, ∃ raw, SliSpec.Accepts raw part.spec) :
    DurationsRead table a where
  intervals := by
    intro group listed
    obtain ⟨part, member, same⟩ := (accounts.group_parts listed).1
    obtain ⟨raw, accepts⟩ := accepted part member
    exact same ▸ accepts.evalInterval_parses
  waits := by
    intro group listed r found
    obtain ⟨part, member, rfl⟩ := accounts.alert_parts listed r found
    obtain ⟨raw, accepts⟩ := accepted part member
    exact accepts.period_parses
  rules := by
    intro group listed r found
    obtain ⟨part, member, own⟩ := (accounts.group_parts listed).2 r found
    obtain ⟨raw, accepts⟩ := accepted part member
    exact part.block_ranges accepts r own
  alerts := by
    intro group listed r found
    obtain ⟨part, _, rfl⟩ := accounts.alert_parts listed r found
    exact part.alert_ranges
  panels := by
    intro d listed placed found query asked
    rcases accounts.panel_parts listed placed found with ⟨product, row⟩ | ⟨part, member, own⟩
    · exact absurd (row ▸ asked) (Panel.row_asks_nothing _ _)
    · obtain ⟨raw, accepts⟩ := accepted part member
      exact part.panel_ranges accepts (own ▸ asked)
  written := by
    intro product sliId spec given
    rw [entered] at given
    obtain ⟨part, member, same⟩ := List.mem_map.mp given
    obtain ⟨_, _, rfl⟩ := same
    obtain ⟨raw, accepts⟩ := accepted part member
    obtain ⟨group, listed, interval, before, after, rules⟩ := accounts.part_group member
    have own : Slo.complianceRule part.spec part.metadata ∈ part.block :=
      List.mem_append_right _ List.mem_cons_self
    refine ⟨group, listed, interval, _, ?_, part.compliance_range accepts⟩
    rw [rules]
    exact List.mem_append_left _ (List.mem_append_right _ own)

end Accounts

namespace Mixin

-- What is read as a duration is a text of the grammar, with a line feed behind it or none; the plain
-- texts are those of ASCII characters without a line feed. An accepted spec has such texts, and a
-- mixin has them wherever it has a duration.
theorem buildFrom_durations (text : String) (d : Duration) (raw product sliId config slis : Value) :
    (Duration.parse text = .ok d ↔ ∃ cs, Duration.Reads cs d ∧
      (text.toList = cs ∨ text.toList = cs ++ ['\n'])) ∧
    (Duration.Plainly text.toList d ↔
      Duration.parse text = .ok d ∧ ∀ c ∈ text.toList, c.toNat < 128 ∧ c ≠ '\n') ∧
    (∀ spec, SliSpec.read raw product sliId = .ok spec →
      (∃ d, Duration.parse spec.evalInterval = .ok d) ∧
        ∃ d, Duration.parse spec.period = .ok d) ∧
    ∀ a, buildFrom config slis Registry.standard = .ok a →
      ∃ table, SliTable.read slis = .ok table ∧ DurationsRead table a := by
  refine ⟨Duration.parse_iff, Duration.plainly_iff_parse, ?_, ?_⟩
  · intro spec read
    have accepts := SliSpec.read_accepts read
    exact ⟨accepts.evalInterval_parses, accepts.period_parses⟩
  · intro a built
    obtain ⟨c, table, _, declared, parts, listed, whole, rfl⟩ := buildFrom_ok.mp built
    refine ⟨table, declared, whole.accounts.durationsRead listed fun part member => ?_⟩
    have entry : part.entry ∈ entries table := listed ▸ List.mem_map_of_mem member
    obtain ⟨raw, read⟩ := spec_read declared entry
    exact ⟨raw, SliSpec.read_accepts read⟩

theorem sample_durations :
    (Duration.parse "1h30m" = .ok ⟨5400000000⟩ ∧ ∃ cs, Duration.Reads cs ⟨5400000000⟩ ∧
      ("1h30m".toList = cs ∨ "1h30m".toList = cs ++ ['\n'])) ∧
    (∃ spec, SliSpec.read (Sample.spec "up" "5m") (.str "cart") (.str "a") = .ok spec ∧
      (∃ d, Duration.parse spec.evalInterval = .ok d) ∧ ∃ d, Duration.parse spec.period = .ok d) ∧
    ∃ a, buildFrom Sample.config Sample.slis Registry.standard = .ok a ∧
      ∃ table, SliTable.read Sample.slis = .ok table ∧ DurationsRead table a := by
  obtain ⟨grammar, _, specs, builds⟩ := buildFrom_durations "1h30m" ⟨5400000000⟩
    (Sample.spec "up" "5m") (.str "cart") (.str "a") Sample.config Sample.slis
  have read : Duration.parse "1h30m" = .ok ⟨5400000000⟩ := toOption_some.mp (by decide +kernel)
  obtain ⟨spec, accepted⟩ : ∃ spec,
      SliSpec.read (Sample.spec "up" "5m") (.str "cart") (.str "a") = .ok spec :=
    isOk_iff.mp (by decide +kernel)
  obtain ⟨a, built⟩ := Sample.builds
  exact ⟨⟨read, grammar.mp read⟩, ⟨spec, accepted, specs spec accepted⟩, a, built, builds a built⟩

theorem fed_durations :
    Duration.parse "1m\n" = .ok ⟨60000000⟩ ∧ (∀ d, ¬Duration.Plainly "1m\n".toList d) ∧
    Duration.parse "١m" = .ok ⟨60000000⟩ ∧ (∀ d, ¬Duration.Plainly "١m".toList d) ∧
    ∃ spec, SliSpec.read (Sample.spec "up" "1m\n") (.str "cart") (.str "a") = .ok spec ∧
      spec.evalInterval = "1m\n" := by
  have other {text : String} (odd : ∃ c ∈ text.toList, ¬(c.toNat < 128 ∧ c ≠ '\n')) (d : Duration) :
      ¬Duration.Plainly text.toList d := fun plainly =>
    have ⟨c, present, strange⟩ := odd
    strange ((Duration.plainly_iff_parse.mp plainly).2 c present)
  refine ⟨toOption_some.mp (by decide +kernel), other ⟨'\n', by decide, by decide⟩,
    toOption_some.mp (by decide +kernel), other ⟨'١', by decide, by decide⟩, ?_⟩
  exact toOption_map.mp (by decide +kernel)

end Mixin

end SloCompiler
