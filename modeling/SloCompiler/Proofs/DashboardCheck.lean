import Mathlib.Data.List.Nodup
import SloCompiler.Check.Dashboard
import SloCompiler.Dashboard.Basic
import SloCompiler.Indicator.Panels
import SloCompiler.Proofs.Layout
import SloCompiler.Proofs.Ordered
import SloCompiler.Proofs.Outcome
import SloCompiler.Proofs.Rendering

namespace SloCompiler

namespace Panel

def letterValue (n : Nat) (c : Char) : Nat := 26 * n + (c.toNat - 64)

theorem letter_toNat (n : Nat) : (Char.ofNat (65 + n % 26)).toNat = 65 + n % 26 := by
  have valid : (65 + n % 26).isValidChar := by
    refine Or.inl ?_
    omega
  rw [Char.ofNat, dif_pos valid]
  rfl

theorem letterValue_refLetters (letters : List Char) (n : Nat) :
    (refLetters letters n).foldl letterValue 0 = letters.foldl letterValue n := by
  induction letters, n using refLetters.induct with
  | case1 letters => rw [refLetters, if_pos rfl]
  | case2 letters n positive ih =>
    rw [refLetters, if_neg positive, ih, List.foldl_cons]
    congr 1
    rw [letterValue, letter_toNat]
    omega

theorem refId_injective {i j : Nat} (same : refId i = refId j) : i = j := by
  have letters : refLetters [] (i + 1) = refLetters [] (j + 1) := String.ofList_injective same
  have values := congrArg (·.foldl letterValue 0) letters
  simpa only [letterValue_refLetters, List.foldl_nil, Nat.add_right_cancel_iff] using values

theorem withRefIds_values (queries : List Entries) :
    (withRefIds queries).map .map =
      queries.mapIdx fun i query => Value.map (query.put "refId" (.str (refId i))) := by
  refine List.ext_getElem (by simp [withRefIds]) fun i _ _ => ?_
  simp [withRefIds]

end Panel

def asksFor (query : Entries) : Prop := ∃ e, query.get? "expr" = some (.str e) ∧ e ≠ ""

-- What the check of a dashboard wants of a panel, apart from its place.
inductive Presentable (panel : Entries) : Prop where
  | header (title : (panel.get? "title").isSome) (type : panel.get? "type" = some (.str "row"))
  | series (title : (panel.get? "title").isSome)
    (type : panel.get? "type" = some (.str "timeseries")) (first : Entries) (more : List Entries)
    (queries : panel.get? "targets" =
      some (.list ((Panel.withRefIds (first :: more)).map .map)))
    (asks : ∀ query ∈ first :: more, asksFor query)

theorem Panel.row_presentable (title : String) :
    Presentable (Panel.row (.str title) (.bool false)) := .header rfl rfl

theorem Panel.TimeSeries.presentable (p : Panel.TimeSeries) (nonempty : p.targets ≠ [])
    (asks : ∀ query ∈ p.targets, asksFor query) : Presentable p.panel := by
  obtain ⟨first, more, split⟩ := List.exists_cons_of_ne_nil nonempty
  rw [split] at asks
  refine .series rfl rfl first more ?_ asks
  rw [← split]
  rfl

namespace Indicator

theorem queries_ne_nil {i : Indicator} {spec : SliSpec} {clauses : List Clause}
    {queries : List PanelQuery} (made : i.queries spec clauses = .ok queries) : queries ≠ [] := by
  cases i with
  | up => cases made; simp
  | errorRatio metric statusLabel errorPattern =>
    obtain ⟨_, _, made⟩ := bind_ok.mp made
    obtain ⟨_, _, made⟩ := bind_ok.mp made
    cases made
    simp
  | latency histogram => cases made; simp
  | queueAge => cases made; simp

theorem queries_ask {i : Indicator} {spec : SliSpec} {clauses : List Clause}
    {queries : List PanelQuery} (made : i.queries spec clauses = .ok queries) :
    ∀ q ∈ queries, q.expr.render ≠ "" := by
  intro q member
  cases i with
  | up =>
    cases made
    simp only [List.mem_cons, List.not_mem_nil, or_false] at member
    rcases member with rfl | rfl | rfl <;>
      simp [averageUp, thresholdQuery, Expr.vector]
  | errorRatio metric statusLabel errorPattern =>
    obtain ⟨_, _, made⟩ := bind_ok.mp made
    obtain ⟨_, _, made⟩ := bind_ok.mp made
    cases made
    simp only [List.mem_cons, List.not_mem_nil, or_false] at member
    rcases member with rfl | rfl | rfl <;>
      simp [errorShare, Expr.safeRatio, rate, thresholdQuery, Expr.vector]
  | latency histogram =>
    cases made
    simp only [List.mem_cons, List.not_mem_nil, or_false] at member
    rcases member with rfl | rfl | rfl <;>
      simp [percentile, rate, thresholdQuery, Expr.vector]
  | queueAge =>
    cases made
    simp only [List.mem_cons, List.not_mem_nil, or_false] at member
    rcases member with rfl | rfl | rfl <;>
      simp [thresholdQuery, Expr.vector]

theorem panel_presentable {i : Indicator} {spec : SliSpec} {datasource : String} {panel : Entries}
    (made : i.panel spec datasource = .ok panel) : Presentable panel := by
  obtain ⟨_, _, made⟩ := bind_ok.mp made
  obtain ⟨clauses, _, made⟩ := bind_ok.mp made
  obtain ⟨queries, asked, made⟩ := bind_ok.mp made
  obtain ⟨description, _, made⟩ := bind_ok.mp made
  cases made
  refine Panel.TimeSeries.presentable _ ?_ ?_
  · simpa using queries_ne_nil asked
  · intro query member
    obtain ⟨q, listed, rfl⟩ := List.mem_map.mp member
    exact ⟨q.expr.render, rfl, queries_ask asked q listed⟩

end Indicator

namespace Check

theorem seenBefore_text {seen : List Value} {s : String}
    (fresh : ∀ v ∈ seen, ∃ t, v = .str t ∧ t ≠ s) : seenBefore seen (.str s) = .ok false := by
  have none : seen.any (fun v => v.sameScalar (.str s)) = false := by
    refine List.any_eq_false.mpr fun v member => ?_
    obtain ⟨t, rfl, apart⟩ := fresh v member
    simpa [Value.sameScalar] using apart
  rw [seenBefore, none]
  rfl

theorem seenBefore_number {seen : List Value} {n : Nat}
    (fresh : ∀ v ∈ seen, ∃ m : Nat, v = .int m ∧ m ≠ n) : seenBefore seen (.int n) = .ok false := by
  have none : seen.any (fun v => v.sameScalar (.int n)) = false := by
    refine List.any_eq_false.mpr fun v member => ?_
    obtain ⟨m, rfl, apart⟩ := fresh v member
    simpa [Value.sameScalar, Value.sameNumber, Value.number?] using
      fun same => apart (Int.ofNat_inj.mp same)
  rw [seenBefore, none]
  rfl

variable {depth : Nat}

theorem repeatFindings_fresh {seen : List Value} {v : Value} (fresh : seenBefore seen v = .ok false)
    (path : String) (defect : String → DashboardDefect) :
    repeatFindings depth path defect seen v = .ok [] := by
  rw [repeatFindings, fresh]
  rfl

theorem targetsFrom_cons {path : String} {index : Nat} {seen rest : List Value} {query : Entries}
    (asks : asksFor query) (fresh : seenBefore seen (.str (Panel.refId index)) = .ok false)
    (more : targetsFrom depth path (index + 1) (.str (Panel.refId index) :: seen) rest = .ok []) :
    targetsFrom depth path index seen (.map (query.put "refId" (.str (Panel.refId index))) :: rest) =
      .ok [] := by
  obtain ⟨e, asked, nonempty⟩ := asks
  have expr : Value.field? "expr" (.map (query.put "refId" (.str (Panel.refId index)))) =
      some (.str e) := by
    rw [Value.field?, Value.entries, Entries.get?_put, if_neg (by decide), asked]
  have letter : Value.field? "refId" (.map (query.put "refId" (.str (Panel.refId index)))) =
      some (.str (Panel.refId index)) := by
    rw [Value.field?, Value.entries, Entries.get?_put, if_pos rfl]
  have truthy : (Value.str e).isTruthy = true := by simpa [Value.isTruthy] using nonempty
  simp [targetsFrom, hasExpr, expr, letter, truthy, repeatFindings_fresh fresh, more, bind,
    Except.bind, pure, Except.pure]

theorem targetsFrom_ok (depth : Nat) (path : String) (queries : List Entries) (index : Nat) (seen : List Value)
    (asks : ∀ query ∈ queries, asksFor query)
    (earlier : ∀ v ∈ seen, ∃ i < index, v = .str (Panel.refId i)) :
    targetsFrom depth path index seen
      (queries.mapIdx fun i query => .map (query.put "refId" (.str (Panel.refId (index + i))))) =
        .ok [] := by
  induction queries generalizing index seen with
  | nil => rfl
  | cons query queries ih =>
    have fresh : seenBefore seen (.str (Panel.refId index)) = .ok false := by
      refine seenBefore_text fun v member => ?_
      obtain ⟨i, before, rfl⟩ := earlier v member
      exact ⟨_, rfl, fun same => Nat.ne_of_lt before (Panel.refId_injective same)⟩
    have more := ih (index + 1) (.str (Panel.refId index) :: seen)
      (fun other member => asks other (List.mem_cons_of_mem _ member)) (by
        intro v member
        rcases List.mem_cons.mp member with rfl | member
        · exact ⟨index, Nat.lt_succ_self index, rfl⟩
        · obtain ⟨i, before, same⟩ := earlier v member
          exact ⟨i, Nat.lt_succ_of_lt before, same⟩)
    rw [List.mapIdx_cons]
    refine targetsFrom_cons (asks query List.mem_cons_self) fresh ?_
    simpa only [Nat.add_assoc, Nat.add_comm 1] using more

theorem targets_ok (path : String) (first : Entries) (more : List Entries)
    (asks : ∀ query ∈ first :: more, asksFor query) :
    targets depth path (.list ((Panel.withRefIds (first :: more)).map .map)) = .ok [] := by
  have all := targetsFrom_ok depth path (first :: more) 0 [] asks (by simp)
  simp only [Nat.zero_add] at all
  rw [Panel.withRefIds_values]
  rw [List.mapIdx_cons] at all ⊢
  exact all

theorem missing_nil {defect : String → DashboardDefect} {path : String} {names : List String}
    {entries : Entries} :
    missing defect path names entries = [] ↔ ∀ name ∈ names, (entries.get? name).isSome := by
  simp [missing, Option.isSome_iff_ne_none]

theorem placed_get? (p : PlacedPanel) {name : String} (id : name ≠ "id") (pos : name ≠ "gridPos") :
    ((p.panel.put "id" (.int p.id)).put "gridPos" p.pos.toValue).get? name = p.panel.get? name := by
  rw [Entries.get?_put, if_neg (Ne.symm pos), Entries.get?_put, if_neg (Ne.symm id)]

theorem panelsFrom_cons {index : Nat} {seen rest : List Value} {p : PlacedPanel}
    (presentable : Presentable p.panel) (fresh : seenBefore seen (.int p.id) = .ok false)
    (more : panelsFrom depth (index + 1) (.int p.id :: seen) rest = .ok []) :
    panelsFrom depth index seen (p.toValue :: rest) = .ok [] := by
  have title := placed_get? p (show "title" ≠ "id" by decide) (by decide)
  have type := placed_get? p (show "type" ≠ "id" by decide) (by decide)
  have queries := placed_get? p (show "targets" ≠ "id" by decide) (by decide)
  have id : ((p.panel.put "id" (.int p.id)).put "gridPos" p.pos.toValue).get? "id" =
      some (.int p.id) := by
    rw [Entries.get?_put, if_neg (by decide), Entries.get?_put, if_pos rfl]
  have pos : ((p.panel.put "id" (.int p.id)).put "gridPos" p.pos.toValue).get? "gridPos" =
      some p.pos.toValue := by
    rw [Entries.get?_put, if_pos rfl]
  have fields (titled : (p.panel.get? "title").isSome) (typed : (p.panel.get? "type").isSome) :
      ∀ name ∈ panelFields,
        (((p.panel.put "id" (.int p.id)).put "gridPos" p.pos.toValue).get? name).isSome := by
    intro name member
    simp only [panelFields, List.mem_cons, List.not_mem_nil, or_false] at member
    rcases member with rfl | rfl | rfl | rfl
    · rw [id]; rfl
    · rw [title]; exact titled
    · rw [type]; exact typed
    · rw [pos]; rfl
  cases presentable with
  | header titled typed =>
    simp [PlacedPanel.toValue, panelsFrom, id, type, typed, idFindings, repeatFindings_fresh fresh,
      isRow, Value.isText, typeFindings, panelTypes, more,
      missing_nil.mpr (fields titled (by simp [typed])), bind, Except.bind, pure, Except.pure]
  | series titled typed first others listed asks =>
    simp [PlacedPanel.toValue, panelsFrom, id, type, typed, idFindings, repeatFindings_fresh fresh,
      isRow, Value.isText, typeFindings, panelTypes, more,
      missing_nil.mpr (fields titled (by simp [typed])), queries, listed,
      targets_ok _ first others asks, bind, Except.bind, pure, Except.pure, -List.map_cons]

theorem panelsFrom_ok (placed : List PlacedPanel) (index : Nat) (seen : List Value)
    (presentable : ∀ p ∈ placed, Presentable p.panel) (nodup : (placed.map (·.id)).Nodup)
    (earlier : ∀ v ∈ seen, ∃ m : Nat, v = .int m ∧ m ∉ placed.map (·.id)) :
    panelsFrom depth index seen (placed.map PlacedPanel.toValue) = .ok [] := by
  induction placed generalizing index seen with
  | nil => rfl
  | cons p placed ih =>
    obtain ⟨unused, nodup⟩ := List.nodup_cons.mp nodup
    have fresh : seenBefore seen (.int p.id) = .ok false := by
      refine seenBefore_number fun v member => ?_
      obtain ⟨m, same, absent⟩ := earlier v member
      exact ⟨m, same, fun eq => absent (eq ▸ List.mem_cons_self)⟩
    refine panelsFrom_cons (presentable p List.mem_cons_self) fresh ?_
    refine ih (index + 1) _ (fun q member => presentable q (List.mem_cons_of_mem _ member)) nodup ?_
    intro v member
    rcases List.mem_cons.mp member with rfl | member
    · exact ⟨p.id, rfl, unused⟩
    · obtain ⟨m, same, absent⟩ := earlier v member
      exact ⟨m, same, fun later => absent (List.mem_cons_of_mem _ later)⟩

end Check

namespace Layout

theorem place_presentable {rows : List (String × List Entries)}
    (presentable : ∀ row ∈ rows, ∀ panel ∈ row.2, Presentable panel) :
    ∀ p ∈ place rows, Presentable p.panel := by
  intro p member
  have listed : p.panel ∈ rows.flatMap rowPanels := by
    rw [← place_panels]
    exact List.mem_map_of_mem member
  obtain ⟨row, present, shown⟩ := List.mem_flatMap.mp listed
  rcases List.mem_cons.mp shown with header | shown
  · rw [header]
    exact Panel.row_presentable row.1
  · exact presentable row present p.panel shown

end Layout

-- A dashboard has all other fields that its check wants, so it is as good as its panels.
theorem Check.dashboard_panels (depth : Nat) (d : Dashboard) :
    Check.dashboardWithin depth d.toValue = Check.panelsFrom depth 0 [] (d.panels.map PlacedPanel.toValue) := by
  have fields : Check.missing .missingField "dashboard" Check.dashboardFields d.toValue.entries =
      [] := by
    refine Check.missing_nil.mpr fun name member => ?_
    simp only [Check.dashboardFields, List.mem_cons, List.not_mem_nil, or_false] at member
    rcases member with rfl | rfl | rfl | rfl <;> rfl
  have panels : d.toValue.entries.get? "panels" =
      some (.list (d.panels.map PlacedPanel.toValue)) := rfl
  have version : d.toValue.entries.get? "schemaVersion" = some (.int 38) := rfl
  have shape : d.toValue = .map d.toValue.entries := rfl
  rw [shape, Check.dashboardWithin, fields, panels, version]
  change (Check.panelsFrom depth 0 [] (d.panels.map PlacedPanel.toValue) >>= pure) = _
  exact bind_pure _

namespace PanelGroups

def AllPresentable (groups : PanelGroups) : Prop :=
  ∀ row ∈ groups, ∀ panel ∈ row.2, Presentable panel

theorem add_presentable {groups : PanelGroups} (sound : groups.AllPresentable) (product : String)
    {panel : Entries} (presentable : Presentable panel) :
    (groups.add product panel).AllPresentable := by
  induction groups with
  | nil =>
    refine List.forall_mem_singleton.mpr ?_
    exact List.forall_mem_singleton.mpr presentable
  | cons row groups ih =>
    obtain ⟨key, panels⟩ := row
    obtain ⟨own, others⟩ := List.forall_mem_cons.mp sound
    unfold add Ordered.append
    split
    · refine List.forall_mem_cons.mpr ⟨?_, others⟩
      exact List.forall_mem_append.mpr ⟨own, List.forall_mem_singleton.mpr presentable⟩
    · exact List.forall_mem_cons.mpr ⟨own, ih others⟩

-- Panels are added one after the other; none of them spoils what is there.
theorem foldl_presentable {α : Type} (product : α → String) (panel : α → Entries) (xs : List α)
    {groups : PanelGroups} (sound : groups.AllPresentable)
    (each : ∀ x ∈ xs, Presentable (panel x)) :
    AllPresentable (xs.foldl (fun groups x => groups.add (product x) (panel x)) groups) := by
  induction xs generalizing groups with
  | nil => exact sound
  | cons x xs ih =>
    obtain ⟨first, later⟩ := List.forall_mem_cons.mp each
    exact ih (add_presentable sound (product x) first) later

variable (config : MixinConfig) {groups : PanelGroups} (sound : groups.AllPresentable)
include sound

theorem dashboard_passes (uidName title tag : String) :
    Check.dashboard (dashboard config uidName title tag groups).toValue = .ok [] := by
  rw [Check.dashboard, Check.dashboard_panels]
  exact Check.panelsFrom_ok _ 0 [] (Layout.place_presentable sound)
    (Layout.place_ids_nodup groups) (by simp)

theorem summary_passes : Check.dashboard (groups.summary config).toValue = .ok [] :=
  dashboard_passes config sound _ _ _

theorem productDashboard_passes (product : String) :
    Check.dashboard (groups.productDashboard config product).toValue = .ok [] := by
  refine dashboard_passes config (List.forall_mem_singleton.mpr fun panel shown => ?_) _ _ _
  cases asked : Ordered.get? groups product with
  | none =>
    rw [asked] at shown
    cases shown
  | some panels =>
    rw [asked] at shown
    exact sound _ (Ordered.mem_of_get? asked) panel shown

end PanelGroups

theorem Check.requireDashboard_ok {v : Value} (passes : Check.dashboard v = .ok [])
    (product : Value) : Check.requireDashboard v product = .ok () := by
  rw [Check.requireDashboard, passes]
  rfl

end SloCompiler
