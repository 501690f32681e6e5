import SloCompiler.Proofs.DashboardForm
import SloCompiler.Proofs.Showing

namespace SloCompiler.Check

-- A check ends early exactly for want of a scalar, or over a value that it names but that cannot be
-- shown.
def StopsOver {α : Type} (depth : Nat) (x : Except Fault α) (compound : Prop)
    (named : Value → Prop) : Prop :=
  Obstructed x fun fault => fault = .mistyped ∧ compound ∨
    ∃ v cause, named v ∧ v.Hidden (depth + 1) cause ∧ Fault.ofUnshown cause = fault

namespace StopsOver

variable {α β : Type} {depth : Nat} {x : Except Fault α} {c c' : Prop} {n n' : Value → Prop}

theorem never (a : α) : StopsOver depth (.ok a) False fun _ => False :=
  .ok fun _ => by simp

theorem congr (stops : StopsOver depth x c n) (compound : c ↔ c') (named : ∀ v, n v ↔ n' v) :
    StopsOver depth x c' n' :=
  Obstructed.congr stops fun fault => by simp only [compound, named]

theorem bind {f : α → Except Fault β} (first : StopsOver depth x c n)
    (second : ∀ a, x = .ok a → StopsOver depth (f a) c' n') :
    StopsOver depth (x >>= f) (c ∨ c') fun v => n v ∨ n' v :=
  (Obstructed.bind first second).congr fun fault => by
    simp only [and_or_left, or_and_right, exists_or]
    exact or_or_or_comm

end StopsOver

def HasCompoundId (query : Entries) : Prop :=
  Asks query ∧ (query.item "refId").isScalar = false

-- A panel whose own id is a list or a mapping, or that of one of its queries. Those of a row are
-- not looked at.
def IdsCompound (panel : Entries) : Prop :=
  (panel.item "id").isScalar = false ∨ panel.item "type" ≠ .str "row" ∧ ∃ queries query,
    panel.item "targets" = .list queries ∧ .map query ∈ queries ∧ HasCompoundId query

def SomeIdCompound (d : Value) : Prop :=
  ∃ (dashboard : Entries) (panels : List Value) (panel : Entries), d = .map dashboard ∧
    dashboard.get? "panels" = some (.list panels) ∧ .map panel ∈ panels ∧ IdsCompound panel

def objects (values : List Value) : List Entries :=
  values.filterMap fun
    | .map entries => some entries
    | _ => none

def panelIds (panels : List Value) : List Value := (objects panels).map (·.item "id")

def askedIds (queries : List Value) : List Value :=
  ((objects queries).filter fun query => (query.item "expr").isTruthy).map (·.item "refId")

def Repeats (seen vs : List Value) (v : Value) : Prop :=
  ∃ before after, vs = before ++ v :: after ∧ ∃ w ∈ seen ++ before, w.Equals v

def PanelNames (panel : Entries) (v : Value) : Prop :=
  (v = panel.item "type" ∧ ¬KnownType (panel.item "type")) ∨ panel.item "type" ≠ .str "row" ∧ ∃ queries,
    panel.item "targets" = .list queries ∧ Repeats [] (askedIds queries) v

def Names (d v : Value) : Prop :=
  ∃ dashboard : Entries, d = .map dashboard ∧
    ((v = dashboard.item "schemaVersion" ∧
        ∃ n < 16, (dashboard.item "schemaVersion").number? = some (.inl n)) ∨
      ∃ panels, dashboard.get? "panels" = some (.list panels) ∧
        (v ≠ .null ∧ Repeats [] (panelIds panels) v ∨
          ∃ panel, .map panel ∈ panels ∧ PanelNames panel v))

section Steps

variable {depth : Nat} {seen : List Value} {v : Value}

theorem repeats_nil : ¬Repeats seen [] v := by
  rintro ⟨before, after, shape, _⟩
  cases before <;> cases shape

theorem repeats_cons {u : Value} {vs : List Value} : Repeats seen (u :: vs) v ↔
    (v = u ∧ ∃ w ∈ seen, w.Equals u) ∨ Repeats (u :: seen) vs v := by
  constructor
  · rintro ⟨before, after, shape, w, member, equal⟩
    cases before with
    | nil =>
      cases shape
      rw [List.append_nil] at member
      exact .inl ⟨rfl, w, member, equal⟩
    | cons first before =>
      cases shape
      refine .inr ⟨before, after, rfl, w, ?_, equal⟩
      exact List.perm_middle.mem_iff.mp member
  · rintro (⟨rfl, w, member, equal⟩ | ⟨before, after, rfl, w, member, equal⟩)
    · exact ⟨[], vs, rfl, w, List.mem_append_left _ member, equal⟩
    · exact ⟨u :: before, after, rfl, w, List.perm_middle.mem_iff.mpr member, equal⟩

theorem seenBefore_true :
    seenBefore seen v = .ok true ↔ v.isScalar = true ∧ ∃ w ∈ seen, w.Equals v := by
  unfold seenBefore
  cases v.isScalar <;> simp [← Value.sameScalar_iff]

theorem seenBefore_stops :
    StopsOver depth (seenBefore seen v) (v.isScalar = false) fun _ => False := by
  unfold seenBefore
  cases v.isScalar with
  | true => exact (StopsOver.never _).congr (by simp) fun _ => Iff.rfl
  | false => exact .error (.inl ⟨rfl, rfl⟩)

theorem reported_stops (path : String) (defect : String → DashboardDefect) (v : Value) :
    StopsOver depth (reported depth path defect v) False (· = v) :=
  (((Value.display_obstructed depth v).mapError _).map _).congr fun fault => by simp

theorem repeatFindings_stops (path : String) (defect : String → DashboardDefect) :
    StopsOver depth (repeatFindings depth path defect seen v) (v.isScalar = false)
      fun u => u = v ∧ ∃ w ∈ seen, w.Equals v := by
  have named (repeated : Bool) (looked : seenBefore seen v = .ok repeated) :
      StopsOver depth (if repeated then reported depth path defect v else .ok []) False
        fun u => u = v ∧ ∃ w ∈ seen, w.Equals v := by
    cases repeated with
    | true =>
      have old := (seenBefore_true.mp looked).2
      exact (reported_stops path defect v).congr Iff.rfl fun u => (and_iff_left old).symm
    | false =>
      have new := (seenBefore_false.mp looked).2
      refine (StopsOver.never _).congr Iff.rfl fun u => ⟨False.elim, ?_⟩
      rintro ⟨_, w, old, equal⟩
      exact new w old equal
  exact (seenBefore_stops.bind named).congr (by simp) fun u => by simp

theorem idFindings_stops (path : String) :
    StopsOver depth (idFindings depth path seen v) (v.isScalar = false)
      fun u => u ≠ .null ∧ u = v ∧ ∃ w ∈ seen, w.Equals v := by
  unfold idFindings
  by_cases given : v = .null
  · subst given
    exact (StopsOver.never _).congr (by simp [Value.isScalar]) fun u => by simp +contextual
  · rw [if_neg (isNull_iff.not.mpr given)]
    refine (repeatFindings_stops _ _).congr Iff.rfl fun u => (and_iff_right_of_imp ?_).symm
    rintro ⟨rfl, _⟩
    exact given

theorem typeFindings_stops (path : String) (type : Value) :
    StopsOver depth (typeFindings depth path type) False
      fun u => u = type ∧ ¬KnownType type := by
  unfold typeFindings
  by_cases known : (type.isNull || panelTypes.any type.isText) = true
  · rw [if_pos known]
    exact (StopsOver.never _).congr Iff.rfl fun u => by simp [knownType_iff.mp known]
  · rw [if_neg known]
    exact (reported_stops _ _ type).congr Iff.rfl fun u => by simp [knownType_iff.not.mp known]

theorem exists_object_cons {p : Entries → Prop} {v : Value} {rest : List Value} :
    (∃ entries, .map entries ∈ v :: rest ∧ p entries) ↔
      (∃ entries, v = .map entries ∧ p entries) ∨ ∃ entries, .map entries ∈ rest ∧ p entries := by
  simp only [List.mem_cons, or_and_right, exists_or, eq_comm]

theorem exists_object {p : Entries → Prop} {entries : Entries} :
    (∃ other, Value.map entries = .map other ∧ p other) ↔ p entries := by
  simp

theorem askedIds_asking {query : Entries} (asks : Asks query) (rest : List Value) :
    askedIds (.map query :: rest) = query.item "refId" :: askedIds rest := by
  change List.map _ (List.filter _ (query :: objects rest)) = _
  rw [List.filter_cons_of_pos (p := fun query => (Entries.item "expr" query).isTruthy) asks]
  rfl

theorem askedIds_mute {v : Value} (mute : ¬∃ query, v = .map query ∧ Asks query)
    (rest : List Value) : askedIds (v :: rest) = askedIds rest := by
  cases v with
  | map query =>
    have silent : ¬Asks query := exists_object.not.mp mute
    change List.map _ (List.filter _ (query :: objects rest)) = _
    rw [List.filter_cons_of_neg (p := fun query => (Entries.item "expr" query).isTruthy) silent]
    rfl
  | _ => rfl

theorem targetsFrom_stops (path : String) (index : Nat) (seen values : List Value) :
    StopsOver depth (targetsFrom depth path index seen values)
      (∃ query, .map query ∈ values ∧ HasCompoundId query) (Repeats seen (askedIds values)) := by
  induction values generalizing index seen with
  | nil => exact (StopsOver.never _).congr (by simp) fun v => iff_of_false not_false repeats_nil
  | cons v rest ih =>
    rw [exists_object_cons]
    by_cases asking : ∃ query, v = .map query ∧ Asks query
    · obtain ⟨query, rfl, asks⟩ := asking
      rw [targetsFrom_asking asks, askedIds_asking asks]
      refine ((repeatFindings_stops _ _).bind fun _ _ => (ih _ _).bind fun _ _ =>
        .never _).congr ?_ fun u => ?_
      · rw [or_false, exists_object, HasCompoundId, and_iff_right asks]
      · rw [or_false, repeats_cons]
    · rw [targetsFrom_mute asking, askedIds_mute asking]
      refine ((ih _ _).bind fun _ _ => .never _).congr ?_ fun u => iff_of_eq (or_false _)
      have silent : ¬∃ query, v = .map query ∧ HasCompoundId query :=
        fun ⟨query, shape, asks, _⟩ => asking ⟨query, shape, asks⟩
      rw [or_false, or_iff_right silent]

theorem targets_stops (path : String) (v : Value) : StopsOver depth (targets depth path v)
    (∃ queries query, v = .list queries ∧ .map query ∈ queries ∧ HasCompoundId query)
    fun u => ∃ queries, v = .list queries ∧ Repeats [] (askedIds queries) u := by
  unfold targets
  split
  · next first more =>
    exact (targetsFrom_stops path 0 [] (first :: more)).congr (by simp) fun u => by simp
  · next other =>
    refine (StopsOver.never _).congr ⟨False.elim, ?_⟩ fun u => ⟨False.elim, ?_⟩
    · rintro ⟨queries, query, rfl, member, _⟩
      obtain ⟨first, more, rfl⟩ := List.exists_cons_of_ne_nil (List.ne_nil_of_mem member)
      exact other first more rfl
    · rintro ⟨queries, rfl, repeats⟩
      cases queries with
      | nil => exact repeats_nil repeats
      | cons first more => exact other first more rfl

theorem queryFindings_stops (path : String) (panel : Entries) :
    StopsOver depth (queryFindings depth path panel)
      (panel.item "type" ≠ .str "row" ∧ ∃ queries query,
        panel.item "targets" = .list queries ∧ .map query ∈ queries ∧ HasCompoundId query)
      fun u => panel.item "type" ≠ .str "row" ∧ ∃ queries,
        panel.item "targets" = .list queries ∧ Repeats [] (askedIds queries) u := by
  unfold queryFindings
  split
  · next row =>
    exact (StopsOver.never _).congr (by simp [isRow_iff.mp row]) fun u => by simp [isRow_iff.mp row]
  · next series =>
    have asked := isRow_iff.not.mp series
    exact (targets_stops path _).congr (and_iff_right asked).symm fun u => (and_iff_right asked).symm

theorem panelsFrom_stops (index : Nat) (seen values : List Value) :
    StopsOver depth (panelsFrom depth index seen values)
      (∃ panel, .map panel ∈ values ∧ IdsCompound panel)
      fun u => (u ≠ .null ∧ Repeats seen (panelIds values) u) ∨
        ∃ panel, .map panel ∈ values ∧ PanelNames panel u := by
  induction values generalizing index seen with
  | nil =>
    refine (StopsOver.never _).congr (by simp) fun u => ?_
    simp [panelIds, objects, repeats_nil]
  | cons v rest ih =>
    simp only [exists_object_cons]
    cases v with
    | map panel =>
      rw [panelsFrom_object]
      refine ((idFindings_stops _).bind fun _ _ => (typeFindings_stops _ _).bind fun _ _ =>
        (queryFindings_stops _ _).bind fun _ _ => (ih _ _).bind fun _ _ =>
          .never _).congr ?_ fun u => ?_
      · rw [or_false, false_or, exists_object, IdsCompound, or_assoc]
      · change _ ↔ (u ≠ .null ∧ Repeats seen (Entries.item "id" panel :: panelIds rest) u) ∨ _
        rw [or_false, exists_object, repeats_cons, PanelNames, and_or_left]
        simp only [or_assoc, or_left_comm]
    | _ =>
      rw [panelsFrom_other fun _ shape => by cases shape]
      exact ((ih _ _).bind fun _ _ => .never _).congr (by simp) fun u => by
        simp [panelIds, objects]

theorem panelFindings_stops (dashboard : Entries) :
    StopsOver depth (panelFindings depth dashboard)
      (∃ panels panel, dashboard.get? "panels" = some (.list panels) ∧ .map panel ∈ panels ∧
        IdsCompound panel)
      fun u => ∃ panels, dashboard.get? "panels" = some (.list panels) ∧
        ((u ≠ .null ∧ Repeats [] (panelIds panels) u) ∨
          ∃ panel, .map panel ∈ panels ∧ PanelNames panel u) := by
  unfold panelFindings
  cases dashboard.get? "panels" with
  | none => exact (StopsOver.never _).congr (by simp) fun u => by simp
  | some v =>
    cases v with
    | list values => exact (panelsFrom_stops 0 [] values).congr (by simp) fun u => by simp
    | _ => exact (StopsOver.never _).congr (by simp) fun u => by simp

theorem schemaFindings_stops (version : Value) : StopsOver depth (schemaFindings depth version) False
    fun u => u = version ∧ ∃ n < 16, version.number? = some (.inl n) := by
  unfold schemaFindings
  split
  · next n whole =>
    split
    · next old =>
      have outdated : ∃ m < 16, version.number? = some (.inl m) := ⟨n, old, whole⟩
      exact (reported_stops _ _ version).congr Iff.rfl fun u => (and_iff_left outdated).symm
    · next recent =>
      refine (StopsOver.never _).congr Iff.rfl fun u => ⟨False.elim, ?_⟩
      rintro ⟨_, m, old, same⟩
      cases whole.symm.trans same
      exact recent old
  · next other =>
    refine (StopsOver.never _).congr Iff.rfl fun u => ⟨False.elim, ?_⟩
    rintro ⟨_, n, _, whole⟩
    exact other n whole

theorem dashboardWithin_stops (depth : Nat) (d : Value) :
    StopsOver depth (dashboardWithin depth d) (SomeIdCompound d) (Names d) := by
  cases d with
  | map dashboard =>
    rw [dashboardWithin_object]
    refine ((schemaFindings_stops _).bind fun _ _ => (panelFindings_stops dashboard).bind fun _ _ =>
      .never _).congr (by simp [SomeIdCompound]) fun u => ?_
    rw [or_false, Names, exists_object]
  | _ => exact (StopsOver.never _).congr (by simp [SomeIdCompound]) fun u => by simp [Names]

end Steps

-- A dashboard can be checked to the end exactly if the ids in it that are looked up are no lists
-- and no mappings, and every value that a finding names can be shown. A check that ends early does
-- so for want of a scalar or over such a value.
theorem dashboard_checked_iff (depth : Nat) (d : Value) :
    ((∃ found, dashboardWithin depth d = .ok found) ↔
      ¬SomeIdCompound d ∧ ∀ v cause, Names d v → ¬v.Hidden (depth + 1) cause) ∧
    ∀ fault, dashboardWithin depth d = .error fault →
      (fault = .mistyped ∧ SomeIdCompound d) ∨
        ∃ v cause, Names d v ∧ v.Hidden (depth + 1) cause ∧ Fault.ofUnshown cause = fault := by
  have obstructed := dashboardWithin_stops depth d
  refine ⟨obstructed.ok_iff.trans ?_, obstructed.stops⟩
  constructor
  · intro free
    refine ⟨fun compound => free _ (.inl ⟨rfl, compound⟩), fun v cause named hidden => ?_⟩
    exact free _ (.inr ⟨v, cause, named, hidden, rfl⟩)
  · rintro ⟨scalar, shown⟩ fault (⟨_, compound⟩ | ⟨v, cause, named, hidden, _⟩)
    · exact scalar compound
    · exact shown v cause named hidden

def listedRow : Value :=
  .object [
    ("uid", .str "u"), ("title", .str "t"), ("schemaVersion", .int 38),
    ("panels", .list [.object [
      ("id", .list []), ("title", .str "p"), ("type", .str "row"), ("gridPos", .object [])]])]

theorem listedRow_stops : dashboard listedRow = .error .mistyped := by
  rfl

end SloCompiler.Check
