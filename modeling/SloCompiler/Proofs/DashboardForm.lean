import SloCompiler.Proofs.DashboardCheck
import SloCompiler.Proofs.ScalarEquality

namespace SloCompiler

def Entries.item (name : String) (entries : Entries) : Value := (entries.get? name).getD .null

namespace Check

def Asks (query : Entries) : Prop := (query.item "expr").isTruthy = true

def KnownType (type : Value) : Prop :=
  type = .null ∨ ∃ name ∈ ["timeseries", "graph", "stat", "gauge", "table", "row", "text"],
    type = .str name

section Fresh

variable {mayRepeat : Value → Prop} {seen vs : List Value} {v : Value}

theorem isNull_iff : v.isNull = true ↔ v = .null := by
  cases v <;> simp [Value.isNull]

theorem seenBefore_false :
    seenBefore seen v = .ok false ↔ v.isScalar = true ∧ ∀ w ∈ seen, ¬w.Equals v := by
  unfold seenBefore
  cases v.isScalar <;> simp [← Value.sameScalar_iff]

end Fresh

variable {depth : Nat}

theorem hasExpr_map {query : Entries} : hasExpr (.map query) = true ↔ Asks query := by
  unfold hasExpr Asks Entries.item Value.field? Value.entries
  cases query.get? "expr" with
  | none => simp [Value.isTruthy]
  | some expr => simp

theorem hasExpr_iff {v : Value} : hasExpr v = true ↔ ∃ query, v = .map query ∧ Asks query := by
  cases v with
  | map query => simp [hasExpr_map]
  | _ => simp [hasExpr, Value.field?, Value.entries, Entries.get?]

theorem targetsFrom_asking {path : String} {index : Nat} {seen rest : List Value}
    {query : Entries} (asks : Asks query) :
    targetsFrom depth path index seen (.map query :: rest) = do
      let ids ← repeatFindings depth (path ++ s!".targets[{index}]" ++ ".refId") .duplicateRefId
        seen (query.item "refId")
      let more ← targetsFrom depth path (index + 1) (query.item "refId" :: seen) rest
      return ids ++ more := by
  rw [targetsFrom, if_pos (hasExpr_iff.mpr ⟨query, rfl, asks⟩)]
  rfl

theorem targetsFrom_mute {path : String} {index : Nat} {seen rest : List Value} {v : Value}
    (mute : ¬∃ query, v = .map query ∧ Asks query) :
    targetsFrom depth path index seen (v :: rest) = do
      let more ← targetsFrom depth path (index + 1) seen rest
      return ⟨path ++ s!".targets[{index}]", .noExpression⟩ :: more := by
  rw [targetsFrom, if_neg (hasExpr_iff.not.mpr mute)]

theorem isRow_iff {type : Value} : isRow type = true ↔ type = .str "row" := isText_iff

theorem knownType_iff {type : Value} :
    (type.isNull || panelTypes.any type.isText) = true ↔ KnownType type := by
  rw [Bool.or_eq_true, isNull_iff, List.any_eq_true]
  simp only [isText_iff]
  rfl

def queryFindings (depth : Nat) (path : String) (panel : Entries) :
    Except Fault (List DashboardFinding) :=
  if isRow (panel.item "type") then .ok [] else targets depth path (panel.item "targets")

theorem panelsFrom_object {index : Nat} {seen rest : List Value} {panel : Entries} :
    panelsFrom depth index seen (.map panel :: rest) = do
      let path := s!"dashboard.panels[{index}]"
      let ids ← idFindings depth path seen (panel.item "id")
      let types ← typeFindings depth path (panel.item "type")
      let queries ← queryFindings depth path panel
      let more ← panelsFrom depth (index + 1) (panel.item "id" :: seen) rest
      return missing .missingPanelField path panelFields panel ++ ids ++ types ++ queries ++
        more := by
  rw [panelsFrom]
  unfold queryFindings Entries.item
  cases isRow ((panel.get? "type").getD .null) <;> rfl

theorem panelsFrom_other {index : Nat} {seen rest : List Value} {v : Value}
    (other : ∀ panel, v ≠ .map panel) : panelsFrom depth index seen (v :: rest) =
      panelsFrom depth (index + 1) seen rest >>= fun more =>
        .ok (⟨s!"dashboard.panels[{index}]", .panelNotObject⟩ :: more) := by
  rw [panelsFrom]
  · rfl
  · exact other

def panelFindings (depth : Nat) (entries : Entries) : Except Fault (List DashboardFinding) :=
  match entries.get? "panels" with
  | some v => panels depth v
  | none => .ok []

theorem dashboardWithin_object {entries : Entries} : dashboardWithin depth (.map entries) = do
    let versions ← schemaFindings depth (entries.item "schemaVersion")
    let found ← panelFindings depth entries
    return missing .missingField "dashboard" dashboardFields entries ++ versions ++ found := by
  rw [dashboardWithin]
  unfold panelFindings Entries.item
  cases entries.get? "panels" <;> rfl

end Check

end SloCompiler
