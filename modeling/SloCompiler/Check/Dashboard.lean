import SloCompiler.Check.Finding
import SloCompiler.Fault

namespace SloCompiler.Check

def dashboardFields : List String := ["uid", "title", "panels", "schemaVersion"]

def panelFields : List String := ["id", "title", "type", "gridPos"]

def panelTypes : List String := ["timeseries", "graph", "stat", "gauge", "table", "row", "text"]

def missing (defect : String → DashboardDefect) (path : String) (names : List String)
    (entries : Entries) : List DashboardFinding :=
  (names.filter fun name => (entries.get? name).isNone).map fun name =>
    ⟨path ++ "." ++ name, defect name⟩

def seenBefore (seen : List Value) (v : Value) : Except Fault Bool :=
  if v.isScalar then .ok (seen.any (·.sameScalar v)) else .error .mistyped

section Findings

variable (depth : Nat)

def reported (path : String) (defect : String → DashboardDefect) (v : Value) :
    Except Fault (List DashboardFinding) :=
  ((v.display depth).mapError .ofUnshown).map fun shown => [⟨path, defect shown⟩]

def repeatFindings (path : String) (defect : String → DashboardDefect) (seen : List Value)
    (v : Value) : Except Fault (List DashboardFinding) := do
  if ← seenBefore seen v then reported depth path defect v else .ok []

def hasExpr (query : Value) : Bool :=
  match query.field? "expr" with
  | some e => e.isTruthy
  | none => false

def targetsFrom (path : String) (index : Nat) (seen : List Value) :
    List Value → Except Fault (List DashboardFinding)
  | [] => .ok []
  | query :: rest =>
    let place := path ++ s!".targets[{index}]"
    if hasExpr query then do
      let refId := (query.field? "refId").getD .null
      let ids ← repeatFindings depth (place ++ ".refId") .duplicateRefId seen refId
      return ids ++ (← targetsFrom path (index + 1) (refId :: seen) rest)
    else do
      return ⟨place, .noExpression⟩ :: (← targetsFrom path (index + 1) seen rest)

def targets (path : String) : Value → Except Fault (List DashboardFinding)
  | .list (query :: rest) => targetsFrom depth path 0 [] (query :: rest)
  | _ => .ok [⟨path ++ ".targets", .noTarget⟩]

def isRow (type : Value) : Bool := type.isText "row"

def typeFindings (path : String) (type : Value) : Except Fault (List DashboardFinding) :=
  if type.isNull || panelTypes.any type.isText then .ok []
  else reported depth (path ++ ".type") .panelType type

def idFindings (path : String) (seen : List Value) (id : Value) :
    Except Fault (List DashboardFinding) :=
  if id.isNull then .ok []
  else repeatFindings depth (path ++ ".id") .duplicatePanelId seen id

def panelsFrom (index : Nat) (seen : List Value) :
    List Value → Except Fault (List DashboardFinding)
  | [] => .ok []
  | .map panel :: rest => do
    let path := s!"dashboard.panels[{index}]"
    let id := (Entries.get? "id" panel).getD .null
    let type := (Entries.get? "type" panel).getD .null
    let ids ← idFindings depth path seen id
    let types ← typeFindings depth path type
    let queries ←
      if isRow type then .ok []
      else targets depth path ((Entries.get? "targets" panel).getD .null)
    let more ← panelsFrom (index + 1) (id :: seen) rest
    return missing .missingPanelField path panelFields panel ++ ids ++ types ++ queries ++ more
  | _ :: rest => do
    let path := s!"dashboard.panels[{index}]"
    return ⟨path, .panelNotObject⟩ :: (← panelsFrom (index + 1) seen rest)

def panels : Value → Except Fault (List DashboardFinding)
  | .list items => panelsFrom depth 0 [] items
  | _ => .ok [⟨"dashboard.panels", .panelsNotArray⟩]

def minSchemaVersion : Int := 16

-- Versions are whole numbers, as which truth values pass.
def schemaFindings (version : Value) : Except Fault (List DashboardFinding) :=
  match version.number? with
  | some (.inl n) =>
    if n < minSchemaVersion then reported depth "dashboard.schemaVersion" .oldSchema version
    else .ok []
  | _ => .ok []

def dashboardWithin : Value → Except Fault (List DashboardFinding)
  | .map entries => do
    let versions ← schemaFindings depth ((Entries.get? "schemaVersion" entries).getD .null)
    let found ← match Entries.get? "panels" entries with
      | some v => panels depth v
      | none => .ok []
    return missing .missingField "dashboard" dashboardFields entries ++ versions ++ found
  | _ => .ok [⟨"dashboard", .notObject⟩]

end Findings

-- What is wrong with a dashboard. An id that is no scalar stops the check, and so does a value to
-- be named that cannot be shown.
def dashboard (v : Value) : Except Fault (List DashboardFinding) := dashboardWithin usualDepth v

def requireDashboard (v product : Value) : Except Fault Unit := do
  let found ← dashboard v
  if found.isEmpty then .ok ()
  else .error (.ofBuildError { cause := .dashboard found, product })

end SloCompiler.Check
