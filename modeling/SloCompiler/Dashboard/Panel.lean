import SloCompiler.Fault
import SloCompiler.Ordered
import SloCompiler.Text.Regex

namespace SloCompiler.Panel

def refLetters (letters : List Char) (n : Nat) : List Char :=
  if n = 0 then letters
  else refLetters (Char.ofNat (65 + (n - 1) % 26) :: letters) ((n - 1) / 26)
termination_by n
decreasing_by omega

-- A, B, …, Z, AA, AB, …
def refId (index : Nat) : String := String.ofList (refLetters [] (index + 1))

def target (expr legend datasource : Value) : Entries :=
  .ofFields [
    ("expr", expr), ("legendFormat", legend), ("datasource", .object [("uid", datasource)])]

def overrideByLegend (legend : String) (properties : Value) : Value :=
  .object [
    ("matcher", .object [
      ("id", .str "byRegexp"), ("options", .str (".*" ++ Text.regexLiteral legend ++ ".*"))]),
    ("properties", properties)]

inductive Color where
  | green
  | red
  | yellow
  | orange
  | blue
  | purple
  deriving DecidableEq, Repr

def Color.name : Color → String
  | .green => "green"
  | .red => "red"
  | .yellow => "yellow"
  | .orange => "orange"
  | .blue => "blue"
  | .purple => "purple"

def Color.ofValue (v : Value) : Except Fault Color :=
  match [Color.green, .red, .yellow, .orange, .blue, .purple].find? fun c => v.isText c.name with
  | some color => .ok color
  | none => do
    let shown ← (v.inspect usualDepth).mapError .ofUnshown
    .error (.refused (.color shown))

def colorProperty (color : Color) : Value :=
  .object [
    ("id", .str "color"),
    ("value", .object [("mode", .str "fixed"), ("fixedColor", .str color.name)])]

def rightAxis (unit : Value) : List Value :=
  .object [("id", .str "custom.axisPlacement"), ("value", .str "right")] ::
    if unit.isTruthy then [.object [("id", .str "unit"), ("value", unit)]] else []

def dashedLine : Value :=
  .object [
    ("id", .str "custom.lineStyle"),
    ("value", .object [("fill", .str "dash"), ("dash", .list [.int 10, .int 10])])]

def thresholdOverride (legend : String) : Value :=
  overrideByLegend legend (.list [dashedLine, colorProperty .red])

def targetLegend : String := "Target"

structure TimeSeries where
  title : Value
  description : Value
  datasource : Value
  targets : List Entries
  overrides : List Value := []
  unit : Value := .str "short"
  min : Value := .null
  max : Value := .null

def withRefIds (targets : List Entries) : List Entries :=
  targets.mapIdx fun index query => query.put "refId" (.str (refId index))

def bound (name : String) : Value → List (String × Value)
  | .null => []
  | v => [(name, v)]

def TimeSeries.defaults (p : TimeSeries) : Value :=
  .object <| [
    ("unit", p.unit),
    ("custom", .object [
      ("axisPlacement", .str "auto"), ("drawStyle", .str "line"),
      ("lineInterpolation", .str "smooth"), ("lineWidth", .int 2), ("fillOpacity", .int 10),
      ("showPoints", .str "never")])] ++ bound "min" p.min ++ bound "max" p.max

def TimeSeries.panel (p : TimeSeries) : Entries :=
  .ofFields [
    ("title", p.title), ("description", p.description), ("type", .str "timeseries"),
    ("datasource", .object [("uid", p.datasource)]),
    ("targets", .list ((withRefIds p.targets).map .map)),
    ("options", .object [
      ("tooltip", .object [("mode", .str "multi"), ("sort", .str "none")]),
      ("legend", .object [
        ("displayMode", .str "table"), ("placement", .str "bottom"),
        ("calcs", .strings ["mean", "max", "last"])])]),
    ("fieldConfig", .object [("defaults", p.defaults), ("overrides", .list p.overrides)])]

def row (title collapsed : Value) : Entries :=
  .ofFields [
    ("title", title), ("type", .str "row"), ("collapsed", collapsed), ("panels", .list [])]

end SloCompiler.Panel
