import SloCompiler.Comparison
import SloCompiler.Duration
import SloCompiler.Schema.Check
import SloCompiler.Selector.Clause

namespace SloCompiler

inductive SliType where
  | availability
  | latency
  deriving DecidableEq, Repr

def SliType.text : SliType → String
  | .availability => "availability"
  | .latency => "latency"

structure SliSpec where
  title : String
  description : String
  metricType : String
  selectors : List (String × String)
  metricTarget : Binary64
  comparison : Option Comparison
  latencyPercentile : Option Binary64
  evalInterval : String
  period : String
  sloTarget : Binary64
  sliType : SliType

namespace SliSpec

open Schema

def titleName : FieldName := ⟨"title", "title"⟩
def descriptionName : FieldName := ⟨"sliDescription", "sli_description"⟩
def metricTypeName : FieldName := ⟨"metricType", "metric_type"⟩
def selectorsName : FieldName := ⟨"selectors", "selectors"⟩
def metricTargetName : FieldName := ⟨"metricTarget", "metric_target"⟩
def comparisonName : FieldName := ⟨"comparison", "comparison"⟩
def latencyPercentileName : FieldName := ⟨"latencyPercentile", "latency_percentile"⟩
def evalIntervalName : FieldName := ⟨"evalInterval", "eval_interval"⟩
def periodName : FieldName := ⟨"period", "period"⟩
def sloTargetName : FieldName := ⟨"sloTarget", "slo_target"⟩
def sliTypeName : FieldName := ⟨"sliType", "sli_type"⟩

def fieldNames : List FieldName := [
  titleName, descriptionName, metricTypeName, selectorsName, metricTargetName, comparisonName,
  latencyPercentileName, evalIntervalName, periodName, sloTargetName, sliTypeName]

-- Whether a field has a value; only two of them may be left without one.
def gives (spec : SliSpec) (field : String) : Bool :=
  if field == comparisonName.second then spec.comparison.isSome
  else if field == latencyPercentileName.second then spec.latencyPercentile.isSome
  else fieldNames.any (·.second == field)

def selectorTable (v : Value) : Checked (List (String × String)) :=
  (texts v).bind fun table =>
    match table.find? fun (label, _) => !isLabelName label with
    | some (label, _) => defective (.selectorLabel label)
    | none => .ok table

-- A text that reads as a duration. A span beyond the range of durations is no issue of the
-- schema but a fault.
def durationText (v : Value) : Except Fault (Checked String) :=
  match text v with
  | .error found => .ok (.error found)
  | .ok s =>
    match Duration.parse s with
    | .ok _ => .ok (.ok s)
    | .error (.refused cause) => .ok (defective (.refused cause))
    | .error fault => .error fault

def durationField (name : FieldName) (default : String) (v : Value) :
    Except Fault (Checked String) :=
  match name.find? v with
  | some (place, found) => (durationText found).map (within place)
  | none => .ok (.ok default)

def comparisons : List (String × Comparison) := Comparison.all.map fun c => (c.text, c)

def sliTypes : List (String × SliType) :=
  [SliType.availability, .latency].map fun t => (t.text, t)

def check (v : Value) : Except Fault (Checked SliSpec) := do
  let evalInterval ← durationField evalIntervalName "1m" v
  let period ← durationField periodName "30d" v
  let spec : Checked (SliSpec) :=
    (.ok SliSpec.mk : Checked _)
      |> Checked.given (titleName.required nonEmptyText v)
      |> Checked.given (descriptionName.withDefault "" text v)
      |> Checked.given (metricTypeName.required nonEmptyText v)
      |> Checked.given (selectorsName.withDefault [] selectorTable v)
      |> Checked.given (metricTargetName.required number v)
      |> Checked.given (comparisonName.withDefault none (optional (oneOf comparisons)) v)
      |> Checked.given (latencyPercentileName.withDefault none (optional (numberBelow 1)) v)
      |> Checked.given evalInterval
      |> Checked.given period
      |> Checked.given (sloTargetName.required (numberBelow 100) v)
      |> Checked.given (sliTypeName.withDefault .availability (oneOf sliTypes) v)
  return spec.require (unexpected fieldNames v)

def read (v product sliId : Value) : Except Fault SliSpec :=
  match v with
  | .map _ => do
    match ← check v with
    | .ok spec => .ok spec
    | .error issues => .error (.ofBuildError { cause := .spec issues, product, sliId })
  | _ => .error (.ofBuildError { cause := .specNotMapping v.kindName, product, sliId })

end SliSpec

abbrev SliTable := List (Value × List (Value × SliSpec))

namespace SliTable

def readProduct (product : Value) : Value → Except Fault (List (Value × SliSpec))
  | .map slis =>
    slis.mapM fun (sliId, spec) => (SliSpec.read spec product sliId).map fun s => (sliId, s)
  | _ => .error (.ofBuildError { cause := .productNotMapping, product })

def read : Value → Except Fault SliTable
  | .map products => products.mapM fun (product, slis) => do
    return (product, ← readProduct product slis)
  | _ => .error (.ofCause .slisNotMapping)

end SliTable

end SloCompiler
