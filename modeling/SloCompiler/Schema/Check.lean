import SloCompiler.Fault
import SloCompiler.Number.Reading
import SloCompiler.Ordered

namespace SloCompiler.Schema

abbrev Checked (α : Type) := Except (List SchemaIssue) α

namespace Checked

def issues : Checked α → List SchemaIssue
  | .ok _ => []
  | .error found => found

-- Hands a further value to a function; the issues of both are kept, in order.
def given (x : Checked α) (f : Checked (α → β)) : Checked β :=
  match f, x with
  | .ok g, .ok v => .ok (g v)
  | f, x => .error (f.issues ++ x.issues)

def require (found : List SchemaIssue) (x : Checked α) : Checked α :=
  match x with
  | .ok v => if found.isEmpty then .ok v else .error found
  | .error before => .error (before ++ found)

end Checked

def defective (d : SchemaDefect) : Checked α := .error [⟨[], d⟩]

def within (place : String) (x : Checked α) : Checked α :=
  x.mapError fun found => found.map fun i => { i with place := place :: i.place }

def utf8? (octets : List UInt8) : Option String := String.fromUTF8? ⟨octets.toArray⟩

def text : Value → Checked String
  | .str s => .ok s
  | .bytes octets =>
    match utf8? octets with
    | some s => .ok s
    | none => defective .notUnicode
  | _ => defective .notText

def nonEmptyText (v : Value) : Checked String :=
  (text v).bind fun s => if s.isEmpty then defective .empty else .ok s

def numeral? (s : String) : Option Binary64 :=
  let cs := s.toList
  match Binary64.ofText? (Text.trimWhile Text.isWhiteSpace cs) with
  | some x => some x
  | none =>
    let groups := Text.pieces (· == '_') cs
    if groups.any List.isEmpty then none else Binary64.ofText? groups.flatten

def numeral (s : String) : Checked Binary64 :=
  match numeral? s with
  | some x => .ok x
  | none => defective .notNumeral

def number : Value → Checked Binary64
  | .float x => .ok x
  | .bool b => .ok (Binary64.ofBool b)
  | .int n =>
    match Binary64.ofInt? n with
    | some x => .ok x
    | none => defective .notNumber
  | .str s => numeral s
  | .bytes octets =>
    match utf8? octets with
    | some s => numeral s
    | none => defective .notNumeral
  | _ => defective .notNumber

def numberBelow (bound : Nat) (v : Value) : Checked Binary64 :=
  (number v).bind fun x =>
    if x.compareInt? bound != some .lt then defective (.notBelow bound)
    else if x.compareInt? 0 != some .gt then defective (.notAbove 0)
    else .ok x

def oneOf (choices : List (String × α)) (v : Value) : Checked α :=
  let found := match text v with
    | .ok s => choices.lookup s
    | .error _ => none
  match found with
  | some choice => .ok choice
  | none => defective (.notOneOf (choices.map (·.1)))

def optional (check : Value → Checked α) : Value → Checked (Option α)
  | .null => .ok none
  | v => (check v).map some

def keyName : Value → String
  | .bool b => if b then "1" else "0"
  | v => v.label

def textEntry (entry : Value × Value) : Checked (String × String) :=
  let name := keyName entry.1
  (.ok Prod.mk : Checked _)
    |> Checked.given (within name (within "[key]" (text entry.1)))
    |> Checked.given (within name (text entry.2))

def texts : Value → Checked (List (String × String))
  | .map entries =>
    let table := entries.foldr (fun entry rest =>
      (.ok List.cons : Checked _) |> Checked.given (textEntry entry) |> Checked.given rest) (.ok [])
    table.map Ordered.ofPairs
  | _ => defective .notMapping

-- A field goes by the name that definitions use and by a second one; the first is preferred.
structure FieldName where
  first : String
  second : String

namespace FieldName

def find? (name : FieldName) (v : Value) : Option (String × Value) :=
  match v.field? name.first with
  | some found => some (name.first, found)
  | none => (v.field? name.second).map fun found => (name.second, found)

def used (name : FieldName) (v : Value) : List String := ((name.find? v).map (·.1)).toList

def required (name : FieldName) (check : Value → Checked α) (v : Value) : Checked α :=
  match name.find? v with
  | some (place, found) => within place (check found)
  | none => within name.first (defective .missing)

def withDefault (name : FieldName) (default : α) (check : Value → Checked α) (v : Value) :
    Checked α :=
  match name.find? v with
  | some (place, found) => within place (check found)
  | none => .ok default

end FieldName

def unexpected (names : List FieldName) (v : Value) : List SchemaIssue :=
  let used := names.flatMap (·.used v)
  v.entries.filterMap fun
    | (.str key, _) => if used.contains key then none else some ⟨[key], .unexpected⟩
    | (key, _) => some ⟨[keyName key], .keyNotText⟩

end SloCompiler.Schema
