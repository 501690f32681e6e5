import SloCompiler.Refusal

namespace SloCompiler

inductive SchemaDefect where
  | missing
  | unexpected
  | keyNotText
  | notText
  | notUnicode
  | empty
  | notMapping
  | notNumber
  | notNumeral
  | notAbove (bound : Nat)
  | notBelow (bound : Nat)
  | notOneOf (choices : List String)
  | selectorLabel (label : String)
  | refused (cause : Refusal)

def listChoices : List String → String
  | [] => ""
  | [last] => "'" ++ last ++ "'"
  | [a, b] => "'" ++ a ++ "' or '" ++ b ++ "'"
  | a :: rest => "'" ++ a ++ "', " ++ listChoices rest

def SchemaDefect.message : SchemaDefect → String
  | .missing => "Field required"
  | .unexpected => "Extra inputs are not permitted"
  | .keyNotText => "Keys should be strings"
  | .notText => "Input should be a valid string"
  | .notUnicode => "Input should be a valid string, unable to parse raw data as a unicode string"
  | .empty => "String should have at least 1 character"
  | .notMapping => "Input should be a valid dictionary"
  | .notNumber => "Input should be a valid number"
  | .notNumeral => "Input should be a valid number, unable to parse string as a number"
  | .notAbove bound => s!"Input should be greater than {bound}"
  | .notBelow bound => s!"Input should be less than {bound}"
  | .notOneOf choices => "Input should be " ++ listChoices choices
  | .selectorLabel label => "Value error, invalid label name " ++ Text.quoted label
  | .refused cause => "Value error, " ++ cause.message

structure SchemaIssue where
  place : List String
  defect : SchemaDefect

def SchemaIssue.message (i : SchemaIssue) : String :=
  let place := ".".intercalate i.place
  if place.isEmpty then i.defect.message else place ++ ": " ++ i.defect.message

def SchemaIssue.summary (issues : List SchemaIssue) : String :=
  "; ".intercalate (issues.map message)

end SloCompiler
