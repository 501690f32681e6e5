import SloCompiler.Event
import SloCompiler.Text.Quoted

namespace SloCompiler.CommandLine

inductive Setting where
  | help
  | mixin
  | inputFolder
  | outputFolder
  | rules
  | dashboards
  | logLevel
  deriving DecidableEq, Repr

namespace Setting

def all : List Setting :=
  [.help, .mixin, .inputFolder, .outputFolder, .rules, .dashboards, .logLevel]

def short? : Setting → Option Char
  | .help => some 'h'
  | .mixin => some 'm'
  | .inputFolder => some 'i'
  | .outputFolder => some 'o'
  | .rules => some 'r'
  | .dashboards => some 'd'
  | .logLevel => none

def long : Setting → String
  | .help => "--help"
  | .mixin => "--mixin"
  | .inputFolder => "--input-dir"
  | .outputFolder => "--output-dir"
  | .rules => "--rules"
  | .dashboards => "--dashboards"
  | .logLevel => "--log-level"

def takesValue : Setting → Bool
  | .help | .rules | .dashboards => false
  | _ => true

def names (s : Setting) : List String :=
  (s.short?.map fun c => "-" ++ c.toString).toList ++ [s.long]

def label (s : Setting) : String := "/".intercalate s.names

def ofName? (name : String) : Option Setting := all.find? (·.names.contains name)

def ofShort? (c : Char) : Option Setting := all.find? (·.short? == some c)

end Setting

inductive Misuse where
  | ambiguous (text : String) (names : List String)
  | noValue (s : Setting)
  | needlessValue (s : Setting) (text : String)
  | noChoice (s : Setting) (text : String) (choices : List String)
  | missing (s : Setting)
  | unrecognized (texts : List String)
  deriving DecidableEq, Repr

def Misuse.message : Misuse → String
  | .ambiguous text names =>
    "ambiguous option: " ++ text ++ " could match " ++ ", ".intercalate names
  | .noValue s => "argument " ++ s.label ++ ": expected one argument"
  | .needlessValue s text =>
    "argument " ++ s.label ++ ": ignored explicit argument " ++ Text.quoted text
  | .noChoice s text choices =>
    "argument " ++ s.label ++ ": invalid choice: " ++ Text.quoted text ++ " (choose from " ++
      ", ".intercalate (choices.map Text.quoted) ++ ")"
  | .missing s => "the following arguments are required: " ++ s.label
  | .unrecognized texts => "unrecognized arguments: " ++ " ".intercalate texts

end SloCompiler.CommandLine
