import SloCompiler.Value.Inspect

namespace SloCompiler

inductive TemplateDefect where
  | loneBrace (brace : Char)
  | braceInName
  | unclosedField
  | unclosedSpec
  | noConversion
  | afterConversion
  | conversion (c : Char)
  | tooDeep
  | tooManyDigits
  | emptyAttribute
  | unclosedItem
  | afterItem
  | bothSeparators
  | separator (mark code : Char)
  | noPrecision
  | spec (text : String)
  | code (c : Char)
  | blankSign
  | sign
  | zeroCoercion
  | alternateForm
  | signAlignment
  deriving DecidableEq, Repr

inductive CalendarDefect where
  | year (n : Nat)
  | month
  | day
  | hour
  | minute
  | second
  | offset (seconds : Int)
  deriving DecidableEq, Repr

inductive Refusal where
  | labelName (label : String)
  | matchOperator (text : String)
  | selectorValue (label shown : String)
  | templateGap (template name : String)
  | template (defect : TemplateDefect)
  | metricName (name : String)
  | comparison (text : String)
  | duration (shown : String)
  | durationNotPositive (shown : String)
  | durationTooFine (shown : String)
  | tooManyDigits (count : Nat)
  | longNumber
  | decimal (text : String)
  | whole (base : Nat) (text : String)
  | calendar (defect : CalendarDefect)
  | registered (tag : String)
  | noIndicator (tag : String)
  | color (shown : String)
  | nullInPath (creating : Bool)
  | codePoint

def codeName (c : Char) : String :=
  if 32 < c.toNat && c.toNat < 127 then c.toString
  else "\\x" ++ String.ofList (Nat.toDigits 16 c.toNat)

def TemplateDefect.message : TemplateDefect → String
  | .loneBrace brace => "Single '" ++ brace.toString ++ "' encountered in format string"
  | .braceInName => "unexpected '\x7b' in field name"
  | .unclosedField => "expected '\x7d' before end of string"
  | .noConversion => "end of string while looking for conversion specifier"
  | .unclosedSpec => "unmatched '\x7b' in format spec"
  | .afterConversion => "expected ':' after conversion specifier"
  | .conversion c => "Unknown conversion specifier " ++ codeName c
  | .tooDeep => "Max string recursion exceeded"
  | .tooManyDigits => "Too many decimal digits in format string"
  | .emptyAttribute => "Empty attribute in format string"
  | .unclosedItem => "Missing ']' in format string"
  | .afterItem => "Only '.' or '[' may follow ']' in format field specifier"
  | .bothSeparators => "Cannot specify both ',' and '_'."
  | .separator mark c => "Cannot specify '" ++ mark.toString ++ "' with '" ++ codeName c ++ "'."
  | .noPrecision => "Format specifier missing precision"
  | .spec text => "Invalid format specifier '" ++ text ++ "' for object of type 'str'"
  | .code c => "Unknown format code '" ++ codeName c ++ "' for object of type 'str'"
  | .blankSign => "Space not allowed in string format specifier"
  | .sign => "Sign not allowed in string format specifier"
  | .zeroCoercion => "Negative zero coercion (z) not allowed in string format specifier"
  | .alternateForm => "Alternate form (#) not allowed in string format specifier"
  | .signAlignment => "'=' alignment not allowed in string format specifier"

def CalendarDefect.message : CalendarDefect → String
  | .year n => s!"year {n} is out of range"
  | .month => "month must be in 1..12"
  | .day => "day is out of range for month"
  | .hour => "hour must be in 0..23"
  | .minute => "minute must be in 0..59"
  | .second => "second must be in 0..59"
  | .offset seconds =>
    "offset must be a timedelta strictly between -timedelta(hours=24) and timedelta(hours=24), not "
      ++ inspectDelta seconds ++ "."

def shownLimit : Nat := 200

def Refusal.message : Refusal → String
  | .labelName label => "Invalid label name: " ++ Text.quoted label
  | .matchOperator text => "Invalid selector operator: " ++ Text.quoted text
  | .selectorValue label shown =>
    "Selector value for " ++ Text.quoted label ++ " must be a string, got " ++ shown
  | .templateGap text name =>
    "Metric name template " ++ Text.quoted text ++ " is missing value " ++ Text.quoted name
  | .template defect => defect.message
  | .metricName name => "Invalid metric name: " ++ Text.quoted name
  | .comparison text => "Unknown comparison operator: " ++ Text.quoted text
  | .duration shown => "Invalid duration: " ++ shown
  | .durationNotPositive shown => "Duration must be positive: " ++ shown
  | .durationTooFine shown => "Duration is not expressible in Prometheus format: " ++ shown
  | .tooManyDigits count =>
    s!"Exceeds the limit (4300 digits) for integer string conversion: value has {count} digits; " ++
      "use sys.set_int_max_str_digits() to increase the limit"
  | .longNumber =>
    "Exceeds the limit (4300 digits) for integer string conversion; " ++
      "use sys.set_int_max_str_digits() to increase the limit"
  | .decimal text => "could not convert string to float: " ++ Text.quoted text
  | .whole base text =>
    s!"invalid literal for int() with base {base}: " ++
      String.ofList ((Text.quoted text).toList.take shownLimit)
  | .calendar defect => defect.message
  | .registered tag => "metricType '" ++ tag ++ "' is already registered"
  | .noIndicator tag => "Plugin for '" ++ tag ++ "' must be a MetricTypePlugin"
  | .color shown => shown ++ " is not a valid SeriesColor"
  | .codePoint => "chr() arg not in range(0x110000)"
  | .nullInPath creating =>
    if creating then "mkdir: embedded null character in path" else "embedded null byte"

end SloCompiler
