import SloCompiler.Text.Pieces

namespace SloCompiler

def isMetricStart (c : Char) : Bool := c.isAlpha || c == '_' || c == ':'

def isMetricChar (c : Char) : Bool := c.isAlphanum || c == '_' || c == ':'

def isMetricChars : List Char → Bool
  | [] => false
  | c :: rest => isMetricStart c && rest.all isMetricChar

-- A line feed may follow the name.
def isMetricName (name : String) : Bool := isMetricChars (Text.withoutFinalNewline name.toList)

def sanitizeChars (cs : List Char) : List Char :=
  let safe := cs.map fun c => if isMetricChar c then c else '_'
  match safe with
  | [] => []
  | c :: _ => if c.isDigit then '_' :: safe else safe

def sanitizeName (name : String) : String := String.ofList (sanitizeChars name.toList)

end SloCompiler
