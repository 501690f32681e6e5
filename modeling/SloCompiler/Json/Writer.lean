import SloCompiler.Number.Decimal
import SloCompiler.Text.Pieces
import SloCompiler.Value.Basic

namespace SloCompiler.Json

def unitEscape (unit : Nat) : List Char := '\\' :: 'u' :: Text.hexDigits 4 unit

-- Only printable ASCII stands for itself; beyond the basic plane a character is two units.
def escapeChar (c : Char) : List Char :=
  let n := c.toNat
  if c == '"' || c == '\\' then ['\\', c]
  else if 32 ≤ n && n < 127 then [c]
  else if c == '\n' then ['\\', 'n']
  else if c == '\r' then ['\\', 'r']
  else if c == '\t' then ['\\', 't']
  else if n == 8 then ['\\', 'b']
  else if n == 12 then ['\\', 'f']
  else if n < 0x10000 then unitEscape n
  else
    unitEscape (0xd800 + (n - 0x10000) / 0x400) ++ unitEscape (0xdc00 + (n - 0x10000) % 0x400)

def quote (s : String) : String := String.ofList ('"' :: s.toList.flatMap escapeChar ++ ['"'])

def number : Binary64 → String
  | .nan => "NaN"
  | .infinity negative => if negative then "-Infinity" else "Infinity"
  | x => x.text

structure Layout where
  opening : String
  between : String
  closing : String

def layout (indent : Option Nat) (level : Nat) : Layout :=
  match indent with
  | none => ⟨"", ", ", ""⟩
  | some width =>
    let line (depth : Nat) := "\n" ++ String.ofList (List.replicate (width * depth) ' ')
    ⟨line (level + 1), "," ++ line (level + 1), line level⟩

def enclose (indent : Option Nat) (level : Nat) (left right : String) : List String → String
  | [] => left ++ right
  | items =>
    let l := layout indent level
    left ++ l.opening ++ l.between.intercalate items ++ l.closing ++ right

mutual

def writeAt (indent : Option Nat) (level : Nat) : Value → String
  | .null => "null"
  | .bool b => if b then "true" else "false"
  | .int n => toString n
  | .float x => number x
  | .str s => quote s
  | .list items => enclose indent level "[" "]" (writeItems indent (level + 1) items)
  | .map entries => enclose indent level "\x7b" "\x7d" (writeEntries indent (level + 1) entries)
  | _ => ""

def writeItems (indent : Option Nat) (level : Nat) : List Value → List String
  | [] => []
  | v :: rest => writeAt indent level v :: writeItems indent level rest

def writeEntries (indent : Option Nat) (level : Nat) : List (Value × Value) → List String
  | [] => []
  | (k, v) :: rest =>
    (writeAt indent level k ++ ": " ++ writeAt indent level v) :: writeEntries indent level rest

end

def write (indent : Option Nat) (v : Value) : String := writeAt indent 0 v

end SloCompiler.Json
