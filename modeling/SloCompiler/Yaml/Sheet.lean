namespace SloCompiler.Yaml

-- A text while it is written: the width of its last line, whether a blank or the start of a line
-- comes last, and whether that line holds nothing but blanks and the marks of nested blocks.
structure Sheet where
  text : String := ""
  column : Nat := 0
  afterBlank : Bool := true
  isFresh : Bool := true

namespace Sheet

def write (s : Sheet) (cs : List Char) : Sheet :=
  { s with text := s.text ++ String.ofList cs, column := s.column + cs.length }

def separate (s : Sheet) : Sheet := if s.afterBlank then s else s.write [' ']

def mark (s : Sheet) (cs : List Char) : Sheet :=
  { s.write cs with afterBlank := false, isFresh := false }

def openMark (s : Sheet) (cs : List Char) : Sheet :=
  { s.write cs with afterBlank := true, isFresh := false }

def blockMark (s : Sheet) (cs : List Char) : Sheet := { s.write cs with afterBlank := false }

def newLine (s : Sheet) : Sheet :=
  { text := s.text.push '\n', column := 0, afterBlank := true, isFresh := true }

def moveTo (s : Sheet) (indent : Nat) : Sheet :=
  let s :=
    if !s.isFresh || s.column > indent || (s.column == indent && !s.afterBlank) then s.newLine
    else s
  if s.column < indent then
    { s.write (List.replicate (indent - s.column) ' ') with afterBlank := true }
  else s

def inText (s : Sheet) : Sheet := { s with afterBlank := false, isFresh := false }

end Sheet

end SloCompiler.Yaml
