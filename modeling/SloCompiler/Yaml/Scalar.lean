import SloCompiler.Text.Pieces
import SloCompiler.Yaml.Sheet
import SloCompiler.Yaml.Style

namespace SloCompiler.Yaml

def lineWidth : Nat := 80

inductive Stretch where
  | word (cs : List Char)
  | spaces (count : Nat)
  | breaks (count : Nat)
  deriving DecidableEq, Repr

namespace Stretch

def join (c : Char) (stretches : List Stretch) : List Stretch :=
  if c == ' ' then
    match stretches with
    | .spaces n :: rest => .spaces (n + 1) :: rest
    | _ => .spaces 1 :: stretches
  else if c == '\n' then
    match stretches with
    | .breaks n :: rest => .breaks (n + 1) :: rest
    | _ => .breaks 1 :: stretches
  else
    match stretches with
    | .word cs :: rest => .word (c :: cs) :: rest
    | _ => .word [c] :: stretches

def ofChars (cs : List Char) : List Stretch := cs.foldr join []

end Stretch

namespace Scalar

def isFold (fold : Bool) (s : Sheet) (count : Nat) : Bool :=
  fold && count == 1 && s.column > lineWidth

def plainFrom (fold : Bool) (indent : Nat) (s : Sheet) : List Stretch → Sheet
  | [] => s
  | .word cs :: rest => plainFrom fold indent (s.write cs) rest
  | .spaces n :: rest =>
    if isFold fold s n then plainFrom fold indent (s.moveTo indent).inText rest
    else plainFrom fold indent (s.write (List.replicate n ' ')) rest
  | .breaks _ :: rest => plainFrom fold indent s rest

def plain (fold : Bool) (indent : Nat) (cs : List Char) (s : Sheet) : Sheet :=
  plainFrom fold indent s.separate.inText (Stretch.ofChars cs)

def doubled (cs : List Char) : List Char :=
  cs.flatMap fun c => if c == '\x27' then [c, c] else [c]

def newLines : Nat → Sheet → Sheet
  | 0, s => s
  | n + 1, s => newLines n s.newLine

-- Inside quotes one line feed more is written than is meant.
def singleQuotedFrom (fold : Bool) (indent : Nat) (atStart : Bool) (s : Sheet) :
    List Stretch → Sheet
  | [] => s
  | .word cs :: rest => singleQuotedFrom fold indent false (s.write (doubled cs)) rest
  | .spaces n :: rest =>
    if isFold fold s n && !atStart && !rest.isEmpty then
      singleQuotedFrom fold indent false (s.moveTo indent) rest
    else singleQuotedFrom fold indent false (s.write (List.replicate n ' ')) rest
  | .breaks n :: rest =>
    singleQuotedFrom fold indent false ((newLines (n + 1) s).moveTo indent) rest

def singleQuoted (fold : Bool) (indent : Nat) (cs : List Char) (s : Sheet) : Sheet :=
  (singleQuotedFrom fold indent true (s.separate.mark ['\x27']) (Stretch.ofChars cs)).mark ['\x27']

def letterEscapes : List (Nat × Char) := [
  (0, '0'), (7, 'a'), (8, 'b'), (9, 't'), (10, 'n'), (11, 'v'), (12, 'f'), (13, 'r'), (27, 'e'),
  (34, '"'), (92, '\\'), (0x85, 'N'), (0xa0, '_'), (0x2028, 'L'), (0x2029, 'P')]

def upperHex (width n : Nat) : List Char := (Text.hexDigits width n).map Char.toUpper

def escape (c : Char) : List Char :=
  let n := c.toNat
  match letterEscapes.lookup n with
  | some letter => ['\\', letter]
  | none =>
    if n ≤ 0xff then '\\' :: 'x' :: upperHex 2 n
    else if n ≤ 0xffff then '\\' :: 'u' :: upperHex 4 n
    else '\\' :: 'U' :: upperHex 8 n

def isEscaped (c : Char) : Bool := c == '"' || c == '\\' || !(32 ≤ c.toNat && c.toNat ≤ 126)

def breakLine (indent : Nat) (s : Sheet) (rest : List Char) : Sheet :=
  let s := ((s.write ['\\']).moveTo indent).inText
  if rest.head? == some ' ' then s.write ['\\'] else s

-- Characters are held back up to the next place where a line may end: before a space and behind
-- an escaped character, but not next to the quotes.
def doubleQuotedFrom (fold : Bool) (indent : Nat) (atStart : Bool) (held : List Char)
    (s : Sheet) : List Char → Sheet
  | [] => s.write held.reverse
  | c :: rest =>
    let mayBreak := fold && !atStart && !rest.isEmpty
    if isEscaped c then
      let s := (s.write held.reverse).write (escape c)
      let s := if mayBreak && s.column > lineWidth + 1 then breakLine indent s rest else s
      doubleQuotedFrom fold indent false [] s rest
    else if mayBreak && (c == ' ' || held.isEmpty) && s.column + held.length > lineWidth then
      let s := breakLine indent (s.write held.reverse) (c :: rest)
      doubleQuotedFrom fold indent false [c] s rest
    else doubleQuotedFrom fold indent false (c :: held) s rest

def doubleQuoted (fold : Bool) (indent : Nat) (cs : List Char) (s : Sheet) : Sheet :=
  (doubleQuotedFrom fold indent true [] (s.separate.mark ['"']) cs).mark ['"']

def write (fold : Bool) (indent : Nat) (style : Style) (text : String) (s : Sheet) : Sheet :=
  match style with
  | .plain => plain fold indent text.toList s
  | .singleQuoted => singleQuoted fold indent text.toList s
  | .doubleQuoted => doubleQuoted fold indent text.toList s

end Scalar

end SloCompiler.Yaml
