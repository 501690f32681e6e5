import SloCompiler.Number.Reading
import SloCompiler.Refusal

namespace SloCompiler.Whole

def digitOf? (base : Nat) (c : Char) : Option Nat :=
  let value :=
    if c.isDigit then some (c.toNat - 48)
    else if c.isAlpha then some (c.toLower.toNat - 87)
    else none
  value.filter (· < base)

def digits (base : Nat) (cs : List Char) : List Nat :=
  (cs.takeWhile fun c => (digitOf? base c).isSome).filterMap (digitOf? base)

def withoutBaseMark (base : Nat) (cs : List Char) : List Char :=
  match cs with
  | '0' :: c :: rest =>
    let mark := c.toLower
    if (base == 2 && mark == 'b') || (base == 8 && mark == 'o') || (base == 16 && mark == 'x') then
      rest
    else cs
  | _ => cs

-- To base ten the number of digits is limited, even before they are known to be all.
def ofText (base : Nat) (s : String) : Except Refusal Int :=
  let trimmed := (Text.trimWhile Text.isWhiteSpace s.toList).map Binary64.asciiDigit
  let (negative, unsigned) := Binary64.splitSign trimmed
  let body := withoutBaseMark base unsigned
  let ds := digits base body
  if base == 10 && ds.length > maxDigits then .error (.tooManyDigits ds.length)
  else if ds.isEmpty || ds.length != body.length then .error (.whole base s)
  else
    let n : Nat := ds.foldl (fun n d => base * n + d) 0
    .ok (if negative then -n else n)

end SloCompiler.Whole
