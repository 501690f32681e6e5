import SloCompiler.Number.Binary64
import SloCompiler.Text.Blank
import SloCompiler.Text.Digit

namespace SloCompiler.Binary64

def digitCount (n : Nat) : Nat := (Nat.toDigits 10 n).length

def ofDecimal (negative : Bool) (digits : Nat) (exponent : Int) : Binary64 :=
  let magnitude : Int := digitCount digits + exponent
  if digits = 0 || magnitude < -330 then .finite negative 0
  else if magnitude > 310 then .infinity negative
  else if exponent < 0 then ofRatio negative digits (Nat.pow 10 exponent.natAbs)
  else ofRatio negative (digits * Nat.pow 10 exponent.natAbs) 1

def roundTo (places : Nat) : Binary64 → Binary64
  | .finite negative units =>
    ofDecimal negative (roundQuotient (units * Nat.pow 10 places) unitsPerOne) (-(places : Int))
  | x => x

structure Decimal where
  digits : Nat
  exponent : Int
  deriving DecidableEq, Repr

-- The exponent of the leading decimal digit. The smallest unit exceeds 10^-324, so scaling by
-- 10^324 leaves at least one digit before the point.
def leadingExponent (units : Nat) : Int :=
  (digitCount (units * Nat.pow 10 324 / unitsPerOne) : Int) - 325

def onGrid (units : Nat) (exponent : Int) : Nat × Nat × Nat :=
  let num := if exponent < 0 then units * Nat.pow 10 exponent.natAbs else units
  let den := if exponent < 0 then unitsPerOne else unitsPerOne * Nat.pow 10 exponent.natAbs
  (num / den, 2 * (num % den), den)

def readsBack (units digits : Nat) (exponent : Int) : Bool :=
  ofDecimal false digits exponent == .finite false units

def decimalOnGrid? (units : Nat) (exponent : Int) : Option Decimal :=
  let (low, twice, den) := onGrid units exponent
  let lowReads := readsBack units low exponent
  let highReads := twice != 0 && readsBack units (low + 1) exponent
  if lowReads && (!highReads || twice < den || (twice == den && low % 2 == 0)) then
    some ⟨low, exponent⟩
  else if highReads then some ⟨low + 1, exponent⟩
  else none

-- The fewest digits that read back; seventeen always do.
def shortestFrom (units : Nat) (leading : Int) : List Nat → Decimal
  | [] => ⟨(onGrid units (leading - 16)).1, leading - 16⟩
  | count :: more =>
    match decimalOnGrid? units (leading - count) with
    | some decimal => decimal
    | none => shortestFrom units leading more

def shortest (units : Nat) : Decimal :=
  shortestFrom units (leadingExponent units) (List.range 17)

def scientific (d : Decimal) : List Char × Int :=
  let all := Nat.toDigits 10 d.digits
  let kept := Text.dropEndWhile (· == '0') all
  (kept, d.exponent + all.length - 1)

def exponentText (exponent : Int) : List Char :=
  let digits := Nat.toDigits 10 exponent.natAbs
  'e' :: (if exponent < 0 then '-' else '+') ::
    (if digits.length < 2 then '0' :: digits else digits)

-- A point and at least one digit after it.
def positional (digits : List Char) (exponent : Int) : List Char :=
  if exponent < 0 then
    '0' :: '.' :: List.replicate (exponent.natAbs - 1) '0' ++ digits
  else
    let whole := exponent.natAbs + 1
    let left := digits.take whole ++ List.replicate (whole - digits.length) '0'
    let right := digits.drop whole
    left ++ '.' :: (if right.isEmpty then ['0'] else right)

def withExponent (digits : List Char) (exponent : Int) : List Char :=
  match digits with
  | [] => []
  | [d] => d :: exponentText exponent
  | d :: more => d :: '.' :: more ++ exponentText exponent

def magnitudeText (units : Nat) : List Char :=
  if units = 0 then ['0', '.', '0']
  else
    let (digits, exponent) := scientific (shortest units)
    if exponent < -4 || 16 ≤ exponent then withExponent digits exponent
    else positional digits exponent

def text : Binary64 → String
  | .nan => "nan"
  | .infinity negative => if negative then "-inf" else "inf"
  | .finite negative units =>
    String.ofList (if negative then '-' :: magnitudeText units else magnitudeText units)

end SloCompiler.Binary64
