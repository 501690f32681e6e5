import SloCompiler.Fault
import SloCompiler.Number.Reading
import SloCompiler.Text.Pieces

namespace SloCompiler

structure Duration where
  microseconds : Int
  deriving DecidableEq, Repr

inductive DurationUnit where
  | year
  | week
  | day
  | hour
  | minute
  | second
  | millisecond
  deriving DecidableEq, Repr

namespace DurationUnit

def suffix : DurationUnit → String
  | .year => "y"
  | .week => "w"
  | .day => "d"
  | .hour => "h"
  | .minute => "m"
  | .second => "s"
  | .millisecond => "ms"

def microseconds : DurationUnit → Int
  | .year => 365 * 86400000000
  | .week => 7 * 86400000000
  | .day => 86400000000
  | .hour => 3600000000
  | .minute => 60000000
  | .second => 1000000
  | .millisecond => 1000

def all : List DurationUnit := [.year, .week, .day, .hour, .minute, .second, .millisecond]

def read? : List Char → Option (DurationUnit × List Char)
  | 'm' :: 's' :: rest => some (.millisecond, rest)
  | 'y' :: rest => some (.year, rest)
  | 'w' :: rest => some (.week, rest)
  | 'd' :: rest => some (.day, rest)
  | 'h' :: rest => some (.hour, rest)
  | 'm' :: rest => some (.minute, rest)
  | 's' :: rest => some (.second, rest)
  | _ => none

end DurationUnit

namespace Duration

def perDay : Int := 86400000000

-- A span has fewer than 10^9 days either way.
def inRange (microseconds : Int) : Bool :=
  -999999999 * perDay ≤ microseconds && microseconds < 1000000000 * perDay

def ofMicroseconds (n : Int) : Except Fault Duration :=
  if inRange n then .ok ⟨n⟩ else .error .overflow

def days (d : Duration) : Int := Int.fdiv d.microseconds perDay

def seconds (d : Duration) : Int := Int.fdiv (Int.fmod d.microseconds perDay) 1000000

def micros (d : Duration) : Int := Int.fmod d.microseconds 1000000

def parts? : Nat → List Char → Option (List (List Char × DurationUnit))
  | 0, _ => none
  | n + 1, cs =>
    let digits := cs.takeWhile Text.isDigit
    if digits.isEmpty then none
    else do
      let (unit, rest) ← DurationUnit.read? (cs.dropWhile Text.isDigit)
      if rest.isEmpty then some [(digits, unit)]
      else (parts? n rest).map ((digits, unit) :: ·)

def amount (digits : List Char) : Except Fault Int :=
  if digits.length ≤ maxDigits then .ok (Binary64.natOfDigits digits)
  else .error (.refused (.tooManyDigits digits.length))

def addPart (total : Duration) (part : List Char × DurationUnit) : Except Fault Duration := do
  let n ← amount part.1
  let span ← ofMicroseconds (n * part.2.microseconds)
  ofMicroseconds (total.microseconds + span.microseconds)

-- One or more amounts with their units, a line feed possibly after them.
def parse (text : String) : Except Fault Duration :=
  let cs := Text.withoutFinalNewline text.toList
  match parts? (cs.length + 1) cs with
  | none => .error (.refused (.duration (Text.quoted text)))
  | some parts => do
    let total ← parts.foldlM addPart ⟨0⟩
    if total.microseconds ≤ 0 then .error (.refused (.durationNotPositive (Text.quoted text)))
    else .ok total

def ofValue : Value → Except Fault Duration
  | .str text => parse text
  | v => do
    let shown ← (v.inspect usualDepth).mapError .ofUnshown
    .error (.refused (.duration shown))

def twoDigits (n : Int) : String :=
  let digits := toString n
  if digits.length < 2 then "0" ++ digits else digits

def sixDigits (n : Int) : String :=
  let digits := Nat.toDigits 10 n.toNat
  String.ofList (List.replicate (6 - digits.length) '0' ++ digits)

def clock (d : Duration) : String :=
  let days := d.days
  let seconds := d.seconds
  let dayPart :=
    if days = 0 then ""
    else toString days ++ (if days = 1 || days = -1 then " day, " else " days, ")
  let time := toString (seconds / 3600) ++ ":" ++ twoDigits (seconds / 60 % 60) ++ ":" ++
    twoDigits (seconds % 60)
  dayPart ++ time ++ (if d.micros = 0 then "" else "." ++ sixDigits d.micros)

def divides (unit : DurationUnit) (d : Duration) : Bool :=
  Int.fmod d.microseconds unit.microseconds == 0

def format (d : Duration) : Except Refusal String :=
  if d.microseconds ≤ 0 then .error (.durationNotPositive d.clock)
  else
    match DurationUnit.all.find? (divides · d) with
    | some unit => .ok (toString (Int.fdiv d.microseconds unit.microseconds) ++ unit.suffix)
    | none => .error (.durationTooFine d.clock)

end Duration

end SloCompiler
