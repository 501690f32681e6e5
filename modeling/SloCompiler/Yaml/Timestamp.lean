import SloCompiler.Fault

namespace SloCompiler.Yaml

structure ClockText where
  hour : Nat
  minute : Nat
  second : Nat
  fraction : List Char
  offset : Option Int
  deriving DecidableEq, Repr

structure Timestamp where
  year : Nat
  month : Nat
  day : Nat
  clock : Option ClockText
  deriving DecidableEq, Repr

namespace Timestamp

def number (digits : List Char) : Nat := digits.foldl (fun n c => 10 * n + (c.toNat - 48)) 0

def readNumber? (least most : Nat) (cs : List Char) : Option (Nat × List Char) :=
  let digits := (cs.take most).takeWhile Char.isDigit
  if digits.length < least then none else some (number digits, cs.drop digits.length)

def readMark? (mark : Char) : List Char → Option (List Char)
  | c :: rest => if c == mark then some rest else none
  | [] => none

def isGap (c : Char) : Bool := c == ' ' || c == '\t'

def readDistance? (cs : List Char) : Option Int := do
  let (hours, rest) ← readNumber? 1 2 cs
  match rest with
  | [] => some (hours * 3600)
  | _ =>
    let (minutes, more) ← readNumber? 2 2 (← readMark? ':' rest)
    if more.isEmpty then some (hours * 3600 + minutes * 60) else none

def readZone? (cs : List Char) : Option (Option Int) :=
  if cs.isEmpty then some none
  else
    match cs.dropWhile isGap with
    | ['Z'] => some (some 0)
    | '+' :: rest => (readDistance? rest).map some
    | '-' :: rest => (readDistance? rest).map fun seconds => some (-seconds)
    | _ => none

def readClock? (cs : List Char) : Option ClockText := do
  let (hour, rest) ← readNumber? 1 2 cs
  let (minute, rest) ← readNumber? 2 2 (← readMark? ':' rest)
  let (second, rest) ← readNumber? 2 2 (← readMark? ':' rest)
  let (fraction, rest) := match rest with
    | '.' :: more => (more.takeWhile Char.isDigit, more.dropWhile Char.isDigit)
    | _ => ([], rest)
  return ⟨hour, minute, second, fraction, ← readZone? rest⟩

def afterDate? : List Char → Option (List Char)
  | 'T' :: rest | 't' :: rest => some rest
  | c :: rest => if isGap c then some (rest.dropWhile isGap) else none
  | [] => none

def read? (cs : List Char) : Option Timestamp := do
  let (year, rest) ← readNumber? 4 4 cs
  let (month, rest) ← readNumber? 1 2 (← readMark? '-' rest)
  let (day, rest) ← readNumber? 1 2 (← readMark? '-' rest)
  if rest.isEmpty then return ⟨year, month, day, none⟩
  else return ⟨year, month, day, some (← readClock? (← afterDate? rest))⟩

def refuse (d : CalendarDefect) : Except Fault α := .error (.refused (.calendar d))

def checkDate (t : Timestamp) : Except Fault Date :=
  if t.year = 0 then refuse (.year 0)
  else if t.month = 0 || t.month > 12 then refuse .month
  else if t.day = 0 || t.day > Date.daysInMonth t.year t.month then refuse .day
  else .ok ⟨t.year, t.month, t.day⟩

-- The first six digits of a fraction count.
def microsecond (fraction : List Char) : Nat :=
  let digits := fraction.take 6
  number (digits ++ List.replicate (6 - digits.length) '0')

def check (t : Timestamp) : Except Fault Value :=
  match t.clock with
  | none => (checkDate t).map .date
  | some c => do
    match c.offset with
    | some seconds => if seconds.natAbs ≥ 86400 then refuse (.offset seconds)
    | none => .ok ()
    let date ← checkDate t
    if c.hour > 23 then refuse .hour
    else if c.minute > 59 then refuse .minute
    else if c.second > 59 then refuse .second
    else return .dateTime ⟨date, c.hour, c.minute, c.second, microsecond c.fraction, c.offset⟩

end Timestamp

end SloCompiler.Yaml
