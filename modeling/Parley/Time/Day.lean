import Parley.Number.Numeral
import Parley.Number.Shortest
import Parley.Text.Quoted

/-!
Days of the calendar, counted from 1 January 1970.
-/

namespace Parley

open Parley.Number

structure Day where
  number : Int
  deriving DecidableEq, Repr

namespace Day

def isLeap (year : Int) : Bool := year % 4 = 0 && (year % 100 ≠ 0 || year % 400 = 0)

def monthLength (year : Int) (month : Nat) : Nat :=
  if month = 2 then if isLeap year then 29 else 28
  else if month = 4 || month = 6 || month = 9 || month = 11 then 30
  else 31

/-- The days before a month of a year that begins in March. -/
def daysBeforeMonth (month : Int) : Int := (153 * month + 2) / 5

def daysBeforeYear (year : Int) : Int := 365 * year + year / 4 - year / 100

def cycle : Int := 146097

/-- 1 January 1970, counted from 1 March of the year 0. -/
def epoch : Int := 719468

def ofDate (year : Int) (month day : Nat) : Day :=
  let marchYear := if month ≤ 2 then year - 1 else year
  let marchMonth : Int := (month + 9) % 12
  let inCycle := marchYear % 400
  ⟨marchYear / 400 * cycle + daysBeforeYear inCycle + daysBeforeMonth marchMonth + day - 1 - epoch⟩

def toDate (day : Day) : Int × Nat × Nat :=
  let n := day.number + epoch
  let inCycle := n % cycle
  let year := (inCycle - inCycle / 1460 + inCycle / 36524 - inCycle / 146096) / 365
  let inYear := inCycle - daysBeforeYear year
  let month := (5 * inYear + 2) / 153
  let dayOfMonth := inYear - daysBeforeMonth month + 1
  let calendarMonth := if month < 10 then month + 3 else month - 9
  let calendarYear := year + n / cycle * 400
  (if calendarMonth ≤ 2 then calendarYear + 1 else calendarYear, calendarMonth.toNat,
    dayOfMonth.toNat)

def ofDate? (year : Nat) (month day : Nat) : Option Day :=
  if 1 ≤ month && month ≤ 12 && 1 ≤ day && day ≤ monthLength year month then
    some (ofDate year month day)
  else none

/-- The number that a fixed count of digits at the start of a text stands for, and the rest. -/
def takeDigits? (count : Nat) (text : List Char) : Option (Nat × List Char) :=
  let digits := text.take count
  if digits.length = count && digits.all isAsciiDigit then
    some (numeralValue digits, text.drop count)
  else none

def takeMark? (mark : Char) (text : List Char) : Option (List Char) :=
  match text with
  | c :: rest => if c = mark then some rest else none
  | [] => none

def takeDate? (text : List Char) : Option (Day × List Char) := do
  let (year, rest) ← takeDigits? 4 text
  let (month, rest) ← takeDigits? 2 (← takeMark? '-' rest)
  let (day, rest) ← takeDigits? 2 (← takeMark? '-' rest)
  let found ← ofDate? year month day
  return (found, rest)

def parse? (text : String) : Option Day :=
  match takeDate? text.toList with
  | some (day, []) => some day
  | _ => none

def padded (width n : Nat) : List Char :=
  let digits := digitsOf n
  List.replicate (width - digits.length) '0' ++ digits

def print (day : Day) : String :=
  let (year, month, dayOfMonth) := day.toDate
  String.ofList
    (padded 4 year.toNat ++ '-' :: padded 2 month ++ '-' :: padded 2 dayOfMonth)

end Day

/-! ## Written days

Days as a caller writes them: year, month and day, or year, week and day of the week, with hyphens
in all places or in none.
-/

inductive DayFault where
  | unreadable (text : String)
  | noYear
  | noMonth
  | noDay
  | tooLate
  deriving DecidableEq, Repr

def DayFault.message : DayFault → String
  | .unreadable text => "Invalid isoformat string: " ++ String.ofList (Text.quoted text.toList)
  | .noYear => "year 0 is out of range"
  | .noMonth => "month must be in 1..12"
  | .noDay => "day is out of range for month"
  | .tooLate => "year 10000 is out of range"

namespace Day

/-- The day of the week, counted from Monday as zero. -/
def weekday (day : Day) : Nat := ((day.number + 3) % 7).toNat

/-- The Monday of the first week of a year, which is the one with the fourth of January. -/
def firstMonday (year : Nat) : Day :=
  let fourth := ofDate year 1 4
  ⟨fourth.number - fourth.weekday⟩

/-- Years that begin on a Thursday, and leap years that begin on a Wednesday, have 53 weeks. -/
def weeksOf (year : Nat) : Nat :=
  let first := (ofDate year 1 1).weekday
  if first = 3 || (first = 2 && isLeap year) then 53 else 52

def ofWeek? (year week weekday : Nat) : Option Day :=
  if 1 ≤ week && week ≤ weeksOf year && 1 ≤ weekday && weekday ≤ 7 then
    some ⟨(firstMonday year).number + (7 * (week - 1) + (weekday - 1) : Nat)⟩
  else none

def last : Day := ofDate 9999 12 31

def first : Day := ofDate 1 1 1

def skipHyphen? (hyphens : Bool) (text : List Char) : Option (List Char) :=
  if hyphens then takeMark? '-' text else some text

def takeWeek? (hyphens : Bool) (text : List Char) : Option (Nat × Nat) := do
  let (week, rest) ← takeDigits? 2 text
  if rest.isEmpty then return (week, 1)
  let (weekday, _) ← takeDigits? 1 (← skipHyphen? hyphens rest)
  return (week, weekday)

def takeMonthDay? (hyphens : Bool) (text : List Char) : Option (Nat × Nat) := do
  let (month, rest) ← takeDigits? 2 text
  let (dayOfMonth, _) ← takeDigits? 2 (← skipHyphen? hyphens rest)
  return (month, dayOfMonth)

def ofParts (year month dayOfMonth : Nat) : Except DayFault Day :=
  if year = 0 then .error .noYear
  else if month = 0 || 12 < month then .error .noMonth
  else if dayOfMonth = 0 || monthLength year month < dayOfMonth then .error .noDay
  else .ok (ofDate year month dayOfMonth)

/-- The lengths, in bytes, of a date with and without its parts. -/
def writtenLengths : List Nat := [7, 8, 10]

def read (text : String) : Except DayFault Day :=
  let parsed : Option (Except DayFault Day) := do
    let (year, rest) ← takeDigits? 4 text.toList
    let hyphens := rest.head? = some '-'
    let rest := if hyphens then rest.drop 1 else rest
    match rest with
    | 'W' :: rest => do
      let (week, weekday) ← takeWeek? hyphens rest
      let day ← ofWeek? year week weekday
      return if day.number < first.number then .error .noMonth
        else if last.number < day.number then .error .tooLate
        else .ok day
    | rest => (takeMonthDay? hyphens rest).map fun (month, day) => ofParts year month day
  if writtenLengths.contains text.utf8ByteSize then parsed.getD (.error (.unreadable text))
  else .error (.unreadable text)

end Day

end Parley
