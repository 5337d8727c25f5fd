import Parley.Time.Day

/-!
Points in time as records carry them: a reading of the calendar and the clock in microseconds, and
how far that clock is ahead of universal time if the record says so.
-/

namespace Parley

structure Timestamp where
  micros : Int
  offsetMinutes : Option Int := some 0
  deriving DecidableEq, Repr

namespace Timestamp

def microsPerSecond : Int := 1000000

def secondsPerDay : Int := 86400

def day (time : Timestamp) : Day := ⟨time.micros / (microsPerSecond * secondsPerDay)⟩

def atMidnight (day : Day) : Timestamp := ⟨day.number * secondsPerDay * microsPerSecond, none⟩

def isMidnight (time : Timestamp) : Bool := time.micros % (microsPerSecond * secondsPerDay) = 0

/-- A year that a calendar shows: a reader also accepts the year 0, which no calendar has. -/
def hasYear (time : Timestamp) : Bool := 1 ≤ time.day.toDate.1

/-! ### Calendar and clock -/

/-- Microseconds that the digits after a point or comma stand for; at most six count. -/
def fraction? (text : List Char) : Option (Nat × List Char) :=
  match text with
  | [] => some (0, [])
  | mark :: rest =>
    if mark = '.' || mark = ',' then
      let digits := rest.takeWhile Number.isAsciiDigit
      if digits.isEmpty then none
      else
        let six := (digits ++ List.replicate 6 '0').take 6
        some (Number.numeralValue six, rest.drop digits.length)
    else some (0, text)

def longMinus : Char := '\u2212'

/-- The offset at the end of a text: none, `Z`, or hours and minutes behind a sign. -/
def offset? (text : List Char) : Option (Option Int) :=
  match text with
  | [] => some none
  | ['Z'] => some (some 0)
  | ['z'] => some (some 0)
  | sign :: rest =>
    if sign = '+' || sign = '-' || sign = longMinus then do
      let (hours, rest) ← Day.takeDigits? 2 rest
      let (minutes, rest) ← Day.takeDigits? 2 ((Day.takeMark? ':' rest).getD rest)
      if !rest.isEmpty || 23 < hours || 59 < minutes then none
      else
        let size : Int := hours * 60 + minutes
        some (some (if sign = '+' then size else -size))
    else none

def seconds? (text : List Char) : Option (Nat × Nat × List Char) :=
  match Day.takeMark? ':' text with
  | some rest => do
    let (seconds, rest) ← Day.takeDigits? 2 rest
    let (micros, rest) ← fraction? rest
    return (seconds, micros, rest)
  | none => some (0, 0, text)

def calendar? (text : List Char) : Option Timestamp := do
  let (day, rest) ← Day.takeDate? text
  match rest with
  | [] => none
  | mark :: rest =>
    if mark = 'T' || mark = 't' || mark = ' ' || mark = '_' then do
      let (hours, rest) ← Day.takeDigits? 2 rest
      let (minutes, rest) ← Day.takeDigits? 2 (← Day.takeMark? ':' rest)
      let (seconds, micros, rest) ← seconds? rest
      let offset ← offset? rest
      if 23 < hours || 59 < minutes || 59 < seconds then none
      else
        let total : Int := day.number * secondsPerDay + hours * 3600 + minutes * 60 + seconds
        some ⟨total * microsPerSecond + micros, offset⟩
    else none

/-! ### Counts since 1 January 1970 -/

/-- Counts up to this size are seconds, larger ones milliseconds. -/
def largestSecond : Int := 20000000000

def firstSecond : Int := -62167219200

def lastSecond : Int := 253402300799

def secondOfCount (count : Int) : Int × Int :=
  if (count.natAbs : Int) ≤ largestSecond then (count, 0)
  else (count / 1000, count % 1000 * 1000)

def ofCount? (count : Int) (micros : Nat) : Option Timestamp :=
  let (second, more) := secondOfCount count
  let total := second * microsPerSecond + more + micros
  let reached := total / microsPerSecond
  if firstSecond ≤ reached && reached ≤ lastSecond then some ⟨total, some 0⟩ else none

/-- Microseconds in a part of a second, the larger number for a half. -/
def microsOf (part : Float) : Nat := (part * 1000000).round.toUInt64.toNat

/-- A number of seconds or milliseconds. What stands behind its point counts as seconds in either
case, and forward from the whole number below. -/
def ofNumber? (x : Float) : Option Timestamp :=
  if Number.isFinite x then
    let part := if x < 0 then x.ceil - x else x - x.floor
    ofCount? (Number.exact x).floor (microsOf part)
  else none

def ofWrittenNumber? (x : Float) : Option Timestamp :=
  if Number.isFinite x then
    let seconds := if x.abs > Float.ofInt largestSecond then x / 1000 else x
    ofCount? (Number.exact seconds).floor (microsOf (seconds - seconds.floor))
  else none

def count? (text : List Char) : Option Timestamp :=
  let (_, size) := Number.takeSign text
  match size with
  | first :: _ =>
    if Number.isAsciiDigit first then
      match Number.integer? text with
      | some count => ofCount? count 0
      | none =>
        if (size.dropWhile Number.isAsciiDigit).head? = some '.' then
          (Number.real? text).bind ofWrittenNumber?
        else none
    else none
  | [] => none

/-- A day for a count of seconds or milliseconds whose second is the first of the day. -/
def dayOfCount? (text : List Char) : Option Day := do
  let (second, _) := secondOfCount (← Number.integer? text)
  if firstSecond ≤ second && second ≤ lastSecond && second % secondsPerDay = 0 then
    some ⟨second / secondsPerDay⟩
  else none

/-! ### Reading and printing -/

/-- A date alone, or a count that begins a day. -/
def parseDay? (text : String) : Option Day := Day.parse? text <|> dayOfCount? text.toList

/-- A date with a time of day, a count, or a date alone, which stands for its midnight. -/
def parse? (text : String) : Option Timestamp :=
  calendar? text.toList <|> count? text.toList <|> (parseDay? text).map atMidnight

def clockText (time : Timestamp) : List Char :=
  let seconds := time.micros / microsPerSecond % secondsPerDay
  time.day.print.toList ++ 'T' :: Day.padded 2 (seconds / 3600).toNat ++
    ':' :: Day.padded 2 (seconds / 60 % 60).toNat ++ ':' :: Day.padded 2 (seconds % 60).toNat

def shortText (time : Timestamp) : String := String.ofList time.clockText

def fractionText (time : Timestamp) : List Char :=
  let micros := (time.micros % microsPerSecond).toNat
  if micros = 0 then [] else '.' :: Day.padded 6 micros

def offsetText (time : Timestamp) : List Char :=
  match time.offsetMinutes with
  | none => []
  | some 0 => ['Z']
  | some minutes =>
    (if minutes < 0 then '-' else '+') :: Day.padded 2 (minutes.natAbs / 60) ++
      ':' :: Day.padded 2 (minutes.natAbs % 60)

def print (time : Timestamp) : String :=
  String.ofList (time.clockText ++ time.fractionText ++ time.offsetText)

end Timestamp

end Parley
