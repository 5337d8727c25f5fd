import Mathlib.Algebra.Ring.Nat
import Parley.Schema.Reader

/-!
Dates and times that are printed and read again. A day is told by its date, and a point in time by its
date, its time of day and its offset, up to the end of the year 9999.
-/

namespace Parley

open Number

namespace Day

/-! ### Numbers with a fixed count of digits -/

theorem numeralValue_eq (digits : List Char) : numeralValue digits = Nat.ofDigitChars 10 digits 0 := by
  rw [Nat.ofDigitChars_eq_foldl, numeralValue]
  simp only [Nat.mul_comm 10]
  rfl

theorem length_padded {width n : Nat} (positive : 0 < width) (fits : n < 10 ^ width) :
    (padded width n).length = width := by
  have short := (Nat.length_toDigits_le_iff (by decide) positive).mpr fits
  rw [padded, List.length_append, List.length_replicate, digitsOf]
  omega

theorem isAsciiDigit_of_mem_padded {width n : Nat} {c : Char} (member : c ∈ padded width n) :
    isAsciiDigit c = true := by
  rcases List.mem_append.mp member with zero | digit
  · rw [List.eq_of_mem_replicate zero]
    rfl
  · exact Nat.isDigit_of_mem_toDigits (by decide) (by decide) digit

theorem numeralValue_padded (width n : Nat) : numeralValue (padded width n) = n := by
  rw [numeralValue_eq, padded, Nat.ofDigitChars_append, Nat.ofDigitChars_replicate_zero, Nat.mul_zero]
  exact Nat.ofDigitChars_ten_toDigits

theorem takeDigits?_padded {width n : Nat} (positive : 0 < width) (fits : n < 10 ^ width)
    (rest : List Char) : takeDigits? width (padded width n ++ rest) = some (n, rest) := by
  have length := length_padded positive fits
  have front : (padded width n ++ rest).take width = padded width n := List.take_left' length
  have back : (padded width n ++ rest).drop width = rest := List.drop_left' length
  have digits : (padded width n).all isAsciiDigit = true :=
    List.all_eq_true.mpr fun _ member => isAsciiDigit_of_mem_padded member
  rw [takeDigits?, front, back, length, digits, numeralValue_padded]
  simp

/-! ### Years of a cycle -/

def yearInCycle (day : Int) : Int := (day - day / 1460 + day / 36524 - day / 146096) / 365

/-- The days of a year that ends with the February of a calendar year. -/
def yearLength (year : Int) : Int := if isLeap year then 366 else 365

theorem yearInCycle_mono {day other : Int} (le : day ≤ other) :
    yearInCycle day ≤ yearInCycle other := Int.ediv_le_ediv (by decide) (by omega)

theorem yearInCycle_ends : ∀ year : Fin 400,
    yearInCycle (daysBeforeYear year) = year ∧
    yearInCycle (daysBeforeYear year + yearLength (year + 1) - 1) = year ∧
    (if (year : Int) = 399 then cycle else daysBeforeYear (year + 1)) =
      daysBeforeYear year + yearLength (year + 1) := by
  decide +kernel

theorem exists_year {day : Int} (first : 0 ≤ day) (count : Nat) (some_ : count < 400)
    (before : day < daysBeforeYear count + yearLength (count + 1)) :
    ∃ year : Fin 400, daysBeforeYear year ≤ day ∧
      day < daysBeforeYear year + yearLength (year + 1) := by
  induction count with
  | zero => exact ⟨0, first, before⟩
  | succ count ih =>
    by_cases earlier : day < daysBeforeYear (count + 1)
    · have ends := (yearInCycle_ends ⟨count, by omega⟩).2.2
      rw [if_neg (by simp; omega)] at ends
      exact ih (by omega) (ends ▸ earlier)
    · exact ⟨⟨count + 1, some_⟩, Int.not_lt.mp earlier, before⟩

theorem yearInCycle_spec {day : Int} (first : 0 ≤ day) (last : day < cycle) :
    0 ≤ yearInCycle day ∧ yearInCycle day < 400 ∧
      0 ≤ day - daysBeforeYear (yearInCycle day) ∧
      day - daysBeforeYear (yearInCycle day) < yearLength (yearInCycle day + 1) := by
  obtain ⟨year, begins, ends⟩ := exists_year first 399 (by decide) last
  obtain ⟨start, finish, _⟩ := yearInCycle_ends year
  have low := yearInCycle_mono begins
  have high := @yearInCycle_mono day (daysBeforeYear year + yearLength (year + 1) - 1) (by omega)
  have same : yearInCycle day = year := by omega
  have bound := year.isLt
  rw [same]
  omega

/-! ### Dates -/

/-- The month of the calendar for a month of a year that begins in March. -/
def calendarMonth (month : Int) : Int := if month < 10 then month + 3 else month - 9

/-- The month and the day of the month in which a day of a year falls; only the last day of a year may
be a 29 February. -/
theorem monthInYear_spec : ∀ inYear : Fin 366,
    let month := (5 * (inYear : Int) + 2) / 153
    let dayOfMonth := inYear - daysBeforeMonth month + 1
    0 ≤ month ∧ month < 12 ∧ 1 ≤ dayOfMonth ∧
      if month = 11 then dayOfMonth ≤ if inYear.val = 365 then 29 else 28
      else dayOfMonth ≤ monthLength 1 (calendarMonth month).toNat := by
  decide +kernel

theorem monthLength_of_ne_two {month : Nat} (other : month ≠ 2) (year : Int) :
    monthLength year month = monthLength 1 month := by
  rw [monthLength, monthLength, if_neg other, if_neg other]

theorem isLeap_cycle (year cycles : Int) : isLeap (year + cycles * 400) = isLeap year := by
  rw [isLeap, isLeap, Bool.eq_iff_iff]
  simp only [Bool.and_eq_true, Bool.or_eq_true, decide_eq_true_eq]
  omega

/-- A date that a calendar shows. -/
structure Shown (day : Day) (year : Int) (month dayOfMonth : Nat) : Prop where
  month_pos : 1 ≤ month
  month_le : month ≤ 12
  day_pos : 1 ≤ dayOfMonth
  day_le : dayOfMonth ≤ monthLength year month
  named : ofDate year month dayOfMonth = day

theorem ofDate_march {year cycles month : Int} {dayOfMonth : Nat} (year_nonneg : 0 ≤ year)
    (year_lt : year < 400) (month_nonneg : 0 ≤ month) (month_lt : month < 12) :
    ofDate (if calendarMonth month ≤ 2 then year + cycles * 400 + 1 else year + cycles * 400)
        (calendarMonth month).toNat dayOfMonth =
      ⟨cycles * cycle + daysBeforeYear year + daysBeforeMonth month + dayOfMonth - 1 - epoch⟩ := by
  have calendar : 1 ≤ calendarMonth month ∧ ((calendarMonth month).toNat + 9 : Int) % 12 = month := by
    unfold calendarMonth
    split <;> omega
  have marchYear : (if (calendarMonth month).toNat ≤ 2 then
      (if calendarMonth month ≤ 2 then year + cycles * 400 + 1 else year + cycles * 400) - 1
      else if calendarMonth month ≤ 2 then year + cycles * 400 + 1 else year + cycles * 400) =
        year + cycles * 400 := by
    split <;> split <;> omega
  have inCycle : (year + cycles * 400) % 400 = year := by omega
  have count : (year + cycles * 400) / 400 = cycles := by omega
  rw [ofDate, marchYear, calendar.2, inCycle, count]

theorem toDate_eq (day : Day) :
    let inCycle := (day.number + epoch) % cycle
    let year := yearInCycle inCycle
    let inYear := inCycle - daysBeforeYear year
    let month := (5 * inYear + 2) / 153
    let calendarYear := year + (day.number + epoch) / cycle * 400
    toDate day = (if calendarMonth month ≤ 2 then calendarYear + 1 else calendarYear,
      (calendarMonth month).toNat, (inYear - daysBeforeMonth month + 1).toNat) := rfl

/-- The last month of a year that begins in March has 29 days only if the year has a day for it. -/
theorem dayOfMonth_le {year cycles inYear month dayOfMonth : Int} {long : Bool}
    (inYear_lt : inYear < yearLength (year + 1)) (last : long = true ↔ inYear = 365)
    (month_nonneg : 0 ≤ month) (month_lt : month < 12)
    (day_le : if month = 11 then dayOfMonth ≤ if long = true then 29 else 28
      else dayOfMonth ≤ monthLength 1 (calendarMonth month).toNat) :
    dayOfMonth ≤ monthLength
      (if calendarMonth month ≤ 2 then year + cycles * 400 + 1 else year + cycles * 400)
      (calendarMonth month).toNat := by
  by_cases february : month = 11
  · subst february
    have leap : isLeap (year + cycles * 400 + 1) = isLeap (year + 1) := by
      rw [show year + cycles * 400 + 1 = year + 1 + cycles * 400 by omega, isLeap_cycle]
    have length (calendarYear : Int) : monthLength calendarYear (calendarMonth 11).toNat =
        if isLeap calendarYear then 29 else 28 := rfl
    rw [if_pos (by decide : calendarMonth 11 ≤ 2), length, leap]
    rw [if_pos rfl] at day_le
    cases isLeapYear : isLeap (year + 1) with
    | true =>
      have bound : dayOfMonth ≤ 29 := by split at day_le <;> omega
      exact bound
    | false =>
      rw [yearLength, isLeapYear, if_neg Bool.false_ne_true] at inYear_lt
      have never : ¬ long = true := fun is => absurd (last.mp is) (by omega)
      rw [if_neg never] at day_le
      exact day_le
  · rw [if_neg february] at day_le
    have other : (calendarMonth month).toNat ≠ 2 := by
      unfold calendarMonth
      split <;> omega
    rw [monthLength_of_ne_two other]
    exact day_le

/-- A date names the day that it was found for. -/
theorem shown_toDate (day : Day) : Shown day day.toDate.1 day.toDate.2.1 day.toDate.2.2 := by
  have lower := Int.emod_nonneg (day.number + epoch) (by decide : cycle ≠ 0)
  have upper := Int.emod_lt_of_pos (day.number + epoch) (by decide : 0 < cycle)
  have whole := Int.mul_ediv_add_emod (day.number + epoch) cycle
  rw [toDate_eq]
  generalize (day.number + epoch) % cycle = inCycle at lower upper whole ⊢
  generalize (day.number + epoch) / cycle = cycles at whole ⊢
  obtain ⟨year_nonneg, year_lt, inYear_nonneg, inYear_lt⟩ := yearInCycle_spec lower upper
  dsimp only
  generalize yearInCycle inCycle = year at *
  generalize within : inCycle - daysBeforeYear year = inYear at *
  have short : inYear < 366 := by
    rw [yearLength] at inYear_lt
    split at inYear_lt <;> omega
  obtain ⟨month_nonneg, month_lt, day_pos, day_le⟩ := monthInYear_spec ⟨inYear.toNat, by omega⟩
  rw [Int.toNat_of_nonneg inYear_nonneg] at month_nonneg month_lt day_pos day_le
  generalize (5 * inYear + 2) / 153 = month at *
  have last : decide (inYear.toNat = 365) = true ↔ inYear = 365 := by
    rw [decide_eq_true_eq]
    omega
  have month_le := @dayOfMonth_le year cycles inYear month _ _ inYear_lt last month_nonneg month_lt
    (by simpa only [decide_eq_true_eq] using day_le)
  have named := @ofDate_march year cycles month (inYear - daysBeforeMonth month + 1).toNat year_nonneg
    year_lt month_nonneg month_lt
  refine ⟨?_, ?_, by omega, by omega, ?_⟩
  · unfold calendarMonth
    split <;> omega
  · unfold calendarMonth
    split <;> omega
  · have number : cycles * cycle + daysBeforeYear year + daysBeforeMonth month +
        (inYear - daysBeforeMonth month + 1).toNat - 1 - epoch = day.number := by
      rw [Int.toNat_of_nonneg (by omega), Int.mul_comm cycles]
      omega
    rw [named, number]

/-! ### Dates in texts -/

theorem takeMark?_self (mark : Char) (rest : List Char) : takeMark? mark (mark :: rest) = some rest :=
  if_pos rfl

theorem monthLength_le (year : Int) (month : Nat) : monthLength year month ≤ 31 := by
  unfold monthLength
  split
  · split <;> omega
  · split <;> omega

theorem takeDate?_print {day : Day} (first : 0 ≤ day.toDate.1) (last : day.toDate.1 ≤ 9999)
    (rest : List Char) : takeDate? (day.print.toList ++ rest) = some (day, rest) := by
  have shown := shown_toDate day
  rw [print]
  generalize day.toDate = date at *
  obtain ⟨year, month, dayOfMonth⟩ := date
  dsimp only at shown first last ⊢
  obtain ⟨year, rfl⟩ := Int.eq_ofNat_of_zero_le first
  have short := monthLength_le year month
  have month_le := shown.month_le
  have day_le := shown.day_le
  have found : ofDate? year month dayOfMonth = some day := by
    rw [ofDate?, if_pos, shown.named]
    simp [shown.month_pos, shown.month_le, shown.day_pos, shown.day_le]
  have splits (tail : List Char) :
      (String.ofList (padded 4 (year : Int).toNat ++ '-' :: padded 2 month ++
        '-' :: padded 2 dayOfMonth)).toList ++ tail =
      padded 4 year ++ '-' :: (padded 2 month ++ '-' :: (padded 2 dayOfMonth ++ tail)) := by simp
  rw [splits, takeDate?, takeDigits?_padded (by decide) (by omega)]
  simp only [Option.bind_eq_bind, Option.bind_some, takeMark?_self]
  rw [takeDigits?_padded (by decide) (by omega)]
  simp only [Option.bind_some, takeMark?_self]
  rw [takeDigits?_padded (by decide) (by omega)]
  simp only [Option.bind_some, found]
  rfl

end Day

namespace Timestamp

/-- A time that a record can show: in one of the years 1 to 9999, on a clock less than a day off. -/
structure Dated (time : Timestamp) : Prop where
  hasYear : time.hasYear = true
  year_le : time.day.toDate.1 ≤ 9999
  offset_lt : ∀ minutes ∈ time.offsetMinutes, minutes.natAbs < 24 * 60

theorem offsetText_head (time : Timestamp) :
    time.offsetText = [] ∨ ∃ mark rest, time.offsetText = mark :: rest ∧
      mark ≠ '.' ∧ mark ≠ ',' ∧ Number.isAsciiDigit mark = false := by
  rw [offsetText]
  split
  · exact .inl rfl
  · exact .inr ⟨'Z', [], rfl, by decide, by decide, by decide⟩
  · refine .inr ⟨_, _, rfl, ?_⟩
    split <;> exact ⟨by decide, by decide, by decide⟩

theorem fraction?_fractionText (time : Timestamp) :
    fraction? (time.fractionText ++ time.offsetText) =
      some ((time.micros % microsPerSecond).toNat, time.offsetText) := by
  have small : (time.micros % microsPerSecond).toNat < 10 ^ 6 := by
    unfold microsPerSecond
    omega
  rw [fractionText]
  generalize (time.micros % microsPerSecond).toNat = micros at *
  have head := time.offsetText_head
  generalize time.offsetText = offset at *
  by_cases whole : micros = 0
  · rw [if_pos whole, whole, List.nil_append]
    rcases head with rfl | ⟨mark, rest, rfl, point, comma, _⟩
    · rfl
    · rw [fraction?]
      simp [point, comma]
  · have length : (Day.padded 6 micros).length = 6 := Day.length_padded (by decide) small
    have nonempty : (Day.padded 6 micros).isEmpty = false := by
      rw [List.isEmpty_eq_false_iff_exists_mem]
      exact List.exists_mem_of_length_pos (by omega)
    have digits : (Day.padded 6 micros ++ offset).takeWhile Number.isAsciiDigit =
        Day.padded 6 micros := by
      rw [List.takeWhile_append_of_pos fun _ member => Day.isAsciiDigit_of_mem_padded member]
      rcases head with rfl | ⟨mark, rest, rfl, _, _, noDigit⟩
      · simp
      · simp [noDigit]
    have point : (decide ('.' = '.') || decide ('.' = ',')) = true := rfl
    rw [if_neg whole, List.cons_append, fraction?, if_pos point]
    dsimp only
    rw [digits, nonempty, if_neg Bool.false_ne_true, List.take_left' length, List.drop_left,
      Day.numeralValue_padded]

theorem offset?_signed {sign : Char} (isSign : sign = '+' ∨ sign = '-') {size : Nat}
    (short : size < 24 * 60) :
    offset? (sign :: Day.padded 2 (size / 60) ++ ':' :: Day.padded 2 (size % 60)) =
      some (some (if sign = '+' then (size : Int) else -size)) := by
  have whole : ((size / 60 : Nat) * 60 + (size % 60 : Nat) : Int) = size := by omega
  have minutes := @Day.takeDigits?_padded 2 (size % 60) (by decide) (by omega) []
  have inRange : ¬ (!([] : List Char).isEmpty || decide (23 < size / 60) ||
      decide (59 < size % 60)) = true := by
    simp
    omega
  have test : (decide (sign = '+') || decide (sign = '-') || decide (sign = longMinus)) = true := by
    rcases isSign with rfl | rfl <;> rfl
  rw [List.append_nil] at minutes
  rw [List.cons_append, offset?, if_pos test, Day.takeDigits?_padded (by decide) (by omega)]
  · simp only [Option.bind_eq_bind, Option.bind_some, Day.takeMark?_self, Option.getD_some, minutes]
    rw [if_neg inRange, whole]
  · rintro rfl
    rcases isSign with is | is <;> cases is
  · rintro rfl
    rcases isSign with is | is <;> cases is

theorem seconds?_shown (time : Timestamp) {seconds : Nat} (short : seconds < 60) :
    seconds? (':' :: (Day.padded 2 seconds ++ (time.fractionText ++ time.offsetText))) =
      some (seconds, (time.micros % microsPerSecond).toNat, time.offsetText) := by
  rw [seconds?, Day.takeMark?_self]
  dsimp only
  rw [Day.takeDigits?_padded (by decide) (by omega)]
  simp only [Option.bind_eq_bind, Option.bind_some, fraction?_fractionText]
  rfl

theorem offset?_offsetText {time : Timestamp}
    (offset_lt : ∀ minutes ∈ time.offsetMinutes, minutes.natAbs < 24 * 60) :
    offset? time.offsetText = some time.offsetMinutes := by
  rw [offsetText]
  cases given : time.offsetMinutes with
  | none => rfl
  | some minutes =>
    have short := offset_lt minutes given
    split
    · contradiction
    · rename_i universal
      rw [Option.some.inj universal]
      rfl
    · rename_i other _ same
      obtain rfl := Option.some.inj same
      rw [offset?_signed (by split <;> simp) short]
      split
      · rw [if_neg (by decide)]
        congr
        omega
      · rw [if_pos rfl]
        congr
        omega

theorem exists_clock (time : Timestamp) :
    ∃ hours minutes seconds : Nat, hours < 24 ∧ minutes < 60 ∧ seconds < 60 ∧
      time.clockText = time.day.print.toList ++ 'T' :: (Day.padded 2 hours ++
        ':' :: (Day.padded 2 minutes ++ ':' :: Day.padded 2 seconds)) ∧
      ((time.day.number * secondsPerDay + hours * 3600 + minutes * 60 + seconds) * microsPerSecond +
        (time.micros % microsPerSecond).toNat : Int) = time.micros := by
  have split : time.micros / microsPerSecond / secondsPerDay = time.day.number :=
    Int.ediv_ediv_of_nonneg (by decide)
  rw [clockText, ← split]
  unfold microsPerSecond secondsPerDay
  generalize second : time.micros / 1000000 % 86400 = inDay
  refine ⟨(inDay / 3600).toNat, (inDay / 60 % 60).toNat, (inDay % 60).toNat, ?_, ?_, ?_,
    by simp only [List.append_assoc, List.cons_append], ?_⟩
  all_goals omega

theorem calendar?_print {time : Timestamp} (dated : time.Dated) :
    calendar? time.print.toList = some time := by
  have first : 0 ≤ time.day.toDate.1 := by
    have := of_decide_eq_true dated.hasYear
    omega
  obtain ⟨hours, minutes, seconds, hours_lt, minutes_lt, seconds_lt, clock, whole⟩ := time.exists_clock
  have splits : time.print.toList = time.day.print.toList ++ 'T' ::
      (Day.padded 2 hours ++ ':' :: (Day.padded 2 minutes ++ ':' :: (Day.padded 2 seconds ++
        (time.fractionText ++ time.offsetText)))) := by
    simp [print, clock]
  have mark : (decide ('T' = 'T') || decide ('T' = 't') || decide ('T' = ' ') ||
      decide ('T' = '_')) = true := rfl
  have inRange : ¬ (decide (23 < hours) || decide (59 < minutes) || decide (59 < seconds)) = true := by
    simp [Nat.le_of_lt_succ hours_lt, Nat.le_of_lt_succ minutes_lt, Nat.le_of_lt_succ seconds_lt]
  rw [splits, calendar?, Day.takeDate?_print first dated.year_le, Option.bind_eq_bind, Option.bind_some]
  dsimp only
  rw [if_pos mark, Day.takeDigits?_padded (by decide) (by omega)]
  simp only [Option.bind_eq_bind, Option.bind_some, Day.takeMark?_self]
  rw [Day.takeDigits?_padded (by decide) (by omega)]
  simp only [Option.bind_some, time.seconds?_shown seconds_lt, offset?_offsetText dated.offset_lt]
  rw [if_neg inRange, whole]

/-- A time that a record can show is read again. -/
theorem parse?_print {time : Timestamp} (dated : time.Dated) : parse? time.print = some time := by
  rw [parse?, calendar?_print dated]
  rfl

end Timestamp

theorem Schema.readTimestamp_print {time : Timestamp} (dated : time.Dated) :
    readTimestamp (.str time.print) = .valid time := by
  rw [readTimestamp]
  dsimp only
  rw [Timestamp.parse?_print dated]
  exact if_pos dated.hasYear

end Parley
