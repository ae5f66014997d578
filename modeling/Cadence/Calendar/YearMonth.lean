import Cadence.Calendar.Date

/-!
# Months of the calendar

A month of a certain year is counted from January of year 1, so that the next
month is one more.  Each month is an unbroken run of dates, the runs follow one
another without a gap, and every date has exactly one month.
-/

namespace Cadence
namespace Calendar

/-- The number of months in the calendar. -/
abbrev calendarMonths : Nat :=
  119988

/-- The day number on which a counted month starts. -/
def monthStart (index : Nat) : Nat :=
  daysInYears (index / 12) +
    (Month.ofCount index).daysBefore (isLeapYear ((index / 12 + 1 : Nat) : Int))

/-- The number of days of a counted month. -/
def monthLength (index : Nat) : Nat :=
  (Month.ofCount index).length (isLeapYear ((index / 12 + 1 : Nat) : Int))

theorem monthLength_ge (index : Nat) : 28 ≤ monthLength index :=
  Month.length_ge _ _

theorem monthLength_le (index : Nat) : monthLength index ≤ 31 :=
  Month.length_le _ _

/-- A month starts where the month before it ends. -/
theorem monthStart_succ (index : Nat) :
    monthStart (index + 1) = monthStart index + monthLength index := by
  unfold monthStart monthLength
  have indexOfCount := Month.index_ofCount index
  by_cases lastOfYear : index % 12 = 11
  · have nextYear : (index + 1) / 12 = index / 12 + 1 := by omega
    have isDecember : Month.ofCount index = Month.december :=
      Month.index_injective (by rw [indexOfCount, lastOfYear]; rfl)
    have isJanuary : Month.ofCount (index + 1) = Month.january :=
      Month.index_injective (by rw [Month.index_ofCount]; change _ = 0; omega)
    have wholeYear :=
      daysBefore_december_add_length ((index / 12 + 1 : Nat) : Int)
    rw [nextYear, isDecember, isJanuary, daysInYears_succ]
    simp only [Month.daysBefore] at wholeYear ⊢
    omega
  · have sameYear : (index + 1) / 12 = index / 12 := by omega
    have followsMonth :
        Month.ofCount (index + 1) =
          Month.ofCount ((Month.ofCount index).index + 1) :=
      Month.index_injective (by
        rw [Month.index_ofCount, Month.index_ofCount, indexOfCount]
        omega)
    rw [sameYear, followsMonth, Month.daysBefore_succ _ _ (by omega)]
    omega

theorem monthStart_mono {earlier later : Nat} (ordered : earlier ≤ later) :
    monthStart earlier ≤ monthStart later := by
  induction ordered with
  | refl => exact Nat.le_refl _
  | step _ hypothesis =>
      rw [monthStart_succ]
      exact Nat.le_trans hypothesis (Nat.le_add_right _ _)

/-- A month ends before any later month starts. -/
theorem monthStart_add_length_le {earlier later : Nat} (ordered : earlier < later) :
    monthStart earlier + monthLength earlier ≤ monthStart later := by
  rw [← monthStart_succ]
  exact monthStart_mono ordered

/-- The months of the calendar fill it. -/
theorem monthStart_calendarMonths : monthStart calendarMonths = calendarLength := by
  decide

/-- A month of a certain year. -/
structure YearMonth where
  /-- The months that pass before this one, from January of year 1. -/
  index : Nat
  /-- The calendar ends with year 9999. -/
  inCalendar : index < calendarMonths
  deriving DecidableEq

namespace YearMonth

theorem ext {left right : YearMonth} (sameIndex : left.index = right.index) :
    left = right := by
  cases left
  cases right
  simp_all

/-- The year of a month, from 1 to 9999. -/
def year (month : YearMonth) : Nat :=
  month.index / 12 + 1

/-- The month of the year. -/
def month (month : YearMonth) : Month :=
  Month.ofCount month.index

/-- The number of days of a month. -/
def length (month : YearMonth) : Nat :=
  monthLength month.index

theorem length_ge (month : YearMonth) : 28 ≤ month.length :=
  monthLength_ge _

theorem length_le (month : YearMonth) : month.length ≤ 31 :=
  monthLength_le _

theorem end_le (month : YearMonth) :
    monthStart month.index + month.length ≤ calendarLength := by
  rw [← monthStart_calendarMonths]
  exact monthStart_add_length_le month.inCalendar

/-- The month of a year and a month of the year, when it is in the calendar. -/
def of? (year : Int) (month : Month) : Option YearMonth :=
  if inCalendar : 1 ≤ year ∧ year ≤ 9999 then
    some ⟨12 * (year - 1).toNat + month.index, by
      have monthBound := month.index_lt
      unfold calendarMonths
      omega⟩
  else
    none

/-- The day of a month that `offset` days precede. -/
def dayAt
    (month : YearMonth)
    (offset : Nat)
    (inMonth : offset < month.length) : Date :=
  ⟨monthStart month.index + offset, by
    have monthEnd := month.end_le
    omega⟩

/-- The first day of a month. -/
def firstDay (month : YearMonth) : Date :=
  month.dayAt 0 (by have enough := month.length_ge; omega)

/-- The last day of a month. -/
def lastDay (month : YearMonth) : Date :=
  month.dayAt (month.length - 1) (by have enough := month.length_ge; omega)

/-- The day with a given number, or the last day of a month that is too short
for it. -/
def clampedDay (month : YearMonth) (number : Nat) : Date :=
  month.dayAt (min (number - 1) (month.length - 1))
    (by have enough := month.length_ge; omega)

/-- The days of a month before its first day of a given weekday. -/
def weekdayOffset (month : YearMonth) (weekday : Weekday) : Nat :=
  (weekday.index + 7 - monthStart month.index % 7) % 7

/-- The days of a month after its last day of a given weekday. -/
def weekdayTail (month : YearMonth) (weekday : Weekday) : Nat :=
  ((monthStart month.index + month.length - 1) % 7 + 7 - weekday.index) % 7

theorem weekdayOffset_lt (month : YearMonth) (weekday : Weekday) :
    month.weekdayOffset weekday < 7 :=
  Nat.mod_lt _ (by decide)

theorem weekdayTail_lt (month : YearMonth) (weekday : Weekday) :
    month.weekdayTail weekday < 7 :=
  Nat.mod_lt _ (by decide)

end YearMonth

namespace Date

/-- The month a date lies in. -/
def yearMonth (date : Date) : YearMonth :=
  let years := yearsBefore date.dayNumber
  let dayOfYear := date.dayNumber - daysInYears years
  let month := Month.containing (isLeapYear ((years + 1 : Nat) : Int)) dayOfYear
  ⟨12 * years + month.index, by
    have yearBound : years < 9999 :=
      yearsBefore_lt (calendarLength_eq_daysInYears ▸ date.inCalendar)
    have monthBound := month.index_lt
    unfold calendarMonths
    omega⟩

/-- A date lies between the start and the end of its month. -/
theorem yearMonth_bounds (date : Date) :
    monthStart date.yearMonth.index ≤ date.dayNumber ∧
      date.dayNumber <
        monthStart date.yearMonth.index + date.yearMonth.length := by
  have yearBounds := yearsBefore_bounds date.dayNumber
  rw [daysInYears_succ] at yearBounds
  unfold YearMonth.length monthStart monthLength yearMonth
  simp only
  generalize yearsBefore date.dayNumber = years at yearBounds ⊢
  generalize isLeap : isLeapYear ((years + 1 : Nat) : Int) = leap
  have inYear :
      date.dayNumber - daysInYears years < if leap then 366 else 365 := by
    unfold yearLength at yearBounds
    rw [isLeap] at yearBounds
    split at yearBounds <;> simp_all <;> omega
  have monthBounds := Month.containing_bounds leap inYear
  generalize Month.containing leap (date.dayNumber - daysInYears years) = month
    at monthBounds ⊢
  have monthBound := month.index_lt
  have yearOfIndex : (12 * years + month.index) / 12 = years := by omega
  have monthOfIndex : Month.ofCount (12 * years + month.index) = month :=
    Month.index_injective (by rw [Month.index_ofCount]; omega)
  rw [yearOfIndex, monthOfIndex, isLeap]
  omega

/-- The only month whose days include a date is the month of that date. -/
theorem yearMonth_eq
    {date : Date}
    {month : YearMonth}
    (startsBefore : monthStart month.index ≤ date.dayNumber)
    (endsAfter : date.dayNumber < monthStart month.index + month.length) :
    date.yearMonth = month := by
  have bounds := date.yearMonth_bounds
  apply YearMonth.ext
  rcases Nat.lt_trichotomy date.yearMonth.index month.index with
    earlier | same | later
  · have apart := monthStart_add_length_le earlier
    unfold YearMonth.length at bounds
    omega
  · exact same
  · have apart := monthStart_add_length_le later
    unfold YearMonth.length at endsAfter
    omega

@[simp] theorem yearMonth_dayAt
    (month : YearMonth)
    (offset : Nat)
    (inMonth : offset < month.length) :
    (month.dayAt offset inMonth).yearMonth = month :=
  yearMonth_eq (Nat.le_add_right _ _) (Nat.add_lt_add_left inMonth _)

@[simp] theorem yearMonth_firstDay (month : YearMonth) :
    month.firstDay.yearMonth = month := by
  simp [YearMonth.firstDay]

@[simp] theorem yearMonth_lastDay (month : YearMonth) :
    month.lastDay.yearMonth = month := by
  simp [YearMonth.lastDay]

@[simp] theorem yearMonth_clampedDay (month : YearMonth) (number : Nat) :
    (month.clampedDay number).yearMonth = month := by
  simp [YearMonth.clampedDay]

/-- The year of a date, from 1 to 9999. -/
def year (date : Date) : Nat :=
  date.yearMonth.year

/-- The month of the year of a date. -/
def month (date : Date) : Month :=
  date.yearMonth.month

/-- The number of a date in its month, from 1 to 31. -/
def day (date : Date) : Nat :=
  date.dayNumber - monthStart date.yearMonth.index + 1

theorem day_pos (date : Date) : 1 ≤ date.day :=
  Nat.le_add_left _ _

theorem day_le_length (date : Date) : date.day ≤ date.yearMonth.length := by
  have bounds := date.yearMonth_bounds
  unfold day
  omega

@[simp] theorem day_dayAt
    (month : YearMonth)
    (offset : Nat)
    (inMonth : offset < month.length) :
    (month.dayAt offset inMonth).day = offset + 1 := by
  unfold day
  rw [yearMonth_dayAt]
  simp only [YearMonth.dayAt]
  omega

/-- A date is the day of its month with its number. -/
theorem clampedDay_yearMonth (date : Date) :
    date.yearMonth.clampedDay date.day = date := by
  have bounds := date.yearMonth_bounds
  have dayBound := date.day_le_length
  apply ext
  simp only [YearMonth.clampedDay, YearMonth.dayAt, day] at *
  omega

/-- The date of a year, a month and a day number, when there is one. -/
def of? (year : Int) (month : Month) (day : Int) : Option Date :=
  match YearMonth.of? year month with
  | none => none
  | some yearMonth =>
    if inMonth : 1 ≤ day ∧ day ≤ yearMonth.length then
      some (yearMonth.dayAt (day - 1).toNat (by omega))
    else
      none

end Date
end Calendar
end Cadence
