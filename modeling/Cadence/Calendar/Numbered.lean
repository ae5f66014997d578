import Cadence.Calendar.Error
import Cadence.Calendar.NthWeekday

/-!
# Dates named by plain numbers

Month lengths, month days and counted weekdays for a year, a month and a day
that are given as integers and may not name anything.  Checks run in a fixed
order, so two faults at once are reported as the first of them.
-/

namespace Cadence
namespace Calendar

/-- Whether a number fits a signed word of 32 bits; a part of a date that does
not is outside every calendar. -/
def fitsWord (number : Int) : Bool :=
  decide (-2147483648 ≤ number ∧ number ≤ 2147483647)

/-- The date of a year, a month and a day number. -/
def dateOfNumbers (year month day : Int) : Except CalendarError Date :=
  if !(fitsWord year && fitsWord month && fitsWord day) then
    .error .outOfCalendar
  else
    match Month.ofNumber? month with
    | none =>
      if 1 ≤ year ∧ year ≤ 9999 then
        .error .monthOutOfRange
      else
        .error (.yearOutOfRange year)
    | some monthOfYear =>
      match YearMonth.of? year monthOfYear with
      | none => .error (.yearOutOfRange year)
      | some _ =>
        match Date.of? year monthOfYear day with
        | none => .error .dayOutOfRange
        | some date => .ok date

/-- The number of days of a month of any year. -/
def daysInMonth (year month : Int) : Except CalendarError Nat :=
  match Month.ofNumber? month with
  | none => .error (.noSuchMonth month)
  | some monthOfYear => .ok (monthOfYear.length (isLeapYear year))

/-- The day of a month with a given number, where -1 and every number past the
end of the month stand for its last day. -/
def clampMonthDay (year month day : Int) : Except CalendarError Date := do
  let length ← daysInMonth year month
  if day = -1 ∨ (length : Int) < day then
    dateOfNumbers year month length
  else
    dateOfNumbers year month day

/-- The `number`-th day of a month that has the weekday with a given index.  An
index that is no weekday and the number 0 find nothing in any month. -/
def nthWeekdayOfMonth
    (year month weekday number : Int) : Except CalendarError (Option Date) :=
  match Weekday.ofIndex? weekday with
  | none => .ok none
  | some weekday =>
    if number = 0 then
      .ok none
    else do
      let firstDay ← dateOfNumbers year month 1
      firstDay.yearMonth.nthWeekday weekday number

end Calendar
end Cadence
