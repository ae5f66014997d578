import Cadence.Calendar.Columns
import Cadence.Calendar.Distance
import Cadence.Workday.WorkingDays

/-!
# Rescheduling repayments around a holiday

A repayment that falls into a holiday moves to a working day outside the holiday
and not too far from it.
-/

namespace Cadence
namespace Workday

open Calendar Number

/-- The first and the last day of a holiday, as they were declared. -/
structure Holiday where
  firstDay : Date
  lastDay : Date
  deriving DecidableEq

/-- Why a date is no acceptable replacement. -/
inductive RescheduleFault where
  | endsBeforeStart
  | withinHoliday
  | notAWorkingDay
  | tooFar (buffer : Int)
  deriving DecidableEq, Repr

namespace RescheduleFault

/-- The code of a fault. -/
def code : RescheduleFault → String
  | endsBeforeStart => "holiday.to.date.before.from.date"
  | withinHoliday => "repayments.rescheduled.to.within.holiday.dates"
  | notAWorkingDay => "repayments.rescheduled.to.not.working.day"
  | tooFar _ => "repayments.rescheduled.to.out.of.range"

/-- The wording of a fault for a holiday and a date. -/
def message (holiday : Holiday) (date : Date) (fault : RescheduleFault) : String :=
  let span := "the holiday " ++ holiday.firstDay.text ++ " - " ++ holiday.lastDay.text
  let refusal := "Repayments cannot be rescheduled to " ++ date.text
  match fault with
  | endsBeforeStart =>
    "Holiday end " ++ holiday.lastDay.text ++ " is before its start " ++
      holiday.firstDay.text
  | withinHoliday => refusal ++ ", which is within " ++ span
  | notAWorkingDay => refusal ++ ", which is not a working day"
  | tooFar buffer =>
    refusal ++ ", more than " ++ integerText buffer ++ " days from " ++ span

end RescheduleFault

/-- How a check of a date fails. -/
inductive RescheduleError where
  | rejected (fault : RescheduleFault)
  /-- The days around the holiday leave the calendar. -/
  | outOfCalendar
  deriving DecidableEq, Repr

/-- How far from a holiday a replacement may lie, in days. -/
def defaultBuffer : Int :=
  7

namespace Holiday

/-- Check a replacement date: first the holiday itself, then the date. -/
def check
    (holiday : Holiday)
    (workingDays : WorkingDays)
    (buffer : Int)
    (date : Date) : Except RescheduleError Unit :=
  if holiday.lastDay < holiday.firstDay then
    .error (.rejected .endsBeforeStart)
  else if inWindow holiday.firstDay (some holiday.lastDay) date then
    .error (.rejected .withinHoliday)
  else if !workingDays.isWorkingDay date then
    .error (.rejected .notAWorkingDay)
  else
    match withinMargin holiday.firstDay holiday.lastDay buffer date with
    | none => .error .outOfCalendar
    | some true => .ok ()
    | some false => .error (.rejected (.tooFar buffer))

theorem check_eq_ok_iff
    {holiday : Holiday}
    {workingDays : WorkingDays}
    {buffer : Int}
    {date : Date} :
    holiday.check workingDays buffer date = .ok () ↔
      holiday.firstDay ≤ holiday.lastDay ∧
        inWindow holiday.firstDay (some holiday.lastDay) date = false ∧
        workingDays.isWorkingDay date = true ∧
        withinMargin holiday.firstDay holiday.lastDay buffer date = some true := by
  unfold check
  by_cases reversed : holiday.lastDay < holiday.firstDay
  · have notOrdered : ¬ holiday.firstDay ≤ holiday.lastDay := Nat.not_le_of_lt reversed
    simp [reversed, notOrdered]
  · have ordered : holiday.firstDay ≤ holiday.lastDay := Nat.le_of_not_lt reversed
    cases inWindow holiday.firstDay (some holiday.lastDay) date <;>
      cases workingDays.isWorkingDay date <;>
        cases withinMargin holiday.firstDay holiday.lastDay buffer date with
        | none => simp [reversed, ordered]
        | some near => cases near <;> simp [reversed, ordered]

/-- Whether a replacement date is acceptable; no answer when the days around the
holiday leave the calendar. -/
def accepts?
    (holiday : Holiday)
    (workingDays : WorkingDays)
    (buffer : Int)
    (date : Date) : Option Bool :=
  match holiday.check workingDays buffer date with
  | .ok () => some true
  | .error (.rejected _) => some false
  | .error .outOfCalendar => none

end Holiday
end Workday
end Cadence
