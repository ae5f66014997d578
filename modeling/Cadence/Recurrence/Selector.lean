import Cadence.Calendar.NthWeekday
import Cadence.Recurrence.Frequency

/-!
# Day selectors

What may narrow a frequency down to certain days: a weekday, a day of the month,
a place among the equal weekdays of a month, and a month of the year.
-/

namespace Cadence
namespace Recurrence

open Calendar

/-- A selected day of a month: the last one, or a number that a short month
clamps to its last day. -/
inductive MonthDay where
  | last
  | numbered (number : Nat) (inRange : 1 ≤ number ∧ number ≤ 31)
  deriving DecidableEq, Inhabited

namespace MonthDay

/-- The number of a selected day; the last day has number -1. -/
def number : MonthDay → Int
  | last => -1
  | numbered number _ => number

/-- The selected day with a given number. -/
def ofNumber? (number : Int) : Option MonthDay :=
  if number = -1 then
    some last
  else if inRange : 1 ≤ number ∧ number ≤ 31 then
    some (numbered number.toNat (by omega))
  else
    none

@[simp] theorem ofNumber?_number (day : MonthDay) :
    ofNumber? day.number = some day := by
  cases day with
  | last => rfl
  | numbered number inRange =>
      have notLast : (number : Int) ≠ -1 := by omega
      have numberInRange : 1 ≤ (number : Int) ∧ (number : Int) ≤ 31 := by omega
      change ofNumber? (number : Int) = some (numbered number inRange)
      simp [ofNumber?, notLast, numberInRange]

theorem number_injective {left right : MonthDay}
    (sameNumber : left.number = right.number) : left = right := by
  have sameDay := congrArg ofNumber? sameNumber
  simpa using sameDay

/-- The number of a date in its own month. -/
def ofDate (date : Date) : MonthDay :=
  numbered date.day
    ⟨date.day_pos, Nat.le_trans date.day_le_length date.yearMonth.length_le⟩

/-- The selected day in a certain month. -/
def inMonth (month : YearMonth) : MonthDay → Date
  | last => month.lastDay
  | numbered number _ => month.clampedDay number

theorem yearMonth_inMonth (month : YearMonth) (day : MonthDay) :
    (day.inMonth month).yearMonth = month := by
  cases day with
  | last => exact Date.yearMonth_lastDay month
  | numbered number inRange => exact Date.yearMonth_clampedDay month number

/-- Every date is the selected day with its number in its own month. -/
theorem inMonth_ofDate (date : Date) :
    (ofDate date).inMonth date.yearMonth = date :=
  date.clampedDay_yearMonth

end MonthDay

/-- The kinds of selectors, in the order in which they are checked. -/
inductive Selector where
  | weekday
  | monthDay
  | ordinal
  | month
  deriving DecidableEq, Repr

namespace Selector

/-- The selectors in the order in which they are checked. -/
def all : List Selector :=
  [weekday, monthDay, ordinal, month]

/-- The name of a selector in messages. -/
def label : Selector → String
  | weekday => "weekday"
  | monthDay => "month_day"
  | ordinal => "nth_weekday_ordinal"
  | month => "month_of_year"

end Selector

/-- Whether rules of a frequency use a selector. -/
def Frequency.uses : Frequency → Selector → Bool
  | .weekly, .weekday => true
  | .monthly, .weekday => true
  | .monthly, .monthDay => true
  | .monthly, .ordinal => true
  | .yearly, .monthDay => true
  | .yearly, .month => true
  | _, _ => false

/-- The selectors of a rule, each set or not. -/
structure Selectors where
  weekday : Option Weekday
  monthDay : Option MonthDay
  ordinal : Option WeekdayOrdinal
  month : Option Month
  deriving DecidableEq

namespace Selectors

/-- No selector set. -/
def none : Selectors :=
  ⟨.none, .none, .none, .none⟩

/-- Whether a selector is set. -/
def isSet (selectors : Selectors) : Selector → Bool
  | .weekday => selectors.weekday.isSome
  | .monthDay => selectors.monthDay.isSome
  | .ordinal => selectors.ordinal.isSome
  | .month => selectors.month.isSome

/-- The first set selector that rules of a frequency do not use. -/
def unused? (selectors : Selectors) (frequency : Frequency) : Option Selector :=
  Selector.all.find? fun selector =>
    selectors.isSet selector && !frequency.uses selector

end Selectors
end Recurrence
end Cadence
