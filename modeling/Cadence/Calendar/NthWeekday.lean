import Cadence.Calendar.Error
import Cadence.Calendar.YearMonth

/-!
# Weekdays counted inside a month

The first, second, third, fourth or last Monday of a month always exists.  A
weekday counted by any other number, from either end of the month, may miss the
month or even the calendar.  The position of a date inverts the counting.
-/

namespace Cadence
namespace Calendar

/-- A place among the equal weekdays of a month that every month has. -/
inductive WeekdayOrdinal where
  | first
  | second
  | third
  | fourth
  | last
  deriving DecidableEq, Inhabited, Repr

namespace WeekdayOrdinal

/-- The ordinals in the order in which they are tried. -/
def all : List WeekdayOrdinal :=
  [first, second, third, fourth, last]

/-- The number of an ordinal; the last weekday has number -1. -/
def number : WeekdayOrdinal → Int
  | first => 1
  | second => 2
  | third => 3
  | fourth => 4
  | last => -1

/-- The ordinal with a given number. -/
def ofNumber? (number : Int) : Option WeekdayOrdinal :=
  all.find? fun ordinal => ordinal.number == number

/-- The word for an ordinal inside a sentence. -/
def label : WeekdayOrdinal → String
  | first => "first"
  | second => "second"
  | third => "third"
  | fourth => "fourth"
  | last => "last"

@[simp] theorem ofNumber?_number (ordinal : WeekdayOrdinal) :
    ofNumber? ordinal.number = some ordinal := by
  cases ordinal <;> decide

theorem number_ne_zero (ordinal : WeekdayOrdinal) : ordinal.number ≠ 0 := by
  cases ordinal <;> decide

end WeekdayOrdinal

namespace YearMonth

/-- The days of a month before the weekday with a given ordinal. -/
def ordinalOffset (month : YearMonth) (weekday : Weekday) : WeekdayOrdinal → Nat
  | .first => month.weekdayOffset weekday
  | .second => month.weekdayOffset weekday + 7
  | .third => month.weekdayOffset weekday + 14
  | .fourth => month.weekdayOffset weekday + 21
  | .last => month.length - 1 - month.weekdayTail weekday

theorem ordinalOffset_lt
    (month : YearMonth)
    (weekday : Weekday)
    (ordinal : WeekdayOrdinal) :
    month.ordinalOffset weekday ordinal < month.length := by
  have enough := month.length_ge
  have offsetBound := month.weekdayOffset_lt weekday
  have tailBound := month.weekdayTail_lt weekday
  cases ordinal <;> simp only [ordinalOffset] <;> omega

/-- The first to fourth or last day of a month that has a given weekday. -/
def ordinalWeekday
    (month : YearMonth)
    (weekday : Weekday)
    (ordinal : WeekdayOrdinal) : Date :=
  month.dayAt (month.ordinalOffset weekday ordinal)
    (month.ordinalOffset_lt weekday ordinal)

/-- The distance from the first or the last day of a month to the weekday that
is `number`-th from that end; negative numbers count from the end. -/
def weekdayJump (month : YearMonth) (weekday : Weekday) (number : Int) : Int :=
  if 0 < number then
    month.weekdayOffset weekday + 7 * (number - 1)
  else
    -(month.weekdayTail weekday + 7 * (-number - 1))

/-- The `number`-th day of a month that has a given weekday, counted from the
end when negative.  A count that runs past the month finds nothing, and one that
runs past the calendar is a fault. -/
def nthWeekday
    (month : YearMonth)
    (weekday : Weekday)
    (number : Int) : Except CalendarError (Option Date) :=
  if number = 0 then
    .ok none
  else
    let anchor := if 0 < number then month.firstDay else month.lastDay
    match anchor.shift? (month.weekdayJump weekday number) with
    | none => .error .outOfCalendar
    | some date =>
      .ok (if date.yearMonth = month then some date else none)

end YearMonth

namespace Date

/-- The place of a date among the equal weekdays of its month, counted from 1. -/
def weekdayOrdinal (date : Date) : Nat :=
  (date.day - 1) / 7 + 1

/-- Whether no later day of the month has the weekday of the date. -/
def isLastOfWeekday (date : Date) : Bool :=
  decide (date.yearMonth.length < date.day + 7)

end Date
end Calendar
end Cadence
