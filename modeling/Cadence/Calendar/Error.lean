/-!
# Faults of calendar arithmetic

What can be wrong with a date that is asked for by numbers or by a distance.
-/

namespace Cadence
namespace Calendar

/-- The reason why there is no date to answer with. -/
inductive CalendarError where
  /-- The date would lie before year 1 or after year 9999. -/
  | outOfCalendar
  /-- The number does not name a month. -/
  | noSuchMonth (number : Int)
  /-- The year is not one of 1 to 9999. -/
  | yearOutOfRange (year : Int)
  /-- The month number of a date is not one of 1 to 12. -/
  | monthOutOfRange
  /-- The month of a date has no such day. -/
  | dayOutOfRange
  deriving DecidableEq, Repr

/-- The wording of a calendar fault. -/
def CalendarError.message : CalendarError → String
  | outOfCalendar => "date is outside the calendar"
  | noSuchMonth number => s!"bad month number {number}; must be 1-12"
  | yearOutOfRange year => s!"year {year} is out of range"
  | monthOutOfRange => "month must be in 1..12"
  | dayOutOfRange => "day is out of range for month"

end Calendar
end Cadence
