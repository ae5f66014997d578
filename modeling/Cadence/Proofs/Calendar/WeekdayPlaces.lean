import Cadence.Calendar.NthWeekday

/-!
# Places among equal weekdays

The place of a date among the days of its month that have its weekday.  The days of the month
before the first of them, and those after the last one, are what remains of the day number and of
the days that are left when whole weeks are taken away.  A fifth weekday is always the last one.
-/

namespace Cadence
namespace Calendar
namespace Date

theorem monthStart_add_day (date : Date) :
    monthStart date.yearMonth.index + date.day = date.dayNumber + 1 := by
  have bounds := date.yearMonth_bounds
  unfold day
  omega

theorem isLastOfWeekday_iff {date : Date} :
    date.isLastOfWeekday = true ↔ date.yearMonth.length < date.day + 7 :=
  decide_eq_true_iff

theorem weekdayOrdinal_pos (date : Date) : 1 ≤ date.weekdayOrdinal :=
  Nat.le_add_left 1 _

theorem weekdayOrdinal_le_five (date : Date) : date.weekdayOrdinal ≤ 5 := by
  have dayBound := date.day_le_length
  have length := date.yearMonth.length_le
  unfold weekdayOrdinal
  omega

/-- A fifth weekday is the last one of its month. -/
theorem isLastOfWeekday_of_four_lt {date : Date} (fifth : 4 < date.weekdayOrdinal) :
    date.isLastOfWeekday = true := by
  have length := date.yearMonth.length_le
  unfold weekdayOrdinal at fifth
  rw [isLastOfWeekday_iff]
  omega

theorem weekdayOffset_weekday (date : Date) :
    date.yearMonth.weekdayOffset date.weekday = (date.day - 1) % 7 := by
  have numbered := date.monthStart_add_day
  have positive := date.day_pos
  unfold YearMonth.weekdayOffset
  rw [index_weekday]
  omega

theorem weekdayTail_weekday (date : Date) :
    date.yearMonth.weekdayTail date.weekday = (date.yearMonth.length - date.day) % 7 := by
  have numbered := date.monthStart_add_day
  have positive := date.day_pos
  have dayBound := date.day_le_length
  unfold YearMonth.weekdayTail
  rw [index_weekday]
  omega

section Ordinal

variable {date : Date} {ordinal : WeekdayOrdinal}

theorem ordinalWeekday_of_ordinalOffset_eq
    (offset : date.yearMonth.ordinalOffset date.weekday ordinal = date.day - 1) :
    date.yearMonth.ordinalWeekday date.weekday ordinal = date := by
  have numbered := date.monthStart_add_day
  have positive := date.day_pos
  apply ext
  simp only [YearMonth.ordinalWeekday, YearMonth.dayAt, offset]
  omega

/-- The ordinal with the number of a place finds the date in that place. -/
theorem ordinalWeekday_of_number_eq (isNumber : ordinal.number = (date.weekdayOrdinal : Int)) :
    date.yearMonth.ordinalWeekday date.weekday ordinal = date := by
  apply ordinalWeekday_of_ordinalOffset_eq
  unfold weekdayOrdinal at isNumber
  cases ordinal <;>
    simp only [WeekdayOrdinal.number, YearMonth.ordinalOffset, weekdayOffset_weekday] at * <;>
    omega

/-- The last weekday of a month is the date that no equal one follows. -/
theorem ordinalWeekday_last_of_isLastOfWeekday (isLast : date.isLastOfWeekday = true) :
    date.yearMonth.ordinalWeekday date.weekday .last = date := by
  have dayBound := date.day_le_length
  rw [isLastOfWeekday_iff] at isLast
  apply ordinalWeekday_of_ordinalOffset_eq
  simp only [YearMonth.ordinalOffset, weekdayTail_weekday]
  omega

end Ordinal

section Found

variable (month : YearMonth) (weekday : Weekday)

/-- The weekday that is counted in a month is the weekday of the date that is found. -/
theorem weekday_ordinalWeekday (ordinal : WeekdayOrdinal) :
    (month.ordinalWeekday weekday ordinal).weekday = weekday := by
  have small := weekday.index_lt
  have tailBound := month.weekdayTail_lt weekday
  have enough := month.length_ge
  apply Weekday.index_injective
  rw [index_weekday]
  unfold YearMonth.weekdayTail at tailBound
  cases ordinal <;>
    simp only [YearMonth.ordinalWeekday, YearMonth.dayAt, YearMonth.ordinalOffset,
      YearMonth.weekdayOffset, YearMonth.weekdayTail] <;>
    omega

/-- A weekday that is counted from the start of a month is found in the place of its number. -/
theorem weekdayOrdinal_ordinalWeekday
    {ordinal : WeekdayOrdinal}
    (fromStart : ordinal ≠ .last) :
    ((month.ordinalWeekday weekday ordinal).weekdayOrdinal : Int) = ordinal.number := by
  have offsetBound := month.weekdayOffset_lt weekday
  unfold weekdayOrdinal YearMonth.ordinalWeekday
  rw [day_dayAt]
  cases ordinal with
  | last => exact absurd rfl fromStart
  | _ =>
      simp only [YearMonth.ordinalOffset, WeekdayOrdinal.number]
      omega

theorem isLastOfWeekday_ordinalWeekday_last :
    (month.ordinalWeekday weekday .last).isLastOfWeekday = true := by
  have tailBound := month.weekdayTail_lt weekday
  have enough := month.length_ge
  rw [isLastOfWeekday_iff]
  unfold YearMonth.ordinalWeekday
  rw [day_dayAt, yearMonth_dayAt, YearMonth.ordinalOffset]
  omega

end Found
end Date
end Calendar
end Cadence
