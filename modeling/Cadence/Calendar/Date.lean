import Cadence.Calendar.Weekday
import Cadence.Calendar.Year

/-!
# Dates

The days from 1 January of year 1 to 31 December of year 9999.  A date is its
distance from the first of them, so order, distance and weekday are arithmetic
on day numbers, and moving past either end of the calendar gives no date.
-/

namespace Cadence
namespace Calendar

/-- The number of days in the calendar. -/
abbrev calendarLength : Nat :=
  3652059

theorem calendarLength_eq_daysInYears : calendarLength = daysInYears 9999 := rfl

/-- A day of the calendar, counted from 1 January of year 1. -/
structure Date where
  /-- The days that pass before this one. -/
  dayNumber : Nat
  /-- The calendar ends with year 9999. -/
  inCalendar : dayNumber < calendarLength
  deriving DecidableEq

namespace Date

theorem ext {left right : Date} (sameDay : left.dayNumber = right.dayNumber) :
    left = right := by
  cases left
  cases right
  simp_all

instance : LT Date where
  lt earlier later := earlier.dayNumber < later.dayNumber

instance : LE Date where
  le earlier later := earlier.dayNumber ≤ later.dayNumber

theorem lt_iff {earlier later : Date} :
    earlier < later ↔ earlier.dayNumber < later.dayNumber := Iff.rfl

theorem le_iff {earlier later : Date} :
    earlier ≤ later ↔ earlier.dayNumber ≤ later.dayNumber := Iff.rfl

instance (earlier later : Date) : Decidable (earlier < later) :=
  inferInstanceAs (Decidable (earlier.dayNumber < later.dayNumber))

instance (earlier later : Date) : Decidable (earlier ≤ later) :=
  inferInstanceAs (Decidable (earlier.dayNumber ≤ later.dayNumber))

instance : Min Date where
  min left right := if left ≤ right then left else right

instance : Max Date where
  max left right := if left ≤ right then right else left

/-- 1 January of year 1, a Monday. -/
def first : Date :=
  ⟨0, by decide⟩

/-- 31 December of year 9999. -/
def last : Date :=
  ⟨calendarLength - 1, by decide⟩

instance : Inhabited Date where
  default := first

theorem first_le (date : Date) : first ≤ date :=
  Nat.zero_le _

theorem le_last (date : Date) : date ≤ last :=
  Nat.le_pred_of_lt date.inCalendar

/-- The date a number of days away, when it is in the calendar. -/
def shift? (date : Date) (days : Int) : Option Date :=
  let target := (date.dayNumber : Int) + days
  if inCalendar : 0 ≤ target ∧ target < calendarLength then
    some ⟨target.toNat, by omega⟩
  else
    none

/-- The day after a date, when it is in the calendar. -/
def next? (date : Date) : Option Date :=
  if inCalendar : date.dayNumber + 1 < calendarLength then
    some ⟨date.dayNumber + 1, inCalendar⟩
  else
    none

/-- The day before a date, when it is in the calendar. -/
def previous? (date : Date) : Option Date :=
  match date with
  | ⟨0, _⟩ => none
  | ⟨before + 1, inCalendar⟩ => some ⟨before, Nat.lt_of_succ_lt inCalendar⟩

theorem dayNumber_shift?
    {date shifted : Date}
    {days : Int}
    (shiftedTo : date.shift? days = some shifted) :
    (shifted.dayNumber : Int) = date.dayNumber + days := by
  simp only [shift?] at shiftedTo
  split at shiftedTo
  · cases shiftedTo
    simp only
    omega
  · contradiction

theorem shift?_eq_none_iff {date : Date} {days : Int} :
    date.shift? days = none ↔
      (date.dayNumber : Int) + days < 0 ∨
        (calendarLength : Int) ≤ date.dayNumber + days := by
  simp only [shift?, calendarLength]
  split <;> simp <;> omega

theorem dayNumber_next?
    {date following : Date}
    (isNext : date.next? = some following) :
    following.dayNumber = date.dayNumber + 1 := by
  simp only [next?] at isNext
  split at isNext
  · cases isNext
    rfl
  · contradiction

theorem next?_eq_none_iff {date : Date} : date.next? = none ↔ date = last := by
  constructor
  · intro noNext
    simp only [next?] at noNext
    split at noNext
    · contradiction
    · next atEnd =>
        have bound := date.inCalendar
        apply ext
        simp only [last]
        omega
  · intro isLast
    subst isLast
    rfl

theorem dayNumber_previous?
    {date preceding : Date}
    (isPrevious : date.previous? = some preceding) :
    date.dayNumber = preceding.dayNumber + 1 := by
  match date, isPrevious with
  | ⟨_ + 1, _⟩, rfl => rfl

theorem previous?_eq_none_iff {date : Date} :
    date.previous? = none ↔ date = first := by
  match date with
  | ⟨0, _⟩ => simp [previous?, first]
  | ⟨_ + 1, _⟩ => simp [previous?, first]

/-- The days from one date to another, negative when the other is earlier. -/
def daysUntil (date other : Date) : Int :=
  (other.dayNumber : Int) - date.dayNumber

/-- The days from a date to the end of the calendar, its own day included. -/
def daysLeft (date : Date) : Nat :=
  calendarLength - date.dayNumber

theorem daysLeft_lt_of_lt {earlier later : Date} (before : earlier < later) :
    later.daysLeft < earlier.daysLeft := by
  have bound := later.inCalendar
  rw [lt_iff] at before
  unfold daysLeft
  omega

theorem daysLeft_next?
    {date following : Date}
    (isNext : date.next? = some following) :
    following.daysLeft < date.daysLeft :=
  daysLeft_lt_of_lt (by rw [lt_iff, dayNumber_next? isNext]; omega)

/-- The weekday of a date. -/
def weekday (date : Date) : Weekday :=
  Weekday.ofCount date.dayNumber

theorem index_weekday (date : Date) :
    date.weekday.index = date.dayNumber % 7 :=
  Weekday.index_ofCount _

end Date
end Calendar
end Cadence
