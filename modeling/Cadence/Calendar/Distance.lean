import Cadence.Calendar.YearMonth

/-!
# Calendar distances

How many week, month and year boundaries lie between two dates, and membership
in a window of dates.  Distances are differences of counts, so they add up along
a chain of dates and change sign when the dates are exchanged.
-/

namespace Cadence
namespace Calendar

namespace Date

/-- The Monday of the week a date lies in. -/
def startOfWeek (date : Date) : Date :=
  ⟨date.dayNumber - date.dayNumber % 7, by
    have bound := date.inCalendar
    omega⟩

/-- The week of a date, counted from the week of 1 January of year 1. -/
def weekIndex (date : Date) : Nat :=
  date.dayNumber / 7

theorem dayNumber_startOfWeek (date : Date) :
    date.startOfWeek.dayNumber = 7 * date.weekIndex := by
  simp only [startOfWeek, weekIndex]
  omega

end Date

/-- The whole weeks between the Monday-started weeks of two dates. -/
def weeksBetween (earlier later : Date) : Int :=
  earlier.startOfWeek.daysUntil later.startOfWeek / 7

/-- The calendar months from the month of one date to the month of another. -/
def monthsBetween (earlier later : Date) : Int :=
  (later.yearMonth.index : Int) - earlier.yearMonth.index

/-- The calendar years from the year of one date to the year of another. -/
def yearsBetween (earlier later : Date) : Int :=
  (later.year : Int) - earlier.year

theorem weeksBetween_eq (earlier later : Date) :
    weeksBetween earlier later = (later.weekIndex : Int) - earlier.weekIndex := by
  unfold weeksBetween Date.daysUntil
  rw [Date.dayNumber_startOfWeek, Date.dayNumber_startOfWeek]
  omega

/-- Whether a date lies in the window from `opening` to `closing`, both
included; a window without an end never closes. -/
def inWindow (opening : Date) (closing : Option Date) (date : Date) : Bool :=
  decide (opening ≤ date) && closing.all fun closing => decide (date ≤ closing)

@[simp] theorem inWindow_eq_true_iff
    {opening date : Date}
    {closing : Option Date} :
    inWindow opening closing date = true ↔
      opening ≤ date ∧ ∀ last ∈ closing, date ≤ last := by
  cases closing <;> simp [inWindow]

/-- Whether a date lies within `margin` days of the window from `opening` to
`closing`; both widened ends have to be in the calendar. -/
def withinMargin
    (opening closing : Date)
    (margin : Int)
    (date : Date) : Option Bool :=
  match opening.shift? (-margin), closing.shift? margin with
  | some widenedOpening, some widenedClosing =>
    some (inWindow widenedOpening (some widenedClosing) date)
  | _, _ => none

end Calendar
end Cadence
