import Cadence.Calendar.Columns
import Cadence.Recurrence.Occurrence

/-!
# Periods

A rule, or a single date, for a stretch of time.  A period ends on or after the
day it starts, or never.
-/

namespace Cadence
namespace Scheduling

open Calendar Recurrence

/-- A stretch of time with one rule; without a rule its start is its only
occurrence. -/
structure Period where
  rule : Option Rule
  startDate : Date
  /-- The last day, when there is one. -/
  endDate : Option Date
  /-- No period ends before it starts. -/
  starts_le : ∀ last ∈ endDate, startDate ≤ last
  deriving DecidableEq

/-- A period would end before it starts. -/
structure PeriodFault where
  endDate : Date
  startDate : Date
  deriving DecidableEq

/-- The message for a period that would end before it starts. -/
def PeriodFault.message (fault : PeriodFault) : String :=
  "period ends (" ++ fault.endDate.text ++ ") before it starts (" ++
    fault.startDate.text ++ ")"

namespace Period

theorem le_of_mem_none (date : Date) : ∀ last ∈ (none : Option Date), date ≤ last := by
  simp

theorem le_of_mem_some {date endDate : Date} (ordered : date ≤ endDate) :
    ∀ last ∈ some endDate, date ≤ last := by
  simpa using ordered

/-- A period with a checked end. -/
def of?
    (rule : Option Rule)
    (startDate : Date) : Option Date → Except PeriodFault Period
  | none => .ok ⟨rule, startDate, none, le_of_mem_none startDate⟩
  | some endDate =>
    if ordered : startDate ≤ endDate then
      .ok ⟨rule, startDate, some endDate, le_of_mem_some ordered⟩
    else
      .error ⟨endDate, startDate⟩

/-- Whether a period has a rule to repeat by. -/
def isRepeating (period : Period) : Bool :=
  period.rule.isSome

/-- Whether a date lies in a period, both ends included. -/
def contains (period : Period) (date : Date) : Bool :=
  inWindow period.startDate period.endDate date

theorem contains_iff {period : Period} {date : Date} :
    period.contains date = true ↔
      period.startDate ≤ date ∧ ∀ last ∈ period.endDate, date ≤ last :=
  inWindow_eq_true_iff

/-- A period contains no date before its start. -/
theorem contains_of_lt_startDate
    {period : Period}
    {date : Date}
    (earlier : date < period.startDate) : period.contains date = false := by
  apply Bool.eq_false_iff.mpr
  intro inside
  exact Nat.not_le_of_lt earlier (contains_iff.mp inside).1

/-- A period with another end. -/
def closed (period : Period) (endDate : Date) : Except PeriodFault Period :=
  of? period.rule period.startDate (some endDate)

/-- A period that ends on the day before a later date. -/
def closedBefore
    (period : Period)
    (date : Date)
    (afterStart : period.startDate < date) : Period where
  rule := period.rule
  startDate := period.startDate
  endDate := some ⟨date.dayNumber - 1, Nat.lt_of_le_of_lt (Nat.sub_le _ _) date.inCalendar⟩
  starts_le := by
    intro last isLast
    cases isLast
    rw [Date.le_iff]
    rw [Date.lt_iff] at afterStart
    exact Nat.le_sub_one_of_lt afterStart

/-- A period that ends before a date contains the days before that date that it
contained. -/
theorem contains_closedBefore
    (period : Period)
    {date : Date}
    (afterStart : period.startDate < date)
    (notAfterEnd : ∀ last ∈ period.endDate, date ≤ last)
    (day : Date) :
    (period.closedBefore date afterStart).contains day =
      (period.contains day && decide (day < date)) := by
  rw [Bool.eq_iff_iff, Bool.and_eq_true, contains_iff, contains_iff]
  have dateBound := afterStart
  simp only [closedBefore, Option.mem_some_iff, forall_eq', Date.le_iff, Date.lt_iff,
    decide_eq_true_eq] at *
  constructor
  · intro inside
    exact ⟨⟨inside.1, fun last isLast => by have := notAfterEnd last isLast; omega⟩,
      by omega⟩
  · intro inside
    exact ⟨inside.1.1, by omega⟩

/-- Whether a date is an occurrence of a period, which ends the occurrences of its
rule. -/
def isOccurrence
    (period : Period)
    (limits : Limits)
    (date : Date) : Except UnsupportedFrequency Bool :=
  Recurrence.isOccurrence period.rule period.startDate
    { limits with endDate := period.endDate } date

end Period
end Scheduling
end Cadence
