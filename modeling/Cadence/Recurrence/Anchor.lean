import Cadence.Recurrence.Occurrence

/-!
# Re-anchoring rules

When a meeting moves to another date, the selectors that its rule sets are taken
from the new date.  Selectors that the rule leaves out follow the new start by
themselves.  "The last day" and "the last weekday" stay last when the new date
is.
-/

namespace Cadence
namespace Recurrence

open Calendar

/-- A set day of the month, taken from another date. -/
def MonthDay.reanchor (day : MonthDay) (date : Date) : MonthDay :=
  if day = .last ∧ date = date.yearMonth.lastDay then .last else .ofDate date

/-- The new day selects the date it is taken from. -/
@[simp] theorem MonthDay.inMonth_reanchor (day : MonthDay) (date : Date) :
    (day.reanchor date).inMonth date.yearMonth = date := by
  unfold reanchor
  split
  · next stays => exact stays.2.symm
  · exact inMonth_ofDate date

/-- A set place among equal weekdays, taken from another date.  A fifth weekday is
the last one. -/
def reanchorOrdinal (ordinal : WeekdayOrdinal) (date : Date) : WeekdayOrdinal :=
  if ordinal = .last ∧ date.isLastOfWeekday then
    .last
  else
    match date.weekdayOrdinal with
    | 1 => .first
    | 2 => .second
    | 3 => .third
    | 4 => .fourth
    | _ => .last

/-- A pattern with its set selectors taken from another date. -/
def Pattern.reanchor (pattern : Pattern) (date : Date) : Pattern :=
  match pattern with
  | daily => daily
  | weekly weekday => weekly (weekday.map fun _ => date.weekday)
  | monthly day => monthly (day.map fun day => day.reanchor date)
  | monthlyWeekday ordinal _ =>
    monthlyWeekday (reanchorOrdinal ordinal date) date.weekday
  | yearly month day =>
    yearly (month.map fun _ => date.month) (day.map fun day => day.reanchor date)
  | foreign frequency selectors => foreign frequency selectors

@[simp] theorem Pattern.frequencyCode_reanchor (pattern : Pattern) (date : Date) :
    (pattern.reanchor date).frequencyCode = pattern.frequencyCode := by
  cases pattern <;> rfl

/-- A rule with its set selectors taken from another date. -/
def Rule.reanchor (rule : Rule) (date : Date) : Rule :=
  { rule with pattern := rule.pattern.reanchor date }

/-- The new rule keeps the pace of the old one. -/
theorem Rule.samePace_reanchor (rule : Rule) (date : Date) :
    rule.samePace (rule.reanchor date) = true := by
  simp [Rule.samePace, Rule.reanchor, Rule.frequencyCode]

end Recurrence
end Cadence
