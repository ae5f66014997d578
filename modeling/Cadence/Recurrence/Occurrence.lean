import Cadence.Calendar.Distance
import Cadence.Recurrence.Rule

/-!
# Occurrences

Which dates a rule selects.  Time is divided into units of the rule's frequency,
the units into periods of `interval` units from the unit of the start, and a
period selects at most one date: the selected day of its first unit.
-/

namespace Cadence
namespace Recurrence

open Calendar

namespace Pattern

/-- The unit of a pattern's frequency that a date lies in, counted from the
beginning of the calendar. -/
def unitIndex (pattern : Pattern) (date : Date) : Nat :=
  match pattern with
  | daily => date.dayNumber
  | weekly _ => date.weekIndex
  | monthly _ => date.yearMonth.index
  | monthlyWeekday .. => date.yearMonth.index
  | yearly .. => date.year
  | foreign .. => 0

/-- Whether a date is the selected day of its unit for a schedule with the given
start. -/
def selects (pattern : Pattern) (start candidate : Date) : Bool :=
  match pattern with
  | daily => true
  | weekly weekday => candidate.weekday == weekday.getD start.weekday
  | monthly day =>
    candidate == (day.getD (.ofDate start)).inMonth candidate.yearMonth
  | monthlyWeekday ordinal weekday =>
    candidate == candidate.yearMonth.ordinalWeekday weekday ordinal
  | yearly month day =>
    candidate.month == month.getD start.month &&
      candidate == (day.getD (.ofDate start)).inMonth candidate.yearMonth
  | foreign .. => false

end Pattern

/-- The period of a date among the periods of a schedule, counted from 0, when
the date is an occurrence. -/
def Pattern.periodIndex?
    (pattern : Pattern)
    (interval : Nat)
    (start candidate : Date) : Option Nat :=
  if candidate < start then
    none
  else
    let elapsed := pattern.unitIndex candidate - pattern.unitIndex start
    if elapsed % interval = 0 && pattern.selects start candidate then
      some (elapsed / interval)
    else
      none

theorem Pattern.periodIndex?_eq_some_iff
    {pattern : Pattern}
    {interval index : Nat}
    {start candidate : Date} :
    pattern.periodIndex? interval start candidate = some index ↔
      start ≤ candidate ∧
        (pattern.unitIndex candidate - pattern.unitIndex start) % interval = 0 ∧
        pattern.selects start candidate = true ∧
        (pattern.unitIndex candidate - pattern.unitIndex start) / interval = index := by
  unfold periodIndex?
  by_cases before : candidate < start
  · have notAfter : ¬ start ≤ candidate := Nat.not_le_of_lt before
    simp [before, notAfter]
  · have after : start ≤ candidate := Nat.le_of_not_lt before
    simp [before, after, and_assoc]

/-- The period of a date for a rule and a start, when the date is an
occurrence. -/
def Rule.periodIndex
    (rule : Rule)
    (start candidate : Date) : Except UnsupportedFrequency (Option Nat) :=
  match rule.pattern with
  | .foreign frequency _ => .error ⟨frequency.name⟩
  | pattern => .ok (pattern.periodIndex? rule.interval start candidate)

/-- A rule with one of the four frequencies answers for every date. -/
theorem Rule.periodIndex_of_frequency?
    {rule : Rule}
    {frequency : Frequency}
    (supported : rule.frequency? = some frequency)
    (start candidate : Date) :
    rule.periodIndex start candidate =
      .ok (rule.pattern.periodIndex? rule.interval start candidate) := by
  unfold Rule.frequency? at supported
  unfold Rule.periodIndex
  cases isPattern : rule.pattern <;> simp_all [Pattern.frequency?]

/-- What narrows the occurrences of a rule down. -/
structure Limits where
  /-- Leave out an occurrence in the period of the start. -/
  skipFirstPeriod : Bool := false
  /-- The least distance from the start, in days. -/
  minGapDays : Option Int := none
  /-- The last day of the schedule. -/
  endDate : Option Date := none
  deriving DecidableEq

namespace Limits

/-- Nothing narrowed down. -/
def none : Limits := {}

/-- Whether a date is neither before the start nor out of bounds. -/
def admits (limits : Limits) (start candidate : Date) : Bool :=
  decide (start ≤ candidate) &&
    (limits.endDate.all fun endDate => decide (candidate ≤ endDate)) &&
    (limits.minGapDays.all fun gap => decide (gap ≤ start.daysUntil candidate))

theorem admits_iff {limits : Limits} {start candidate : Date} :
    limits.admits start candidate = true ↔
      start ≤ candidate ∧
        (∀ endDate ∈ limits.endDate, candidate ≤ endDate) ∧
        ∀ gap ∈ limits.minGapDays, gap ≤ start.daysUntil candidate := by
  simp [admits, and_assoc, Option.all_eq_true]

end Limits

/-- Whether a date is an occurrence.  Without a rule the start is the only one. -/
def isOccurrence
    (rule : Option Rule)
    (start : Date)
    (limits : Limits)
    (candidate : Date) : Except UnsupportedFrequency Bool :=
  if limits.admits start candidate then
    match rule with
    | none => .ok (candidate == start)
    | some rule =>
      match rule.periodIndex start candidate with
      | .error unsupported => .error unsupported
      | .ok none => .ok false
      | .ok (some index) => .ok (!(limits.skipFirstPeriod && index == 0))
  else
    .ok false

@[simp] theorem isOccurrence_none (start : Date) (limits : Limits) (candidate : Date) :
    isOccurrence none start limits candidate =
      .ok (limits.admits start candidate && candidate == start) := by
  unfold isOccurrence
  cases limits.admits start candidate <;> simp

theorem isOccurrence_of_not_admits
    {limits : Limits}
    {start candidate : Date}
    (excluded : limits.admits start candidate = false)
    (rule : Option Rule) :
    isOccurrence rule start limits candidate = .ok false := by
  simp [isOccurrence, excluded]

end Recurrence
end Cadence
