import Cadence.Recurrence.Selector

/-!
# Recurrence rules

A rule repeats a pattern of days every so many units of its frequency.  A pattern
holds only the selectors that its frequency uses, so a rule that exists is a
valid one.  A frequency of a foreign name keeps what it was given.
-/

namespace Cadence
namespace Recurrence

open Calendar

/-- Which days a schedule selects in each of its periods.  A selector that is
left out follows the day on which the schedule starts. -/
inductive Pattern where
  /-- Every day. -/
  | daily
  /-- One weekday of a week. -/
  | weekly (weekday : Option Weekday)
  /-- One day of a month. -/
  | monthly (day : Option MonthDay)
  /-- A weekday of a month, counted from its start or the last one. -/
  | monthlyWeekday (ordinal : WeekdayOrdinal) (weekday : Weekday)
  /-- One day in one month of a year. -/
  | yearly (month : Option Month) (day : Option MonthDay)
  /-- The selectors given for a frequency that nothing can be computed for. -/
  | foreign (frequency : ForeignFrequency) (selectors : Selectors)
  deriving DecidableEq

namespace Pattern

/-- The frequency of a pattern, when it is one of the four. -/
def frequency? : Pattern → Option Frequency
  | daily => some .daily
  | weekly _ => some .weekly
  | monthly _ => some .monthly
  | monthlyWeekday .. => some .monthly
  | yearly .. => some .yearly
  | foreign .. => none

/-- The capital spelling of the frequency of a pattern. -/
def frequencyCode : Pattern → List Char
  | daily => Frequency.daily.code
  | weekly _ => Frequency.weekly.code
  | monthly _ => Frequency.monthly.code
  | monthlyWeekday .. => Frequency.monthly.code
  | yearly .. => Frequency.yearly.code
  | foreign frequency _ => frequency.name

/-- The selectors that a pattern sets. -/
def selectors : Pattern → Selectors
  | daily => .none
  | weekly weekday => { Selectors.none with weekday }
  | monthly monthDay => { Selectors.none with monthDay }
  | monthlyWeekday ordinal weekday =>
    { Selectors.none with weekday := some weekday, ordinal := some ordinal }
  | yearly month monthDay => { Selectors.none with monthDay, month }
  | foreign _ selectors => selectors

theorem frequencyCode_of_frequency?
    {pattern : Pattern}
    {frequency : Frequency}
    (supported : pattern.frequency? = some frequency) :
    pattern.frequencyCode = frequency.code := by
  cases pattern <;> cases supported <;> rfl

end Pattern

/-- A pattern of days repeated every `interval` units. -/
structure Rule where
  /-- The units from one period to the next. -/
  interval : Nat
  pattern : Pattern
  /-- Periods follow one another. -/
  interval_pos : 0 < interval
  deriving DecidableEq

namespace Rule

/-- The frequency of a rule, when it is one of the four. -/
def frequency? (rule : Rule) : Option Frequency :=
  rule.pattern.frequency?

/-- The capital spelling of the frequency of a rule. -/
def frequencyCode (rule : Rule) : List Char :=
  rule.pattern.frequencyCode

/-- The selectors that a rule sets. -/
def selectors (rule : Rule) : Selectors :=
  rule.pattern.selectors

/-- Whether a rule selects a counted weekday of a month. -/
def usesNthWeekday (rule : Rule) : Bool :=
  rule.selectors.ordinal.isSome && rule.selectors.weekday.isSome

/-- Whether two rules repeat at the same pace: the same frequency and the same
interval. -/
def samePace (first second : Rule) : Bool :=
  first.frequencyCode == second.frequencyCode && first.interval == second.interval

@[simp] theorem samePace_self (rule : Rule) : rule.samePace rule = true := by
  simp [samePace]

end Rule

/-- Whether two schedules, each with or without a rule, repeat at the same
pace; without a rule nothing repeats. -/
def samePace : Option Rule → Option Rule → Bool
  | none, none => true
  | some first, some second => first.samePace second
  | _, _ => false

end Recurrence
end Cadence
