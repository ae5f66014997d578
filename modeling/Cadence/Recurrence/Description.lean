import Cadence.Number.Integer
import Cadence.Recurrence.Rule

/-!
# Descriptions of rules

A rule as a short English sentence: how often, and on which day.
-/

namespace Cadence
namespace Recurrence

open Number Text

/-- How often a pattern repeats: its frequency alone for every unit, and the
count of units otherwise. -/
def describePace (interval : Nat) (pattern : Pattern) : String :=
  if interval = 1 then
    match pattern.frequency? with
    | some frequency => frequency.title
    | none => String.ofList (capitalize pattern.frequencyCode)
  else
    let units :=
      match pattern.frequency? with
      | some frequency => frequency.units
      | none => String.ofList (lower pattern.frequencyCode)
    "Every " ++ integerText interval ++ " " ++ units

/-- A selected day of a month in words. -/
def MonthDay.describe : MonthDay → String
  | last => "the last day"
  | numbered number _ => "day " ++ integerText number

/-- The phrase for a selector that is set. -/
def describeSelected {Kind : Type} (phrase : Kind → String) : Option Kind → String
  | none => ""
  | some selected => phrase selected

/-- On which day a pattern repeats. -/
def Pattern.describeDay : Pattern → String
  | daily => ""
  | weekly weekday => describeSelected (fun weekday => " on " ++ weekday.name) weekday
  | monthly day => describeSelected (fun day => " on " ++ day.describe) day
  | monthlyWeekday ordinal weekday =>
    " on the " ++ ordinal.label ++ " " ++ weekday.name
  | yearly month day =>
    describeSelected (fun month => " in " ++ month.name) month ++
      describeSelected (fun day => " on " ++ day.describe) day
  | foreign .. => ""

/-- A rule as a sentence. -/
def Rule.describe (rule : Rule) : String :=
  describePace rule.interval rule.pattern ++ rule.pattern.describeDay

/-- A schedule, with or without a rule, as a sentence. -/
def describe : Option Rule → String
  | none => "Once"
  | some rule => rule.describe

end Recurrence
end Cadence
