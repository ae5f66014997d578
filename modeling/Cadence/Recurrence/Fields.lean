import Cadence.Recurrence.Fault
import Cadence.Recurrence.Rule

/-!
# Rules from fields

The unchecked fields of a rule and the checks that turn them into one.  The
checks run in a fixed order: each field by itself, then selectors that exclude
each other, then selectors that the frequency does not use.
-/

namespace Cadence
namespace Recurrence

open Calendar Number Stored Text

/-- The fields of a rule before any check. -/
structure Fields where
  frequency : List Char
  interval : Value
  weekday : Option (List Char)
  monthDay : Option Int
  ordinal : Option Int
  month : Option Int

namespace Fields

/-- The fields of a rule with no selector. -/
def plain (frequency : List Char) (interval : Int) : Fields :=
  ⟨frequency, .int interval, none, none, none, none⟩

end Fields

/-- A positive whole number of units. -/
def checkInterval : Value → Except RuleFault { interval : Nat // 0 < interval }
  | .int interval =>
    if positive : 1 ≤ interval then
      .ok ⟨interval.toNat, toNat_pos_of_one_le positive⟩
    else
      .error (.intervalBelowOne interval)
  | given => .error (.intervalNotInteger given)

/-- A field that is left out, or one that has to be understood. -/
def checkField
    {Given Meaning : Type}
    (read? : Given → Option Meaning)
    (fault : Given → RuleFault) :
    Option Given → Except RuleFault (Option Meaning)
  | none => .ok none
  | some given =>
    match read? given with
    | some meaning => .ok (some meaning)
    | none => .error (fault given)

/-- A place among equal weekdays needs the weekday and excludes a day of the
month. -/
def checkOrdinal
    (weekday : Option Weekday)
    (monthDay : Option MonthDay) :
    Option Int → Except RuleFault (Option WeekdayOrdinal)
  | none => .ok none
  | some number =>
    match WeekdayOrdinal.ofNumber? number with
    | none => .error (.ordinalOutOfRange number)
    | some ordinal =>
      if weekday.isNone then .error .ordinalWithoutWeekday
      else if monthDay.isSome then .error .monthDayWithOrdinal
      else .ok (some ordinal)

/-- The pattern of a frequency and selectors that exclude none of each other. -/
def Pattern.ofSelectors
    (frequency : Frequency)
    (selectors : Selectors) : Except RuleFault Pattern :=
  match selectors.unused? frequency with
  | some selector => .error (.unusedSelector frequency selector)
  | none =>
    match frequency, selectors.weekday, selectors.ordinal with
    | .daily, _, _ => .ok .daily
    | .weekly, weekday, _ => .ok (.weekly weekday)
    | .monthly, some _, none => .error .weekdayWithoutOrdinal
    | .monthly, some weekday, some ordinal => .ok (.monthlyWeekday ordinal weekday)
    | .monthly, none, _ => .ok (.monthly selectors.monthDay)
    | .yearly, _, _ => .ok (.yearly selectors.month selectors.monthDay)

/-- The rule that fields make, or the first fault of them. -/
def Rule.ofFields (fields : Fields) : Except RuleFault Rule := do
  let interval ← checkInterval fields.interval
  let weekday ← checkField Weekday.ofCode?
    (fun name => .unknownWeekday (String.ofList name)) fields.weekday
  let monthDay ← checkField MonthDay.ofNumber? .monthDayOutOfRange fields.monthDay
  let ordinal ← checkOrdinal weekday monthDay fields.ordinal
  let month ← checkField Month.ofNumber? .monthOutOfRange fields.month
  let selectors : Selectors := ⟨weekday, monthDay, ordinal, month⟩
  let pattern ←
    match readFrequency fields.frequency with
    | .inl frequency => Pattern.ofSelectors frequency selectors
    | .inr frequency => .ok (.foreign frequency selectors)
  return ⟨interval.1, pattern, interval.2⟩

/-- The fields that spell a rule out. -/
def Rule.fields (rule : Rule) : Fields where
  frequency := rule.frequencyCode
  interval := .int rule.interval
  weekday := rule.selectors.weekday.map Weekday.code
  monthDay := rule.selectors.monthDay.map MonthDay.number
  ordinal := rule.selectors.ordinal.map WeekdayOrdinal.number
  month := rule.selectors.month.map fun month => (month.number : Int)

end Recurrence
end Cadence
