import Cadence.Recurrence.RuleText
import Cadence.Stored.Row

/-!
# Rule forms

Rules from the loosely typed values of a form.  Selectors that the frequency does
not use are dropped.  For a monthly rule a place among equal weekdays selects a
counted weekday, with the weekday of the start when none is given, and a place
that no month is sure to have falls back to a day of the month.
-/

namespace Cadence
namespace Stored

open Calendar Number Recurrence Text

/-- The values of a form; a field left empty is absent. -/
structure RuleForm where
  frequency : Value
  interval : Value
  weekday : Value
  monthDay : Value
  ordinal : Value
  month : Value
  startDate : Option Date

/-- The refusal of a value in a field, whose message shows the value. -/
def BuildError.refusing
    (field : String)
    (problem : Value → Problem)
    (value : Value) : BuildError :=
  if value.isWritable then .invalid ⟨field, problem value⟩ else .unwritable

/-- The error for a fault of fields, whose message may hold numbers. -/
def BuildError.ofFault (fault : RuleFault) : BuildError :=
  if fault.isWritable then .malformed ⟨fault, ""⟩ else .unwritable

/-- A whole number from the value of a field; a fraction is cut off. -/
def readWhole (field : String) (value : Value) : Except BuildError Int :=
  let refusal : Except BuildError Int :=
    .error (.refusing field .notAWholeNumber value)
  match value with
  | .int number => .ok number
  | .float (.finite negative significand exponent) =>
    .ok (truncated 2 negative significand exponent)
  | .float (.infinite _) => .error .infinite
  | .decimal (.finite negative coefficient exponent) =>
    .ok (truncated 10 negative coefficient exponent)
  | .decimal (.infinite _) => .error .infinite
  | .text content =>
    match readInteger? content.toList with
    | some number => .ok number
    | none => refusal
  | _ => refusal

/-- A whole number from the value of a field that may be empty. -/
def readOptionalWhole
    (field : String) : Value → Except BuildError (Option Int)
  | .absent => .ok none
  | value => (readWhole field value).map some

/-- A weekday by its place in the week, its name or its short code. -/
def readFormWeekday (value : Value) : Except BuildError (Option Weekday) :=
  let weekday? : Option Weekday :=
    match value with
    | .int index => Weekday.ofIndex? index
    | .text content => readWeekday? content.toList
    | _ => none
  match value, weekday? with
  | .absent, _ => .ok none
  | _, some weekday => .ok (some weekday)
  | _, none => .error (.refusing "weekday" .unknownWeekday value)

/-- Whether a value is the word for the last day of a month. -/
def isLastWord : Value → Bool
  | .text content => lower (trim content.toList) == "last".toList
  | _ => false

/-- The number of a day of the month; the word "last" stands for -1. -/
def readFormMonthDay (value : Value) : Except BuildError (Option Int) :=
  if isLastWord value then .ok (some (-1)) else readOptionalWhole "month_day" value

/-- The weekday that a monthly form counts: the given one or that of the start. -/
def formWeekday (weekday : Option Weekday) (startDate : Option Date) : Option Weekday :=
  weekday <|> startDate.map Date.weekday

/-- The fields of the rule of a form.  A monthly form whose place among equal weekdays
counts needs a weekday for it and falls back to the day of the month without one; a
frequency that is none of the four gets no selector. -/
def formFields
    (name : List Char)
    (interval : Int)
    (weekday : Option Weekday)
    (monthDay ordinal month : Option Int)
    (startDate : Option Date) : Fields :=
  let plain := Fields.plain name interval
  if name = Frequency.daily.code then
    plain
  else if name = Frequency.weekly.code then
    { plain with weekday := weekday.map Weekday.code }
  else if name = Frequency.monthly.code then
    if (ordinal.bind WeekdayOrdinal.ofNumber?).isSome then
      match formWeekday weekday startDate with
      | some counted => { plain with weekday := some counted.code, ordinal }
      | none => { plain with monthDay }
    else
      { plain with monthDay }
  else if name = Frequency.yearly.code then
    { plain with monthDay, month }
  else
    plain

/-- The rule of a form; a form without a frequency has none. -/
def RuleForm.rule (form : RuleForm) : Except BuildError (Option Rule) :=
  let frequencyText := trim form.frequency.plain
  if !form.frequency.isWritable then
    .error .unwritable
  else if form.frequency matches .absent || frequencyText.isEmpty then
    .ok none
  else do
    let interval ← readOptionalWhole "interval" form.interval
    let weekday ← readFormWeekday form.weekday
    let monthDay ← readFormMonthDay form.monthDay
    let ordinal ← readOptionalWhole "nth_weekday_ordinal" form.ordinal
    let month ← readOptionalWhole "month_of_year" form.month
    let fields :=
      formFields (upper frequencyText) (interval.getD 1) weekday monthDay ordinal month
        form.startDate
    match Rule.ofFields fields with
    | .error fault => .error (.ofFault fault)
    | .ok rule => return some rule

end Stored
end Cadence
