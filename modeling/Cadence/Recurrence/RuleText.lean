import Cadence.Recurrence.Fields
import Cadence.Recurrence.Parts

/-!
# Rule texts

Reading a rule from its text and writing it down.  A blank text is the text of no
rule.  The writer leaves out what reading supplies: an interval of 1 and selectors
that are not set.
-/

namespace Cadence
namespace Recurrence

open Calendar Number Text

/-- The weekday that a name or a short code in any letter case stands for. -/
def readWeekday? (text : List Char) : Option Weekday :=
  Weekday.ofCodeOrShortCode? (upper (trim text))

/-- The frequency of a rule text. -/
def frequencyOfParts (parts : Parts) : Except RuleFault Frequency :=
  match parts.value? .frequency with
  | none => .error .missingFrequency
  | some value =>
    match Frequency.ofCode? value with
    | none => .error (.unrecognizedFrequency value)
    | some frequency => .ok frequency

/-- The number that a key of a rule text has. -/
def numberOfParts (parts : Parts) (key : Key) : Except RuleFault (Option Int) :=
  match parts.value? key with
  | none => .ok none
  | some value =>
    match readInteger? value with
    | none => .error (.notANumber key value)
    | some number => .ok (some number)

/-- The interval of a rule text, 1 when it is left out. -/
def intervalOfParts (parts : Parts) : Except RuleFault Int :=
  match numberOfParts parts .interval with
  | .error fault => .error fault
  | .ok none => .ok 1
  | .ok (some interval) =>
    if 1 ≤ interval then .ok interval else .error (.textIntervalBelowOne interval)

/-- The weekday of a rule text. -/
def weekdayOfParts (parts : Parts) : Except RuleFault (Option Weekday) :=
  match parts.value? .weekday with
  | none => .ok none
  | some value =>
    match readWeekday? value with
    | none => .error (.unrecognizedWeekday value)
    | some weekday => .ok (some weekday)

/-- The fields that a text gives, without the selectors that its frequency does not
understand.  A place among equal weekdays and a weekday only count together for months,
and take the place of a day of the month then. -/
def usedFields
    (frequency : Frequency)
    (interval : Int)
    (weekday : Option Weekday)
    (monthDay : Option Int)
    (ordinal : Option WeekdayOrdinal)
    (month : Option Int) : Fields :=
  let given : Fields := {
    frequency := frequency.code
    interval := .int interval
    weekday := weekday.map Weekday.code
    monthDay
    ordinal := ordinal.map WeekdayOrdinal.number
    month }
  match frequency with
  | .monthly =>
    if ordinal.isNone || weekday.isNone then
      { given with weekday := none, ordinal := none, month := none }
    else
      { given with monthDay := none, month := none }
  | .yearly => { given with weekday := none, ordinal := none }
  | .weekly => { given with monthDay := none, ordinal := none, month := none }
  | .daily => { given with weekday := none, monthDay := none, ordinal := none, month := none }

/-- The rule that the parts of a text make. -/
def ruleOfParts (parts : Parts) : Except RuleFault Rule := do
  let frequency ← frequencyOfParts parts
  let interval ← intervalOfParts parts
  let weekday ← weekdayOfParts parts
  let monthDay ← numberOfParts parts .monthDay
  let ordinalNumber ← numberOfParts parts .ordinal
  let month ← numberOfParts parts .month
  Rule.ofFields
    (usedFields frequency interval weekday monthDay
      (ordinalNumber.bind WeekdayOrdinal.ofNumber?) month)

/-- The rule that a text spells; a blank text spells none. -/
def readRule (text : String) : Except MalformedRule (Option Rule) :=
  if isBlankText text.toList then
    .ok none
  else
    match readParts text.toList with
    | .error fault => .error ⟨fault, text⟩
    | .ok parts =>
      match ruleOfParts parts with
      | .error fault => .error ⟨fault, text⟩
      | .ok rule => .ok (some rule)

/-- The parts of the text of a pattern behind its frequency and interval. -/
def Pattern.parts : Pattern → Parts
  | .daily => []
  | .weekly none => []
  | .weekly (some weekday) => [(.weekday, weekday.code)]
  | .monthly none => []
  | .monthly (some day) => [(.monthDay, integerDigits day.number)]
  | .monthlyWeekday ordinal weekday =>
    [(.ordinal, integerDigits ordinal.number), (.weekday, weekday.code)]
  | .yearly month day =>
    (month.map fun month => (Key.month, naturalDigits month.number)).toList ++
      (day.map fun day => (Key.monthDay, integerDigits day.number)).toList
  | .foreign .. => []

/-- The parts of the text of a rule. -/
def Rule.parts (rule : Rule) : Parts :=
  (.frequency, rule.frequencyCode) ::
    ((if 1 < rule.interval then [(Key.interval, naturalDigits rule.interval)] else []) ++
      rule.pattern.parts)

/-- A part of a rule text. -/
def writePart (part : Key × List Char) : List Char :=
  part.1.spelling ++ '=' :: part.2

/-- A rule as text. -/
def Rule.text (rule : Rule) : String :=
  String.ofList (joinWith ';' (rule.parts.map writePart))

/-- A rule as text, or the empty text for none. -/
def ruleText : Option Rule → String
  | none => ""
  | some rule => rule.text

end Recurrence
end Cadence
