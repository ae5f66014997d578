import Cadence.Recurrence.Selector
import Cadence.Stored.Value

/-!
# Faults of rules

Why fields or a text do not make a rule, and the wording of each fault.
-/

namespace Cadence
namespace Recurrence

open Number Stored Text

/-- The keys that a rule text may use. -/
inductive Key where
  | frequency
  | interval
  | weekday
  | monthDay
  | ordinal
  | month
  deriving DecidableEq, Repr

namespace Key

/-- The keys in alphabetical order of their spellings. -/
def all : List Key :=
  [weekday, month, monthDay, ordinal, frequency, interval]

/-- The capital spelling of a key. -/
def spelling : Key → List Char
  | frequency => "FREQ".toList
  | interval => "INTERVAL".toList
  | weekday => "BYDAY".toList
  | monthDay => "BYMONTHDAY".toList
  | ordinal => "BYSETPOS".toList
  | month => "BYMONTH".toList

/-- The key with exactly this capital spelling. -/
def ofSpelling? (spelling : List Char) : Option Key :=
  all.find? fun key => key.spelling == spelling

@[simp] theorem ofSpelling?_spelling (key : Key) :
    ofSpelling? key.spelling = some key := by
  cases key <;> decide

end Key

/-- What is wrong with the fields or the text of a rule. -/
inductive RuleFault where
  | intervalNotInteger (given : Value)
  | intervalBelowOne (interval : Int)
  | unknownWeekday (name : String)
  | monthDayOutOfRange (number : Int)
  | ordinalOutOfRange (number : Int)
  | ordinalWithoutWeekday
  | monthDayWithOrdinal
  | monthOutOfRange (number : Int)
  | unusedSelector (frequency : Frequency) (selector : Selector)
  | weekdayWithoutOrdinal
  | notKeyValue (part : List Char)
  | duplicateKey (key : Key)
  | missingFrequency
  | unrecognizedFrequency (value : List Char)
  | notANumber (key : Key) (value : List Char)
  | textIntervalBelowOne (interval : Int)
  | unrecognizedWeekday (value : List Char)
  | workingDaysNotWeekly
  | workingDaysWithoutWeekdays

/-- The wording of a fault. -/
def RuleFault.reason : RuleFault → String
  | intervalNotInteger given => "interval must be an integer, got " ++ given.shownText
  | intervalBelowOne interval =>
    "interval must be at least 1, got " ++ integerText interval
  | unknownWeekday name => "unknown weekday code " ++ quoted name
  | monthDayOutOfRange number => "month day out of range: " ++ integerText number
  | ordinalOutOfRange number => "weekday ordinal out of range: " ++ integerText number
  | ordinalWithoutWeekday => "weekday ordinal requires a weekday"
  | monthDayWithOrdinal =>
    "monthly rule cannot use both a month day and a weekday ordinal"
  | monthOutOfRange number => "month of year out of range: " ++ integerText number
  | unusedSelector frequency selector =>
    frequency.small ++ " rules do not use " ++ selector.label
  | weekdayWithoutOrdinal => "monthly weekday requires a weekday ordinal"
  | notKeyValue part => "expected KEY=VALUE, got " ++ String.ofList (quote part)
  | duplicateKey key => "duplicate " ++ String.ofList key.spelling
  | missingFrequency => "missing FREQ"
  | unrecognizedFrequency value =>
    "unrecognized FREQ " ++ String.ofList (quote value)
  | notANumber key value =>
    String.ofList key.spelling ++ " is not a number: " ++ String.ofList (quote value)
  | textIntervalBelowOne interval =>
    "INTERVAL must be >= 1, got " ++ integerText interval
  | unrecognizedWeekday value => "unrecognized BYDAY " ++ String.ofList (quote value)
  | workingDaysNotWeekly => "working days rule must be weekly"
  | workingDaysWithoutWeekdays => "working days rule needs BYDAY"

/-- Whether the numbers in the wording of a fault have few enough digits to be
written. -/
def RuleFault.isWritable : RuleFault → Bool
  | intervalNotInteger given => given.isWritable
  | intervalBelowOne number | monthDayOutOfRange number | ordinalOutOfRange number
  | monthOutOfRange number | textIntervalBelowOne number => Number.isWritable number
  | _ => true

/-- A fault together with the rule text it was found in; the text is empty when
the rule was made from fields. -/
structure MalformedRule where
  fault : RuleFault
  text : String

/-- The message for a malformed rule. -/
def MalformedRule.message (malformed : MalformedRule) : String :=
  let place := if malformed.text.isEmpty then "" else " " ++ quoted malformed.text
  "Malformed recurrence rule" ++ place ++ ": " ++ malformed.fault.reason

/-- The message for a frequency that nothing can be computed for. -/
def UnsupportedFrequency.message (unsupported : UnsupportedFrequency) : String :=
  "Unsupported recurrence frequency: " ++ String.ofList (quote unsupported.name)

end Recurrence
end Cadence
