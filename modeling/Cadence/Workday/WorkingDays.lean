import Cadence.Calendar.Date
import Cadence.Recurrence.RuleText

/-!
# Working days

The weekdays on which business is done, read from a weekly rule text that names
them with commas between them.  Order and repetition of the names do not count.
-/

namespace Cadence
namespace Workday

open Calendar Recurrence Text

/-- A set of weekdays, each at most once and in the order of a week. -/
structure WorkingDays where
  weekdays : List Weekday
  deriving DecidableEq, Repr

namespace WorkingDays

/-- The working days among the named weekdays. -/
def ofList (named : List Weekday) : WorkingDays :=
  ⟨Weekday.all.filter fun weekday => named.contains weekday⟩

@[simp] theorem mem_weekdays_ofList {weekday : Weekday} {named : List Weekday} :
    weekday ∈ (ofList named).weekdays ↔ weekday ∈ named := by
  simp [ofList, Weekday.mem_all]

/-- Whether business is done on a date. -/
def isWorkingDay (workingDays : WorkingDays) (date : Date) : Bool :=
  workingDays.weekdays.contains date.weekday

@[simp] theorem isWorkingDay_iff {workingDays : WorkingDays} {date : Date} :
    workingDays.isWorkingDay date = true ↔ date.weekday ∈ workingDays.weekdays := by
  simp [isWorkingDay]

/-- The rule text of Monday to Friday. -/
def defaultRuleText : String :=
  "FREQ=WEEKLY;INTERVAL=1;BYDAY=MO,TU,WE,TH,FR"

/-- The weekdays that names stand for, or the first name that stands for none. -/
def readWeekdays : List (List Char) → Except RuleFault (List Weekday)
  | [] => .ok []
  | name :: names =>
    match readWeekday? name with
    | none => .error (.unrecognizedWeekday name)
    | some weekday =>
      match readWeekdays names with
      | .error fault => .error fault
      | .ok weekdays => .ok (weekday :: weekdays)

/-- The working days that the parts of a rule text name. -/
def ofParts (parts : Parts) : Except RuleFault WorkingDays :=
  if parts.value? .frequency = some Frequency.weekly.code then
    match parts.value? .weekday with
    | none => .error .workingDaysWithoutWeekdays
    | some names => (readWeekdays (splitOn ',' names)).map ofList
  else
    .error .workingDaysNotWeekly

/-- The working days of a rule text; a blank text stands for Monday to Friday. -/
def read (given : String) : Except MalformedRule WorkingDays :=
  let text := if isBlankText given.toList then defaultRuleText else given
  match readParts text.toList with
  | .error fault => .error ⟨fault, text⟩
  | .ok parts =>
    match ofParts parts with
    | .error fault => .error ⟨fault, text⟩
    | .ok workingDays => .ok workingDays

end WorkingDays
end Workday
end Cadence
