import Cadence.Calendar.Spelling
import Cadence.Number.Amount
import Cadence.Recurrence.Fault
import Cadence.Stored.Value

/-!
# Stored rows

A row holds values under column names.  Columns are checked in the order of the
row, and the first fault decides; a column that is missing is found out last.
Columns that nobody asks for do not count.
-/

namespace Cadence
namespace Stored

open Calendar Number Recurrence Text

/-- What is wrong with the value of a column or a form field. -/
inductive Problem where
  | missing
  | invalidDate (given : Value)
  /-- The value of a column that may be empty is neither empty nor valid. -/
  | notAValidValue
  | notText
  | emptyText
  | notOneOf (options : List String)
  | notBoolean
  | endBeforeStart (endDate startDate : Date)
  | validTillBeforeValidFrom (validTill validFrom : Date)
  | recurrenceNeeded
  | amountNeeded
  | notAWholeNumber (given : Value)
  | unknownWeekday (given : Value)

/-- The wording of a problem. -/
def Problem.message : Problem → String
  | missing => "required key not provided"
  | invalidDate given => "invalid date " ++ given.shownText
  | notAValidValue => "not a valid value"
  | notText => "expected str"
  | emptyText => "length of value must be at least 1"
  | notOneOf options =>
    "value must be one of [" ++ String.intercalate ", " (options.map quoted) ++ "]"
  | notBoolean => "expected boolean"
  | endBeforeStart endDate startDate =>
    "end date " ++ endDate.text ++ " is before start date " ++ startDate.text
  | validTillBeforeValidFrom validTill validFrom =>
    "valid till " ++ validTill.text ++ " is before valid from " ++ validFrom.text
  | recurrenceNeeded => "periodic instructions need a recurrence rule"
  | amountNeeded => "fixed amount instructions need an amount"
  | notAWholeNumber given => "expected a whole number, got " ++ given.shownText
  | unknownWeekday given => "unknown weekday " ++ given.shownText

/-- A problem and the column or field that has it. -/
structure FieldError where
  field : String
  problem : Problem

/-- The message for a column or field with a problem. -/
def FieldError.message (error : FieldError) : String :=
  error.field ++ ": " ++ error.problem.message

/-- Why nothing can be built from stored values. -/
inductive BuildError where
  | invalid (error : FieldError)
  | malformed (rule : MalformedRule)
  /-- An infinite number where a whole number belongs. -/
  | infinite
  /-- A whole number that has too many digits to be written, where a text or a
  message needs it. -/
  | unwritable

/-- Values under column names, each name once. -/
abbrev Row :=
  List (String × Value)

namespace Row

/-- A row with the value of a column replaced in its place, or put at the end. -/
def insert (row : Row) (name : String) (value : Value) : Row :=
  match row with
  | [] => [(name, value)]
  | (first, old) :: rest =>
    if first = name then (name, value) :: rest else (first, old) :: insert rest name value

/-- The row of pairs of a name and a value; of equal names the last value
counts. -/
def ofPairs (pairs : List (String × Value)) : Row :=
  pairs.foldl (fun row pair => row.insert pair.1 pair.2) []

/-- The value of a column. -/
def value? (row : Row) (name : String) : Option Value :=
  (row.find? fun column => column.1 == name).map Prod.snd

end Row

/-! ## Reading values -/

/-- A date, a moment whose time is dropped, or a text that spells a date. -/
def Value.date? : Value → Option Date
  | date day => some day
  | moment instant => some instant.date
  | text content => Date.read? content.toList
  | _ => none

/-- A date.  A value that cannot be shown is refused without being named. -/
def readDate (value : Value) : Except Problem Date :=
  match value.date? with
  | some date => .ok date
  | none => .error (if value.isWritable then .invalidDate value else .notAValidValue)

/-- Nothing, or a value with a meaning. -/
def readOptional
    {Meaning : Type}
    (read? : Value → Option Meaning) : Value → Except Problem (Option Meaning)
  | .absent => .ok none
  | value =>
    match read? value with
    | some meaning => .ok (some meaning)
    | none => .error .notAValidValue

/-- A text as it is. -/
def Value.text? : Value → Option String
  | text content => some content
  | _ => none

/-- An amount that is a number and not below zero; truth values are no amounts. -/
def Value.amount? : Value → Option Amount
  | bool _ => none
  | value =>
    if value.isWritable then
      (Amount.read? value.plain).filter fun amount =>
        amount.isFinite && !amount.isBelowZero
    else
      none

/-- A text that is not empty. -/
def readName : Value → Except Problem String
  | .text content => if content.isEmpty then .error .emptyText else .ok content
  | _ => .error .notText

/-- A text that is one of several spellings in any letter case. -/
def readOption (options : List String) : Value → Except Problem String
  | .text content =>
    let spelling := String.ofList (lower content.toList)
    if options.contains spelling then .ok spelling else .error (.notOneOf options)
  | _ => .error .notText

/-- A truth value: a word for one in any letter case, or any other value by
whether it counts as true. -/
def readBoolean : Value → Except Problem Bool
  | .text content =>
    let word := String.ofList (lower content.toList)
    if ["1", "true", "yes", "on", "enable"].contains word then .ok true
    else if ["0", "false", "no", "off", "disable"].contains word then .ok false
    else .error .notBoolean
  | value => .ok value.isTrue

/-! ## Checking columns -/

/-- A column that is asked for. -/
structure Column where
  name : String
  required : Bool
  /-- The check of a value. -/
  check : Value → Except Problem Unit

namespace Column

/-- A column whose values have to be readable. -/
def of
    {Meaning : Type}
    (name : String)
    (required : Bool)
    (read : Value → Except Problem Meaning) : Column :=
  ⟨name, required, fun value => (read value).map fun _ => ()⟩

/-- The fault of a row in one of its columns, if the column is asked for. -/
def fault? (columns : List Column) (entry : String × Value) : Option FieldError :=
  (columns.find? fun column => column.name == entry.1).bind fun column =>
    match column.check entry.2 with
    | .ok () => none
    | .error problem => some ⟨entry.1, problem⟩

/-- The fault of a row that lacks a column. -/
def absence? (row : Row) (column : Column) : Option FieldError :=
  if column.required && (row.value? column.name).isNone then
    some ⟨column.name, .missing⟩
  else
    none

end Column

/-- Check a row: its columns in their order, and then the missing ones. -/
def Row.check (row : Row) (columns : List Column) : Except FieldError Unit :=
  match row.findSome? (Column.fault? columns) with
  | some error => .error error
  | none =>
    match columns.findSome? (Column.absence? row) with
    | some error => .error error
    | none => .ok ()

/-- The meaning of a column. -/
def Row.read
    {Meaning : Type}
    (row : Row)
    (name : String)
    (read : Value → Except Problem Meaning) : Except FieldError Meaning :=
  match row.value? name with
  | none => .error ⟨name, .missing⟩
  | some value => (read value).mapError fun problem => ⟨name, problem⟩

/-- The meaning of a column that may be missing. -/
def Row.readWithDefault
    {Meaning : Type}
    (row : Row)
    (name : String)
    (read : Value → Except Problem Meaning)
    (fallback : Meaning) : Except FieldError Meaning :=
  match row.value? name with
  | none => .ok fallback
  | some value => (read value).mapError fun problem => ⟨name, problem⟩

end Stored
end Cadence
