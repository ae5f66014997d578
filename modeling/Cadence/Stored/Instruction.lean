import Cadence.Payment.Instruction
import Cadence.Stored.Period

/-!
# Stored instructions

Standing instructions from their row and the rows of their earlier periods.
-/

namespace Cadence
namespace Stored

open Calendar Number Payment Recurrence Scheduling Text

/-- The spellings of the recurrence types that rows may use. -/
def recurrenceTypeNames : List String :=
  RecurrenceType.known.map RecurrenceType.name

/-- The spellings of the amount types that rows may use. -/
def amountTypeNames : List String :=
  AmountType.known.map AmountType.name

/-- Any value that can be written, as plain text. -/
def readPlain (value : Value) : Except Problem String :=
  if value.isWritable then .ok (String.ofList value.plain) else .error .notText

/-- The columns of an instruction. -/
structure InstructionColumns where
  id : String
  name : String
  recurrenceType : String
  amountType : String
  amount : Option Amount
  validFrom : Date
  validTill : Option Date
  recurrence : Option String
  toLoanAccount : Bool

/-- The columns that the row of an instruction is checked for. -/
def instructionColumns : List Column := [
  .of "id" true readPlain,
  .of "name" true readName,
  .of "recurrence_type" true (readOption recurrenceTypeNames),
  .of "instruction_type" true (readOption amountTypeNames),
  .of "amount" false (readOptional Value.amount?),
  .of "valid_from" true readDate,
  .of "valid_till" false (readOptional Value.date?),
  .of "recurrence" false (readOptional Value.text?),
  .of "to_loan_account" false readBoolean]

/-- The columns of the row of an instruction. -/
def readInstructionColumns (row : Row) : Except FieldError InstructionColumns := do
  row.check instructionColumns
  let id ← row.read "id" readPlain
  let name ← row.read "name" readName
  let recurrenceType ← row.read "recurrence_type" (readOption recurrenceTypeNames)
  let amountType ← row.read "instruction_type" (readOption amountTypeNames)
  let amount ← row.readWithDefault "amount" (readOptional Value.amount?) none
  let validFrom ← row.read "valid_from" readDate
  let validTill ← row.readWithDefault "valid_till" (readOptional Value.date?) none
  let recurrence ← row.readWithDefault "recurrence" (readOptional Value.text?) none
  let toLoanAccount ← row.readWithDefault "to_loan_account" readBoolean false
  return ⟨id, name, recurrenceType, amountType, amount, validFrom, validTill,
    recurrence, toLoanAccount⟩

/-- A periodic instruction needs a rule, and one that pays a fixed amount needs
the amount. -/
def checkInstruction
    (recurrenceType : RecurrenceType)
    (amountType : AmountType)
    (recurrence : Option String)
    (amount : Option Amount) : Except FieldError Unit :=
  if recurrenceType = .periodic && isBlankText (recurrence.getD "").toList then
    .error ⟨"recurrence", .recurrenceNeeded⟩
  else if amountType = .fixed && amount.isNone then
    .error ⟨"amount", .amountNeeded⟩
  else
    .ok ()

/-- The validity of an instruction as a period that has no rule yet. -/
def validityPeriod
    (validFrom : Date)
    (validTill : Option Date) : Except FieldError Period :=
  (Period.of? none validFrom validTill).mapError fun fault =>
    ⟨"valid_till", .validTillBeforeValidFrom fault.endDate fault.startDate⟩

/-- The instruction of a row and of the rows of its earlier periods. -/
def buildInstruction
    (row : Row)
    (historyRows : List Row) : Except BuildError Instruction := do
  let columns ← (readInstructionColumns row).mapError .invalid
  let validity ←
    (validityPeriod columns.validFrom columns.validTill).mapError .invalid
  let recurrenceType := RecurrenceType.ofName columns.recurrenceType
  let amountType := AmountType.ofName columns.amountType
  (checkInstruction recurrenceType amountType columns.recurrence
    columns.amount).mapError .invalid
  let rule ← readStoredRule columns.recurrence
  let history ← buildPeriods historyRows
  return {
    id := columns.id
    name := columns.name
    recurrenceType
    amountType
    amount := columns.amount
    schedule := ⟨columns.id, { validity with rule }, sortPeriods history⟩
    toLoanAccount := columns.toLoanAccount
    validTill := columns.validTill }

end Stored
end Cadence
