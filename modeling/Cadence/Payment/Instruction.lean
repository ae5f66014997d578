import Cadence.Number.Amount
import Cadence.Scheduling.Schedule

/-!
# Standing instructions

Orders to move money again and again: on the dates of a schedule, when a loan is
due, or once; a fixed amount, or what the loan asks for.
-/

namespace Cadence
namespace Payment

open Calendar Number Scheduling

/-- When an instruction is due. -/
inductive RecurrenceType where
  /-- On the occurrences of its schedule. -/
  | periodic
  /-- On the due date of its loan. -/
  | dues
  /-- On the day it starts. -/
  | oneOff
  /-- A name that says nothing about when. -/
  | unknown (name : String)
  deriving DecidableEq, Repr

/-- What an instruction pays. -/
inductive AmountType where
  /-- Its own amount. -/
  | fixed
  /-- What its loan asks for. -/
  | dues
  /-- A name that leaves it with its own amount. -/
  | unknown (name : String)
  deriving DecidableEq, Repr

namespace RecurrenceType

/-- The spelling of a recurrence type. -/
def name : RecurrenceType → String
  | periodic => "periodic"
  | dues => "dues"
  | oneOff => "one_off"
  | unknown name => name

/-- The recurrence types with a meaning, in the order of their spellings. -/
def known : List RecurrenceType :=
  [dues, oneOff, periodic]

/-- The recurrence type with a given spelling. -/
def ofName (spelling : String) : RecurrenceType :=
  (known.find? fun recurrenceType => recurrenceType.name == spelling).getD
    (unknown spelling)

end RecurrenceType

namespace AmountType

/-- The spelling of an amount type. -/
def name : AmountType → String
  | fixed => "fixed_amount"
  | dues => "dues_amount"
  | unknown name => name

/-- The amount types with a meaning, in the order of their spellings. -/
def known : List AmountType :=
  [dues, fixed]

/-- The amount type with a given spelling. -/
def ofName (spelling : String) : AmountType :=
  (known.find? fun amountType => amountType.name == spelling).getD (unknown spelling)

end AmountType

/-- What a loan asks for next. -/
structure LoanDues where
  dueDate : Option Date
  total : Amount
  deriving DecidableEq

/-- A standing instruction. -/
structure Instruction where
  id : String
  name : String
  recurrenceType : RecurrenceType
  amountType : AmountType
  /-- The amount to pay, when one is set. -/
  amount : Option Amount
  schedule : Schedule
  /-- Whether the money goes into a loan account. -/
  toLoanAccount : Bool
  /-- The last day on which the instruction may run. -/
  validTill : Option Date
  deriving DecidableEq

namespace Instruction

/-- The first day on which the instruction may run. -/
def validFrom (instruction : Instruction) : Date :=
  instruction.schedule.current.startDate

/-- Whether the instruction pays what its loan asks for. -/
def paysDues (instruction : Instruction) : Bool :=
  instruction.amountType = .dues && instruction.toLoanAccount

/-- Whether the dues of a loan decide on the day or the amount. -/
def needsDues (instruction : Instruction) : Bool :=
  instruction.toLoanAccount &&
    (instruction.recurrenceType = .dues || instruction.amountType = .dues)

end Instruction
end Payment
end Cadence
