import Cadence.Payment.Instruction
import Cadence.Recurrence.Fault

/-!
# Due instructions

Whether an instruction is due on a day, and how much it moves.
-/

namespace Cadence
namespace Payment

open Calendar Number Recurrence Text

/-- Why it cannot be told whether an instruction is due. -/
inductive DueError where
  | unknownRecurrenceType (name : String)
  | unsupported (frequency : UnsupportedFrequency)
  deriving DecidableEq

/-- The message for an instruction that cannot be evaluated. -/
def DueError.message : DueError → String
  | unknownRecurrenceType name => "Unknown recurrence type: " ++ quoted name
  | unsupported frequency => frequency.message

/-- What an instruction does on a day. -/
structure Decision where
  instructionId : String
  due : Bool
  amount : Option Amount
  deriving DecidableEq

/-- Whether there is something to move; an undefined amount that is due gives no
answer. -/
def Decision.shouldTransfer? (decision : Decision) : Option Bool :=
  match decision.due, decision.amount with
  | true, some amount => amount.exceedsZero?
  | _, _ => some false

theorem Decision.shouldTransfer?_eq_some_true_iff {decision : Decision} :
    decision.shouldTransfer? = some true ↔
      decision.due = true ∧
        ∃ amount, decision.amount = some amount ∧ amount.exceedsZero? = some true := by
  obtain ⟨instructionId, due, amount⟩ := decision
  cases due <;> cases amount <;> simp [shouldTransfer?]

namespace Instruction

/-- Whether an instruction is due on a day, given the dues of its loan.  Nothing is
due after the last day of an instruction. -/
def isDueOn
    (instruction : Instruction)
    (today : Date)
    (dues : Option LoanDues) : Except DueError Bool :=
  if instruction.validTill.any fun validTill => decide (validTill < today) then
    .ok false
  else
    match instruction.recurrenceType with
    | .periodic =>
      match instruction.schedule.isOccurrenceOn .none today with
      | .error unsupported => .error (.unsupported unsupported)
      | .ok due => .ok due
    | .dues => .ok (dues.any fun dues => dues.dueDate == some today)
    | .oneOff => .ok (today == instruction.validFrom)
    | .unknown name => .error (.unknownRecurrenceType name)

/-- Nothing is due after the last day. -/
theorem isDueOn_of_expired
    {instruction : Instruction}
    {today validTill : Date}
    (endsOn : instruction.validTill = some validTill)
    (expired : validTill < today)
    (dues : Option LoanDues) :
    instruction.isDueOn today dues = .ok false := by
  simp [isDueOn, endsOn, expired]

/-- The amount that an instruction moves.  What a loan asks for is not known
without its dues, and never replaced by another amount. -/
def transferAmount
    (instruction : Instruction)
    (dues : Option LoanDues) : Option Amount :=
  if instruction.paysDues then dues.map LoanDues.total else instruction.amount

/-- What an instruction does on a day. -/
def evaluate
    (instruction : Instruction)
    (today : Date)
    (dues : Option LoanDues) : Except DueError Decision :=
  match instruction.isDueOn today dues with
  | .error error => .error error
  | .ok due => .ok ⟨instruction.id, due, instruction.transferAmount dues⟩

end Instruction
end Payment
end Cadence
