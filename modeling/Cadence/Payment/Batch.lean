import Cadence.Payment.Due

/-!
# Daily batches

Running the instructions of a day one by one.  The dues of a loan, the transfer
and the clock are services of the surroundings, which may answer differently each
time they are asked.  A failure of one instruction is recorded and the run goes
on.
-/

namespace Cadence
namespace Payment

open Calendar Number

/-- A transfer that a batch asks for. -/
structure TransferRequest where
  instructionId : String
  name : String
  amount : Amount
  date : Date
  toLoanAccount : Bool
  deriving DecidableEq

/-- The text that goes with a transfer. -/
def TransferRequest.description (request : TransferRequest) : String :=
  "Standing instruction " ++ request.name ++ " (" ++ request.instructionId ++ ")"

/-- What a batch asks of surroundings in a state of type `State`.  A failure
carries its text. -/
structure Services (State : Type) where
  /-- The dues of the loan of an instruction, when dues can be looked up. -/
  lookUpDues : Option (Instruction → StateM State (Except String (Option LoanDues)))
  transfer : TransferRequest → StateM State (Except String Unit)
  clock : StateM State Nat

/-- What became of an instruction. -/
inductive Status where
  | success
  | failed
  | notDue
  | error
  deriving DecidableEq, Repr

namespace Status

/-- The spelling of a status. -/
def name : Status → String
  | success => "success"
  | failed => "failed"
  | notDue => "not_due"
  | error => "error"

/-- Whether a status stands for a failure. -/
def isFailure : Status → Bool
  | failed => true
  | error => true
  | success => false
  | notDue => false

end Status

/-- The recorded outcome of one instruction. -/
structure Result where
  instructionId : String
  status : Status
  /-- The reading of the clock when the outcome was recorded. -/
  timestamp : Nat
  /-- The amount that was decided on, if it came to that. -/
  amount : Option Amount
  /-- The text of a failure. -/
  failure : Option String
  deriving DecidableEq

/-- Whether a result is a failure. -/
def Result.isFailure (result : Result) : Bool :=
  result.status.isFailure

/-- The outcome of one instruction before it is recorded. -/
structure Outcome where
  status : Status
  amount : Option Amount
  failure : Option String
  deriving DecidableEq

/-- The amount of a due instruction cannot be compared with zero. -/
structure UndefinedAmount where
  deriving DecidableEq

/-- The message for an amount that cannot be compared. -/
def UndefinedAmount.message : String :=
  "[<class 'decimal.InvalidOperation'>]"

/-- The text of an instruction that needs dues when none can be looked up. -/
def noLookupText : String :=
  "no dues lookup configured for a loan dues instruction"

/-- Whether the dues of an instruction are looked up: they decide on its day, or it
is due already and they decide on its amount. -/
def Instruction.looksUpDues
    (instruction : Instruction)
    (today : Date) : Except DueError Bool :=
  if !instruction.needsDues then
    .ok false
  else if instruction.recurrenceType = .dues then
    .ok true
  else
    instruction.isDueOn today none

section Run

variable {State : Type}

/-- The dues that decide on an instruction today, or the text of a failure. -/
def obtainDues
    (lookUp : Instruction → StateM State (Except String (Option LoanDues)))
    (today : Date)
    (instruction : Instruction) : StateM State (Except String (Option LoanDues)) :=
  match instruction.looksUpDues today with
  | .error error => pure (.error error.message)
  | .ok false => pure (.ok none)
  | .ok true => lookUp instruction

/-- The request that an instruction makes for an amount. -/
def Instruction.request
    (instruction : Instruction)
    (today : Date)
    (amount : Amount) : TransferRequest :=
  ⟨instruction.id, instruction.name, amount, today, instruction.toLoanAccount⟩

/-- Make a transfer and tell what became of it. -/
def carryOut
    (services : Services State)
    (request : TransferRequest) : StateM State Outcome := do
  match ← services.transfer request with
  | .ok () => return ⟨.success, some request.amount, none⟩
  | .error failure => return ⟨.failed, some request.amount, some failure⟩

/-- Decide on an instruction whose dues are known and make its transfer. -/
def settle
    (services : Services State)
    (today : Date)
    (instruction : Instruction)
    (dues : Option LoanDues) : StateM State (Except UndefinedAmount Outcome) :=
  match instruction.evaluate today dues with
  | .error error => pure (.ok ⟨.error, none, some error.message⟩)
  | .ok decision =>
    match decision.shouldTransfer?, decision.amount with
    | none, _ => pure (.error {})
    | some true, some amount => do
      let outcome ← carryOut services (instruction.request today amount)
      return .ok outcome
    | some _, amount => pure (.ok ⟨.notDue, amount, none⟩)

/-- What becomes of one instruction. -/
def outcomeOf
    (services : Services State)
    (today : Date)
    (instruction : Instruction) : StateM State (Except UndefinedAmount Outcome) := do
  match services.lookUpDues with
  | none =>
    if instruction.needsDues then
      return .ok ⟨.error, none, some noLookupText⟩
    else
      settle services today instruction none
  | some lookUp =>
    match ← obtainDues lookUp today instruction with
    | .error failure => return .ok ⟨.error, none, some failure⟩
    | .ok dues => settle services today instruction dues

/-- What becomes of one instruction, recorded with the time. -/
def process
    (services : Services State)
    (today : Date)
    (instruction : Instruction) : StateM State (Except UndefinedAmount Result) := do
  match ← outcomeOf services today instruction with
  | .error undefined => return .error undefined
  | .ok outcome =>
    let timestamp ← services.clock
    return .ok
      ⟨instruction.id, outcome.status, timestamp, outcome.amount, outcome.failure⟩

/-- The results of instructions in their order. -/
def processAll
    (services : Services State)
    (today : Date) :
    List Instruction → StateM State (Except UndefinedAmount (List Result))
  | [] => return .ok []
  | instruction :: instructions => do
    match ← process services today instruction with
    | .error undefined => return .error undefined
    | .ok result =>
      match ← processAll services today instructions with
      | .error undefined => return .error undefined
      | .ok results => return .ok (result :: results)

end Run

/-- All results of one run, in the order of the instructions. -/
structure Report where
  runDate : Date
  results : List Result
  deriving DecidableEq

namespace Report

/-- The results of the transfers that were made. -/
def transferred (report : Report) : List Result :=
  report.results.filter fun result => result.status = .success

/-- The results that are failures. -/
def failures (report : Report) : List Result :=
  report.results.filter Result.isFailure

end Report

/-- Run all instructions for a day. -/
def runBatch
    {State : Type}
    (services : Services State)
    (instructions : List Instruction)
    (today : Date) : StateM State (Except UndefinedAmount Report) := do
  match ← processAll services today instructions with
  | .error undefined => return .error undefined
  | .ok results => return .ok ⟨today, results⟩

/-- A run has failures. -/
structure RunFailure where
  failures : List Result
  deriving DecidableEq

/-- The message for a run with failures. -/
def RunFailure.message (failure : RunFailure) : String :=
  let describe (result : Result) : String :=
    result.instructionId ++ ": " ++ result.failure.getD "None"
  integerText failure.failures.length ++ " standing instruction(s) failed: " ++
    String.intercalate "; " (failure.failures.map describe)

/-- Fail when any instruction of a run did. -/
def Report.check (report : Report) : Except RunFailure Unit :=
  if report.failures.isEmpty then .ok () else .error ⟨report.failures⟩

theorem Report.check_eq_ok_iff {report : Report} :
    report.check = .ok () ↔ ∀ result ∈ report.results, result.isFailure = false := by
  unfold check failures
  split <;> simp_all

end Payment
end Cadence
