import Mathlib.Data.List.Forall2
import Cadence.Proofs.Payment.Warrant

/-!
# Accounts of a batch

What the journal of a batch shows for each of its instructions: one reading of the clock, and
the transfer that it asks for when it is evaluated with the dues found for it.  The result of
the instruction says what the answers say.
-/

namespace Cadence
namespace Payment

open Calendar Number Scheduling

/-- The readings of the clock that a journal shows, in their order. -/
def readingsOf (journal : List Exchange) : List Nat :=
  journal.filterMap fun
    | .clock reading => some reading
    | _ => none

@[simp] theorem readingsOf_nil : readingsOf [] = [] := rfl

@[simp] theorem readingsOf_append (earlier later : List Exchange) :
    readingsOf (earlier ++ later) = readingsOf earlier ++ readingsOf later :=
  List.filterMap_append

/-- The dues that a journal shows to have been found. -/
def duesIn (journal : List Exchange) : Option LoanDues :=
  journal.findSome? fun
    | .lookUp _ (.ok dues) => dues
    | _ => none

@[simp] theorem duesIn_nil : duesIn [] = none := rfl

@[simp] theorem duesIn_append (earlier later : List Exchange) :
    duesIn (earlier ++ later) = (duesIn earlier).or (duesIn later) :=
  List.findSome?_append

/-- The transfer that an instruction asks for once it is evaluated, if any. -/
def Instruction.requestsFor
    (instruction : Instruction)
    (today : Date) : Except DueError Decision → List TransferRequest
  | .error _ => []
  | .ok decision =>
    if decision.shouldTransfer? = some true then
      (decision.amount.map (instruction.request today)).toList
    else
      []

/-- What is asked for an instruction, and the status and the amount that come of it.  The
instruction is evaluated with the dues that are found. -/
structure IsDecided
    {State : Type}
    (services : Services State)
    (today : Date)
    (instruction : Instruction)
    (status : Status)
    (amount : Option Amount)
    (asked : List Exchange) : Prop where
  /-- The transfer that is decided on is made once, and no other. -/
  requests_eq : requestsOf asked =
    instruction.requestsFor today (instruction.evaluate today (duesIn asked))
  success_iff : status = .success ↔ ∃ request, .transfer request (.ok ()) ∈ asked
  failed_iff : status = .failed ↔
    ∃ request failure, .transfer request (.error failure) ∈ asked
  /-- An error is a look-up that is missing or fails, or an evaluation that fails. -/
  error_iff : status = .error ↔
    (services.lookUpDues = none ∧ instruction.needsDues = true) ∨
      (∃ failure, .lookUp instruction (.error failure) ∈ asked) ∨
      ∃ error, instruction.evaluate today (duesIn asked) = .error error
  amount_eq : ∀ request ∈ requestsOf asked, amount = some request.amount

/-- The part of a journal that belongs to an instruction, and its result. -/
structure IsAccount
    {State : Type}
    (services : Services State)
    (today : Date)
    (instruction : Instruction)
    (result : Result)
    (part : List Exchange) : Prop where
  instructionId_eq : result.instructionId = instruction.id
  readings_eq : readingsOf part = [result.timestamp]
  decided : IsDecided services today instruction result.status result.amount part

section One

variable {State : Type} {services : Services State} {today : Date} {instruction : Instruction}

/-- Without the dues that it needs an instruction asks for no transfer. -/
theorem requestsFor_of_needsDues (needsDues : instruction.needsDues = true) :
    instruction.requestsFor today (instruction.evaluate today none) = [] := by
  cases evaluates : instruction.evaluate today none with
  | error error => rfl
  | ok decision =>
      apply if_neg
      intro should
      obtain ⟨isDue, amount, isAmount, _⟩ := Decision.shouldTransfer?_eq_some_true_iff.mp should
      have dueOn := Instruction.isDueOn_of_evaluate evaluates
      rw [isDue] at dueOn
      rw [Instruction.amount_of_evaluate evaluates] at isAmount
      obtain ⟨found, isFound⟩ := Instruction.exists_dues_of_needsDues needsDues dueOn isAmount
      cases isFound

theorem requestsOf_of_obtains
    {obtained : Except String (Option LoanDues)}
    {asked : List Exchange}
    (obtains : Obtains services today instruction obtained asked) :
    requestsOf asked = [] ∧ readingsOf asked = [] := by
  cases obtains with
  | noLookUp | unneeded | undecided => exact ⟨rfl, rfl⟩
  | asked => exact ⟨rfl, rfl⟩

/-- Dues are obtained as the journal shows them, and nothing has failed. -/
theorem duesIn_of_obtains
    {dues : Option LoanDues}
    {asked : List Exchange}
    (obtains : Obtains services today instruction (.ok dues) asked) :
    duesIn asked = dues ∧
      ¬ (services.lookUpDues = none ∧ instruction.needsDues = true) ∧
      ∀ failure, .lookUp instruction (.error failure) ∉ asked := by
  cases obtains with
  | unneeded notMissing notLookedUp =>
      refine ⟨rfl, ?_, nofun⟩
      rintro ⟨missing, needsDues⟩
      rw [notMissing missing] at needsDues
      cases needsDues
  | asked isLookUp lookedUp isAnswer =>
      refine ⟨by cases dues <;> rfl, ?_, by simp⟩
      rintro ⟨missing, _⟩
      rw [isLookUp] at missing
      cases missing

/-- Where no dues are obtained, the journal shows none, no transfer would be decided on without
them, and the look-up or the evaluation has failed. -/
theorem fails_of_obtains
    {failure : String}
    {asked : List Exchange}
    (obtains : Obtains services today instruction (.error failure) asked) :
    duesIn asked = none ∧
      instruction.requestsFor today (instruction.evaluate today none) = [] ∧
      ((services.lookUpDues = none ∧ instruction.needsDues = true) ∨
        (∃ failure, .lookUp instruction (.error failure) ∈ asked) ∨
        ∃ error, instruction.evaluate today none = .error error) := by
  cases obtains with
  | noLookUp missing needed =>
      exact ⟨rfl, requestsFor_of_needsDues needed, Or.inl ⟨missing, needed⟩⟩
  | @undecided error fails =>
      have notEvaluated : instruction.evaluate today none = .error error := by
        unfold Instruction.evaluate
        rw [isDueOn_of_looksUpDues fails]
      refine ⟨rfl, ?_, Or.inr (Or.inr ⟨error, notEvaluated⟩)⟩
      rw [notEvaluated]
      rfl
  | asked isLookUp lookedUp isAnswer =>
      exact ⟨rfl, requestsFor_of_needsDues (needsDues_of_looksUpDues lookedUp),
        Or.inr (Or.inl ⟨failure, List.mem_singleton_self _⟩)⟩

/-- With given dues an instruction asks for the transfer that is decided on, and for nothing
else. -/
theorem requestsOf_of_settles
    {dues : Option LoanDues}
    {outcome : Outcome}
    {carriedOut : List Exchange}
    (settles : Settles services today instruction dues (.ok outcome) carriedOut) :
    requestsOf carriedOut =
        instruction.requestsFor today (instruction.evaluate today dues) ∧
      readingsOf carriedOut = [] ∧ duesIn carriedOut = none ∧
      ∀ failure, .lookUp instruction (.error failure) ∉ carriedOut := by
  cases settles with
  | undecided fails =>
      rw [fails]
      exact ⟨rfl, rfl, rfl, nofun⟩
  | kept evaluates noTransfer =>
      rw [evaluates, Instruction.requestsFor, noTransfer]
      exact ⟨rfl, rfl, rfl, nofun⟩
  | transferred evaluates shouldTransfer isAmount isAnswer =>
      rw [evaluates, Instruction.requestsFor, if_pos shouldTransfer, isAmount]
      exact ⟨rfl, rfl, rfl, by simp⟩

/-- With given dues the status of an instruction says how its transfer went, if it asked for
one, and whether it could be evaluated. -/
theorem status_of_settles
    {dues : Option LoanDues}
    {outcome : Outcome}
    {carriedOut : List Exchange}
    (settles : Settles services today instruction dues (.ok outcome) carriedOut) :
    (outcome.status = .success ↔ ∃ request, .transfer request (.ok ()) ∈ carriedOut) ∧
      (outcome.status = .failed ↔
        ∃ request failure, .transfer request (.error failure) ∈ carriedOut) ∧
      (outcome.status = .error ↔ ∃ error, instruction.evaluate today dues = .error error) ∧
      ∀ request ∈ requestsOf carriedOut, outcome.amount = some request.amount := by
  cases settles with
  | undecided fails => simp [fails]
  | kept evaluates noTransfer => simp [evaluates]
  | @transferred decision amount answer evaluates shouldTransfer isAmount isAnswer =>
      have amount_eq : ∀ request ∈ requestsOf [.transfer (instruction.request today amount) answer],
          some amount = some request.amount := by
        intro request member
        rw [List.mem_singleton.mp member]
        rfl
      cases answer with
      | ok made => exact ⟨by simp [transferOutcome], by simp [transferOutcome],
          by simp [transferOutcome, evaluates], amount_eq⟩
      | error failure => exact ⟨by simp [transferOutcome], by simp [transferOutcome],
          by simp [transferOutcome, evaluates], amount_eq⟩

theorem transfer_mem_append_iff
    {asked : List Exchange}
    (noTransfer : ∀ exchange ∈ asked, ∀ request answer, exchange ≠ .transfer request answer)
    {request : TransferRequest}
    {answer : Except String Unit}
    {others : List Exchange} :
    .transfer request answer ∈ asked ++ others ↔ .transfer request answer ∈ others := by
  rw [List.mem_append]
  exact or_iff_right fun member => noTransfer _ member request answer rfl

theorem isDecided_of_refused
    {failure : String}
    {asked : List Exchange}
    (obtains : Obtains services today instruction (.error failure) asked) :
    IsDecided services today instruction .error none asked := by
  obtain ⟨noDues, noDecision, fails⟩ := fails_of_obtains obtains
  have noRequests := (requestsOf_of_obtains obtains).1
  have noTransfer := not_transfer_of_obtains obtains
  refine ⟨?_, iff_of_false nofun ?_, iff_of_false nofun ?_, iff_of_true rfl ?_, ?_⟩
  · rw [noRequests, noDues, noDecision]
  · rintro ⟨request, member⟩
    exact noTransfer _ member _ _ rfl
  · rintro ⟨request, failure, member⟩
    exact noTransfer _ member _ _ rfl
  · rw [noDues]
    exact fails
  · rw [noRequests]
    nofun

theorem isDecided_of_settles
    {dues : Option LoanDues}
    {outcome : Outcome}
    {asked carriedOut : List Exchange}
    (obtains : Obtains services today instruction (.ok dues) asked)
    (settles : Settles services today instruction dues (.ok outcome) carriedOut) :
    IsDecided services today instruction outcome.status outcome.amount
      (asked ++ carriedOut) := by
  obtain ⟨isFound, notMissing, notFailed⟩ := duesIn_of_obtains obtains
  obtain ⟨requests, _, noMoreDues, noLookUp⟩ := requestsOf_of_settles settles
  obtain ⟨success, failed, error, amount⟩ := status_of_settles settles
  have noRequests := (requestsOf_of_obtains obtains).1
  have dues_eq : duesIn (asked ++ carriedOut) = dues := by
    rw [duesIn_append, isFound, noMoreDues, Option.or_none]
  have requests_eq : requestsOf (asked ++ carriedOut) = requestsOf carriedOut := by
    rw [requestsOf_append, noRequests, List.nil_append]
  have transfers {request : TransferRequest} {answer : Except String Unit} :
      .transfer request answer ∈ asked ++ carriedOut ↔
        .transfer request answer ∈ carriedOut :=
    transfer_mem_append_iff (not_transfer_of_obtains obtains)
  have lookUpFound : ¬ ∃ failure, .lookUp instruction (.error failure) ∈ asked ++ carriedOut := by
    rintro ⟨failure, member⟩
    exact (List.mem_append.mp member).elim (notFailed failure) (noLookUp failure)
  refine ⟨?_, ?_, ?_, ?_, ?_⟩
  · rw [requests_eq, dues_eq, requests]
  · simpa only [transfers] using success
  · simpa only [transfers] using failed
  · rw [dues_eq, or_iff_right notMissing, or_iff_right lookUpFound]
    exact error
  · rw [requests_eq]
    exact amount

/-- The time of a result changes nothing about the decision. -/
theorem IsDecided.append_clock
    {status : Status}
    {amount : Option Amount}
    {asked : List Exchange}
    (decided : IsDecided services today instruction status amount asked)
    (reading : Nat) :
    IsDecided services today instruction status amount (asked ++ [.clock reading]) := by
  have requests_eq : requestsOf (asked ++ [.clock reading]) = requestsOf asked := by
    rw [requestsOf_append]
    exact List.append_nil _
  have dues_eq : duesIn (asked ++ [.clock reading]) = duesIn asked := by
    rw [duesIn_append]
    exact Option.or_none
  refine ⟨?_, ?_, ?_, ?_, ?_⟩
  · rw [requests_eq, dues_eq]
    exact decided.requests_eq
  · simpa using decided.success_iff
  · simpa using decided.failed_iff
  · rw [dues_eq]
    simpa using decided.error_iff
  · rw [requests_eq]
    exact decided.amount_eq

theorem isDecided_of_handles
    {outcome : Outcome}
    {asked : List Exchange}
    (handles : Handles services today instruction (.ok outcome) asked) :
    IsDecided services today instruction outcome.status outcome.amount asked ∧
      readingsOf asked = [] := by
  cases handles with
  | refused obtains =>
      exact ⟨isDecided_of_refused obtains, (requestsOf_of_obtains obtains).2⟩
  | settled obtains settles =>
      refine ⟨isDecided_of_settles obtains settles, ?_⟩
      rw [readingsOf_append, (requestsOf_of_obtains obtains).2,
        (requestsOf_of_settles settles).2.1, List.nil_append]

/-- The part of an instruction that has a result is accounted for. -/
theorem isAccount_of_processes
    {result : Result}
    {part : List Exchange}
    (processes : Processes services today instruction (.ok result) part) :
    IsAccount services today instruction result part := by
  cases processes with
  | @recorded outcome timestamp asked handles =>
      obtain ⟨decided, noReadings⟩ := isDecided_of_handles handles
      refine ⟨rfl, ?_, decided.append_clock timestamp⟩
      rw [readingsOf_append, noReadings, List.nil_append]
      rfl

end One

/-- The journal of a batch is made of the parts of its instructions, in their order. -/
theorem exists_accounts_of_processesAll
    {State : Type}
    {services : Services State}
    {today : Date}
    {instructions : List Instruction}
    {outcome : Except UndefinedAmount (List Result)}
    {journal : List Exchange}
    (processes : ProcessesAll services today instructions outcome journal)
    {results : List Result}
    (succeeds : outcome = .ok results) :
    ∃ accounts : List (Result × List Exchange),
      results = accounts.map Prod.fst ∧ journal = (accounts.map Prod.snd).flatten ∧
      List.Forall₂ (fun instruction account =>
        IsAccount services today instruction account.1 account.2) instructions accounts := by
  induction processes generalizing results with
  | nil =>
      cases succeeds
      exact ⟨[], rfl, rfl, .nil⟩
  | undefined first => cases succeeds
  | @cons instruction instructions result outcome exchanges others first rest hypothesis =>
      cases outcome with
      | error undefined => cases succeeds
      | ok laterResults =>
          cases succeeds
          obtain ⟨accounts, rfl, rfl, areAccounts⟩ := hypothesis rfl
          exact ⟨(result, exchanges) :: accounts, rfl, rfl,
            .cons (isAccount_of_processes first) areAccounts⟩

end Payment
end Cadence
