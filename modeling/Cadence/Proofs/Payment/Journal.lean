import Cadence.Proofs.Payment.Isolation

/-!
# Journals

What a batch asks of its surroundings.  Surroundings that keep a journal write down each
question with its answer and otherwise answer as before, so a batch does with them what it
does without.  The journal of a batch is put together from one part for each instruction:
what was asked for its dues, for its transfer, and for the time of its result.
-/

namespace Cadence
namespace Payment

open Calendar Number Scheduling

/-- A question to the surroundings of a batch, with the answer. -/
inductive Exchange where
  | lookUp (instruction : Instruction) (answer : Except String (Option LoanDues))
  | transfer (request : TransferRequest) (answer : Except String Unit)
  | clock (reading : Nat)

/-- The transfers that a journal shows, in their order. -/
def requestsOf (journal : List Exchange) : List TransferRequest :=
  journal.filterMap fun
    | .transfer request _ => some request
    | _ => none

@[simp] theorem requestsOf_nil : requestsOf [] = [] := rfl

@[simp] theorem requestsOf_append (earlier later : List Exchange) :
    requestsOf (earlier ++ later) = requestsOf earlier ++ requestsOf later :=
  List.filterMap_append

theorem mem_requestsOf {request : TransferRequest} {journal : List Exchange} :
    request ∈ requestsOf journal ↔
      ∃ before answer after, journal = before ++ .transfer request answer :: after := by
  unfold requestsOf
  rw [List.mem_filterMap]
  constructor
  · rintro ⟨exchange, member, isRequest⟩
    obtain ⟨before, after, rfl⟩ := List.append_of_mem member
    cases exchange with
    | lookUp instruction answer => cases isRequest
    | transfer made answer =>
        cases isRequest
        exact ⟨before, answer, after, rfl⟩
    | clock reading => cases isRequest
  · rintro ⟨before, answer, after, rfl⟩
    exact ⟨.transfer request answer, by simp, rfl⟩

section Recording

variable {State Answer Next : Type}

/-- Ask a question and write it down with its answer. -/
def record
    (exchange : Answer → Exchange)
    (question : StateM State Answer) : StateM (State × List Exchange) Answer :=
  fun (state, journal) =>
    let answered := question.run state
    pure (answered.1, answered.2, journal ++ [exchange answered.1])

/-- Surroundings that keep a journal. -/
def Services.recorded (services : Services State) : Services (State × List Exchange) where
  lookUpDues := services.lookUpDues.map fun lookUp instruction =>
    record (.lookUp instruction) (lookUp instruction)
  transfer request := record (.transfer request) (services.transfer request)
  clock := record .clock services.clock

/-- An answer that a question has in some state. -/
def IsAnswer (question : StateM State Answer) (answer : Answer) : Prop :=
  ∃ state, (question.run state).1 = answer

/-- With a journal a computation does what it does without, and adds exchanges that are
described by its result. -/
def Records
    (recording : StateM (State × List Exchange) Answer)
    (plain : StateM State Answer)
    (adds : Answer → List Exchange → Prop) : Prop :=
  ∀ state journal, ∃ exchanges,
    recording.run (state, journal) =
      ((plain.run state).1, (plain.run state).2, journal ++ exchanges) ∧
    adds (plain.run state).1 exchanges

namespace Records

theorem pure
    {adds : Answer → List Exchange → Prop}
    {answer : Answer}
    (added : adds answer []) :
    Records (Pure.pure answer) (Pure.pure answer : StateM State Answer) adds :=
  fun _ journal => ⟨[], by rw [List.append_nil]; rfl, added⟩

/-- A computation that asks nothing more leaves the exchanges before it as they are. -/
theorem pure_append
    {adds : Answer → List Exchange → Prop}
    {answer : Answer}
    {exchanges : List Exchange}
    (added : adds answer exchanges) :
    Records (Pure.pure answer) (Pure.pure answer : StateM State Answer) fun result others =>
      adds result (exchanges ++ others) :=
  Records.pure (by rwa [List.append_nil])

theorem record (exchange : Answer → Exchange) (question : StateM State Answer) :
    Records (Payment.record exchange question) question fun answer exchanges =>
      IsAnswer question answer ∧ exchanges = [exchange answer] :=
  fun state _ => ⟨_, rfl, ⟨state, rfl⟩, rfl⟩

/-- What two computations add one after the other. -/
theorem bind
    {recording : StateM (State × List Exchange) Answer}
    {plain : StateM State Answer}
    {adds : Answer → List Exchange → Prop}
    {recordingNext : Answer → StateM (State × List Exchange) Next}
    {plainNext : Answer → StateM State Next}
    {addsBoth : Next → List Exchange → Prop}
    (first : Records recording plain adds)
    (next : ∀ answer exchanges, adds answer exchanges →
      Records (recordingNext answer) (plainNext answer) fun result others =>
        addsBoth result (exchanges ++ others)) :
    Records (recording >>= recordingNext) (plain >>= plainNext) addsBoth := by
  intro state journal
  obtain ⟨exchanges, runs, added⟩ := first state journal
  obtain ⟨others, runsOn, addedBoth⟩ :=
    next _ exchanges added (plain.run state).2 (journal ++ exchanges)
  refine ⟨exchanges ++ others, ?_, addedBoth⟩
  rw [StateT.run_bind, runs, ← List.append_assoc]
  exact runsOn

theorem imp
    {recording : StateM (State × List Exchange) Answer}
    {plain : StateM State Answer}
    {adds addsMore : Answer → List Exchange → Prop}
    (records : Records recording plain adds)
    (more : ∀ answer exchanges, adds answer exchanges → addsMore answer exchanges) :
    Records recording plain addsMore := by
  intro state journal
  obtain ⟨exchanges, runs, added⟩ := records state journal
  exact ⟨exchanges, runs, more _ _ added⟩

end Records
end Recording

/-! ## One instruction -/

variable {State : Type}

/-- How an instruction comes by its dues, and what is asked for them. -/
inductive Obtains
    (services : Services State)
    (today : Date)
    (instruction : Instruction) :
    Except String (Option LoanDues) → List Exchange → Prop where
  | noLookUp
      (missing : services.lookUpDues = none)
      (needed : instruction.needsDues = true) :
      Obtains services today instruction (.error noLookupText) []
  | unneeded
      (notMissing : services.lookUpDues = none → instruction.needsDues = false)
      (notLookedUp : instruction.looksUpDues today = .ok false) :
      Obtains services today instruction (.ok none) []
  | undecided
      {error : DueError}
      (fails : instruction.looksUpDues today = .error error) :
      Obtains services today instruction (.error error.message) []
  | asked
      {lookUp : Instruction → StateM State (Except String (Option LoanDues))}
      {answer : Except String (Option LoanDues)}
      (isLookUp : services.lookUpDues = some lookUp)
      (lookedUp : instruction.looksUpDues today = .ok true)
      (isAnswer : IsAnswer (lookUp instruction) answer) :
      Obtains services today instruction answer [.lookUp instruction answer]

/-- The outcome of a transfer. -/
def transferOutcome (amount : Amount) : Except String Unit → Outcome
  | .ok () => ⟨.success, some amount, none⟩
  | .error failure => ⟨.failed, some amount, some failure⟩

/-- What becomes of an instruction with given dues, and what is asked for it. -/
inductive Settles
    (services : Services State)
    (today : Date)
    (instruction : Instruction)
    (dues : Option LoanDues) :
    Except UndefinedAmount Outcome → List Exchange → Prop where
  | undecided
      {error : DueError}
      (fails : instruction.evaluate today dues = .error error) :
      Settles services today instruction dues (.ok ⟨.error, none, some error.message⟩) []
  | undefined
      {decision : Decision}
      (evaluates : instruction.evaluate today dues = .ok decision)
      (noAnswer : decision.shouldTransfer? = none) :
      Settles services today instruction dues (.error {}) []
  | kept
      {decision : Decision}
      (evaluates : instruction.evaluate today dues = .ok decision)
      (noTransfer : decision.shouldTransfer? = some false) :
      Settles services today instruction dues (.ok ⟨.notDue, decision.amount, none⟩) []
  | transferred
      {decision : Decision}
      {amount : Amount}
      {answer : Except String Unit}
      (evaluates : instruction.evaluate today dues = .ok decision)
      (shouldTransfer : decision.shouldTransfer? = some true)
      (isAmount : decision.amount = some amount)
      (isAnswer : IsAnswer (services.transfer (instruction.request today amount)) answer) :
      Settles services today instruction dues (.ok (transferOutcome amount answer))
        [.transfer (instruction.request today amount) answer]

/-- What becomes of an instruction, and what is asked for it before the time. -/
inductive Handles
    (services : Services State)
    (today : Date)
    (instruction : Instruction) :
    Except UndefinedAmount Outcome → List Exchange → Prop where
  | refused
      {failure : String}
      {asked : List Exchange}
      (obtains : Obtains services today instruction (.error failure) asked) :
      Handles services today instruction (.ok ⟨.error, none, some failure⟩) asked
  | settled
      {dues : Option LoanDues}
      {outcome : Except UndefinedAmount Outcome}
      {asked carriedOut : List Exchange}
      (obtains : Obtains services today instruction (.ok dues) asked)
      (settles : Settles services today instruction dues outcome carriedOut) :
      Handles services today instruction outcome (asked ++ carriedOut)

/-- The result of an instruction, and all that is asked for it. -/
inductive Processes
    (services : Services State)
    (today : Date)
    (instruction : Instruction) :
    Except UndefinedAmount Result → List Exchange → Prop where
  | undefined
      {exchanges : List Exchange}
      (handles : Handles services today instruction (.error {}) exchanges) :
      Processes services today instruction (.error {}) exchanges
  | recorded
      {outcome : Outcome}
      {timestamp : Nat}
      {exchanges : List Exchange}
      (handles : Handles services today instruction (.ok outcome) exchanges) :
      Processes services today instruction
        (.ok ⟨instruction.id, outcome.status, timestamp, outcome.amount, outcome.failure⟩)
        (exchanges ++ [.clock timestamp])

section One

variable {services : Services State} {today : Date} {instruction : Instruction}

theorem outcomeOf_eq_bind (services : Services State) :
    outcomeOf services today instruction =
      duesFor services today instruction >>= fun
        | .error failure => pure (.ok ⟨.error, none, some failure⟩)
        | .ok dues => settle services today instruction dues := by
  unfold outcomeOf duesFor
  cases services.lookUpDues with
  | none => cases instruction.needsDues <;> rfl
  | some lookUp => rfl

theorem looksUpDues_of_not_needsDues (needsNone : instruction.needsDues = false) :
    instruction.looksUpDues today = .ok false := by
  simp [Instruction.looksUpDues, needsNone]

theorem needsDues_of_looksUpDues (lookedUp : instruction.looksUpDues today = .ok true) :
    instruction.needsDues = true := by
  cases needsDues : instruction.needsDues with
  | true => rfl
  | false =>
      rw [looksUpDues_of_not_needsDues needsDues] at lookedUp
      cases lookedUp

/-- Whether dues are looked up is undecided only when the instruction cannot be evaluated
without them. -/
theorem isDueOn_of_looksUpDues
    {error : DueError}
    (fails : instruction.looksUpDues today = .error error) :
    instruction.isDueOn today none = .error error := by
  unfold Instruction.looksUpDues at fails
  split at fails
  · cases fails
  · split at fails
    · cases fails
    · exact fails

/-- An instruction that needs no dues gets none, and nothing is asked for it. -/
theorem obtains_of_not_needsDues
    {obtained : Except String (Option LoanDues)}
    {asked : List Exchange}
    (needsNone : instruction.needsDues = false)
    (obtains : Obtains services today instruction obtained asked) :
    obtained = .ok none ∧ asked = [] := by
  have notLookedUp : instruction.looksUpDues today = .ok false :=
    looksUpDues_of_not_needsDues needsNone
  cases obtains with
  | noLookUp missing needed =>
      rw [needsNone] at needed
      cases needed
  | unneeded => exact ⟨rfl, rfl⟩
  | undecided fails =>
      rw [notLookedUp] at fails
      cases fails
  | asked isLookUp lookedUp isAnswer =>
      rw [notLookedUp] at lookedUp
      cases lookedUp

theorem records_duesFor :
    Records (duesFor services.recorded today instruction) (duesFor services today instruction)
      (Obtains services today instruction) := by
  unfold duesFor Services.recorded
  cases isLookUp : services.lookUpDues with
  | none =>
      apply Records.pure
      cases needsDues : instruction.needsDues with
      | true => exact .noLookUp isLookUp needsDues
      | false => exact .unneeded (fun _ => needsDues) (looksUpDues_of_not_needsDues needsDues)
  | some lookUp =>
      dsimp only [Option.map_some, obtainDues]
      cases looksUp : instruction.looksUpDues today with
      | error error => exact Records.pure (.undecided looksUp)
      | ok lookedUp =>
          cases lookedUp with
          | false =>
              have notMissing : services.lookUpDues = none → instruction.needsDues = false := by
                rw [isLookUp]
                nofun
              exact Records.pure (.unneeded notMissing looksUp)
          | true =>
              refine (Records.record _ _).imp ?_
              rintro answer _ ⟨isAnswer, rfl⟩
              exact .asked isLookUp looksUp isAnswer

theorem records_carryOut (request : TransferRequest) :
    Records (carryOut services.recorded request) (carryOut services request)
      fun outcome exchanges => ∃ answer,
        IsAnswer (services.transfer request) answer ∧
          outcome = transferOutcome request.amount answer ∧
          exchanges = [.transfer request answer] := by
  unfold carryOut
  refine (Records.record (.transfer request) (services.transfer request)).bind ?_
  rintro answer _ ⟨isAnswer, rfl⟩
  cases answer with
  | ok made => exact Records.pure ⟨.ok made, isAnswer, rfl, rfl⟩
  | error failure => exact Records.pure ⟨.error failure, isAnswer, rfl, rfl⟩

theorem records_settle (dues : Option LoanDues) :
    Records (settle services.recorded today instruction dues)
      (settle services today instruction dues) (Settles services today instruction dues) := by
  unfold settle
  cases evaluates : instruction.evaluate today dues with
  | error error => exact Records.pure (.undecided evaluates)
  | ok decision =>
      dsimp only
      cases should : decision.shouldTransfer? with
      | none => exact Records.pure (.undefined evaluates should)
      | some shouldTransfer =>
          cases shouldTransfer with
          | false => exact Records.pure (.kept evaluates should)
          | true =>
              obtain ⟨_, amount, isAmount, _⟩ :=
                Decision.shouldTransfer?_eq_some_true_iff.mp should
              rw [isAmount]
              refine (records_carryOut _).bind ?_
              rintro _ _ ⟨answer, isAnswer, rfl, rfl⟩
              exact Records.pure (.transferred evaluates should isAmount isAnswer)

theorem records_outcomeOf :
    Records (outcomeOf services.recorded today instruction)
      (outcomeOf services today instruction) (Handles services today instruction) := by
  rw [outcomeOf_eq_bind, outcomeOf_eq_bind]
  refine records_duesFor.bind ?_
  intro obtained asked obtains
  cases obtained with
  | error failure =>
      exact Records.pure_append (.refused obtains)
  | ok dues => exact (records_settle dues).imp fun _ _ settles => .settled obtains settles

theorem records_process :
    Records (process services.recorded today instruction)
      (process services today instruction) (Processes services today instruction) := by
  unfold process
  refine records_outcomeOf.bind ?_
  intro obtained exchanges handles
  cases obtained with
  | error undefined =>
      exact Records.pure_append (.undefined handles)
  | ok outcome =>
      refine (Records.record .clock services.clock).bind ?_
      rintro timestamp _ ⟨_, rfl⟩
      exact Records.pure (.recorded handles)

end One

/-! ## A batch -/

/-- The results of instructions in their order, and all that is asked for them. -/
inductive ProcessesAll (services : Services State) (today : Date) :
    List Instruction → Except UndefinedAmount (List Result) → List Exchange → Prop where
  | nil : ProcessesAll services today [] (.ok []) []
  | undefined
      {instruction : Instruction}
      {instructions : List Instruction}
      {exchanges : List Exchange}
      (first : Processes services today instruction (.error {}) exchanges) :
      ProcessesAll services today (instruction :: instructions) (.error {}) exchanges
  | cons
      {instruction : Instruction}
      {instructions : List Instruction}
      {result : Result}
      {outcome : Except UndefinedAmount (List Result)}
      {exchanges others : List Exchange}
      (first : Processes services today instruction (.ok result) exchanges)
      (rest : ProcessesAll services today instructions outcome others) :
      ProcessesAll services today (instruction :: instructions)
        (outcome.map (result :: ·)) (exchanges ++ others)

section Batch

variable {services : Services State} {today : Date}

theorem records_processAll (instructions : List Instruction) :
    Records (processAll services.recorded today instructions)
      (processAll services today instructions) (ProcessesAll services today instructions) := by
  induction instructions with
  | nil => exact Records.pure .nil
  | cons instruction instructions hypothesis =>
      rw [processAll, processAll]
      refine records_process.bind ?_
      intro processed exchanges processes
      cases processed with
      | error undefined =>
          exact Records.pure_append (.undefined processes)
      | ok result =>
          refine hypothesis.bind ?_
          intro outcome others rest
          cases outcome with
          | error undefined =>
              apply Records.pure
              rw [List.append_nil]
              exact .cons processes rest
          | ok results =>
              apply Records.pure
              rw [List.append_nil]
              exact .cons processes rest

/-- With a journal a batch does what it does without, and the journal shows what it asked
for one instruction after another. -/
theorem records_runBatch
    (services : Services State)
    (today : Date)
    (instructions : List Instruction) :
    Records (runBatch services.recorded instructions today)
      (runBatch services instructions today) fun outcome exchanges =>
        ∃ results, ProcessesAll services today instructions results exchanges ∧
          outcome = results.map (Report.mk today) := by
  unfold runBatch
  refine (records_processAll instructions).bind ?_
  intro outcome exchanges processes
  rw [← List.append_nil exchanges] at processes
  cases outcome with
  | error undefined => exact Records.pure ⟨_, processes, rfl⟩
  | ok results => exact Records.pure ⟨_, processes, rfl⟩

end Batch
end Payment
end Cadence
