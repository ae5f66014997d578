import Cadence.Proofs.Payment.Journal

/-!
# Warranted transfers

What stands behind a transfer.  Each transfer that a batch asks for is the request of one of
its instructions, which is due with the dues that were looked up for it just before, or
without dues when it needs none.  The amount is what the loan asks for when the instruction
pays dues, and its own amount otherwise.
-/

namespace Cadence
namespace Payment

open Calendar Number Scheduling

/-! ## Instructions that are due -/

namespace Instruction

variable {instruction : Instruction} {today : Date} {dues : Option LoanDues}

theorem notExpired_of_isDueOn (isDue : instruction.isDueOn today dues = .ok true) :
    ∀ last ∈ instruction.validTill, today ≤ last := by
  intro last isLast
  apply Nat.le_of_not_lt
  intro expired
  rw [isDueOn_of_expired isLast expired] at isDue
  cases isDue

/-- An instruction for the due date of a loan is due with dues for this day. -/
theorem exists_dues_of_isDueOn
    (byDues : instruction.recurrenceType = .dues)
    (isDue : instruction.isDueOn today dues = .ok true) :
    ∃ found ∈ dues, found.dueDate = some today := by
  unfold isDueOn at isDue
  split at isDue
  · cases isDue
  · rw [byDues, Except.ok.injEq, Option.any_eq_true] at isDue
    obtain ⟨found, isFound, onDay⟩ := isDue
    exact ⟨found, isFound, eq_of_beq onDay⟩

theorem needsDues_eq_true_iff :
    instruction.needsDues = true ↔
      instruction.toLoanAccount = true ∧
        (instruction.recurrenceType = .dues ∨ instruction.amountType = .dues) := by
  simp [needsDues]

theorem paysDues_eq_true_iff :
    instruction.paysDues = true ↔
      instruction.amountType = .dues ∧ instruction.toLoanAccount = true := by
  simp [paysDues]

/-- An instruction that needs dues and is due with an amount has dues. -/
theorem exists_dues_of_needsDues
    {amount : Amount}
    (needsDues : instruction.needsDues = true)
    (isDue : instruction.isDueOn today dues = .ok true)
    (isAmount : instruction.transferAmount dues = some amount) :
    ∃ found, dues = some found := by
  obtain ⟨toLoanAccount, byDues | paysDues⟩ := needsDues_eq_true_iff.mp needsDues
  · obtain ⟨found, isFound, _⟩ := exists_dues_of_isDueOn byDues isDue
    exact ⟨found, isFound⟩
  · rw [transferAmount, if_pos (paysDues_eq_true_iff.mpr ⟨paysDues, toLoanAccount⟩)] at isAmount
    obtain ⟨found, isFound, _⟩ := Option.map_eq_some_iff.mp isAmount
    exact ⟨found, isFound⟩

theorem isDueOn_of_evaluate
    {decision : Decision}
    (evaluates : instruction.evaluate today dues = .ok decision) :
    instruction.isDueOn today dues = .ok decision.due := by
  unfold evaluate at evaluates
  split at evaluates
  · cases evaluates
  · next due isDue =>
      cases evaluates
      exact isDue

end Instruction

/-! ## Places in a list -/

/-- The places of two lists one behind the other. -/
theorem forall_split_append_iff
    {Item : Type}
    {holds : List Item → Item → Prop}
    {first second : List Item} :
    (∀ before here after, first ++ second = before ++ here :: after → holds before here) ↔
      (∀ before here after, first = before ++ here :: after → holds before here) ∧
        ∀ before here after, second = before ++ here :: after →
          holds (first ++ before) here := by
  induction first generalizing holds with
  | nil => simp
  | cons item first hypothesis =>
      rw [List.cons_append, forall_split_cons_iff, hypothesis, forall_split_cons_iff, and_assoc]
      rfl

/-! ## Transfers and their reasons -/

variable {State : Type} {services : Services State} {today : Date}

/-- Behind a transfer that a batch asks for after other exchanges stands an instruction with
the dues that it was decided on with. -/
structure IsWarranted
    (services : Services State)
    (today : Date)
    (before : List Exchange)
    (request : TransferRequest)
    (instruction : Instruction)
    (dues : Option LoanDues) : Prop where
  request_eq : request = instruction.request today request.amount
  exceedsZero : request.amount.exceedsZero? = some true
  notExpired : ∀ last ∈ instruction.validTill, today ≤ last
  isDue : instruction.isDueOn today dues = .ok true
  /-- The amount of a loan is the total of its dues and nothing else. -/
  paysTotal : instruction.paysDues = true → ∃ found ∈ dues, request.amount = found.total
  paysAmount : instruction.paysDues = false → instruction.amount = some request.amount
  onDueDate : instruction.recurrenceType = .dues →
    instruction.toLoanAccount = true ∧ ∃ found ∈ dues, found.dueDate = some today
  /-- Needed dues were looked up and found just before the transfer. -/
  lookedUp : instruction.needsDues = true →
    services.lookUpDues ≠ none ∧
      ∃ found, dues = some found ∧
        before.getLast? = some (.lookUp instruction (.ok (some found)))
  notLookedUp : instruction.needsDues = false → dues = none

/-- Further exchanges in front take no reason away. -/
theorem IsWarranted.append
    {before : List Exchange}
    {request : TransferRequest}
    {instruction : Instruction}
    {dues : Option LoanDues}
    (warranted : IsWarranted services today before request instruction dues)
    (earlier : List Exchange) :
    IsWarranted services today (earlier ++ before) request instruction dues :=
  { warranted with
    lookedUp := by
      intro needsDues
      obtain ⟨configured, found, isFound, isLast⟩ := warranted.lookedUp needsDues
      refine ⟨configured, found, isFound, ?_⟩
      rw [List.getLast?_append, isLast]
      rfl }

/-- An exchange is no transfer, or a transfer that one of the instructions stands behind. -/
def IsAccounted
    (services : Services State)
    (today : Date)
    (instructions : List Instruction)
    (before : List Exchange)
    (exchange : Exchange) : Prop :=
  ∀ request answer, exchange = .transfer request answer →
    ∃ instruction ∈ instructions, ∃ dues,
      IsWarranted services today before request instruction dues

theorem IsAccounted.mono
    {instructions more : List Instruction}
    {before : List Exchange}
    {exchange : Exchange}
    (accounted : IsAccounted services today instructions before exchange)
    (included : ∀ instruction ∈ instructions, instruction ∈ more)
    (earlier : List Exchange) :
    IsAccounted services today more (earlier ++ before) exchange := by
  intro request answer isTransfer
  obtain ⟨instruction, member, dues, warranted⟩ := accounted request answer isTransfer
  exact ⟨instruction, included instruction member, dues, warranted.append earlier⟩

section One

variable {instruction : Instruction}

theorem not_transfer_of_obtains
    {obtained : Except String (Option LoanDues)}
    {asked : List Exchange}
    (obtains : Obtains services today instruction obtained asked) :
    ∀ exchange ∈ asked, ∀ request answer, exchange ≠ .transfer request answer := by
  cases obtains with
  | noLookUp | unneeded | undecided => simp
  | asked => simp

/-- Dues that are there were looked up, and only for an instruction that needs them. -/
theorem lookedUp_of_obtains
    {found : LoanDues}
    {asked : List Exchange}
    (obtains : Obtains services today instruction (.ok (some found)) asked) :
    instruction.needsDues = true ∧ services.lookUpDues ≠ none ∧
      asked = [.lookUp instruction (.ok (some found))] := by
  have needsDues : instruction.needsDues = true := by
    cases needsNone : instruction.needsDues with
    | true => rfl
    | false => cases (obtains_of_not_needsDues needsNone obtains).1
  cases obtains with
  | asked isLookUp lookedUp isAnswer =>
      refine ⟨needsDues, ?_, rfl⟩
      rw [isLookUp]
      exact Option.some_ne_none _

theorem isWarranted_of_settles
    {dues : Option LoanDues}
    {asked : List Exchange}
    {decision : Decision}
    {amount : Amount}
    (obtains : Obtains services today instruction (.ok dues) asked)
    (evaluates : instruction.evaluate today dues = .ok decision)
    (shouldTransfer : decision.shouldTransfer? = some true)
    (isAmount : decision.amount = some amount) :
    IsWarranted services today asked (instruction.request today amount) instruction dues := by
  obtain ⟨isDue, own, isOwn, exceedsZero⟩ :=
    Decision.shouldTransfer?_eq_some_true_iff.mp shouldTransfer
  have dueOn := Instruction.isDueOn_of_evaluate evaluates
  rw [isDue] at dueOn
  have moves := Instruction.amount_of_evaluate evaluates
  rw [isAmount] at isOwn moves
  cases isOwn
  refine ⟨rfl, exceedsZero, Instruction.notExpired_of_isDueOn dueOn, dueOn, ?_, ?_, ?_, ?_, ?_⟩
  · intro paysDues
    rw [Instruction.transferAmount, if_pos paysDues] at moves
    obtain ⟨found, isFound, isTotal⟩ := Option.map_eq_some_iff.mp moves.symm
    exact ⟨found, isFound, isTotal.symm⟩
  · intro paysOwn
    rw [Instruction.transferAmount, paysOwn] at moves
    exact moves.symm
  · intro byDues
    obtain ⟨found, rfl, onDay⟩ := Instruction.exists_dues_of_isDueOn byDues dueOn
    have needsDues := (lookedUp_of_obtains obtains).1
    exact ⟨(Instruction.needsDues_eq_true_iff.mp needsDues).1, found, rfl, onDay⟩
  · intro needsDues
    obtain ⟨found, rfl⟩ := Instruction.exists_dues_of_needsDues needsDues dueOn moves.symm
    obtain ⟨_, configured, rfl⟩ := lookedUp_of_obtains obtains
    exact ⟨configured, found, rfl, rfl⟩
  · exact fun needsNone => Except.ok.inj (obtains_of_not_needsDues needsNone obtains).1

/-- Exchanges without a transfer leave nothing to account for. -/
theorem isAccounted_of_not_transfer
    {asked : List Exchange}
    (noTransfer : ∀ exchange ∈ asked, ∀ request answer, exchange ≠ .transfer request answer) :
    ∀ before exchange after, asked = before ++ exchange :: after →
      IsAccounted services today [instruction] before exchange := by
  rintro before exchange after rfl request answer isTransfer
  exact absurd isTransfer (noTransfer exchange (by simp) request answer)

/-- In front of the transfer of an instruction stands just what was asked for its dues. -/
theorem isAccounted_of_handles
    {outcome : Except UndefinedAmount Outcome}
    {asked : List Exchange}
    (handles : Handles services today instruction outcome asked) :
    ∀ before exchange after, asked = before ++ exchange :: after →
      IsAccounted services today [instruction] before exchange := by
  cases handles with
  | refused obtains => exact isAccounted_of_not_transfer (not_transfer_of_obtains obtains)
  | settled obtains settles =>
      rw [forall_split_append_iff]
      refine ⟨isAccounted_of_not_transfer (not_transfer_of_obtains obtains), ?_⟩
      cases settles with
      | undecided | undefined | kept => simp
      | transferred evaluates shouldTransfer isAmount isAnswer =>
          rw [forall_split_cons_iff]
          refine ⟨?_, by simp⟩
          rintro _ _ ⟨⟩
          rw [List.append_nil]
          exact ⟨instruction, List.mem_singleton_self _, _,
            isWarranted_of_settles obtains evaluates shouldTransfer isAmount⟩

/-- What is asked for one instruction is accounted for by it. -/
theorem isAccounted_of_processes
    {processed : Except UndefinedAmount Result}
    {exchanges : List Exchange}
    (processes : Processes services today instruction processed exchanges) :
    ∀ before exchange after, exchanges = before ++ exchange :: after →
      IsAccounted services today [instruction] before exchange := by
  cases processes with
  | undefined handles => exact isAccounted_of_handles handles
  | recorded handles =>
      rw [forall_split_append_iff, forall_split_cons_iff]
      refine ⟨isAccounted_of_handles handles, ?_, by simp⟩
      rintro _ _ ⟨⟩

end One

theorem isAccounted_of_processesAll
    {instructions : List Instruction}
    {outcome : Except UndefinedAmount (List Result)}
    {exchanges : List Exchange}
    (processes : ProcessesAll services today instructions outcome exchanges) :
    ∀ before exchange after, exchanges = before ++ exchange :: after →
      IsAccounted services today instructions before exchange := by
  induction processes with
  | nil => simp
  | undefined first =>
      intro before exchange after isSplit
      exact (isAccounted_of_processes first before exchange after isSplit).mono (by simp) []
  | cons first rest hypothesis =>
      rw [forall_split_append_iff]
      constructor
      · intro before exchange after isSplit
        exact (isAccounted_of_processes first before exchange after isSplit).mono (by simp) []
      · intro before exchange after isSplit
        exact (hypothesis before exchange after isSplit).mono
          (fun _ => List.mem_cons_of_mem _) _

/-- No wrong money moves.  Whatever look-ups and transfers answer, each transfer that a batch
asks for is the request of one of its instructions: the instruction is due and has not ended,
and the amount is more than zero and is the total of the dues just looked up for it when it
pays dues into a loan account, and otherwise its own.  An instruction that needs dues makes no
request unless the look-up before it has found them. -/
theorem transfers_warranted
    (services : Services State)
    (instructions : List Instruction)
    (today : Date)
    (state : State) :
    ∃ journal,
      (runBatch services.recorded instructions today).run (state, []) =
        (((runBatch services instructions today).run state).1,
          ((runBatch services instructions today).run state).2, journal) ∧
      ∀ before request answer after, journal = before ++ .transfer request answer :: after →
        ∃ instruction ∈ instructions, ∃ dues,
          IsWarranted services today before request instruction dues := by
  obtain ⟨journal, runs, _, processes, _⟩ :=
    records_runBatch services today instructions state []
  refine ⟨journal, runs, ?_⟩
  intro before request answer after isSplit
  exact isAccounted_of_processesAll processes before _ after isSplit request answer rfl

/-- A loan with an amount of its own is paid what it asks for. -/
theorem transfers_warranted_loan :
    let monday : Date := ⟨738892, by decide⟩
    let schedule : Schedule :=
      ⟨"payments", ⟨none, monday, none, by decide⟩, []⟩
    let dues : LoanDues := ⟨some monday, .finite false 250 0⟩
    let services : Services Unit := {
      lookUpDues := some fun _ => pure (.ok (some dues))
      transfer := fun _ => pure (.ok ())
      clock := pure 0 }
    let loan : Instruction :=
      ⟨"loan", "Loan", .dues, .dues, some (.finite false 100 0), schedule, true, none⟩
    let request := loan.request monday dues.total
    ∃ journal,
      ((runBatch services.recorded [loan] monday).run ((), [])).2.2 = journal ∧
      journal = [.lookUp loan (.ok (some dues))] ++ .transfer request (.ok ()) :: [.clock 0] ∧
      ∃ instruction ∈ [loan], ∃ found,
        IsWarranted services monday [.lookUp loan (.ok (some dues))] request instruction found := by
  intro monday schedule dues services loan request
  obtain ⟨journal, runs, warranted⟩ := transfers_warranted services [loan] monday ()
  have isJournal : journal =
      [.lookUp loan (.ok (some dues))] ++ .transfer request (.ok ()) :: [.clock 0] :=
    (congrArg (fun ran => ran.2.2) runs).symm.trans rfl
  exact ⟨journal, congrArg (fun ran => ran.2.2) runs, isJournal,
    warranted _ request (.ok ()) _ isJournal⟩

end Payment
end Cadence
