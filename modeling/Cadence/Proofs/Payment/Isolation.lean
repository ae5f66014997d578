import Cadence.Payment.Batch

/-!
# Isolation of instructions

What keeps a batch going.  Dues that cannot be looked up, an instruction that cannot be
evaluated and a transfer that fails are results like any other, and the batch goes on with
the next instruction.  An instruction that is due with an amount that is not a number has
no result, and the batch ends with it.
-/

namespace Cadence
namespace Payment

open Calendar Number Scheduling

theorem Decision.shouldTransfer?_eq_none_iff {decision : Decision} :
    decision.shouldTransfer? = none ↔
      decision.due = true ∧ ∃ signaling negative payload,
        decision.amount = some (.undefined signaling negative payload) := by
  obtain ⟨instructionId, due, amount⟩ := decision
  cases due <;> cases amount <;> simp [shouldTransfer?, Amount.exceedsZero?_eq_none_iff]

theorem Instruction.amount_of_evaluate
    {instruction : Instruction}
    {today : Date}
    {dues : Option LoanDues}
    {decision : Decision}
    (evaluates : instruction.evaluate today dues = .ok decision) :
    decision.amount = instruction.transferAmount dues := by
  unfold evaluate at evaluates
  split at evaluates <;> cases evaluates
  rfl

variable {State : Type} {services : Services State} {today : Date} {state : State}

/-! ## One instruction -/

/-- The dues with which an instruction is decided on, or the text of a failure. -/
def duesFor
    (services : Services State)
    (today : Date)
    (instruction : Instruction) : StateM State (Except String (Option LoanDues)) :=
  match services.lookUpDues with
  | none => pure (if instruction.needsDues then .error noLookupText else .ok none)
  | some lookUp => obtainDues lookUp today instruction

theorem exists_lookUp_of_duesFor
    {instruction : Instruction}
    {dues : LoanDues}
    (isFound : ((duesFor services today instruction).run state).1 = .ok (some dues)) :
    ∃ lookUp ∈ services.lookUpDues,
      ((lookUp instruction).run state).1 = .ok (some dues) := by
  unfold duesFor at isFound
  split at isFound
  · split at isFound <;> cases isFound
  · next lookUp isLookUp =>
      refine ⟨lookUp, isLookUp, ?_⟩
      unfold obtainDues at isFound
      split at isFound
      · cases isFound
      · cases isFound
      · exact isFound

theorem run_outcomeOf (instruction : Instruction) :
    (outcomeOf services today instruction).run state =
      match (duesFor services today instruction).run state with
      | (.error failure, next) => (.ok ⟨.error, none, some failure⟩, next)
      | (.ok dues, next) => (settle services today instruction dues).run next := by
  unfold outcomeOf duesFor
  cases services.lookUpDues with
  | none => cases instruction.needsDues <;> rfl
  | some lookUp =>
      simp only [StateT.run_bind]
      cases ((obtainDues lookUp today instruction).run state) with
      | mk obtained next => cases obtained <;> rfl

theorem run_process (instruction : Instruction) :
    (process services today instruction).run state =
      match (outcomeOf services today instruction).run state with
      | (.error undefined, next) => (.error undefined, next)
      | (.ok outcome, next) =>
        let clock := services.clock.run next
        (.ok ⟨instruction.id, outcome.status, clock.1, outcome.amount, outcome.failure⟩,
          clock.2) := by
  unfold process
  simp only [StateT.run_bind]
  cases (outcomeOf services today instruction).run state with
  | mk outcome next => cases outcome <;> rfl

theorem run_processAll_cons (instruction : Instruction) (instructions : List Instruction) :
    (processAll services today (instruction :: instructions)).run state =
      match (process services today instruction).run state with
      | (.error undefined, next) => (.error undefined, next)
      | (.ok result, next) =>
        match (processAll services today instructions).run next with
        | (.error undefined, last) => (.error undefined, last)
        | (.ok results, last) => (.ok (result :: results), last) := by
  rw [processAll]
  simp only [StateT.run_bind]
  cases (process services today instruction).run state with
  | mk processed next =>
      cases processed with
      | error undefined => rfl
      | ok result =>
          simp only [bind, StateT.bind, StateT.run]
          cases processAll services today instructions next with
          | mk others last => cases others <;> rfl

theorem settle_eq_error_iff
    (services : Services State)
    (today : Date)
    (instruction : Instruction)
    (dues : Option LoanDues)
    (state : State) :
    ((settle services today instruction dues).run state).1 = .error {} ↔
      ∃ decision, instruction.evaluate today dues = .ok decision ∧
        decision.shouldTransfer? = none := by
  unfold settle
  cases instruction.evaluate today dues with
  | error error => simp
  | ok decision =>
      simp only [Except.ok.injEq, exists_eq_left']
      cases decision.shouldTransfer? with
      | none => exact iff_of_true rfl rfl
      | some shouldTransfer =>
          cases shouldTransfer <;> cases decision.amount <;> simp

/-- In a state of the surroundings an instruction is due with an amount that is not a
number. -/
def IsUndefinedIn
    (services : Services State)
    (today : Date)
    (state : State)
    (instruction : Instruction) : Prop :=
  ∃ dues decision,
    ((duesFor services today instruction).run state).1 = .ok dues ∧
    instruction.evaluate today dues = .ok decision ∧
    decision.due = true ∧ ∃ signaling negative payload,
      decision.amount = some (.undefined signaling negative payload)

/-- An instruction has no result exactly when it is due with an undefined amount. -/
theorem process_eq_error_iff {instruction : Instruction} :
    ((process services today instruction).run state).1 = .error {} ↔
      IsUndefinedIn services today state instruction := by
  unfold IsUndefinedIn
  rw [run_process, run_outcomeOf]
  cases (duesFor services today instruction).run state with
  | mk obtained next =>
      cases obtained with
      | error failure => simp
      | ok dues =>
          simp only [Except.ok.injEq, exists_eq_left', exists_and_left,
            ← Decision.shouldTransfer?_eq_none_iff]
          rw [← settle_eq_error_iff services today instruction dues next]
          cases (settle services today instruction dues).run next with
          | mk outcome last => cases outcome <;> simp

/-- An undefined amount is the own one of the instruction, or the total of the dues that a
look-up gives. -/
theorem IsUndefinedIn.exists_amount
    {instruction : Instruction}
    (isUndefined : IsUndefinedIn services today state instruction) :
    (∃ amount ∈ instruction.amount, amount.exceedsZero? = none) ∨
      ∃ lookUp ∈ services.lookUpDues, ∃ dues : LoanDues,
        ((lookUp instruction).run state).1 = .ok (some dues) ∧
          dues.total.exceedsZero? = none := by
  obtain ⟨dues, decision, isFound, evaluates, -, isAmount⟩ := isUndefined
  obtain ⟨signaling, negative, payload, isAmount⟩ := isAmount
  rw [Instruction.amount_of_evaluate evaluates, Instruction.transferAmount] at isAmount
  split at isAmount
  · obtain ⟨dues, rfl, isTotal⟩ := Option.map_eq_some_iff.mp isAmount
    obtain ⟨lookUp, isLookUp, gives⟩ := exists_lookUp_of_duesFor isFound
    refine Or.inr ⟨lookUp, isLookUp, dues, gives, ?_⟩
    rw [isTotal]
    rfl
  · exact Or.inl ⟨_, isAmount, rfl⟩

theorem instructionId_of_process
    {instruction : Instruction}
    {result : Result}
    (succeeds : ((process services today instruction).run state).1 = .ok result) :
    result.instructionId = instruction.id := by
  rw [run_process] at succeeds
  split at succeeds <;> cases succeeds
  rfl

/-! ## A batch -/

theorem instructionIds_of_processAll
    {instructions : List Instruction}
    {results : List Result}
    (succeeds : ((processAll services today instructions).run state).1 = .ok results) :
    results.map Result.instructionId = instructions.map Instruction.id := by
  induction instructions generalizing state results with
  | nil =>
      cases succeeds
      rfl
  | cons instruction instructions hypothesis =>
      rw [run_processAll_cons] at succeeds
      split at succeeds
      · cases succeeds
      · next result next processed =>
          split at succeeds
          · cases succeeds
          · next others last rest =>
              cases succeeds
              have first := instructionId_of_process (congrArg Prod.fst processed)
              have others := hypothesis (congrArg Prod.fst rest)
              rw [List.map_cons, List.map_cons, first, others]

/-- The rest of a batch starts in the state that its first instruction leaves. -/
theorem exists_processAll_cons_eq_ok_iff
    {instruction : Instruction}
    {instructions : List Instruction} :
    (∃ results, ((processAll services today (instruction :: instructions)).run state).1 =
        .ok results) ↔
      ¬ IsUndefinedIn services today state instruction ∧
        ∃ results, ((processAll services today instructions).run
          ((process services today instruction).run state).2).1 = .ok results := by
  rw [run_processAll_cons, ← process_eq_error_iff]
  cases (process services today instruction).run state with
  | mk processed next =>
      cases processed with
      | error undefined => simp
      | ok result =>
          dsimp only
          cases (processAll services today instructions).run next with
          | mk others last => cases others <;> simp

theorem state_of_processAll_cons
    {instruction : Instruction}
    (defined : ¬ IsUndefinedIn services today state instruction)
    (instructions : List Instruction) :
    ((processAll services today (instruction :: instructions)).run state).2 =
      ((processAll services today instructions).run
        ((process services today instruction).run state).2).2 := by
  rw [← process_eq_error_iff] at defined
  rw [run_processAll_cons]
  cases processed : (process services today instruction).run state with
  | mk outcome next =>
      rw [processed] at defined
      cases outcome with
      | error undefined => exact absurd rfl defined
      | ok result =>
          dsimp only
          cases (processAll services today instructions).run next with
          | mk others last => cases others <;> rfl

/-- The places of a list are its head and those of its tail. -/
theorem forall_split_cons_iff
    {Item : Type}
    {holds : List Item → Item → Prop}
    {item : Item}
    {items : List Item} :
    (∀ before here after, item :: items = before ++ here :: after → holds before here) ↔
      holds [] item ∧
        ∀ before here after, items = before ++ here :: after →
          holds (item :: before) here := by
  constructor
  · intro everywhere
    refine ⟨everywhere [] item items rfl, ?_⟩
    rintro before here after rfl
    exact everywhere (item :: before) here after rfl
  · rintro ⟨first, others⟩ before here after isSplit
    cases before with
    | nil =>
        cases isSplit
        exact first
    | cons head before =>
        cases isSplit
        exact others before here after rfl

/-- A batch has results exactly when no instruction is due with an undefined amount, each in
the state in which the instructions before it leave the surroundings. -/
theorem exists_processAll_eq_ok_iff {instructions : List Instruction} :
    (∃ results, ((processAll services today instructions).run state).1 = .ok results) ↔
      ∀ before instruction after, instructions = before ++ instruction :: after →
        ¬ IsUndefinedIn services today ((processAll services today before).run state).2
          instruction := by
  induction instructions generalizing state with
  | nil =>
      refine iff_of_true ⟨[], rfl⟩ ?_
      intro before instruction after isSplit
      exact absurd isSplit (by simp)
  | cons instruction instructions hypothesis =>
      rw [forall_split_cons_iff, exists_processAll_cons_eq_ok_iff, hypothesis]
      apply and_congr_right
      intro defined
      simp only [state_of_processAll_cons defined]

theorem runBatch_reports_iff
    (services : Services State)
    (instructions : List Instruction)
    (today : Date)
    (state : State) :
    (∃ report, ((runBatch services instructions today).run state).1 = .ok report ∧
        report.runDate = today ∧
        report.results.map Result.instructionId = instructions.map Instruction.id) ↔
      ∀ before instruction after, instructions = before ++ instruction :: after →
        ¬ IsUndefinedIn services today ((processAll services today before).run state).2
          instruction := by
  rw [← exists_processAll_eq_ok_iff, runBatch]
  simp only [StateT.run_bind]
  cases processed : (processAll services today instructions).run state with
  | mk outcome last =>
      cases outcome with
      | error undefined =>
          refine iff_of_false ?_ nofun
          rintro ⟨report, reports, _⟩
          cases reports
      | ok results =>
          refine iff_of_true ⟨⟨today, results⟩, rfl, rfl, ?_⟩ ⟨results, rfl⟩
          exact instructionIds_of_processAll (congrArg Prod.fst processed)

/-- A run has a report with one result for each instruction in their order, unless an
instruction is due with an amount that is not a number when its turn comes.  No failing
lookup, evaluation or transfer keeps the run from its report, and where every amount of an
instruction and every total of dues can be compared with zero nothing does. -/
theorem runBatch_reports
    (services : Services State)
    (instructions : List Instruction)
    (today : Date)
    (state : State) :
    ((∃ report, ((runBatch services instructions today).run state).1 = .ok report ∧
        report.runDate = today ∧
        report.results.map Result.instructionId = instructions.map Instruction.id) ↔
      ∀ before instruction after, instructions = before ++ instruction :: after →
        ¬ IsUndefinedIn services today ((processAll services today before).run state).2
          instruction) ∧
    ((∀ instruction ∈ instructions, ∀ amount ∈ instruction.amount,
        amount.exceedsZero? ≠ none) →
      (∀ lookUp ∈ services.lookUpDues, ∀ instruction state dues,
        ((lookUp instruction).run state).1 = .ok (some dues) →
        dues.total.exceedsZero? ≠ none) →
      ∃ report, ((runBatch services instructions today).run state).1 = .ok report ∧
        report.runDate = today ∧
        report.results.map Result.instructionId = instructions.map Instruction.id) := by
  have reports := runBatch_reports_iff services instructions today state
  refine ⟨reports, ?_⟩
  intro ownDefined totalsDefined
  rw [reports]
  rintro before instruction after rfl isUndefined
  rcases isUndefined.exists_amount with ⟨amount, isAmount, undefined⟩ | found
  · exact ownDefined instruction (by simp) amount isAmount undefined
  · obtain ⟨lookUp, isLookUp, dues, gives, undefined⟩ := found
    exact totalsDefined lookUp isLookUp instruction _ dues gives undefined

/-- A look-up of dues that fails and a transfer that fails leave each instruction with a
result. -/
theorem runBatch_reports_failures :
    let monday : Date := ⟨738892, by decide⟩
    let schedule : Schedule :=
      ⟨"payments", ⟨none, monday, none, by decide⟩, []⟩
    let services : Services Unit := {
      lookUpDues := some fun _ => pure (.error "loan service down")
      transfer := fun _ => pure (.error "no funds")
      clock := pure 0 }
    let loan : Instruction :=
      ⟨"loan", "Loan", .dues, .dues, none, schedule, true, none⟩
    let savings : Instruction :=
      ⟨"savings", "Savings", .oneOff, .fixed, some (.finite false 100 0), schedule, false, none⟩
    ∃ report, ((runBatch services [loan, savings] monday).run ()).1 = .ok report ∧
      report.runDate = monday ∧
      report.results.map Result.instructionId = ["loan", "savings"] := by
  intro monday schedule services loan savings
  refine (runBatch_reports services [loan, savings] monday ()).2 ?_ ?_
  · refine List.forall_mem_cons.mpr ⟨nofun, List.forall_mem_singleton.mpr ?_⟩
    rintro _ ⟨⟩
    decide
  · rintro _ ⟨⟩ instruction state dues gives
    cases gives

/-- A loan that is due on 8 January 2024 with a total that is not a number leaves the fixed
payment behind it without a result. -/
theorem runBatch_undefined_total :
    let monday : Date := ⟨738892, by decide⟩
    let schedule : Schedule :=
      ⟨"payments", ⟨none, monday, none, by decide⟩, []⟩
    let services : Services Unit := {
      lookUpDues := some fun _ => pure (.ok (some ⟨some monday, .undefined false false 0⟩))
      transfer := fun _ => pure (.ok ())
      clock := pure 0 }
    let loan : Instruction :=
      ⟨"loan", "Loan", .dues, .dues, none, schedule, true, none⟩
    let savings : Instruction :=
      ⟨"savings", "Savings", .oneOff, .fixed, some (.finite false 100 0), schedule, false, none⟩
    ¬ ∃ report, ((runBatch services [loan, savings] monday).run ()).1 = .ok report := by
  intro monday schedule services loan savings
  have ends : ((runBatch services [loan, savings] monday).run ()).1.isOk = false := by decide
  rintro ⟨report, reports⟩
  rw [reports] at ends
  cases ends

end Payment
end Cadence
