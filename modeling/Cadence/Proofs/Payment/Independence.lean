import Mathlib.Data.List.Perm.Basic
import Cadence.Proofs.Payment.Accounts

/-!
# Independence of instructions

Nothing is carried from one instruction of a batch to the next but the state of the
surroundings.  Where the answers of the surroundings do not depend on this state, the result of
an instruction depends on the instruction alone, the time aside: two batches in one give the
results of both, and another order gives the same results in this order.
-/

namespace Cadence
namespace Payment

open Calendar Number Scheduling

variable {State : Type}

/-! ## Answers that do not depend on the state -/

/-- A question that has one answer in all states. -/
def IsConstant {Answer : Type} (question : StateM State Answer) : Prop :=
  ∀ first second, (question.run first).1 = (question.run second).1

namespace IsConstant

variable {Answer Next : Type}

theorem pure (answer : Answer) : IsConstant (Pure.pure answer : StateM State Answer) :=
  fun _ _ => rfl

theorem bind
    {question : StateM State Answer}
    {next : Answer → StateM State Next}
    (constant : IsConstant question)
    (constantNext : ∀ answer, IsConstant (next answer)) : IsConstant (question >>= next) := by
  intro first second
  rw [StateT.run_bind, StateT.run_bind]
  change ((next (question.run first).1).run _).1 = ((next (question.run second).1).run _).1
  rw [constant first second]
  exact constantNext _ _ _

end IsConstant

/-- Surroundings whose look-ups and transfers depend on what is asked only. -/
structure Services.IsSteady (services : Services State) : Prop where
  lookUp : ∀ lookUp ∈ services.lookUpDues, ∀ instruction, IsConstant (lookUp instruction)
  transfer : ∀ request, IsConstant (services.transfer request)

namespace Services.IsSteady

variable {services : Services State} (steady : services.IsSteady) (today : Date)
variable (instruction : Instruction)
include steady

theorem isConstant_duesFor : IsConstant (duesFor services today instruction) := by
  unfold duesFor
  split
  · exact .pure _
  · next lookUp isLookUp =>
      unfold obtainDues
      split
      · exact .pure _
      · exact .pure _
      · exact steady.lookUp lookUp isLookUp instruction

theorem isConstant_carryOut (request : TransferRequest) :
    IsConstant (carryOut services request) := by
  refine (steady.transfer request).bind fun answer => ?_
  cases answer <;> exact .pure _

theorem isConstant_settle (dues : Option LoanDues) :
    IsConstant (settle services today instruction dues) := by
  unfold settle
  split
  · exact .pure _
  · split
    · exact .pure _
    · exact (steady.isConstant_carryOut _).bind fun _ => .pure _
    · exact .pure _

theorem isConstant_outcomeOf : IsConstant (outcomeOf services today instruction) := by
  rw [outcomeOf_eq_bind]
  refine (steady.isConstant_duesFor today instruction).bind fun obtained => ?_
  cases obtained with
  | error failure => exact .pure _
  | ok dues => exact steady.isConstant_settle today instruction dues

end Services.IsSteady

/-! ## Results without their time -/

/-- A result with its time taken away. -/
def Result.untimed (result : Result) : Result :=
  { result with timestamp := 0 }

/-- The results of a batch without their times. -/
def untimedResults
    (services : Services State)
    (instructions : List Instruction)
    (today : Date)
    (state : State) : Except UndefinedAmount (List Result) :=
  ((runBatch services instructions today).run state).1.map fun report =>
    report.results.map Result.untimed

/-- In all states an instruction comes to a result, the time aside. -/
def ComesTo
    (services : Services State)
    (today : Date)
    (instruction : Instruction)
    (result : Result) : Prop :=
  ∀ state, ((process services today instruction).run state).1.map Result.untimed = .ok result

/-- Items and what they are related to stand together at the places of a list of pairs. -/
theorem forall₂_zip_of_forall₂
    {Item Value : Type}
    {related : Item → Value → Prop}
    {items : List Item}
    {values : List Value}
    (areRelated : List.Forall₂ related items values) :
    List.Forall₂ (fun item pair => item = pair.1 ∧ related item pair.2) items
      (items.zip values) := by
  induction areRelated with
  | nil => exact .nil
  | cons first _ hypothesis => exact .cons ⟨rfl, first⟩ hypothesis

section Batches

variable {services : Services State} (steady : services.IsSteady) {today : Date}

theorem untimedResults_eq_processAll (instructions : List Instruction) (state : State) :
    untimedResults services instructions today state =
      ((processAll services today instructions).run state).1.map (List.map Result.untimed) := by
  unfold untimedResults runBatch
  simp only [StateT.run_bind]
  cases (processAll services today instructions).run state with
  | mk outcome last => cases outcome <;> rfl

include steady

/-- What an instruction comes to in one state, it comes to in all. -/
theorem Services.IsSteady.comesTo_of_process
    {instruction : Instruction}
    {state : State}
    {result : Result}
    (processed : ((process services today instruction).run state).1 = .ok result) :
    ComesTo services today instruction result.untimed := by
  intro other
  have constant := steady.isConstant_outcomeOf today instruction state other
  rw [run_process] at processed ⊢
  cases outcome : (outcomeOf services today instruction).run state with
  | mk answer next =>
      cases otherOutcome : (outcomeOf services today instruction).run other with
      | mk otherAnswer otherNext =>
          rw [outcome, otherOutcome] at constant
          rw [outcome] at processed
          dsimp only at constant
          subst constant
          cases answer with
          | error undefined => cases processed
          | ok found =>
              cases processed
              rfl

theorem Services.IsSteady.untimedResults_eq_ok_iff
    {instructions : List Instruction}
    {state : State}
    {results : List Result} :
    untimedResults services instructions today state = .ok results ↔
      List.Forall₂ (ComesTo services today) instructions results := by
  rw [untimedResults_eq_processAll]
  induction instructions generalizing state results with
  | nil =>
      change Except.ok [] = Except.ok results ↔ _
      rw [Except.ok.injEq, List.forall₂_nil_left_iff, eq_comm]
  | cons instruction instructions hypothesis =>
      rw [run_processAll_cons, List.forall₂_cons_left_iff]
      cases processed : (process services today instruction).run state with
      | mk answer next =>
          cases answer with
          | error undefined =>
              refine iff_of_false nofun ?_
              rintro ⟨result, others, comes, _⟩
              have comesHere := comes state
              rw [processed] at comesHere
              cases comesHere
          | ok result =>
              have comesHere := steady.comesTo_of_process (congrArg Prod.fst processed)
              have isOnly {other : Result} (comes : ComesTo services today instruction other) :
                  other = result.untimed := by
                have same := comes state
                rw [processed] at same
                exact (Except.ok.inj same).symm
              dsimp only
              cases rest : (processAll services today instructions).run next with
              | mk others last =>
                  have restComes {others : List Result} := @hypothesis next others
                  rw [rest] at restComes
                  cases others with
                  | error undefined =>
                      refine iff_of_false nofun ?_
                      rintro ⟨_, _, _, comes, _⟩
                      cases restComes.mpr comes
                  | ok others =>
                      constructor
                      · rintro ⟨⟩
                        exact ⟨_, _, comesHere, restComes.mp rfl, rfl⟩
                      · rintro ⟨first, later, comes, laterCome, rfl⟩
                        cases isOnly comes
                        cases restComes.mpr laterCome
                        rfl

/-- A batch of the instructions of two batches has the results of both, and only when both
have. -/
theorem Services.IsSteady.untimedResults_append_eq_ok_iff
    {instructions others : List Instruction}
    (state first second : State)
    {results : List Result} :
    untimedResults services (instructions ++ others) today state = .ok results ↔
      ∃ firstResults secondResults,
        untimedResults services instructions today first = .ok firstResults ∧
        untimedResults services others today second = .ok secondResults ∧
        results = firstResults ++ secondResults := by
  simp only [steady.untimedResults_eq_ok_iff]
  constructor
  · intro comes
    refine ⟨results.take instructions.length, results.drop instructions.length, ?_, ?_,
      (List.take_append_drop _ _).symm⟩
    · have flipped := List.forall₂_take_append _ instructions others comes.flip
      exact flipped.flip
    · have flipped := List.forall₂_drop_append _ instructions others comes.flip
      exact flipped.flip
  · rintro ⟨firstResults, secondResults, firstComes, secondComes, rfl⟩
    exact List.rel_append firstComes secondComes

/-- Instructions in another order have the same results in this order. -/
theorem Services.IsSteady.exists_untimedResults_of_perm
    {instructions others : List Instruction}
    (reordered : instructions.Perm others)
    {state : State}
    {results : List Result}
    (comes : untimedResults services instructions today state = .ok results)
    (other : State) :
    ∃ reorderedResults,
      untimedResults services others today other = .ok reorderedResults ∧
      (others.zip reorderedResults).Perm (instructions.zip results) := by
  rw [steady.untimedResults_eq_ok_iff] at comes
  obtain ⟨reorderedPairs, arePairs, samePairs⟩ :=
    List.perm_comp_forall₂ reordered.symm (forall₂_zip_of_forall₂ comes)
  have instructions_eq : others = reorderedPairs.map Prod.fst := by
    rw [← List.forall₂_eq_eq_eq, List.forall₂_map_right_iff]
    exact arePairs.imp fun _ _ isPair => isPair.1
  refine ⟨reorderedPairs.map Prod.snd, ?_, ?_⟩
  · rw [steady.untimedResults_eq_ok_iff, List.forall₂_map_right_iff]
    exact arePairs.imp fun _ _ isPair => isPair.2
  · rw [instructions_eq, ← List.zip_of_prod rfl rfl]
    exact samePairs

end Batches
/-! ## Batches as a whole -/

/-- A report with failures is refused with exactly these. -/
theorem Report.check_eq_error
    {report : Report}
    (failed : report.failures ≠ []) : report.check = .error ⟨report.failures⟩ := by
  unfold check
  rw [if_neg]
  rwa [List.isEmpty_iff]

/-- The accounts of a batch are exact and its instructions do not interfere.  When a run
reports, its journal is made of one part for each instruction in their order, and each part
shows one reading of the clock, which is the time of the result, and the transfer that the
instruction asks for, if any, with the answer that its status says.  The transfers made and the
failures are picked from the results in their order, and the failures are raised when there are
any.  Where look-ups and transfers depend only on what is asked, a run of two lists has the results
of a run of each, and a run in another order has the same results, the times aside. -/
theorem batch_accounts_exactly
    (services : Services State)
    (today : Date) :
    (∀ (instructions : List Instruction) (state : State), ∃ journal,
      (runBatch services.recorded instructions today).run (state, []) =
        (((runBatch services instructions today).run state).1,
          ((runBatch services instructions today).run state).2, journal) ∧
      ∀ report, ((runBatch services instructions today).run state).1 = .ok report →
        (∃ accounts : List (Result × List Exchange),
          report.results = accounts.map Prod.fst ∧
          journal = (accounts.map Prod.snd).flatten ∧
          List.Forall₂ (fun instruction account =>
            IsAccount services today instruction account.1 account.2) instructions accounts) ∧
        report.transferred =
          report.results.filter (fun result => result.status = .success) ∧
        report.failures = report.results.filter
          (fun result => result.status = .failed ∨ result.status = .error) ∧
        (report.failures = [] → report.check = .ok ()) ∧
        (report.failures ≠ [] → report.check = .error ⟨report.failures⟩)) ∧
    (services.IsSteady →
      (∀ (instructions others : List Instruction) (state first second : State)
          (results : List Result),
        untimedResults services (instructions ++ others) today state = .ok results ↔
          ∃ firstResults secondResults,
            untimedResults services instructions today first = .ok firstResults ∧
            untimedResults services others today second = .ok secondResults ∧
            results = firstResults ++ secondResults) ∧
      ∀ (instructions others : List Instruction) (state other : State)
          (results : List Result),
        instructions.Perm others →
        untimedResults services instructions today state = .ok results →
        ∃ reorderedResults,
          untimedResults services others today other = .ok reorderedResults ∧
          (others.zip reorderedResults).Perm (instructions.zip results)) := by
  refine ⟨?_, fun steady => ⟨?_, ?_⟩⟩
  · intro instructions state
    obtain ⟨journal, runs, results, processes, isReport⟩ :=
      records_runBatch services today instructions state []
    refine ⟨journal, runs, ?_⟩
    intro report reports
    rw [isReport] at reports
    cases results with
    | error undefined => cases reports
    | ok results =>
        cases reports
        refine ⟨exists_accounts_of_processesAll processes rfl, rfl, ?_, ?_,
          Report.check_eq_error⟩
        · unfold Report.failures
          apply List.filter_congr
          intro result _
          unfold Result.isFailure
          cases result.status <;> rfl
        · intro noFailures
          unfold Report.check
          rw [noFailures]
          rfl
  · intro instructions others state first second results
    exact steady.untimedResults_append_eq_ok_iff state first second
  · intro instructions others state other results reordered comes
    exact steady.exists_untimedResults_of_perm reordered comes other

/-- A loan that is paid what it asks for and savings whose transfer fails, with a clock that
ticks, together and in the other order. -/
theorem batch_accounts_exactly_loanAndSavings :
    let monday : Date := ⟨738892, by decide⟩
    let schedule : Schedule :=
      ⟨"payments", ⟨none, monday, none, by decide⟩, []⟩
    let dues : LoanDues := ⟨some monday, .finite false 250 0⟩
    let services : Services Nat := {
      lookUpDues := some fun _ => pure (.ok (some dues))
      transfer := fun request =>
        pure (if request.toLoanAccount then .ok () else .error "no funds")
      clock := fun ticks => (ticks, ticks + 1) }
    let loan : Instruction :=
      ⟨"loan", "Loan", .dues, .dues, none, schedule, true, none⟩
    let savings : Instruction :=
      ⟨"savings", "Savings", .oneOff, .fixed, some (.finite false 100 0), schedule, false, none⟩
    (∃ report, ((runBatch services [loan, savings] monday).run 7).1 = .ok report ∧
      (∃ accounts : List (Result × List Exchange),
        report.results = accounts.map Prod.fst ∧
        List.Forall₂ (fun instruction account =>
          IsAccount services monday instruction account.1 account.2) [loan, savings]
          accounts) ∧
      report.failures ≠ [] ∧ report.check = .error ⟨report.failures⟩) ∧
    services.IsSteady ∧
    ∃ results reorderedResults,
      untimedResults services ([loan] ++ [savings]) monday 7 = .ok results ∧
      [loan, savings].Perm [savings, loan] ∧
      untimedResults services [savings, loan] monday 9 = .ok reorderedResults ∧
      ([savings, loan].zip reorderedResults).Perm ([loan, savings].zip results) := by
  intro monday schedule dues services loan savings
  obtain ⟨accounting, independence⟩ := batch_accounts_exactly services monday
  have steady : services.IsSteady := by
    refine ⟨?_, fun request first second => rfl⟩
    rintro _ ⟨⟩ instruction first second
    rfl
  obtain ⟨concatenates, reorders⟩ := independence steady
  refine ⟨?_, steady, ?_⟩
  · obtain ⟨journal, _, reported⟩ := accounting [loan, savings] 7
    obtain ⟨⟨accounts, results_eq, _, areAccounts⟩, _, _, _, refused⟩ := reported _ rfl
    exact ⟨_, rfl, ⟨accounts, results_eq, areAccounts⟩, by decide, refused (by decide)⟩
  · have together := (concatenates [loan] [savings] 7 3 5 _).mpr ⟨_, _, rfl, rfl, rfl⟩
    have swapped : [loan, savings].Perm [savings, loan] := List.Perm.swap ..
    obtain ⟨reorderedResults, reordered, samePairs⟩ :=
      reorders [loan, savings] [savings, loan] 7 9 _ swapped together
    exact ⟨_, reorderedResults, together, swapped, reordered, samePairs⟩

end Payment
end Cadence
