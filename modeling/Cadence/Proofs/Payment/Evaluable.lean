import Cadence.Proofs.Payment.Journal
import Cadence.Proofs.Scheduling.Listed

/-!
# Instructions that can be evaluated

An instruction whose recurrence type has a meaning, whose rules are of supported frequencies
and whose amount can be compared with zero gives a decision on every day.  In a batch it has an
error only when the dues that it needs cannot be obtained.
-/

namespace Cadence
namespace Payment

open Calendar Number Scheduling

/-- Nothing in an instruction keeps it from a decision. -/
structure Instruction.IsEvaluable (instruction : Instruction) : Prop where
  recurs : ∀ name, instruction.recurrenceType ≠ .unknown name
  supported : ∀ period ∈ instruction.schedule.periods, period.IsSupported
  comparable : ∀ amount ∈ instruction.amount, amount.exceedsZero? ≠ none

namespace Instruction.IsEvaluable

variable {instruction : Instruction} (evaluable : instruction.IsEvaluable) (today : Date)
include evaluable

theorem exists_isDueOn_eq_ok (dues : Option LoanDues) :
    ∃ due, instruction.isDueOn today dues = .ok due := by
  unfold isDueOn
  split
  · exact ⟨false, rfl⟩
  · cases isType : instruction.recurrenceType with
    | periodic =>
        obtain ⟨occurs, isAnswer⟩ :=
          Schedule.exists_isOccurrenceOn_eq_ok evaluable.supported .none today
        exact ⟨occurs, by rw [isAnswer]⟩
    | dues => exact ⟨_, rfl⟩
    | oneOff => exact ⟨_, rfl⟩
    | unknown name => exact absurd isType (evaluable.recurs name)

/-- The amount of an instruction is its own one or the total of its dues. -/
theorem transferAmount_comparable
    {dues : Option LoanDues}
    (totalComparable : ∀ found ∈ dues, found.total.exceedsZero? ≠ none) :
    ∀ amount ∈ instruction.transferAmount dues, amount.exceedsZero? ≠ none := by
  unfold transferAmount
  split
  · intro amount isTotal
    obtain ⟨found, isFound, rfl⟩ := Option.map_eq_some_iff.mp isTotal
    exact totalComparable found isFound
  · exact evaluable.comparable

/-- Evaluation and the comparison of the amount with zero both have a result. -/
theorem exists_evaluate_eq_ok
    {dues : Option LoanDues}
    (totalComparable : ∀ found ∈ dues, found.total.exceedsZero? ≠ none) :
    ∃ decision, instruction.evaluate today dues = .ok decision ∧
      decision.shouldTransfer? ≠ none := by
  obtain ⟨due, isDue⟩ := evaluable.exists_isDueOn_eq_ok today dues
  refine ⟨⟨instruction.id, due, instruction.transferAmount dues⟩, ?_, ?_⟩
  · unfold evaluate
    rw [isDue]
  · intro undefined
    obtain ⟨_, signaling, negative, payload, isAmount⟩ :=
      Decision.shouldTransfer?_eq_none_iff.mp undefined
    exact evaluable.transferAmount_comparable totalComparable _ isAmount rfl

end Instruction.IsEvaluable

/-! ## In a batch -/

variable {State : Type} {services : Services State} {today : Date} {state : State}

/-- An instruction needs dues that cannot be looked up, or whose look-up fails. -/
def LacksDues (services : Services State) (state : State) (instruction : Instruction) : Prop :=
  instruction.needsDues = true ∧
    (services.lookUpDues = none ∨
      ∃ lookUp ∈ services.lookUpDues, ∃ failure,
        ((lookUp instruction).run state).1 = .error failure)

/-- Only an instruction that cannot be evaluated fails before its dues are looked up. -/
theorem Instruction.IsEvaluable.lacksDues_of_duesFor
    {instruction : Instruction}
    (evaluable : instruction.IsEvaluable)
    {failure : String}
    (fails : ((duesFor services today instruction).run state).1 = .error failure) :
    LacksDues services state instruction := by
  unfold duesFor at fails
  cases isLookUp : services.lookUpDues with
  | none =>
      rw [isLookUp] at fails
      dsimp only at fails
      split at fails
      · next needed => exact ⟨needed, Or.inl isLookUp⟩
      · cases fails
  | some lookUp =>
      rw [isLookUp] at fails
      dsimp only at fails
      unfold obtainDues at fails
      cases looks : instruction.looksUpDues today with
      | error error =>
          obtain ⟨due, isDue⟩ := evaluable.exists_isDueOn_eq_ok today none
          rw [isDueOn_of_looksUpDues looks] at isDue
          cases isDue
      | ok looksUp =>
          rw [looks] at fails
          cases looksUp with
          | false => cases fails
          | true =>
              exact ⟨needsDues_of_looksUpDues looks, Or.inr ⟨lookUp, isLookUp, failure, fails⟩⟩

/-- A transfer, whatever comes of it, is no error. -/
theorem status_of_settle
    {instruction : Instruction}
    {dues : Option LoanDues}
    {decision : Decision}
    (evaluates : instruction.evaluate today dues = .ok decision)
    {outcome : Outcome}
    (settles : ((settle services today instruction dues).run state).1 = .ok outcome) :
    outcome.status ≠ .error := by
  unfold settle at settles
  rw [evaluates] at settles
  dsimp only at settles
  split at settles
  · cases settles
  · next amount _ _ =>
      unfold carryOut at settles
      simp only [StateT.run_bind] at settles
      cases transferred : (services.transfer (instruction.request today amount)).run state with
      | mk answer next =>
          rw [transferred] at settles
          cases answer <;> cases settles <;> nofun
  · cases settles
    nofun

theorem lacksDues_of_process
    {instruction : Instruction}
    (evaluable : instruction.IsEvaluable)
    (totalsComparable : ∀ lookUp ∈ services.lookUpDues, ∀ instruction state dues,
      ((lookUp instruction).run state).1 = .ok (some dues) →
      dues.total.exceedsZero? ≠ none)
    {result : Result}
    (processed : ((process services today instruction).run state).1 = .ok result)
    (isError : result.status = .error) : LacksDues services state instruction := by
  rw [run_process, run_outcomeOf] at processed
  cases obtained : (duesFor services today instruction).run state with
  | mk answer next =>
      rw [obtained] at processed
      cases answer with
      | error failure => exact evaluable.lacksDues_of_duesFor (congrArg Prod.fst obtained)
      | ok dues =>
          have totalComparable : ∀ found ∈ dues, found.total.exceedsZero? ≠ none := by
            rintro found rfl
            obtain ⟨lookUp, isLookUp, gives⟩ :=
              exists_lookUp_of_duesFor (congrArg Prod.fst obtained)
            exact totalsComparable lookUp isLookUp instruction state found gives
          obtain ⟨decision, evaluates, _⟩ :=
            evaluable.exists_evaluate_eq_ok today totalComparable
          dsimp only at processed
          split at processed
          · cases processed
          · next outcome last settles =>
              cases processed
              exact absurd isError
                (status_of_settle evaluates (congrArg Prod.fst settles))

/-- The result at the place of an instruction is its own. -/
theorem exists_process_of_processAll
    {before after : List Instruction}
    {instruction : Instruction}
    {results : List Result}
    (succeeds : ((processAll services today (before ++ instruction :: after)).run state).1 =
      .ok results) :
    ∃ result, results[before.length]? = some result ∧
      ((process services today instruction).run
        ((processAll services today before).run state).2).1 = .ok result := by
  induction before generalizing state results with
  | nil =>
      rw [List.nil_append, run_processAll_cons] at succeeds
      split at succeeds
      · cases succeeds
      · next result next processed =>
          split at succeeds
          · cases succeeds
          · cases succeeds
            exact ⟨result, rfl, congrArg Prod.fst processed⟩
  | cons first before hypothesis =>
      have defined : ¬ IsUndefinedIn services today state first :=
        (exists_processAll_cons_eq_ok_iff.mp ⟨results, succeeds⟩).1
      rw [List.cons_append, run_processAll_cons] at succeeds
      rw [state_of_processAll_cons defined]
      split at succeeds
      · cases succeeds
      · next _ next processed =>
          rw [processed]
          split at succeeds
          · cases succeeds
          · next others last rest =>
              cases succeeds
              exact hypothesis (congrArg Prod.fst rest)

/-- Where every instruction can be evaluated and every total of dues compared with zero, a run
reports, and an error says that an instruction lacks the dues that it needs. -/
theorem runBatch_of_isEvaluable
    {instructions : List Instruction}
    (evaluable : ∀ instruction ∈ instructions, instruction.IsEvaluable)
    (totalsComparable : ∀ lookUp ∈ services.lookUpDues, ∀ instruction state dues,
      ((lookUp instruction).run state).1 = .ok (some dues) →
      dues.total.exceedsZero? ≠ none)
    (today : Date)
    (state : State) :
    ∃ report, ((runBatch services instructions today).run state).1 = .ok report ∧
      ∀ before instruction after, instructions = before ++ instruction :: after →
        ∃ result, report.results[before.length]? = some result ∧
          (result.status = .error →
            LacksDues services ((processAll services today before).run state).2
              instruction) := by
  obtain ⟨results, succeeds⟩ :
      ∃ results, ((processAll services today instructions).run state).1 = .ok results := by
    rw [exists_processAll_eq_ok_iff]
    rintro before instruction after rfl isUndefined
    rcases isUndefined.exists_amount with ⟨amount, isAmount, undefined⟩ | found
    · exact (evaluable instruction (by simp)).comparable amount isAmount undefined
    · obtain ⟨lookUp, isLookUp, dues, gives, undefined⟩ := found
      exact totalsComparable lookUp isLookUp instruction _ dues gives undefined
  refine ⟨⟨today, results⟩, ?_, ?_⟩
  · unfold runBatch
    simp only [StateT.run_bind]
    cases processed : (processAll services today instructions).run state with
    | mk outcome last =>
        rw [processed] at succeeds
        cases succeeds
        rfl
  · rintro before instruction after rfl
    obtain ⟨result, isResult, processed⟩ := exists_process_of_processAll succeeds
    exact ⟨result, isResult,
      lacksDues_of_process (evaluable instruction (by simp)) totalsComparable processed⟩

end Payment
end Cadence
