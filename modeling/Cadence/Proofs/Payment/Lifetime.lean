import Cadence.Proofs.Payment.Warrant
import Cadence.Proofs.Scheduling.Answers

/-!
# Lifetimes of instructions

Between which days an instruction is due.  Nothing is due behind the last day of an
instruction, and an instruction that follows its schedule or runs once is not due before its
schedule starts.  An instruction that follows the due date of a loan is due on that date
wherever its schedule starts.
-/

namespace Cadence
namespace Payment

open Calendar Number Scheduling

namespace Instruction

variable {instruction : Instruction} {today : Date} {dues : Option LoanDues}

/-- Only the due date of a loan makes an instruction due before its schedule starts. -/
theorem startDate_le_of_isDueOn
    (notByDues : instruction.recurrenceType ≠ .dues)
    (isDue : instruction.isDueOn today dues = .ok true) :
    instruction.schedule.startDate ≤ today := by
  unfold isDueOn at isDue
  split at isDue
  · cases isDue
  · split at isDue
    · split at isDue
      · cases isDue
      · next answers =>
          cases isDue
          exact Schedule.startDate_le_of_isOccurrenceOn answers
    · next byDues => exact absurd byDues notByDues
    · rw [Except.ok.injEq, beq_iff_eq] at isDue
      rw [isDue]
      exact Schedule.startDate_le_of_mem_periods
        (List.mem_append_right _ (List.mem_singleton_self _))
    · cases isDue

/-- An instruction for the due date of a loan is due on it up to its last day. -/
theorem isDueOn_of_dues_iff (byDues : instruction.recurrenceType = .dues) :
    instruction.isDueOn today dues = .ok true ↔
      (∀ last ∈ instruction.validTill, today ≤ last) ∧
        ∃ found ∈ dues, found.dueDate = some today := by
  constructor
  · exact fun isDue => ⟨notExpired_of_isDueOn isDue, exists_dues_of_isDueOn byDues isDue⟩
  · rintro ⟨notExpired, found, isFound, onDay⟩
    have goesOn : (instruction.validTill.any fun last => decide (last < today)) = false := by
      rw [Option.any_eq_false]
      intro last isLast
      exact decide_eq_false (Nat.not_lt_of_le (notExpired last isLast))
    cases isFound
    unfold isDueOn
    rw [goesOn, byDues]
    simp [onDay]

end Instruction

/-- Nothing is due behind its last day, and nothing that follows its schedule or runs once is
due before its schedule starts; so no batch asks for such a transfer.  An instruction that
follows the due date of a loan is due on this date, up to its last day and with no regard to
the start of its schedule. -/
theorem isDueOn_within_life
    {State : Type}
    (services : Services State)
    (instructions : List Instruction)
    (today : Date)
    (state : State) :
    (∀ (instruction : Instruction) dues, instruction.isDueOn today dues = .ok true →
      (∀ last ∈ instruction.validTill, today ≤ last) ∧
        (instruction.recurrenceType ≠ .dues → instruction.schedule.startDate ≤ today)) ∧
    (∀ (instruction : Instruction) dues, instruction.recurrenceType = .dues →
      (instruction.isDueOn today dues = .ok true ↔
        (∀ last ∈ instruction.validTill, today ≤ last) ∧
          ∃ found ∈ dues, found.dueDate = some today)) ∧
    ∃ journal,
      (runBatch services.recorded instructions today).run (state, []) =
        (((runBatch services instructions today).run state).1,
          ((runBatch services instructions today).run state).2, journal) ∧
      ∀ request ∈ requestsOf journal, ∃ instruction ∈ instructions,
        request = instruction.request today request.amount ∧
          (∀ last ∈ instruction.validTill, today ≤ last) ∧
          (instruction.recurrenceType ≠ .dues → instruction.schedule.startDate ≤ today) := by
  refine ⟨?_, fun _ _ => Instruction.isDueOn_of_dues_iff, ?_⟩
  · exact fun _ _ isDue => ⟨Instruction.notExpired_of_isDueOn isDue,
      fun notByDues => Instruction.startDate_le_of_isDueOn notByDues isDue⟩
  · obtain ⟨journal, runs, _, processes, _⟩ :=
      records_runBatch services today instructions state []
    refine ⟨journal, runs, ?_⟩
    intro request requested
    obtain ⟨before, answer, after, isSplit⟩ := mem_requestsOf.mp requested
    obtain ⟨instruction, member, dues, warranted⟩ :=
      isAccounted_of_processesAll processes before _ after isSplit request answer rfl
    exact ⟨instruction, member, warranted.request_eq, warranted.notExpired,
      fun notByDues => Instruction.startDate_le_of_isDueOn notByDues warranted.isDue⟩

/-- A single payment of 8 January 2024 is due on this day, and neither before its schedule
starts nor behind its last day. -/
theorem isDueOn_within_life_oneOff :
    let monday : Date := ⟨738892, by decide⟩
    let schedule : Schedule :=
      ⟨"payments", ⟨none, monday, none, by decide⟩, []⟩
    let services : Services Unit := ⟨none, fun _ => pure (.ok ()), pure 0⟩
    let savings : Instruction :=
      ⟨"savings", "Savings", .oneOff, .fixed, some (.finite false 100 0), schedule, false,
        some monday⟩
    savings.isDueOn monday none = .ok true ∧
      savings.recurrenceType ≠ .dues ∧
      (∀ last ∈ savings.validTill, monday ≤ last) ∧
      savings.schedule.startDate ≤ monday ∧
      ∃ journal, ((runBatch services.recorded [savings] monday).run ((), [])).2.2 = journal ∧
        ∀ request ∈ requestsOf journal, ∃ instruction ∈ [savings],
          request = instruction.request monday request.amount ∧
            (∀ last ∈ instruction.validTill, monday ≤ last) ∧
            (instruction.recurrenceType ≠ .dues → instruction.schedule.startDate ≤ monday) := by
  intro monday schedule services savings
  obtain ⟨within, _, journal, runs, requests⟩ :=
    isDueOn_within_life services [savings] monday ()
  have isDue : savings.isDueOn monday none = .ok true := rfl
  have notByDues : savings.recurrenceType ≠ .dues := nofun
  obtain ⟨notExpired, started⟩ := within savings none isDue
  exact ⟨isDue, notByDues, notExpired, started notByDues, journal,
    congrArg (fun ran => ran.2.2) runs, requests⟩

/-- A loan that asks for money on 15 January 2024 is paid on this day by an instruction whose
schedule starts on 1 June 2024. -/
theorem isDueOn_before_start :
    let today : Date := ⟨738899, by decide⟩
    let opening : Date := ⟨739037, by decide⟩
    let schedule : Schedule :=
      ⟨"payments", ⟨none, opening, none, by decide⟩, []⟩
    let dues : LoanDues := ⟨some today, .finite false 25000 (-2)⟩
    let services : Services Unit :=
      ⟨some fun _ => pure (.ok (some dues)), fun _ => pure (.ok ()), pure 0⟩
    let loan : Instruction :=
      ⟨"loan", "Loan", .dues, .dues, none, schedule, true, none⟩
    loan.isDueOn today (some dues) = .ok true ∧
      ¬ loan.schedule.startDate ≤ today ∧
      requestsOf ((runBatch services.recorded [loan] today).run ((), [])).2.2 =
        [loan.request today dues.total] := by
  intro today opening schedule dues services loan
  refine ⟨rfl, ?_, rfl⟩
  decide

end Payment
end Cadence
