import Cadence.Proofs.Payment.Journal
import Cadence.Proofs.Scheduling.Listed

/-!
# Payments of a schedule

A batch on every day of a stretch of time.  An instruction with a schedule and an amount of
its own is paid on exactly those days that the listing of its schedule shows and that are not
behind its last day, once on each of them.
-/

namespace Cadence
namespace Payment

open Calendar Number Scheduling

/-! ## One day -/

namespace Instruction

variable {instruction : Instruction} {today : Date}

/-- An instruction with a schedule is due on its occurrences up to its last day. -/
theorem isDueOn_of_periodic
    {occurs : Bool}
    (periodic : instruction.recurrenceType = .periodic)
    (answers : instruction.schedule.isOccurrenceOn .none today = .ok occurs)
    (dues : Option LoanDues) :
    instruction.isDueOn today dues =
      .ok (occurs && instruction.validTill.all fun last => decide (today ≤ last)) := by
  unfold isDueOn
  rw [periodic, answers]
  cases instruction.validTill with
  | none => simp
  | some last =>
      by_cases expired : last < today
      · have notUpTo : ¬ today ≤ last := Nat.not_le_of_lt expired
        simp [expired, notUpTo]
      · have upTo : today ≤ last := Nat.le_of_not_lt expired
        simp [expired, upTo]

/-- An instruction with an amount of its own moves it when it is due. -/
theorem evaluate_of_fixed
    {due : Bool}
    {amount : Amount}
    (fixed : instruction.amountType = .fixed)
    (isAmount : instruction.amount = some amount)
    (answers : instruction.isDueOn today none = .ok due) :
    instruction.evaluate today none = .ok ⟨instruction.id, due, some amount⟩ := by
  simp [evaluate, answers, transferAmount, paysDues, fixed, isAmount]

theorem needsDues_of_periodic_of_fixed
    (periodic : instruction.recurrenceType = .periodic)
    (fixed : instruction.amountType = .fixed) : instruction.needsDues = false := by
  simp [needsDues, periodic, fixed]

end Instruction

variable {State : Type} {services : Services State}

section Fixed

variable {instruction : Instruction} {amount : Amount} {today : Date} {due : Bool}
variable (needsNone : instruction.needsDues = false)
variable (positive : amount.exceedsZero? = some true)
variable (succeeds : ∀ request state, ((services.transfer request).run state).1 = .ok ())
variable (decides : instruction.evaluate today none = .ok ⟨instruction.id, due, some amount⟩)
include needsNone positive succeeds decides

/-- An instruction that needs no dues is paid its amount when it is due, and not otherwise. -/
theorem handles_of_evaluate
    {outcome : Except UndefinedAmount Outcome}
    {asked : List Exchange}
    (handles : Handles services today instruction outcome asked) :
    ∃ made, outcome = .ok made ∧
      made.status = (if due then .success else .notDue) ∧
      requestsOf asked = if due then [instruction.request today amount] else [] := by
  have should : (⟨instruction.id, due, some amount⟩ : Decision).shouldTransfer? = some due := by
    cases due with
    | false => rfl
    | true => exact positive
  cases handles with
  | refused obtains => cases (obtains_of_not_needsDues needsNone obtains).1
  | settled obtains settles =>
      obtain ⟨isNone, rfl⟩ := obtains_of_not_needsDues needsNone obtains
      cases isNone
      cases settles with
      | undecided fails =>
          rw [decides] at fails
          cases fails
      | undefined evaluates noAnswer =>
          cases decides.symm.trans evaluates
          cases should.symm.trans noAnswer
      | kept evaluates noTransfer =>
          cases decides.symm.trans evaluates
          cases should.symm.trans noTransfer
          exact ⟨_, rfl, rfl, rfl⟩
      | transferred evaluates shouldTransfer isAmount isAnswer =>
          cases decides.symm.trans evaluates
          cases should.symm.trans shouldTransfer
          cases isAmount
          obtain ⟨state, rfl⟩ := isAnswer
          rw [succeeds]
          exact ⟨_, rfl, rfl, rfl⟩

theorem processes_of_evaluate
    {processed : Except UndefinedAmount Result}
    {exchanges : List Exchange}
    (processes : Processes services today instruction processed exchanges) :
    ∃ result, processed = .ok result ∧
      result.status = (if due then .success else .notDue) ∧
      requestsOf exchanges = if due then [instruction.request today amount] else [] := by
  cases processes with
  | undefined handles =>
      obtain ⟨_, isOutcome, _⟩ :=
        handles_of_evaluate needsNone positive succeeds decides handles
      cases isOutcome
  | recorded handles =>
      obtain ⟨made, isOutcome, isStatus, requests⟩ :=
        handles_of_evaluate needsNone positive succeeds decides handles
      cases isOutcome
      refine ⟨_, rfl, isStatus, ?_⟩
      rw [requestsOf_append, requests]
      exact List.append_nil _

/-- A batch of one such instruction reports its payment. -/
theorem records_runBatch_singleton :
    Records (runBatch services.recorded [instruction] today)
      (runBatch services [instruction] today) fun outcome exchanges =>
        ∃ report, outcome = .ok report ∧ report.runDate = today ∧
          report.results.map Result.status = [if due then .success else .notDue] ∧
          requestsOf exchanges = if due then [instruction.request today amount] else [] := by
  refine (records_runBatch services today [instruction]).imp ?_
  rintro _ exchanges ⟨results, processes, rfl⟩
  cases processes with
  | undefined first =>
      obtain ⟨_, isResult, _⟩ :=
        processes_of_evaluate needsNone positive succeeds decides first
      cases isResult
  | cons first rest =>
      obtain ⟨_, isResult, isStatus, requests⟩ :=
        processes_of_evaluate needsNone positive succeeds decides first
      cases isResult
      cases rest
      refine ⟨_, rfl, rfl, ?_, ?_⟩
      · rw [← isStatus]
        rfl
      · rw [List.append_nil, requests]

end Fixed

/-! ## A stretch of days -/

/-- Batches on several days pay an instruction on those days on which it is due. -/
theorem records_mapM_runBatch
    {instruction : Instruction}
    {amount : Amount}
    {due : Date → Bool}
    {days : List Date}
    (needsNone : instruction.needsDues = false)
    (positive : amount.exceedsZero? = some true)
    (succeeds : ∀ request state, ((services.transfer request).run state).1 = .ok ())
    (decides : ∀ day ∈ days,
      instruction.evaluate day none = .ok ⟨instruction.id, due day, some amount⟩) :
    Records (days.mapM (runBatch services.recorded [instruction]))
      (days.mapM (runBatch services [instruction])) fun outcomes exchanges =>
        ∃ reports : List Report, outcomes = reports.map .ok ∧
          (reports.map fun report => (report.runDate, report.results.map Result.status)) =
            (days.map fun day => (day, [if due day then .success else .notDue])) ∧
          requestsOf exchanges =
            (days.filter due).map fun day => instruction.request day amount := by
  induction days with
  | nil => exact Records.pure ⟨[], rfl, rfl, rfl⟩
  | cons day days hypothesis =>
      rw [List.forall_mem_cons] at decides
      rw [List.mapM_cons, List.mapM_cons]
      refine (records_runBatch_singleton needsNone positive succeeds decides.1).bind ?_
      rintro _ exchanges ⟨report, rfl, isDay, isStatus, requests⟩
      refine (hypothesis decides.2).bind ?_
      rintro _ others ⟨reports, rfl, areDays, otherRequests⟩
      apply Records.pure
      refine ⟨report :: reports, rfl, ?_, ?_⟩
      · rw [List.map_cons, List.map_cons, areDays, isDay, isStatus]
      · rw [List.append_nil, requestsOf_append, requests, otherRequests, List.filter_cons]
        cases due day <;> rfl

/-- A batch of one instruction on every day from one to another pays exactly the scheduled
dates.  The instruction has a schedule of supported rules that do not overlap and a positive
amount of its own.  On each date that the listing of its schedule shows, up to its last day,
there is one transfer of its amount, with a success in the report of the day; on the other
days there is none. -/
theorem daily_batches_pay_occurrences
    (services : Services State)
    (succeeds : ∀ request state, ((services.transfer request).run state).1 = .ok ())
    (instruction : Instruction)
    (periodic : instruction.recurrenceType = .periodic)
    (fixed : instruction.amountType = .fixed)
    {amount : Amount}
    (isAmount : instruction.amount = some amount)
    (positive : amount.exceedsZero? = some true)
    (supported : ∀ period ∈ instruction.schedule.periods, period.IsSupported)
    (noOverlap : instruction.schedule.NoOverlap)
    (opening : Date)
    {closing : Date}
    (inside : closing < Date.last)
    (state : State) :
    let days := Date.between opening.dayNumber (closing.dayNumber + 1)
    ∃ (dates : List Date) (reports : List Report) (final : State) (journal : List Exchange),
      instruction.schedule.occurrences .automatic true opening closing = .ok dates ∧
      let paid := dates.filter fun date =>
        instruction.validTill.all fun last => decide (date ≤ last)
      (days.mapM (runBatch services [instruction])).run state =
        (reports.map .ok, final) ∧
      (days.mapM (runBatch services.recorded [instruction])).run (state, []) =
        (reports.map .ok, final, journal) ∧
      requestsOf journal = (paid.map fun date => instruction.request date amount) ∧
      (reports.map fun report => (report.runDate, report.results.map Result.status)) =
        days.map fun day => (day, [if day ∈ paid then .success else .notDue]) := by
  intro days
  obtain ⟨dates, isList, ascending, members⟩ :=
    instruction.schedule.exists_occurrences_eq_ok supported opening inside
  let paid := dates.filter fun date =>
    instruction.validTill.all fun last => decide (date ≤ last)
  have dueOn (day : Date) (isDay : day ∈ days) :
      instruction.isDueOn day none = .ok (decide (day ∈ paid)) := by
    have bounds := Date.mem_between.mp isDay
    obtain ⟨occurs, answers⟩ :=
      Schedule.exists_isOccurrenceOn_eq_ok supported Recurrence.Limits.none day
    have listed : day ∈ dates ↔ occurs = true := by
      rw [members, ← Schedule.isOccurrenceOn_eq_true_iff noOverlap, answers, Except.ok.injEq]
      apply and_iff_right
      exact ⟨bounds.1, Nat.le_of_lt_succ bounds.2⟩
    rw [Instruction.isDueOn_of_periodic periodic answers]
    congr 1
    rw [Bool.eq_iff_iff, Bool.and_eq_true, decide_eq_true_eq, List.mem_filter, listed]
  have paidDays : days.filter (fun day => decide (day ∈ paid)) = paid := by
    apply eq_of_ascending ((Date.pairwise_between _ _).filter _) (ascending.filter _)
    intro date
    rw [List.mem_filter, decide_eq_true_eq, and_iff_right_iff_imp]
    intro isPaid
    have bounds := ((members date).mp (List.mem_filter.mp isPaid).1).1
    exact Date.mem_between.mpr ⟨bounds.1, Nat.lt_succ_of_le bounds.2⟩
  obtain ⟨journal, runs, reports, areReports, areDays, requests⟩ :=
    records_mapM_runBatch (Instruction.needsDues_of_periodic_of_fixed periodic fixed) positive
      succeeds (fun day isDay => Instruction.evaluate_of_fixed fixed isAmount (dueOn day isDay))
      state []
  refine ⟨dates, reports, _, journal, isList, Prod.ext areReports rfl, ?_, ?_, ?_⟩
  · rw [runs, areReports]
    rfl
  · rw [requests, paidDays]
  · simpa only [decide_eq_true_eq] using areDays

/-- A rent on Mondays up to 8 January 2024, behind a single meeting in 2023, in the batches of
the first fifteen days of 2024. -/
theorem daily_batches_pay_occurrences_mondays :
    let mondays : Period :=
      ⟨some ⟨1, .weekly none, by decide⟩, ⟨738885, by decide⟩, none, by decide⟩
    let schedule : Schedule := {
      id := "rent"
      current := mondays
      history := [⟨none, ⟨738800, by decide⟩, some ⟨738884, by decide⟩, by decide⟩] }
    let amount : Amount := .finite false 100 0
    let lastDay : Date := ⟨738892, by decide⟩
    let rent : Instruction :=
      ⟨"rent", "Rent", .periodic, .fixed, some amount, schedule, false, some lastDay⟩
    let services : Services Unit := ⟨none, fun _ => pure (.ok ()), pure 0⟩
    let opening : Date := ⟨738885, by decide⟩
    let closing : Date := ⟨738899, by decide⟩
    schedule.NoOverlap ∧ closing < Date.last ∧
    ∃ dates journal,
      schedule.occurrences .automatic true opening closing = .ok dates ∧
      (((Date.between opening.dayNumber (closing.dayNumber + 1)).mapM
        (runBatch services.recorded [rent])).run ((), [])).2.2 = journal ∧
      requestsOf journal =
        (dates.filter fun date => decide (date ≤ lastDay)).map fun date =>
          rent.request date amount := by
  intro mondays schedule amount lastDay rent services opening closing
  have supported : ∀ period ∈ schedule.periods, period.IsSupported := by
    refine List.forall_mem_cons.mpr ⟨?_, List.forall_mem_singleton.mpr ?_⟩
    · exact fun rule isRule => absurd isRule (Option.not_mem_none rule)
    · rintro _ ⟨⟩
      exact ⟨.weekly, rfl⟩
  have noOverlap : schedule.NoOverlap :=
    List.pairwise_pair.mpr (Period.disjoint_of_lt rfl (by decide))
  have inside : closing < Date.last := by decide
  obtain ⟨dates, reports, final, journal, isList, _, runs, requests, _⟩ :=
    daily_batches_pay_occurrences services (fun _ _ => rfl) rent rfl rfl rfl rfl supported
      noOverlap opening inside ()
  exact ⟨noOverlap, inside, dates, journal, isList, congrArg (fun ran => ran.2.2) runs, requests⟩

end Payment
end Cadence
