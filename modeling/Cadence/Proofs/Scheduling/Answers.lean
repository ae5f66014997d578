import Cadence.Proofs.Recurrence.Windows
import Cadence.Scheduling.Listing

/-!
# Answers of schedules

What questions to a schedule come down to.  A question about one date is answered by the
first period that contains it, and a date in no period is no occurrence.  The occurrences
of a period in a window depend on its rule, its start and its last day in the window.
-/

namespace Cadence
namespace Scheduling

open Calendar Recurrence

namespace Period

/-- An occurrence of a period lies in it. -/
theorem contains_of_isOccurrence
    {period : Period}
    {limits : Limits}
    {date : Date}
    (occurs : period.isOccurrence limits date = .ok true) :
    period.contains date = true :=
  contains_iff.mpr (bounds_of_isOccurrence occurs)

theorem isOccurrence_of_not_contains
    {period : Period}
    {date : Date}
    (outside : period.contains date = false)
    (limits : Limits) :
    period.isOccurrence limits date = .ok false := by
  apply isOccurrence_of_not_admits
  apply Bool.eq_false_iff.mpr
  intro admitted
  have bounds := Limits.admits_iff.mp admitted
  have inside : period.contains date = true := contains_iff.mpr ⟨bounds.1, bounds.2.1⟩
  rw [outside] at inside
  cases inside

/-- The last day of a window that a period reaches. -/
def lastIn (period : Period) (untilDate : Date) : Date :=
  period.endDate.elim untilDate (min untilDate)

theorem le_lastIn_iff {period : Period} {day untilDate : Date} :
    day ≤ period.lastIn untilDate ↔
      day ≤ untilDate ∧ ∀ last ∈ period.endDate, day ≤ last := by
  unfold lastIn
  cases period.endDate with
  | none => simp
  | some last =>
      simp only [Option.elim_some, Date.le_iff, Date.dayNumber_min, Option.mem_some_iff,
        forall_eq']
      omega

theorem lastIn_le (period : Period) (untilDate : Date) : period.lastIn untilDate ≤ untilDate :=
  (le_lastIn_iff.mp (Nat.le_refl _)).1

theorem lastIn_eq_self
    {period : Period}
    {untilDate : Date}
    (notBehind : ∀ last ∈ period.endDate, untilDate ≤ last) :
    period.lastIn untilDate = untilDate :=
  Date.ext (Nat.le_antisymm (period.lastIn_le untilDate)
    (le_lastIn_iff.mpr ⟨Nat.le_refl _, notBehind⟩))

/-- The occurrences of a period in a window are those of its rule from its start on, up to
the last day that it reaches. -/
theorem occurrences_eq
    (period : Period)
    (limit : ProbeLimit)
    (fromDate untilDate : Date) :
    period.occurrences limit fromDate untilDate =
      if period.lastIn untilDate < max fromDate period.startDate then
        .ok []
      else
        (limit.windowSequence period.rule period.startDate fromDate
          (period.lastIn untilDate) none).toList := by
  have alike := limit.alike_windowSequence period.rule period.startDate fromDate
    (period.lastIn untilDate) (le_lastIn_iff.mp (Nat.le_refl _)).2
  unfold occurrences Sequence.toList
  rw [← alike.run_eq]
  rfl

end Period

namespace Schedule

/-- A date falls to the first period that contains it, or else to the current one. -/
theorem period_resolve (schedule : Schedule) (date : Date) :
    (schedule.resolve date).period =
      (schedule.periods.find? fun period => period.contains date).getD schedule.current := by
  rw [← List.head?_filter]
  change _ = (schedule.claiming date).head?.getD _
  unfold resolve
  split <;> next claims => rw [claims]; rfl

theorem resolve_mem_periods (schedule : Schedule) (date : Date) :
    (schedule.resolve date).period ∈ schedule.periods := by
  rw [period_resolve]
  cases first : schedule.periods.find? fun period => period.contains date with
  | none => exact List.mem_append_right _ (List.mem_singleton_self _)
  | some period => exact List.mem_of_find?_eq_some first

/-- No period of a schedule starts before the schedule does. -/
theorem startDate_le_of_mem_periods
    {schedule : Schedule}
    {period : Period}
    (member : period ∈ schedule.periods) : schedule.startDate ≤ period.startDate := by
  obtain ⟨id, current, history⟩ := schedule
  unfold startDate
  induction history with
  | nil =>
      rw [List.mem_singleton.mp member]
      exact Nat.le_refl _
  | cons first others hypothesis =>
      rw [List.foldr_cons, Date.le_iff, Date.dayNumber_min]
      rcases List.mem_cons.mp member with isFirst | inOthers
      · rw [isFirst]
        exact Nat.min_le_left _ _
      · exact Nat.le_trans (Nat.min_le_right _ _) (hypothesis inOthers)

/-- A schedule has no occurrence before it starts. -/
theorem startDate_le_of_isOccurrenceOn
    {schedule : Schedule}
    {limits : Limits}
    {date : Date}
    (occurs : schedule.isOccurrenceOn limits date = .ok true) : schedule.startDate ≤ date :=
  Nat.le_trans (startDate_le_of_mem_periods (schedule.resolve_mem_periods date))
    (bounds_of_isOccurrence occurs).1

theorem periodOn_false (schedule : Schedule) (date : Date) :
    schedule.periodOn false date = .ok (schedule.resolve date).period := by
  unfold periodOn
  rfl

/-- A date that periods contain is an occurrence as the first of them says; any other date
is none. -/
theorem checkOccurrenceOn_false
    (schedule : Schedule)
    (limits : Limits)
    (date : Date) :
    schedule.checkOccurrenceOn false limits date =
      match schedule.periods.find? fun period => period.contains date with
      | none => .ok false
      | some period => (period.isOccurrence limits date).mapError .unsupported := by
  unfold checkOccurrenceOn
  rw [periodOn_false, period_resolve]
  cases first : schedule.periods.find? fun period => period.contains date with
  | none =>
      have outside : schedule.current.contains date = false := by
        apply Bool.eq_false_iff.mpr
        apply List.find?_eq_none.mp first
        exact List.mem_append_right _ (List.mem_singleton_self _)
      simp only [Option.getD_none, Period.isOccurrence_of_not_contains outside]
      rfl
  | some period => rfl

end Schedule
end Scheduling
end Cadence
