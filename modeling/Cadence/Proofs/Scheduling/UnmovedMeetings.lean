import Cadence.Proofs.Recurrence.ShortMonths
import Cadence.Proofs.Scheduling.MovedMeetings
import Cadence.Proofs.Scheduling.Past

/-!
# Meetings that stay where they are

A meeting that moves onto its own date closes the current period in front of it and starts another
one on it, with the selectors taken from it.  Before the date nothing changes.  From the date on
the dates outside the history fall to the new period instead of the old one, and whether the two
meet on the same dates is a matter of the day of the month and of the lengths of months.
-/

namespace Cadence
namespace Scheduling

open Calendar Recurrence

/-- Answers that come out alike in another account of the failures are alike. -/
theorem mapError_injective
    {Failure Account Value : Type}
    {account : Failure → Account}
    (injective : ∀ first second, account first = account second → first = second)
    {first second : Except Failure Value}
    (same : first.mapError account = second.mapError account) : first = second := by
  cases first with
  | error firstFailure =>
      cases second with
      | error secondFailure => rw [injective _ _ (Except.error.inj same)]
      | ok value => cases same
  | ok firstValue =>
      cases second with
      | error failure => cases same
      | ok secondValue => exact congrArg Except.ok (Except.ok.inj same)

namespace Schedule

variable {schedule edited : Schedule} {date present : Date}

/-- A date falls to the first period of the history that contains it, or else to the current
one. -/
theorem period_resolve_eq_history (schedule : Schedule) (date : Date) :
    (schedule.resolve date).period =
      (schedule.history.find? fun period => period.contains date).getD schedule.current := by
  rw [period_resolve, periods, List.find?_append]
  cases schedule.history.find? fun period => period.contains date with
  | some period => rfl
  | none =>
      rw [List.find?_singleton]
      split <;> rfl

theorem checkOccurrenceOn_eq_resolve (schedule : Schedule) (limits : Limits) (date : Date) :
    schedule.checkOccurrenceOn false limits date =
      ((schedule.resolve date).period.isOccurrence limits date).mapError .unsupported := by
  unfold checkOccurrenceOn
  rw [periodOn_false]

/-- From the date of an edit on, the closed period claims nothing. -/
theorem period_resolve_replaceCurrent
    (afterStart : schedule.current.startDate < present)
    (period : Period)
    (notBefore : present ≤ date) :
    ((schedule.replaceCurrent present afterStart period).resolve date).period =
      (schedule.history.find? fun period => period.contains date).getD period := by
  have notClosed :
      (schedule.current.closedBefore present afterStart).contains date = false := by
    apply Bool.eq_false_iff.mpr
    intro inClosed
    have notBehind := (Period.contains_iff.mp inClosed).2 _ rfl
    rw [Date.le_iff] at notBefore notBehind
    rw [Date.lt_iff] at afterStart
    simp only at notBehind
    omega
  rw [period_resolve_eq_history, replaceCurrent, List.find?_append, List.find?_singleton,
    if_neg (Bool.eq_false_iff.mp notClosed), Option.or_none]

section Unmoved

variable (moved : schedule.moveMeeting present present = .ok edited)
include moved

/-- A meeting that moves onto its own date leaves the earlier dates as they were. -/
theorem checkOccurrenceOn_of_lt (before : date < present) :
    edited.checkOccurrenceOn false .none date = schedule.checkOccurrenceOn false .none date := by
  have isEdit : schedule.edit (.moveMeeting present present) = .ok edited := moved
  have sameParts : edited.upTo date = schedule.upTo date := upTo_eq_of_edit isEdit before
  rw [checkOccurrenceOn_eq_upTo, checkOccurrenceOn_eq_upTo, sameParts]

/-- From the date of the meeting on, the new period takes the dates that the old one had. -/
theorem checkOccurrenceOn_eq_iff_of_le
    (noOverlap : schedule.NoOverlap)
    (notBefore : present ≤ date) :
    edited.checkOccurrenceOn false .none date = schedule.checkOccurrenceOn false .none date ↔
      edited.current.isOccurrence .none date = schedule.current.isOccurrence .none date := by
  obtain ⟨follows, notBehind, _, _, rfl⟩ := moveMeeting_eq_ok_iff.mp moved
  have injective : ∀ first second, LookupError.unsupported first = .unsupported second →
      first = second := fun _ _ => LookupError.unsupported.inj
  rw [checkOccurrenceOn_eq_resolve, checkOccurrenceOn_eq_resolve,
    period_resolve_replaceCurrent follows.afterStart _ notBefore, period_resolve_eq_history]
  cases claimed : schedule.history.find? fun period => period.contains date with
  | none => exact ⟨mapError_injective injective, congrArg _⟩
  | some period =>
      have inHistory := List.mem_of_find?_eq_some claimed
      have apart := (List.pairwise_append.mp noOverlap).2.2 period inHistory schedule.current
        (List.mem_singleton_self _)
      have inPeriod := List.find?_some claimed
      have outside : schedule.current.contains date = false := by
        apply Bool.eq_false_iff.mpr
        exact fun inCurrent => apart date ⟨inPeriod, inCurrent⟩
      have newOutside : Period.contains
          ⟨schedule.current.rule.map fun rule => rule.reanchor present, present,
            schedule.current.endDate, notBehind⟩ date = false := by
        apply Bool.eq_false_iff.mpr
        intro inNew
        have inCurrent : schedule.current.contains date = true := Period.contains_iff.mpr
          ⟨Nat.le_trans (Nat.le_of_lt follows.afterStart) notBefore,
            (Period.contains_iff.mp inNew).2⟩
        rw [outside] at inCurrent
        cases inCurrent
      refine iff_of_true rfl ?_
      rw [Period.isOccurrence_of_not_contains outside]
      exact Period.isOccurrence_of_not_contains newOutside _

theorem forall_checkOccurrenceOn_eq_iff (noOverlap : schedule.NoOverlap) (strict : Bool) :
    (∀ date, edited.checkOccurrenceOn strict .none date =
      schedule.checkOccurrenceOn strict .none date) ↔
    ∀ date, present ≤ date →
      edited.current.isOccurrence .none date = schedule.current.isOccurrence .none date := by
  have isEdit : schedule.edit (.moveMeeting present present) = .ok edited := moved
  have editedApart := noOverlap_iff.mp (noOverlap.of_edit isEdit)
  have lenient (date : Date) :
      (edited.checkOccurrenceOn strict .none date = schedule.checkOccurrenceOn strict .none date ↔
        edited.checkOccurrenceOn false .none date =
          schedule.checkOccurrenceOn false .none date) := by
    rw [checkOccurrenceOn_of_claims_le_one (editedApart date),
      checkOccurrenceOn_of_claims_le_one (noOverlap_iff.mp noOverlap date)]
  simp only [lenient]
  constructor
  · intro agrees date notBefore
    exact (checkOccurrenceOn_eq_iff_of_le moved noOverlap notBefore).mp (agrees date)
  · intro agrees date
    by_cases before : date < present
    · exact checkOccurrenceOn_of_lt moved before
    · have notBefore : present ≤ date := Nat.le_of_not_lt before
      exact (checkOccurrenceOn_eq_iff_of_le moved noOverlap notBefore).mpr (agrees date notBefore)

end Unmoved

/-- Moving a meeting onto its own date changes no answer of a schedule without overlapping
periods exactly when its day of the month is not lost.  It is lost when the rule selects a day of
the month, set or taken from the start, that the month of the meeting is too short for, and the
period that starts with the meeting has a later occurrence in a longer month. -/
theorem unmoved_meetings_keep_answers
    (noOverlap : schedule.NoOverlap)
    (moved : schedule.moveMeeting present present = .ok edited)
    (strict : Bool) :
    (∀ date, edited.checkOccurrenceOn strict .none date =
      schedule.checkOccurrenceOn strict .none date) ↔
    ∀ rule ∈ schedule.current.rule,
      ∀ day ∈ rule.pattern.dayOfMonth? schedule.current.startDate,
        (present.yearMonth.length : Int) < day.number →
        ∀ date, present < date → edited.current.isOccurrence .none date = .ok true →
          date.yearMonth.length ≤ present.yearMonth.length := by
  rw [forall_checkOccurrenceOn_eq_iff moved noOverlap]
  obtain ⟨follows, notBehind, _, occurs, rfl⟩ := moveMeeting_eq_ok_iff.mp moved
  unfold Period.isOccurrence replaceCurrent at *
  cases isRule : schedule.current.rule with
  | none =>
      rw [isRule, isOccurrence_none, Except.ok.injEq, Bool.and_eq_true, beq_iff_eq] at occurs
      exact absurd (occurs.2 ▸ follows.afterStart) (Nat.lt_irrefl _)
  | some rule =>
      rw [isRule] at occurs
      simp only [Option.mem_some_iff, forall_eq']
      exact forall_isOccurrence_reanchor_eq_iff occurs

/-- On the 31st of every month from 31 January 2024 on, behind a single date of the year before.
The meeting of 31 March moves onto its own date: March has the day, so no answer changes. -/
theorem unmoved_meetings_keep_answers_march :
    let rule : Rule := ⟨1, .monthly (some (.numbered 31 (by decide))), by decide⟩
    let schedule : Schedule := {
      id := "calendar"
      current := ⟨some rule, ⟨738915, by decide⟩, none, by decide⟩
      history := [⟨none, ⟨738800, by decide⟩, some ⟨738884, by decide⟩, by decide⟩] }
    let march : Date := ⟨738975, by decide⟩
    schedule.NoOverlap ∧
      ∃ edited, schedule.moveMeeting march march = .ok edited ∧
        ∀ date, edited.checkOccurrenceOn true .none date =
          schedule.checkOccurrenceOn true .none date := by
  intro rule schedule march
  have noOverlap : schedule.NoOverlap :=
    List.pairwise_pair.mpr (Period.disjoint_of_lt rfl (by decide))
  obtain ⟨edited, moved⟩ : ∃ edited, schedule.moveMeeting march march = .ok edited :=
    exists_eq_ok_of_isOk (by decide +kernel)
  refine ⟨noOverlap, edited, moved, (unmoved_meetings_keep_answers noOverlap moved true).mpr ?_⟩
  rintro _ ⟨⟩ _ ⟨⟩ tooShort
  exact absurd tooShort (by decide +kernel)

/-- The meeting on 30 April of the same schedule moves onto its own date, and the one on 31 May is
lost: from then on the meetings are on the 30th. -/
theorem unmoved_meeting_changes_answers :
    let rule : Rule := ⟨1, .monthly (some (.numbered 31 (by decide))), by decide⟩
    let schedule : Schedule := {
      id := "calendar"
      current := ⟨some rule, ⟨738915, by decide⟩, none, by decide⟩
      history := [⟨none, ⟨738800, by decide⟩, some ⟨738884, by decide⟩, by decide⟩] }
    let april : Date := ⟨739005, by decide⟩
    let may : Date := ⟨739036, by decide⟩
    schedule.NoOverlap ∧ schedule.current.IsSupported ∧
      ∃ edited, schedule.moveMeeting april april = .ok edited ∧
        schedule.checkOccurrenceOn false .none may = .ok true ∧
        edited.checkOccurrenceOn false .none may = .ok false := by
  intro rule schedule april may
  have noOverlap : schedule.NoOverlap :=
    List.pairwise_pair.mpr (Period.disjoint_of_lt rfl (by decide))
  have supported : schedule.current.IsSupported :=
    forall_mem_some_supported (show rule.frequency? = some .monthly from rfl)
  obtain ⟨edited, moved⟩ : ∃ edited, schedule.moveMeeting april april = .ok edited :=
    exists_eq_ok_of_isOk (by decide +kernel)
  have answer : (schedule.moveMeeting april april).toOption.bind
      (fun edited => (edited.checkOccurrenceOn false .none may).toOption) = some false := by
    decide +kernel
  rw [moved] at answer
  exact ⟨noOverlap, supported, edited, moved, eq_ok_of_toOption (by decide +kernel),
    eq_ok_of_toOption answer⟩

end Schedule
end Scheduling
end Cadence
