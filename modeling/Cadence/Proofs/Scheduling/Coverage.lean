import Cadence.Proofs.Scheduling.EditRuns

/-!
# Coverage

How many periods of a schedule claim a date, and what edits do to that number.  The
period that an edit closes and the one that it makes current share the dates of the old
current period, except those that a moved meeting passes over, which neither of them
claims.  Periods that do not overlap therefore never come to overlap.
-/

namespace Cadence
namespace Scheduling

open Calendar Recurrence

/-- No date lies in both periods. -/
def Period.Disjoint (first second : Period) : Prop :=
  ∀ date, ¬ (first.contains date = true ∧ second.contains date = true)

/-- A period that ends before another starts shares no date with it. -/
theorem Period.disjoint_of_lt
    {first second : Period}
    {last : Date}
    (isEnd : first.endDate = some last)
    (before : last < second.startDate) : first.Disjoint second := by
  rintro date ⟨inFirst, inSecond⟩
  exact Nat.not_lt_of_le ((contains_iff.mp inFirst).2 last isEnd)
    (Nat.lt_of_lt_of_le before (contains_iff.mp inSecond).1)

/-- No two periods of a schedule overlap. -/
def Schedule.NoOverlap (schedule : Schedule) : Prop :=
  schedule.periods.Pairwise Period.Disjoint

theorem pairwise_disjoint_iff {periods : List Period} :
    periods.Pairwise Period.Disjoint ↔
      ∀ date, periods.countP (fun period => period.contains date) ≤ 1 := by
  induction periods with
  | nil => simp
  | cons period periods hypothesis =>
      rw [List.pairwise_cons, hypothesis]
      constructor
      · rintro ⟨apart, atMostOne⟩ date
        rw [List.countP_cons]
        split
        · next inPeriod =>
            have others : periods.countP (fun other => other.contains date) = 0 := by
              apply List.countP_eq_zero.mpr
              intro other member inOther
              exact apart other member date ⟨inPeriod, inOther⟩
            omega
        · exact atMostOne date
      · intro atMostOne
        refine ⟨?_, ?_⟩
        · rintro other member date ⟨inPeriod, inOther⟩
          have bound := atMostOne date
          have claimed : 0 < periods.countP fun other => other.contains date :=
            List.countP_pos_iff.mpr ⟨other, member, inOther⟩
          rw [List.countP_cons, if_pos inPeriod] at bound
          omega
        · intro date
          have bound := atMostOne date
          rw [List.countP_cons] at bound
          omega

/-- The dates of a period are those before a date in it, those from a later start to the
same end, and those between the two. -/
theorem Period.contains_eq_of_follows
    {current period : Period}
    {date : Date}
    (follows : current.Follows date)
    (notEarlier : date ≤ period.startDate)
    (sameEnd : period.endDate = current.endDate)
    (day : Date) :
    (if current.contains day then 1 else 0) =
      ((if period.contains day then 1 else 0) +
        if (current.closedBefore date follows.afterStart).contains day then 1 else 0) +
        if date ≤ day ∧ day < period.startDate then 1 else 0 := by
  have startsBefore := follows.afterStart
  have endsAfter := period.starts_le
  rw [sameEnd] at endsAfter
  rw [contains_closedBefore _ _ follows.notAfterEnd]
  by_cases before : day < date
  · have notInPeriod : period.contains day = false :=
      contains_of_lt_startDate (Nat.lt_of_lt_of_le before notEarlier)
    have notBetween : ¬ (date ≤ day ∧ day < period.startDate) :=
      fun between => Nat.not_lt_of_le between.1 before
    simp [before, notInPeriod, notBetween]
  · have notBefore : date ≤ day := Nat.le_of_not_lt before
    have started : current.startDate ≤ day :=
      Nat.le_trans (Nat.le_of_lt startsBefore) notBefore
    by_cases between : day < period.startDate
    · have inCurrent : current.contains day = true := by
        refine contains_iff.mpr ⟨started, ?_⟩
        intro last isEnd
        exact Nat.le_of_lt (Nat.lt_of_lt_of_le between (endsAfter last isEnd))
      simp [before, notBefore, between, inCurrent, contains_of_lt_startDate between]
    · have sameDates : period.contains day = current.contains day := by
        rw [Bool.eq_iff_iff, contains_iff, contains_iff, sameEnd]
        apply and_congr_left
        intro _
        exact iff_of_true (Nat.le_of_not_lt between) started
      simp [before, between, sameDates]

namespace Schedule

variable {schedule edited : Schedule}

theorem claims_eq_countP (schedule : Schedule) (date : Date) :
    schedule.claims date =
      schedule.periods.countP fun period => period.contains date :=
  (List.countP_eq_length_filter ..).symm

/-- No two periods overlap exactly when no date has more than one claim. -/
theorem noOverlap_iff : schedule.NoOverlap ↔ ∀ date, schedule.claims date ≤ 1 := by
  unfold NoOverlap
  simp only [pairwise_disjoint_iff, claims_eq_countP]

theorem claims_eq_history (schedule : Schedule) (day : Date) :
    schedule.claims day =
      (schedule.history.countP fun period => period.contains day) +
        if schedule.current.contains day then 1 else 0 := by
  rw [claims_eq_countP, periods, List.countP_append, List.countP_singleton]

theorem claims_replaceCurrent
    (date : Date)
    (afterStart : schedule.current.startDate < date)
    (period : Period)
    (day : Date) :
    (schedule.replaceCurrent date afterStart period).claims day =
      (schedule.history.countP fun period => period.contains day) +
        ((if period.contains day then 1 else 0) +
          if (schedule.current.closedBefore date afterStart).contains day then 1 else 0) := by
  rw [claims_eq_countP, periods_replaceCurrent, List.countP_append, List.countP_cons,
    List.countP_singleton, Nat.add_comm (if period.contains day then 1 else 0)]

/-- The dates from an edit up to the start of the new period have one claim fewer, all
others as many as before. -/
theorem claims_eq_of_edit
    {edit : Edit}
    (succeeds : schedule.edit edit = .ok edited)
    (day : Date) :
    schedule.claims day =
      edited.claims day + if edit.date ≤ day ∧ day < edit.newStart then 1 else 0 := by
  obtain ⟨follows, period, notEarlier, starts, sameEnd, rfl⟩ :=
    exists_replaceCurrent_of_edit succeeds
  rw [← starts] at notEarlier ⊢
  rw [claims_replaceCurrent, claims_eq_history, Nat.add_assoc,
    Period.contains_eq_of_follows follows notEarlier sameEnd]

theorem claims_le_of_edit
    {edit : Edit}
    (succeeds : schedule.edit edit = .ok edited)
    (day : Date) : edited.claims day ≤ schedule.claims day := by
  rw [claims_eq_of_edit succeeds]
  exact Nat.le_add_right _ _

theorem NoOverlap.of_edit
    {edit : Edit}
    (succeeds : schedule.edit edit = .ok edited)
    (noOverlap : schedule.NoOverlap) : edited.NoOverlap := by
  rw [noOverlap_iff] at noOverlap ⊢
  intro day
  exact Nat.le_trans (claims_le_of_edit succeeds day) (noOverlap day)

/-- Superseding a rule leaves as many periods to claim each date as before.  Moving a
meeting takes one claim from each date that it passes over and leaves all others as many.
Either edit appends one period to the history, makes a later period current and keeps its
end.  A run of edits on a schedule without overlapping periods ends in one without them,
and no date is in conflict there. -/
theorem edits_preserve_coverage (schedule : Schedule) :
    (∀ (rule : Option Rule) (date : Date) (lockPace : Bool) (edited : Schedule),
      schedule.supersede rule date lockPace = .ok edited →
      ∀ day, edited.claims day = schedule.claims day) ∧
    (∀ (present newDate : Date) (edited : Schedule),
      schedule.moveMeeting present newDate = .ok edited →
      ∀ day, schedule.claims day =
        edited.claims day + if present ≤ day ∧ day < newDate then 1 else 0) ∧
    (∀ (edit : Edit) (edited : Schedule), schedule.edit edit = .ok edited →
      (∃ closed : Period, edited.history = schedule.history ++ [closed]) ∧
      schedule.current.startDate < edited.current.startDate ∧
      edited.current.endDate = schedule.current.endDate) ∧
    (schedule.NoOverlap →
      ∀ (edits : List Edit) (edited : Schedule), schedule.editAll edits = .ok edited →
        edited.NoOverlap ∧ ∀ day, (edited.resolve day).conflict = none) := by
  refine ⟨?_, ?_, ?_, ?_⟩
  · intro rule date lockPace edited succeeds day
    have counted : schedule.claims day =
        edited.claims day + if date ≤ day ∧ day < date then 1 else 0 :=
      claims_eq_of_edit (edit_supersede_eq_ok_iff.mpr succeeds) day
    have nothingBetween : ¬ (date ≤ day ∧ day < date) := by
      rw [Date.le_iff, Date.lt_iff]
      omega
    rw [if_neg nothingBetween] at counted
    exact counted.symm
  · intro present newDate edited succeeds day
    have moved : schedule.edit (.moveMeeting present newDate) = .ok edited := succeeds
    exact claims_eq_of_edit moved day
  · intro edit edited succeeds
    obtain ⟨follows, period, notEarlier, starts, sameEnd, rfl⟩ :=
      exists_replaceCurrent_of_edit succeeds
    refine ⟨⟨_, rfl⟩, ?_, sameEnd⟩
    rw [← starts] at notEarlier
    exact Nat.lt_of_lt_of_le follows.afterStart notEarlier
  · intro noOverlap edits edited succeeds
    have stillApart := editAll_induction NoOverlap.of_edit succeeds noOverlap
    refine ⟨stillApart, ?_⟩
    intro day
    exact conflict_resolve_eq_none_iff.mpr (noOverlap_iff.mp stillApart day)

/-- Mondays from the first one of 2024 on, behind a single date of the year before: the
meeting of 8 January moves to the Wednesday after it, and from 5 February on the meetings
are monthly. -/
theorem edits_preserve_coverage_mondays :
    let weekly : Rule := ⟨1, .weekly none, by decide⟩
    let monthly : Rule := ⟨1, .monthly none, by decide⟩
    let schedule : Schedule := {
      id := "calendar"
      current := ⟨some weekly, ⟨738885, by decide⟩, none, by decide⟩
      history := [⟨none, ⟨738800, by decide⟩, some ⟨738884, by decide⟩, by decide⟩] }
    let monday : Date := ⟨738892, by decide⟩
    let wednesday : Date := ⟨738894, by decide⟩
    let february : Date := ⟨738920, by decide⟩
    let edits : List Edit :=
      [.moveMeeting monday wednesday, .supersede (some monthly) february false]
    (∃ superseded, schedule.supersede (some monthly) february false = .ok superseded ∧
      ∀ day, superseded.claims day = schedule.claims day) ∧
    (∃ moved, schedule.moveMeeting monday wednesday = .ok moved ∧
      schedule.edit (.moveMeeting monday wednesday) = .ok moved ∧
      (∀ day, schedule.claims day =
        moved.claims day + if monday ≤ day ∧ day < wednesday then 1 else 0) ∧
      schedule.current.startDate < moved.current.startDate) ∧
    schedule.NoOverlap ∧
    ∃ edited, schedule.editAll edits = .ok edited ∧
      edited.NoOverlap ∧ ∀ day, (edited.resolve day).conflict = none := by
  intro weekly monthly schedule monday wednesday february edits
  obtain ⟨ofSupersede, ofMove, ofEdit, ofRun⟩ := edits_preserve_coverage schedule
  have noOverlap : schedule.NoOverlap :=
    List.pairwise_pair.mpr (Period.disjoint_of_lt rfl (by decide))
  obtain ⟨superseded, isSuperseded⟩ : ∃ superseded,
      schedule.edit (.supersede (some monthly) february false) = .ok superseded :=
    exists_eq_ok_of_isOk (by decide)
  obtain ⟨moved, isMoved⟩ : ∃ moved, schedule.moveMeeting monday wednesday = .ok moved :=
    exists_eq_ok_of_isOk (by decide)
  obtain ⟨edited, isRun⟩ : ∃ edited, schedule.editAll edits = .ok edited :=
    exists_eq_ok_of_isOk (by decide)
  rw [edit_supersede_eq_ok_iff] at isSuperseded
  exact ⟨⟨superseded, isSuperseded, ofSupersede _ _ _ _ isSuperseded⟩,
    ⟨moved, isMoved, isMoved, ofMove _ _ _ isMoved,
      (ofEdit (.moveMeeting monday wednesday) _ isMoved).2.1⟩,
    noOverlap, edited, isRun, ofRun noOverlap edits edited isRun⟩

end Schedule
end Scheduling
end Cadence
