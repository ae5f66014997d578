import Cadence.Proofs.Recurrence.Reanchored
import Cadence.Proofs.Scheduling.LockedPace

/-!
# The checks of an edit

An edit looks at its dates, at the pace and at the meeting, and only then takes the day before a
date, makes a rule from fields and makes two periods, each of which has a check of its own.  Once
the first checks have passed the others do, so an edit fails with a rejection or with a frequency
that nothing can be computed for, and with nothing else.
-/

namespace Cadence
namespace Scheduling

open Calendar Recurrence

/-! ## Edits step by step -/

/-- What any step of an edit may fail with. -/
inductive StepError where
  | rejected (fault : EditFault)
  | unsupported (frequency : UnsupportedFrequency)
  | calendar (error : CalendarError)
  | period (fault : PeriodFault)
  | rule (fault : RuleFault)

/-- The failure of a step that keeps a meeting from moving. -/
def MoveError.toStepError : MoveError → StepError
  | rejected fault => .rejected fault
  | unsupported frequency => .unsupported frequency

/-- The day before a date, or the failure to find one. -/
def dayBefore (date : Date) : Except StepError Date :=
  match date.previous? with
  | none => .error (.calendar .outOfCalendar)
  | some preceding => .ok preceding

/-- The rule that is made from the fields of another one with the set ones taken from a date. -/
def remake (given : Option Rule) (date : Date) : Except StepError (Option Rule) :=
  match given with
  | none => .ok none
  | some rule => ((Rule.ofFields (rule.fieldsOn date)).mapError .rule).map some

namespace Schedule

/-- A schedule whose current period is closed on the day before a date and followed by another
one, with the check of every part. -/
def rebuild
    (schedule : Schedule)
    (date : Date)
    (rule : Option Rule)
    (startDate : Date) : Except StepError Schedule := do
  let endDate ← dayBefore date
  let period ← (Period.of? rule startDate schedule.current.endDate).mapError .period
  let closed ← (schedule.current.closed endDate).mapError .period
  return { schedule with current := period, history := schedule.history ++ [closed] }

/-- Replace the current rule from a date on, with the check of every part. -/
def supersedeInSteps
    (schedule : Schedule)
    (rule : Option Rule)
    (date : Date)
    (lockPace : Bool) : Except StepError Schedule := do
  let _ ← (schedule.current.checkEditDate date).mapError .rejected
  if lockPace && !samePace schedule.current.rule rule then
    .error (.rejected (.paceLocked schedule.current.rule rule))
  else
    schedule.rebuild date rule date

/-- Move the meeting on `present` to another date, with the check of every part. -/
def moveInSteps
    (schedule : Schedule)
    (present newDate : Date) : Except StepError Schedule := do
  let _ ← (schedule.current.checkEditDate present).mapError .rejected
  if newDate < present then
    .error (.rejected (.movedBeforePresent newDate present))
  else
    let _ ← (schedule.current.checkEnd newDate).mapError .rejected
    let occurs ← (schedule.current.isOccurrence .none present).mapError .unsupported
    if occurs then
      let rule ← remake schedule.current.rule newDate
      schedule.rebuild present rule newDate
    else
      .error (.rejected (.notAMeeting present))

end Schedule

/-! ## The checks of the parts -/

/-- A date after another one has a day before it. -/
theorem dayBefore_eq_ok {start date : Date} (later : start < date) :
    dayBefore date =
      .ok ⟨date.dayNumber - 1, Nat.lt_of_le_of_lt (Nat.sub_le _ _) date.inCalendar⟩ := by
  obtain ⟨number, inCalendar⟩ := date
  cases number with
  | zero => exact absurd later (Nat.not_lt_zero _)
  | succ before => rfl

theorem Period.of?_eq_ok
    {rule : Option Rule}
    {startDate : Date}
    {endDate : Option Date}
    (starts_le : ∀ last ∈ endDate, startDate ≤ last) :
    Period.of? rule startDate endDate = .ok ⟨rule, startDate, endDate, starts_le⟩ := by
  cases endDate with
  | none => rfl
  | some last => exact dif_pos (starts_le last rfl)

/-- A rule with one of the four frequencies is made again on every date. -/
theorem remake_eq_ok
    {given : Option Rule}
    (supported : ∀ rule ∈ given, ∃ frequency, rule.frequency? = some frequency)
    (date : Date) : remake given date = .ok (given.map fun rule => rule.reanchor date) := by
  cases given with
  | none => rfl
  | some rule =>
      obtain ⟨frequency, isSupported⟩ := supported rule rfl
      have made := (Rule.isReanchored_reanchor isSupported date).made
      unfold remake
      simp only [made]
      rfl

namespace Schedule

variable {schedule : Schedule}

/-- Every part of an edited schedule passes its check when the edit follows the start of the
current period and the new period starts in front of its end. -/
theorem rebuild_eq_ok
    {date startDate : Date}
    (afterStart : schedule.current.startDate < date)
    (notAfterEnd : ∀ last ∈ schedule.current.endDate, startDate ≤ last)
    (rule : Option Rule) :
    schedule.rebuild date rule startDate =
      .ok (schedule.replaceCurrent date afterStart
        ⟨rule, startDate, schedule.current.endDate, notAfterEnd⟩) := by
  have closes : schedule.current.closed
      ⟨date.dayNumber - 1, Nat.lt_of_le_of_lt (Nat.sub_le _ _) date.inCalendar⟩ =
        .ok (schedule.current.closedBefore date afterStart) :=
    Period.of?_eq_ok (schedule.current.closedBefore date afterStart).starts_le
  unfold rebuild
  rw [dayBefore_eq_ok afterStart, Period.of?_eq_ok notAfterEnd]
  simp only [bind, Except.bind, Except.mapError, closes]
  rfl

/-- The steps behind the check of the dates and of the pace do not fail. -/
theorem supersedeInSteps_eq
    (rule : Option Rule)
    (date : Date)
    (lockPace : Bool) :
    schedule.supersedeInSteps rule date lockPace =
      (schedule.supersede rule date lockPace).mapError .rejected := by
  unfold supersedeInSteps supersede
  cases schedule.current.checkEditDate date with
  | error fault => rfl
  | ok follows =>
      change (if _ then _ else schedule.rebuild date rule date) = _
      rw [rebuild_eq_ok follows.down.afterStart follows.down.notAfterEnd rule]
      split <;> rfl

/-- The steps behind the check of the dates and of the meeting do not fail. -/
theorem moveInSteps_eq (present newDate : Date) :
    schedule.moveInSteps present newDate =
      (schedule.moveMeeting present newDate).mapError MoveError.toStepError := by
  unfold moveInSteps moveMeeting
  cases schedule.current.checkEditDate present with
  | error fault => rfl
  | ok follows =>
      by_cases earlier : newDate < present
      · simp only [if_pos earlier]
        rfl
      · simp only [if_neg earlier]
        cases schedule.current.checkEnd newDate with
        | error fault => rfl
        | ok notAfterEnd =>
            cases occurs : schedule.current.isOccurrence .none present with
            | error unsupported => rfl
            | ok isMeeting =>
                cases isMeeting with
                | false => rfl
                | true =>
                    have supported : ∀ rule ∈ schedule.current.rule,
                        ∃ frequency, rule.frequency? = some frequency := by
                      intro rule isRule
                      rw [Period.isOccurrence, isRule] at occurs
                      exact exists_frequency?_of_isOccurrence occurs
                    change (remake schedule.current.rule newDate >>= fun rule =>
                      schedule.rebuild present rule newDate) = _
                    rw [remake_eq_ok supported]
                    exact rebuild_eq_ok follows.down.afterStart notAfterEnd.down _

end Schedule

/-! ## When an edit succeeds -/

/-- The dates of a move fit a period: the meeting follows the start, and the new date is neither
earlier than the meeting nor behind the end. -/
structure Period.AdmitsMove (period : Period) (present newDate : Date) : Prop where
  afterStart : period.startDate < present
  notEarlier : present ≤ newDate
  notAfterEnd : ∀ last ∈ period.endDate, newDate ≤ last

theorem Period.AdmitsMove.follows
    {period : Period}
    {present newDate : Date}
    (admitted : period.AdmitsMove present newDate) : period.Follows present where
  afterStart := admitted.afterStart
  notAfterEnd := fun last isLast =>
    Nat.le_trans admitted.notEarlier (admitted.notAfterEnd last isLast)

namespace Schedule

variable {schedule : Schedule} {present newDate : Date}

/-- A move whose dates fit depends on whether the meeting is one. -/
theorem moveMeeting_of_admitsMove (admitted : schedule.current.AdmitsMove present newDate) :
    schedule.moveMeeting present newDate =
      match schedule.current.isOccurrence .none present with
      | .error unsupported => .error (.unsupported unsupported)
      | .ok false => .error (.rejected (.notAMeeting present))
      | .ok true =>
        .ok (schedule.replaceCurrent present admitted.afterStart
          ⟨schedule.current.rule.map fun rule => rule.reanchor newDate, newDate,
            schedule.current.endDate, admitted.notAfterEnd⟩) := by
  unfold moveMeeting
  rw [Period.checkEditDate_eq_ok admitted.follows, Period.checkEnd_eq_ok admitted.notAfterEnd]
  exact if_neg (Nat.not_lt_of_le admitted.notEarlier)

/-- A move whose dates do not fit is rejected, whatever the rule. -/
theorem exists_rejected_of_not_admitsMove
    (misfit : ¬ schedule.current.AdmitsMove present newDate) :
    ∃ fault, schedule.moveMeeting present newDate = .error (.rejected fault) := by
  unfold moveMeeting
  cases schedule.current.checkEditDate present with
  | error fault => exact ⟨fault, rfl⟩
  | ok follows =>
      by_cases earlier : newDate < present
      · exact ⟨_, if_pos earlier⟩
      · simp only [if_neg earlier]
        cases schedule.current.checkEnd newDate with
        | error fault => exact ⟨fault, rfl⟩
        | ok notAfterEnd =>
            exact absurd ⟨follows.down.afterStart, Nat.le_of_not_lt earlier, notAfterEnd.down⟩
              misfit

/-- A move whose dates fit gets no answer about the meeting when the rule has a frequency of a
foreign name. -/
theorem isOccurrence_current_eq_error_iff
    (admitted : schedule.current.AdmitsMove present newDate)
    {unsupported : UnsupportedFrequency} :
    schedule.current.isOccurrence .none present = .error unsupported ↔
      ∃ rule ∈ schedule.current.rule,
        rule.frequency? = none ∧ unsupported = ⟨rule.frequencyCode⟩ := by
  have isAdmitted : ({ Limits.none with endDate := schedule.current.endDate } : Limits).admits
      schedule.current.startDate present = true :=
    Limits.admits_iff.mpr
      ⟨Nat.le_of_lt admitted.afterStart, admitted.follows.notAfterEnd, nofun⟩
  unfold Period.isOccurrence
  rw [isOccurrence_eq_error_iff, isAdmitted, eq_self, true_and]

/-- A rule is superseded exactly on a date that follows the start of the current period, unless
the pace is locked and would change. -/
theorem exists_supersede_eq_ok_iff
    {rule : Option Rule}
    {date : Date}
    {lockPace : Bool} :
    (∃ edited, schedule.supersede rule date lockPace = .ok edited) ↔
      schedule.current.Follows date ∧
        (lockPace = false ∨ paceOf schedule.current.rule = paceOf rule) := by
  simp only [supersede_eq_ok_iff, samePace_eq_true_iff]
  constructor
  · rintro ⟨edited, follows, keepsPace, _⟩
    refine ⟨follows, ?_⟩
    cases lockPace with
    | false => exact Or.inl rfl
    | true => exact Or.inr (keepsPace rfl)
  · rintro ⟨follows, rfl | samePace⟩
    · exact ⟨_, follows, fun locked => absurd locked Bool.false_ne_true, rfl⟩
    · exact ⟨_, follows, fun _ => samePace, rfl⟩

/-- A meeting moves exactly when the dates of the move fit and it is one. -/
theorem exists_moveMeeting_eq_ok_iff :
    (∃ edited, schedule.moveMeeting present newDate = .ok edited) ↔
      schedule.current.AdmitsMove present newDate ∧
        schedule.current.isOccurrence .none present = .ok true := by
  simp only [moveMeeting_eq_ok_iff]
  constructor
  · rintro ⟨edited, follows, notAfterEnd, notEarlier, occurs, _⟩
    exact ⟨⟨follows.afterStart, notEarlier, notAfterEnd⟩, occurs⟩
  · rintro ⟨admitted, occurs⟩
    exact ⟨_, admitted.follows, admitted.notAfterEnd, admitted.notEarlier, occurs, rfl⟩

/-- A move fails with a frequency exactly when its dates fit and the current rule has it, under a
foreign name. -/
theorem moveMeeting_eq_unsupported_iff {unsupported : UnsupportedFrequency} :
    schedule.moveMeeting present newDate = .error (.unsupported unsupported) ↔
      schedule.current.AdmitsMove present newDate ∧
        ∃ rule ∈ schedule.current.rule,
          rule.frequency? = none ∧ unsupported = ⟨rule.frequencyCode⟩ := by
  by_cases admitted : schedule.current.AdmitsMove present newDate
  · rw [and_iff_right admitted, ← isOccurrence_current_eq_error_iff admitted,
      moveMeeting_of_admitsMove admitted]
    cases schedule.current.isOccurrence .none present with
    | error other => simp
    | ok isMeeting => cases isMeeting <;> simp
  · obtain ⟨fault, rejected⟩ := exists_rejected_of_not_admitsMove admitted
    simp [rejected, admitted]

/-- A move is rejected exactly when its dates do not fit or the meeting is none. -/
theorem exists_moveMeeting_eq_rejected_iff :
    (∃ fault, schedule.moveMeeting present newDate = .error (.rejected fault)) ↔
      ¬ schedule.current.AdmitsMove present newDate ∨
        schedule.current.isOccurrence .none present = .ok false := by
  by_cases admitted : schedule.current.AdmitsMove present newDate
  · rw [or_iff_right (not_not_intro admitted), moveMeeting_of_admitsMove admitted]
    cases schedule.current.isOccurrence .none present with
    | error unsupported => simp
    | ok isMeeting => cases isMeeting <;> simp
  · exact iff_of_true (exists_rejected_of_not_admitsMove admitted) (Or.inl admitted)

/-- Edits fail exactly when they would break the schedule, and with the right failure.  A rule is
superseded on the dates that follow the start of the current period and are not behind its end,
when the pace is not locked or stays the same; every other time that is rejected.  A meeting moves
when the dates of the move fit the current period and it is an occurrence of it.  When the dates
fit and the current rule has a frequency of a foreign name the move fails with that, and every
other time it is rejected.  The day before a date, the fields of a rule and the two periods of an
edit are never the reason. -/
theorem edits_fail_only_when_rejected (schedule : Schedule) :
    (∀ rule date lockPace,
      schedule.supersedeInSteps rule date lockPace =
        (schedule.supersede rule date lockPace).mapError .rejected ∧
      ((∃ edited, schedule.supersede rule date lockPace = .ok edited) ↔
        schedule.current.Follows date ∧
          (lockPace = false ∨ paceOf schedule.current.rule = paceOf rule))) ∧
    ∀ present newDate,
      schedule.moveInSteps present newDate =
        (schedule.moveMeeting present newDate).mapError MoveError.toStepError ∧
      ((∃ edited, schedule.moveMeeting present newDate = .ok edited) ↔
        schedule.current.AdmitsMove present newDate ∧
          schedule.current.isOccurrence .none present = .ok true) ∧
      (∀ unsupported, schedule.moveMeeting present newDate = .error (.unsupported unsupported) ↔
        schedule.current.AdmitsMove present newDate ∧
          ∃ rule ∈ schedule.current.rule,
            rule.frequency? = none ∧ unsupported = ⟨rule.frequencyCode⟩) ∧
      ((∃ fault, schedule.moveMeeting present newDate = .error (.rejected fault)) ↔
        ¬ schedule.current.AdmitsMove present newDate ∨
          schedule.current.isOccurrence .none present = .ok false) := by
  constructor
  · intro rule date lockPace
    exact ⟨supersedeInSteps_eq rule date lockPace, exists_supersede_eq_ok_iff⟩
  · intro present newDate
    exact ⟨moveInSteps_eq present newDate, exists_moveMeeting_eq_ok_iff,
      fun _ => moveMeeting_eq_unsupported_iff, exists_moveMeeting_eq_rejected_iff⟩

end Schedule
end Scheduling
end Cadence
