import Cadence.Scheduling.Edit

/-!
# Runs of edits

An edit that succeeds closes the current period on the day before it, puts it behind
the history and makes a period current that starts on or after the edit and keeps the
old end.  A run applies edits one after another and fails with the first one that is
rejected, so what every edit keeps a run keeps too.
-/

namespace Cadence
namespace Scheduling

open Calendar Recurrence

section Outcome

variable {Failure Value : Type} {outcome : Except Failure Value}

theorem exists_eq_ok_of_isOk (isOk : outcome.isOk = true) : ∃ value, outcome = .ok value := by
  cases outcome with
  | error failure => cases isOk
  | ok value => exact ⟨value, rfl⟩

theorem eq_ok_of_toOption
    {value : Value}
    (reads : outcome.toOption = some value) : outcome = .ok value := by
  cases outcome <;> cases reads
  rfl

/-- Another account of a failure makes no difference to a success. -/
theorem mapError_eq_ok_iff
    {Account : Type}
    {account : Failure → Account}
    {value : Value} :
    outcome.mapError account = .ok value ↔ outcome = .ok value := by
  cases outcome with
  | error failure => constructor <;> (intro succeeds; cases succeeds)
  | ok given => constructor <;> (intro succeeds; cases succeeds; rfl)

end Outcome

/-- An edit that a schedule may be given. -/
inductive Edit where
  /-- Another rule from a date on; a locked pace keeps frequency and interval. -/
  | supersede (rule : Option Rule) (date : Date) (lockPace : Bool)
  /-- Another date for the meeting on `present`. -/
  | moveMeeting (present newDate : Date)
  deriving DecidableEq

namespace Edit

/-- The day after the last one of the period that an edit closes. -/
def date : Edit → Date
  | supersede _ date _ => date
  | moveMeeting present _ => present

/-- The start of the period that an edit makes current. -/
def newStart : Edit → Date
  | supersede _ date _ => date
  | moveMeeting _ newDate => newDate

end Edit

namespace Schedule

/-- A schedule after an edit. -/
def edit (schedule : Schedule) : Edit → Except MoveError Schedule
  | .supersede rule date lockPace =>
    (schedule.supersede rule date lockPace).mapError .rejected
  | .moveMeeting present newDate => schedule.moveMeeting present newDate

/-- A schedule after a run of edits. -/
def editAll (schedule : Schedule) : List Edit → Except MoveError Schedule
  | [] => .ok schedule
  | edit :: edits =>
    match schedule.edit edit with
    | .error error => .error error
    | .ok edited => edited.editAll edits

variable {schedule edited : Schedule}

theorem edit_supersede_eq_ok_iff
    {rule : Option Rule}
    {date : Date}
    {lockPace : Bool} :
    schedule.edit (.supersede rule date lockPace) = .ok edited ↔
      schedule.supersede rule date lockPace = .ok edited :=
  mapError_eq_ok_iff

end Schedule

/-! ## What a successful edit does -/

theorem Period.checkEnd_eq_ok
    {period : Period}
    {date : Date}
    (notAfterEnd : ∀ last ∈ period.endDate, date ≤ last) :
    period.checkEnd date = .ok ⟨notAfterEnd⟩ := by
  obtain ⟨rule, startDate, endDate, starts_le⟩ := period
  cases endDate with
  | none => rfl
  | some last => exact dif_pos (notAfterEnd last rfl)

theorem Period.checkEditDate_eq_ok
    {period : Period}
    {date : Date}
    (follows : period.Follows date) :
    period.checkEditDate date = .ok ⟨follows⟩ := by
  unfold checkEditDate
  rw [dif_pos follows.afterStart, checkEnd_eq_ok follows.notAfterEnd]

namespace Schedule

variable {schedule edited : Schedule}

/-- A rule is superseded on a date that follows the start of the current period and lies
in it, unless the pace is locked and would change. -/
theorem supersede_eq_ok_iff
    {rule : Option Rule}
    {date : Date}
    {lockPace : Bool} :
    schedule.supersede rule date lockPace = .ok edited ↔
      ∃ follows : schedule.current.Follows date,
        (lockPace = true → samePace schedule.current.rule rule = true) ∧
        edited = schedule.replaceCurrent date follows.afterStart
          ⟨rule, date, schedule.current.endDate, follows.notAfterEnd⟩ := by
  constructor
  · intro succeeds
    unfold supersede at succeeds
    split at succeeds
    · cases succeeds
    · next follows _ =>
        split at succeeds
        · cases succeeds
        · next unlocked =>
            cases succeeds
            refine ⟨follows, ?_, rfl⟩
            intro locked
            simpa [locked] using unlocked
  · rintro ⟨follows, keepsPace, rfl⟩
    unfold supersede
    rw [Period.checkEditDate_eq_ok follows]
    cases lockPace with
    | false => rfl
    | true => simp [keepsPace rfl]

/-- A meeting moves when its date follows the start of the current period and is an
occurrence of it, and the new date is neither earlier nor behind the end. -/
theorem moveMeeting_eq_ok_iff {present newDate : Date} :
    schedule.moveMeeting present newDate = .ok edited ↔
      ∃ (follows : schedule.current.Follows present)
        (notAfterEnd : ∀ last ∈ schedule.current.endDate, newDate ≤ last),
        present ≤ newDate ∧
        schedule.current.isOccurrence .none present = .ok true ∧
        edited = schedule.replaceCurrent present follows.afterStart
          ⟨schedule.current.rule.map fun rule => rule.reanchor newDate, newDate,
            schedule.current.endDate, notAfterEnd⟩ := by
  constructor
  · intro succeeds
    unfold moveMeeting at succeeds
    split at succeeds
    · cases succeeds
    · next follows _ =>
        split at succeeds
        · cases succeeds
        · next notEarlier =>
            split at succeeds
            · cases succeeds
            · next notAfterEnd _ =>
                split at succeeds
                · cases succeeds
                · cases succeeds
                · next occurs =>
                    cases succeeds
                    exact ⟨follows, notAfterEnd, Nat.le_of_not_lt notEarlier, occurs, rfl⟩
  · rintro ⟨follows, notAfterEnd, notEarlier, occurs, rfl⟩
    unfold moveMeeting
    rw [Period.checkEditDate_eq_ok follows, Period.checkEnd_eq_ok notAfterEnd]
    rw [occurs]
    exact if_neg (Nat.not_lt_of_le notEarlier)

/-- Every edit closes the current period in front of its date and makes a period current
that starts on its date or later and keeps the end. -/
theorem exists_replaceCurrent_of_edit
    {edit : Edit}
    (succeeds : schedule.edit edit = .ok edited) :
    ∃ (follows : schedule.current.Follows edit.date) (period : Period),
      edit.date ≤ edit.newStart ∧
      period.startDate = edit.newStart ∧
      period.endDate = schedule.current.endDate ∧
      edited = schedule.replaceCurrent edit.date follows.afterStart period := by
  cases edit with
  | supersede rule date lockPace =>
      obtain ⟨follows, _, isReplaced⟩ :=
        supersede_eq_ok_iff.mp (edit_supersede_eq_ok_iff.mp succeeds)
      exact ⟨follows, ⟨_, date, _, follows.notAfterEnd⟩, Nat.le_refl _, rfl, rfl, isReplaced⟩
  | moveMeeting present newDate =>
      obtain ⟨follows, notAfterEnd, notEarlier, _, isReplaced⟩ :=
        moveMeeting_eq_ok_iff.mp succeeds
      exact ⟨follows, ⟨_, newDate, _, notAfterEnd⟩, notEarlier, rfl, rfl, isReplaced⟩

/-- An edit dates from after the start of the current period, and the period that it makes
current starts then or later. -/
theorem edit_date_bounds
    {edit : Edit}
    (succeeds : schedule.edit edit = .ok edited) :
    schedule.current.startDate < edit.date ∧ edit.date ≤ edited.current.startDate := by
  obtain ⟨follows, period, notEarlier, starts, _, rfl⟩ :=
    exists_replaceCurrent_of_edit succeeds
  rw [← starts] at notEarlier
  exact ⟨follows.afterStart, notEarlier⟩

/-! ## What a run keeps -/

/-- A run of edits in two parts succeeds when the second part succeeds behind the first. -/
theorem editAll_append_eq_ok_iff {first second : List Edit} :
    schedule.editAll (first ++ second) = .ok edited ↔
      ∃ between, schedule.editAll first = .ok between ∧
        between.editAll second = .ok edited := by
  induction first generalizing schedule with
  | nil =>
      constructor
      · intro succeeds
        exact ⟨schedule, rfl, succeeds⟩
      · rintro ⟨between, ⟨⟩, succeeds⟩
        exact succeeds
  | cons edit first hypothesis =>
      rw [List.cons_append, editAll, editAll]
      cases schedule.edit edit with
      | error error =>
          constructor
          · intro fails
            cases fails
          · rintro ⟨between, fails, _⟩
            cases fails
      | ok reached => exact hypothesis

/-- What every successful edit of some kind keeps, a run of such edits keeps. -/
theorem editAll_induction_of_forall
    {Allowed : Edit → Prop}
    {motive : Schedule → Prop}
    (keeps : ∀ {schedule edited : Schedule} {edit : Edit},
      Allowed edit → schedule.edit edit = .ok edited → motive schedule → motive edited)
    {edits : List Edit}
    (allowed : ∀ edit ∈ edits, Allowed edit)
    (succeeds : schedule.editAll edits = .ok edited)
    (holds : motive schedule) : motive edited := by
  induction edits generalizing schedule with
  | nil =>
      cases succeeds
      exact holds
  | cons edit edits hypothesis =>
      rw [List.forall_mem_cons] at allowed
      unfold editAll at succeeds
      split at succeeds
      · cases succeeds
      · next between isEdited =>
          exact hypothesis allowed.2 succeeds (keeps allowed.1 isEdited holds)

/-- What every successful edit keeps, a run of successful edits keeps. -/
theorem editAll_induction
    {motive : Schedule → Prop}
    (keeps : ∀ {schedule edited : Schedule} {edit : Edit},
      schedule.edit edit = .ok edited → motive schedule → motive edited)
    {edits : List Edit}
    (succeeds : schedule.editAll edits = .ok edited)
    (holds : motive schedule) : motive edited := by
  have allowed : ∀ edit ∈ edits, True := fun _ _ => trivial
  exact editAll_induction_of_forall (fun _ => keeps) allowed succeeds holds

end Schedule
end Scheduling
end Cadence
