import Cadence.Proofs.Scheduling.EditRuns

/-!
# Locked paces

Superseding a rule under the lock keeps its frequency and interval, and moving a meeting
changes only the days that its rule selects.  A run of such edits therefore never changes
the pace of a schedule: the current period of every schedule on the way, and every period
that it puts behind the history, repeats at the pace that the run started with.
-/

namespace Cadence
namespace Scheduling

open Calendar Recurrence

/-- How often a schedule repeats: the frequency and the interval of its rule.  Without a
rule it has no pace. -/
def paceOf (rule : Option Rule) : Option (List Char × Nat) :=
  rule.map fun rule => (rule.frequencyCode, rule.interval)

/-- Two schedules repeat at the same pace when they have one pace or none. -/
theorem samePace_eq_true_iff {first second : Option Rule} :
    samePace first second = true ↔ paceOf first = paceOf second := by
  cases first with
  | none => cases second <;> simp [samePace, paceOf]
  | some first => cases second <;> simp [samePace, Rule.samePace, paceOf]

/-- Taking the selectors of a rule from another date keeps its pace. -/
theorem paceOf_map_reanchor (rule : Option Rule) (date : Date) :
    paceOf (rule.map fun rule => rule.reanchor date) = paceOf rule := by
  cases rule with
  | none => rfl
  | some rule =>
      have same : samePace (some rule) (some (rule.reanchor date)) = true :=
        rule.samePace_reanchor date
      exact (samePace_eq_true_iff.mp same).symm

/-- An edit that may not change the pace: a rule superseded under the lock, or a moved
meeting. -/
def Edit.IsLocked : Edit → Prop
  | supersede _ _ lockPace => lockPace = true
  | moveMeeting _ _ => True

namespace Schedule

variable {origin schedule edited : Schedule}

/-- A schedule that has kept the pace of the one it comes from, in its current period and in
every period that was closed on the way. -/
structure KeepsPace (origin reached : Schedule) : Prop where
  current : paceOf reached.current.rule = paceOf origin.current.rule
  closed : ∃ closed, reached.history = origin.history ++ closed ∧
    ∀ period ∈ closed, paceOf period.rule = paceOf origin.current.rule

theorem KeepsPace.refl (origin : Schedule) : origin.KeepsPace origin where
  current := rfl
  closed := ⟨[], (List.append_nil _).symm, List.forall_mem_nil _⟩

/-- An edit that may not change the pace does not. -/
theorem paceOf_current_of_edit
    {edit : Edit}
    (locked : edit.IsLocked)
    (succeeds : schedule.edit edit = .ok edited) :
    paceOf edited.current.rule = paceOf schedule.current.rule := by
  cases edit with
  | supersede rule date lockPace =>
      obtain ⟨_, keepsPace, rfl⟩ :=
        supersede_eq_ok_iff.mp (edit_supersede_eq_ok_iff.mp succeeds)
      exact (samePace_eq_true_iff.mp (keepsPace locked)).symm
  | moveMeeting present newDate =>
      obtain ⟨_, _, _, _, rfl⟩ := moveMeeting_eq_ok_iff.mp succeeds
      exact paceOf_map_reanchor _ newDate

/-- The period that an edit closes had the pace of the schedule, so one more edit keeps it in
every closed period. -/
theorem KeepsPace.of_edit
    {edit : Edit}
    (locked : edit.IsLocked)
    (succeeds : schedule.edit edit = .ok edited)
    (keeps : origin.KeepsPace schedule) : origin.KeepsPace edited := by
  refine ⟨(paceOf_current_of_edit locked succeeds).trans keeps.current, ?_⟩
  obtain ⟨follows, period, _, _, _, rfl⟩ := exists_replaceCurrent_of_edit succeeds
  obtain ⟨closed, isHistory, samePaces⟩ := keeps.closed
  refine ⟨closed ++ [schedule.current.closedBefore edit.date follows.afterStart], ?_, ?_⟩
  · rw [← List.append_assoc, ← isHistory]
    rfl
  · rw [List.forall_mem_append, List.forall_mem_singleton]
    exact ⟨samePaces, keeps.current⟩

/-- The lock holds over whole runs of edits.  When every rule is superseded under the lock, and
meetings are moved in between, every schedule on the way has kept the frequency and the interval
that the run started with, or has no rule as at the start, in its current period and in every
period that it has put behind the history. -/
theorem locked_edits_keep_pace
    {edits : List Edit}
    (locked : ∀ edit ∈ edits, edit.IsLocked)
    (succeeds : schedule.editAll edits = .ok edited) :
    schedule.KeepsPace edited ∧
      ∀ before after, edits = before ++ after →
        ∃ reached, schedule.editAll before = .ok reached ∧
          reached.editAll after = .ok edited ∧ schedule.KeepsPace reached := by
  have keeps {edits : List Edit} {reached : Schedule}
      (locked : ∀ edit ∈ edits, edit.IsLocked)
      (succeeds : schedule.editAll edits = .ok reached) : schedule.KeepsPace reached :=
    editAll_induction_of_forall KeepsPace.of_edit locked succeeds (.refl schedule)
  refine ⟨keeps locked succeeds, ?_⟩
  rintro before after rfl
  rw [List.forall_mem_append] at locked
  obtain ⟨reached, isReached, goesOn⟩ := editAll_append_eq_ok_iff.mp succeeds
  exact ⟨reached, isReached, goesOn, keeps locked.1 isReached⟩

/-- Every second Monday from the first one of 2024 on, under the lock.  The meeting of
15 January moves to the Wednesday after it, from 5 February on the meetings are on Fridays, and
the one of 23 February moves by a day. -/
theorem locked_edits_keep_pace_fortnight :
    let everySecond (weekday : Weekday) : Rule := ⟨2, .weekly (some weekday), by decide⟩
    let schedule : Schedule := {
      id := "calendar"
      current := ⟨some (everySecond .monday), ⟨738885, by decide⟩, none, by decide⟩
      history := [] }
    let toWednesday : Edit := .moveMeeting ⟨738899, by decide⟩ ⟨738901, by decide⟩
    let onFridays : Edit :=
      .supersede (some (everySecond .friday)) ⟨738920, by decide⟩ true
    let toSaturday : Edit := .moveMeeting ⟨738938, by decide⟩ ⟨738939, by decide⟩
    let edits : List Edit := [toWednesday, onFridays, toSaturday]
    (∀ edit ∈ edits, edit.IsLocked) ∧
      ∃ edited, schedule.editAll edits = .ok edited ∧
        paceOf edited.current.rule = some (Frequency.weekly.code, 2) ∧
        schedule.KeepsPace edited := by
  intro everySecond schedule toWednesday onFridays toSaturday edits
  have locked : ∀ edit ∈ edits, edit.IsLocked := by
    simp [edits, toWednesday, onFridays, toSaturday, Edit.IsLocked]
  obtain ⟨edited, succeeds⟩ : ∃ edited, schedule.editAll edits = .ok edited :=
    exists_eq_ok_of_isOk (by decide)
  have keeps := (locked_edits_keep_pace locked succeeds).1
  exact ⟨locked, edited, succeeds, keeps.current, keeps⟩

end Schedule
end Scheduling
end Cadence
