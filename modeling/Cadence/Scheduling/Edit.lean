import Cadence.Recurrence.Anchor
import Cadence.Recurrence.Description
import Cadence.Scheduling.Schedule
import Cadence.Text.Quoted

/-!
# Edits of a schedule

Superseding the current rule from a date on, and moving one meeting with all that
follow.  Both close the current period on the day before the edit, put it behind
the history and start a new current period that keeps the old end.
-/

namespace Cadence
namespace Scheduling

open Calendar Recurrence Text

/-- Why an edit is rejected. -/
inductive EditFault where
  | notAfterStart (date startDate : Date)
  | ended (endDate : Date)
  | paceLocked (old new : Option Rule)
  | movedBeforePresent (newDate present : Date)
  | notAMeeting (date : Date)
  deriving DecidableEq

/-- The wording of an edit fault for the schedule with the given name. -/
def EditFault.message (scheduleId : String) (fault : EditFault) : String :=
  "Owner " ++ scheduleId ++ ": " ++
    match fault with
    | notAfterStart date startDate =>
      "edit date " ++ date.text ++ " must be after the current period start " ++
        startDate.text
    | ended endDate => "schedule ended on " ++ endDate.text
    | paceLocked old new =>
      "cannot change " ++ quoted (describe old) ++ " to " ++ quoted (describe new) ++
        " while cadence is locked"
    | movedBeforePresent newDate present =>
      "new meeting date " ++ newDate.text ++ " is before the present meeting date " ++
        present.text
    | notAMeeting date => date.text ++ " is not a scheduled meeting date"

/-- Why a meeting does not move. -/
inductive MoveError where
  | rejected (fault : EditFault)
  | unsupported (frequency : UnsupportedFrequency)
  deriving DecidableEq

/-- A date is after the start of a period and not after its end. -/
structure Period.Follows (period : Period) (date : Date) : Prop where
  afterStart : period.startDate < date
  notAfterEnd : ∀ last ∈ period.endDate, date ≤ last

/-- A date is not after the end of a period, or the end it is after. -/
def Period.checkEnd
    (period : Period)
    (date : Date) : Except EditFault (PLift (∀ last ∈ period.endDate, date ≤ last)) :=
  match period.endDate with
  | none => .ok ⟨le_of_mem_none date⟩
  | some last =>
    if notAfter : date ≤ last then .ok ⟨le_of_mem_some notAfter⟩
    else .error (.ended last)

/-- An edit date follows the start of the current period and lies in it. -/
def Period.checkEditDate
    (period : Period)
    (date : Date) : Except EditFault (PLift (period.Follows date)) :=
  if afterStart : period.startDate < date then
    match period.checkEnd date with
    | .error fault => .error fault
    | .ok notAfterEnd => .ok ⟨⟨afterStart, notAfterEnd.down⟩⟩
  else
    .error (.notAfterStart date period.startDate)

namespace Schedule

/-- A schedule whose current period is closed before a date and followed by
another period. -/
def replaceCurrent
    (schedule : Schedule)
    (date : Date)
    (afterStart : schedule.current.startDate < date)
    (period : Period) : Schedule where
  id := schedule.id
  current := period
  history := schedule.history ++ [schedule.current.closedBefore date afterStart]

@[simp] theorem periods_replaceCurrent
    (schedule : Schedule)
    (date : Date)
    (afterStart : schedule.current.startDate < date)
    (period : Period) :
    (schedule.replaceCurrent date afterStart period).periods =
      schedule.history ++ [schedule.current.closedBefore date afterStart, period] := by
  simp [replaceCurrent, periods]

/-- Replace the current rule from a date on.  A locked pace keeps frequency and
interval. -/
def supersede
    (schedule : Schedule)
    (rule : Option Rule)
    (date : Date)
    (lockPace : Bool) : Except EditFault Schedule :=
  match schedule.current.checkEditDate date with
  | .error fault => .error fault
  | .ok ⟨follows⟩ =>
    if lockPace && !samePace schedule.current.rule rule then
      .error (.paceLocked schedule.current.rule rule)
    else
      .ok (schedule.replaceCurrent date follows.afterStart
        ⟨rule, date, schedule.current.endDate, follows.notAfterEnd⟩)

/-- Move the meeting on `present` to another date, and the meetings after it with
it. -/
def moveMeeting
    (schedule : Schedule)
    (present newDate : Date) : Except MoveError Schedule :=
  match schedule.current.checkEditDate present with
  | .error fault => .error (.rejected fault)
  | .ok ⟨follows⟩ =>
    if newDate < present then
      .error (.rejected (.movedBeforePresent newDate present))
    else
      match schedule.current.checkEnd newDate with
      | .error fault => .error (.rejected fault)
      | .ok ⟨notAfterEnd⟩ =>
        match schedule.current.isOccurrence .none present with
        | .error unsupported => .error (.unsupported unsupported)
        | .ok false => .error (.rejected (.notAMeeting present))
        | .ok true =>
          .ok (schedule.replaceCurrent present follows.afterStart
            ⟨schedule.current.rule.map fun rule => rule.reanchor newDate, newDate,
              schedule.current.endDate, notAfterEnd⟩)

end Schedule
end Scheduling
end Cadence
