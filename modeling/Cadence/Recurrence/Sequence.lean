import Cadence.Calendar.Columns
import Cadence.Calendar.Error
import Cadence.Recurrence.Fault
import Cadence.Recurrence.Occurrence

/-!
# Sequences of occurrences

A sequence probes one day after another and gives each occurrence it meets.  It
ends after enough dates or behind its last day, and it is interrupted by too long
a run of days without an occurrence, by the end of the calendar, or by a frequency
that nothing can be computed for.

A sequence is a plain description.  What has been taken from it is a cursor, and
continuing from a cursor changes no other one.
-/

namespace Cadence
namespace Recurrence

open Calendar Number

/-- Why a sequence stops before it has given all its dates. -/
inductive Interruption where
  /-- So many days in a row up to `lastProbed` were no occurrences, after `found`
  dates had been given. -/
  | exhausted (probedDays found : Nat) (lastProbed : Date)
  /-- Too many days in a row were no occurrences, and the rule cannot be written down for
  the report of it. -/
  | unwritable
  /-- The next day to probe is outside the calendar. -/
  | outOfCalendar
  /-- Nothing can be computed for the frequency of the rule. -/
  | unsupported (frequency : UnsupportedFrequency)
  deriving DecidableEq

/-- The message for a sequence that stops early. -/
def Interruption.message : Interruption → String
  | exhausted probedDays found lastProbed =>
    "No occurrence within " ++ integerText probedDays ++ " days (found=" ++
      integerText found ++ ", last_probed=" ++ lastProbed.text ++ ")"
  | unwritable => unwritableMessage
  | outOfCalendar => CalendarError.outOfCalendar.message
  | unsupported frequency => frequency.message

/-- How a sequence stops. -/
inductive Ending where
  /-- All its dates have been given. -/
  | complete
  | interrupted (interruption : Interruption)
  deriving DecidableEq

/-- What probing leads to. -/
inductive Step where
  /-- The next date of the sequence. -/
  | found (date : Date)
  | stopped (ending : Ending)
  deriving DecidableEq

/-- A finite sequence of occurrences of a schedule. -/
structure Sequence where
  rule : Option Rule
  start : Date
  /-- The first day to probe. -/
  firstProbe : Date
  /-- The most dates to give. -/
  count : Option Nat
  /-- The last day to probe. -/
  untilDate : Option Date
  limits : Limits
  /-- How many days in a row may be no occurrences before the sequence gives up. -/
  probeLimit : Nat

namespace Sequence

/-- The last day that is worth probing. -/
def lastProbe (sequence : Sequence) : Option Date :=
  match sequence.untilDate, sequence.limits.endDate with
  | some untilDate, some endDate => some (min untilDate endDate)
  | some untilDate, none => some untilDate
  | none, endDate => endDate

/-- Whether a day lies behind the last one worth probing. -/
def isBehind (sequence : Sequence) (date : Date) : Bool :=
  sequence.lastProbe.any fun lastProbe => decide (lastProbe < date)

/-- Why a sequence gives up after so many days in a row without an occurrence.  Its rule
is written down first, which an interval of too many digits prevents. -/
def exhaustion
    (sequence : Sequence)
    (probedDays found : Nat)
    (lastProbed : Date) : Interruption :=
  if sequence.rule.all fun rule => isWritable rule.interval then
    .exhausted probedDays found lastProbed
  else
    .unwritable

/-- Probe from a day on, after `misses` days in a row without an occurrence and
with `found` dates given before. -/
def probe (sequence : Sequence) (found misses : Nat) (date : Date) : Step :=
  if sequence.isBehind date then
    .stopped .complete
  else
    match isOccurrence sequence.rule sequence.start sequence.limits date with
    | .error unsupported => .stopped (.interrupted (.unsupported unsupported))
    | .ok true => .found date
    | .ok false =>
      if sequence.probeLimit ≤ misses + 1 then
        .stopped (.interrupted (sequence.exhaustion (misses + 1) found date))
      else
        match isNext : date.next? with
        | none => .stopped (.interrupted .outOfCalendar)
        | some following => sequence.probe found (misses + 1) following
termination_by date.daysLeft
decreasing_by exact Date.daysLeft_next? isNext

/-- Probe for the first date. -/
def begin (sequence : Sequence) : Step :=
  if sequence.count = some 0 then
    .stopped .complete
  else
    match sequence.rule with
    | none =>
      if sequence.firstProbe ≤ sequence.start && !sequence.isBehind sequence.start then
        .found sequence.start
      else
        .stopped .complete
    | some _ => sequence.probe 0 0 sequence.firstProbe

/-- Probe for the next date after `date`, the last of `found` dates given. -/
def continueAfter (sequence : Sequence) (found : Nat) (date : Date) : Step :=
  if sequence.rule.isNone then
    .stopped .complete
  else if sequence.count.any fun count => decide (count ≤ found) then
    .stopped .complete
  else
    match date.next? with
    | none => .stopped (.interrupted .outOfCalendar)
    | some following => sequence.probe found 0 following

/-- Probing finds no date before the day it starts with. -/
theorem le_of_probe_eq_found
    {sequence : Sequence}
    {found misses : Nat}
    {date occurrence : Date}
    (finds : sequence.probe found misses date = .found occurrence) :
    date ≤ occurrence := by
  fun_induction probe sequence found misses date with
  | case1 => cases finds
  | case2 => cases finds
  | case3 => cases finds; exact Nat.le_refl _
  | case4 => cases finds
  | case5 => cases finds
  | case6 misses date _ _ _ following isNext hypothesis =>
      have step := hypothesis finds
      have nextNumber := Date.dayNumber_next? isNext
      rw [Date.le_iff] at step ⊢
      omega

/-- Dates are given in ascending order. -/
theorem lt_of_continueAfter_eq_found
    {sequence : Sequence}
    {found : Nat}
    {date occurrence : Date}
    (finds : sequence.continueAfter found date = .found occurrence) :
    date < occurrence := by
  unfold continueAfter at finds
  split at finds
  · cases finds
  · split at finds
    · cases finds
    · split at finds
      · cases finds
      · next following isNext =>
          have step := le_of_probe_eq_found finds
          have nextNumber := Date.dayNumber_next? isNext
          rw [Date.le_iff] at step
          rw [Date.lt_iff]
          omega

/-- All dates after `date`, the last of `found` dates given, and how the sequence
stops. -/
def restAfter (sequence : Sequence) (found : Nat) (date : Date) : List Date × Ending :=
  match finds : sequence.continueAfter found date with
  | .stopped ending => ([], ending)
  | .found occurrence =>
    let rest := sequence.restAfter (found + 1) occurrence
    (occurrence :: rest.1, rest.2)
termination_by date.daysLeft
decreasing_by exact Date.daysLeft_lt_of_lt (lt_of_continueAfter_eq_found finds)

/-- All dates of a sequence and how it stops. -/
def run (sequence : Sequence) : List Date × Ending :=
  match sequence.begin with
  | .stopped ending => ([], ending)
  | .found occurrence =>
    let rest := sequence.restAfter 1 occurrence
    (occurrence :: rest.1, rest.2)

/-- All dates of a sequence, when it is not interrupted. -/
def toList (sequence : Sequence) : Except Interruption (List Date) :=
  match sequence.run with
  | (dates, .complete) => .ok dates
  | (_, .interrupted interruption) => .error interruption

/-- The first date of a sequence, when there is one. -/
def first? (sequence : Sequence) : Except Interruption (Option Date) :=
  match sequence.begin with
  | .found occurrence => .ok (some occurrence)
  | .stopped .complete => .ok none
  | .stopped (.interrupted interruption) => .error interruption

end Sequence

/-- How far a sequence has been taken. -/
inductive Cursor where
  /-- Nothing has been taken. -/
  | fresh
  /-- `found` dates have been taken, `date` last. -/
  | paused (found : Nat) (date : Date)
  /-- The sequence has stopped. -/
  | closed
  deriving DecidableEq

namespace Sequence

/-- The step from a cursor; a closed cursor gives nothing more. -/
def stepFrom (sequence : Sequence) : Cursor → Step
  | .fresh => sequence.begin
  | .paused found date => sequence.continueAfter found date
  | .closed => .stopped .complete

/-- The cursor behind one more date. -/
def advance (cursor : Cursor) (date : Date) : Cursor :=
  match cursor with
  | .paused found _ => .paused (found + 1) date
  | _ => .paused 1 date

/-- Up to `count` more dates from a cursor, why the sequence was interrupted on the
way, and the cursor behind them. -/
def take
    (sequence : Sequence)
    (cursor : Cursor) : Nat → List Date × Option Interruption × Cursor
  | 0 => ([], none, cursor)
  | count + 1 =>
    match sequence.stepFrom cursor with
    | .stopped .complete => ([], none, .closed)
    | .stopped (.interrupted interruption) => ([], some interruption, .closed)
    | .found date =>
      let rest := sequence.take (advance cursor date) count
      (date :: rest.1, rest.2)

@[simp] theorem take_zero (sequence : Sequence) (cursor : Cursor) :
    sequence.take cursor 0 = ([], none, cursor) := rfl

/-- A sequence that has stopped gives nothing more. -/
@[simp] theorem take_closed (sequence : Sequence) (count : Nat) :
    sequence.take .closed count = ([], none, .closed) := by
  cases count <;> rfl

/-- Dates may be taken in two goes, unless the first one meets an interruption. -/
theorem take_add
    {sequence : Sequence}
    {cursor behind : Cursor}
    {dates : List Date}
    {first : Nat}
    (taken : sequence.take cursor first = (dates, none, behind))
    (second : Nat) :
    sequence.take cursor (first + second) =
      (dates ++ (sequence.take behind second).1, (sequence.take behind second).2) := by
  induction first generalizing cursor dates with
  | zero =>
      cases taken
      simp
  | succ first hypothesis =>
      rw [Nat.succ_add]
      simp only [take] at taken ⊢
      split at taken
      · cases taken
        simp
      · cases taken
      · next date _ =>
          generalize rest : sequence.take (advance cursor date) first = later at taken
          obtain ⟨laterDates, laterInterruption, laterCursor⟩ := later
          cases taken
          simp [hypothesis rest]

end Sequence
end Recurrence
end Cadence
