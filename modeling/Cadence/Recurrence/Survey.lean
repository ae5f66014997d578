import Cadence.Recurrence.Sequence

/-!
# Surveys

The occurrences among the days of a stretch of time, each with the period that it
belongs to.  Without a rule there are no periods, and the one occurrence belongs to
none.
-/

namespace Cadence
namespace Recurrence

open Calendar

/-- A date on which a schedule occurs. -/
structure Occurrence where
  date : Date
  /-- The period of the date, counted from 0, when there is a rule. -/
  period : Option Nat
  deriving DecidableEq

/-- The occurrence on a date, when the date is one within limits. -/
def occurrenceOn?
    (rule : Option Rule)
    (start : Date)
    (limits : Limits)
    (date : Date) : Except UnsupportedFrequency (Option Occurrence) :=
  match isOccurrence rule start limits date with
  | .error unsupported => .error unsupported
  | .ok false => .ok none
  | .ok true =>
    match rule with
    | none => .ok (some ⟨date, none⟩)
    | some rule => (rule.periodIndex start date).map fun period => some ⟨date, period⟩

/-- The occurrences among `count` days from a date on.  All the days have to be in
the calendar. -/
def survey
    (rule : Option Rule)
    (start : Date)
    (limits : Limits) :
    Nat → Option Date → Except Interruption (List Occurrence)
  | 0, _ => .ok []
  | _ + 1, none => .error .outOfCalendar
  | count + 1, some date =>
    match occurrenceOn? rule start limits date with
    | .error unsupported => .error (.unsupported unsupported)
    | .ok occurrence? =>
      match survey rule start limits count date.next? with
      | .error interruption => .error interruption
      | .ok later => .ok (occurrence?.toList ++ later)

end Recurrence
end Cadence
