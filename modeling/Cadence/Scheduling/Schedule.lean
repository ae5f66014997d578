import Cadence.Scheduling.Period

/-!
# Schedules

A meeting calendar, or the dates of a standing instruction: a current period and
the periods that it superseded.  A date belongs to the first period that contains
it, history first; a date in several periods is a conflict, and a date in none
falls to the current period.
-/

namespace Cadence
namespace Scheduling

open Calendar Number Recurrence

/-- A current period and the superseded ones, oldest first. -/
structure Schedule where
  id : String
  current : Period
  history : List Period
  deriving DecidableEq

/-- More than one period of a schedule claims a date. -/
structure Ambiguity where
  scheduleId : String
  date : Date
  periods : List Period
  deriving DecidableEq

/-- The message for a date that several periods claim. -/
def Ambiguity.message (ambiguity : Ambiguity) : String :=
  integerText ambiguity.periods.length ++ " schedule periods of owner " ++
    ambiguity.scheduleId ++ " claim " ++ ambiguity.date.text

/-- Why a strict question about a date gets no answer. -/
inductive LookupError where
  | ambiguous (ambiguity : Ambiguity)
  | unsupported (frequency : UnsupportedFrequency)
  deriving DecidableEq

/-- The period that a date falls to, and the conflict when others claim it too. -/
structure Resolution where
  period : Period
  conflict : Option Ambiguity
  deriving DecidableEq

namespace Schedule

/-- The periods of a schedule in the order in which they claim dates. -/
def periods (schedule : Schedule) : List Period :=
  schedule.history ++ [schedule.current]

/-- The earliest start of any period. -/
def startDate (schedule : Schedule) : Date :=
  schedule.history.foldr (fun period earliest => min period.startDate earliest)
    schedule.current.startDate

/-- The periods that claim a date. -/
def claiming (schedule : Schedule) (date : Date) : List Period :=
  schedule.periods.filter fun period => period.contains date

theorem mem_claiming {schedule : Schedule} {date : Date} {period : Period} :
    period ∈ schedule.claiming date ↔
      period ∈ schedule.periods ∧ period.contains date = true :=
  List.mem_filter

/-- The number of periods that claim a date. -/
def claims (schedule : Schedule) (date : Date) : Nat :=
  (schedule.claiming date).length

/-- The period that a date falls to. -/
def resolve (schedule : Schedule) (date : Date) : Resolution :=
  match schedule.claiming date with
  | [] => ⟨schedule.current, none⟩
  | [period] => ⟨period, none⟩
  | period :: second :: others =>
    ⟨period, some ⟨schedule.id, date, period :: second :: others⟩⟩

/-- A conflict is reported exactly when more than one period claims the date. -/
theorem conflict_resolve_eq_none_iff {schedule : Schedule} {date : Date} :
    (schedule.resolve date).conflict = none ↔ schedule.claims date ≤ 1 := by
  unfold resolve claims
  split <;> simp_all

/-- The period in effect on a date; a strict question does not bear a conflict. -/
def periodOn
    (schedule : Schedule)
    (strict : Bool)
    (date : Date) : Except Ambiguity Period :=
  let resolution := schedule.resolve date
  match strict, resolution.conflict with
  | true, some conflict => .error conflict
  | _, _ => .ok resolution.period

/-- The rule in effect on a date. -/
def ruleOn
    (schedule : Schedule)
    (strict : Bool)
    (date : Date) : Except Ambiguity (Option Rule) :=
  (schedule.periodOn strict date).map Period.rule

/-- Whether a date is an occurrence of the period in effect on it. -/
def isOccurrenceOn
    (schedule : Schedule)
    (limits : Limits)
    (date : Date) : Except UnsupportedFrequency Bool :=
  (schedule.resolve date).period.isOccurrence limits date

/-- Whether a date is an occurrence, with a choice whether the question bears a
conflict. -/
def checkOccurrenceOn
    (schedule : Schedule)
    (strict : Bool)
    (limits : Limits)
    (date : Date) : Except LookupError Bool :=
  match schedule.periodOn strict date with
  | .error ambiguity => .error (.ambiguous ambiguity)
  | .ok period => (period.isOccurrence limits date).mapError .unsupported

end Schedule
end Scheduling
end Cadence
