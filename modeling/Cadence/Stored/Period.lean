import Cadence.Recurrence.RuleText
import Cadence.Scheduling.Schedule
import Cadence.Stored.Row

/-!
# Stored periods

Periods and schedules from rows.  The history of a schedule may be stored in any
order; it is put in the order of the starts.
-/

namespace Cadence
namespace Stored

open Calendar Recurrence Scheduling

/-- The columns of a period. -/
structure PeriodColumns where
  recurrence : Option String
  startDate : Date
  endDate : Option Date

/-- The columns that the row of a period is checked for. -/
def periodColumns : List Column := [
  .of "recurrence" false (readOptional Value.text?),
  .of "start_date" true readDate,
  .of "end_date" false (readOptional Value.date?)]

/-- The columns of the row of a period. -/
def readPeriodColumns (row : Row) : Except FieldError PeriodColumns := do
  row.check periodColumns
  let recurrence ← row.readWithDefault "recurrence" (readOptional Value.text?) none
  let startDate ← row.read "start_date" readDate
  let endDate ← row.readWithDefault "end_date" (readOptional Value.date?) none
  return ⟨recurrence, startDate, endDate⟩

/-- The rule of a stored rule text; nothing and a blank text stand for none. -/
def readStoredRule (recurrence : Option String) : Except BuildError (Option Rule) :=
  (readRule (recurrence.getD "")).mapError .malformed

/-- A period with a stored rule text, or the column that is wrong when it would
end before it starts. -/
def assemblePeriod
    (endColumn : String)
    (problem : Date → Date → Problem)
    (recurrence : Option String)
    (startDate : Date)
    (endDate : Option Date) : Except BuildError Period :=
  match Period.of? none startDate endDate with
  | .error fault => .error (.invalid ⟨endColumn, problem fault.endDate fault.startDate⟩)
  | .ok period =>
    (readStoredRule recurrence).map fun rule => { period with rule }

/-- The period of a row. -/
def buildPeriod (row : Row) : Except BuildError Period := do
  let columns ← (readPeriodColumns row).mapError .invalid
  assemblePeriod "end_date" .endBeforeStart columns.recurrence columns.startDate
    columns.endDate

/-- The periods of rows in their order. -/
def buildPeriods : List Row → Except BuildError (List Period)
  | [] => .ok []
  | row :: rows => do
    let period ← buildPeriod row
    let periods ← buildPeriods rows
    return period :: periods

/-- Rows build together exactly when each of them builds. -/
theorem buildPeriods_eq_ok_iff {rows : List Row} {periods : List Period} :
    buildPeriods rows = .ok periods ↔
      rows.map buildPeriod = periods.map Except.ok := by
  induction rows generalizing periods with
  | nil => cases periods <;> simp [buildPeriods]
  | cons row rows hypothesis =>
      simp only [buildPeriods, bind, Except.bind, List.map_cons]
      cases buildPeriod row with
      | error failure => cases periods <;> simp
      | ok period =>
          cases rest : buildPeriods rows with
          | error failure =>
              cases periods with
              | nil => simp
              | cons first others =>
                  have fails : rows.map buildPeriod ≠ others.map Except.ok := by
                    intro builds
                    have succeeds := hypothesis.mpr builds
                    simp [rest] at succeeds
                  simp [fails]
          | ok built =>
              have builds := hypothesis.mp rest
              cases periods with
              | nil => simp [pure, Except.pure]
              | cons first others =>
                  simp [pure, Except.pure, builds,
                    List.map_inj_right fun _ _ equal => Except.ok.inj equal]

/-- Periods in the order of their starts; periods with equal starts keep their
order. -/
def sortPeriods (periods : List Period) : List Period :=
  periods.mergeSort fun earlier later => decide (earlier.startDate ≤ later.startDate)

theorem sortPeriods_perm (periods : List Period) :
    (sortPeriods periods).Perm periods :=
  List.mergeSort_perm _ _

/-- The schedule of a current row and history rows. -/
def buildSchedule
    (id : String)
    (currentRow : Row)
    (historyRows : List Row) : Except BuildError Schedule := do
  let history ← buildPeriods historyRows
  let current ← buildPeriod currentRow
  return ⟨id, current, sortPeriods history⟩

end Stored
end Cadence
