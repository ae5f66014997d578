import Cadence.Proofs.Recurrence.RuleFields
import Cadence.Proofs.Scheduling.EditRuns
import Cadence.Stored.Instruction
import Mathlib.Data.List.Nodup

/-!
# Schedules and the order of their rows

The history of a schedule is sorted by the starts of its periods, and the sort is stable: for
each date it keeps the periods that start there, in the order of their rows.  A sorted list is
determined by what it holds for each date, so rows may come in every order that leaves rows
with equal starts in theirs.  The schedule of an instruction is the one that is built from the
same columns under the names of a period.
-/

namespace Cadence
namespace Stored

open Calendar Payment Recurrence Scheduling

/-! ## Sorted periods -/

section Sorted

variable {periods others : List Period}

/-- The periods that start on a date, in their order. -/
def periodsFrom (date : Date) (periods : List Period) : List Period :=
  periods.filter fun period => decide (period.startDate = date)

theorem mem_periodsFrom {date : Date} {period : Period} :
    period ∈ periodsFrom date periods ↔ period ∈ periods ∧ period.startDate = date := by
  simp [periodsFrom]

/-- Periods follow one another by their starts. -/
def AreInOrder (periods : List Period) : Prop :=
  periods.Pairwise fun earlier later => earlier.startDate ≤ later.startDate

theorem startsBy_trans (first second third : Period) :
    decide (first.startDate ≤ second.startDate) = true →
      decide (second.startDate ≤ third.startDate) = true →
      decide (first.startDate ≤ third.startDate) = true := by
  intro firstStep secondStep
  apply decide_eq_true
  exact Nat.le_trans (of_decide_eq_true firstStep) (of_decide_eq_true secondStep)

theorem startsBy_total (first second : Period) :
    (decide (first.startDate ≤ second.startDate) ||
      decide (second.startDate ≤ first.startDate)) = true := by
  rw [Bool.or_eq_true, decide_eq_true_eq, decide_eq_true_eq]
  exact Nat.le_total first.startDate.dayNumber second.startDate.dayNumber

theorem areInOrder_sortPeriods (periods : List Period) : AreInOrder (sortPeriods periods) := by
  have sorted := List.pairwise_mergeSort startsBy_trans startsBy_total periods
  exact sorted.imp of_decide_eq_true

/-- Sorting leaves periods with equal starts in their order. -/
theorem periodsFrom_sortPeriods (date : Date) (periods : List Period) :
    periodsFrom date (sortPeriods periods) = periodsFrom date periods := by
  have allTied : (periodsFrom date periods).Pairwise fun earlier later =>
      decide (earlier.startDate ≤ later.startDate) = true := by
    apply List.pairwise_of_forall_mem_list
    intro earlier isEarlier later isLater
    rw [decide_eq_true_eq, (mem_periodsFrom.mp isEarlier).2, (mem_periodsFrom.mp isLater).2]
    exact Nat.le_refl date.dayNumber
  have kept : (periodsFrom date periods).Sublist (sortPeriods periods) :=
    List.sublist_mergeSort startsBy_trans startsBy_total allTied List.filter_sublist
  have keptThere : (periodsFrom date periods).Sublist
      (periodsFrom date (sortPeriods periods)) := by
    have filtered := kept.filter fun period => decide (period.startDate = date)
    simpa [periodsFrom] using filtered
  have sameLength := ((sortPeriods_perm periods).filter
    fun period => decide (period.startDate = date)).length_eq
  exact (keptThere.eq_of_length sameLength.symm).symm

/-- The first of ordered periods starts no later than other ordered periods in which its start
occurs. -/
theorem startDate_le_of_periodsFrom_eq
    {first second : Period}
    (ordered : AreInOrder (second :: others))
    (same : periodsFrom first.startDate (first :: periods) =
      periodsFrom first.startDate (second :: others)) :
    second.startDate ≤ first.startDate := by
  have member : first ∈ periodsFrom first.startDate (second :: others) := by
    rw [← same, mem_periodsFrom]
    exact ⟨List.mem_cons_self .., rfl⟩
  rcases List.mem_cons.mp (mem_periodsFrom.mp member).1 with isSecond | isLater
  · rw [isSecond]
    exact Nat.le_refl _
  · exact List.rel_of_pairwise_cons ordered isLater

/-- Ordered periods are determined by the periods that start on each date. -/
theorem eq_of_periodsFrom_eq
    (ordered : AreInOrder periods)
    (othersOrdered : AreInOrder others)
    (same : ∀ date, periodsFrom date periods = periodsFrom date others) :
    periods = others := by
  induction periods generalizing others with
  | nil =>
      cases others with
      | nil => rfl
      | cons second others =>
          have none := same second.startDate
          simp [periodsFrom] at none
  | cons first periods hypothesis =>
      cases others with
      | nil =>
          have none := same first.startDate
          simp [periodsFrom] at none
      | cons second others =>
          have sameStart : first.startDate = second.startDate := by
            apply Date.ext
            apply Nat.le_antisymm
            · exact startDate_le_of_periodsFrom_eq ordered (same second.startDate).symm
            · exact startDate_le_of_periodsFrom_eq othersOrdered (same first.startDate)
          have sameFirst : first = second := by
            have heads := congrArg List.head? (same first.startDate)
            simpa [periodsFrom, sameStart] using heads
          subst sameFirst
          have sameRest : periods = others := by
            apply hypothesis ordered.of_cons othersOrdered.of_cons
            intro date
            have both := same date
            unfold periodsFrom at both ⊢
            rw [List.filter_cons, List.filter_cons] at both
            split at both
            · exact (List.cons.inj both).2
            · exact both
          rw [sameRest]

/-- Sorted periods depend only on the order of those with equal starts. -/
theorem sortPeriods_eq_of_periodsFrom_eq
    (same : ∀ date, periodsFrom date periods = periodsFrom date others) :
    sortPeriods periods = sortPeriods others := by
  apply eq_of_periodsFrom_eq (areInOrder_sortPeriods periods) (areInOrder_sortPeriods others)
  intro date
  rw [periodsFrom_sortPeriods, periodsFrom_sortPeriods, same]

end Sorted

/-! ## Rows in another order -/

/-- The date in the start column of a row. -/
def Row.startDate? (row : Row) : Option Date :=
  (Row.value? row "start_date").bind Value.date?

/-- The rows that start on a date, in their order. -/
def rowsFrom (date : Date) (rows : List Row) : List Row :=
  rows.filter fun row => decide (Row.startDate? row = some date)

theorem mem_rowsFrom {date : Date} {rows : List Row} {row : Row} :
    row ∈ rowsFrom date rows ↔ row ∈ rows ∧ Row.startDate? row = some date := by
  simp [rowsFrom]

theorem startDate_of_of?
    {rule : Option Rule}
    {startDate : Date}
    {endDate : Option Date}
    {period : Period}
    (made : Period.of? rule startDate endDate = .ok period) : period.startDate = startDate := by
  cases endDate with
  | none =>
      cases made
      rfl
  | some endDate =>
      simp only [Period.of?] at made
      split at made
      · cases made
        rfl
      · cases made

/-- A period is put together exactly when it does not end before it starts and its rule text is
read. -/
theorem assemblePeriod_eq_ok_iff
    {endColumn : String}
    {problem : Date → Date → Problem}
    {recurrence : Option String}
    {startDate : Date}
    {endDate : Option Date}
    {period : Period} :
    assemblePeriod endColumn problem recurrence startDate endDate = .ok period ↔
      ∃ stretch rule, Period.of? none startDate endDate = .ok stretch ∧
        readStoredRule recurrence = .ok rule ∧ period = { stretch with rule } := by
  unfold assemblePeriod
  cases Period.of? none startDate endDate with
  | error fault => simp
  | ok stretch =>
      cases readStoredRule recurrence with
      | error error => simp [Except.map]
      | ok rule => simp [Except.map, eq_comm]

/-- A period starts on the date in the start column of its row. -/
theorem startDate?_of_buildPeriod
    {row : Row}
    {period : Period}
    (built : buildPeriod row = .ok period) :
    Row.startDate? row = some period.startDate := by
  unfold buildPeriod at built
  obtain ⟨columns, columnsRead, assembled⟩ := bind_eq_ok_iff.mp built
  obtain ⟨stretch, rule, made, _, rfl⟩ := assemblePeriod_eq_ok_iff.mp assembled
  unfold readPeriodColumns at columnsRead
  simp only [mapError_eq_ok_iff, bind_eq_ok_iff] at columnsRead
  obtain ⟨_, _, recurrence, _, startDate, startRead, endDate, _, isColumns⟩ := columnsRead
  cases isColumns
  have sameStart : stretch.startDate = startDate := startDate_of_of? made
  unfold Row.read at startRead
  unfold Row.startDate?
  split at startRead
  · cases startRead
  · next value isValue =>
      have read := mapError_eq_ok_iff.mp startRead
      unfold readDate at read
      split at read
      · next found =>
          cases read
          rw [isValue, Option.bind_some, found, sameStart]
      · cases read

/-- Rows build together exactly when each row builds on its own. -/
theorem exists_buildPeriods_iff {rows : List Row} :
    (∃ periods, buildPeriods rows = .ok periods) ↔
      ∀ row ∈ rows, ∃ period, buildPeriod row = .ok period := by
  induction rows with
  | nil => simp [buildPeriods]
  | cons row rows hypothesis =>
      rw [List.forall_mem_cons, ← hypothesis]
      simp only [buildPeriods, bind_eq_ok_iff]
      constructor
      · intro builds
        obtain ⟨_, period, rowBuilt, periods, rowsBuilt, _⟩ := builds
        exact ⟨⟨period, rowBuilt⟩, periods, rowsBuilt⟩
      · intro builds
        obtain ⟨⟨period, rowBuilt⟩, periods, rowsBuilt⟩ := builds
        exact ⟨period :: periods, period, rowBuilt, periods, rowsBuilt, rfl⟩

/-- The periods that start on a date are those of the rows that do. -/
theorem map_buildPeriod_rowsFrom
    {rows : List Row}
    {periods : List Period}
    (built : rows.map buildPeriod = periods.map .ok)
    (date : Date) :
    (rowsFrom date rows).map buildPeriod = (periodsFrom date periods).map .ok := by
  induction rows generalizing periods with
  | nil =>
      cases periods with
      | nil => rfl
      | cons period periods => cases built
  | cons row rows hypothesis =>
      cases periods with
      | nil => cases built
      | cons period periods =>
          rw [List.map_cons, List.map_cons, List.cons.injEq] at built
          obtain ⟨rowBuilt, rowsBuilt⟩ := built
          have sameStart : decide (Row.startDate? row = some date) =
              decide (period.startDate = date) := by
            rw [decide_eq_decide, startDate?_of_buildPeriod rowBuilt, Option.some.injEq]
          have rest := hypothesis rowsBuilt
          unfold rowsFrom periodsFrom at rest ⊢
          rw [List.filter_cons, List.filter_cons, sameStart]
          split
          · rw [List.map_cons, List.map_cons, rowBuilt, rest]
          · exact rest

/-- Rows in another order that leaves rows with equal starts in theirs. -/
structure IsReordering (rows otherRows : List Row) : Prop where
  perm : otherRows.Perm rows
  ties : ∀ date, rowsFrom date otherRows = rowsFrom date rows

namespace IsReordering

variable {rows otherRows : List Row}

theorem symm (reordering : IsReordering rows otherRows) : IsReordering otherRows rows where
  perm := reordering.perm.symm
  ties date := (reordering.ties date).symm

/-- Rows with distinct starts may come in any order. -/
theorem of_nodup
    (perm : otherRows.Perm rows)
    (distinct : (rows.map Row.startDate?).Nodup) : IsReordering rows otherRows where
  perm := perm
  ties date := by
    have filtered : (rowsFrom date otherRows).Perm (rowsFrom date rows) := perm.filter _
    have isAlone : (rowsFrom date rows).length ≤ 1 := by
      have starts : (rowsFrom date rows).map Row.startDate? =
          List.replicate (rowsFrom date rows).length (some date) := by
        rw [List.map_eq_replicate_iff]
        exact fun row member => (mem_rowsFrom.mp member).2
      rw [← List.nodup_replicate, ← starts]
      exact (List.filter_sublist.map Row.startDate?).nodup distinct
    cases isList : rowsFrom date rows with
    | nil =>
        rw [isList, List.perm_nil] at filtered
        exact filtered
    | cons row others =>
        rw [isList, List.length_cons] at isAlone
        have noOthers : others = [] := List.length_eq_zero_iff.mp (by omega)
        rw [isList, noOthers, List.perm_singleton] at filtered
        rw [filtered, noOthers]

/-- Reordered rows build the same sorted periods. -/
theorem exists_buildPeriods
    (reordering : IsReordering rows otherRows)
    {periods : List Period}
    (built : buildPeriods rows = .ok periods) :
    ∃ others, buildPeriods otherRows = .ok others ∧ sortPeriods others = sortPeriods periods := by
  obtain ⟨others, othersBuilt⟩ : ∃ others, buildPeriods otherRows = .ok others := by
    rw [exists_buildPeriods_iff]
    intro row member
    exact exists_buildPeriods_iff.mp ⟨periods, built⟩ row (reordering.perm.mem_iff.mp member)
  refine ⟨others, othersBuilt, sortPeriods_eq_of_periodsFrom_eq ?_⟩
  intro date
  have rowsBuilt := map_buildPeriod_rowsFrom (buildPeriods_eq_ok_iff.mp built) date
  have otherRowsBuilt := map_buildPeriod_rowsFrom (buildPeriods_eq_ok_iff.mp othersBuilt) date
  rw [reordering.ties, rowsBuilt] at otherRowsBuilt
  exact List.map_injective_iff.mpr (fun _ _ => Except.ok.inj) otherRowsBuilt.symm

end IsReordering

/-- A schedule is built exactly from a current row that builds and history rows that do. -/
theorem buildSchedule_eq_ok_iff
    {id : String}
    {currentRow : Row}
    {historyRows : List Row}
    {schedule : Schedule} :
    buildSchedule id currentRow historyRows = .ok schedule ↔
      ∃ periods current, buildPeriods historyRows = .ok periods ∧
        buildPeriod currentRow = .ok current ∧
        schedule = ⟨id, current, sortPeriods periods⟩ := by
  unfold buildSchedule
  simp only [bind_eq_ok_iff]
  constructor
  · intro builds
    obtain ⟨periods, historyBuilt, current, currentBuilt, isSchedule⟩ := builds
    cases isSchedule
    exact ⟨periods, current, historyBuilt, currentBuilt, rfl⟩
  · intro builds
    obtain ⟨periods, current, historyBuilt, currentBuilt, rfl⟩ := builds
    exact ⟨periods, historyBuilt, current, currentBuilt, rfl⟩

theorem buildSchedule_of_isReordering
    {id : String}
    {currentRow : Row}
    {rows otherRows : List Row}
    {schedule : Schedule}
    (reordering : IsReordering rows otherRows)
    (built : buildSchedule id currentRow rows = .ok schedule) :
    buildSchedule id currentRow otherRows = .ok schedule := by
  obtain ⟨periods, current, historyBuilt, currentBuilt, rfl⟩ := buildSchedule_eq_ok_iff.mp built
  obtain ⟨others, othersBuilt, sameSorted⟩ := reordering.exists_buildPeriods historyBuilt
  apply buildSchedule_eq_ok_iff.mpr
  exact ⟨others, current, othersBuilt, currentBuilt, by rw [sameSorted]⟩

/-! ## The current period of an instruction -/

section Columns

variable {Meaning : Type} {row : Row} {name : String} {meaning : Meaning}
variable {read : Value → Except Problem Meaning}

/-- Under distinct names each value is the one of its column. -/
theorem value?_eq_some_of_mem
    {value : Value}
    (distinct : (row.map Prod.fst).Nodup)
    (member : (name, value) ∈ row) : Row.value? row name = some value := by
  unfold Row.value?
  cases found : row.find? fun column => column.1 == name with
  | none =>
      have noColumn := List.find?_eq_none.mp found (name, value) member
      exact absurd (beq_self_eq_true name) noColumn
  | some column =>
      have sameName : column.1 = name := by simpa using List.find?_some found
      have sameColumn := List.inj_on_of_nodup_map distinct (List.mem_of_find?_eq_some found)
        member sameName
      rw [sameColumn, Option.map_some]

/-- A row passes its check when the values of its columns do and no required one is missing. -/
theorem check_eq_ok
    {columns : List Column}
    (distinct : (row.map Prod.fst).Nodup)
    (valued : ∀ column ∈ columns, ∀ value,
      Row.value? row column.name = some value → column.check value = .ok ())
    (present : ∀ column ∈ columns, column.required = true →
      (Row.value? row column.name).isSome = true) :
    row.check columns = .ok () := by
  have noFault : row.findSome? (Column.fault? columns) = none := by
    rw [List.findSome?_eq_none_iff]
    intro entry member
    unfold Column.fault?
    cases found : columns.find? fun column => column.name == entry.1 with
    | none => rfl
    | some column =>
        have sameName : column.name = entry.1 := by simpa using List.find?_some found
        have isValue := value?_eq_some_of_mem distinct member
        rw [← sameName] at isValue
        rw [Option.bind_some, valued column (List.mem_of_find?_eq_some found) _ isValue]
  have noAbsence : columns.findSome? (Column.absence? row) = none := by
    rw [List.findSome?_eq_none_iff]
    intro column member
    unfold Column.absence?
    apply if_neg
    rw [Bool.and_eq_true, Option.isNone_iff_eq_none]
    intro missing
    have isPresent := present column member missing.1
    rw [missing.2] at isPresent
    cases isPresent
  unfold Row.check
  rw [noFault, noAbsence]

theorem read_eq_ok_iff :
    row.read name read = .ok meaning ↔
      ∃ value, Row.value? row name = some value ∧ read value = .ok meaning := by
  unfold Row.read
  cases Row.value? row name with
  | none => simp
  | some value => simp [mapError_eq_ok_iff]

/-- A column that may be empty is read as an empty one when it is missing. -/
theorem readWithDefault_readOptional_eq_ok_iff
    {read? : Value → Option Meaning}
    {meaning : Option Meaning} :
    row.readWithDefault name (readOptional read?) none = .ok meaning ↔
      readOptional read? ((Row.value? row name).getD .absent) = .ok meaning := by
  have readEmpty : readOptional read? .absent = .ok none := rfl
  unfold Row.readWithDefault
  cases Row.value? row name with
  | none => simp only [Option.getD_none, readEmpty, Except.ok.injEq]
  | some value => exact mapError_eq_ok_iff

/-- The value of a column that has been read passes its check. -/
theorem check_of_read
    {required : Bool}
    (isRead : row.read name read = .ok meaning)
    {value : Value}
    (isValue : Row.value? row name = some value) :
    (Column.of name required read).check value = .ok () := by
  obtain ⟨other, isOther, otherRead⟩ := read_eq_ok_iff.mp isRead
  rw [isValue, Option.some.injEq] at isOther
  simp only [Column.of, isOther, otherRead, Except.map]

theorem check_of_readWithDefault
    {required : Bool}
    {fallback : Meaning}
    (isRead : row.readWithDefault name read fallback = .ok meaning)
    {value : Value}
    (isValue : Row.value? row name = some value) :
    (Column.of name required read).check value = .ok () := by
  unfold Row.readWithDefault at isRead
  rw [isValue] at isRead
  simp only [Column.of, mapError_eq_ok_iff.mp isRead, Except.map]

end Columns

/-- The columns of a period are read when each of them is. -/
theorem readPeriodColumns_eq_ok
    {row : Row}
    (distinct : (row.map Prod.fst).Nodup)
    {columns : PeriodColumns}
    (recurrenceRead : row.readWithDefault "recurrence" (readOptional Value.text?) none =
      .ok columns.recurrence)
    (startRead : row.read "start_date" readDate = .ok columns.startDate)
    (endRead : row.readWithDefault "end_date" (readOptional Value.date?) none =
      .ok columns.endDate) :
    readPeriodColumns row = .ok columns := by
  have checked : row.check periodColumns = .ok () := by
    apply check_eq_ok distinct
    · intro column member value isValue
      simp only [periodColumns, List.mem_cons, List.not_mem_nil, or_false] at member
      rcases member with rfl | rfl | rfl
      · exact check_of_readWithDefault recurrenceRead isValue
      · exact check_of_read startRead isValue
      · exact check_of_readWithDefault endRead isValue
    · intro column member required
      simp only [periodColumns, List.mem_cons, List.not_mem_nil, or_false] at member
      rcases member with rfl | rfl | rfl
      · cases required
      · obtain ⟨value, isValue, _⟩ := read_eq_ok_iff.mp startRead
        exact Option.isSome_of_eq_some isValue
      · cases required
  unfold readPeriodColumns
  rw [checked, recurrenceRead, startRead, endRead]
  rfl

/-- A row holds under the names of a period what an instruction's row holds for its current
period.  A column that may be empty may as well be missing. -/
structure IsCurrentRow (row currentRow : Row) : Prop where
  distinct : (currentRow.map Prod.fst).Nodup
  recurrence : (currentRow.value? "recurrence").getD .absent =
    (row.value? "recurrence").getD .absent
  startDate : currentRow.value? "start_date" = row.value? "valid_from"
  endDate : (currentRow.value? "end_date").getD .absent =
    (row.value? "valid_till").getD .absent

theorem IsCurrentRow.readPeriodColumns
    {row currentRow : Row}
    (current : IsCurrentRow row currentRow)
    {columns : InstructionColumns}
    (columnsRead : readInstructionColumns row = .ok columns) :
    readPeriodColumns currentRow =
      .ok ⟨columns.recurrence, columns.validFrom, columns.validTill⟩ := by
  unfold readInstructionColumns at columnsRead
  simp only [bind_eq_ok_iff] at columnsRead
  obtain ⟨_, _, id, _, name, _, recurrenceType, _, amountType, _, amount, _, validFrom,
    fromRead, validTill, tillRead, recurrence, recurrenceRead, toLoanAccount, _,
    isColumns⟩ := columnsRead
  cases isColumns
  rw [readWithDefault_readOptional_eq_ok_iff, ← current.endDate,
    ← readWithDefault_readOptional_eq_ok_iff] at tillRead
  rw [readWithDefault_readOptional_eq_ok_iff, ← current.recurrence,
    ← readWithDefault_readOptional_eq_ok_iff] at recurrenceRead
  rw [read_eq_ok_iff, ← current.startDate, ← read_eq_ok_iff] at fromRead
  exact readPeriodColumns_eq_ok current.distinct recurrenceRead fromRead tillRead

/-- The schedule of an instruction is built from the columns of its current period. -/
theorem buildSchedule_of_buildInstruction
    {row currentRow : Row}
    {historyRows : List Row}
    {instruction : Instruction}
    (built : buildInstruction row historyRows = .ok instruction)
    (current : IsCurrentRow row currentRow) :
    buildSchedule instruction.id currentRow historyRows = .ok instruction.schedule := by
  unfold buildInstruction at built
  simp only [bind_eq_ok_iff, mapError_eq_ok_iff] at built
  obtain ⟨columns, columnsRead, validity, validityMade, _, _, rule, ruleRead, history,
    historyBuilt, isInstruction⟩ := built
  cases isInstruction
  apply buildSchedule_eq_ok_iff.mpr
  refine ⟨history, { validity with rule }, historyBuilt, ?_, rfl⟩
  unfold buildPeriod
  rw [current.readPeriodColumns columnsRead]
  apply assemblePeriod_eq_ok_iff.mpr
  exact ⟨validity, rule, mapError_eq_ok_iff.mp validityMade, ruleRead, rfl⟩

/-! ## Schedules from rows -/

/-- A schedule is built exactly when each of its rows builds on its own.  It then holds the
period of the current row and, in the order of their starts, the periods of the history rows,
each as often as it comes.  Reordered history rows build the same schedule when rows with equal
starts stay in their order, or when no two rows start on one day.  The schedule of an instruction
is the one that is built from its recurrence and its first and last day as a current row. -/
theorem schedules_independent_of_row_order :
    (∀ id currentRow historyRows,
      (∃ schedule, buildSchedule id currentRow historyRows = .ok schedule) ↔
        ∀ row ∈ currentRow :: historyRows, ∃ period, buildPeriod row = .ok period) ∧
    (∀ id currentRow historyRows schedule,
      buildSchedule id currentRow historyRows = .ok schedule →
      schedule.id = id ∧
      buildPeriod currentRow = .ok schedule.current ∧
      (∃ periods, historyRows.map buildPeriod = periods.map .ok ∧
        schedule.history.Perm periods) ∧
      schedule.history.Pairwise fun earlier later => earlier.startDate ≤ later.startDate) ∧
    (∀ id currentRow historyRows otherRows,
      otherRows.Perm historyRows →
      (∀ date, rowsFrom date otherRows = rowsFrom date historyRows) ∨
        (historyRows.map Row.startDate?).Nodup →
      ∀ schedule, buildSchedule id currentRow otherRows = .ok schedule ↔
        buildSchedule id currentRow historyRows = .ok schedule) ∧
    ∀ row historyRows instruction currentRow,
      buildInstruction row historyRows = .ok instruction →
      IsCurrentRow row currentRow →
      buildSchedule instruction.id currentRow historyRows = .ok instruction.schedule := by
  refine ⟨?_, ?_, ?_, ?_⟩
  · intro id currentRow historyRows
    rw [List.forall_mem_cons, ← exists_buildPeriods_iff]
    simp only [buildSchedule_eq_ok_iff]
    constructor
    · intro builds
      obtain ⟨_, periods, current, historyBuilt, currentBuilt, _⟩ := builds
      exact ⟨⟨current, currentBuilt⟩, periods, historyBuilt⟩
    · intro builds
      obtain ⟨⟨current, currentBuilt⟩, periods, historyBuilt⟩ := builds
      exact ⟨_, periods, current, historyBuilt, currentBuilt, rfl⟩
  · intro id currentRow historyRows schedule built
    obtain ⟨periods, current, historyBuilt, currentBuilt, rfl⟩ :=
      buildSchedule_eq_ok_iff.mp built
    exact ⟨rfl, currentBuilt, ⟨periods, buildPeriods_eq_ok_iff.mp historyBuilt,
      sortPeriods_perm periods⟩, areInOrder_sortPeriods periods⟩
  · intro id currentRow historyRows otherRows perm keepsTies schedule
    have reordering : IsReordering historyRows otherRows := by
      rcases keepsTies with ties | distinct
      · exact ⟨perm, ties⟩
      · exact .of_nodup perm distinct
    constructor
    · exact buildSchedule_of_isReordering reordering.symm
    · exact buildSchedule_of_isReordering reordering
  · intro row historyRows instruction currentRow built current
    exact buildSchedule_of_buildInstruction built current

/-- A rent whose validity is written as a date and whose recurrence is left out has the schedule
of a current row with an empty recurrence, and the two earlier periods that start on one day keep
their order when the third moves between them. -/
theorem schedules_independent_of_row_order_rent :
    let row : Row := [
      ("name", .text "Rent"), ("id", .int 7), ("recurrence_type", .text "ONE_OFF"),
      ("instruction_type", .text "fixed_amount"), ("amount", .text "100.00"),
      ("valid_till", .text "2024/12/31"), ("valid_from", .date ⟨738885, by decide⟩)]
    let currentRow : Row := [
      ("recurrence", .absent), ("start_date", .date ⟨738885, by decide⟩),
      ("end_date", .text "2024/12/31")]
    let weekly : Row := [
      ("start_date", .text "2023-01-02"), ("recurrence", .text "FREQ=WEEKLY;BYDAY=MO")]
    let monthly : Row := [
      ("start_date", .text "2 Jan 2023"), ("recurrence", .text "FREQ=MONTHLY;BYMONTHDAY=-1")]
    let daily : Row := [
      ("start_date", .text "2022-01-01"), ("recurrence", .text "freq=daily")]
    ∃ instruction,
      buildInstruction row [weekly, monthly, daily] = .ok instruction ∧
      buildSchedule instruction.id currentRow [weekly, monthly, daily] =
        .ok instruction.schedule ∧
      buildSchedule instruction.id currentRow [weekly, daily, monthly] =
        .ok instruction.schedule := by
  intro row currentRow weekly monthly daily
  obtain ⟨_, _, reordered, fromInstruction⟩ := schedules_independent_of_row_order
  have builds : (buildInstruction row [weekly, monthly, daily]).isOk = true := by decide
  obtain ⟨instruction, built⟩ := exists_eq_ok_of_isOk builds
  have current : IsCurrentRow row currentRow := ⟨by decide, rfl, rfl, rfl⟩
  have same := fromInstruction row _ instruction currentRow built current
  refine ⟨instruction, built, same, ?_⟩
  have perm : [weekly, daily, monthly].Perm [weekly, monthly, daily] :=
    .cons weekly (.swap monthly daily [])
  apply (reordered _ currentRow _ _ perm (Or.inl ?_) _).mpr same
  intro date
  unfold rowsFrom
  by_cases isDaily : Row.startDate? daily = some date
  · have notMonthly : Row.startDate? monthly ≠ some date := by
      rw [← isDaily]
      decide
    simp only [List.filter_cons, isDaily, notMonthly, decide_true, decide_false, if_true,
      Bool.false_eq_true, if_false]
  · simp only [List.filter_cons, isDaily, decide_false, Bool.false_eq_true, if_false]

end Stored
end Cadence
