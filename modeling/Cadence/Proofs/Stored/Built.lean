import Cadence.Proofs.Payment.Evaluable
import Cadence.Proofs.Recurrence.RoundTrip
import Cadence.Proofs.Scheduling.EditRuns
import Cadence.Proofs.Stored.Outcomes
import Cadence.Stored.Instruction

/-!
# What is built from rows

Rows that are not accepted are refused for a column that is checked or for a rule text that
cannot be read, and for nothing else.  An instruction that is built from rows can be evaluated
on every day.
-/

namespace Cadence
namespace Stored

open Calendar Number Payment Recurrence Scheduling Text

/-! ## Refusals -/

/-- The fault of a row is that of a column which is checked. -/
theorem failsOnlyWith_check (row : Row) (columns : List Column) :
    FailsOnlyWith (fun error => error.field ∈ columns.map Column.name) (row.check columns) := by
  unfold Row.check
  split
  · next error found =>
      obtain ⟨entry, _, isFault⟩ := List.exists_of_findSome?_eq_some found
      obtain ⟨column, isColumn, fails⟩ := Option.bind_eq_some_iff.mp isFault
      apply FailsOnlyWith.of_error
      have sameName : column.name = entry.1 := by simpa using List.find?_some isColumn
      split at fails
      · cases fails
      · cases fails
        exact sameName ▸ List.mem_map_of_mem (List.mem_of_find?_eq_some isColumn)
  · split
    · next error found =>
        obtain ⟨column, isColumn, isAbsent⟩ := List.exists_of_findSome?_eq_some found
        unfold Column.absence? at isAbsent
        split at isAbsent
        · cases isAbsent
          exact .of_error (List.mem_map_of_mem isColumn)
        · cases isAbsent
    · exact .ok ()

section Columns

variable {Meaning : Type} {columns : List Column} (row : Row) {name : String}
variable (isChecked : name ∈ columns.map Column.name) (read : Value → Except Problem Meaning)
include isChecked

theorem failsOnlyWith_read :
    FailsOnlyWith (fun error => error.field ∈ columns.map Column.name) (row.read name read) := by
  unfold Row.read
  split
  · exact .of_error isChecked
  · exact .mapError fun _ _ => isChecked

theorem failsOnlyWith_readWithDefault (fallback : Meaning) :
    FailsOnlyWith (fun error => error.field ∈ columns.map Column.name)
      (row.readWithDefault name read fallback) := by
  unfold Row.readWithDefault
  split
  · exact .ok fallback
  · exact .mapError fun _ _ => isChecked

end Columns

theorem failsOnlyWith_readPeriodColumns (row : Row) :
    FailsOnlyWith (fun error => error.field ∈ periodColumns.map Column.name)
      (readPeriodColumns row) := by
  unfold readPeriodColumns
  refine .bind (failsOnlyWith_check row periodColumns) fun _ => ?_
  refine .bind (failsOnlyWith_readWithDefault row (by decide) _ _) fun _ => ?_
  refine .bind (failsOnlyWith_read row (by decide) _) fun _ => ?_
  exact .bind (failsOnlyWith_readWithDefault row (by decide) _ _) fun _ => .ok _

theorem failsOnlyWith_readInstructionColumns (row : Row) :
    FailsOnlyWith (fun error => error.field ∈ instructionColumns.map Column.name)
      (readInstructionColumns row) := by
  unfold readInstructionColumns
  refine .bind (failsOnlyWith_check row instructionColumns) fun _ => ?_
  refine .bind (failsOnlyWith_read row (by decide) _) fun _ => ?_
  refine .bind (failsOnlyWith_read row (by decide) _) fun _ => ?_
  refine .bind (failsOnlyWith_read row (by decide) _) fun _ => ?_
  refine .bind (failsOnlyWith_read row (by decide) _) fun _ => ?_
  refine .bind (failsOnlyWith_readWithDefault row (by decide) _ _) fun _ => ?_
  refine .bind (failsOnlyWith_read row (by decide) _) fun _ => ?_
  refine .bind (failsOnlyWith_readWithDefault row (by decide) _ _) fun _ => ?_
  refine .bind (failsOnlyWith_readWithDefault row (by decide) _ _) fun _ => ?_
  exact .bind (failsOnlyWith_readWithDefault row (by decide) _ _) fun _ => .ok _

/-- A refusal of stored values: a problem with one of some columns, or a rule text that cannot
be read. -/
def BuildError.IsRefusal (columns : List Column) : BuildError → Prop
  | invalid error => error.field ∈ columns.map Column.name
  | malformed rule => readRule rule.text = .error rule
  | infinite => False
  | unwritable => False

theorem text_of_readRule
    {text : String}
    {malformed : MalformedRule}
    (fails : readRule text = .error malformed) : malformed.text = text := by
  unfold readRule at fails
  split at fails
  · cases fails
  · split at fails
    · cases fails
      rfl
    · split at fails <;> cases fails
      rfl

theorem failsOnlyWith_readStoredRule (columns : List Column) (recurrence : Option String) :
    FailsOnlyWith (BuildError.IsRefusal columns) (readStoredRule recurrence) := by
  refine .mapError fun malformed fails => ?_
  change readRule malformed.text = .error malformed
  rw [text_of_readRule fails, fails]

theorem failsOnlyWith_assemblePeriod
    {columns : List Column}
    {endColumn : String}
    (isChecked : endColumn ∈ columns.map Column.name)
    (problem : Date → Date → Problem)
    (recurrence : Option String)
    (startDate : Date)
    (endDate : Option Date) :
    FailsOnlyWith (BuildError.IsRefusal columns)
      (assemblePeriod endColumn problem recurrence startDate endDate) := by
  unfold assemblePeriod
  split
  · exact .of_error isChecked
  · exact (failsOnlyWith_readStoredRule columns recurrence).map _

theorem failsOnlyWith_buildPeriod (row : Row) :
    FailsOnlyWith (BuildError.IsRefusal periodColumns) (buildPeriod row) := by
  unfold buildPeriod
  refine .bind (.mapError (failsOnlyWith_readPeriodColumns row)) fun columns => ?_
  exact failsOnlyWith_assemblePeriod (by decide) _ _ _ _

theorem failsOnlyWith_buildPeriods (rows : List Row) :
    FailsOnlyWith (BuildError.IsRefusal periodColumns) (buildPeriods rows) := by
  induction rows with
  | nil => exact .ok []
  | cons row rows hypothesis =>
      exact .bind (failsOnlyWith_buildPeriod row) fun _ => .bind hypothesis fun _ => .ok _

theorem failsOnlyWith_buildSchedule (id : String) (currentRow : Row) (historyRows : List Row) :
    FailsOnlyWith (BuildError.IsRefusal periodColumns)
      (buildSchedule id currentRow historyRows) := by
  unfold buildSchedule
  refine .bind (failsOnlyWith_buildPeriods historyRows) fun _ => ?_
  exact .bind (failsOnlyWith_buildPeriod currentRow) fun _ => .ok _

theorem BuildError.IsRefusal.append
    {first second : List Column}
    {error : BuildError}
    (refusal : error.IsRefusal first ∨ error.IsRefusal second) :
    error.IsRefusal (first ++ second) := by
  cases error with
  | invalid error =>
      change error.field ∈ (first ++ second).map Column.name
      rw [List.map_append, List.mem_append]
      exact refusal
  | malformed rule => exact refusal.elim id id
  | infinite => exact refusal.elim id id
  | unwritable => exact refusal.elim id id

theorem failsOnlyWith_checkInstruction
    (recurrenceType : RecurrenceType)
    (amountType : AmountType)
    (recurrence : Option String)
    (amount : Option Amount) :
    FailsOnlyWith (fun error => error.field ∈ instructionColumns.map Column.name)
      (checkInstruction recurrenceType amountType recurrence amount) := by
  unfold checkInstruction
  split
  · exact .of_error (by decide)
  · split
    · exact .of_error (by decide)
    · exact .ok ()

theorem failsOnlyWith_buildInstruction (row : Row) (historyRows : List Row) :
    FailsOnlyWith (BuildError.IsRefusal (instructionColumns ++ periodColumns))
      (buildInstruction row historyRows) := by
  have own {Value : Type} {outcome : Except BuildError Value}
      (only : FailsOnlyWith (BuildError.IsRefusal instructionColumns) outcome) :
      FailsOnlyWith (BuildError.IsRefusal (instructionColumns ++ periodColumns)) outcome :=
    only.imp fun _ refusal => .append (Or.inl refusal)
  unfold buildInstruction
  refine .bind (own (.mapError (failsOnlyWith_readInstructionColumns row))) fun columns => ?_
  refine .bind (own (.mapError ?_)) fun validity => ?_
  · unfold validityPeriod
    refine .mapError fun fault _ => ?_
    change "valid_till" ∈ instructionColumns.map Column.name
    decide
  refine .bind (own (.mapError (failsOnlyWith_checkInstruction _ _ _ _))) fun _ => ?_
  refine .bind (failsOnlyWith_readStoredRule _ _) fun rule => ?_
  refine .bind ((failsOnlyWith_buildPeriods historyRows).imp ?_) fun history => .ok _
  exact fun _ refusal => .append (Or.inr refusal)

/-! ## What is built -/

/-- A stored rule text spells a rule of a supported frequency, or none. -/
theorem isSupported_of_readStoredRule
    {recurrence : Option String}
    {rule : Option Rule}
    (read : readStoredRule recurrence = .ok rule)
    {period : Period}
    (isRule : period.rule = rule) : period.IsSupported := by
  intro given isGiven
  rw [isRule] at isGiven
  cases isGiven
  exact (Rule.isWritable_iff.mp (Rule.isWritable_of_readRule (mapError_eq_ok_iff.mp read))).1

theorem isSupported_of_buildPeriod
    {row : Row}
    {period : Period}
    (built : buildPeriod row = .ok period) : period.IsSupported := by
  unfold buildPeriod at built
  obtain ⟨columns, _, assembled⟩ := bind_eq_ok_iff.mp built
  unfold assemblePeriod at assembled
  split at assembled
  · cases assembled
  · cases read : readStoredRule columns.recurrence with
    | error error =>
        rw [read] at assembled
        cases assembled
    | ok rule =>
        rw [read] at assembled
        cases assembled
        exact isSupported_of_readStoredRule read rfl

theorem isSupported_of_buildPeriods
    {rows : List Row}
    {periods : List Period}
    (built : buildPeriods rows = .ok periods) : ∀ period ∈ periods, period.IsSupported := by
  intro period member
  have isBuilt : Except.ok period ∈ rows.map buildPeriod := by
    rw [buildPeriods_eq_ok_iff.mp built]
    exact List.mem_map_of_mem member
  obtain ⟨row, _, builds⟩ := List.mem_map.mp isBuilt
  exact isSupported_of_buildPeriod builds

theorem recurs_of_mem_recurrenceTypeNames
    {spelling : String}
    (isName : spelling ∈ recurrenceTypeNames)
    (name : String) : RecurrenceType.ofName spelling ≠ .unknown name := by
  obtain ⟨recurrenceType, isKnown, isSpelling⟩ := List.mem_map.mp isName
  obtain ⟨found, isFound⟩ : ∃ found, RecurrenceType.known.find?
      (fun known => known.name == spelling) = some found := by
    apply Option.isSome_iff_exists.mp
    rw [List.find?_isSome]
    exact ⟨recurrenceType, isKnown, by rw [isSpelling]; exact beq_self_eq_true spelling⟩
  have foundKnown := List.mem_of_find?_eq_some isFound
  unfold RecurrenceType.ofName
  rw [isFound, Option.getD_some]
  rintro rfl
  simp [RecurrenceType.known] at foundKnown

theorem mem_of_readOption
    {options : List String}
    {value : Value}
    {spelling : String}
    (read : readOption options value = .ok spelling) : spelling ∈ options := by
  unfold readOption at read
  split at read
  · dsimp only at read
    split at read
    · next isOption =>
        cases read
        exact List.contains_iff_mem.mp isOption
    · cases read
  · cases read

theorem comparable_of_readOptional
    {value : Value}
    {amount : Amount}
    (read : readOptional Value.amount? value = .ok (some amount)) :
    amount.exceedsZero? ≠ none := by
  unfold readOptional at read
  split at read
  · cases read
  · split at read
    · next found =>
        cases read
        unfold Value.amount? at found
        split at found
        · cases found
        · split at found
          · have finite := (Option.filter_eq_some_iff.mp found).2
            intro undefined
            obtain ⟨signaling, negative, payload, rfl⟩ :=
              Amount.exceedsZero?_eq_none_iff.mp undefined
            cases finite
          · cases found
    · cases read

section Reading

variable {Meaning : Type} {row : Row} {name : String} {meaning : Meaning}
variable {read : Value → Except Problem Meaning}

theorem exists_read_of_read
    (isRead : row.read name read = .ok meaning) : ∃ value, read value = .ok meaning := by
  unfold Row.read at isRead
  split at isRead
  · cases isRead
  · next value _ => exact ⟨value, mapError_eq_ok_iff.mp isRead⟩

theorem exists_read_of_readWithDefault
    {fallback : Meaning}
    (isRead : row.readWithDefault name read fallback = .ok meaning) :
    meaning = fallback ∨ ∃ value, read value = .ok meaning := by
  unfold Row.readWithDefault at isRead
  split at isRead
  · cases isRead
    exact Or.inl rfl
  · next value _ => exact Or.inr ⟨value, mapError_eq_ok_iff.mp isRead⟩

end Reading

/-- Instructions that are built from rows can be evaluated. -/
theorem isEvaluable_of_buildInstruction
    {row : Row}
    {historyRows : List Row}
    {instruction : Instruction}
    (built : buildInstruction row historyRows = .ok instruction) :
    instruction.IsEvaluable := by
  unfold buildInstruction at built
  simp only [bind_eq_ok_iff, mapError_eq_ok_iff] at built
  obtain ⟨columns, columnsRead, validity, _, _, _, rule, ruleRead, history, historyBuilt,
    isInstruction⟩ := built
  cases isInstruction
  unfold readInstructionColumns at columnsRead
  simp only [bind_eq_ok_iff] at columnsRead
  obtain ⟨_, _, id, _, name, _, recurrenceType, typeRead, amountType, _, amount, amountRead,
    validFrom, _, validTill, _, recurrence, _, toLoanAccount, _, isColumns⟩ := columnsRead
  cases isColumns
  refine ⟨?_, ?_, ?_⟩
  · obtain ⟨value, read⟩ := exists_read_of_read typeRead
    exact recurs_of_mem_recurrenceTypeNames (mem_of_readOption read)
  · intro period member
    rcases List.mem_append.mp member with isPast | isCurrent
    · exact isSupported_of_buildPeriods historyBuilt period
        ((sortPeriods_perm history).mem_iff.mp isPast)
    · rw [List.mem_singleton.mp isCurrent]
      exact isSupported_of_readStoredRule ruleRead rfl
  · rintro given rfl
    rcases exists_read_of_readWithDefault amountRead with isNone | ⟨value, read⟩
    · cases isNone
    · exact comparable_of_readOptional read

/-! ## Batches over built instructions -/

/-- Whatever is built from rows works.  The builders of periods, schedules and instructions
succeed or refuse their rows for a checked column or for a rule text that cannot be read.  A built
instruction gives a decision on every day, with and without dues, whose amount can be compared
with zero when the total of the dues can.  A batch over built instructions with such totals
reports, and an error in its report stands only for an instruction that needs dues which cannot
be looked up or whose look-up fails. -/
theorem built_instructions_never_fail :
    (∀ row, FailsOnlyWith (BuildError.IsRefusal periodColumns) (buildPeriod row)) ∧
    (∀ id currentRow historyRows,
      FailsOnlyWith (BuildError.IsRefusal periodColumns)
        (buildSchedule id currentRow historyRows)) ∧
    (∀ row historyRows,
      FailsOnlyWith (BuildError.IsRefusal (instructionColumns ++ periodColumns))
        (buildInstruction row historyRows)) ∧
    (∀ row historyRows instruction, buildInstruction row historyRows = .ok instruction →
      ∀ (today : Date) (dues : Option LoanDues),
        (∀ found ∈ dues, found.total.exceedsZero? ≠ none) →
        ∃ decision, instruction.evaluate today dues = .ok decision ∧
          decision.shouldTransfer? ≠ none) ∧
    ∀ {State : Type} (services : Services State) (instructions : List Instruction)
      (today : Date) (state : State),
      (∀ instruction ∈ instructions, ∃ row historyRows,
        buildInstruction row historyRows = .ok instruction) →
      (∀ lookUp ∈ services.lookUpDues, ∀ instruction state dues,
        ((lookUp instruction).run state).1 = .ok (some dues) →
        dues.total.exceedsZero? ≠ none) →
      ∃ report, ((runBatch services instructions today).run state).1 = .ok report ∧
        ∀ before instruction after, instructions = before ++ instruction :: after →
          ∃ result, report.results[before.length]? = some result ∧
            (result.status = .error →
              LacksDues services ((processAll services today before).run state).2
                instruction) := by
  refine ⟨failsOnlyWith_buildPeriod, failsOnlyWith_buildSchedule,
    failsOnlyWith_buildInstruction, ?_, ?_⟩
  · intro row historyRows instruction built today dues totalComparable
    exact (isEvaluable_of_buildInstruction built).exists_evaluate_eq_ok today totalComparable
  · intro State services instructions today state built totalsComparable
    apply runBatch_of_isEvaluable _ totalsComparable
    intro instruction member
    obtain ⟨row, historyRows, isBuilt⟩ := built instruction member
    exact isEvaluable_of_buildInstruction isBuilt

/-- A weekly rent with an earlier period is built, decided on for 8 January 2024, and run where
no dues are found. -/
theorem built_instructions_never_fail_rent :
    let monday : Date := ⟨738892, by decide⟩
    let row : Row := [
      ("id", .text "rent"), ("name", .text "Rent"), ("recurrence_type", .text "Periodic"),
      ("instruction_type", .text "fixed_amount"), ("amount", .text "100.00"),
      ("valid_from", .text "2024-01-01"), ("recurrence", .text "FREQ=WEEKLY;BYDAY=MO")]
    let historyRow : Row := [
      ("start_date", .text "2023-01-02"), ("end_date", .text "2023-12-31"),
      ("recurrence", .text "FREQ=MONTHLY;BYMONTHDAY=-1")]
    let services : Services Unit := {
      lookUpDues := some fun _ => pure (.error "loan service down")
      transfer := fun _ => pure (.ok ())
      clock := pure 0 }
    ∃ instruction, buildInstruction row [historyRow] = .ok instruction ∧
      (∃ decision, instruction.evaluate monday none = .ok decision ∧
        decision.shouldTransfer? ≠ none) ∧
      ∃ report, ((runBatch services [instruction] monday).run ()).1 = .ok report ∧
        ∃ result, report.results[0]? = some result ∧
          (result.status = .error → LacksDues services () instruction) := by
  intro monday row historyRow services
  have builds : (buildInstruction row [historyRow]).isOk = true := by decide
  obtain ⟨instruction, built⟩ := exists_eq_ok_of_isOk builds
  obtain ⟨_, _, _, decides, runs⟩ := built_instructions_never_fail
  have allBuilt : ∀ other ∈ [instruction], ∃ row historyRows,
      buildInstruction row historyRows = .ok other := by
    intro other isOther
    rw [List.mem_singleton.mp isOther]
    exact ⟨row, [historyRow], built⟩
  obtain ⟨report, reports, results⟩ := runs services [instruction] monday () allBuilt (by
    rintro _ ⟨⟩ other state dues gives
    cases gives)
  exact ⟨instruction, built, decides row [historyRow] instruction built monday none nofun,
    report, reports, results [] instruction [] rfl⟩

end Stored
end Cadence
