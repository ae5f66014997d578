import Cadence.Proofs.Number.DigitCount
import Cadence.Proofs.Recurrence.Grammar
import Cadence.Proofs.Stored.Outcomes

/-!
# Faults that can be written

The wording of a fault needs the numbers that it is about.  Fields whose numbers have few enough
digits have no other faults than those that can be written, and the numbers of a rule text have.
-/

namespace Cadence
namespace Recurrence

open Calendar Number Stored Text

/-! ## Faults of fields -/

/-- Fields whose numbers have few enough digits to be written. -/
structure Fields.AreWritable (fields : Fields) : Prop where
  interval : fields.interval.isWritable = true
  monthDay : ∀ number ∈ fields.monthDay, isWritable number = true
  ordinal : ∀ number ∈ fields.ordinal, isWritable number = true
  month : ∀ number ∈ fields.month, isWritable number = true

theorem failsOnlyWith_checkInterval
    {given : Value}
    (writable : given.isWritable = true) :
    FailsOnlyWith (RuleFault.isWritable · = true) (checkInterval given) := by
  unfold checkInterval
  split
  · split
    · exact .ok _
    · exact .of_error writable
  · exact .of_error writable

theorem failsOnlyWith_checkField
    {Given Meaning : Type}
    {read? : Given → Option Meaning}
    {fault : Given → RuleFault}
    {given : Option Given}
    (writable : ∀ value ∈ given, (fault value).isWritable = true) :
    FailsOnlyWith (RuleFault.isWritable · = true) (checkField read? fault given) := by
  unfold checkField
  split
  · exact .ok none
  · next value =>
      split
      · exact .ok _
      · exact .of_error (writable value rfl)

theorem failsOnlyWith_checkOrdinal
    {weekday : Option Weekday}
    {monthDay : Option MonthDay}
    {given : Option Int}
    (writable : ∀ number ∈ given, isWritable number = true) :
    FailsOnlyWith (RuleFault.isWritable · = true) (checkOrdinal weekday monthDay given) := by
  unfold checkOrdinal
  split
  · exact .ok none
  · next number =>
      split
      · exact .of_error (writable number rfl)
      · split
        · exact .of_error rfl
        · split
          · exact .of_error rfl
          · exact .ok _

theorem failsOnlyWith_ofSelectors (frequency : Frequency) (selectors : Selectors) :
    FailsOnlyWith (RuleFault.isWritable · = true) (Pattern.ofSelectors frequency selectors) := by
  unfold Pattern.ofSelectors
  split
  · exact .of_error rfl
  · split <;> first | exact .ok _ | exact .of_error rfl

/-- Fields whose numbers can be written have no fault that cannot. -/
theorem Fields.AreWritable.failsOnlyWith_ofFields
    {fields : Fields}
    (writable : fields.AreWritable) :
    FailsOnlyWith (RuleFault.isWritable · = true) (Rule.ofFields fields) := by
  unfold Rule.ofFields
  refine .bind (failsOnlyWith_checkInterval writable.interval) fun _ => ?_
  refine .bind (failsOnlyWith_checkField fun _ _ => rfl) fun _ => ?_
  refine .bind (failsOnlyWith_checkField writable.monthDay) fun _ => ?_
  refine .bind (failsOnlyWith_checkOrdinal writable.ordinal) fun _ => ?_
  refine .bind (failsOnlyWith_checkField writable.month) fun _ => ?_
  dsimp only
  split
  · exact .bind (failsOnlyWith_ofSelectors _ _) fun _ => .ok _
  · exact .ok _

/-! ## Faults of rule texts -/

theorem failsOnlyWith_readPart (part : List Char) :
    FailsOnlyWith (RuleFault.isWritable · = true) (readPart part) := by
  unfold readPart
  split
  · exact .of_error rfl
  · dsimp only
    split
    · exact .of_error rfl
    · exact .ok _

theorem failsOnlyWith_addPiece (parts : Parts) (piece : List Char) :
    FailsOnlyWith (RuleFault.isWritable · = true) (addPiece parts piece) := by
  unfold addPiece
  dsimp only
  split
  · exact .ok parts
  · split
    · next fault fails => exact .of_error (failsOnlyWith_readPart _ fault fails)
    · split
      · exact .ok parts
      · split
        · exact .of_error rfl
        · exact .ok _

theorem failsOnlyWith_addPieces (parts : Parts) (pieces : List (List Char)) :
    FailsOnlyWith (RuleFault.isWritable · = true) (addPieces parts pieces) := by
  induction pieces generalizing parts with
  | nil => exact .ok parts
  | cons piece pieces hypothesis =>
      unfold addPieces
      split
      · next fault fails => exact .of_error (failsOnlyWith_addPiece parts piece fault fails)
      · next extended _ => exact hypothesis extended

theorem failsOnlyWith_frequencyOfParts (parts : Parts) :
    FailsOnlyWith (RuleFault.isWritable · = true) (frequencyOfParts parts) := by
  unfold frequencyOfParts
  split
  · exact .of_error rfl
  · split
    · exact .of_error rfl
    · exact .ok _

theorem failsOnlyWith_numberOfParts (parts : Parts) (key : Key) :
    FailsOnlyWith (RuleFault.isWritable · = true) (numberOfParts parts key) := by
  unfold numberOfParts
  split
  · exact .ok none
  · split
    · exact .of_error rfl
    · exact .ok _

/-- A number that is read from a text has few enough digits to be written. -/
theorem isWritable_of_numberOfParts
    {parts : Parts}
    {key : Key}
    {given : Option Int}
    (read : numberOfParts parts key = .ok given) :
    ∀ number ∈ given, isWritable number = true := by
  rintro number rfl
  obtain ⟨value, _, isNumber⟩ := Option.bind_eq_some_iff.mp (numberOfParts_eq_ok_iff.mp read).2.symm
  exact isWritable_iff.mpr (length_naturalDigits_of_readInteger? isNumber)

theorem failsOnlyWith_intervalOfParts (parts : Parts) :
    FailsOnlyWith (RuleFault.isWritable · = true) (intervalOfParts parts) := by
  unfold intervalOfParts
  split
  · next fault fails => exact .of_error (failsOnlyWith_numberOfParts _ _ fault fails)
  · exact .ok 1
  · next interval read =>
      split
      · exact .ok interval
      · exact .of_error (isWritable_of_numberOfParts read interval rfl)

theorem isWritable_of_intervalOfParts
    {parts : Parts}
    {interval : Int}
    (read : intervalOfParts parts = .ok interval) : isWritable interval = true := by
  unfold intervalOfParts at read
  split at read
  · cases read
  · cases read
    decide
  · next isRead =>
      split at read
      · cases read
        exact isWritable_of_numberOfParts isRead interval rfl
      · cases read

theorem failsOnlyWith_weekdayOfParts (parts : Parts) :
    FailsOnlyWith (RuleFault.isWritable · = true) (weekdayOfParts parts) := by
  unfold weekdayOfParts
  split
  · exact .ok none
  · split
    · exact .of_error rfl
    · exact .ok _

theorem isWritable_ordinalNumber (ordinal : WeekdayOrdinal) :
    isWritable ordinal.number = true := by
  cases ordinal <;> decide

theorem areWritable_usedFields
    {frequency : Frequency}
    {interval : Int}
    {weekday : Option Weekday}
    {monthDay : Option Int}
    {ordinal : Option WeekdayOrdinal}
    {month : Option Int}
    (intervalWritable : isWritable interval = true)
    (monthDayWritable : ∀ number ∈ monthDay, isWritable number = true)
    (monthWritable : ∀ number ∈ month, isWritable number = true) :
    (usedFields frequency interval weekday monthDay ordinal month).AreWritable := by
  refine ⟨?_, ?_, ?_, ?_⟩
  · rw [interval_usedFields]
    exact intervalWritable
  · intro number isKept
    exact monthDayWritable number (monthDay_usedFields_eq_some_iff.mp isKept).2
  · intro number isKept
    obtain ⟨place, _, rfl⟩ :=
      Option.map_eq_some_iff.mp (ordinal_usedFields_eq_some_iff.mp isKept).2
    exact isWritable_ordinalNumber place
  · intro number isKept
    exact monthWritable number (month_usedFields_eq_some_iff.mp isKept).2

theorem failsOnlyWith_ruleOfParts (parts : Parts) :
    FailsOnlyWith (RuleFault.isWritable · = true) (ruleOfParts parts) := by
  unfold ruleOfParts
  refine .bind (failsOnlyWith_frequencyOfParts parts) fun _ => ?_
  refine .bind_of_ok (failsOnlyWith_intervalOfParts parts) fun _ intervalRead => ?_
  refine .bind (failsOnlyWith_weekdayOfParts parts) fun _ => ?_
  refine .bind_of_ok (failsOnlyWith_numberOfParts parts _) fun _ monthDayRead => ?_
  refine .bind (failsOnlyWith_numberOfParts parts _) fun _ => ?_
  refine .bind_of_ok (failsOnlyWith_numberOfParts parts _) fun _ monthRead => ?_
  exact (areWritable_usedFields (isWritable_of_intervalOfParts intervalRead)
    (isWritable_of_numberOfParts monthDayRead)
    (isWritable_of_numberOfParts monthRead)).failsOnlyWith_ofFields

/-- The fault of a rule text can always be written. -/
theorem failsOnlyWith_readRule (text : String) :
    FailsOnlyWith (fun malformed => malformed.fault.isWritable = true) (readRule text) := by
  unfold readRule
  split
  · exact .ok none
  · split
    · next fault fails => exact .of_error (failsOnlyWith_addPieces _ _ fault fails)
    · next parts _ =>
        split
        · next fault fails => exact .of_error (failsOnlyWith_ruleOfParts parts fault fails)
        · exact .ok _

end Recurrence
end Cadence
