import Cadence.Proofs.Recurrence.RoundTrip

/-!
# The fields that parts spell

Parts make a rule exactly when all of their values can be understood and the fields that the
frequency keeps are the fields of a rule.  Checking fields changes none of them, so the rule
that fields make is the one with these fields, and which fields are those of a rule is a
matter of ranges alone.
-/

namespace Cadence
namespace Recurrence

open Calendar Number Text

/-! ## Numbers of selectors -/

theorem MonthDay.exists_number_eq_iff {number : Int} :
    (∃ day : MonthDay, day.number = number) ↔ number = -1 ∨ 1 ≤ number ∧ number ≤ 31 := by
  constructor
  · rintro ⟨day, rfl⟩
    cases day with
    | last => exact .inl rfl
    | numbered natural inRange =>
        right
        change 1 ≤ (natural : Int) ∧ (natural : Int) ≤ 31
        omega
  · rintro (rfl | inRange)
    · exact ⟨.last, rfl⟩
    · refine ⟨.numbered number.toNat (by omega), ?_⟩
      exact Int.toNat_of_nonneg (by omega)

theorem MonthDay.number_of_ofNumber?
    {number : Int}
    {day : MonthDay}
    (understood : ofNumber? number = some day) : day.number = number := by
  unfold ofNumber? at understood
  split at understood
  · next isLast =>
      cases understood
      exact isLast.symm
  · split at understood
    · next inRange =>
        cases understood
        exact Int.toNat_of_nonneg (by omega)
    · cases understood

theorem monthNumber_ofCount {number : Int} (inRange : 1 ≤ number ∧ number ≤ 12) :
    ((Month.ofCount (number - 1).toNat).number : Int) = number := by
  unfold Month.number
  rw [Month.index_ofCount]
  omega

theorem exists_monthNumber_eq_iff {number : Int} :
    (∃ month : Month, (month.number : Int) = number) ↔ 1 ≤ number ∧ number ≤ 12 := by
  constructor
  · rintro ⟨month, rfl⟩
    have small := month.index_lt
    unfold Month.number
    omega
  · intro inRange
    exact ⟨_, monthNumber_ofCount inRange⟩

theorem monthNumber_of_ofNumber?
    {number : Int}
    {month : Month}
    (understood : Month.ofNumber? number = some month) : (month.number : Int) = number := by
  unfold Month.ofNumber? at understood
  split at understood
  · next inRange =>
      cases understood
      exact monthNumber_ofCount inRange
  · cases understood

theorem ordinalNumber_of_ofNumber?
    {number : Int}
    {ordinal : WeekdayOrdinal}
    (understood : WeekdayOrdinal.ofNumber? number = some ordinal) :
    ordinal.number = number := by
  have found := List.find?_some understood
  exact beq_iff_eq.mp found

theorem weekdayCode_of_ofCode?
    {name : List Char}
    {weekday : Weekday}
    (understood : Weekday.ofCode? name = some weekday) : weekday.code = name := by
  have found := List.find?_some understood
  exact beq_iff_eq.mp found

/-! ## The fields of the rule that fields make -/

theorem checkField_eq_ok_iff
    {Given Meaning : Type}
    {read? : Given → Option Meaning}
    {fault : Given → RuleFault}
    {given : Option Given}
    {meaning : Option Meaning} :
    checkField read? fault given = .ok meaning ↔
      (∀ value, given = some value → (read? value).isSome = true) ∧
        meaning = given.bind read? := by
  cases given with
  | none =>
      simp only [checkField, Except.ok.injEq, Option.bind_none, reduceCtorEq, false_implies,
        implies_true, true_and]
      exact eq_comm
  | some value =>
      simp only [checkField, Option.some.injEq, forall_eq', Option.bind_some]
      cases read? value with
      | none => simp
      | some understood => simp [eq_comm]

/-- A field that passes its check spells what it is understood as. -/
theorem map_of_checkField
    {Given Meaning : Type}
    {read? : Given → Option Meaning}
    {spell : Meaning → Given}
    (spells : ∀ value meaning, read? value = some meaning → spell meaning = value)
    {fault : Given → RuleFault}
    {given : Option Given}
    {meaning : Option Meaning}
    (checked : checkField read? fault given = .ok meaning) : meaning.map spell = given := by
  obtain ⟨allUnderstood, rfl⟩ := checkField_eq_ok_iff.mp checked
  cases given with
  | none => rfl
  | some value =>
      obtain ⟨meaning, understood⟩ := Option.isSome_iff_exists.mp (allUnderstood value rfl)
      rw [Option.bind_some, understood, Option.map_some, spells value meaning understood]

theorem map_of_checkOrdinal
    {weekday : Option Weekday}
    {monthDay : Option MonthDay}
    {number : Option Int}
    {ordinal : Option WeekdayOrdinal}
    (checked : checkOrdinal weekday monthDay number = .ok ordinal) :
    ordinal.map WeekdayOrdinal.number = number := by
  unfold checkOrdinal at checked
  split at checked
  · cases checked
    rfl
  · split at checked
    · cases checked
    · next understood =>
        split at checked
        · cases checked
        · split at checked
          · cases checked
          · cases checked
            rw [Option.map_some, ordinalNumber_of_ofNumber? understood]

theorem Frequency.code_injective {first second : Frequency}
    (sameCode : first.code = second.code) : first = second := by
  have sameFrequency := congrArg Frequency.ofCode? sameCode
  simpa using sameFrequency

theorem Rule.frequency?_of_frequencyCode
    {rule : Rule}
    {frequency : Frequency}
    (sameCode : rule.frequencyCode = frequency.code) : rule.frequency? = some frequency := by
  obtain ⟨interval, pattern, positive⟩ := rule
  cases pattern with
  | foreign foreignFrequency selectors =>
      have unlisted := foreignFrequency.unlisted
      have named : foreignFrequency.name = frequency.code := sameCode
      rw [named, Frequency.ofCode?_code] at unlisted
      cases unlisted
  | _ => exact congrArg some (Frequency.code_injective sameCode)

/-- Fields that make a rule are its fields, whatever the frequency is called. -/
theorem Rule.fields_of_ofFields
    {fields : Fields}
    {rule : Rule}
    (made : Rule.ofFields fields = .ok rule) :
    rule.fields = { fields with frequency := rule.frequencyCode } := by
  unfold Rule.ofFields at made
  simp only [bind_eq_ok_iff] at made
  obtain ⟨⟨interval, positive⟩, intervalChecked, weekday, weekdayChecked, monthDay,
    monthDayChecked, ordinal, ordinalChecked, month, monthChecked, rest⟩ := made
  have sameSelectors : rule.interval = interval ∧
      rule.selectors = ⟨weekday, monthDay, ordinal, month⟩ := by
    split at rest
    · obtain ⟨pattern, patternMade, isRule⟩ := bind_eq_ok_iff.mp rest
      cases isRule
      exact ⟨rfl, (Pattern.selectors_of_ofSelectors patternMade
        (placed_of_checkOrdinal ordinalChecked)).2⟩
    · cases rest
      exact ⟨rfl, rfl⟩
  have sameInterval := eq_int_of_checkInterval intervalChecked
  have sameWeekday := map_of_checkField (fun _ _ => weekdayCode_of_ofCode?) weekdayChecked
  have sameMonthDay :=
    map_of_checkField (fun _ _ => MonthDay.number_of_ofNumber?) monthDayChecked
  have sameOrdinal := map_of_checkOrdinal ordinalChecked
  have sameMonth := map_of_checkField (fun _ _ => monthNumber_of_ofNumber?) monthChecked
  simp only [Rule.fields, sameSelectors, sameInterval, sameWeekday, sameMonthDay,
    sameOrdinal, sameMonth]

/-- Fields with the spelling of a frequency make exactly the rule that has these fields. -/
theorem Rule.ofFields_eq_ok_iff_fields_eq
    {fields : Fields}
    {rule : Rule}
    {frequency : Frequency}
    (named : fields.frequency = frequency.code) :
    Rule.ofFields fields = .ok rule ↔ rule.fields = fields := by
  constructor
  · intro made
    have isRead : readFrequency fields.frequency = .inl frequency := by
      rw [named, readFrequency_code]
    have supported := ((Rule.ofFields_eq_ok_iff isRead).mp made).1
    have sameFrequency : rule.frequencyCode = frequency.code :=
      Pattern.frequencyCode_of_frequency? supported
    rw [Rule.fields_of_ofFields made, sameFrequency, ← named]
  · rintro rfl
    exact Rule.ofFields_fields (Rule.frequency?_of_frequencyCode named)

theorem exists_map_eq_of_forall
    {Given Meaning : Type}
    {spell : Meaning → Given}
    {given : Option Given}
    (spelled : ∀ value, given = some value → ∃ meaning, spell meaning = value) :
    ∃ meaning : Option Meaning, meaning.map spell = given := by
  cases given with
  | none => exact ⟨none, rfl⟩
  | some value =>
      obtain ⟨meaning, rfl⟩ := spelled value rfl
      exact ⟨some meaning, rfl⟩

section KeptFields

variable
  {frequency : Frequency}
  {weekday : Option Weekday}
  {monthDay : Option Int}
  {ordinal : Option WeekdayOrdinal}
  {month : Option Int}

/-- Kept fields with numbers in range are those of some rule. -/
theorem exists_fields_eq_usedFields
    {interval : Nat}
    (positive : 0 < interval)
    (dayInRange : ∃ day : Option MonthDay, day.map MonthDay.number =
      (usedFields frequency interval weekday monthDay ordinal month).monthDay)
    (monthInRange : ∃ named : Option Month, (named.map fun month => (month.number : Int)) =
      (usedFields frequency interval weekday monthDay ordinal month).month) :
    ∃ rule : Rule,
      rule.fields = usedFields frequency interval weekday monthDay ordinal month := by
  obtain ⟨day, sameDay⟩ := dayInRange
  obtain ⟨named, sameMonth⟩ := monthInRange
  cases frequency with
  | daily => exact ⟨⟨interval, .daily, positive⟩, rfl⟩
  | weekly => exact ⟨⟨interval, .weekly weekday, positive⟩, rfl⟩
  | monthly =>
      have uncounted
          (keepsDay : usedFields .monthly interval weekday monthDay ordinal month =
            { Fields.plain Frequency.monthly.code interval with monthDay }) :
          ∃ rule : Rule,
            rule.fields = usedFields .monthly interval weekday monthDay ordinal month := by
        rw [keepsDay] at sameDay ⊢
        cases sameDay
        exact ⟨⟨interval, .monthly day, positive⟩, rfl⟩
      cases ordinal with
      | none => exact uncounted rfl
      | some ordinal =>
          cases weekday with
          | none => exact uncounted rfl
          | some weekday => exact ⟨⟨interval, .monthlyWeekday ordinal weekday, positive⟩, rfl⟩
  | yearly =>
      cases sameDay
      cases sameMonth
      exact ⟨⟨interval, .yearly named day, positive⟩, rfl⟩

/-- The fields that are kept for a frequency are those of a rule exactly when the interval is
positive and the kept numbers are in range. -/
theorem exists_fields_eq_usedFields_iff {interval : Int} :
    (∃ rule : Rule,
        rule.fields = usedFields frequency interval weekday monthDay ordinal month) ↔
      1 ≤ interval ∧
      (∀ number,
        (usedFields frequency interval weekday monthDay ordinal month).monthDay = some number →
          number = -1 ∨ 1 ≤ number ∧ number ≤ 31) ∧
      ∀ number,
        (usedFields frequency interval weekday monthDay ordinal month).month = some number →
          1 ≤ number ∧ number ≤ 12 := by
  constructor
  · rintro ⟨rule, same⟩
    have sameInterval := congrArg Fields.interval same
    rw [interval_usedFields] at sameInterval
    cases sameInterval
    rw [← same]
    refine ⟨by have := rule.interval_pos; omega, ?_, ?_⟩
    · intro number isDay
      obtain ⟨day, _, sameNumber⟩ := Option.map_eq_some_iff.mp isDay
      exact MonthDay.exists_number_eq_iff.mp ⟨day, sameNumber⟩
    · intro number isMonth
      obtain ⟨named, _, sameNumber⟩ := Option.map_eq_some_iff.mp isMonth
      exact exists_monthNumber_eq_iff.mp ⟨named, sameNumber⟩
  · rintro ⟨positive, dayInRange, monthInRange⟩
    obtain ⟨natural, rfl⟩ := Int.eq_ofNat_of_zero_le (Int.le_trans (by decide) positive)
    apply exists_fields_eq_usedFields (by omega)
    · apply exists_map_eq_of_forall
      exact fun number isDay => MonthDay.exists_number_eq_iff.mpr (dayInRange number isDay)
    · apply exists_map_eq_of_forall
      exact fun number isMonth => exists_monthNumber_eq_iff.mpr (monthInRange number isMonth)

end KeptFields

/-! ## What parts spell -/

namespace Parts

variable (parts : Parts)

/-- The number that a key has, when its value spells one. -/
def number? (key : Key) : Option Int :=
  (parts.value? key).bind readInteger?

/-- The weekday, when its value spells one. -/
def weekday? : Option Weekday :=
  (parts.value? .weekday).bind readWeekday?

/-- The place among equal weekdays; a number that is none does not count. -/
def ordinal? : Option WeekdayOrdinal :=
  (parts.number? .ordinal).bind WeekdayOrdinal.ofNumber?

/-- The fields that are kept for a frequency. -/
def fields (frequency : Frequency) : Fields :=
  usedFields frequency ((parts.number? .interval).getD 1) parts.weekday?
    (parts.number? .monthDay) parts.ordinal? (parts.number? .month)

/-- Every value spells what its key stands for, and the interval is positive. -/
structure AreUnderstood : Prop where
  numbers : ∀ key ∈ [Key.interval, .monthDay, .ordinal, .month], ∀ value,
    parts.value? key = some value → (readInteger? value).isSome = true
  weekday : ∀ value, parts.value? .weekday = some value → (readWeekday? value).isSome = true
  interval : 1 ≤ (parts.number? .interval).getD 1

end Parts

variable {parts : Parts}

theorem frequencyOfParts_eq_ok_iff {frequency : Frequency} :
    frequencyOfParts parts = .ok frequency ↔
      parts.value? .frequency = some frequency.code := by
  unfold frequencyOfParts
  cases parts.value? .frequency with
  | none => simp
  | some value =>
      rw [Option.some.injEq]
      constructor
      · intro isRead
        dsimp only at isRead
        split at isRead
        · cases isRead
        · next named =>
            cases isRead
            exact (Frequency.code_of_ofCode? named).symm
      · rintro rfl
        simp only [Frequency.ofCode?_code]

theorem numberOfParts_eq_ok_iff {key : Key} {number : Option Int} :
    numberOfParts parts key = .ok number ↔
      (∀ value, parts.value? key = some value → (readInteger? value).isSome = true) ∧
        number = parts.number? key := by
  have isCheck : numberOfParts parts key =
      checkField readInteger? (.notANumber key) (parts.value? key) := by
    unfold numberOfParts checkField
    cases parts.value? key with
    | none => rfl
    | some value =>
        dsimp only
        cases readInteger? value <;> rfl
  rw [isCheck, checkField_eq_ok_iff]
  rfl

theorem weekdayOfParts_eq_ok_iff {weekday : Option Weekday} :
    weekdayOfParts parts = .ok weekday ↔
      (∀ value, parts.value? .weekday = some value → (readWeekday? value).isSome = true) ∧
        weekday = parts.weekday? := by
  have isCheck : weekdayOfParts parts =
      checkField readWeekday? .unrecognizedWeekday (parts.value? .weekday) := by
    unfold weekdayOfParts checkField
    cases parts.value? .weekday with
    | none => rfl
    | some value =>
        dsimp only
        cases readWeekday? value <;> rfl
  rw [isCheck, checkField_eq_ok_iff]
  rfl

theorem intervalOfParts_eq_ok_iff {interval : Int} :
    intervalOfParts parts = .ok interval ↔
      (∀ value, parts.value? .interval = some value → (readInteger? value).isSome = true) ∧
        1 ≤ (parts.number? .interval).getD 1 ∧
        interval = (parts.number? .interval).getD 1 := by
  unfold intervalOfParts
  constructor
  · intro isRead
    split at isRead
    · cases isRead
    · next leftOut =>
        cases isRead
        obtain ⟨allRead, same⟩ := numberOfParts_eq_ok_iff.mp leftOut
        rw [← same]
        exact ⟨allRead, by decide, rfl⟩
    · next number given =>
        obtain ⟨allRead, same⟩ := numberOfParts_eq_ok_iff.mp given
        split at isRead
        · next positive =>
            cases isRead
            rw [← same]
            exact ⟨allRead, positive, rfl⟩
        · cases isRead
  · rintro ⟨allRead, positive, rfl⟩
    rw [numberOfParts_eq_ok_iff.mpr ⟨allRead, rfl⟩]
    cases given : parts.number? .interval with
    | none => rfl
    | some number =>
        rw [given] at positive
        exact if_pos positive

/-- Parts make exactly the rule whose fields they spell, when all of them are understood. -/
theorem ruleOfParts_eq_ok_iff {rule : Rule} :
    ruleOfParts parts = .ok rule ↔
      parts.AreUnderstood ∧
        ∃ frequency : Frequency,
          parts.value? .frequency = some frequency.code ∧
            rule.fields = parts.fields frequency := by
  unfold ruleOfParts
  simp only [bind_eq_ok_iff, frequencyOfParts_eq_ok_iff, intervalOfParts_eq_ok_iff,
    weekdayOfParts_eq_ok_iff, numberOfParts_eq_ok_iff,
    Rule.ofFields_eq_ok_iff_fields_eq frequency_usedFields]
  constructor
  · rintro ⟨frequency, named, _, ⟨intervalRead, positive, rfl⟩, _, ⟨weekdayRead, rfl⟩, _,
      ⟨monthDayRead, rfl⟩, _, ⟨ordinalRead, rfl⟩, _, ⟨monthRead, rfl⟩, same⟩
    refine ⟨⟨?_, weekdayRead, positive⟩, frequency, named, same⟩
    simp only [List.forall_mem_cons, List.not_mem_nil, false_implies, implies_true, and_true]
    exact ⟨intervalRead, monthDayRead, ordinalRead, monthRead⟩
  · rintro ⟨understood, frequency, named, same⟩
    have numberRead := understood.numbers
    exact ⟨frequency, named, _, ⟨numberRead _ (by decide), understood.interval, rfl⟩,
      _, ⟨understood.weekday, rfl⟩, _, ⟨numberRead _ (by decide), rfl⟩,
      _, ⟨numberRead _ (by decide), rfl⟩, _, ⟨numberRead _ (by decide), rfl⟩, same⟩

end Recurrence
end Cadence
