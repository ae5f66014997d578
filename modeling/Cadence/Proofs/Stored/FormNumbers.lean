import Cadence.Proofs.Number.WholePart
import Cadence.Proofs.Recurrence.WritableFaults
import Cadence.Proofs.Scheduling.EditRuns
import Cadence.Proofs.Stored.FormFields

/-!
# The numbers of a form

What becomes of a form with a frequency.  The first of its fields that cannot be read decides the
error: a field for a whole number must be empty or denote a number, and the fraction of a number
is cut off.  When all fields can be read the form makes a rule with these numbers, or it is
malformed.  An error whose message needs a whole number of too many digits becomes another one.
-/

namespace Cadence
namespace Stored

open Calendar Number Recurrence Text

/-! ## Single fields -/

namespace Value

/-- The number that a value denotes. -/
def number? : Value → Option ℚ
  | int number => some number
  | float (.finite negative significand exponent) =>
    some (scaled 2 negative significand exponent)
  | decimal (.finite negative coefficient exponent) =>
    some (scaled 10 negative coefficient exponent)
  | text content => (readInteger? content.toList).map Int.cast
  | _ => none

/-- The whole part of the number that a value denotes. -/
def whole? (value : Value) : Option ℤ :=
  value.number?.map wholePart

/-- The weekday that a value denotes: its place in the week, its name or its short code. -/
def weekday? : Value → Option Weekday
  | int index => Weekday.ofIndex? index
  | text content => readWeekday? content.toList
  | _ => none

/-- Whether a value is more than every number, or less. -/
def isInfinite : Value → Bool
  | float (.infinite _) => true
  | decimal (.infinite _) => true
  | _ => false

/-- What is wrong with the value of the field for a frequency: it cannot be written as a text. -/
def frequencyFault? (value : Value) : Option BuildError :=
  if value.isWritable then none else some .unwritable

/-- What is wrong with the value of a field for a whole number.  Infinity is no number and is not
refused as a value, but it has no whole part. -/
def wholeFault? (field : String) : Value → Option BuildError
  | absent => none
  | value =>
    if value.number?.isSome then none
    else if value.isInfinite then some .infinite
    else some (.refusing field .notAWholeNumber value)

/-- What is wrong with the value of the field for a weekday. -/
def weekdayFault? : Value → Option BuildError
  | absent => none
  | value =>
    if value.weekday?.isSome then none else some (.refusing "weekday" .unknownWeekday value)

/-- What is wrong with the value of the field for a day of the month. -/
def monthDayFault? (value : Value) : Option BuildError :=
  if isLastWord value then none else wholeFault? "month_day" value

/-- The number of a day of the month; the word "last" stands for -1. -/
def monthDay? (value : Value) : Option ℤ :=
  if isLastWord value then some (-1) else value.whole?

end Value

/-- A field for a whole number is read when nothing is wrong with it, and what is wrong is the
error otherwise. -/
theorem readOptionalWhole_eq (field : String) (value : Value) :
    readOptionalWhole field value =
      match value.wholeFault? field with
      | some error => .error error
      | none => .ok value.whole? := by
  cases value with
  | float number =>
      cases number with
      | finite negative significand exponent =>
          simp only [readOptionalWhole, readWhole, truncated_eq_wholePart]
          rfl
      | _ => rfl
  | decimal amount =>
      cases amount with
      | finite negative coefficient exponent =>
          simp only [readOptionalWhole, readWhole, truncated_eq_wholePart]
          rfl
      | _ => rfl
  | text content =>
      rcases Option.eq_none_or_eq_some (readInteger? content.toList) with isRead | ⟨_, isRead⟩ <;>
        simp [readOptionalWhole, readWhole, Value.wholeFault?, Value.isInfinite, Value.whole?,
          Value.number?, isRead, Except.map]
  | int number =>
      simp [readOptionalWhole, readWhole, Value.wholeFault?, Value.whole?, Value.number?,
        Except.map]
  | _ => rfl

theorem readFormWeekday_eq (value : Value) :
    readFormWeekday value =
      match value.weekdayFault? with
      | some error => .error error
      | none => .ok value.weekday? := by
  cases value with
  | int index =>
      rcases Option.eq_none_or_eq_some (Weekday.ofIndex? index) with isRead | ⟨_, isRead⟩ <;>
        simp [readFormWeekday, Value.weekdayFault?, Value.weekday?, isRead]
  | text content =>
      rcases Option.eq_none_or_eq_some (readWeekday? content.toList) with isRead | ⟨_, isRead⟩ <;>
        simp [readFormWeekday, Value.weekdayFault?, Value.weekday?, isRead]
  | _ => rfl

theorem readFormMonthDay_eq (value : Value) :
    readFormMonthDay value =
      match value.monthDayFault? with
      | some error => .error error
      | none => .ok value.monthDay? := by
  unfold readFormMonthDay Value.monthDayFault? Value.monthDay?
  split
  · rfl
  · exact readOptionalWhole_eq "month_day" value

theorem wholeFault?_eq_none_iff {field : String} {value : Value} :
    value.wholeFault? field = none ↔ value = .absent ∨ ∃ number, value.number? = some number := by
  cases value with
  | float number => cases number <;> simp [Value.wholeFault?, Value.number?, Value.isInfinite]
  | decimal amount => cases amount <;> simp [Value.wholeFault?, Value.number?, Value.isInfinite]
  | text content =>
      rcases Option.eq_none_or_eq_some (readInteger? content.toList) with isRead | ⟨_, isRead⟩ <;>
        simp [Value.wholeFault?, Value.number?, Value.isInfinite, isRead]
  | _ => simp [Value.wholeFault?, Value.number?, Value.isInfinite]

theorem weekdayFault?_eq_none_iff {value : Value} :
    value.weekdayFault? = none ↔
      value = .absent ∨ ∃ weekday, value.weekday? = some weekday := by
  cases value with
  | absent => simp [Value.weekdayFault?]
  | _ => simp [Value.weekdayFault?, Option.isSome_iff_exists]

/-- What is wrong with a field for a whole number is its value, or that this is infinite. -/
theorem wholeFault?_eq_some
    {field : String}
    {value : Value}
    {error : BuildError}
    (isFault : value.wholeFault? field = some error) :
    error = .refusing field .notAWholeNumber value ∨
      error = .infinite ∧ value.isInfinite = true := by
  unfold Value.wholeFault? at isFault
  split at isFault
  · cases isFault
  · split at isFault
    · cases isFault
    · split at isFault
      · next infinite =>
          cases isFault
          exact .inr ⟨rfl, infinite⟩
      · cases isFault
        exact .inl rfl

theorem weekdayFault?_eq_some
    {value : Value}
    {error : BuildError}
    (isFault : value.weekdayFault? = some error) :
    error = .refusing "weekday" .unknownWeekday value := by
  unfold Value.weekdayFault? at isFault
  split at isFault
  · cases isFault
  · split at isFault
    · cases isFault
    · cases isFault
      rfl

/-- The whole part of a number is the number itself exactly when that is whole. -/
theorem exists_whole?_eq_some
    {value : Value}
    {number : ℚ}
    (denoted : value.number? = some number) :
    ∃ whole : ℤ, value.whole? = some whole ∧
      ((whole : ℚ) = number ↔ ∃ other : ℤ, number = other) :=
  ⟨wholePart number, by rw [Value.whole?, denoted, Option.map_some], wholePart_eq_self_iff⟩

/-! ## Whole forms -/

namespace RuleForm

variable (form : RuleForm)

/-- A form that names a frequency, which may be none of the four. -/
structure IsNamed : Prop where
  given : form.frequency ≠ .absent
  notBlank : isBlankText form.frequency.plain = false

/-- What is wrong with the first field that cannot be read, in the order of reading. -/
def fault? : Option BuildError :=
  form.frequency.frequencyFault?.or <|
    (form.interval.wholeFault? "interval").or <|
      form.weekday.weekdayFault?.or <|
        form.monthDay.monthDayFault?.or <|
          (form.ordinal.wholeFault? "nth_weekday_ordinal").or <|
            form.month.wholeFault? "month_of_year"

/-- The fields that a form gives to its rule. -/
def fields : Fields :=
  formFields (upper (trim form.frequency.plain)) (form.interval.whole?.getD 1)
    form.weekday.weekday? form.monthDay.monthDay? form.ordinal.whole? form.month.whole?
    form.startDate

variable {form}

/-- The fields decide what becomes of a form, and the first one that cannot be read comes before
all checks of a rule. -/
theorem IsNamed.rule_eq (named : form.IsNamed) :
    form.rule =
      match form.fault? with
      | some error => .error error
      | none =>
        match Rule.ofFields form.fields with
        | .error fault => .error (.ofFault fault)
        | .ok rule => .ok (some rule) := by
  unfold RuleForm.rule fault? fields Value.frequencyFault?
  dsimp only
  cases form.frequency.isWritable with
  | false => rfl
  | true =>
      simp only [Bool.not_true, Bool.false_eq_true, if_false, if_true, Option.none_or,
        readOptionalWhole_eq, readFormWeekday_eq, readFormMonthDay_eq]
      rw [isEmpty_trim, named.notBlank, Bool.or_false, if_neg]
      · cases form.interval.wholeFault? "interval" with
        | some error => rfl
        | none =>
            cases form.weekday.weekdayFault? with
            | some error => rfl
            | none =>
                cases form.monthDay.monthDayFault? with
                | some error => rfl
                | none =>
                    cases form.ordinal.wholeFault? "nth_weekday_ordinal" with
                    | some error => rfl
                    | none => cases form.month.wholeFault? "month_of_year" <;> rfl
      · have given := named.given
        cases isGiven : form.frequency with
        | absent => exact absurd isGiven given
        | _ => exact Bool.false_ne_true

/-- The rule that a form is accepted as.  Every field is empty or denotes something, whether the
rule uses it or not, and what the rule has is the whole part of what the fields denote. -/
structure IsAcceptedAs (form : RuleForm) (rule : Rule) : Prop where
  numbers : ∀ value ∈ [form.interval, form.ordinal, form.month],
    value = .absent ∨ ∃ number, value.number? = some number
  dayOfMonth : isLastWord form.monthDay = true ∨ form.monthDay = .absent ∨
    ∃ number, form.monthDay.number? = some number
  dayOfWeek : form.weekday = .absent ∨ ∃ weekday, form.weekday.weekday? = some weekday
  interval : (rule.interval : ℤ) = form.interval.whole?.getD 1
  weekday : ∀ weekday, rule.selectors.weekday = some weekday →
    formWeekday form.weekday.weekday? form.startDate = some weekday
  monthDay : ∀ day, rule.selectors.monthDay = some day →
    form.monthDay.monthDay? = some day.number
  ordinal : ∀ ordinal, rule.selectors.ordinal = some ordinal →
    form.ordinal.whole? = some ordinal.number
  month : ∀ month, rule.selectors.month = some month →
    form.month.whole? = some (month.number : ℤ)

theorem isAcceptedAs_of_ofFields
    {rule : Rule}
    (noFault : form.fault? = none)
    (made : Rule.ofFields form.fields = .ok rule) : form.IsAcceptedAs rule := by
  have same := Rule.fields_of_ofFields made
  unfold fault? at noFault
  simp only [Option.or_eq_none_iff, wholeFault?_eq_none_iff] at noFault
  obtain ⟨_, interval, weekday, monthDay, ordinal, month⟩ := noFault
  refine ⟨?_, ?_, ?_, ?_, ?_, ?_, ?_, ?_⟩
  · simp only [List.forall_mem_cons, List.not_mem_nil, false_implies, implies_true, and_true]
    exact ⟨interval, ordinal, month⟩
  · unfold Value.monthDayFault? at monthDay
    split at monthDay
    · next isLast => exact .inl isLast
    · exact .inr (wholeFault?_eq_none_iff.mp monthDay)
  · exact weekdayFault?_eq_none_iff.mp weekday
  · have sameInterval := (congrArg Fields.interval same).trans interval_formFields
    exact Value.int.inj sameInterval
  · intro weekday isSet
    have kept := congrArg Fields.weekday same
    simp only [Rule.fields, isSet, Option.map_some] at kept
    exact (map_eq_some_iff_of_injective weekdayCode_injective).mp
      (weekday_of_formFields kept.symm)
  · intro day isSet
    have kept := congrArg Fields.monthDay same
    simp only [Rule.fields, isSet, Option.map_some] at kept
    exact monthDay_of_formFields kept.symm
  · intro ordinal isSet
    have kept := congrArg Fields.ordinal same
    simp only [Rule.fields, isSet, Option.map_some] at kept
    exact ordinal_of_formFields kept.symm
  · intro month isSet
    have kept := congrArg Fields.month same
    simp only [Rule.fields, isSet, Option.map_some] at kept
    exact month_of_formFields kept.symm

variable (form) in
/-- The fields for whole numbers and their names. -/
def numberFields : List (String × Value) :=
  [("interval", form.interval), ("month_day", form.monthDay),
    ("nth_weekday_ordinal", form.ordinal), ("month_of_year", form.month)]

variable (form) in
/-- All values of a form. -/
def values : List Value :=
  [form.frequency, form.weekday, form.interval, form.monthDay, form.ordinal, form.month]

variable (form) in
/-- What may be wrong with the fields of a form: one of them has a value that it cannot have, or a
field for a whole number holds an infinite one, or the message needs a value that cannot be
written. -/
def IsFault : BuildError → Prop
  | .invalid error =>
    error = ⟨"weekday", .unknownWeekday form.weekday⟩ ∨
      ∃ entry ∈ form.numberFields, error = ⟨entry.1, .notAWholeNumber entry.2⟩
  | .infinite => ∃ entry ∈ form.numberFields, entry.2.isInfinite = true
  | .unwritable => ∃ value ∈ form.values, value.isWritable = false
  | .malformed _ => False

theorem mem_values_of_mem_numberFields
    {field : String}
    {value : Value}
    (isField : (field, value) ∈ form.numberFields) : value ∈ form.values := by
  have isValue : value ∈ form.numberFields.map Prod.snd := List.mem_map_of_mem isField
  exact List.mem_cons_of_mem _ (List.mem_cons_of_mem _ isValue)

/-- A refusal names the field and its value when the value can be written. -/
theorem isFault_refusing
    {field : String}
    {problem : Value → Problem}
    {value : Value}
    (isValue : value ∈ form.values)
    (isFault : form.IsFault (.invalid ⟨field, problem value⟩)) :
    form.IsFault (.refusing field problem value) := by
  unfold BuildError.refusing
  split
  · exact isFault
  · next notWritable => exact ⟨value, isValue, (Bool.not_eq_true _).mp notWritable⟩

theorem isFault_of_wholeFault?
    {field : String}
    {value : Value}
    {error : BuildError}
    (isFault : value.wholeFault? field = some error)
    (isField : (field, value) ∈ form.numberFields) : form.IsFault error := by
  rcases wholeFault?_eq_some isFault with rfl | ⟨rfl, infinite⟩
  · exact isFault_refusing (mem_values_of_mem_numberFields isField)
      (.inr ⟨(field, value), isField, rfl⟩)
  · exact ⟨(field, value), isField, infinite⟩

theorem isFault_of_fault?
    {error : BuildError}
    (isFault : form.fault? = some error) : form.IsFault error := by
  unfold fault? at isFault
  simp only [Option.or_eq_some_iff] at isFault
  rcases isFault with
    frequency | ⟨_, interval | ⟨_, weekday | ⟨_, monthDay | ⟨_, ordinal | ⟨_, month⟩⟩⟩⟩⟩
  · unfold Value.frequencyFault? at frequency
    split at frequency
    · cases frequency
    · next notWritable =>
        cases frequency
        exact ⟨_, List.mem_cons_self, (Bool.not_eq_true _).mp notWritable⟩
  · exact isFault_of_wholeFault? interval (by simp [numberFields])
  · rw [weekdayFault?_eq_some weekday]
    exact isFault_refusing (List.mem_cons_of_mem _ List.mem_cons_self) (.inl rfl)
  · unfold Value.monthDayFault? at monthDay
    split at monthDay
    · cases monthDay
    · exact isFault_of_wholeFault? monthDay (by simp [numberFields])
  · exact isFault_of_wholeFault? ordinal (by simp [numberFields])
  · exact isFault_of_wholeFault? month (by simp [numberFields])

/-! ## Numbers of too many digits -/

variable (form) in
/-- A form holds a number of too many digits: in a value that cannot be written, or as the whole
part of the number that a value denotes. -/
def HoldsLong : Prop :=
  ∃ value ∈ form.values, value.isWritable = false ∨
    ∃ whole, value.whole? = some whole ∧ Number.isWritable whole = false

/-- The fields of a form without such a number can be written. -/
theorem areWritable_fields (short : ¬form.HoldsLong) : form.fields.AreWritable := by
  have wholeWritable {value : Value} (isValue : value ∈ form.values) :
      ∀ whole ∈ value.whole?, Number.isWritable whole = true := by
    intro whole isWhole
    rw [← Bool.not_eq_false]
    exact fun long => short ⟨value, isValue, .inr ⟨whole, isWhole, long⟩⟩
  unfold fields
  refine ⟨?_, ?_, ?_, ?_⟩
  · rw [interval_formFields]
    change Number.isWritable _ = true
    cases isWhole : form.interval.whole? with
    | none => decide
    | some whole => exact wholeWritable (by simp [values]) whole isWhole
  · intro number isKept
    have isDay := monthDay_of_formFields isKept
    unfold Value.monthDay? at isDay
    split at isDay
    · cases isDay
      decide
    · exact wholeWritable (by simp [values]) number isDay
  · intro number isKept
    exact wholeWritable (by simp [values]) number (ordinal_of_formFields isKept)
  · intro number isKept
    exact wholeWritable (by simp [values]) number (month_of_formFields isKept)

/-- Only a number of too many digits keeps the message of an error from being written. -/
theorem IsNamed.holdsLong_of_rule
    (named : form.IsNamed)
    (fails : form.rule = .error .unwritable) : form.HoldsLong := by
  rw [named.rule_eq] at fails
  cases isFault : form.fault? with
  | some error =>
      rw [isFault] at fails
      cases fails
      obtain ⟨value, isValue, notWritable⟩ := isFault_of_fault? isFault
      exact ⟨value, isValue, .inl notWritable⟩
  | none =>
      rw [isFault] at fails
      by_contra short
      cases made : Rule.ofFields form.fields with
      | ok rule =>
          rw [made] at fails
          cases fails
      | error fault =>
          have writable := (areWritable_fields short).failsOnlyWith_ofFields fault made
          rw [made] at fails
          simp [BuildError.ofFault, writable] at fails

/-- An interval below one is named in the message, so it has to be short. -/
theorem IsNamed.rule_of_long_interval
    (named : form.IsNamed)
    (noFault : form.fault? = none)
    {interval : ℤ}
    (given : form.interval.whole? = some interval)
    (belowOne : interval < 1)
    (long : Number.isWritable interval = false) : form.rule = .error .unwritable := by
  have notPositive : ¬1 ≤ interval := Int.not_le.mpr belowOne
  have isInterval : form.fields.interval = .int interval := by
    rw [fields, interval_formFields, given, Option.getD_some]
  have fails : Rule.ofFields form.fields = .error (.intervalBelowOne interval) := by
    rw [Rule.ofFields, isInterval, checkInterval, dif_neg notPositive]
    rfl
  rw [named.rule_eq, noFault, fails]
  simp only [BuildError.ofFault, RuleFault.isWritable, long, Bool.false_eq_true, if_false]

/-- A form with a frequency fails in known ways and cuts off fractions.  When some field cannot be
read, the first one decides: it has a value that is named in the error, or it holds an infinite
number where a whole one belongs, which is the only way to fail with infinity.  Otherwise the form
is malformed or makes a rule.  Then every field for a whole number is empty or denotes a number,
and the whole part of it is what the rule uses or drops: the number itself exactly when that is
whole.  An error whose message needs a number of too many digits is replaced by the one for such a
number, and only a form that holds one fails with it. -/
theorem rule_refuses_or_cuts_off (named : form.IsNamed) :
    (∀ error, form.fault? = some error → form.rule = .error error ∧ form.IsFault error) ∧
    (form.fault? = none →
      (∃ rule, form.rule = .ok (some rule) ∧ form.IsAcceptedAs rule) ∨
        ∃ fault, Rule.ofFields form.fields = .error fault ∧
          form.rule = .error (if fault.isWritable then .malformed ⟨fault, ""⟩ else .unwritable)) ∧
    (form.rule = .error .infinite ↔ form.fault? = some .infinite) ∧
    (form.rule = .error .unwritable → form.HoldsLong) ∧
    ∀ value number, Value.number? value = some number →
      ∃ whole : ℤ, value.whole? = some whole ∧
        ((whole : ℚ) = number ↔ ∃ other : ℤ, number = other) := by
  refine ⟨?_, ?_, ?_, named.holdsLong_of_rule, fun value number => exists_whole?_eq_some⟩
  · intro error isFault
    refine ⟨?_, isFault_of_fault? isFault⟩
    rw [named.rule_eq, isFault]
  · intro noFault
    rw [named.rule_eq, noFault]
    cases made : Rule.ofFields form.fields with
    | error fault => exact .inr ⟨fault, rfl, rfl⟩
    | ok rule => exact .inl ⟨rule, rfl, isAcceptedAs_of_ofFields noFault made⟩
  · rw [named.rule_eq]
    cases form.fault? with
    | some error => simp
    | none =>
        cases Rule.ofFields form.fields with
        | ok rule => simp
        | error fault => cases writable : fault.isWritable <;> simp [BuildError.ofFault, writable]

/-- Every three months on the last day, with the interval as a binary number and the place among
equal weekdays as a text with white space that no month has.  An infinite month of the year is
found out although no month uses one. -/
theorem rule_refuses_or_cuts_off_quarters :
    let quarters : RuleForm :=
      ⟨.text "Monthly", .float (.finite false 6755399441055744 (-51)), .absent, .text " Last",
        .text " 5", .absent, none⟩
    let endless : RuleForm := { quarters with month := .float (.infinite true) }
    quarters.IsNamed ∧ endless.IsNamed ∧
      quarters.rule = .ok (some ⟨3, .monthly (some .last), by decide⟩) ∧
      quarters.IsAcceptedAs ⟨3, .monthly (some .last), by decide⟩ ∧
      endless.rule = .error .infinite := by
  intro quarters endless
  have named : quarters.IsNamed := ⟨nofun, by decide⟩
  have endlessNamed : endless.IsNamed := ⟨nofun, by decide⟩
  have made : quarters.rule = .ok (some ⟨3, .monthly (some .last), by decide⟩) :=
    Scheduling.eq_ok_of_toOption (by decide +kernel)
  refine ⟨named, endlessNamed, made, ?_,
    ((rule_refuses_or_cuts_off endlessNamed).1 .infinite rfl).1⟩
  rcases (rule_refuses_or_cuts_off named).2.1 rfl with
    ⟨rule, isRule, accepted⟩ | ⟨fault, _, fails⟩
  · rw [made] at isRule
    cases isRule
    exact accepted
  · rw [made] at fails
    cases fails

/-- A fraction is cut off without a word, and an infinite interval is no refusal.  Neither is an
interval below one that has too many digits. -/
theorem rule_cuts_off_half_and_fails_on_infinity :
    let daily (interval : Value) : RuleForm :=
      ⟨.text "DAILY", interval, .absent, .absent, .absent, .absent, none⟩
    let twoAndAHalf : Value := .float (.finite false 5629499534213120 (-51))
    Value.number? twoAndAHalf = some (5 / 2) ∧
      (daily twoAndAHalf).rule = .ok (some ⟨2, .daily, by decide⟩) ∧
      (daily (.float (.infinite false))).rule = .error .infinite ∧
      (daily (.int (-leastBeyond digitLimit))).rule = .error .unwritable := by
  intro daily twoAndAHalf
  have belowOne : -(leastBeyond digitLimit : ℤ) < 1 := by omega
  have long : Number.isWritable (-(leastBeyond digitLimit : ℤ)) = false := by
    rw [isWritable_eq_false_iff, Int.natAbs_neg]
    exact Nat.le_of_eq (Int.natAbs_natCast _).symm
  have named : (daily (.int (-leastBeyond digitLimit))).IsNamed := ⟨nofun, by decide⟩
  refine ⟨?_, Scheduling.eq_ok_of_toOption (by decide +kernel), rfl,
    named.rule_of_long_interval rfl ?_ belowOne long⟩
  · apply congrArg some
    norm_num [scaled]
  · exact congrArg some (wholePart_intCast _)

end RuleForm
end Stored
end Cadence
