import Cadence.Proofs.Recurrence.WritableFaults
import Cadence.Proofs.Stored.FormFields

/-!
# Fields as a form and as a text

What is given for a rule can be put into a form or spelled as a rule text.  With a frequency that
is one of the four, in any letter case and with white space around it, both make the same rule or
none: the form and the text keep the same selectors for a frequency, and the checks of the fields
decide the rest.
-/

namespace Cadence
namespace Stored

open Calendar Number Recurrence Text

/-- What is given for a rule: the name of its frequency and, where they are given, whole numbers
and the name of a weekday. -/
structure GivenFields where
  frequency : String
  interval : Option Int
  weekday : Option String
  monthDay : Option Int
  ordinal : Option Int
  month : Option Int

namespace GivenFields

variable (given : GivenFields)

/-- The form of given fields, without a start. -/
def form : RuleForm where
  frequency := .text given.frequency
  interval := (given.interval.map Value.int).getD .absent
  weekday := (given.weekday.map Value.text).getD .absent
  monthDay := (given.monthDay.map Value.int).getD .absent
  ordinal := (given.ordinal.map Value.int).getD .absent
  month := (given.month.map Value.int).getD .absent
  startDate := none

/-- The number that is given for a key. -/
def number? : Key → Option Int
  | .interval => given.interval
  | .monthDay => given.monthDay
  | .ordinal => given.ordinal
  | .month => given.month
  | .frequency | .weekday => none

/-- What is written for a key: a name as it is given, and a number in decimal digits. -/
def value? : Key → Option (List Char)
  | .frequency => some given.frequency.toList
  | .weekday => given.weekday.map String.toList
  | key => (given.number? key).map integerDigits

/-- The parts that are given, in the order of the keys. -/
def parts (keys : List Key) : Parts :=
  keys.filterMap fun key => (given.value? key).map (Prod.mk key)

/-- The rule text that spells given fields, in the order of the keys. -/
def text (keys : List Key) : String :=
  String.ofList (joinWith ';' ((given.parts keys).map writePart))

/-- Given fields with the name of a frequency, the name or the short code of a weekday, if any,
and numbers that are not too long to be read. -/
structure AreLegible (frequency : Frequency) : Prop where
  frequency : upper (trim given.frequency.toList) = frequency.code
  weekday : ∀ name ∈ given.weekday, ∃ weekday, NamesWeekday name.toList weekday
  short : ∀ key, ∀ number ∈ given.number? key,
    (naturalDigits number.natAbs).length ≤ digitLimit

/-- The weekday that is given. -/
def weekday? : Option Weekday :=
  given.weekday.bind fun name => readWeekday? name.toList

/-- The fields that are kept for a frequency. -/
def fields (frequency : Frequency) : Fields :=
  usedFields frequency (given.interval.getD 1) given.weekday? given.monthDay
    (given.ordinal.bind WeekdayOrdinal.ofNumber?) given.month

end GivenFields

/-! ## What the form makes -/

section Form

variable {given : GivenFields} {frequency : Frequency}

theorem readOptionalWhole_map_int (field : String) (number : Option Int) :
    readOptionalWhole field ((number.map Value.int).getD .absent) = .ok number := by
  cases number <;> rfl

theorem readFormMonthDay_map_int (number : Option Int) :
    readFormMonthDay ((number.map Value.int).getD .absent) = .ok number := by
  cases number <;> rfl

theorem GivenFields.AreLegible.readFormWeekday
    (legible : given.AreLegible frequency) :
    readFormWeekday ((given.weekday.map Value.text).getD .absent) = .ok given.weekday? := by
  unfold GivenFields.weekday?
  cases isGiven : given.weekday with
  | none => rfl
  | some name =>
      obtain ⟨weekday, isNamed⟩ := legible.weekday name isGiven
      have understood := readWeekday?_eq_some_iff.mpr isNamed
      simp only [Option.map_some, Option.getD_some, Option.bind_some, Stored.readFormWeekday,
        understood]

namespace GivenFields

theorem AreLegible.isEmpty_trim
    (legible : given.AreLegible frequency) : (trim given.frequency.toList).isEmpty = false := by
  rw [← Bool.not_eq_true, List.isEmpty_iff, ← upper_eq_nil_iff, legible.frequency]
  exact frequency.isPlainPart_code.1

/-- Numbers that are not too long to be read are not too long to be written. -/
theorem AreLegible.areWritable_fields
    (legible : given.AreLegible frequency) : (given.fields frequency).AreWritable := by
  have writable (key : Key) (number : Int) (isGiven : number ∈ given.number? key) :
      isWritable number = true := isWritable_iff.mpr (legible.short key number isGiven)
  apply areWritable_usedFields
  · cases isInterval : given.interval with
    | none => decide
    | some interval => exact writable .interval interval isInterval
  · exact writable .monthDay
  · exact writable .month

/-- The form makes the rule of the fields that are kept, or has their fault. -/
theorem AreLegible.rule_form (legible : given.AreLegible frequency) :
    given.form.rule =
      match Rule.ofFields (given.fields frequency) with
      | .error fault => .error (.malformed ⟨fault, ""⟩)
      | .ok rule => .ok (some rule) := by
  have notEmpty : (trim given.form.frequency.plain).isEmpty = false := legible.isEmpty_trim
  have named : upper (trim given.form.frequency.plain) = frequency.code := legible.frequency
  have sameFields : formFields frequency.code (given.interval.getD 1) given.weekday?
      given.monthDay given.ordinal given.month none = given.fields frequency := by
    rw [formFields_code, countedWeekday_none]
    rfl
  have decided : given.form.rule =
      match Rule.ofFields (given.fields frequency) with
      | .error fault => .error (.ofFault fault)
      | .ok rule => .ok (some rule) := by
    unfold RuleForm.rule
    dsimp only
    rw [notEmpty, named]
    simp only [form, readOptionalWhole_map_int, legible.readFormWeekday,
      readFormMonthDay_map_int]
    rw [← sameFields]
    rfl
  rw [decided]
  cases made : Rule.ofFields (given.fields frequency) with
  | ok rule => rfl
  | error fault =>
      have writable := legible.areWritable_fields.failsOnlyWith_ofFields fault made
      simp only [BuildError.ofFault, writable, if_true]

/-- The form makes the rule that has the fields which are kept, when there is one. -/
theorem AreLegible.rule_form_eq_ok_iff
    (legible : given.AreLegible frequency)
    {rule : Rule} :
    given.form.rule = .ok (some rule) ↔ rule.fields = given.fields frequency := by
  have sameName : (given.fields frequency).frequency = frequency.code := frequency_usedFields
  rw [legible.rule_form, ← Rule.ofFields_eq_ok_iff_fields_eq sameName]
  cases Rule.ofFields (given.fields frequency) <;> simp

/-- The form is malformed when there is none. -/
theorem AreLegible.exists_malformed_form_iff (legible : given.AreLegible frequency) :
    (∃ malformed, given.form.rule = .error (.malformed malformed)) ↔
      ¬ ∃ rule : Rule, rule.fields = given.fields frequency := by
  simp only [← legible.rule_form_eq_ok_iff]
  rw [legible.rule_form]
  cases Rule.ofFields (given.fields frequency) <;> simp

end GivenFields

end Form

/-! ## What the text makes -/

namespace GivenFields

variable {given : GivenFields} {frequency : Frequency} {keys : List Key}

theorem mem_parts {key : Key} {value : List Char} :
    (key, value) ∈ given.parts keys ↔ key ∈ keys ∧ given.value? key = some value := by
  simp [parts, List.mem_filterMap]

theorem nodup_keys_parts (distinct : keys.Nodup) :
    ((given.parts keys).map Prod.fst).Nodup := by
  unfold parts List.Nodup
  rw [List.pairwise_map, List.pairwise_filterMap]
  apply List.Pairwise.imp _ distinct
  intro first second different part isFirst other isSecond
  obtain ⟨value, _, rfl⟩ := Option.map_eq_some_iff.mp isFirst
  obtain ⟨otherValue, _, rfl⟩ := Option.map_eq_some_iff.mp isSecond
  exact different

/-- What is written for a key is read as something plain. -/
theorem AreLegible.isPlainPart_capitalPart
    (legible : given.AreLegible frequency)
    {key : Key}
    {value : List Char}
    (isGiven : given.value? key = some value) : IsPlainPart (capitalPart (key, value)) := by
  cases key with
  | frequency =>
      cases isGiven
      unfold capitalPart
      rw [legible.frequency]
      exact frequency.isPlainPart_code
  | weekday =>
      obtain ⟨name, isName, rfl⟩ := Option.map_eq_some_iff.mp isGiven
      obtain ⟨weekday, isCode | isShortCode⟩ := legible.weekday name isName
      · unfold capitalPart
        rw [isCode]
        exact isPlainPart_weekday weekday
      · unfold capitalPart
        rw [isShortCode]
        exact isPlainPart_shortCode weekday
  | interval | monthDay | ordinal | month =>
      obtain ⟨number, _, rfl⟩ := Option.map_eq_some_iff.mp isGiven
      rw [capitalPart_of_isPlainPart (isPlainPart_integerDigits ..)]
      exact isPlainPart_integerDigits ..

/-- Each key is read as what is written for it, in capitals. -/
theorem value?_map_capitalPart_parts
    (order : keys.Perm Key.all)
    (key : Key) :
    Parts.value? ((given.parts keys).map capitalPart) key =
      (given.value? key).map fun value => upper (trim value) := by
  have distinct : (((given.parts keys).map capitalPart).map Prod.fst).Nodup := by
    rw [List.map_map]
    exact nodup_keys_parts (order.nodup_iff.mpr (by decide))
  have hasKey : key ∈ keys := order.mem_iff.mpr (by cases key <;> decide)
  apply Option.ext
  intro value
  rw [Parts.value?_eq_some_iff distinct, List.mem_map, Option.map_eq_some_iff]
  constructor
  · rintro ⟨⟨other, raw⟩, member, same⟩
    cases same
    exact ⟨raw, (mem_parts.mp member).2, rfl⟩
  · rintro ⟨raw, isGiven, rfl⟩
    exact ⟨(key, raw), mem_parts.mpr ⟨hasKey, isGiven⟩, rfl⟩

theorem parts_ne_nil (order : keys.Perm Key.all) : given.parts keys ≠ [] := by
  have hasFrequency : Key.frequency ∈ keys := order.mem_iff.mpr (by decide)
  exact List.ne_nil_of_mem (mem_parts.mpr ⟨hasFrequency, rfl⟩)

theorem isBlankText_text (order : keys.Perm Key.all) :
    isBlankText (given.text keys).toList = false := by
  rw [text, String.toList_ofList]
  exact isBlankText_joinWith (parts_ne_nil order)

section Legible

variable (legible : given.AreLegible frequency) (order : keys.Perm Key.all)
include legible order

/-- The parts that are read from the text that spells given fields. -/
theorem AreLegible.readParts_text :
    readParts (given.text keys).toList = .ok ((given.parts keys).map capitalPart) := by
  rw [text, String.toList_ofList]
  apply readParts_joinWith (parts_ne_nil order)
  · intro part member
    exact isTypedPart_of_capitalPart
      (legible.isPlainPart_capitalPart (mem_parts.mp member).2)
  · exact nodup_keys_parts (order.nodup_iff.mpr (by decide))

/-- A number is read back from the digits that are written for its key. -/
theorem AreLegible.numberOfParts_text
    {key : Key}
    (isNumeric : key ∈ [Key.interval, .monthDay, .ordinal, .month]) :
    numberOfParts ((given.parts keys).map capitalPart) key = .ok (given.number? key) := by
  have isWritten : given.value? key = (given.number? key).map integerDigits := by
    cases key with
    | frequency | weekday => simp at isNumeric
    | _ => rfl
  have staySame : (fun value => upper (trim value)) ∘ integerDigits = integerDigits := by
    funext number
    have plain := (isPlainPart_integerDigits key number).2
    rw [Function.comp_apply, trim_eq_self plain, upper_eq_self plain]
  apply numberOfParts_of_value? _ (legible.short key)
  rw [value?_map_capitalPart_parts order, isWritten, Option.map_map, staySame]

/-- A weekday is read back from its name or short code. -/
theorem AreLegible.weekdayOfParts_text :
    weekdayOfParts ((given.parts keys).map capitalPart) = .ok given.weekday? := by
  unfold weekdayOfParts
  rw [value?_map_capitalPart_parts order]
  unfold value? weekday?
  cases isGiven : given.weekday with
  | none => rfl
  | some name =>
      obtain ⟨weekday, isNamed⟩ := legible.weekday name isGiven
      have understood := readWeekday?_eq_some_iff.mpr isNamed
      have inCapitals := readWeekday?_eq_some_iff.mpr isNamed.upper_trim
      simp only [Option.map_some, Option.bind_some, inCapitals, understood]

/-- The text makes the rule that has the fields which are kept, when there is one. -/
theorem AreLegible.readRule_text {rule : Rule} :
    readRule (given.text keys) = .ok (some rule) ↔ rule.fields = given.fields frequency := by
  have named : Parts.value? ((given.parts keys).map capitalPart) .frequency =
      some frequency.code := by
    rw [value?_map_capitalPart_parts order, ← legible.frequency]
    rfl
  have weekday := weekdayOfParts_eq_ok_iff.mp (legible.weekdayOfParts_text order)
  have number (key : Key) (isNumeric : key ∈ [Key.interval, .monthDay, .ordinal, .month]) :=
    numberOfParts_eq_ok_iff.mp (legible.numberOfParts_text order isNumeric)
  have sameFields :
      Parts.fields ((given.parts keys).map capitalPart) frequency = given.fields frequency := by
    unfold Parts.fields Parts.ordinal? fields
    rw [← weekday.2, ← (number .interval (by decide)).2, ← (number .monthDay (by decide)).2,
      ← (number .ordinal (by decide)).2, ← (number .month (by decide)).2]
    rfl
  rw [readRule_eq_ok_some_iff, and_iff_right (isBlankText_text order)]
  simp only [legible.readParts_text order, Except.ok.injEq, exists_eq_left']
  rw [ruleOfParts_eq_ok_iff]
  constructor
  · rintro ⟨_, other, otherNamed, same⟩
    rw [named, Option.some.injEq] at otherNamed
    rw [same, ← Frequency.code_injective otherNamed, sameFields]
  · intro same
    refine ⟨⟨fun key isNumeric => (number key isNumeric).1, weekday.1, ?_⟩, frequency, named,
      same.trans sameFields.symm⟩
    rw [← sameFields] at same
    exact (exists_fields_eq_usedFields_iff.mp ⟨rule, same⟩).1

/-- The text is malformed when there is none. -/
theorem AreLegible.exists_malformed_text_iff :
    (∃ malformed, readRule (given.text keys) = .error malformed) ↔
      ¬ ∃ rule : Rule, rule.fields = given.fields frequency := by
  simp only [← legible.readRule_text order]
  cases outcome : readRule (given.text keys) with
  | error malformed => simp
  | ok spelled =>
      cases spelled with
      | none =>
          have blank := readRule_eq_ok_none_iff.mp outcome
          rw [isBlankText_text order] at blank
          cases blank
      | some rule => simp

end Legible

/-- A form and a text agree.  When the same fields are put into a form without a start and spelled
as a text, in any order of the keys, with one of the four frequencies in any letter case and with
white space around it, the name or the short code of a weekday or none, and numbers that are not
too long, then both make the same rule or both are malformed. -/
theorem form_and_text_agree
    (legible : given.AreLegible frequency)
    (order : keys.Perm Key.all) :
    (∀ rule, given.form.rule = .ok (some rule) ↔
      readRule (given.text keys) = .ok (some rule)) ∧
    ((∃ malformed, given.form.rule = .error (.malformed malformed)) ↔
      ∃ malformed, readRule (given.text keys) = .error malformed) ∧
    ((∃ rule, given.form.rule = .ok (some rule)) ∨
      ∃ malformed, given.form.rule = .error (.malformed malformed)) := by
  refine ⟨?_, ?_, ?_⟩
  · intro rule
    rw [legible.rule_form_eq_ok_iff, legible.readRule_text order]
  · rw [legible.exists_malformed_form_iff, legible.exists_malformed_text_iff order]
  · simp only [legible.rule_form_eq_ok_iff]
    rw [legible.exists_malformed_form_iff]
    exact Classical.em _

/-- The last Friday of every second month has no use for a day of the month.  A fifth weekday is
none that counts, so the day of the month is used, and no month has that many. -/
theorem form_and_text_agree_fridays :
    let fridays : GivenFields := ⟨"\tmonthly ", some 2, some "Fr", some 32, some (-1), none⟩
    let fallen : GivenFields := { fridays with ordinal := some 5 }
    let keys : List Key := [.weekday, .ordinal, .frequency, .interval, .monthDay, .month]
    fridays.AreLegible .monthly ∧ fallen.AreLegible .monthly ∧ keys.Perm Key.all ∧
      fridays.text keys = "BYDAY=Fr;BYSETPOS=-1;FREQ=\tmonthly ;INTERVAL=2;BYMONTHDAY=32" ∧
      readRule (fridays.text keys) =
        .ok (some ⟨2, .monthlyWeekday .last .friday, by decide⟩) ∧
      ∃ malformed, readRule (fallen.text keys) = .error malformed := by
  intro fridays fallen keys
  have legible : fridays.AreLegible .monthly := by
    refine ⟨by decide, ?_, ?_⟩
    · rintro name ⟨⟩
      exact ⟨.friday, .inr (by decide)⟩
    · intro key number isGiven
      cases key <;> cases isGiven <;> decide
  have fallenLegible : fallen.AreLegible .monthly := by
    refine ⟨legible.frequency, legible.weekday, ?_⟩
    intro key number isGiven
    cases key <;> cases isGiven <;> decide
  have order : keys.Perm Key.all := by decide
  have made : fridays.form.rule =
      .ok (some ⟨2, .monthlyWeekday .last .friday, by decide⟩) :=
    legible.rule_form
  have fails : ∃ malformed, fallen.form.rule = .error (.malformed malformed) :=
    ⟨_, fallenLegible.rule_form⟩
  exact ⟨legible, fallenLegible, order, by decide +kernel,
    ((form_and_text_agree legible order).1 _).mp made,
    (form_and_text_agree fallenLegible order).2.1.mp fails⟩

end GivenFields
end Stored
end Cadence
