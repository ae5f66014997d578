import Cadence.Proofs.Number.DigitCount
import Cadence.Proofs.Recurrence.RuleParts
import Cadence.Proofs.Recurrence.TypedParts

/-!
# Rules and their texts

The text of a rule is read as that rule.  The values of its parts are read back, and the
selectors that the reader keeps for a frequency are the ones that a pattern of that
frequency has.  Every rule that is read from a text can be written, so reading its own
text again changes nothing.
-/

namespace Cadence
namespace Recurrence

open Calendar Number Stored Text

/-! ## Reading the values -/

/-- Numbers that are written with few enough digits are read back. -/
theorem numberOfParts_of_value?
    {parts : Parts}
    {key : Key}
    {number : Option Int}
    (written : parts.value? key = number.map integerDigits)
    (short : ∀ written ∈ number, (naturalDigits written.natAbs).length ≤ digitLimit) :
    numberOfParts parts key = .ok number := by
  unfold numberOfParts
  rw [written]
  cases number with
  | none => rfl
  | some number =>
      have understood := readInteger?_integerDigits (short number rfl)
      simp only [Option.map_some, understood]

theorem weekdayOfParts_of_value?
    {parts : Parts}
    {weekday : Option Weekday}
    (written : parts.value? .weekday = weekday.map Weekday.code) :
    weekdayOfParts parts = .ok weekday := by
  unfold weekdayOfParts
  rw [written]
  cases weekday with
  | none => rfl
  | some weekday =>
      have plain := isPlain_weekdayCode weekday
      have understood : readWeekday? weekday.code = some weekday := by
        rw [readWeekday?, trim_eq_self plain, upper_eq_self plain,
          Weekday.ofCodeOrShortCode?_code]
      simp only [Option.map_some, understood]

theorem Rule.frequencyOfParts_parts
    {rule : Rule}
    {frequency : Frequency}
    (supported : rule.frequency? = some frequency) :
    frequencyOfParts rule.parts = .ok frequency := by
  have named : rule.frequencyCode = frequency.code :=
    Pattern.frequencyCode_of_frequency? supported
  unfold frequencyOfParts
  rw [Rule.value?_frequency_parts, named]
  simp only [Frequency.ofCode?_code]

/-- An interval of 1 is left out and supplied again. -/
theorem Rule.intervalOfParts_parts
    {rule : Rule}
    (short : (naturalDigits rule.interval).length ≤ digitLimit) :
    intervalOfParts rule.parts = .ok (rule.interval : Int) := by
  have positive := rule.interval_pos
  unfold intervalOfParts
  by_cases isWritten : 1 < rule.interval
  · have written : rule.parts.value? .interval =
        (some (rule.interval : Int)).map integerDigits := by
      rw [Rule.value?_interval_parts, if_pos isWritten]
      rfl
    have shortNumber : ∀ number ∈ some (rule.interval : Int),
        (naturalDigits number.natAbs).length ≤ digitLimit := by
      intro number isNumber
      cases isNumber
      exact short
    rw [numberOfParts_of_value? written shortNumber]
    simp only
    rw [if_pos (by omega)]
  · have leftOut : rule.parts.value? .interval =
        (none : Option Int).map integerDigits := by
      rw [Rule.value?_interval_parts, if_neg isWritten]
      rfl
    have isOne : rule.interval = 1 := by omega
    rw [numberOfParts_of_value? leftOut (by simp), isOne]
    rfl

theorem MonthDay.natAbs_number_lt (day : MonthDay) : day.number.natAbs < 100 := by
  cases day with
  | last => decide
  | numbered number inRange =>
      change number < 100
      omega

theorem natAbs_ordinal_lt (ordinal : WeekdayOrdinal) : ordinal.number.natAbs < 100 := by
  cases ordinal <;> decide

theorem natAbs_month_lt (month : Month) : (month.number : Int).natAbs < 100 := by
  cases month <;> decide

/-- The fields that the reader keeps for a frequency are the fields of the rule. -/
theorem Rule.usedFields_eq_fields
    {rule : Rule}
    {frequency : Frequency}
    (supported : rule.frequency? = some frequency) :
    usedFields frequency rule.interval rule.selectors.weekday
      (rule.selectors.monthDay.map MonthDay.number) rule.selectors.ordinal
      (rule.selectors.month.map fun month => (month.number : Int)) = rule.fields := by
  obtain ⟨interval, pattern, positive⟩ := rule
  cases pattern <;> cases supported <;> rfl

/-- The keys of small numbers are read as the numbers that the pattern writes. -/
theorem Rule.numberOfParts_parts
    {rule : Rule}
    {key : Key}
    {Meaning : Type}
    {number : Meaning → Int}
    {meaning : Option Meaning}
    (notFrequency : key ≠ .frequency)
    (notInterval : key ≠ .interval)
    (written : rule.pattern.parts.value? key = (meaning.map number).map integerDigits)
    (small : ∀ meaning, (number meaning).natAbs < 100) :
    numberOfParts rule.parts key = .ok (meaning.map number) := by
  apply numberOfParts_of_value?
  · rw [Rule.value?_parts notFrequency notInterval, written]
  · intro spelled isSpelled
    obtain ⟨meaning, _, rfl⟩ := Option.map_eq_some_iff.mp isSpelled
    exact length_naturalDigits_of_lt (small meaning)

/-- The parts of a rule make that rule. -/
theorem Rule.ruleOfParts_parts
    {rule : Rule}
    {frequency : Frequency}
    (supported : rule.frequency? = some frequency)
    (short : (naturalDigits rule.interval).length ≤ digitLimit) :
    ruleOfParts rule.parts = .ok rule := by
  obtain ⟨weekdayWritten, monthDayWritten, ordinalWritten, monthWritten⟩ :=
    Pattern.value?_parts supported
  have weekdayRead : weekdayOfParts rule.parts = .ok rule.selectors.weekday := by
    apply weekdayOfParts_of_value?
    rw [Rule.value?_parts (by decide) (by decide), weekdayWritten]
    rfl
  have monthDayRead : numberOfParts rule.parts .monthDay =
      .ok (rule.selectors.monthDay.map MonthDay.number) :=
    Rule.numberOfParts_parts (by decide) (by decide) monthDayWritten
      MonthDay.natAbs_number_lt
  have ordinalRead : numberOfParts rule.parts .ordinal =
      .ok (rule.selectors.ordinal.map WeekdayOrdinal.number) :=
    Rule.numberOfParts_parts (by decide) (by decide) ordinalWritten natAbs_ordinal_lt
  have monthRead : numberOfParts rule.parts .month =
      .ok (rule.selectors.month.map fun month => (month.number : Int)) :=
    Rule.numberOfParts_parts (by decide) (by decide) monthWritten natAbs_month_lt
  have ordinalUnderstood :
      (rule.selectors.ordinal.map WeekdayOrdinal.number).bind WeekdayOrdinal.ofNumber? =
        rule.selectors.ordinal := by
    cases rule.selectors.ordinal with
    | none => rfl
    | some ordinal => exact WeekdayOrdinal.ofNumber?_number ordinal
  unfold ruleOfParts
  rw [Rule.frequencyOfParts_parts supported, Rule.intervalOfParts_parts short,
    weekdayRead, monthDayRead, ordinalRead, monthRead]
  simp only [bind, Except.bind]
  rw [ordinalUnderstood, Rule.usedFields_eq_fields supported]
  exact Rule.ofFields_fields supported

/-! ## Rules that a text can carry -/

/-- A rule that fields with one of the four frequencies make, in any spelling of it, and
whose interval has no more digits than a number may be read from. -/
def Rule.IsWritable (rule : Rule) : Prop :=
  ∃ fields frequency interval,
    Rule.ofFields fields = .ok rule ∧
    readFrequency fields.frequency = .inl frequency ∧
    fields.interval = .int interval ∧
    (integerDigits interval).length ≤ digitLimit

theorem Rule.isWritable_iff {rule : Rule} :
    rule.IsWritable ↔
      (∃ frequency, rule.frequency? = some frequency) ∧
      (naturalDigits rule.interval).length ≤ digitLimit := by
  constructor
  · rintro ⟨fields, frequency, interval, made, named, given, short⟩
    obtain ⟨supported, intervalChecked, _⟩ := (Rule.ofFields_eq_ok_iff named).mp made
    have sameInterval := eq_int_of_checkInterval intervalChecked
    rw [given] at sameInterval
    cases sameInterval
    exact ⟨⟨frequency, supported⟩, short⟩
  · rintro ⟨⟨frequency, supported⟩, short⟩
    exact ⟨rule.fields, frequency, rule.interval, Rule.ofFields_fields supported,
      Rule.readFrequency_fields supported, rfl, short⟩

/-- The text of a writable rule is read as that rule. -/
theorem Rule.readRule_text
    {rule : Rule}
    (writable : rule.IsWritable) :
    readRule rule.text = .ok (some rule) := by
  obtain ⟨⟨frequency, supported⟩, short⟩ := Rule.isWritable_iff.mp writable
  have plain : ∀ part ∈ rule.parts, IsPlainPart part :=
    fun _ member => Rule.isPlainPart_of_mem_parts supported member
  have nonempty : rule.parts ≠ [] := List.cons_ne_nil _ _
  have notBlank : isBlankText rule.text.toList = false := by
    rw [Rule.text, String.toList_ofList]
    exact isBlankText_joinWith nonempty
  have partsRead : readParts rule.text.toList = .ok rule.parts := by
    rw [Rule.text, String.toList_ofList]
    exact readParts_joinWith_of_isPlainPart nonempty plain rule.nodup_keys_parts
  unfold readRule
  rw [notBlank, partsRead]
  simp only
  rw [Rule.ruleOfParts_parts supported short]
  rfl

/-- An interval that the parts of a text have is short enough to be written. -/
theorem length_naturalDigits_of_intervalOfParts
    {parts : Parts}
    {interval : Int}
    (read : intervalOfParts parts = .ok interval) :
    (naturalDigits interval.natAbs).length ≤ digitLimit := by
  unfold intervalOfParts at read
  split at read
  · cases read
  · cases read
    decide
  · next number numberRead =>
      split at read
      · cases read
        unfold numberOfParts at numberRead
        split at numberRead
        · cases numberRead
        · split at numberRead
          · cases numberRead
          · next understood =>
              cases numberRead
              exact length_naturalDigits_of_readInteger? understood
      · cases read

section UsedFields

variable
  {frequency : Frequency}
  {interval : Int}
  {weekday : Option Weekday}
  {monthDay : Option Int}
  {ordinal : Option WeekdayOrdinal}
  {month : Option Int}

theorem frequency_usedFields :
    (usedFields frequency interval weekday monthDay ordinal month).frequency =
      frequency.code := by
  cases frequency <;> cases ordinal <;> cases weekday <;> rfl

theorem readFrequency_usedFields :
    readFrequency
      (usedFields frequency interval weekday monthDay ordinal month).frequency =
        .inl frequency := by
  rw [frequency_usedFields, readFrequency_code]

theorem interval_usedFields :
    (usedFields frequency interval weekday monthDay ordinal month).interval =
      .int interval := by
  cases frequency <;> cases ordinal <;> cases weekday <;> rfl

end UsedFields

/-- Rules that are read from parts can be written. -/
theorem Rule.isWritable_of_ruleOfParts
    {parts : Parts}
    {rule : Rule}
    (read : ruleOfParts parts = .ok rule) : rule.IsWritable := by
  unfold ruleOfParts at read
  simp only [bind_eq_ok_iff] at read
  obtain ⟨frequency, _, interval, intervalRead, weekday, _, monthDay, _, ordinal, _, month,
    _, made⟩ := read
  obtain ⟨supported, intervalChecked, _⟩ :=
    (Rule.ofFields_eq_ok_iff readFrequency_usedFields).mp made
  have sameInterval := eq_int_of_checkInterval intervalChecked
  rw [interval_usedFields] at sameInterval
  cases sameInterval
  exact Rule.isWritable_iff.mpr
    ⟨⟨frequency, supported⟩, length_naturalDigits_of_intervalOfParts intervalRead⟩

/-- Rules that are read from a text can be written. -/
theorem Rule.isWritable_of_readRule
    {text : String}
    {rule : Rule}
    (read : readRule text = .ok (some rule)) : rule.IsWritable := by
  unfold readRule at read
  split at read
  · cases read
  · split at read
    · cases read
    · split at read
      · cases read
      · next ruleRead =>
          cases read
          exact Rule.isWritable_of_ruleOfParts ruleRead

/-- Reading undoes writing, for every rule that can be written and for no rule.  Hence
what was read once is read again from its own text, and no two rules share a text. -/
theorem readRule_ruleText :
    (∀ rule : Rule, rule.IsWritable →
      readRule (ruleText (some rule)) = .ok (some rule)) ∧
    readRule (ruleText none) = .ok none ∧
    (∀ (text : String) (rule : Option Rule), readRule text = .ok rule →
      readRule (ruleText rule) = .ok rule) ∧
    (∀ first second : Rule, first.IsWritable → second.IsWritable →
      ruleText (some first) = ruleText (some second) → first = second) := by
  have noRule : readRule (ruleText none) = .ok none := rfl
  refine ⟨fun rule writable => Rule.readRule_text writable, noRule, ?_, ?_⟩
  · intro text rule read
    cases rule with
    | none => exact noRule
    | some rule => exact Rule.readRule_text (Rule.isWritable_of_readRule read)
  · intro first second firstWritable secondWritable sameText
    have firstRead := Rule.readRule_text firstWritable
    have secondRead := Rule.readRule_text secondWritable
    change first.text = second.text at sameText
    rw [sameText, secondRead] at firstRead
    cases firstRead
    rfl

theorem readRule_ruleText_lastFriday :
    let rule : Rule := ⟨12, .monthlyWeekday .last .friday, by decide⟩
    rule.IsWritable ∧
      ruleText (some rule) = "FREQ=MONTHLY;INTERVAL=12;BYSETPOS=-1;BYDAY=FRIDAY" ∧
      readRule (ruleText (some rule)) = .ok (some rule) ∧
      readRule "rrule: freq = monthly; ;byday=fr;BYSETPOS=-1; interval = 0_12" =
        readRule (ruleText (some rule)) := by
  have writable : Rule.IsWritable ⟨12, .monthlyWeekday .last .friday, by decide⟩ :=
    ⟨⟨"Monthly ".toList, .int 12, some "FRIDAY".toList, none, some (-1), none⟩,
      .monthly, 12, rfl, rfl, rfl, by decide⟩
  have understood :
      readRule "rrule: freq = monthly; ;byday=fr;BYSETPOS=-1; interval = 0_12" =
        .ok (some ⟨12, .monthlyWeekday .last .friday, by decide⟩) := by
    rfl
  have readAgain := readRule_ruleText.2.2.1 _ _ understood
  exact ⟨writable, rfl, readRule_ruleText.1 _ writable, understood.trans readAgain.symm⟩

end Recurrence
end Cadence
