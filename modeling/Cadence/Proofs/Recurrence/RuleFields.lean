import Cadence.Proofs.Text.Plain
import Cadence.Recurrence.Fields

/-!
# Rules and their fields

Fields with one of the four frequencies make a rule exactly when every check gives what
the rule has, because such a rule sets exactly the selectors that were given.  The fields
that spell out a rule therefore make that rule again.
-/

namespace Cadence
namespace Recurrence

open Calendar Number Stored Text

/-! ## Selectors of a frequency -/

/-- No selector is unused when the frequency uses every selector that is set. -/
theorem Selectors.unused?_eq_none_iff
    {selectors : Selectors}
    {frequency : Frequency} :
    selectors.unused? frequency = .none ↔
      ∀ selector, selectors.isSet selector = true → frequency.uses selector = true := by
  unfold Selectors.unused?
  rw [List.find?_eq_none]
  constructor
  · intro noneFound selector isSet
    have member : selector ∈ Selector.all := by cases selector <;> decide
    have notFound := noneFound selector member
    simpa [isSet] using notFound
  · intro used selector _ found
    simp only [Bool.and_eq_true, Bool.not_eq_true'] at found
    rw [used selector found.1] at found
    cases found.2

theorem Pattern.uses_of_isSet
    {pattern : Pattern}
    {frequency : Frequency}
    (supported : pattern.frequency? = some frequency)
    (selector : Selector)
    (isSet : pattern.selectors.isSet selector = true) :
    frequency.uses selector = true := by
  cases pattern <;> cases supported <;> cases selector <;> first | rfl | cases isSet

/-- The selectors of a pattern and its frequency make that pattern. -/
theorem Pattern.ofSelectors_selectors
    {pattern : Pattern}
    {frequency : Frequency}
    (supported : pattern.frequency? = some frequency) :
    Pattern.ofSelectors frequency pattern.selectors = .ok pattern := by
  unfold Pattern.ofSelectors
  rw [Selectors.unused?_eq_none_iff.mpr (Pattern.uses_of_isSet supported)]
  cases pattern <;> cases supported <;> rfl

/-- Selectors that make a pattern are the selectors of that pattern. -/
theorem Pattern.selectors_of_ofSelectors
    {frequency : Frequency}
    {selectors : Selectors}
    {pattern : Pattern}
    (made : Pattern.ofSelectors frequency selectors = .ok pattern)
    (placed : selectors.ordinal.isSome = true →
      selectors.weekday.isSome = true ∧ selectors.monthDay.isSome = false) :
    pattern.frequency? = some frequency ∧ pattern.selectors = selectors := by
  unfold Pattern.ofSelectors at made
  split at made
  · cases made
  · next allUsed =>
      have used := Selectors.unused?_eq_none_iff.mp allUsed
      have weekdayUsed := used .weekday
      have monthDayUsed := used .monthDay
      have ordinalUsed := used .ordinal
      have monthUsed := used .month
      obtain ⟨weekday, monthDay, ordinal, month⟩ := selectors
      split at made <;> cases made <;>
        simp_all [Selectors.isSet, Frequency.uses, Pattern.frequency?,
          Pattern.selectors, Selectors.none]

/-! ## Checks of single fields -/

theorem checkInterval_natCast {interval : Nat} (positive : 0 < interval) :
    checkInterval (.int interval) = .ok ⟨interval, positive⟩ := by
  have positiveInt : 1 ≤ (interval : Int) := by omega
  simp [checkInterval, positiveInt]

/-- An interval that passes its check was given as that number. -/
theorem eq_int_of_checkInterval
    {given : Value}
    {interval : { interval : Nat // 0 < interval }}
    (checked : checkInterval given = .ok interval) :
    given = .int interval.1 := by
  unfold checkInterval at checked
  split at checked
  · next number =>
      split at checked
      · next positive =>
          cases checked
          rw [Int.toNat_of_nonneg (by omega)]
      · cases checked
  · cases checked

/-- A field passes its check when it spells something out that is understood. -/
theorem checkField_map
    {Given Meaning : Type}
    {read? : Given → Option Meaning}
    {spell : Meaning → Given}
    (understood : ∀ meaning, read? (spell meaning) = some meaning)
    (fault : Given → RuleFault)
    (meaning : Option Meaning) :
    checkField read? fault (meaning.map spell) = .ok meaning := by
  cases meaning with
  | none => rfl
  | some meaning => simp [checkField, understood]

/-- A place that passes its check comes with a weekday and without a day of the month. -/
theorem placed_of_checkOrdinal
    {weekday : Option Weekday}
    {monthDay : Option MonthDay}
    {number : Option Int}
    {ordinal : Option WeekdayOrdinal}
    (checked : checkOrdinal weekday monthDay number = .ok ordinal)
    (isSet : ordinal.isSome = true) :
    weekday.isSome = true ∧ monthDay.isSome = false := by
  unfold checkOrdinal at checked
  split at checked
  · cases checked
    cases isSet
  · split at checked
    · cases checked
    · split at checked
      · cases checked
      · next hasWeekday =>
          split at checked
          · cases checked
          · next noMonthDay =>
              refine ⟨?_, ?_⟩
              · simpa [Option.isSome_iff_ne_none] using hasWeekday
              · simpa using noMonthDay

theorem Pattern.checkOrdinal_selectors
    {pattern : Pattern}
    {frequency : Frequency}
    (supported : pattern.frequency? = some frequency) :
    checkOrdinal pattern.selectors.weekday pattern.selectors.monthDay
      (pattern.selectors.ordinal.map WeekdayOrdinal.number) =
        .ok pattern.selectors.ordinal := by
  cases pattern with
  | monthlyWeekday ordinal weekday =>
      simp [checkOrdinal, Pattern.selectors, Selectors.none]
  | foreign foreignFrequency selectors => cases supported
  | _ => rfl

/-! ## The checks together -/

theorem bind_eq_ok_iff
    {Fault Value Result : Type}
    {first : Except Fault Value}
    {next : Value → Except Fault Result}
    {result : Result} :
    (first >>= next) = .ok result ↔
      ∃ value, first = .ok value ∧ next value = .ok result := by
  cases first with
  | error fault =>
      constructor
      · intro failed
        cases failed
      · rintro ⟨value, failed, _⟩
        cases failed
  | ok value =>
      constructor
      · intro succeeded
        exact ⟨value, rfl, succeeded⟩
      · rintro ⟨other, same, succeeded⟩
        cases same
        exact succeeded

/-- Fields with one of the four frequencies make a rule exactly when each of them passes
its check and gives what the rule has. -/
theorem Rule.ofFields_eq_ok_iff
    {fields : Fields}
    {rule : Rule}
    {frequency : Frequency}
    (named : readFrequency fields.frequency = .inl frequency) :
    Rule.ofFields fields = .ok rule ↔
      rule.frequency? = some frequency ∧
      checkInterval fields.interval = .ok ⟨rule.interval, rule.interval_pos⟩ ∧
      checkField Weekday.ofCode? (fun name => .unknownWeekday (String.ofList name))
        fields.weekday = .ok rule.selectors.weekday ∧
      checkField MonthDay.ofNumber? .monthDayOutOfRange fields.monthDay =
        .ok rule.selectors.monthDay ∧
      checkOrdinal rule.selectors.weekday rule.selectors.monthDay fields.ordinal =
        .ok rule.selectors.ordinal ∧
      checkField Month.ofNumber? .monthOutOfRange fields.month =
        .ok rule.selectors.month := by
  unfold Rule.ofFields
  constructor
  · intro made
    simp only [bind_eq_ok_iff] at made
    obtain ⟨⟨interval, positive⟩, intervalChecked, weekday, weekdayChecked, monthDay,
      monthDayChecked, ordinal, ordinalChecked, month, monthChecked, rest⟩ := made
    rw [named] at rest
    obtain ⟨pattern, patternMade, isRule⟩ := bind_eq_ok_iff.mp rest
    cases isRule
    obtain ⟨supported, sameSelectors⟩ :=
      Pattern.selectors_of_ofSelectors patternMade (placed_of_checkOrdinal ordinalChecked)
    unfold Rule.selectors Rule.frequency?
    rw [sameSelectors]
    exact ⟨supported, intervalChecked, weekdayChecked, monthDayChecked, ordinalChecked,
      monthChecked⟩
  · rintro ⟨supported, intervalChecked, weekdayChecked, monthDayChecked, ordinalChecked,
      monthChecked⟩
    rw [intervalChecked, weekdayChecked, monthDayChecked]
    simp only [bind, Except.bind]
    rw [ordinalChecked, monthChecked, named]
    have patternMade := Pattern.ofSelectors_selectors supported
    unfold Rule.selectors
    simp only [patternMade]
    rfl

/-! ## The fields of a rule -/

theorem Frequency.isPlain_code (frequency : Frequency) :
    ∀ character ∈ frequency.code, isPlain character = true := by
  rw [← List.all_eq_true]
  cases frequency <;> decide

/-- The capital spelling of a frequency is read as that frequency. -/
theorem readFrequency_code (frequency : Frequency) :
    readFrequency frequency.code = .inl frequency := by
  have plain := frequency.isPlain_code
  have named : Frequency.ofCode? (upper (trim frequency.code)) = some frequency := by
    rw [trim_eq_self plain, upper_eq_self plain, Frequency.ofCode?_code]
  unfold readFrequency
  simp only
  split
  · next other isOther =>
      rw [named] at isOther
      cases isOther
      rfl
  · next isForeign =>
      rw [named] at isForeign
      cases isForeign

theorem Rule.readFrequency_fields
    {rule : Rule}
    {frequency : Frequency}
    (supported : rule.frequency? = some frequency) :
    readFrequency rule.fields.frequency = .inl frequency := by
  change readFrequency rule.pattern.frequencyCode = .inl frequency
  rw [Pattern.frequencyCode_of_frequency? supported, readFrequency_code]

/-- The fields of a rule with one of the four frequencies make that rule. -/
theorem Rule.ofFields_fields
    {rule : Rule}
    {frequency : Frequency}
    (supported : rule.frequency? = some frequency) :
    Rule.ofFields rule.fields = .ok rule := by
  rw [Rule.ofFields_eq_ok_iff (Rule.readFrequency_fields supported)]
  refine ⟨supported, ?_, ?_, ?_, ?_, ?_⟩
  · exact checkInterval_natCast rule.interval_pos
  · exact checkField_map Weekday.ofCode?_code _ _
  · exact checkField_map MonthDay.ofNumber?_number _ _
  · exact Pattern.checkOrdinal_selectors supported
  · exact checkField_map Month.ofNumber?_number _ _

end Recurrence
end Cadence
