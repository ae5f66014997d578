import Cadence.Proofs.Recurrence.RuleFields
import Cadence.Proofs.Recurrence.WrittenParts

/-!
# The parts of a rule

What the writer puts into the text of a rule.  The parts are plain and no key comes
twice, so the text can be read back, and each key has the value that the rule sets.
-/

namespace Cadence
namespace Recurrence

open Calendar Number Text

/-! ## Plain parts -/

theorem isPlain_weekdayCode (weekday : Weekday) :
    ∀ character ∈ weekday.code, isPlain character = true := by
  rw [← List.all_eq_true]
  cases weekday <;> decide

theorem isPlainPart_weekday (weekday : Weekday) :
    IsPlainPart (.weekday, weekday.code) := by
  refine ⟨?_, isPlain_weekdayCode weekday⟩
  cases weekday <;> decide

theorem isPlainPart_shortCode (weekday : Weekday) :
    IsPlainPart (.weekday, weekday.shortCode) := by
  refine ⟨?_, ?_⟩
  · cases weekday <;> decide
  · rw [← List.all_eq_true]
    cases weekday <;> decide

theorem isPlainPart_naturalDigits (key : Key) (number : Nat) :
    IsPlainPart (key, naturalDigits number) := by
  refine ⟨?_, fun _ member => isPlain_of_isDigit (isDigit_of_mem_naturalDigits member)⟩
  simp [naturalDigits]

theorem isPlainPart_integerDigits (key : Key) (number : Int) :
    IsPlainPart (key, integerDigits number) := by
  cases number with
  | ofNat natural => exact isPlainPart_naturalDigits key natural
  | negSucc predecessor =>
      refine ⟨List.cons_ne_nil _ _, ?_⟩
      intro character member
      rcases List.mem_cons.mp member with rfl | inDigits
      · rfl
      · exact isPlain_of_isDigit (isDigit_of_mem_naturalDigits inDigits)

theorem Pattern.isPlainPart_of_mem_parts
    {pattern : Pattern}
    {part : Key × List Char}
    (member : part ∈ pattern.parts) : IsPlainPart part := by
  cases pattern with
  | daily => cases member
  | weekly weekday =>
      cases weekday with
      | none => cases member
      | some weekday =>
          rw [List.mem_singleton.mp member]
          exact isPlainPart_weekday weekday
  | monthly day =>
      cases day with
      | none => cases member
      | some day =>
          rw [List.mem_singleton.mp member]
          exact isPlainPart_integerDigits _ _
  | monthlyWeekday ordinal weekday =>
      rcases List.mem_cons.mp member with rfl | isWeekday
      · exact isPlainPart_integerDigits _ _
      · rw [List.mem_singleton.mp isWeekday]
        exact isPlainPart_weekday weekday
  | yearly month day =>
      rcases List.mem_append.mp member with isMonth | isDay
      · obtain ⟨month, _, rfl⟩ := Option.map_eq_some_iff.mp (Option.mem_toList.mp isMonth)
        exact isPlainPart_naturalDigits _ _
      · obtain ⟨day, _, rfl⟩ := Option.map_eq_some_iff.mp (Option.mem_toList.mp isDay)
        exact isPlainPart_integerDigits _ _
  | foreign frequency selectors => cases member

theorem Frequency.isPlainPart_code (frequency : Frequency) :
    IsPlainPart (.frequency, frequency.code) := by
  refine ⟨?_, frequency.isPlain_code⟩
  cases frequency <;> decide

theorem Rule.isPlainPart_of_mem_parts
    {rule : Rule}
    {frequency : Frequency}
    (supported : rule.frequency? = some frequency)
    {part : Key × List Char}
    (member : part ∈ rule.parts) : IsPlainPart part := by
  rw [Rule.parts, List.mem_cons, List.mem_append] at member
  rcases member with rfl | isInterval | inPattern
  · unfold Rule.frequencyCode
    rw [Pattern.frequencyCode_of_frequency? supported]
    exact frequency.isPlainPart_code
  · split at isInterval
    · rw [List.mem_singleton.mp isInterval]
      exact isPlainPart_naturalDigits _ _
    · cases isInterval
  · exact Pattern.isPlainPart_of_mem_parts inPattern

/-- A pattern writes each of the selector keys at most once and no other key. -/
theorem Pattern.keys_parts (pattern : Pattern) :
    (pattern.parts.map Prod.fst).Nodup ∧
      Key.frequency ∉ pattern.parts.map Prod.fst ∧
      Key.interval ∉ pattern.parts.map Prod.fst := by
  cases pattern with
  | weekly weekday => cases weekday <;> simp [Pattern.parts]
  | monthly day => cases day <;> simp [Pattern.parts]
  | yearly month day => cases month <;> cases day <;> simp [Pattern.parts]
  | _ => simp [Pattern.parts]

theorem Rule.nodup_keys_parts (rule : Rule) : (rule.parts.map Prod.fst).Nodup := by
  obtain ⟨distinct, noFrequency, noInterval⟩ := rule.pattern.keys_parts
  unfold Rule.parts
  split
  · simp only [List.cons_append, List.nil_append, List.map_cons, List.nodup_cons,
      List.mem_cons, not_or]
    exact ⟨⟨by decide, noFrequency⟩, noInterval, distinct⟩
  · simp only [List.nil_append, List.map_cons, List.nodup_cons]
    exact ⟨noFrequency, distinct⟩

/-! ## The values of the keys -/

theorem Rule.value?_frequency_parts (rule : Rule) :
    rule.parts.value? .frequency = some rule.frequencyCode :=
  rfl

theorem Rule.value?_interval_parts (rule : Rule) :
    rule.parts.value? .interval =
      if 1 < rule.interval then some (naturalDigits rule.interval) else none := by
  have absent := Parts.value?_eq_none_iff.mpr rule.pattern.keys_parts.2.2
  unfold Rule.parts
  split
  · rfl
  · exact absent

/-- The keys of the selectors have the values that the pattern writes. -/
theorem Rule.value?_parts
    {rule : Rule}
    {key : Key}
    (notFrequency : key ≠ .frequency)
    (notInterval : key ≠ .interval) :
    rule.parts.value? key = rule.pattern.parts.value? key := by
  unfold Rule.parts
  rw [← List.cons_append]
  apply Parts.value?_append_of_notMem
  split <;> simp [notFrequency, notInterval]

/-- A pattern of one of the four frequencies writes exactly the selectors that it sets. -/
theorem Pattern.value?_parts
    {pattern : Pattern}
    {frequency : Frequency}
    (supported : pattern.frequency? = some frequency) :
    pattern.parts.value? .weekday = pattern.selectors.weekday.map Weekday.code ∧
      pattern.parts.value? .monthDay =
        (pattern.selectors.monthDay.map MonthDay.number).map integerDigits ∧
      pattern.parts.value? .ordinal =
        (pattern.selectors.ordinal.map WeekdayOrdinal.number).map integerDigits ∧
      pattern.parts.value? .month =
        (pattern.selectors.month.map fun month => (month.number : Int)).map
          integerDigits := by
  cases pattern with
  | daily => exact ⟨rfl, rfl, rfl, rfl⟩
  | weekly weekday => cases weekday <;> exact ⟨rfl, rfl, rfl, rfl⟩
  | monthly day => cases day <;> exact ⟨rfl, rfl, rfl, rfl⟩
  | monthlyWeekday ordinal weekday => exact ⟨rfl, rfl, rfl, rfl⟩
  | yearly month day => cases month <;> cases day <;> exact ⟨rfl, rfl, rfl, rfl⟩
  | foreign foreignFrequency selectors => cases supported

end Recurrence
end Cadence
