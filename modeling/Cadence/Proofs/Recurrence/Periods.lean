import Cadence.Proofs.Recurrence.Units
import Mathlib.Logic.ExistsUnique

/-!
# Periods of a schedule

A rule numbers its occurrences by periods.  The number of a date grows with the date,
every period whose first unit is wholly inside the calendar has its occurrence, and the
period of the start has one when its selected day has not passed.  Leaving out the
first period therefore takes away the first occurrence or nothing.
-/

namespace Cadence
namespace Recurrence

open Calendar

section Periods

variable {rule : Rule} {frequency : Frequency} {start : Date}

/-- A rule that numbers a date has one of the four frequencies. -/
theorem Rule.exists_frequency?_of_periodIndex
    {date : Date}
    {found : Option Nat}
    (answers : rule.periodIndex start date = .ok found) :
    ∃ frequency, rule.frequency? = some frequency := by
  obtain ⟨interval, pattern, positive⟩ := rule
  cases pattern with
  | foreign frequency selectors => cases answers
  | _ => exact ⟨_, rfl⟩

/-- The date of a period is the selected day of its first unit. -/
theorem Rule.periodIndex_eq_some_iff
    (supported : rule.frequency? = some frequency)
    {date : Date}
    {index : Nat} :
    rule.periodIndex start date = .ok (some index) ↔
      start ≤ date ∧
        rule.pattern.selectedDay? start
          (rule.pattern.unitIndex start + index * rule.interval) = some date := by
  rw [Rule.periodIndex_of_frequency? supported, Except.ok.injEq]
  exact Pattern.periodIndex?_eq_some_iff_selectedDay? supported rule.interval_pos

/-- A period has at most one date. -/
theorem Rule.eq_of_periodIndex_eq
    (supported : rule.frequency? = some frequency)
    {first second : Date}
    {index : Nat}
    (firstIndex : rule.periodIndex start first = .ok (some index))
    (secondIndex : rule.periodIndex start second = .ok (some index)) :
    first = second := by
  rw [Rule.periodIndex_eq_some_iff supported] at firstIndex secondIndex
  exact Option.some.inj (firstIndex.2.symm.trans secondIndex.2)

theorem Rule.existsUnique_of_periodIndex_eq
    (supported : rule.frequency? = some frequency)
    {date : Date}
    {index : Nat}
    (indexed : rule.periodIndex start date = .ok (some index)) :
    ∃! date, rule.periodIndex start date = .ok (some index) := by
  refine ⟨date, indexed, ?_⟩
  intro other otherIndex
  exact Rule.eq_of_periodIndex_eq supported otherIndex indexed

/-- The unit of an occurrence is the first unit of its period. -/
theorem Rule.unitIndex_of_periodIndex
    (supported : rule.frequency? = some frequency)
    {date : Date}
    {index : Nat}
    (indexed : rule.periodIndex start date = .ok (some index)) :
    rule.pattern.unitIndex date =
      rule.pattern.unitIndex start + index * rule.interval := by
  rw [Rule.periodIndex_eq_some_iff supported,
    Pattern.selectedDay?_eq_some_iff supported] at indexed
  exact indexed.2.1

/-- Later occurrences belong to later periods. -/
theorem Rule.periodIndex_lt_of_lt
    (supported : rule.frequency? = some frequency)
    {earlier later : Date}
    {first second : Nat}
    (before : earlier < later)
    (firstIndex : rule.periodIndex start earlier = .ok (some first))
    (secondIndex : rule.periodIndex start later = .ok (some second)) :
    first < second := by
  rcases Nat.lt_trichotomy first second with less | same | greater
  · exact less
  · subst same
    have sameDate := Rule.eq_of_periodIndex_eq supported firstIndex secondIndex
    exact absurd (sameDate ▸ before) (Nat.lt_irrefl _)
  · have ordered := Pattern.unitIndex_mono supported (Nat.le_of_lt before)
    rw [Rule.unitIndex_of_periodIndex supported firstIndex,
      Rule.unitIndex_of_periodIndex supported secondIndex] at ordered
    have apart := Nat.mul_lt_mul_of_pos_right greater rule.interval_pos
    omega

/-- No date on or after an occurrence belongs to an earlier period. -/
theorem Rule.periodIndex_le_of_le
    (supported : rule.frequency? = some frequency)
    {earlier later : Date}
    {first second : Nat}
    (ordered : earlier ≤ later)
    (firstIndex : rule.periodIndex start earlier = .ok (some first))
    (secondIndex : rule.periodIndex start later = .ok (some second)) :
    first ≤ second := by
  rcases Nat.lt_or_eq_of_le ordered with before | same
  · exact Nat.le_of_lt (Rule.periodIndex_lt_of_lt supported before firstIndex secondIndex)
  · rw [Date.ext same, secondIndex] at firstIndex
    cases firstIndex
    exact Nat.le_refl _

/-- A period after the first one has a date when its first unit ends inside the
calendar. -/
theorem Rule.exists_periodIndex_eq
    (supported : rule.frequency? = some frequency)
    {index : Nat}
    (afterFirst : 1 ≤ index)
    (inside : frequency.unitOpening
      (rule.pattern.unitIndex start + index * rule.interval + 1) ≤ calendarLength) :
    ∃ date, rule.periodIndex start date = .ok (some index) := by
  obtain ⟨date, selected⟩ :=
    Pattern.exists_selectedDay? supported start (Nat.le_add_right _ _) inside
  refine ⟨date, (Rule.periodIndex_eq_some_iff supported).mpr ⟨?_, selected⟩⟩
  have later : rule.pattern.unitIndex start < rule.pattern.unitIndex date := by
    rw [((Pattern.selectedDay?_eq_some_iff supported).mp selected).1]
    have positive := Nat.mul_pos afterFirst rule.interval_pos
    omega
  exact Nat.le_of_lt (Pattern.lt_of_unitIndex_lt supported later)

/-- A rule with one of the four frequencies says of every date whether it is an
occurrence. -/
theorem isOccurrence_of_frequency?
    (supported : rule.frequency? = some frequency)
    (start : Date)
    (limits : Limits)
    (date : Date) :
    isOccurrence (some rule) start limits date =
      .ok (limits.admits start date &&
        (rule.pattern.periodIndex? rule.interval start date).any fun index =>
          !(limits.skipFirstPeriod && index == 0)) := by
  unfold isOccurrence
  simp only [Rule.periodIndex_of_frequency? supported]
  cases limits.admits start date with
  | false => rfl
  | true => cases rule.pattern.periodIndex? rule.interval start date <;> rfl

/-- What is asked of the rule that may be given, asked of one. -/
theorem forall_mem_some_supported (supported : rule.frequency? = some frequency) :
    ∀ given ∈ some rule, ∃ frequency, given.frequency? = some frequency := by
  rintro _ ⟨⟩
  exact ⟨frequency, supported⟩

/-- A rule with an occurrence has one of the four frequencies. -/
theorem exists_frequency?_of_isOccurrence
    {limits : Limits}
    {date : Date}
    (occurs : isOccurrence (some rule) start limits date = .ok true) :
    ∃ frequency, rule.frequency? = some frequency := by
  unfold isOccurrence at occurs
  split at occurs
  · cases answer : rule.periodIndex start date with
    | error unsupported =>
        simp only [answer] at occurs
        cases occurs
    | ok found => exact Rule.exists_frequency?_of_periodIndex answer
  · cases occurs

/-- No period is found for a rule with a frequency of a foreign name. -/
theorem Rule.periodIndex_of_frequency?_eq_none
    (foreign : rule.frequency? = none)
    (start date : Date) : rule.periodIndex start date = .error ⟨rule.frequencyCode⟩ := by
  obtain ⟨interval, pattern, positive⟩ := rule
  cases pattern with
  | foreign frequency selectors => rfl
  | _ => cases foreign

/-- No answer is given about the dates within the limits for a rule with a frequency of a foreign
name, and an answer in every other case. -/
theorem isOccurrence_eq_error_iff
    {given : Option Rule}
    {limits : Limits}
    {date : Date}
    {unsupported : UnsupportedFrequency} :
    isOccurrence given start limits date = .error unsupported ↔
      limits.admits start date = true ∧
        ∃ rule ∈ given, rule.frequency? = none ∧ unsupported = ⟨rule.frequencyCode⟩ := by
  cases given with
  | none => simp
  | some rule =>
      cases named : rule.frequency? with
      | some frequency => simp [isOccurrence_of_frequency? named, named]
      | none =>
          simp only [isOccurrence, Rule.periodIndex_of_frequency?_eq_none named]
          cases limits.admits start date with
          | false => simp
          | true => simp [named, eq_comm]

/-- An occurrence is a date of a period, within the limits, and not of the first
period when that one is left out. -/
theorem isOccurrence_eq_true_iff
    (supported : rule.frequency? = some frequency)
    {limits : Limits}
    {date : Date} :
    isOccurrence (some rule) start limits date = .ok true ↔
      limits.admits start date = true ∧
        ∃ index, rule.periodIndex start date = .ok (some index) ∧
          (limits.skipFirstPeriod = true → index ≠ 0) := by
  rw [isOccurrence_of_frequency? supported, Rule.periodIndex_of_frequency? supported]
  simp only [Except.ok.injEq, Bool.and_eq_true, Option.any_eq_true]
  cases limits.skipFirstPeriod <;> simp

/-- A date that only the left out first period takes away is the first occurrence. -/
theorem periodIndex_eq_zero_of_skipped
    (supported : rule.frequency? = some frequency)
    {limits : Limits}
    {date : Date}
    (occurs : isOccurrence (some rule) start
      { limits with skipFirstPeriod := false } date = .ok true)
    (skipped : isOccurrence (some rule) start
      { limits with skipFirstPeriod := true } date = .ok false) :
    rule.periodIndex start date = .ok (some 0) := by
  obtain ⟨admitted, index, indexed, _⟩ := (isOccurrence_eq_true_iff supported).mp occurs
  cases index with
  | zero => exact indexed
  | succ index =>
      have kept : isOccurrence (some rule) start
          { limits with skipFirstPeriod := true } date = .ok true :=
        (isOccurrence_eq_true_iff supported).mpr
          ⟨admitted, index + 1, indexed, fun _ => Nat.succ_ne_zero index⟩
      rw [skipped] at kept
      cases kept

theorem isOccurrence_of_skipFirstPeriod
    (supported : rule.frequency? = some frequency)
    {limits : Limits}
    {date : Date}
    (occurs : isOccurrence (some rule) start
      { limits with skipFirstPeriod := true } date = .ok true) :
    isOccurrence (some rule) start
      { limits with skipFirstPeriod := false } date = .ok true := by
  rw [isOccurrence_eq_true_iff supported] at occurs ⊢
  obtain ⟨admitted, index, indexed, _⟩ := occurs
  refine ⟨admitted, index, indexed, ?_⟩
  intro skips
  cases skips

/-- Every other occurrence than the one that the left out first period takes away is
later and stays. -/
theorem lt_and_isOccurrence_of_skipped
    (supported : rule.frequency? = some frequency)
    {limits : Limits}
    {date other : Date}
    (occurs : isOccurrence (some rule) start
      { limits with skipFirstPeriod := false } date = .ok true)
    (skipped : isOccurrence (some rule) start
      { limits with skipFirstPeriod := true } date = .ok false)
    (otherOccurs : isOccurrence (some rule) start
      { limits with skipFirstPeriod := false } other = .ok true)
    (different : other ≠ date) :
    date < other ∧ isOccurrence (some rule) start
      { limits with skipFirstPeriod := true } other = .ok true := by
  have isZero := periodIndex_eq_zero_of_skipped supported occurs skipped
  obtain ⟨admitted, index, indexed, _⟩ := (isOccurrence_eq_true_iff supported).mp otherOccurs
  have notZero : index ≠ 0 := by
    rintro rfl
    exact different (Rule.eq_of_periodIndex_eq supported indexed isZero)
  refine ⟨?_, (isOccurrence_eq_true_iff supported).mpr
    ⟨admitted, index, indexed, fun _ => notZero⟩⟩
  rcases Nat.lt_trichotomy date.dayNumber other.dayNumber with before | same | after
  · exact before
  · exact absurd (Date.ext same.symm) different
  · have reversed := Rule.periodIndex_lt_of_lt supported after indexed isZero
    exact absurd reversed (Nat.not_lt_zero index)

end Periods

/-- Occurrences and periods of a rule correspond one to one: numbers grow with dates,
a later period whose first unit is wholly inside the calendar has exactly one date, and
the first period has exactly one when the day selected in the unit of the start is in
the calendar and not before the start, otherwise none.  Leaving out the first period
adds no date and takes away at most one, the first. -/
theorem Rule.periodIndex_correspondence
    (rule : Rule)
    {frequency : Frequency}
    (supported : rule.frequency? = some frequency)
    (start : Date) :
    (∀ (earlier later : Date) (first second : Nat), earlier < later →
      rule.periodIndex start earlier = .ok (some first) →
      rule.periodIndex start later = .ok (some second) → first < second) ∧
    (∀ index, 1 ≤ index →
      frequency.unitOpening
        (rule.pattern.unitIndex start + index * rule.interval + 1) ≤ calendarLength →
      ∃! date, rule.periodIndex start date = .ok (some index)) ∧
    (∀ selected,
      rule.pattern.selectedDay? start (rule.pattern.unitIndex start) = some selected →
      start ≤ selected →
      ∃! date, rule.periodIndex start date = .ok (some 0)) ∧
    ((∀ selected,
      rule.pattern.selectedDay? start (rule.pattern.unitIndex start) = some selected →
      ¬ start ≤ selected) →
      ∀ date, rule.periodIndex start date ≠ .ok (some 0)) ∧
    ∀ (limits : Limits) (date : Date),
      (isOccurrence (some rule) start
        { limits with skipFirstPeriod := true } date = .ok true →
        isOccurrence (some rule) start
          { limits with skipFirstPeriod := false } date = .ok true) ∧
      (isOccurrence (some rule) start
        { limits with skipFirstPeriod := false } date = .ok true →
        isOccurrence (some rule) start
          { limits with skipFirstPeriod := true } date = .ok false →
        ∀ other, isOccurrence (some rule) start
          { limits with skipFirstPeriod := false } other = .ok true →
          other ≠ date →
          date < other ∧ isOccurrence (some rule) start
            { limits with skipFirstPeriod := true } other = .ok true) := by
  refine ⟨?_, ?_, ?_, ?_, ?_⟩
  · intro earlier later first second before firstIndex secondIndex
    exact Rule.periodIndex_lt_of_lt supported before firstIndex secondIndex
  · intro index afterFirst inside
    obtain ⟨date, indexed⟩ := Rule.exists_periodIndex_eq supported afterFirst inside
    exact Rule.existsUnique_of_periodIndex_eq supported indexed
  · intro selected isSelected started
    have indexed : rule.periodIndex start selected = .ok (some 0) := by
      rw [Rule.periodIndex_eq_some_iff supported, Nat.zero_mul]
      exact ⟨started, isSelected⟩
    exact Rule.existsUnique_of_periodIndex_eq supported indexed
  · intro passed date indexed
    rw [Rule.periodIndex_eq_some_iff supported, Nat.zero_mul] at indexed
    exact passed date indexed.2 indexed.1
  · intro limits date
    constructor
    · intro occurs
      exact isOccurrence_of_skipFirstPeriod supported occurs
    · intro occurs skipped other otherOccurs different
      exact lt_and_isOccurrence_of_skipped supported occurs skipped otherOccurs different

/-- A yearly schedule that starts on 29 February 2024 has exactly one date in its first
period and exactly one in the common year 2025. -/
theorem periodIndex_correspondence_leapDay :
    let rule : Rule := ⟨1, .yearly none none, Nat.one_pos⟩
    let start : Date := ⟨738944, by decide⟩
    rule.frequency? = some .yearly ∧
      Frequency.yearly.unitOpening
        (rule.pattern.unitIndex start + 1 * rule.interval + 1) ≤ calendarLength ∧
      (∃! date, rule.periodIndex start date = .ok (some 1)) ∧
      rule.pattern.selectedDay? start (rule.pattern.unitIndex start) = some start ∧
      ∃! date, rule.periodIndex start date = .ok (some 0) := by
  intro rule start
  have inside : Frequency.yearly.unitOpening
      (rule.pattern.unitIndex start + 1 * rule.interval + 1) ≤ calendarLength := by
    decide
  have selected :
      rule.pattern.selectedDay? start (rule.pattern.unitIndex start) = some start := by
    decide
  have correspondence := Rule.periodIndex_correspondence rule rfl start
  exact ⟨rfl, inside, correspondence.2.1 1 (Nat.le_refl 1) inside, selected,
    correspondence.2.2.1 start selected (Nat.le_refl _)⟩

end Recurrence
end Cadence
