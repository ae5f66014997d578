import Cadence.Proofs.Calendar.WeekdayPlaces
import Cadence.Proofs.Recurrence.Periods
import Cadence.Proofs.Recurrence.RuleFields
import Cadence.Recurrence.Anchor

/-!
# Rules on another date

What becomes of a rule whose set selectors are taken from another date.  Each of them is a number
that the date has, or the mark for the last one where the rule has it and the date is the last, so
the fields pass every check.  Taking them from the date again changes nothing, and the new rule
selects the date that they were taken from.
-/

namespace Cadence
namespace Recurrence

open Calendar

/-! ## Single selectors -/

theorem MonthDay.number_eq_neg_one_iff {day : MonthDay} : day.number = -1 ↔ day = .last :=
  ⟨fun isLast => MonthDay.number_injective isLast, fun isLast => isLast ▸ rfl⟩

/-- The number of a day of the month that is taken from another date. -/
theorem MonthDay.number_reanchor (day : MonthDay) (date : Date) :
    (day.reanchor date).number =
      if day.number = -1 ∧ date = date.yearMonth.lastDay then -1 else (date.day : Int) := by
  unfold reanchor
  by_cases stays : day = .last ∧ date = date.yearMonth.lastDay
  · rw [if_pos stays, if_pos ⟨number_eq_neg_one_iff.mpr stays.1, stays.2⟩]
    rfl
  · rw [if_neg stays, if_neg fun isLast => stays ⟨number_eq_neg_one_iff.mp isLast.1, isLast.2⟩]
    rfl

theorem MonthDay.reanchor_reanchor (day : MonthDay) (date : Date) :
    (day.reanchor date).reanchor date = day.reanchor date := by
  unfold reanchor
  split
  · next stays => exact if_pos ⟨rfl, stays.2⟩
  · exact if_neg fun isLast => nomatch isLast.1

theorem ordinalNumber_eq_neg_one_iff {ordinal : WeekdayOrdinal} :
    ordinal.number = -1 ↔ ordinal = .last := by
  cases ordinal <;> decide

/-- The number of a place among equal weekdays that is taken from another date. -/
theorem number_reanchorOrdinal (ordinal : WeekdayOrdinal) (date : Date) :
    (reanchorOrdinal ordinal date).number =
      if date.isLastOfWeekday = true ∧ (ordinal.number = -1 ∨ 4 < date.weekdayOrdinal) then -1
      else (date.weekdayOrdinal : Int) := by
  have positive := date.weekdayOrdinal_pos
  have atMostFive := date.weekdayOrdinal_le_five
  unfold reanchorOrdinal
  by_cases stays : ordinal = .last ∧ date.isLastOfWeekday = true
  · rw [if_pos stays, if_pos ⟨stays.2, Or.inl (ordinalNumber_eq_neg_one_iff.mpr stays.1)⟩]
    rfl
  · rw [if_neg stays]
    by_cases fifth : 4 < date.weekdayOrdinal
    · have isFive : date.weekdayOrdinal = 5 := by omega
      rw [if_pos ⟨Date.isLastOfWeekday_of_four_lt fifth, Or.inr fifth⟩, isFive]
      rfl
    · have changes : ¬ (date.isLastOfWeekday = true ∧
          (ordinal.number = -1 ∨ 4 < date.weekdayOrdinal)) := by
        rintro ⟨isLast, wasLast | isFifth⟩
        · exact stays ⟨ordinalNumber_eq_neg_one_iff.mp wasLast, isLast⟩
        · exact fifth isFifth
      rw [if_neg changes]
      generalize date.weekdayOrdinal = place at positive fifth
      match place, positive, Nat.le_of_not_lt fifth with
      | 1, _, _ | 2, _, _ | 3, _, _ | 4, _, _ => rfl

/-- The place that a rule has makes no difference where it is not the last one that stays. -/
theorem reanchorOrdinal_of_not_stays
    {ordinal : WeekdayOrdinal}
    {date : Date}
    (changes : ¬ (ordinal = .last ∧ date.isLastOfWeekday = true)) :
    reanchorOrdinal ordinal date = reanchorOrdinal .first date := by
  unfold reanchorOrdinal
  rw [if_neg changes, if_neg fun isLast => nomatch isLast.1]

theorem reanchorOrdinal_reanchorOrdinal (ordinal : WeekdayOrdinal) (date : Date) :
    reanchorOrdinal (reanchorOrdinal ordinal date) date = reanchorOrdinal ordinal date := by
  by_cases stays : reanchorOrdinal ordinal date = .last ∧ date.isLastOfWeekday = true
  · rw [stays.1]
    exact if_pos ⟨rfl, stays.2⟩
  · have changes : ¬ (ordinal = .last ∧ date.isLastOfWeekday = true) :=
      fun wasLast => stays ⟨if_pos wasLast, wasLast.2⟩
    rw [reanchorOrdinal_of_not_stays stays, reanchorOrdinal_of_not_stays changes]

/-- The place that is taken from a date is its place. -/
theorem ordinalWeekday_reanchorOrdinal (ordinal : WeekdayOrdinal) (date : Date) :
    date.yearMonth.ordinalWeekday date.weekday (reanchorOrdinal ordinal date) = date := by
  have isNumber := number_reanchorOrdinal ordinal date
  split at isNumber
  · next isLast =>
      rw [ordinalNumber_eq_neg_one_iff] at isNumber
      rw [isNumber]
      exact Date.ordinalWeekday_last_of_isLastOfWeekday isLast.1
  · exact Date.ordinalWeekday_of_number_eq isNumber

/-! ## Patterns -/

/-- Set selectors taken from another date. -/
def Selectors.reanchor (selectors : Selectors) (date : Date) : Selectors where
  weekday := selectors.weekday.map fun _ => date.weekday
  monthDay := selectors.monthDay.map fun day => day.reanchor date
  ordinal := selectors.ordinal.map fun ordinal => reanchorOrdinal ordinal date
  month := selectors.month.map fun _ => date.month

theorem Selectors.isSet_reanchor (selectors : Selectors) (date : Date) (selector : Selector) :
    (selectors.reanchor date).isSet selector = selectors.isSet selector := by
  cases selector <;> exact Option.isSome_map

namespace Pattern

variable {pattern : Pattern} {frequency : Frequency}

theorem frequency?_reanchor (pattern : Pattern) (date : Date) :
    (pattern.reanchor date).frequency? = pattern.frequency? := by
  cases pattern <;> rfl

/-- The selectors of a pattern that is taken from a date are those of the old one, taken from
it. -/
theorem selectors_reanchor
    (supported : pattern.frequency? = some frequency)
    (date : Date) : (pattern.reanchor date).selectors = pattern.selectors.reanchor date := by
  cases pattern with
  | foreign foreignFrequency selectors => cases supported
  | _ => rfl

theorem reanchor_reanchor (pattern : Pattern) (date : Date) :
    (pattern.reanchor date).reanchor date = pattern.reanchor date := by
  cases pattern with
  | daily => rfl
  | weekly weekday => cases weekday <;> rfl
  | monthly day =>
      cases day with
      | none => rfl
      | some day =>
          simp only [reanchor, Option.map_some, MonthDay.reanchor_reanchor]
  | monthlyWeekday ordinal weekday =>
      simp only [reanchor, reanchorOrdinal_reanchorOrdinal]
  | yearly month day =>
      simp only [reanchor, Option.map_map]
      cases month <;> cases day <;>
        simp [MonthDay.reanchor_reanchor]
  | foreign foreignFrequency selectors => rfl

/-- A pattern whose set selectors are taken from a date selects it, when that is the start. -/
theorem selects_reanchor
    (supported : pattern.frequency? = some frequency)
    (date : Date) : (pattern.reanchor date).selects date date = true := by
  have onDate (day : Option MonthDay) :
      ((day.map fun day => day.reanchor date).getD (MonthDay.ofDate date)).inMonth
        date.yearMonth = date := by
    cases day with
    | none => exact MonthDay.inMonth_ofDate date
    | some day => exact day.inMonth_reanchor date
  cases pattern with
  | daily => rfl
  | weekly weekday => cases weekday <;> simp [reanchor, selects]
  | monthly day => simp only [reanchor, selects, onDate, beq_self_eq_true]
  | monthlyWeekday ordinal weekday =>
      simp only [reanchor, selects, ordinalWeekday_reanchorOrdinal, beq_self_eq_true]
  | yearly month day =>
      simp only [reanchor, selects, onDate, beq_self_eq_true, Bool.and_true]
      cases month <;> simp
  | foreign foreignFrequency selectors => cases supported

end Pattern

/-! ## Rules -/

namespace Rule

variable {rule : Rule} {frequency : Frequency}

/-- The fields of a rule with each one that is set replaced by what a date has: its weekday, the
number of its day or of its place among equal weekdays, its month.  The mark for the last day stays
on the last day of a month; the mark for the last weekday stays on one, and takes the place of the
number 5. -/
def fieldsOn (rule : Rule) (date : Date) : Fields where
  frequency := rule.fields.frequency
  interval := rule.fields.interval
  weekday := rule.fields.weekday.map fun _ => date.weekday.code
  monthDay := rule.fields.monthDay.map fun number =>
    if number = -1 ∧ date = date.yearMonth.lastDay then -1 else (date.day : Int)
  ordinal := rule.fields.ordinal.map fun number =>
    if date.isLastOfWeekday = true ∧ (number = -1 ∨ 4 < date.weekdayOrdinal) then -1
    else (date.weekdayOrdinal : Int)
  month := rule.fields.month.map fun _ => (date.month.number : Int)

/-- The fields of a rule whose selectors are taken from a date are those that the date gives. -/
theorem fields_reanchor
    (supported : rule.frequency? = some frequency)
    (date : Date) : (rule.reanchor date).fields = rule.fieldsOn date := by
  have sameSelectors : (rule.reanchor date).selectors = rule.selectors.reanchor date :=
    Pattern.selectors_reanchor supported date
  have sameCode : (rule.reanchor date).frequencyCode = rule.frequencyCode :=
    Pattern.frequencyCode_reanchor rule.pattern date
  unfold fieldsOn fields
  rw [sameSelectors, sameCode]
  simp only [Selectors.reanchor, Option.map_map, Function.comp_def, MonthDay.number_reanchor,
    number_reanchorOrdinal]
  rfl

/-- What becomes of a rule whose set selectors are taken from a date. -/
structure IsReanchored (rule moved : Rule) (date : Date) : Prop where
  /-- The fields that the date gives pass every check. -/
  made : Rule.ofFields (rule.fieldsOn date) = .ok moved
  sameFrequency : moved.frequency? = rule.frequency?
  sameInterval : moved.interval = rule.interval
  sameSelectors : ∀ selector,
    moved.selectors.isSet selector = rule.selectors.isSet selector
  /-- Taking them from the date again makes no difference. -/
  unchanged : moved.reanchor date = moved
  /-- The date is the occurrence of the first period from it on. -/
  firstPeriod : moved.periodIndex date date = .ok (some 0)

/-- The period of a start that its pattern selects is the first one. -/
theorem periodIndex_self
    (supported : rule.frequency? = some frequency)
    {date : Date}
    (selected : rule.pattern.selects date date = true) :
    rule.periodIndex date date = .ok (some 0) := by
  rw [periodIndex_of_frequency? supported, Except.ok.injEq, Pattern.periodIndex?_eq_some_iff,
    Nat.sub_self]
  exact ⟨Nat.le_refl _, Nat.zero_mod _, selected, Nat.zero_div _⟩

theorem frequency?_reanchor
    (supported : rule.frequency? = some frequency)
    (date : Date) : (rule.reanchor date).frequency? = some frequency :=
  (Pattern.frequency?_reanchor rule.pattern date).trans supported

theorem isReanchored_reanchor
    (supported : rule.frequency? = some frequency)
    (date : Date) : rule.IsReanchored (rule.reanchor date) date where
  made := by
    rw [← fields_reanchor supported]
    exact ofFields_fields (frequency?_reanchor supported date)
  sameFrequency := Pattern.frequency?_reanchor rule.pattern date
  sameInterval := rfl
  sameSelectors := by
    intro selector
    unfold selectors
    rw [reanchor, Pattern.selectors_reanchor supported, Selectors.isSet_reanchor]
  unchanged := by
    unfold reanchor
    simp only [Pattern.reanchor_reanchor]
  firstPeriod :=
    periodIndex_self (frequency?_reanchor supported date)
      (Pattern.selects_reanchor supported date)

end Rule

/-- A date is an occurrence of a schedule that starts on it with the rule taken from it, or with
none. -/
theorem isOccurrence_reanchor_self
    {given : Option Rule}
    (supported : ∀ rule ∈ given, ∃ frequency, rule.frequency? = some frequency)
    {date : Date}
    {endDate : Option Date}
    (notBehind : ∀ last ∈ endDate, date ≤ last) :
    isOccurrence (given.map fun rule => rule.reanchor date) date { endDate } date = .ok true := by
  have admitted : ({ endDate } : Limits).admits date date = true :=
    Limits.admits_iff.mpr ⟨Nat.le_refl _, notBehind, nofun⟩
  cases given with
  | none => rw [Option.map_none, isOccurrence_none, admitted, beq_self_eq_true, Bool.and_self]
  | some rule =>
      obtain ⟨frequency, isSupported⟩ := supported rule rfl
      have reanchored := Rule.isReanchored_reanchor isSupported date
      rw [Option.map_some,
        isOccurrence_eq_true_iff (Rule.frequency?_reanchor isSupported date)]
      exact ⟨admitted, 0, reanchored.firstPeriod, nofun⟩

end Recurrence
end Cadence
