import Cadence.Proofs.Calendar.WeekdayCounts
import Cadence.Proofs.Recurrence.Units

/-!
# Boundaries between units

A unit opens on its first day: any day at all, a Monday, the first of a month or 1 January.  From
one date to the next the unit changes when the next one opens a unit, and then by one, so the units
from a date to a later one are as many as the openings on the way.  The distances in weeks, months
and years are such numbers of units, and add up and change sign as these do.
-/

namespace Cadence
namespace Calendar

/-- A date is a 1 January when its year starts with it. -/
theorem daysInYears_eq_dayNumber_iff {date : Date} :
    daysInYears (date.year - 1) = date.dayNumber ↔ date.month = .january ∧ date.day = 1 := by
  have numbered := date.monthStart_add_day
  have positive := date.day_pos
  have yearNumber : date.year = date.yearMonth.index / 12 + 1 := rfl
  have isJanuary : date.month = .january ↔ date.yearMonth.index % 12 = 0 := by
    rw [← Date.index_month]
    exact ⟨congrArg Month.index, fun isZero => Month.index_injective isZero⟩
  rw [isJanuary, yearNumber, Nat.add_sub_cancel, ← monthStart_twelve_mul]
  by_cases inJanuary : date.yearMonth.index % 12 = 0
  · have firstMonth : 12 * (date.yearMonth.index / 12) = date.yearMonth.index := by omega
    rw [firstMonth]
    omega
  · have isLater : 12 * (date.yearMonth.index / 12) < date.yearMonth.index := by omega
    have apart := monthStart_add_length_le isLater
    have length := monthLength_ge (12 * (date.yearMonth.index / 12))
    omega

/-- The Monday of a week is found in the calendar, as the calendar starts with a Monday. -/
theorem Date.shift?_weekday (date : Date) :
    date.shift? (-(date.weekday.index : Int)) = some date.startOfWeek := by
  rw [Date.shift?_eq_some_iff, Date.dayNumber_startOfWeek, Date.index_weekday, Date.weekIndex]
  omega

/-- A distance in months is twelve for each year and the difference of the month numbers. -/
theorem monthsBetween_eq (earlier later : Date) :
    monthsBetween earlier later =
      12 * yearsBetween earlier later + (later.month.number - earlier.month.number) := by
  have earlierMonth := earlier.index_month
  have laterMonth := later.index_month
  unfold monthsBetween yearsBetween Date.year YearMonth.year Month.number
  omega

end Calendar

namespace Recurrence

open Calendar

namespace Frequency

/-- Whether a date is the first day of its unit. -/
def opensUnit : Frequency → Date → Bool
  | daily, _ => true
  | weekly, date => date.weekday = .monday
  | monthly, date => date.day = 1
  | yearly, date => date.month = .january ∧ date.day = 1

/-- A unit that follows another has a day; only year 0, before the calendar, has none. -/
theorem unitOpening_succ_lt (frequency : Frequency) (unit : Nat) :
    frequency.unitOpening (unit + 1) < frequency.unitOpening (unit + 1 + 1) := by
  cases frequency with
  | daily =>
      simp only [unitOpening]
      omega
  | weekly =>
      simp only [unitOpening]
      omega
  | monthly =>
      have length := monthLength_ge (unit + 1)
      rw [unitOpening, unitOpening, monthStart_succ (unit + 1)]
      omega
  | yearly =>
      have length := daysInYears_add_le_succ unit
      simp only [unitOpening, Nat.add_sub_cancel]
      omega

end Frequency

namespace Pattern

variable {pattern : Pattern} {frequency : Frequency}

/-- The first day of a unit is the one that the unit opens on. -/
theorem opensUnit_iff
    (supported : pattern.frequency? = some frequency)
    {date : Date} :
    frequency.opensUnit date = true ↔
      frequency.unitOpening (pattern.unitIndex date) = date.dayNumber := by
  have numbered := date.monthStart_add_day
  cases pattern with
  | daily =>
      cases supported
      simp [Frequency.opensUnit, Frequency.unitOpening, unitIndex]
  | weekly weekday =>
      cases supported
      simp only [Frequency.opensUnit, Frequency.unitOpening, unitIndex, decide_eq_true_eq]
      rw [Date.weekday_eq_iff, Weekday.index, Date.weekIndex]
      omega
  | monthly day =>
      cases supported
      simp only [Frequency.opensUnit, Frequency.unitOpening, unitIndex, decide_eq_true_eq]
      omega
  | monthlyWeekday ordinal weekday =>
      cases supported
      simp only [Frequency.opensUnit, Frequency.unitOpening, unitIndex, decide_eq_true_eq]
      omega
  | yearly month day =>
      cases supported
      simp only [Frequency.opensUnit, Frequency.unitOpening, unitIndex, decide_eq_true_eq]
      exact daysInYears_eq_dayNumber_iff.symm
  | foreign name selectors => cases supported

/-- From one day to the next the unit stays, or the next day opens the unit that follows. -/
theorem unitIndex_of_dayNumber_eq
    (supported : pattern.frequency? = some frequency)
    {date following : Date}
    (isNext : following.dayNumber = date.dayNumber + 1) :
    pattern.unitIndex following =
      pattern.unitIndex date + if frequency.opensUnit following then 1 else 0 := by
  have bounds := unitIndex_bounds supported date
  have nonempty := frequency.unitOpening_succ_lt (pattern.unitIndex date)
  rcases Nat.lt_or_ge following.dayNumber
      (frequency.unitOpening (pattern.unitIndex date + 1)) with inside | behind
  · have sameUnit : pattern.unitIndex following = pattern.unitIndex date :=
      (unitIndex_eq_iff supported).mpr ⟨by omega, inside⟩
    have notFirst : ¬ frequency.opensUnit following = true := by
      rw [opensUnit_iff supported, sameUnit]
      omega
    rw [if_neg notFirst, sameUnit, Nat.add_zero]
  · have nextUnit : pattern.unitIndex following = pattern.unitIndex date + 1 :=
      (unitIndex_eq_iff supported).mpr ⟨behind, by omega⟩
    have isFirst : frequency.opensUnit following = true := by
      rw [opensUnit_iff supported, nextUnit]
      omega
    rw [if_pos isFirst, nextUnit]

/-- The unit of the day before a day number. -/
def unitBefore (pattern : Pattern) (number : Nat) : Nat :=
  (Date.ofDayNumber? (number - 1)).elim 0 pattern.unitIndex

@[simp] theorem unitBefore_succ (pattern : Pattern) (date : Date) :
    pattern.unitBefore (date.dayNumber + 1) = pattern.unitIndex date := by
  simp [unitBefore]

/-- The unit grows by one for every opening on the way to a later date. -/
theorem unitIndex_add_countP_opensUnit
    (supported : pattern.frequency? = some frequency)
    {earlier later : Date}
    (ordered : earlier ≤ later) :
    pattern.unitIndex earlier + (earlier.datesTo later).countP frequency.opensUnit =
      pattern.unitIndex later := by
  rw [← unitBefore_succ, ← unitBefore_succ]
  apply Date.countP_between _ (Nat.succ_le_succ ordered) later.inCalendar
  intro date isCrossed
  have behind : earlier.dayNumber < date.dayNumber := (Date.mem_datesTo.mp isCrossed).1
  have inCalendar : date.dayNumber - 1 < calendarLength :=
    Nat.lt_of_le_of_lt (Nat.sub_le _ _) date.inCalendar
  obtain ⟨previous, isPrevious⟩ := Date.exists_dayNumber_eq inCalendar
  have isNext : date.dayNumber = previous.dayNumber + 1 := by omega
  rw [unitBefore_succ, unitIndex_of_dayNumber_eq supported isNext, isNext, unitBefore_succ]

end Pattern

namespace Frequency

/-- The distance from one date to another in units of a frequency. -/
def unitsBetween : Frequency → Date → Date → Int
  | daily => Date.daysUntil
  | weekly => weeksBetween
  | monthly => monthsBetween
  | yearly => yearsBetween

theorem exists_pattern (frequency : Frequency) :
    ∃ pattern : Pattern, pattern.frequency? = some frequency := by
  cases frequency with
  | daily => exact ⟨.daily, rfl⟩
  | weekly => exact ⟨.weekly none, rfl⟩
  | monthly => exact ⟨.monthly none, rfl⟩
  | yearly => exact ⟨.yearly none none, rfl⟩

end Frequency

/-- The units that pass between two dates of a schedule are the distance of the dates. -/
theorem Pattern.unitsBetween_eq
    {pattern : Pattern}
    {frequency : Frequency}
    (supported : pattern.frequency? = some frequency)
    (earlier later : Date) :
    frequency.unitsBetween earlier later =
      (pattern.unitIndex later : Int) - pattern.unitIndex earlier := by
  cases pattern with
  | weekly weekday =>
      cases supported
      exact weeksBetween_eq earlier later
  | foreign name selectors => cases supported
  | _ =>
      cases supported
      rfl

namespace Frequency

variable (frequency : Frequency)

theorem unitsBetween_eq_countP {earlier later : Date} (ordered : earlier ≤ later) :
    frequency.unitsBetween earlier later =
      (earlier.datesTo later).countP frequency.opensUnit := by
  obtain ⟨pattern, supported⟩ := frequency.exists_pattern
  have counted := Pattern.unitIndex_add_countP_opensUnit supported ordered
  rw [Pattern.unitsBetween_eq supported]
  omega

theorem unitsBetween_add (first second third : Date) :
    frequency.unitsBetween first second + frequency.unitsBetween second third =
      frequency.unitsBetween first third := by
  obtain ⟨pattern, supported⟩ := frequency.exists_pattern
  simp only [Pattern.unitsBetween_eq supported]
  omega

theorem unitsBetween_swap (first second : Date) :
    frequency.unitsBetween second first = -frequency.unitsBetween first second := by
  obtain ⟨pattern, supported⟩ := frequency.exists_pattern
  simp only [Pattern.unitsBetween_eq supported]
  omega

end Frequency

/-- The distances between dates count the boundaries that are crossed: the Mondays, the firsts of
a month and the 1 Januaries behind the earlier date up to the later one.  They add up along any
three dates and change sign with the direction.  The weeks are counted from the Mondays of both
weeks, which are always in the calendar, and the months from the years and month numbers. -/
theorem distances_count_boundaries :
    (∀ earlier later : Date, earlier ≤ later →
      weeksBetween earlier later =
          (earlier.datesTo later).countP (fun date => date.weekday = .monday) ∧
        monthsBetween earlier later =
          (earlier.datesTo later).countP (fun date => date.day = 1) ∧
        yearsBetween earlier later =
          (earlier.datesTo later).countP
            (fun date => date.month = .january ∧ date.day = 1)) ∧
    (∀ distance ∈ [weeksBetween, monthsBetween, yearsBetween],
      (∀ first second third,
        distance first second + distance second third = distance first third) ∧
      ∀ first second, distance second first = -distance first second) ∧
    ∀ earlier later : Date,
      (∃ opening closing,
        earlier.shift? (-(earlier.weekday.index : Int)) = some opening ∧
          later.shift? (-(later.weekday.index : Int)) = some closing ∧
          weeksBetween earlier later = opening.daysUntil closing / 7) ∧
        monthsBetween earlier later =
          12 * yearsBetween earlier later + (later.month.number - earlier.month.number) := by
  refine ⟨?_, ?_, ?_⟩
  · intro earlier later ordered
    exact ⟨Frequency.weekly.unitsBetween_eq_countP ordered,
      Frequency.monthly.unitsBetween_eq_countP ordered,
      Frequency.yearly.unitsBetween_eq_countP ordered⟩
  · intro distance isDistance
    obtain ⟨frequency, rfl⟩ : ∃ frequency : Frequency, frequency.unitsBetween = distance := by
      simp only [List.mem_cons, List.not_mem_nil, or_false] at isDistance
      rcases isDistance with rfl | rfl | rfl
      · exact ⟨.weekly, rfl⟩
      · exact ⟨.monthly, rfl⟩
      · exact ⟨.yearly, rfl⟩
    exact ⟨frequency.unitsBetween_add, frequency.unitsBetween_swap⟩
  · intro earlier later
    exact ⟨⟨_, _, earlier.shift?_weekday, later.shift?_weekday, rfl⟩,
      monthsBetween_eq earlier later⟩

/-- The whole calendar: behind its first day it has 521722 Mondays, 119987 firsts of a month and
9998 1 Januaries.  Its first week starts with its first day. -/
theorem distances_count_boundaries_wholeCalendar :
    let firstSunday : Date := ⟨6, by decide⟩
    Date.first ≤ Date.last ∧
      (Date.first.datesTo Date.last).countP (fun date => date.weekday = .monday) = 521722 ∧
      (Date.first.datesTo Date.last).countP (fun date => date.day = 1) = 119987 ∧
      (Date.first.datesTo Date.last).countP
        (fun date => date.month = .january ∧ date.day = 1) = 9998 ∧
      weeksBetween Date.last firstSunday = -521722 ∧
      firstSunday.shift? (-6) = some Date.first := by
  intro firstSunday
  obtain ⟨counts, directions, -⟩ := distances_count_boundaries
  have ordered : Date.first ≤ Date.last := Date.first_le _
  obtain ⟨mondays, firsts, januaries⟩ := counts _ _ ordered
  have backwards := (directions weeksBetween (by simp)).2 firstSunday Date.last
  have allWeeks : weeksBetween Date.first Date.last = 521722 := by decide +kernel
  have allMonths : monthsBetween Date.first Date.last = 119987 := by decide +kernel
  have allYears : yearsBetween Date.first Date.last = 9998 := by decide +kernel
  have fromSunday : weeksBetween firstSunday Date.last = 521722 := by decide +kernel
  have startsWeek : firstSunday.shift? (-6) = some Date.first := by decide +kernel
  exact ⟨ordered, by omega, by omega, by omega, by omega, startsWeek⟩

end Recurrence
end Cadence
