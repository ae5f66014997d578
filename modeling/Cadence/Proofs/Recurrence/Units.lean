import Cadence.Proofs.Calendar.Stretches
import Cadence.Recurrence.Occurrence

/-!
# Units of a frequency

The days, Monday-started weeks, calendar months and calendar years follow one another
without a gap, and every date lies in exactly one of each.  A pattern selects at most
one day of a unit, which is found here from the unit alone; a schedule occurs on the
selected days of every `interval`-th unit from the unit of its start.
-/

namespace Cadence
namespace Recurrence

open Calendar

namespace Frequency

/-- The days that pass before a unit opens.  Years are numbered from 1, the other
units from 0. -/
def unitOpening : Frequency → Nat → Nat
  | daily, unit => unit
  | weekly, unit => 7 * unit
  | monthly, unit => monthStart unit
  | yearly, unit => daysInYears (unit - 1)

/-- A unit has at most as many days as the longest one of its frequency. -/
theorem unitOpening_succ (frequency : Frequency) (unit : Nat) :
    frequency.unitOpening unit ≤ frequency.unitOpening (unit + 1) ∧
      frequency.unitOpening (unit + 1) ≤
        frequency.unitOpening unit + frequency.longestUnit := by
  cases frequency with
  | daily =>
      simp only [unitOpening, longestUnit]
      omega
  | weekly =>
      simp only [unitOpening, longestUnit]
      omega
  | monthly =>
      have length := monthLength_le unit
      simp only [unitOpening, longestUnit, monthStart_succ]
      omega
  | yearly =>
      cases unit with
      | zero => simp [unitOpening, longestUnit]
      | succ years =>
          simp only [unitOpening, longestUnit, Nat.add_sub_cancel]
          rw [daysInYears_succ, yearLength]
          split <;> omega

theorem unitOpening_mono
    (frequency : Frequency)
    {earlier later : Nat}
    (ordered : earlier ≤ later) :
    frequency.unitOpening earlier ≤ frequency.unitOpening later := by
  induction ordered with
  | refl => exact Nat.le_refl _
  | step _ hypothesis =>
      exact Nat.le_trans hypothesis (frequency.unitOpening_succ _).1

/-- A unit closes before any later unit opens. -/
theorem unitOpening_succ_le_of_lt
    (frequency : Frequency)
    {earlier later : Nat}
    (before : earlier < later) :
    frequency.unitOpening (earlier + 1) ≤ frequency.unitOpening later :=
  frequency.unitOpening_mono before

/-- So many units in a row have at most that many times the days of the longest. -/
theorem unitOpening_add_le (frequency : Frequency) (unit count : Nat) :
    frequency.unitOpening (unit + count) ≤
      frequency.unitOpening unit + frequency.longestUnit * count := by
  induction count with
  | zero => exact Nat.le_refl _
  | succ count hypothesis =>
      have step := (frequency.unitOpening_succ (unit + count)).2
      rw [Nat.mul_succ]
      rw [Nat.add_assoc] at step
      omega

end Frequency

namespace Pattern

variable {pattern : Pattern} {frequency : Frequency}

/-- A date lies in its unit. -/
theorem unitIndex_bounds
    (supported : pattern.frequency? = some frequency)
    (date : Date) :
    frequency.unitOpening (pattern.unitIndex date) ≤ date.dayNumber ∧
      date.dayNumber < frequency.unitOpening (pattern.unitIndex date + 1) := by
  have monthBounds := date.yearMonth_bounds
  unfold YearMonth.length at monthBounds
  rw [← monthStart_succ] at monthBounds
  cases pattern with
  | daily =>
      cases supported
      simp only [unitIndex, Frequency.unitOpening]
      omega
  | weekly weekday =>
      cases supported
      simp only [unitIndex, Frequency.unitOpening, Date.weekIndex]
      omega
  | monthly day =>
      cases supported
      exact monthBounds
  | monthlyWeekday ordinal weekday =>
      cases supported
      exact monthBounds
  | yearly month day =>
      cases supported
      exact date.year_bounds
  | foreign name selectors => cases supported

/-- The unit of a date is the only one that the date lies in. -/
theorem unitIndex_eq_iff
    (supported : pattern.frequency? = some frequency)
    {date : Date}
    {unit : Nat} :
    pattern.unitIndex date = unit ↔
      frequency.unitOpening unit ≤ date.dayNumber ∧
        date.dayNumber < frequency.unitOpening (unit + 1) := by
  have bounds := unitIndex_bounds supported date
  constructor
  · intro isUnit
    exact isUnit ▸ bounds
  · intro within
    rcases Nat.lt_trichotomy (pattern.unitIndex date) unit with earlier | same | later
    · have apart := frequency.unitOpening_succ_le_of_lt earlier
      omega
    · exact same
    · have apart := frequency.unitOpening_succ_le_of_lt later
      omega

theorem unitIndex_mono
    (supported : pattern.frequency? = some frequency)
    {earlier later : Date}
    (ordered : earlier ≤ later) :
    pattern.unitIndex earlier ≤ pattern.unitIndex later := by
  have earlierBounds := unitIndex_bounds supported earlier
  have laterBounds := unitIndex_bounds supported later
  rw [Date.le_iff] at ordered
  apply Nat.le_of_not_lt
  intro crossed
  have apart := frequency.unitOpening_succ_le_of_lt crossed
  omega

/-- A date in a later unit is later itself. -/
theorem lt_of_unitIndex_lt
    (supported : pattern.frequency? = some frequency)
    {earlier later : Date}
    (apart : pattern.unitIndex earlier < pattern.unitIndex later) :
    earlier < later := by
  apply Nat.lt_of_not_le
  intro ordered
  exact absurd (unitIndex_mono supported ordered) (Nat.not_le_of_lt apart)

/-- The day that a pattern selects in a unit for a schedule with the given start,
when that day is in the calendar. -/
def selectedDay? (pattern : Pattern) (start : Date) (unit : Nat) : Option Date :=
  match pattern with
  | daily => Date.ofDayNumber? unit
  | weekly weekday =>
    Date.ofDayNumber? (7 * unit + (weekday.getD start.weekday).index)
  | monthly day =>
    (YearMonth.ofIndex? unit).map fun month =>
      (day.getD (.ofDate start)).inMonth month
  | monthlyWeekday ordinal weekday =>
    (YearMonth.ofIndex? unit).map fun month => month.ordinalWeekday weekday ordinal
  | yearly month day =>
    (YearMonth.of? unit (month.getD start.month)).map fun month =>
      (day.getD (.ofDate start)).inMonth month
  | foreign .. => none

/-- The selected day of a month is the date in that month which equals it. -/
theorem map_ofIndex?_eq_some_iff
    {choose : YearMonth → Date}
    (staysInMonth : ∀ month, (choose month).yearMonth = month)
    {unit : Nat}
    {date : Date} :
    (YearMonth.ofIndex? unit).map choose = some date ↔
      date.yearMonth.index = unit ∧ date = choose date.yearMonth := by
  rw [Option.map_eq_some_iff]
  constructor
  · rintro ⟨month, found, rfl⟩
    rw [staysInMonth]
    exact ⟨YearMonth.ofIndex?_eq_some_iff.mp found, rfl⟩
  · rintro ⟨isUnit, chosen⟩
    exact ⟨date.yearMonth, YearMonth.ofIndex?_eq_some_iff.mpr isUnit, chosen.symm⟩

/-- The day found from a unit is the date of the unit that the pattern selects. -/
theorem selectedDay?_eq_some_iff
    (supported : pattern.frequency? = some frequency)
    {start date : Date}
    {unit : Nat} :
    pattern.selectedDay? start unit = some date ↔
      pattern.unitIndex date = unit ∧ pattern.selects start date = true := by
  cases pattern with
  | daily =>
      simp only [selectedDay?, unitIndex, selects, and_true]
      exact Date.ofDayNumber?_eq_some_iff
  | weekly weekday =>
      simp only [selectedDay?, unitIndex, selects, beq_iff_eq]
      rw [Date.ofDayNumber?_eq_some_iff, Date.weekIndex]
      generalize weekday.getD start.weekday = selected
      have selectedBound := selected.index_lt
      have dateIndex := date.index_weekday
      constructor
      · intro numbered
        refine ⟨by omega, Weekday.index_injective ?_⟩
        omega
      · rintro ⟨inWeek, isWeekday⟩
        rw [isWeekday] at dateIndex
        omega
  | monthly day =>
      simp only [selectedDay?, unitIndex, selects, beq_iff_eq]
      exact map_ofIndex?_eq_some_iff fun month => MonthDay.yearMonth_inMonth month _
  | monthlyWeekday ordinal weekday =>
      simp only [selectedDay?, unitIndex, selects, beq_iff_eq]
      exact map_ofIndex?_eq_some_iff fun month => Date.yearMonth_dayAt month _ _
  | yearly month day =>
      simp only [selectedDay?, unitIndex, selects, Bool.and_eq_true, beq_iff_eq]
      rw [Option.map_eq_some_iff]
      constructor
      · rintro ⟨yearMonth, found, rfl⟩
        rw [YearMonth.of?_eq_some_iff] at found
        rw [Date.year, Date.month, MonthDay.yearMonth_inMonth]
        exact ⟨found.1, found.2, rfl⟩
      · rintro ⟨isYear, isMonth, chosen⟩
        exact ⟨date.yearMonth, YearMonth.of?_eq_some_iff.mpr ⟨isYear, isMonth⟩,
          chosen.symm⟩
  | foreign name selectors => cases supported

/-- A unit that ends inside the calendar has a selected day. -/
theorem exists_selectedDay?
    (supported : pattern.frequency? = some frequency)
    (start : Date)
    {unit : Nat}
    (notBefore : pattern.unitIndex start ≤ unit)
    (inside : frequency.unitOpening (unit + 1) ≤ calendarLength) :
    ∃ date, pattern.selectedDay? start unit = some date := by
  have monthInside (closes : monthStart (unit + 1) ≤ calendarLength) :
      unit < calendarMonths := by
    apply Nat.lt_of_not_le
    intro outside
    have fills := monthStart_mono outside
    have length := monthLength_ge unit
    rw [monthStart_calendarMonths] at fills
    rw [monthStart_succ] at closes
    omega
  cases pattern with
  | daily =>
      cases supported
      exact ⟨⟨unit, inside⟩, Date.ofDayNumber?_eq_some_iff.mpr rfl⟩
  | weekly weekday =>
      cases supported
      simp only [Frequency.unitOpening] at inside
      have selectedBound := (weekday.getD start.weekday).index_lt
      exact ⟨⟨7 * unit + (weekday.getD start.weekday).index, by omega⟩,
        Date.ofDayNumber?_eq_some_iff.mpr rfl⟩
  | monthly day =>
      cases supported
      refine ⟨_, Option.map_eq_some_iff.mpr ⟨⟨unit, monthInside inside⟩, ?_, rfl⟩⟩
      exact YearMonth.ofIndex?_eq_some_iff.mpr rfl
  | monthlyWeekday ordinal weekday =>
      cases supported
      refine ⟨_, Option.map_eq_some_iff.mpr ⟨⟨unit, monthInside inside⟩, ?_, rfl⟩⟩
      exact YearMonth.ofIndex?_eq_some_iff.mpr rfl
  | yearly month day =>
      cases supported
      have yearPos : 1 ≤ unit := Nat.le_trans start.year_pos notBefore
      have yearInside : unit ≤ 9999 := by
        apply Nat.le_of_not_lt
        intro outside
        have later : daysInYears 10000 ≤ daysInYears unit := daysInYears_mono outside
        have longer : daysInYears 9999 + 365 ≤ daysInYears 10000 :=
          daysInYears_add_le_succ 9999
        simp only [Frequency.unitOpening, Nat.add_sub_cancel] at inside
        rw [calendarLength_eq_daysInYears] at inside
        omega
      have inYears : 1 ≤ (unit : Int) ∧ (unit : Int) ≤ 9999 := by omega
      simp [selectedDay?, YearMonth.of?, inYears]
  | foreign name selectors => cases supported

/-- A date is the occurrence of a period when it is the selected day of the first unit
of that period and the schedule has started. -/
theorem periodIndex?_eq_some_iff_selectedDay?
    (supported : pattern.frequency? = some frequency)
    {interval index : Nat}
    (positive : 0 < interval)
    {start date : Date} :
    pattern.periodIndex? interval start date = some index ↔
      start ≤ date ∧
        pattern.selectedDay? start (pattern.unitIndex start + index * interval) =
          some date := by
  rw [periodIndex?_eq_some_iff, selectedDay?_eq_some_iff supported]
  constructor
  · rintro ⟨started, wholePeriods, selected, rfl⟩
    have ordered := unitIndex_mono supported started
    have elapsed := Nat.div_add_mod
      (pattern.unitIndex date - pattern.unitIndex start) interval
    rw [wholePeriods, Nat.mul_comm] at elapsed
    exact ⟨started, by omega, selected⟩
  · rintro ⟨started, inUnit, selected⟩
    have elapsed :
        pattern.unitIndex date - pattern.unitIndex start = index * interval := by
      omega
    rw [elapsed]
    exact ⟨started, Nat.mul_mod_left index interval, selected,
      Nat.mul_div_cancel index positive⟩

end Pattern
end Recurrence
end Cadence
