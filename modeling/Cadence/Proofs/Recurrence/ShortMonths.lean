import Cadence.Proofs.Calendar.WeekdayCounts
import Cadence.Proofs.Recurrence.Reanchored
import Cadence.Proofs.Recurrence.Windows

/-!
# Short months

A schedule that starts again on one of its occurrences, with its selectors taken from that date.
A counted weekday, a weekday and a month of the year come out as before, and so does a day of the
month that the month of the date has.  Where that month was too short for the day, its last day
takes the place of the day, and longer months are met on another day from then on.
-/

namespace Cadence
namespace Recurrence

open Calendar

/-! ## Days of the month -/

theorem day_clampedDay (month : YearMonth) {number : Nat} (positive : 1 ≤ number) :
    (month.clampedDay number).day = min number month.length := by
  have enough := month.length_ge
  unfold YearMonth.clampedDay
  rw [Date.day_dayAt]
  omega

theorem clampedDay_eq_iff
    {month : YearMonth}
    {first second : Nat}
    (firstPositive : 1 ≤ first)
    (secondPositive : 1 ≤ second) :
    month.clampedDay first = month.clampedDay second ↔
      min first month.length = min second month.length := by
  have enough := month.length_ge
  unfold YearMonth.clampedDay YearMonth.dayAt
  rw [Date.mk.injEq]
  omega

theorem clampedDay_le
    (month : YearMonth)
    {first second : Nat}
    (ordered : first ≤ second) : month.clampedDay first ≤ month.clampedDay second := by
  rw [Date.le_iff]
  simp only [YearMonth.clampedDay, YearMonth.dayAt]
  omega

/-- A selected day of a month is the one that its number is clamped to. -/
theorem MonthDay.clampMonthDay_number (month : YearMonth) (day : MonthDay) :
    clampMonthDay month.year month.month.number day.number = .ok (day.inMonth month) := by
  have enough := month.length_ge
  have lengthRead : daysInMonth month.year month.month.number = .ok month.length := by
    unfold daysInMonth
    rw [Month.ofNumber?_number]
    rfl
  have named {number : Nat} (inMonth : 1 ≤ number ∧ number ≤ month.length) :
      dateOfNumbers month.year month.month.number number = .ok (month.clampedDay number) := by
    have isDay := dateOfNumbers_dayAt month (show number - 1 < month.length by omega)
    rw [Nat.sub_add_cancel inMonth.1] at isDay
    have notPast : number - 1 ≤ month.length - 1 := by omega
    rw [isDay]
    simp only [YearMonth.clampedDay, Nat.min_eq_left notPast]
  have lastDay : month.clampedDay month.length = month.lastDay :=
    Date.ext (by simp only [YearMonth.clampedDay, YearMonth.lastDay, Nat.min_self])
  unfold clampMonthDay
  rw [lengthRead]
  change (if day.number = -1 ∨ (month.length : Int) < day.number then
    dateOfNumbers _ _ month.length else dateOfNumbers _ _ day.number) = _
  split
  · next isLast =>
      rw [named (by omega)]
      cases day with
      | last => rw [lastDay, inMonth]
      | numbered number inRange =>
          have past : month.length < number := by
            simpa [MonthDay.number] using isLast
          rw [inMonth, Except.ok.injEq, clampedDay_eq_iff (by omega) inRange.1]
          omega
  · next notLast =>
      cases day with
      | last => exact absurd (Or.inl rfl) notLast
      | numbered number inRange =>
          have within : number ≤ month.length := by
            simpa [MonthDay.number] using notLast
          exact named ⟨inRange.1, within⟩

/-- Months keep the order of their dates, and a longer month is another one. -/
theorem lt_of_yearMonth_length_lt
    {first second other : Date}
    (ordered : first ≤ second)
    (longer : first.yearMonth.length < second.yearMonth.length)
    (sameMonth : other.yearMonth = second.yearMonth) : first < other := by
  have firstBounds := first.yearMonth_bounds
  have secondBounds := second.yearMonth_bounds
  have otherBounds := other.yearMonth_bounds
  rw [sameMonth] at otherBounds
  rw [Date.le_iff] at ordered
  rw [Date.lt_iff]
  unfold YearMonth.length at *
  rcases Nat.lt_trichotomy first.yearMonth.index second.yearMonth.index with
    earlier | same | later
  · have apart := monthStart_add_length_le earlier
    omega
  · rw [same] at longer
    exact absurd longer (Nat.lt_irrefl _)
  · have apart := monthStart_add_length_le later
    omega

namespace MonthDay

section Taken

variable {day : MonthDay} {date : Date}

/-- The number of a date takes the place of a numbered day. -/
theorem reanchor_numbered {number : Nat} {inRange : 1 ≤ number ∧ number ≤ 31} :
    (numbered number inRange).reanchor date = .ofDate date :=
  if_neg fun isLast => nomatch isLast.1

variable (selected : day.inMonth date.yearMonth = date)
include selected

/-- A day of the month that is taken from a date which it selects stands for the smaller one of
its number and the length of the month. -/
theorem reanchor_cases :
    day.reanchor date = day ∧ day.number ≤ date.yearMonth.length ∨
      ∃ (number : Nat) (inRange : 1 ≤ number ∧ number ≤ 31), day = numbered number inRange ∧
        day.reanchor date = .ofDate date ∧ date.day = min number date.yearMonth.length := by
  cases day with
  | last =>
      refine .inl ⟨if_pos ⟨rfl, selected.symm⟩, ?_⟩
      change (-1 : Int) ≤ _
      omega
  | numbered number inRange =>
      refine .inr ⟨number, inRange, rfl, reanchor_numbered, ?_⟩
      rw [← day_clampedDay date.yearMonth inRange.1]
      exact congrArg Date.day selected.symm

/-- Taking a day of the month from a date that it selects makes no difference in a month when the
month of the date has the day or the other month is no longer. -/
theorem inMonth_reanchor_eq_iff (month : YearMonth) :
    (day.reanchor date).inMonth month = day.inMonth month ↔
      day.number ≤ date.yearMonth.length ∨ month.length ≤ date.yearMonth.length := by
  rcases reanchor_cases selected with ⟨same, small⟩ | ⟨number, inRange, rfl, taken, isDay⟩
  · rw [same]
    exact iff_of_true rfl (.inl small)
  · rw [taken]
    change month.clampedDay date.day = month.clampedDay number ↔ (number : Int) ≤ _ ∨ _
    rw [clampedDay_eq_iff date.day_pos inRange.1, isDay]
    omega

theorem inMonth_reanchor_le (month : YearMonth) :
    (day.reanchor date).inMonth month ≤ day.inMonth month := by
  rcases reanchor_cases selected with ⟨same, _⟩ | ⟨number, inRange, rfl, taken, isDay⟩
  · rw [same]
    exact Nat.le_refl _
  · rw [taken]
    exact clampedDay_le month (isDay ▸ Nat.min_le_left _ _)

end Taken

/-- A day of the month that is left out follows the new start as a set one does. -/
theorem getD_map_reanchor (given : Option MonthDay) (start date : Date) :
    (given.map fun day => day.reanchor date).getD (.ofDate date) =
      (given.getD (.ofDate start)).reanchor date := by
  cases given with
  | none => exact reanchor_numbered.symm
  | some day => rfl

end MonthDay

/-- A place among equal weekdays is the place of the date that it finds. -/
theorem reanchorOrdinal_ordinalWeekday
    (month : YearMonth)
    (weekday : Weekday)
    (ordinal : WeekdayOrdinal) :
    reanchorOrdinal ordinal (month.ordinalWeekday weekday ordinal) = ordinal := by
  unfold reanchorOrdinal
  by_cases isLast : ordinal = .last
  · subst isLast
    exact if_pos ⟨rfl, Date.isLastOfWeekday_ordinalWeekday_last month weekday⟩
  · rw [if_neg fun stays => isLast stays.1]
    have placed := Date.weekdayOrdinal_ordinalWeekday month weekday isLast
    generalize (month.ordinalWeekday weekday ordinal).weekdayOrdinal = place at placed
    cases ordinal with
    | last => exact absurd rfl isLast
    | _ =>
        cases Int.ofNat.inj placed
        rfl

/-! ## Patterns -/

namespace Pattern

variable {pattern : Pattern} {start restart date : Date} {day : MonthDay}

/-- The day of the month that a pattern selects from a start, when it selects one. -/
def dayOfMonth? (pattern : Pattern) (start : Date) : Option MonthDay :=
  match pattern with
  | monthly day => some (day.getD (.ofDate start))
  | yearly _ day => some (day.getD (.ofDate start))
  | _ => none

/-- The month of the year that a pattern selects from a start, when it selects one. -/
def monthOfYear? (pattern : Pattern) (start : Date) : Option Month :=
  match pattern with
  | yearly month _ => some (month.getD start.month)
  | _ => none

theorem selects_iff_of_dayOfMonth? (isDay : pattern.dayOfMonth? start = some day) :
    pattern.selects start date = true ↔
      (∀ month ∈ pattern.monthOfYear? start, date.month = month) ∧
        day.inMonth date.yearMonth = date := by
  cases pattern with
  | monthly given =>
      cases isDay
      simp only [selects, monthOfYear?, beq_iff_eq, Option.mem_def, reduceCtorEq, false_implies,
        implies_true, true_and]
      exact eq_comm
  | yearly month given =>
      cases isDay
      simp only [selects, monthOfYear?, Bool.and_eq_true, beq_iff_eq, Option.mem_def,
        Option.some.injEq, forall_eq']
      exact and_congr_right fun _ => eq_comm
  | _ => cases isDay

/-- A pattern that selects a day of the month has its months in one unit each. -/
theorem unitIndex_eq_of_yearMonth_eq
    (isDay : pattern.dayOfMonth? start = some day)
    {first second : Date}
    (sameMonth : first.yearMonth = second.yearMonth) :
    pattern.unitIndex first = pattern.unitIndex second := by
  cases pattern with
  | monthly given => exact congrArg YearMonth.index sameMonth
  | yearly month given => exact congrArg YearMonth.year sameMonth
  | _ => cases isDay

theorem unitIndex_reanchor (pattern : Pattern) (restart date : Date) :
    (pattern.reanchor restart).unitIndex date = pattern.unitIndex date := by
  cases pattern <;> rfl

theorem dayOfMonth?_reanchor (isDay : pattern.dayOfMonth? start = some day) :
    (pattern.reanchor restart).dayOfMonth? restart = some (day.reanchor restart) := by
  cases pattern <;> cases isDay <;>
    exact congrArg some (MonthDay.getD_map_reanchor _ start restart)

section Selected

variable (selected : pattern.selects start restart = true)
include selected

theorem monthOfYear?_reanchor :
    (pattern.reanchor restart).monthOfYear? restart = pattern.monthOfYear? start := by
  cases pattern with
  | yearly month day =>
      simp only [selects, Bool.and_eq_true, beq_iff_eq] at selected
      cases month <;> exact congrArg some selected.1
  | _ => rfl

/-- A pattern that selects no day of the month selects the dates that it did before. -/
theorem selects_reanchor_of_dayOfMonth?_eq_none (noDay : pattern.dayOfMonth? start = none) :
    (pattern.reanchor restart).selects restart date = pattern.selects start date := by
  cases pattern with
  | daily => rfl
  | weekly weekday =>
      simp only [selects, beq_iff_eq] at selected
      cases weekday <;> simp only [reanchor, selects, selected, Option.map_none,
        Option.map_some, Option.getD_none, Option.getD_some]
  | monthly day => cases noDay
  | monthlyWeekday ordinal weekday =>
      simp only [selects, beq_iff_eq] at selected
      have samePlace := reanchorOrdinal_ordinalWeekday restart.yearMonth weekday ordinal
      have sameWeekday := Date.weekday_ordinalWeekday restart.yearMonth weekday ordinal
      rw [← selected] at samePlace sameWeekday
      rw [reanchor, samePlace, sameWeekday]
      rfl
  | yearly month day => cases noDay
  | foreign frequency selectors => rfl

/-- A pattern that selects a day of the month selects the new day in the same months. -/
theorem selects_reanchor_iff (isDay : pattern.dayOfMonth? start = some day) :
    (pattern.reanchor restart).selects restart date = true ↔
      (∀ month ∈ pattern.monthOfYear? start, date.month = month) ∧
        (day.reanchor restart).inMonth date.yearMonth = date := by
  rw [selects_iff_of_dayOfMonth? (dayOfMonth?_reanchor isDay), monthOfYear?_reanchor selected]

end Selected
end Pattern

/-! ## Schedules that start again -/

section Restart

variable {rule : Rule} {start restart date : Date} {endDate : Option Date}

/-- The occurrences of a rule up to a last day, by units and selected days. -/
theorem isOccurrence_endDate_iff
    {frequency : Frequency}
    (supported : rule.frequency? = some frequency) :
    isOccurrence (some rule) start { endDate } date = .ok true ↔
      (start ≤ date ∧ ∀ last ∈ endDate, date ≤ last) ∧
        (rule.pattern.unitIndex date - rule.pattern.unitIndex start) % rule.interval = 0 ∧
        rule.pattern.selects start date = true := by
  rw [isOccurrence_eq_true_iff supported, Limits.admits_iff]
  simp only [Rule.periodIndex_of_frequency? supported, Except.ok.injEq,
    Pattern.periodIndex?_eq_some_iff]
  constructor
  · rintro ⟨⟨started, notBehind, _⟩, index, ⟨_, wholePeriods, selected, _⟩, _⟩
    exact ⟨⟨started, notBehind⟩, wholePeriods, selected⟩
  · rintro ⟨⟨started, notBehind⟩, wholePeriods, selected⟩
    exact ⟨⟨started, notBehind, nofun⟩, _, ⟨started, wholePeriods, selected, rfl⟩, nofun⟩

variable (occurs : isOccurrence (some rule) start { endDate } restart = .ok true)
include occurs

/-- From a restart on, periods may be counted from there. -/
theorem isOccurrence_iff_of_restart (later : restart ≤ date) :
    isOccurrence (some rule) start { endDate } date = .ok true ↔
      (∀ last ∈ endDate, date ≤ last) ∧
        (rule.pattern.unitIndex date - rule.pattern.unitIndex restart) % rule.interval = 0 ∧
        rule.pattern.selects start date = true := by
  obtain ⟨frequency, supported⟩ := exists_frequency?_of_isOccurrence occurs
  obtain ⟨⟨started, _⟩, passed, _⟩ := (isOccurrence_endDate_iff supported).mp occurs
  have startUnit := Pattern.unitIndex_mono supported started
  have restartUnit := Pattern.unitIndex_mono supported later
  have elapsed : rule.pattern.unitIndex date - rule.pattern.unitIndex start =
      (rule.pattern.unitIndex date - rule.pattern.unitIndex restart) +
        (rule.pattern.unitIndex restart - rule.pattern.unitIndex start) := by
    omega
  have afterStart : start ≤ date := Nat.le_trans started later
  rw [isOccurrence_endDate_iff supported, elapsed, Nat.add_mod, passed, Nat.add_zero,
    Nat.mod_mod, and_iff_right afterStart]

theorem isOccurrence_reanchor_iff (later : restart ≤ date) :
    isOccurrence (some (rule.reanchor restart)) restart { endDate } date = .ok true ↔
      (∀ last ∈ endDate, date ≤ last) ∧
        (rule.pattern.unitIndex date - rule.pattern.unitIndex restart) % rule.interval = 0 ∧
        (rule.pattern.reanchor restart).selects restart date = true := by
  obtain ⟨frequency, supported⟩ := exists_frequency?_of_isOccurrence occurs
  rw [isOccurrence_endDate_iff (Rule.frequency?_reanchor supported restart),
    and_iff_right later]
  unfold Rule.reanchor
  simp only [Pattern.unitIndex_reanchor]

theorem isOccurrence_reanchor_eq_iff_true_iff (date : Date) :
    isOccurrence (some (rule.reanchor restart)) restart { endDate } date =
        isOccurrence (some rule) start { endDate } date ↔
      (isOccurrence (some (rule.reanchor restart)) restart { endDate } date = .ok true ↔
        isOccurrence (some rule) start { endDate } date = .ok true) := by
  obtain ⟨frequency, supported⟩ := exists_frequency?_of_isOccurrence occurs
  rw [isOccurrence_of_frequency? supported,
    isOccurrence_of_frequency? (Rule.frequency?_reanchor supported restart)]
  simp only [Except.ok.injEq]
  exact Bool.eq_iff_iff

/-- In the month of an occurrence the new day is met, when it comes after the restart. -/
theorem isOccurrence_reanchor_inMonth
    {day : MonthDay}
    (isDay : rule.pattern.dayOfMonth? start = some day)
    (later : restart ≤ date)
    (met : isOccurrence (some rule) start { endDate } date = .ok true)
    (newLater : restart ≤ (day.reanchor restart).inMonth date.yearMonth) :
    isOccurrence (some (rule.reanchor restart)) restart { endDate }
      ((day.reanchor restart).inMonth date.yearMonth) = .ok true := by
  obtain ⟨_, _, selected⟩ := (isOccurrence_iff_of_restart occurs (Nat.le_refl _)).mp occurs
  obtain ⟨_, onDay⟩ := (Pattern.selects_iff_of_dayOfMonth? isDay).mp selected
  rw [isOccurrence_iff_of_restart occurs later,
    Pattern.selects_iff_of_dayOfMonth? isDay] at met
  obtain ⟨notBehind, wholePeriods, inMonths, onDate⟩ := met
  have sameMonth : ((day.reanchor restart).inMonth date.yearMonth).yearMonth = date.yearMonth :=
    MonthDay.yearMonth_inMonth _ _
  have notLater := MonthDay.inMonth_reanchor_le onDay date.yearMonth
  rw [onDate] at notLater
  rw [isOccurrence_reanchor_iff occurs newLater, Pattern.selects_reanchor_iff selected isDay,
    Pattern.unitIndex_eq_of_yearMonth_eq isDay sameMonth, Date.month, sameMonth]
  exact ⟨fun last isLast => Nat.le_trans notLater (notBehind last isLast), wholePeriods,
    inMonths, rfl⟩

/-- A schedule that starts again with the selectors of its rule taken from the date of the restart
goes on as before, unless it selects a day of the month that the month of the restart is too short
for and meets a longer month from then on. -/
theorem forall_isOccurrence_reanchor_eq_iff :
    (∀ date, restart ≤ date →
      isOccurrence (some (rule.reanchor restart)) restart { endDate } date =
        isOccurrence (some rule) start { endDate } date) ↔
    ∀ day ∈ rule.pattern.dayOfMonth? start, (restart.yearMonth.length : Int) < day.number →
      ∀ date, restart < date →
        isOccurrence (some (rule.reanchor restart)) restart { endDate } date = .ok true →
        date.yearMonth.length ≤ restart.yearMonth.length := by
  obtain ⟨_, _, selected⟩ := (isOccurrence_iff_of_restart occurs (Nat.le_refl _)).mp occurs
  simp only [isOccurrence_reanchor_eq_iff_true_iff occurs]
  cases isDay : rule.pattern.dayOfMonth? start with
  | none =>
      refine iff_of_true ?_ nofun
      intro date later
      rw [isOccurrence_reanchor_iff occurs later, isOccurrence_iff_of_restart occurs later,
        Pattern.selects_reanchor_of_dayOfMonth?_eq_none selected isDay]
  | some day =>
      obtain ⟨inMonths, onDay⟩ := (Pattern.selects_iff_of_dayOfMonth? isDay).mp selected
      have sameDay := MonthDay.inMonth_reanchor_eq_iff onDay
      simp only [Option.mem_some_iff, forall_eq']
      constructor
      · intro agrees tooShort date later met
        have afterRestart : restart ≤ date := Nat.le_of_lt later
        have wasMet := (agrees date afterRestart).mp met
        rw [isOccurrence_reanchor_iff occurs afterRestart,
          Pattern.selects_reanchor_iff selected isDay] at met
        rw [isOccurrence_iff_of_restart occurs afterRestart,
          Pattern.selects_iff_of_dayOfMonth? isDay] at wasMet
        have same := (sameDay date.yearMonth).mp (met.2.2.2.trans wasMet.2.2.2.symm)
        exact same.resolve_left (Int.not_le_of_gt tooShort)
      · intro noLonger date later
        by_cases fits : day.number ≤ restart.yearMonth.length ∨
            date.yearMonth.length ≤ restart.yearMonth.length
        · rw [isOccurrence_reanchor_iff occurs later, isOccurrence_iff_of_restart occurs later,
            Pattern.selects_reanchor_iff selected isDay,
            Pattern.selects_iff_of_dayOfMonth? isDay, (sameDay date.yearMonth).mpr fits]
        · obtain ⟨tooShort, longer⟩ := not_or.mp fits
          rw [Int.not_le] at tooShort
          rw [Nat.not_le] at longer
          constructor
          · intro met
            have afterRestart := lt_of_yearMonth_length_lt later longer rfl
            exact absurd (noLonger tooShort date afterRestart met) (Nat.not_le_of_lt longer)
          · intro wasMet
            have sameMonth := MonthDay.yearMonth_inMonth date.yearMonth (day.reanchor restart)
            have afterRestart := lt_of_yearMonth_length_lt later longer sameMonth
            have met := isOccurrence_reanchor_inMonth occurs isDay later wasMet
              (Nat.le_of_lt afterRestart)
            have short := noLonger tooShort _ afterRestart met
            rw [sameMonth] at short
            exact absurd short (Nat.not_le_of_lt longer)

end Restart
end Recurrence
end Cadence
