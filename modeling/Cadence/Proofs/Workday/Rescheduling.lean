import Cadence.Proofs.Calendar.WeekdayCounts
import Cadence.Proofs.Workday.NamedDays
import Cadence.Workday.Holiday

/-!
# Dates that replace a holiday

Which dates a repayment may move to.  A rule text that names working days names at least one, and
a week on either side of a holiday has all weekdays, so with a margin of a week there is always a
working day to move to, before the holiday and after it.
-/

namespace Cadence
namespace Calendar

/-! ## Days within a margin -/

section Margin

variable {opening closing date : Date} {margin : Int}

theorem withinMargin_eq_some_iff {inside : Bool} :
    withinMargin opening closing margin date = some inside ↔
      ∃ earliest latest, opening.shift? (-margin) = some earliest ∧
        closing.shift? margin = some latest ∧
        inWindow earliest (some latest) date = inside := by
  unfold withinMargin
  cases opening.shift? (-margin) <;> cases closing.shift? margin <;> simp

/-- A wider margin leaves out no date that is within the narrower one. -/
theorem withinMargin_ne_some_false
    {wider : Int}
    (isWider : margin ≤ wider)
    (isWithin : withinMargin opening closing margin date = some true) :
    withinMargin opening closing wider date ≠ some false := by
  intro isOutside
  obtain ⟨earliest, latest, opens, closes, inside⟩ := withinMargin_eq_some_iff.mp isWithin
  obtain ⟨widerEarliest, widerLatest, widerOpens, widerCloses, outside⟩ :=
    withinMargin_eq_some_iff.mp isOutside
  rw [← Bool.not_eq_true] at outside
  simp only [inWindow_eq_true_iff, Option.mem_some_iff, forall_eq', Date.le_iff] at inside outside
  rw [Date.shift?_eq_some_iff] at opens closes widerOpens widerCloses
  omega

end Margin

end Calendar

namespace Workday

open Calendar Recurrence Text

namespace WorkingDays

/-! ## Listed days -/

/-- The rule text that working days are read from: a blank one stands for Monday to Friday. -/
def textOf (given : String) : String :=
  if isBlankText given.toList then defaultRuleText else given

/-- A piece of a rule text lists a weekday, by its name or its short code between commas. -/
def Lists (given : String) (weekday : Weekday) : Prop :=
  ∃ names, Gives (rulePieces (textOf given).toList) .weekday names ∧
    ∃ name ∈ splitOn ',' names, NamesWeekday name weekday

/-- The working days of a text come from its only list of days. -/
theorem exists_names_of_ofParts
    {text : List Char}
    {parts : Parts}
    {workingDays : WorkingDays}
    (partsRead : readParts text = .ok parts)
    (areNamed : ofParts parts = .ok workingDays) :
    ∃ names weekdays,
      (∀ value, Gives (rulePieces text) .weekday value ↔ value = names) ∧
        (splitOn ',' names).map readWeekday? = weekdays.map some ∧
        workingDays = ofList weekdays := by
  obtain ⟨_, once, rfl⟩ := readParts_eq_ok_iff.mp partsRead
  obtain ⟨_, names, isValue, areRead⟩ := ofParts_eq_ok_iff.mp areNamed
  obtain ⟨weekdays, areWeekdays, rfl⟩ := map_ofList_eq_ok_iff.mp areRead
  refine ⟨names, weekdays, ?_, areWeekdays, rfl⟩
  intro value
  rw [← value?_filterMap_part?_eq_some_iff once, isValue, Option.some.injEq, eq_comm]

section Read

variable {given : String} {workingDays : WorkingDays}

theorem exists_parts_of_read (isRead : read given = .ok workingDays) :
    ∃ parts, readParts (textOf given).toList = .ok parts ∧ ofParts parts = .ok workingDays := by
  unfold read at isRead
  unfold textOf
  dsimp only at isRead
  generalize (if isBlankText given.toList then defaultRuleText else given) = text at isRead ⊢
  cases partsRead : readParts text.toList with
  | error fault =>
      rw [partsRead] at isRead
      cases isRead
  | ok parts =>
      rw [partsRead] at isRead
      refine ⟨parts, rfl, ?_⟩
      dsimp only at isRead
      split at isRead
      · cases isRead
      · next named =>
          cases isRead
          exact named

variable (isRead : read given = .ok workingDays)
include isRead

/-- The working days of a text are the days that it lists. -/
theorem mem_weekdays_of_read {weekday : Weekday} :
    weekday ∈ workingDays.weekdays ↔ Lists given weekday := by
  obtain ⟨parts, partsRead, areNamed⟩ := exists_parts_of_read isRead
  obtain ⟨names, weekdays, onlyNames, areWeekdays, rfl⟩ :=
    exists_names_of_ofParts partsRead areNamed
  have isNamed : some weekday ∈ weekdays.map some ↔
      ∃ name ∈ splitOn ',' names, NamesWeekday name weekday := by
    rw [← areWeekdays, List.mem_map]
    simp only [readWeekday?_eq_some_iff]
  unfold Lists
  simp only [onlyNames, exists_eq_left]
  rw [mem_weekdays_ofList, ← isNamed, List.mem_map_of_injective (Option.some_injective _)]

theorem weekdays_ne_nil_of_read : workingDays.weekdays ≠ [] := by
  obtain ⟨parts, partsRead, areNamed⟩ := exists_parts_of_read isRead
  obtain ⟨names, weekdays, _, areWeekdays, rfl⟩ := exists_names_of_ofParts partsRead areNamed
  cases weekdays with
  | nil =>
      rw [List.map_nil, List.map_eq_nil_iff] at areWeekdays
      exact absurd areWeekdays (splitOn_ne_nil _ _)
  | cons weekday weekdays =>
      exact List.ne_nil_of_mem (mem_weekdays_ofList.mpr List.mem_cons_self)

end Read
end WorkingDays

namespace Holiday

/-! ## Accepted dates -/

section Accepted

variable {holiday : Holiday} {workingDays : WorkingDays} {buffer : Int} {date : Date}

theorem accepts?_eq_some_true_iff :
    holiday.accepts? workingDays buffer date = some true ↔
      holiday.check workingDays buffer date = .ok () := by
  unfold accepts?
  split <;> simp_all

/-- A working day outside a holiday is judged by its distance alone. -/
theorem accepts?_eq_withinMargin
    (ordered : holiday.firstDay ≤ holiday.lastDay)
    (outside : inWindow holiday.firstDay (some holiday.lastDay) date = false)
    (works : workingDays.isWorkingDay date = true) :
    holiday.accepts? workingDays buffer date =
      withinMargin holiday.firstDay holiday.lastDay buffer date := by
  have notReversed : ¬holiday.lastDay < holiday.firstDay := Nat.not_lt_of_le ordered
  unfold accepts? check
  rw [if_neg notReversed, outside, works]
  cases withinMargin holiday.firstDay holiday.lastDay buffer date with
  | none => rfl
  | some inside => cases inside <;> rfl

/-- A larger buffer rejects no date that is accepted with the smaller one. -/
theorem accepts?_ne_some_false
    {larger : Int}
    (isLarger : buffer ≤ larger)
    (accepted : holiday.accepts? workingDays buffer date = some true) :
    holiday.accepts? workingDays larger date ≠ some false := by
  obtain ⟨ordered, outside, works, isWithin⟩ :=
    check_eq_ok_iff.mp (accepts?_eq_some_true_iff.mp accepted)
  rw [accepts?_eq_withinMargin ordered outside works]
  exact withinMargin_ne_some_false isLarger isWithin

variable {earliest latest : Date}
variable (ordered : holiday.firstDay ≤ holiday.lastDay)
variable (opens : holiday.firstDay.shift? (-buffer) = some earliest)
variable (closes : holiday.lastDay.shift? buffer = some latest)
include ordered opens closes

/-- With the days around a holiday in the calendar every date is accepted or rejected. -/
theorem exists_accepts?_eq_some (workingDays : WorkingDays) (date : Date) :
    ∃ accepted, holiday.accepts? workingDays buffer date = some accepted ∧
      (accepted = true ↔
        earliest ≤ date ∧ date ≤ latest ∧
          ¬(holiday.firstDay ≤ date ∧ date ≤ holiday.lastDay) ∧
          date.weekday ∈ workingDays.weekdays) := by
  have isMargin : withinMargin holiday.firstDay holiday.lastDay buffer date =
      some (inWindow earliest (some latest) date) :=
    withinMargin_eq_some_iff.mpr ⟨earliest, latest, opens, closes, rfl⟩
  have notReversed : ¬holiday.lastDay < holiday.firstDay := Nat.not_lt_of_le ordered
  refine ⟨inWindow earliest (some latest) date &&
    !inWindow holiday.firstDay (some holiday.lastDay) date && workingDays.isWorkingDay date,
    ?_, ?_⟩
  · unfold accepts? check
    rw [if_neg notReversed, isMargin]
    cases inWindow holiday.firstDay (some holiday.lastDay) date <;>
      cases workingDays.isWorkingDay date <;>
        cases inWindow earliest (some latest) date <;> rfl
  · simp only [Bool.and_eq_true, Bool.not_eq_true', ← Bool.not_eq_true, inWindow_eq_true_iff,
      WorkingDays.isWorkingDay_iff, Option.mem_some_iff, forall_eq', and_assoc]

/-- A margin of a week has a working day on either side of a holiday, since the seven days before it
have every weekday and so have the seven behind it. -/
theorem exists_accepted_dates
    (wide : 7 ≤ buffer)
    (someDay : workingDays.weekdays ≠ []) :
    (∃ date, date < holiday.firstDay ∧ holiday.firstDay.dayNumber ≤ date.dayNumber + 7 ∧
      holiday.accepts? workingDays buffer date = some true) ∧
    ∃ date, holiday.lastDay < date ∧ date.dayNumber ≤ holiday.lastDay.dayNumber + 7 ∧
      holiday.accepts? workingDays buffer date = some true := by
  obtain ⟨weekday, works⟩ := List.exists_mem_of_ne_nil _ someDay
  have earliestNumber := Date.shift?_eq_some_iff.mp opens
  have latestNumber := Date.shift?_eq_some_iff.mp closes
  have inCalendar := latest.inCalendar
  have firstInCalendar := holiday.firstDay.inCalendar
  rw [Date.le_iff] at ordered
  have isAccepted (date : Date) (isWeekday : date.weekday = weekday)
      (near : earliest ≤ date ∧ date ≤ latest)
      (outside : ¬(holiday.firstDay ≤ date ∧ date ≤ holiday.lastDay)) :
      holiday.accepts? workingDays buffer date = some true := by
    obtain ⟨accepted, isAnswer, accepted_iff⟩ :=
      exists_accepts?_eq_some ordered opens closes workingDays date
    rw [isAnswer, accepted_iff.mpr ⟨near.1, near.2, outside, isWeekday ▸ works⟩]
  simp only [Date.lt_iff, Date.le_iff] at isAccepted ⊢
  constructor
  · have weekBefore : holiday.firstDay.dayNumber - 7 + 7 ≤ calendarLength := by omega
    obtain ⟨date, notBefore, notBehind, isWeekday⟩ := exists_weekday_eq_in_week weekday weekBefore
    exact ⟨date, by omega, by omega, isAccepted date isWeekday (by omega) (by omega)⟩
  · have weekBehind : holiday.lastDay.dayNumber + 1 + 7 ≤ calendarLength := by omega
    obtain ⟨date, notBefore, notBehind, isWeekday⟩ := exists_weekday_eq_in_week weekday weekBehind
    exact ⟨date, by omega, by omega, isAccepted date isWeekday (by omega) (by omega)⟩

end Accepted
end Holiday

open WorkingDays

/-- A holiday can be rescheduled with a buffer of a week or more.  A rule text for working days
names at least one, so some day of the week before the holiday is accepted and some day of the
week behind it.  Accepted are the dates within the buffer and outside the holiday that the text
lists as working days, and a larger buffer rejects none of them. -/
theorem holidays_can_be_rescheduled
    {text : String}
    {workingDays : WorkingDays}
    (isRead : WorkingDays.read text = .ok workingDays) :
    workingDays.weekdays ≠ [] ∧
    ∀ holiday : Holiday, holiday.firstDay ≤ holiday.lastDay →
      (∀ (buffer : Int) (earliest latest : Date),
        holiday.firstDay.shift? (-buffer) = some earliest →
        holiday.lastDay.shift? buffer = some latest →
        (7 ≤ buffer →
          (∃ date, date < holiday.firstDay ∧ holiday.firstDay.dayNumber ≤ date.dayNumber + 7 ∧
            holiday.accepts? workingDays buffer date = some true) ∧
          ∃ date, holiday.lastDay < date ∧ date.dayNumber ≤ holiday.lastDay.dayNumber + 7 ∧
            holiday.accepts? workingDays buffer date = some true) ∧
        ∀ date, ∃ accepted, holiday.accepts? workingDays buffer date = some accepted ∧
          (accepted = true ↔
            earliest ≤ date ∧ date ≤ latest ∧
              ¬(holiday.firstDay ≤ date ∧ date ≤ holiday.lastDay) ∧
              Lists text date.weekday)) ∧
      ∀ (buffer larger : Int) (date : Date), buffer ≤ larger →
        holiday.accepts? workingDays buffer date = some true →
        holiday.accepts? workingDays larger date ≠ some false := by
  have someDay := weekdays_ne_nil_of_read isRead
  refine ⟨someDay, fun holiday ordered => ⟨?_, ?_⟩⟩
  · intro buffer earliest latest opens closes
    refine ⟨fun wide => Holiday.exists_accepted_dates ordered opens closes wide someDay, ?_⟩
    intro date
    obtain ⟨accepted, isAnswer, accepted_iff⟩ :=
      Holiday.exists_accepts?_eq_some ordered opens closes workingDays date
    rw [mem_weekdays_of_read isRead] at accepted_iff
    exact ⟨accepted, isAnswer, accepted_iff⟩
  · intro buffer larger date isLarger
    exact Holiday.accepts?_ne_some_false isLarger

/-- Business is done on Sundays only, and the holiday is Easter Sunday of 2024.  The default buffer
reaches the Sundays before and behind it, and so does a larger one, but a day less does not. -/
theorem holidays_can_be_rescheduled_sundays :
    let text := "freq=weekly;byday=su, Sunday"
    let sundays : WorkingDays := ⟨[.sunday]⟩
    let easter : Holiday := ⟨⟨738975, by decide⟩, ⟨738975, by decide⟩⟩
    let palmSunday : Date := ⟨738968, by decide⟩
    let whiteSunday : Date := ⟨738982, by decide⟩
    WorkingDays.read text = .ok sundays ∧ easter.firstDay ≤ easter.lastDay ∧
      easter.firstDay.shift? (-defaultBuffer) = some palmSunday ∧
      easter.lastDay.shift? defaultBuffer = some whiteSunday ∧ 7 ≤ defaultBuffer ∧
      (∃ date, date < easter.firstDay ∧ easter.firstDay.dayNumber ≤ date.dayNumber + 7 ∧
        easter.accepts? sundays defaultBuffer date = some true) ∧
      WorkingDays.Lists text palmSunday.weekday ∧
      easter.accepts? sundays 6 palmSunday = some false ∧
      easter.accepts? sundays 8 palmSunday ≠ some false := by
  intro text sundays easter palmSunday whiteSunday
  have isRead : WorkingDays.read text = .ok sundays :=
    toOption_eq_some_iff.mp (by decide +kernel)
  have ordered : easter.firstDay ≤ easter.lastDay := by decide
  have opens : easter.firstDay.shift? (-defaultBuffer) = some palmSunday := by decide +kernel
  have closes : easter.lastDay.shift? defaultBuffer = some whiteSunday := by decide +kernel
  have wide : 7 ≤ defaultBuffer := by decide
  have isAccepted : easter.accepts? sundays defaultBuffer palmSunday = some true := by
    decide +kernel
  obtain ⟨decided, widened⟩ := (holidays_can_be_rescheduled isRead).2 easter ordered
  obtain ⟨reachable, answers⟩ := decided defaultBuffer palmSunday whiteSunday opens closes
  obtain ⟨accepted, isAnswer, accepted_iff⟩ := answers palmSunday
  have isTrue := Option.some.inj (isAnswer.symm.trans isAccepted)
  exact ⟨isRead, ordered, opens, closes, wide, (reachable wide).1, (accepted_iff.mp isTrue).2.2.2,
    by decide +kernel, widened defaultBuffer 8 palmSunday (by decide) isAccepted⟩

end Workday
end Cadence
