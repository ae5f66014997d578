import Cadence.Calendar.Month

/-!
# Years

Leap years and the days that pass before a year, in the Gregorian calendar
extended to all years.
-/

namespace Cadence
namespace Calendar

/-- A year is a leap year when it is divisible by 4 and either not by 100 or by
400.  The rule extends to years before year 1 and after year 9999. -/
def isLeapYear (year : Int) : Bool :=
  year % 4 == 0 && (year % 100 != 0 || year % 400 == 0)

/-- The number of days of a year. -/
def yearLength (year : Int) : Nat :=
  if isLeapYear year then 366 else 365

/-- The days from 1 January of year 1 to the end of the first `years` years. -/
def daysInYears (years : Nat) : Nat :=
  365 * years + years / 4 - years / 100 + years / 400

@[simp] theorem daysInYears_zero : daysInYears 0 = 0 := rfl

theorem isLeapYear_natCast (year : Nat) :
    isLeapYear (year : Int) = true ↔
      year % 4 = 0 ∧ (year % 100 ≠ 0 ∨ year % 400 = 0) := by
  unfold isLeapYear
  simp only [beq_iff_eq, bne_iff_ne, Bool.and_eq_true, Bool.or_eq_true]
  omega

/-- One when a year closes a cycle of `cycle` years, and zero otherwise. -/
def closesCycle (year cycle : Nat) : Nat :=
  if year % cycle = 0 then 1 else 0

theorem div_succ_eq_add_closesCycle (years cycle : Nat) :
    (years + 1) / cycle = years / cycle + closesCycle (years + 1) cycle := by
  have step := Nat.succ_div (a := years) (b := cycle)
  simpa [closesCycle, Nat.dvd_iff_mod_eq_zero] using step

/-- A year gains a day every 4 years, loses it every 100 and regains it every
400. -/
theorem yearLength_natCast (year : Nat) :
    yearLength (year : Int) + closesCycle year 100 =
        365 + closesCycle year 4 + closesCycle year 400 ∧
      closesCycle year 100 ≤ closesCycle year 4 := by
  have leap := isLeapYear_natCast year
  have hundredCloses : year % 100 = 0 → year % 4 = 0 := by omega
  have fourHundredCloses : year % 400 = 0 → year % 100 = 0 := by omega
  unfold yearLength closesCycle
  by_cases four : year % 4 = 0 <;>
  by_cases hundred : year % 100 = 0 <;>
  by_cases fourHundred : year % 400 = 0 <;>
  simp_all

/-- One more year adds the days of that year. -/
theorem daysInYears_succ (years : Nat) :
    daysInYears (years + 1) =
      daysInYears years + yearLength ((years + 1 : Nat) : Int) := by
  have centuriesLe : years / 100 ≤ years / 4 := by omega
  obtain ⟨lengthEquality, closesLe⟩ := yearLength_natCast (years + 1)
  unfold daysInYears
  rw [div_succ_eq_add_closesCycle years 4, div_succ_eq_add_closesCycle years 100,
    div_succ_eq_add_closesCycle years 400]
  omega

theorem daysInYears_add_le_succ (years : Nat) :
    daysInYears years + 365 ≤ daysInYears (years + 1) := by
  rw [daysInYears_succ, yearLength]
  split <;> omega

theorem daysInYears_mono {earlier later : Nat} (ordered : earlier ≤ later) :
    daysInYears earlier ≤ daysInYears later := by
  induction ordered with
  | refl => exact Nat.le_refl _
  | step _ hypothesis =>
      exact Nat.le_trans hypothesis
        (Nat.le_trans (Nat.le_add_right _ _) (daysInYears_add_le_succ _))

/-- Four hundred years hold 146097 days, and no year drifts from that average by
as much as two days. -/
theorem daysInYears_near_average (years : Nat) :
    146097 * years ≤ 400 * daysInYears years + 699 ∧
      400 * daysInYears years ≤ 146097 * years + 396 := by
  have centuries : years / 100 = years / 4 / 25 := by
    rw [Nat.div_div_eq_div_mul]
  have cycles : years / 400 = years / 4 / 25 / 4 := by
    rw [Nat.div_div_eq_div_mul, Nat.div_div_eq_div_mul]
  unfold daysInYears
  rw [centuries, cycles]
  omega

/-- The years that are complete before a day, counted from 1 January of year 1.
The average length of a year gives a guess that is at most one year off. -/
def yearsBefore (dayNumber : Nat) : Nat :=
  let guess := dayNumber * 400 / 146097
  if daysInYears (guess + 1) ≤ dayNumber then guess + 1
  else if dayNumber < daysInYears guess then guess - 1
  else guess

/-- The complete years before a day end on or before it, and the next one does
not. -/
theorem yearsBefore_bounds (dayNumber : Nat) :
    daysInYears (yearsBefore dayNumber) ≤ dayNumber ∧
      dayNumber < daysInYears (yearsBefore dayNumber + 1) := by
  unfold yearsBefore
  simp only
  have guessBound :
      146097 * (dayNumber * 400 / 146097) ≤ dayNumber * 400 ∧
        dayNumber * 400 < 146097 * (dayNumber * 400 / 146097) + 146097 := by
    omega
  generalize dayNumber * 400 / 146097 = guess at guessBound
  have zeroAverage := daysInYears_near_average guess
  have twoAverage := daysInYears_near_average (guess + 2)
  split
  · next late =>
      refine ⟨late, ?_⟩
      change dayNumber < daysInYears (guess + 2)
      omega
  · split
    · next early =>
        match guess with
        | 0 => simp [daysInYears] at early
        | previous + 1 =>
            have oneAverage := daysInYears_near_average previous
            simp only [Nat.add_sub_cancel]
            omega
    · omega

theorem yearsBefore_lt
    {dayNumber years : Nat}
    (beforeEnd : dayNumber < daysInYears years) :
    yearsBefore dayNumber < years := by
  apply Nat.lt_of_not_le
  intro reached
  have monotone := daysInYears_mono reached
  have bounds := yearsBefore_bounds dayNumber
  omega

/-- The days of all months of a year add up to the year. -/
theorem daysBefore_december_add_length (year : Int) :
    Month.december.daysBefore (isLeapYear year) +
      Month.december.length (isLeapYear year) = yearLength year := by
  unfold yearLength
  cases isLeapYear year <;> rfl

end Calendar
end Cadence
