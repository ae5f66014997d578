import Mathlib.Data.List.Sort
import Cadence.Calendar.YearMonth

/-!
# Stretches of days

Dates, months and years found by their numbers.  The dates between two day numbers
form an ascending list that grows by one date for each further day, and a year is the
stretch of days between the starts of two Januaries.
-/

namespace Cadence
namespace Calendar
namespace Date

/-- The date with a given day number, when it is in the calendar. -/
def ofDayNumber? (number : Nat) : Option Date :=
  if inCalendar : number < calendarLength then some ⟨number, inCalendar⟩ else none

theorem ofDayNumber?_eq_some_iff {number : Nat} {date : Date} :
    ofDayNumber? number = some date ↔ date.dayNumber = number := by
  unfold ofDayNumber?
  constructor
  · intro found
    split at found
    · cases found
      rfl
    · contradiction
  · intro numbered
    have inCalendar := date.inCalendar
    subst numbered
    rw [dif_pos inCalendar]

@[simp] theorem ofDayNumber?_dayNumber (date : Date) :
    ofDayNumber? date.dayNumber = some date :=
  ofDayNumber?_eq_some_iff.mpr rfl

theorem exists_dayNumber_eq {number : Nat} (inCalendar : number < calendarLength) :
    ∃ date : Date, date.dayNumber = number :=
  ⟨⟨number, inCalendar⟩, rfl⟩

theorem shift?_eq_some_iff {date shifted : Date} {days : Int} :
    date.shift? days = some shifted ↔ (shifted.dayNumber : Int) = date.dayNumber + days := by
  refine ⟨dayNumber_shift?, fun numbered => ?_⟩
  have inCalendar := shifted.inCalendar
  cases isShifted : date.shift? days with
  | none =>
      have outside := shift?_eq_none_iff.mp isShifted
      omega
  | some found =>
      have foundNumber := dayNumber_shift? isShifted
      have sameDay : found = shifted := ext (by omega)
      rw [sameDay]

/-- The dates from one day number up to another, which is left out. -/
def between (opening closing : Nat) : List Date :=
  (List.range' opening (closing - opening)).filterMap ofDayNumber?

theorem mem_between {opening closing : Nat} {date : Date} :
    date ∈ between opening closing ↔
      opening ≤ date.dayNumber ∧ date.dayNumber < closing := by
  unfold between
  simp only [List.mem_filterMap, List.mem_range'_1, ofDayNumber?_eq_some_iff]
  constructor
  · rintro ⟨number, bounds, numbered⟩
    omega
  · intro bounds
    exact ⟨date.dayNumber, by omega, rfl⟩

/-- The dates of a stretch stand in ascending order. -/
theorem pairwise_between (opening closing : Nat) :
    (between opening closing).Pairwise (· < ·) := by
  unfold between
  rw [List.pairwise_filterMap]
  refine List.Pairwise.imp ?_ List.pairwise_lt_range'
  intro earlier later before first isFirst second isSecond
  rw [ofDayNumber?_eq_some_iff] at isFirst isSecond
  rw [lt_iff]
  omega

/-- Two stretches of days one behind the other. -/
theorem between_append
    {opening middle closing : Nat}
    (first : opening ≤ middle)
    (second : middle ≤ closing) :
    between opening closing = between opening middle ++ between middle closing := by
  have whole : closing - opening = (middle - opening) + (closing - middle) := by omega
  have next : opening + 1 * (middle - opening) = middle := by omega
  unfold between
  rw [whole, ← List.range'_append, List.filterMap_append, next]

@[simp] theorem between_self (opening : Nat) : between opening opening = [] := by
  simp [between]

/-- A stretch that is longer by one day has one more date. -/
theorem between_succ
    {opening : Nat}
    {date : Date}
    (notBefore : opening ≤ date.dayNumber) :
    between opening (date.dayNumber + 1) =
      between opening date.dayNumber ++ [date] := by
  unfold between
  rw [Nat.succ_sub notBefore, List.range'_concat, List.filterMap_append]
  have lastNumber : opening + 1 * (date.dayNumber - opening) = date.dayNumber := by
    omega
  rw [lastNumber]
  simp

/-- A stretch that is not over starts with its first date. -/
theorem between_eq_cons
    {closing : Nat}
    {date : Date}
    (notOver : date.dayNumber < closing) :
    between date.dayNumber closing = date :: between (date.dayNumber + 1) closing := by
  unfold between
  have length : closing - date.dayNumber = closing - (date.dayNumber + 1) + 1 := by
    omega
  rw [length, List.range'_succ]
  simp

/-- A number that grows by one on each marked date of a stretch, and on no other, counts the marked
dates. -/
theorem countP_between
    {marked : Date → Bool}
    {count : Nat → Nat}
    {opening closing : Nat}
    (step : ∀ date ∈ between opening closing,
      count (date.dayNumber + 1) = count date.dayNumber + if marked date then 1 else 0)
    (ordered : opening ≤ closing)
    (inCalendar : closing ≤ calendarLength) :
    count opening + (between opening closing).countP marked = count closing := by
  induction closing, ordered using Nat.le_induction with
  | base => simp
  | succ number notBefore hypothesis =>
      obtain ⟨date, rfl⟩ := exists_dayNumber_eq inCalendar
      rw [between_succ notBefore] at step ⊢
      have before := hypothesis
        (fun other isBefore => step other (List.mem_append_left _ isBefore))
        (Nat.le_of_lt inCalendar)
      rw [List.countP_append, ← Nat.add_assoc, before,
        step date (List.mem_append_right _ (List.mem_singleton_self date)),
        List.countP_singleton]

/-- The dates behind one date up to another, in their order. -/
def datesTo (date other : Date) : List Date :=
  between (date.dayNumber + 1) (other.dayNumber + 1)

theorem mem_datesTo {earlier later date : Date} :
    date ∈ earlier.datesTo later ↔ earlier < date ∧ date ≤ later := by
  unfold datesTo
  rw [mem_between, lt_iff, le_iff, Nat.succ_le_iff, Nat.lt_succ_iff]

theorem dayNumber_min (first second : Date) :
    (min first second).dayNumber = min first.dayNumber second.dayNumber := by
  change (if first.dayNumber ≤ second.dayNumber then first else second).dayNumber = _
  split <;> omega

theorem dayNumber_max (first second : Date) :
    (max first second).dayNumber = max first.dayNumber second.dayNumber := by
  change (if first.dayNumber ≤ second.dayNumber then second else first).dayNumber = _
  split <;> omega

/-- The calendar is over behind its last date. -/
theorem dayNumber_add_one_of_isLast {date : Date} (isLast : date.next? = none) :
    date.dayNumber + 1 = calendarLength := by
  rw [next?_eq_none_iff.mp isLast]
  rfl

end Date

/-- Two ascending lists of the same dates are one list. -/
theorem eq_of_ascending
    {first second : List Date}
    (firstAscending : first.Pairwise (· < ·))
    (secondAscending : second.Pairwise (· < ·))
    (sameDates : ∀ date, date ∈ first ↔ date ∈ second) : first = second := by
  have irreflexive : Std.Irrefl fun first second : Date => first < second :=
    ⟨fun date => Nat.lt_irrefl date.dayNumber⟩
  have antisymmetric : Std.Antisymm fun first second : Date => first < second :=
    ⟨fun _ _ before after => absurd after (Nat.lt_asymm before)⟩
  exact firstAscending.eq_of_mem_iff secondAscending sameDates

namespace YearMonth

/-- The month that a given number of months precede, when it is in the calendar. -/
def ofIndex? (index : Nat) : Option YearMonth :=
  if inCalendar : index < calendarMonths then some ⟨index, inCalendar⟩ else none

theorem ofIndex?_eq_some_iff {index : Nat} {month : YearMonth} :
    ofIndex? index = some month ↔ month.index = index := by
  unfold ofIndex?
  constructor
  · intro found
    split at found
    · cases found
      rfl
    · contradiction
  · intro numbered
    have inCalendar := month.inCalendar
    subst numbered
    rw [dif_pos inCalendar]

/-- The years of the calendar have at most four digits. -/
theorem year_in_calendar (month : YearMonth) : 1 ≤ month.year ∧ month.year ≤ 9999 := by
  have inCalendar := month.inCalendar
  unfold calendarMonths at inCalendar
  unfold year
  omega

/-- The month of a year is found by the number of the year and by its place in it. -/
theorem of?_eq_some_iff {year : Nat} {place : Month} {month : YearMonth} :
    of? year place = some month ↔ month.year = year ∧ month.month = place := by
  have placeBound := place.index_lt
  have monthBound := month.inCalendar
  have placeOfMonth : month.month.index = month.index % 12 := Month.index_ofCount _
  have placeEquality : month.month = place ↔ month.index % 12 = place.index := by
    rw [← placeOfMonth]
    exact ⟨congrArg Month.index, Month.index_injective⟩
  unfold calendarMonths at monthBound
  rw [placeEquality]
  unfold of? YearMonth.year
  constructor
  · intro found
    split at found
    · cases found
      simp only
      omega
    · contradiction
  · rintro ⟨rightYear, rightPlace⟩
    rw [dif_pos (by omega)]
    congr 1
    apply ext
    simp only
    omega

end YearMonth

/-- The date of a year, a month and a day number is the one that has them. -/
theorem Date.of?_eq_some_iff {year day : Nat} {month : Month} {date : Date} :
    Date.of? year month day = some date ↔
      date.year = year ∧ date.month = month ∧ date.day = day := by
  unfold Date.of?
  constructor
  · intro found
    cases isMonth : YearMonth.of? year month with
    | none => simp [isMonth] at found
    | some yearMonth =>
        obtain ⟨rightYear, rightMonth⟩ := YearMonth.of?_eq_some_iff.mp isMonth
        simp only [isMonth] at found
        split at found
        · next inMonth =>
            cases found
            unfold Date.year Date.month
            rw [Date.yearMonth_dayAt, Date.day_dayAt]
            exact ⟨rightYear, rightMonth, by omega⟩
        · cases found
  · rintro ⟨rightYear, rightMonth, rfl⟩
    have isMonth : YearMonth.of? year month = some date.yearMonth :=
      YearMonth.of?_eq_some_iff.mpr ⟨rightYear, rightMonth⟩
    have positive := date.day_pos
    have atMostLength := date.day_le_length
    have bounds := date.yearMonth_bounds
    simp only [isMonth]
    rw [dif_pos (by omega), Option.some.injEq]
    apply Date.ext
    simp only [YearMonth.dayAt, Date.day] at positive ⊢
    omega

/-- Twelve months of each year pass before a January. -/
theorem monthStart_twelve_mul (years : Nat) :
    monthStart (12 * years) = daysInYears years := by
  have isJanuary : Month.ofCount (12 * years) = Month.january :=
    Month.index_injective (by rw [Month.index_ofCount]; change _ = 0; omega)
  unfold monthStart
  rw [isJanuary, Nat.mul_div_cancel_left years (by decide)]
  rfl

/-- A date lies between the days before its year and the days to its end. -/
theorem Date.year_bounds (date : Date) :
    daysInYears (date.year - 1) ≤ date.dayNumber ∧
      date.dayNumber < daysInYears date.year := by
  have bounds := date.yearMonth_bounds
  unfold YearMonth.length at bounds
  rw [← monthStart_succ] at bounds
  have yearNumber : date.year = date.yearMonth.index / 12 + 1 := rfl
  have opens : monthStart (12 * (date.year - 1)) ≤ monthStart date.yearMonth.index :=
    monthStart_mono (by omega)
  have closes : monthStart (date.yearMonth.index + 1) ≤ monthStart (12 * date.year) :=
    monthStart_mono (by omega)
  rw [monthStart_twelve_mul] at opens closes
  omega

theorem Date.index_month (date : Date) : date.month.index = date.yearMonth.index % 12 :=
  Month.index_ofCount _

theorem Date.year_pos (date : Date) : 1 ≤ date.year :=
  Nat.le_add_left _ _

end Calendar
end Cadence
