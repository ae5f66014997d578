import Cadence.Calendar.Numbered
import Cadence.Proofs.Calendar.Stretches
import Cadence.Proofs.Calendar.WeekdayPlaces

/-!
# Counted weekdays

How many dates of a stretch have a weekday.  The calendar starts on a Monday, so the days with a
weekday that pass before a day number are a quotient by seven, and the dates of a stretch are a
difference of two such quotients.  Counting a weekday to a number in a month finds the date with
that many equal ones before or behind it, and the place of a date in its month is that number.
-/

namespace Cadence
namespace Calendar

/-! ## Weekdays of a stretch -/

/-- The days with a weekday that pass before a day number. -/
def weekdaysBefore (weekday : Weekday) (dayNumber : Nat) : Nat :=
  (dayNumber + 6 - weekday.index) / 7

theorem Date.weekday_eq_iff {date : Date} {weekday : Weekday} :
    date.weekday = weekday ↔ date.dayNumber % 7 = weekday.index := by
  rw [← Date.index_weekday]
  exact ⟨congrArg Weekday.index, Weekday.index_injective⟩

theorem weekdaysBefore_succ (weekday : Weekday) (date : Date) :
    weekdaysBefore weekday (date.dayNumber + 1) =
      weekdaysBefore weekday date.dayNumber + if date.weekday = weekday then 1 else 0 := by
  have small := weekday.index_lt
  unfold weekdaysBefore
  simp only [Date.weekday_eq_iff]
  split <;> omega

/-- The dates of a stretch that have a weekday are those before its end without those before its
start. -/
theorem countP_weekday_between
    (weekday : Weekday)
    {opening closing : Nat}
    (ordered : opening ≤ closing)
    (inCalendar : closing ≤ calendarLength) :
    weekdaysBefore weekday opening +
        (Date.between opening closing).countP (fun date => date.weekday = weekday) =
      weekdaysBefore weekday closing := by
  apply Date.countP_between _ ordered inCalendar
  intro date _
  rw [weekdaysBefore_succ]
  simp only [decide_eq_true_eq]

/-- Seven days in a row have every weekday. -/
theorem exists_weekday_eq_in_week
    (weekday : Weekday)
    {opening : Nat}
    (inCalendar : opening + 7 ≤ calendarLength) :
    ∃ date : Date,
      opening ≤ date.dayNumber ∧ date.dayNumber < opening + 7 ∧ date.weekday = weekday := by
  have counted := countP_weekday_between weekday (Nat.le_add_right opening 7) inCalendar
  have oneMore : weekdaysBefore weekday (opening + 7) = weekdaysBefore weekday opening + 1 := by
    have small := weekday.index_lt
    unfold weekdaysBefore
    omega
  have someCounted :
      0 < (Date.between opening (opening + 7)).countP (fun date => date.weekday = weekday) := by
    omega
  obtain ⟨date, isMember, isWeekday⟩ := List.countP_pos_iff.mp someCounted
  obtain ⟨notBefore, notBehind⟩ := Date.mem_between.mp isMember
  exact ⟨date, notBefore, notBehind, of_decide_eq_true isWeekday⟩

/-! ## Weekdays of a month -/

namespace YearMonth

/-- The dates of a month, in their order. -/
def dates (month : YearMonth) : List Date :=
  Date.between (monthStart month.index) (monthStart month.index + month.length)

theorem mem_dates {month : YearMonth} {date : Date} :
    date ∈ month.dates ↔ date.yearMonth = month := by
  unfold dates
  rw [Date.mem_between]
  refine ⟨fun bounds => Date.yearMonth_eq bounds.1 bounds.2, ?_⟩
  rintro rfl
  exact date.yearMonth_bounds

/-- The dates of a month that have a weekday, in their order. -/
def weekdayDates (month : YearMonth) (weekday : Weekday) : List Date :=
  month.dates.filter fun date => date.weekday = weekday

section Counts

variable {month : YearMonth} (weekday : Weekday)

/-- Dates of a month that fill a stretch are counted by the ends of the stretch. -/
theorem countP_weekdayDates
    {keep : Date → Bool}
    {opening closing : Nat}
    (ordered : opening ≤ closing)
    (inCalendar : closing ≤ calendarLength)
    (isStretch : ∀ date, date.yearMonth = month ∧ keep date = true ↔
      opening ≤ date.dayNumber ∧ date.dayNumber < closing) :
    weekdaysBefore weekday opening + (month.weekdayDates weekday).countP keep =
      weekdaysBefore weekday closing := by
  have kept : month.dates.filter keep = Date.between opening closing := by
    apply eq_of_ascending
    · exact (Date.pairwise_between _ _).filter keep
    · exact Date.pairwise_between _ _
    · intro date
      rw [List.mem_filter, mem_dates, isStretch, Date.mem_between]
  have counted : (month.weekdayDates weekday).countP keep =
      (month.dates.filter keep).countP (fun date => date.weekday = weekday) := by
    simp only [weekdayDates, List.countP_filter, Bool.and_comm]
  rw [counted, kept, countP_weekday_between weekday ordered inCalendar]

theorem length_weekdayDates (month : YearMonth) :
    weekdaysBefore weekday (monthStart month.index) + (month.weekdayDates weekday).length =
      weekdaysBefore weekday (monthStart month.index + month.length) := by
  rw [← List.countP_true]
  apply countP_weekdayDates weekday (Nat.le_add_right _ _) month.end_le
  intro date
  rw [and_iff_left rfl, ← mem_dates, dates, Date.mem_between]

variable {date : Date} (inMonth : date.yearMonth = month)
include inMonth

theorem countP_earlier_weekdayDates :
    weekdaysBefore weekday (monthStart month.index) +
        (month.weekdayDates weekday).countP (· < date) =
      weekdaysBefore weekday date.dayNumber := by
  subst inMonth
  have bounds := date.yearMonth_bounds
  apply countP_weekdayDates weekday bounds.1 (Nat.le_of_lt date.inCalendar)
  intro other
  rw [← mem_dates, dates, Date.mem_between, decide_eq_true_eq, Date.lt_iff]
  omega

theorem countP_later_weekdayDates :
    weekdaysBefore weekday (date.dayNumber + 1) +
        (month.weekdayDates weekday).countP (date < ·) =
      weekdaysBefore weekday (monthStart month.index + month.length) := by
  subst inMonth
  have bounds := date.yearMonth_bounds
  apply countP_weekdayDates weekday bounds.2 date.yearMonth.end_le
  intro other
  rw [← mem_dates, dates, Date.mem_between, decide_eq_true_eq, Date.lt_iff]
  omega

end Counts

/-! ## Counting to a number -/

/-- The equal weekdays that are passed over when a date is counted to: those before it, or those
behind it when the count starts from the end of the month. -/
def passedOver (month : YearMonth) (weekday : Weekday) (number : Int) (date : Date) : Nat :=
  (month.weekdayDates weekday).countP fun other =>
    if 0 < number then other < date else date < other

/-- The end of a month from which a weekday is counted to a number. -/
def countingEnd (month : YearMonth) (number : Int) : Date :=
  if 0 < number then month.firstDay else month.lastDay

/-- The day number that a count of weekdays comes to. -/
def countedTo (month : YearMonth) (weekday : Weekday) (number : Int) : Int :=
  (month.countingEnd number).dayNumber + month.weekdayJump weekday number

section Jumps

variable {month : YearMonth} {weekday : Weekday} {number : Int} {date : Date}

theorem countedTo_of_pos (fromStart : 0 < number) :
    month.countedTo weekday number =
      monthStart month.index + month.weekdayOffset weekday + 7 * (number - 1) := by
  unfold countedTo countingEnd weekdayJump firstDay dayAt
  rw [if_pos fromStart, if_pos fromStart]
  dsimp only
  omega

theorem countedTo_of_neg (fromEnd : number < 0) :
    month.countedTo weekday number =
      monthStart month.index + month.length - 1 - month.weekdayTail weekday -
        7 * (-number - 1) := by
  have nonempty := month.length_ge
  unfold countedTo countingEnd weekdayJump lastDay dayAt
  rw [if_neg (by omega), if_neg (by omega)]
  dsimp only
  omega

variable (counts : number ≠ 0)
include counts

theorem nthWeekday_eq_some_iff :
    month.nthWeekday weekday number = .ok (some date) ↔
      date.yearMonth = month ∧ (date.dayNumber : Int) = month.countedTo weekday number := by
  unfold countedTo countingEnd nthWeekday
  rw [← Date.shift?_eq_some_iff, if_neg counts]
  dsimp only
  cases (if 0 < number then month.firstDay else month.lastDay).shift?
      (month.weekdayJump weekday number) with
  | none => simp
  | some found =>
      by_cases inMonth : found.yearMonth = month
      · simp only [if_pos inMonth, Except.ok.injEq, Option.some.injEq, iff_and_self]
        rintro rfl
        exact inMonth
      · simp only [if_neg inMonth, Except.ok.injEq, reduceCtorEq, Option.some.injEq, false_iff]
        rintro ⟨otherInMonth, rfl⟩
        exact inMonth otherInMonth

/-- A count over whole weeks comes to a weekday behind as many equal ones: the dates passed over and
the jump are both told by quotients by seven of day numbers. -/
theorem dayNumber_eq_countedTo_iff (inMonth : date.yearMonth = month) :
    (date.dayNumber : Int) = month.countedTo weekday number ↔
      date.weekday = weekday ∧ month.passedOver weekday number date + 1 = number.natAbs := by
  have small := weekday.index_lt
  have bounds := date.yearMonth_bounds
  rw [inMonth] at bounds
  rw [Date.weekday_eq_iff]
  unfold passedOver
  rcases lt_or_gt_of_ne counts with fromEnd | fromStart
  · have later := countP_later_weekdayDates weekday inMonth
    simp only [weekdaysBefore] at later
    simp only [if_neg (not_lt_of_gt fromEnd)]
    rw [countedTo_of_neg fromEnd, weekdayTail]
    omega
  · have earlier := countP_earlier_weekdayDates weekday inMonth
    simp only [weekdaysBefore] at earlier
    simp only [if_pos fromStart]
    rw [countedTo_of_pos fromStart, weekdayOffset]
    omega

/-- In a month with enough equal weekdays a count stays in the month. -/
theorem countedTo_bounds (enough : number.natAbs ≤ (month.weekdayDates weekday).length) :
    (monthStart month.index : Int) ≤ month.countedTo weekday number ∧
      month.countedTo weekday number < (monthStart month.index + month.length : Nat) := by
  have small := weekday.index_lt
  have nonempty := month.length_ge
  have counted := length_weekdayDates weekday month
  simp only [weekdaysBefore] at counted
  rcases lt_or_gt_of_ne counts with fromEnd | fromStart
  · rw [countedTo_of_neg fromEnd, weekdayTail]
    omega
  · rw [countedTo_of_pos fromStart, weekdayOffset]
    omega

/-- A month with enough equal weekdays has a date to count to. -/
theorem exists_nthWeekday_eq
    (enough : number.natAbs ≤ (month.weekdayDates weekday).length) :
    ∃ date, month.nthWeekday weekday number = .ok (some date) := by
  have monthEnd := month.end_le
  have bounds := countedTo_bounds counts enough
  obtain ⟨target, isTarget⟩ :=
    Int.eq_ofNat_of_zero_le (le_trans (Int.natCast_nonneg _) bounds.1)
  rw [isTarget] at bounds
  have inCalendar : target < calendarLength := by omega
  obtain ⟨date, rfl⟩ := Date.exists_dayNumber_eq inCalendar
  have inMonth : date.yearMonth = month := Date.yearMonth_eq (by omega) (by omega)
  exact ⟨date, (nthWeekday_eq_some_iff counts).mpr ⟨inMonth, isTarget.symm⟩⟩

end Jumps

/-- The weekdays that every month has are those that are counted to their numbers. -/
theorem nthWeekday_number (month : YearMonth) (weekday : Weekday) (ordinal : WeekdayOrdinal) :
    month.nthWeekday weekday ordinal.number =
      .ok (some (month.ordinalWeekday weekday ordinal)) := by
  have tailBound := month.weekdayTail_lt weekday
  have nonempty := month.length_ge
  apply (nthWeekday_eq_some_iff ordinal.number_ne_zero).mpr
  refine ⟨Date.yearMonth_dayAt _ _ _, ?_⟩
  unfold ordinalWeekday dayAt
  cases ordinal with
  | last =>
      rw [countedTo_of_neg (by decide)]
      simp only [ordinalOffset, WeekdayOrdinal.number]
      omega
  | _ =>
      rw [countedTo_of_pos (by decide)]
      simp only [ordinalOffset, WeekdayOrdinal.number]
      omega

theorem four_le_length_weekdayDates (month : YearMonth) (weekday : Weekday) :
    4 ≤ (month.weekdayDates weekday).length := by
  have small := weekday.index_lt
  have enoughDays := month.length_ge
  have counted := length_weekdayDates weekday month
  simp only [weekdaysBefore] at counted
  omega

end YearMonth

/-! ## Months named by numbers -/

/-- A date is named by the numbers of its year, its month and its day. -/
theorem dateOfNumbers_eq (date : Date) :
    dateOfNumbers date.year date.month.number date.day = .ok date := by
  have yearBound : 1 ≤ date.year ∧ date.year ≤ 9999 := date.yearMonth.year_in_calendar
  have monthBound : date.month.number ≤ 12 := date.month.index_lt
  have dayBound := date.day_le_length
  have length := date.yearMonth.length_le
  have fits : (fitsWord date.year && fitsWord date.month.number && fitsWord date.day) = true := by
    simp only [fitsWord, Bool.and_eq_true, decide_eq_true_eq]
    omega
  have isMonth : YearMonth.of? date.year date.month = some date.yearMonth :=
    YearMonth.of?_eq_some_iff.mpr ⟨rfl, rfl⟩
  have isDate : Date.of? date.year date.month date.day = some date :=
    Date.of?_eq_some_iff.mpr ⟨rfl, rfl, rfl⟩
  unfold dateOfNumbers
  rw [fits, Month.ofNumber?_number]
  dsimp only [Bool.not_true]
  rw [if_neg (by decide), isMonth]
  dsimp only
  rw [isDate]

/-- A day of a month is named by the numbers of the month and its own. -/
theorem dateOfNumbers_dayAt
    (month : YearMonth)
    {offset : Nat}
    (within : offset < month.length) :
    dateOfNumbers month.year month.month.number (offset + 1 : Nat) =
      .ok (month.dayAt offset within) := by
  have named := dateOfNumbers_eq (month.dayAt offset within)
  rw [Date.year, Date.month, Date.yearMonth_dayAt, Date.day_dayAt] at named
  exact named

/-- A weekday is counted in the month of a year that numbers name. -/
theorem nthWeekdayOfMonth_eq (month : YearMonth) (weekday : Weekday) (number : Int) :
    nthWeekdayOfMonth month.year month.month.number weekday.index number =
      month.nthWeekday weekday number := by
  unfold nthWeekdayOfMonth
  rw [Weekday.ofIndex?_index]
  dsimp only
  split
  · next isZero =>
      unfold YearMonth.nthWeekday
      rw [if_pos isZero]
  · have isFirst : dateOfNumbers month.year month.month.number 1 = .ok month.firstDay :=
      dateOfNumbers_dayAt month _
    rw [isFirst]
    change month.firstDay.yearMonth.nthWeekday weekday number = _
    rw [Date.yearMonth_firstDay]

/-! ## Places and numbers -/

namespace Date

theorem nthWeekday_weekdayOrdinal (date : Date) :
    date.yearMonth.nthWeekday date.weekday date.weekdayOrdinal = .ok (some date) := by
  have numbered := date.monthStart_add_day
  have positive := date.day_pos
  have fromStart : (0 : Int) < date.weekdayOrdinal := Int.natCast_pos.mpr date.weekdayOrdinal_pos
  apply (YearMonth.nthWeekday_eq_some_iff (ne_of_gt fromStart)).mpr
  rw [YearMonth.countedTo_of_pos fromStart, weekdayOffset_weekday, weekdayOrdinal]
  exact ⟨rfl, by omega⟩

theorem nthWeekday_last_iff (date : Date) :
    date.yearMonth.nthWeekday date.weekday (-1) = .ok (some date) ↔
      date.isLastOfWeekday = true := by
  have numbered := date.monthStart_add_day
  have positive := date.day_pos
  have dayBound := date.day_le_length
  rw [YearMonth.nthWeekday_eq_some_iff (by decide), YearMonth.countedTo_of_neg (by decide),
    weekdayTail_weekday, isLastOfWeekday_iff, and_iff_right rfl]
  omega

end Date

/-- Counting a weekday of a month to a number and taking the place of a date among the equal
weekdays of its month are inverse.  A count finds the date that has one equal weekday less than
the number before it, or behind it for a negative number, and finds none only when the month has
fewer. -/
theorem weekday_counts_and_places_are_inverse :
    (∀ (month : YearMonth) (weekday : Weekday) (number : Int), number ≠ 0 →
      (∀ date,
        nthWeekdayOfMonth month.year month.month.number weekday.index number =
            .ok (some date) ↔
          date.yearMonth = month ∧ date.weekday = weekday ∧
            month.passedOver weekday number date + 1 = number.natAbs) ∧
      ((∀ date,
        nthWeekdayOfMonth month.year month.month.number weekday.index number ≠
            .ok (some date)) →
          (month.weekdayDates weekday).length < number.natAbs)) ∧
    (∀ (month : YearMonth) (weekday : Weekday), ∀ number ∈ [1, 2, 3, 4, -1], ∃ date,
      nthWeekdayOfMonth month.year month.month.number weekday.index number =
        .ok (some date)) ∧
    ∀ date : Date,
      nthWeekdayOfMonth date.year date.month.number date.weekday.index date.weekdayOrdinal =
          .ok (some date) ∧
        (nthWeekdayOfMonth date.year date.month.number date.weekday.index (-1) =
            .ok (some date) ↔
          date.isLastOfWeekday = true) := by
  refine ⟨?_, ?_, ?_⟩
  · intro month weekday number counts
    rw [nthWeekdayOfMonth_eq]
    constructor
    · intro date
      rw [YearMonth.nthWeekday_eq_some_iff counts]
      exact and_congr_right (YearMonth.dayNumber_eq_countedTo_iff counts)
    · intro notFound
      apply Nat.lt_of_not_le
      intro enough
      obtain ⟨date, isFound⟩ := YearMonth.exists_nthWeekday_eq counts enough
      exact notFound date isFound
  · intro month weekday number isOrdinal
    rw [nthWeekdayOfMonth_eq]
    have enough := month.four_le_length_weekdayDates weekday
    apply YearMonth.exists_nthWeekday_eq
    · rintro rfl
      revert isOrdinal
      decide
    · have atMostFour : number.natAbs ≤ 4 := by
        revert isOrdinal number
        decide
      exact Nat.le_trans atMostFour enough
  · intro date
    have counted := nthWeekdayOfMonth_eq date.yearMonth date.weekday
    constructor
    · exact (counted _).trans date.nthWeekday_weekdayOrdinal
    · change nthWeekdayOfMonth date.yearMonth.year date.yearMonth.month.number _ _ = _ ↔ _
      rw [counted]
      exact date.nthWeekday_last_iff

/-- The calendar ends with a fifth Friday.  Four others pass before it in its month, which has no
fifth Saturday: a count to five runs past the end of the calendar. -/
theorem weekday_counts_and_places_are_inverse_calendarEnd :
    let december : YearMonth := ⟨119987, by decide⟩
    nthWeekdayOfMonth 9999 12 4 5 = .ok (some Date.last) ∧
      december.passedOver .friday 5 Date.last + 1 = 5 ∧
      Date.last.isLastOfWeekday = true ∧
      nthWeekdayOfMonth 9999 12 5 5 = .error .outOfCalendar ∧
      (december.weekdayDates .saturday).length < 5 ∧
      ∃ date, nthWeekdayOfMonth 9999 12 5 4 = .ok (some date) := by
  intro december
  have isYear : (december.year : Int) = 9999 := by decide
  have isMonth : (december.month.number : Int) = 12 := by decide
  obtain ⟨counts, ordinals, places⟩ := weekday_counts_and_places_are_inverse
  have fridays := counts december .friday 5 (by decide)
  have saturdays := counts december .saturday 5 (by decide)
  have fourth := ordinals december .saturday 4 (by decide)
  have isLast := (places Date.last).2.mp (by decide +kernel)
  rw [isYear, isMonth] at fridays saturdays fourth
  have fifthFriday : nthWeekdayOfMonth 9999 12 4 5 = .ok (some Date.last) := by
    decide +kernel
  have noFifthSaturday : nthWeekdayOfMonth 9999 12 5 5 = .error .outOfCalendar := by
    decide +kernel
  have tooFew := saturdays.2 fun date isFound => by
    cases noFifthSaturday.symm.trans isFound
  exact ⟨fifthFriday, ((fridays.1 Date.last).mp fifthFriday).2.2, isLast, noFifthSaturday,
    tooFew, fourth⟩

end Calendar
end Cadence
