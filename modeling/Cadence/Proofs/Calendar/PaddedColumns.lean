import Cadence.Calendar.Spelling
import Mathlib.Data.List.TakeWhile
import Mathlib.Tactic.IntervalCases

/-!
# Padded columns

Numbers that are padded to a fixed number of columns are read from these columns, whatever comes
behind them, and so are the dates and times of day that are written in columns.
-/

namespace Cadence
namespace Calendar

open Number Text

/-! ## Padded numbers -/

theorem isDigit_of_mem_padded
    {width number : Nat}
    {digit : Char}
    (isMember : digit ∈ padded width number) : digit.isDigit = true := by
  rcases List.mem_append.mp isMember with inFront | inDigits
  · rw [List.eq_of_mem_replicate inFront]
    decide
  · exact isDigit_of_mem_naturalDigits inDigits

theorem padded_ne_nil (width number : Nat) : padded width number ≠ [] :=
  List.append_ne_nil_of_right_ne_nil _ Nat.toDigits_ne_nil

/-- The zeros in front make no difference to the value. -/
theorem ofDigitChars_padded (width number : Nat) :
    Nat.ofDigitChars 10 (padded width number) 0 = number := by
  rw [padded, Nat.ofDigitChars_append, Nat.ofDigitChars_replicate_zero, Nat.mul_zero]
  exact Nat.ofDigitChars_toDigits (by decide) (by decide)

section Padded

variable {width number : Nat} (positive : 0 < width) (short : number < 10 ^ width)
include positive short

theorem length_padded : (padded width number).length = width := by
  have atMostWidth : (naturalDigits number).length ≤ width :=
    (Nat.length_toDigits_le_iff (by decide) positive).mpr short
  rw [padded, List.length_append, List.length_replicate, Nat.sub_add_cancel atMostWidth]

/-- A number that is padded to columns is read from these columns. -/
theorem takeColumns_padded (rest : List Char) :
    takeColumns width (padded width number ++ rest) = some (number, rest) := by
  have isWide := length_padded positive short
  have isStart : (padded width number ++ rest).take width = padded width number :=
    List.take_left' isWide
  have isRest : (padded width number ++ rest).drop width = rest := List.drop_left' isWide
  have allDigits : (padded width number).all Char.isDigit = true :=
    List.all_eq_true.mpr fun _ isMember => isDigit_of_mem_padded isMember
  unfold takeColumns
  simp only [isStart, isRest, isWide, allDigits, ofDigitChars_padded, and_self, if_true]

end Padded

theorem month_number_lt (month : Month) : month.number < 10 ^ 2 :=
  Nat.lt_of_le_of_lt month.index_lt (by decide)

theorem exists_padded_year {year : Nat} (shortYear : year < 10 ^ 4) :
    ∃ first second third fourth, padded 4 year = [first, second, third, fourth] := by
  match padded 4 year, length_padded (by decide) shortYear with
  | [first, second, third, fourth], _ => exact ⟨first, second, third, fourth, rfl⟩

theorem exists_padded_day {day : Nat} (shortDay : day < 10 ^ 2) :
    ∃ tens units, padded 2 day = [tens, units] := by
  match padded 2 day, length_padded (by decide) shortDay with
  | [tens, units], _ => exact ⟨tens, units, rfl⟩

/-- A year is read from its four digits. -/
theorem readYear?_padded {year : Nat} (shortYear : year < 10 ^ 4) :
    readYear? (padded 4 year) = some year := by
  have isValue := ofDigitChars_padded 4 year
  have allDigits : ∀ digit ∈ padded 4 year, digit.isDigit = true :=
    fun _ isMember => isDigit_of_mem_padded isMember
  obtain ⟨thousands, hundreds, tens, units, digits⟩ := exists_padded_year shortYear
  rw [digits] at isValue allDigits ⊢
  simp only [List.forall_mem_cons] at allDigits
  obtain ⟨first, second, third, fourth, _⟩ := allDigits
  simp only [Nat.ofDigitChars, List.foldl_cons, List.foldl_nil] at isValue
  simp only [readYear?, List.mapM_cons, List.mapM_nil, digitValue?_of_isDigit, first, second,
    third, fourth, Option.pure_def, Option.bind_eq_bind, Option.bind_some, Option.some.injEq]
  omega

theorem takeDay_padded
    {day : Nat}
    (positive : 1 ≤ day)
    (atMost : day ≤ 31)
    (rest : List Char) : takeDay (padded 2 day ++ rest) = some (day, rest) := by
  interval_cases day <;> rfl

theorem takeMonth_padded (month : Month) (rest : List Char) :
    takeMonth (padded 2 month.number ++ '/' :: rest) = some (month.number, '/' :: rest) := by
  cases month <;> rfl

@[simp] theorem takeMark_cons (mark : Char) (rest : List Char) :
    takeMark mark (mark :: rest) = some rest :=
  if_pos rfl

/-- Two parts of a text that do not start with white space are parted by one blank. -/
theorem takeBlanks_blank_cons
    {text : List Char}
    (starts : ∀ first ∈ text.head?, isBlank first = false) :
    takeBlanks (' ' :: text) = some text := by
  have isRest : text.dropWhile isBlank = text := by
    cases text with
    | nil => rfl
    | cons first text => exact List.dropWhile_cons_of_neg (by simp [starts first rfl])
  simp [takeBlanks, isRest, show isBlank ' ' = true by decide]

@[simp] theorem ofNumbers?_number (year day : Nat) (month : Month) :
    Date.ofNumbers? year month.number day = Date.of? year month day := by
  simp [Date.ofNumbers?]

/-! ## Columns -/

/-- A year, a month and a day number in columns with one mark between them. -/
def markedColumns (mark : Char) (year : Nat) (month : Month) (day : Nat) : List Char :=
  padded 4 year ++ mark :: padded 2 month.number ++ mark :: padded 2 day

/-- The hours, minutes and seconds of a time in columns with colons between them. -/
def ClockTime.columns (time : ClockTime) : List Char :=
  padded 2 time.hours ++ ':' :: padded 2 time.minutes ++ ':' :: padded 2 time.seconds

section Columns

variable {year day : Nat} {month : Month} (shortYear : year < 10 ^ 4)
include shortYear

/-- The columns of a date are read whatever comes behind them: behind the first hyphen stands no
letter that a week would start with. -/
theorem readDateColumns_hyphens (shortDay : day < 10 ^ 2) (length : Nat) (rest : List Char) :
    readDateColumns length (markedColumns '-' year month day ++ rest) =
      Date.of? year month day := by
  have noWeek (tail weekText : List Char) :
      padded 2 month.number ++ tail ≠ 'W' :: weekText := by
    cases month <;> exact fun same => absurd (List.head_eq_of_cons_eq same) (by decide)
  simp only [markedColumns, List.append_assoc, List.cons_append, readDateColumns,
    takeColumns_padded (by decide) shortYear, Option.bind_eq_bind, Option.bind_some,
    List.head?_cons, BEq.rfl, if_true, List.drop_succ_cons, List.drop_zero]
  split
  · next weekText isWeek => exact absurd isWeek (noWeek _ weekText)
  · simp only [readMonthColumns, takeColumns_padded (by decide) (month_number_lt month),
      takeColumns_padded (by decide) shortDay, Option.bind_eq_bind, Option.bind_some, if_true,
      takeMark_cons, ofNumbers?_number]

/-- Slashes are no part of the columns of a date. -/
theorem readDateColumns_slashes (length : Nat) :
    readDateColumns length (markedColumns '/' year month day) = none := by
  simp only [markedColumns, List.append_assoc, List.cons_append, readDateColumns,
    takeColumns_padded (by decide) shortYear, Option.bind_eq_bind, Option.bind_some]
  simp [readMonthColumns, takeColumns]

theorem separatorColumn_hyphens (rest : List Char) :
    separatorColumn (markedColumns '-' year month day ++ rest) = 10 := by
  have isRest : (markedColumns '-' year month day ++ rest).drop 4 =
      '-' :: padded 2 month.number ++ '-' :: padded 2 day ++ rest := by
    simp only [markedColumns, List.append_assoc]
    exact List.drop_left' (length_padded (by decide) shortYear)
  unfold separatorColumn
  rw [isRest]
  cases month <;> rfl

end Columns

/-! ## Times of day -/

theorem readParts_last {part : Nat} (short : part < 10 ^ 2) (colons : Option Bool) (left : Nat) :
    readParts colons (left + 1) (padded 2 part) = some ([part], 0, true) := by
  have taken := takeColumns_padded (by decide) short []
  rw [List.append_nil] at taken
  have nothingLeft : isDangling [] = true := rfl
  simp only [readParts, taken, nothingLeft, Option.bind_eq_bind, Option.bind_some, if_true]
  rfl

/-- A colon parts the first part of a time from the others. -/
theorem readParts_colon
    {part : Nat}
    (short : part < 10 ^ 2)
    {colons : Option Bool}
    (separated : colons.getD true = true)
    (left : Nat)
    {rest : List Char}
    (nonempty : rest ≠ []) :
    readParts colons (left + 1) (padded 2 part ++ ':' :: rest) =
      (readParts (some true) left rest).map fun read => (part :: read.1, read.2) := by
  have taken := takeColumns_padded (by decide) short (':' :: rest)
  have notDangling : isDangling (':' :: rest) = false := by
    have positive : 0 < rest.length := List.length_pos_iff.mpr nonempty
    simp [isDangling, show ¬ rest.length + 1 ≤ 1 by omega]
  have noMark : (some ':' == some '.' || some ':' == some ',') = false := by decide
  simp only [readParts, taken, notDangling, Option.bind_eq_bind, Option.bind_some,
    List.head?_cons, BEq.rfl, separated, noMark, Bool.false_eq_true, if_true, if_false,
    takeMark_cons]
  cases readParts (some true) left rest <;> rfl

/-- Neither digits nor colons start a zone. -/
theorem startsZone_of_mem_columns
    {time : ClockTime}
    {character : Char}
    (isMember : character ∈ time.columns) : startsZone character = false := by
  have ofDigit (digit : character.isDigit = true) : startsZone character = false := by
    unfold startsZone
    simp only [Bool.or_eq_false_iff, beq_eq_false_iff_ne]
    refine ⟨⟨?_, ?_⟩, ?_⟩ <;> rintro rfl <;> exact absurd digit (by decide)
  simp only [ClockTime.columns, List.mem_append, List.mem_cons] at isMember
  rcases isMember with (isHours | rfl | isMinutes) | rfl | isSeconds
  · exact ofDigit (isDigit_of_mem_padded isHours)
  · decide
  · exact ofDigit (isDigit_of_mem_padded isMinutes)
  · decide
  · exact ofDigit (isDigit_of_mem_padded isSeconds)

/-- Behind the first colon the other parts of a time are read behind colons too. -/
theorem readClock_columns
    {time : ClockTime}
    (isTime : time.isTimeOfDay = true) :
    readClock time.columns = some (⟨time.hours, time.minutes, time.seconds, 0⟩, true) := by
  have bounds : time.hours < 24 ∧ time.minutes < 60 ∧ time.seconds < 60 :=
    of_decide_eq_true isTime
  have seconds : readParts (some true) 1 (padded 2 time.seconds) =
      some ([time.seconds], 0, true) := readParts_last (by omega) (some true) 0
  simp only [readClock, ClockTime.columns, List.append_assoc, List.cons_append]
  rw [readParts_colon (by omega) rfl _ (by simp),
    readParts_colon (by omega) rfl _ (padded_ne_nil _ _), seconds]
  rfl

theorem readTimeOfDay_columns {time : ClockTime} (isTime : time.isTimeOfDay = true) :
    readTimeOfDay time.columns = some (⟨time.hours, time.minutes, time.seconds, 0⟩, none) := by
  have allClock : time.columns.takeWhile (fun character => !startsZone character) =
      time.columns := by
    rw [List.takeWhile_eq_self_iff]
    intro character isMember
    rw [startsZone_of_mem_columns isMember, Bool.not_false]
  have noZone : time.columns.dropWhile (fun character => !startsZone character) = [] := by
    rw [List.dropWhile_eq_nil_iff]
    intro character isMember
    rw [startsZone_of_mem_columns isMember, Bool.not_false]
  have sameTime : (⟨time.hours, time.minutes, time.seconds, 0⟩ : ClockTime).isTimeOfDay = true :=
    isTime
  simp [readTimeOfDay, allClock, noZone, readClock_columns isTime, sameTime]

/-- The columns of a date are a moment, alone or with a time of day behind them. -/
theorem map_date_read?_hyphens
    {year day : Nat}
    (month : Month)
    (shortYear : year < 10 ^ 4)
    (shortDay : day < 10 ^ 2)
    {rest : List Char}
    (isRest : rest = [] ∨ ∃ time : ClockTime,
      time.isTimeOfDay = true ∧ rest = 'T' :: time.columns) :
    (Moment.read? (markedColumns '-' year month day ++ rest)).map Moment.date =
      Date.of? year month day := by
  have isWide : (markedColumns '-' year month day).length = 10 := by
    simp [markedColumns, length_padded (by decide) shortYear,
      length_padded (by decide) (month_number_lt month), length_padded (by decide) shortDay]
  simp only [Moment.read?, separatorColumn_hyphens shortYear,
    readDateColumns_hyphens shortYear shortDay, List.length_append, isWide]
  rcases isRest with rfl | ⟨time, isTime, rfl⟩
  · cases Date.of? year month day <;> rfl
  · have isClock : (markedColumns '-' year month day ++ 'T' :: time.columns).drop (10 + 1) =
        time.columns := by
      rw [List.append_cons]
      exact List.drop_left' (by rw [List.length_append, isWide, List.length_singleton])
    have isLonger : ¬ 10 + ('T' :: time.columns).length ≤ 10 := by
      rw [List.length_cons]
      omega
    simp only [isClock, readTimeOfDay_columns isTime, if_neg isLonger]
    cases Date.of? year month day <;> rfl

end Calendar
end Cadence
