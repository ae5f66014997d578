import Cadence.Calendar.YearMonth
import Cadence.Number.Integer

/-!
# Dates in fixed columns

Dates written with four digits for the year and two for the month and the day,
with or without hyphens, or as a week of a year and a day of the week.
-/

namespace Cadence
namespace Calendar

open Number

/-- The number that the first `count` characters of a text spell in plain
digits, and the text after them. -/
def takeColumns (count : Nat) (text : List Char) : Option (Nat × List Char) :=
  let columns := text.take count
  if columns.length = count ∧ columns.all Char.isDigit then
    some (Nat.ofDigitChars 10 columns 0, text.drop count)
  else
    none

/-- The text after a given first character. -/
def takeMark (mark : Char) : List Char → Option (List Char)
  | [] => none
  | character :: rest => if character = mark then some rest else none

/-- A number in at least `width` digits, with zeros in front. -/
def padded (width number : Nat) : List Char :=
  let digits := naturalDigits number
  List.replicate (width - digits.length) '0' ++ digits

/-- The day number of the Monday that starts week 1 of a year: the week that
holds the first Thursday. -/
def firstWeekStart (year : Nat) : Nat :=
  let newYear := daysInYears (year - 1)
  let weekdayIndex := newYear % 7
  newYear - weekdayIndex + if 3 < weekdayIndex then 7 else 0

/-- Whether a year has 53 weeks: it starts on a Thursday, or on a Wednesday with
a leap day. -/
def hasLongWeeks (year : Nat) : Bool :=
  let weekdayIndex := daysInYears (year - 1) % 7
  weekdayIndex == 3 || (weekdayIndex == 2 && isLeapYear year)

/-- The date of a year, a week and a day of the week, all counted from 1. -/
def Date.ofWeek? (year week day : Nat) : Option Date :=
  let weeks := if hasLongWeeks year then 53 else 52
  if 1 ≤ year ∧ 1 ≤ week ∧ week ≤ weeks ∧ 1 ≤ day ∧ day ≤ 7 then
    let dayNumber := firstWeekStart year + 7 * (week - 1) + (day - 1)
    if inCalendar : dayNumber < calendarLength then
      some ⟨dayNumber, inCalendar⟩
    else
      none
  else
    none

/-- The date of a year, a month number and a day number. -/
def Date.ofNumbers? (year month day : Nat) : Option Date :=
  (Month.ofNumber? month).bind fun month => Date.of? year month day

/-- The week and the day of the week in the `length` columns of a text that are
left; the day is the first one when no column is left for it. -/
def readWeekColumns
    (year : Nat)
    (hyphenated : Bool)
    (length : Nat)
    (text : List Char) : Option Date := do
  let (week, afterWeek) ← takeColumns 2 text
  if length ≤ 2 then
    Date.ofWeek? year week 1
  else
    let dayText ← if hyphenated then takeMark '-' afterWeek else some afterWeek
    let (day, _) ← takeColumns 1 dayText
    Date.ofWeek? year week day

/-- The month and the day in the columns of a text. -/
def readMonthColumns
    (year : Nat)
    (hyphenated : Bool)
    (text : List Char) : Option Date := do
  let (month, afterMonth) ← takeColumns 2 text
  let dayText ← if hyphenated then takeMark '-' afterMonth else some afterMonth
  let (day, _) ← takeColumns 2 dayText
  Date.ofNumbers? year month day

/-- The date in the first `length` columns of a text.  Columns after the date
are not looked at. -/
def readDateColumns (length : Nat) (text : List Char) : Option Date := do
  let (year, afterYear) ← takeColumns 4 text
  let hyphenated := afterYear.head? == some '-'
  let afterMark := if hyphenated then afterYear.drop 1 else afterYear
  match afterMark with
  | 'W' :: weekText =>
    readWeekColumns year hyphenated (length - (if hyphenated then 6 else 5)) weekText
  | monthText => readMonthColumns year hyphenated monthText

/-- The date that a text of 7, 8 or 10 bytes starts with. -/
def readColumnDate? (text : List Char) : Option Date :=
  let length := (String.ofList text).utf8ByteSize
  if length = 7 ∨ length = 8 ∨ length = 10 then
    readDateColumns length text
  else
    none

/-- A date as year, month and day with hyphens between them. -/
def Date.columns (date : Date) : List Char :=
  padded 4 date.year ++ '-' :: padded 2 date.month.number ++
    '-' :: padded 2 date.day

/-- A date as text. -/
def Date.text (date : Date) : String :=
  String.ofList date.columns

end Calendar
end Cadence
