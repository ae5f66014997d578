import Cadence.Calendar.Moment

/-!
# Spellings of dates

The ways in which a stored text may spell a date: columns, a moment whose time is
dropped, a day with an English month name and a year, or a year, a month and a
day with slashes.  The first spelling that fits decides.
-/

namespace Cadence
namespace Calendar

open Text

/-- The day number that a text starts with, and the text after it: at most 31,
in one digit, in two, or in one digit after a space. -/
def takeDay : List Char → Option (Nat × List Char)
  | '3' :: '0' :: rest => some (30, rest)
  | '3' :: '1' :: rest => some (31, rest)
  | '0' :: unit :: rest =>
    if unit.isDigit ∧ unit ≠ '0' then some (unit.toNat - 48, rest) else none
  | ' ' :: unit :: rest =>
    if unit.isDigit ∧ unit ≠ '0' then some (unit.toNat - 48, rest) else none
  | ten :: rest =>
    if ten.isDigit ∧ ten ≠ '0' then
      match rest with
      | unit :: afterUnit =>
        match digitValue? unit with
        | some value =>
          if ten = '1' ∨ ten = '2' then
            some (10 * (ten.toNat - 48) + value, afterUnit)
          else
            some (ten.toNat - 48, rest)
        | none => some (ten.toNat - 48, rest)
      | [] => some (ten.toNat - 48, rest)
    else
      none
  | [] => none

/-- The month number that a text starts with, and the text after it: at most 12,
in one digit or in two. -/
def takeMonth : List Char → Option (Nat × List Char)
  | '1' :: '0' :: rest => some (10, rest)
  | '1' :: '1' :: rest => some (11, rest)
  | '1' :: '2' :: rest => some (12, rest)
  | '0' :: unit :: rest =>
    if unit.isDigit ∧ unit ≠ '0' then some (unit.toNat - 48, rest) else none
  | unit :: rest =>
    if unit.isDigit ∧ unit ≠ '0' then some (unit.toNat - 48, rest) else none
  | [] => none

/-- The year that a text of exactly four digits of any script spells. -/
def readYear? (text : List Char) : Option Nat :=
  match text.mapM digitValue? with
  | some [thousands, hundreds, tens, units] =>
    some (1000 * thousands + 100 * hundreds + 10 * tens + units)
  | _ => none

/-- The text after at least one white space character. -/
def takeBlanks : List Char → Option (List Char)
  | [] => none
  | character :: rest =>
    if isBlank character then some (rest.dropWhile isBlank) else none

/-- The name of a month in small letters. -/
def Month.smallName (month : Month) : List Char :=
  month.name.toList.map Char.toLower

/-- The first three letters of the name of a month in small letters. -/
def Month.shortName (month : Month) : List Char :=
  month.smallName.take 3

/-- The text after a word, in any mixture of capital and small letters. -/
def takeWord (word text : List Char) : Option (List Char) :=
  if (text.take word.length).map Char.toLower = word then
    some (text.drop word.length)
  else
    none

/-- The month that a text starts to name, and the text after the name. -/
def takeMonthName
    (nameOf : Month → List Char)
    (text : List Char) : Option (Month × List Char) :=
  Month.all.findSome? fun month =>
    (takeWord (nameOf month) text).map fun rest => (month, rest)

/-- A day, the name of a month and a year with white space between them. -/
def readNamedDate?
    (nameOf : Month → List Char)
    (text : List Char) : Option Date := do
  let (day, afterDay) ← takeDay text
  let monthText ← takeBlanks afterDay
  let (month, afterMonth) ← takeMonthName nameOf monthText
  let yearText ← takeBlanks afterMonth
  let year ← readYear? yearText
  Date.of? year month day

/-- A year, a month and a day with slashes between them. -/
def readSlashedDate? (text : List Char) : Option Date := do
  let year ← readYear? (text.take 4)
  let monthText ← takeMark '/' (text.drop 4)
  let (month, afterMonth) ← takeMonth monthText
  let dayText ← takeMark '/' afterMonth
  let (day, rest) ← takeDay dayText
  if rest.isEmpty then Date.ofNumbers? year month day else none

/-- The date that a text spells, with any white space around it. -/
def Date.read? (text : List Char) : Option Date :=
  let trimmed := trim text
  readColumnDate? trimmed
    <|> (Moment.read? trimmed).map Moment.date
    <|> readNamedDate? Month.smallName trimmed
    <|> readNamedDate? Month.shortName trimmed
    <|> readSlashedDate? trimmed

end Calendar
end Cadence
