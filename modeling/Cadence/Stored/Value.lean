import Cadence.Calendar.Moment
import Cadence.Number.Amount
import Cadence.Number.Binary64
import Cadence.Text.Quoted

/-!
# Stored values

The values that a column of a stored row or a field of a form may hold, and the
two ways to write them: as they are shown in a message, with texts in quotes, and
as plain text.
-/

namespace Cadence
namespace Stored

open Calendar Number Text

/-- A value of a column. -/
inductive Value where
  /-- No value. -/
  | absent
  | bool (truth : Bool)
  | int (number : Int)
  | float (number : Binary64)
  | decimal (amount : Amount)
  | text (content : String)
  | list (items : List Value)
  /-- Named values in the order in which they were given. -/
  | record (entries : List (String × Value))
  | date (day : Date)
  | moment (instant : Moment)

namespace Value

instance : Inhabited Value where
  default := absent

/-- Numbers in parentheses with commas between them, behind a name. -/
def showCall (name : String) (arguments : List (List Char)) : List Char :=
  name.toList ++ '(' :: (", ".toList.intercalate arguments) ++ [')']

/-- An offset from universal time as a number of days and a time of day. -/
def showOffset (offset : Int) : List Char :=
  if offset = 0 then
    "datetime.timezone.utc".toList
  else
    let days := offset / dayMicroseconds
    let rest := (offset % dayMicroseconds).toNat
    let named (name : String) (number : Int) : List (List Char) :=
      if number = 0 then [] else [name.toList ++ '=' :: integerDigits number]
    showCall "datetime.timezone"
      [showCall "datetime.timedelta"
        (named "days" days ++ named "seconds" (rest / 1000000 : Nat) ++
          named "microseconds" (rest % 1000000 : Nat))]

/-- A date as it is shown in a message. -/
def showDate (date : Date) : List Char :=
  showCall "datetime.date"
    [naturalDigits date.year, naturalDigits date.month.number, naturalDigits date.day]

/-- A moment as it is shown in a message; seconds and microseconds at the end are
left out when they are zero. -/
def showMoment (moment : Moment) : List Char :=
  let time := moment.time
  let date := moment.date
  let numbers :=
    [date.year, date.month.number, date.day, time.hours, time.minutes] ++
      (if time.seconds = 0 ∧ time.microseconds = 0 then [] else [time.seconds]) ++
      (if time.microseconds = 0 then [] else [time.microseconds])
  let zone :=
    match moment.offset with
    | none => []
    | some offset => ["tzinfo=".toList ++ showOffset offset]
  showCall "datetime.datetime" (numbers.map naturalDigits ++ zone)

mutual

/-- A value as it is shown in a message. -/
def shown : Value → List Char
  | absent => "None".toList
  | bool true => "True".toList
  | bool false => "False".toList
  | int number => integerDigits number
  | float number => number.text
  | decimal amount => showCall "Decimal" [quote amount.text.toList]
  | text content => quote content.toList
  | list items => '[' :: ", ".toList.intercalate (shownItems items) ++ [']']
  | record entries =>
    '\x7b' :: ", ".toList.intercalate (shownEntries entries) ++ ['\x7d']
  | date day => showDate day
  | moment instant => showMoment instant

/-- The items of a list as they are shown in a message. -/
def shownItems : List Value → List (List Char)
  | [] => []
  | item :: rest => shown item :: shownItems rest

/-- The entries of a record as they are shown in a message. -/
def shownEntries : List (String × Value) → List (List Char)
  | [] => []
  | (name, value) :: rest =>
    (quote name.toList ++ ':' :: ' ' :: shown value) :: shownEntries rest

end

/-- A value as it is shown in a message. -/
def shownText (value : Value) : String :=
  String.ofList value.shown

/-- A time of day with colons, and its microseconds when there are any. -/
def plainClock (hours minutes seconds microseconds : Nat) : List Char :=
  padded 2 hours ++ ':' :: padded 2 minutes ++ ':' :: padded 2 seconds ++
    (if microseconds = 0 then [] else '.' :: padded 6 microseconds)

/-- An offset from universal time with a sign; zero seconds are left out. -/
def plainOffset (offset : Int) : List Char :=
  let time := ClockTime.ofTotal offset.natAbs
  (if offset < 0 then '-' else '+') ::
    (if time.seconds = 0 ∧ time.microseconds = 0 then
      padded 2 time.hours ++ ':' :: padded 2 time.minutes
    else
      plainClock time.hours time.minutes time.seconds time.microseconds)

/-- A moment as plain text. -/
def plainMoment (moment : Moment) : List Char :=
  let time := moment.time
  moment.date.columns ++
    ' ' :: plainClock time.hours time.minutes time.seconds time.microseconds ++
    (match moment.offset with
      | none => []
      | some offset => plainOffset offset)

/-- A value as plain text. -/
def plain : Value → List Char
  | decimal amount => amount.text.toList
  | text content => content.toList
  | date day => day.columns
  | moment instant => plainMoment instant
  | value => value.shown

mutual

/-- Whether every whole number in a value has few enough digits to be written. -/
def isWritable : Value → Bool
  | int number => Number.isWritable number
  | list items => areWritable items
  | record entries => entriesAreWritable entries
  | _ => true

/-- Whether the items of a list can be written. -/
def areWritable : List Value → Bool
  | [] => true
  | item :: rest => isWritable item && areWritable rest

/-- Whether the entries of a record can be written. -/
def entriesAreWritable : List (String × Value) → Bool
  | [] => true
  | (_, value) :: rest => isWritable value && entriesAreWritable rest

end

/-- Whether a value other than a text counts as true: everything but nothing,
false, zero and what is empty. -/
def isTrue : Value → Bool
  | absent => false
  | bool truth => truth
  | int number => number != 0
  | float number => !number.isZero
  | decimal amount => !amount.isZero
  | text content => !content.isEmpty
  | list items => !items.isEmpty
  | record entries => !entries.isEmpty
  | date _ => true
  | moment _ => true

end Value
end Stored
end Cadence
