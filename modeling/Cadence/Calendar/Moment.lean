import Cadence.Calendar.Columns

/-!
# Moments

A date with a time of day and possibly an offset from universal time, and its
written form: a date in columns, any one character, hours, minutes and seconds
with or without colons, a fraction, and `Z` or a signed offset.  A date alone is
its midnight.
-/

namespace Cadence
namespace Calendar

open Number

/-- A time of day, or an amount of time in the same units. -/
structure ClockTime where
  hours : Nat
  minutes : Nat
  seconds : Nat
  microseconds : Nat
  deriving DecidableEq, Repr

namespace ClockTime

/-- The time at which a day starts. -/
def midnight : ClockTime :=
  ⟨0, 0, 0, 0⟩

/-- Whether a time is one that a clock shows. -/
def isTimeOfDay (time : ClockTime) : Bool :=
  decide (time.hours < 24 ∧ time.minutes < 60 ∧ time.seconds < 60)

/-- All of a time in microseconds. -/
def total (time : ClockTime) : Nat :=
  (time.hours * 3600 + time.minutes * 60 + time.seconds) * 1000000 +
    time.microseconds

/-- The time that a number of microseconds fills. -/
def ofTotal (microseconds : Nat) : ClockTime :=
  let seconds := microseconds / 1000000
  ⟨seconds / 3600, seconds / 60 % 60, seconds % 60, microseconds % 1000000⟩

end ClockTime

/-- The microseconds of a day. -/
def dayMicroseconds : Nat :=
  86400000000

/-- A date and a time of day; the offset from universal time, when there is one,
is in microseconds. -/
structure Moment where
  date : Date
  time : ClockTime
  offset : Option Int
  deriving DecidableEq

/-- Whether nothing that counts is left of a text: it ends, or a null character
ends it. -/
def atEnd : List Char → Bool
  | [] => true
  | character :: _ => character.toNat == 0

/-- The microseconds that digits after a decimal mark spell, and whether the
text ends there.  Digits after the sixth do not count. -/
def readFraction (text : List Char) : Option (Nat × Bool) := do
  let width := min 6 text.length
  let (digits, rest) ← takeColumns width text
  return (digits * Nat.pow 10 (6 - width), atEnd (rest.dropWhile Char.isDigit))

/-- Whether at most one plain character is left of a text. -/
def isDangling (text : List Char) : Bool :=
  text.length ≤ 1 && text.all fun character => decide (character.toNat < 0x80)

/-- The parts of a time that are left, two digits each, then microseconds, and
whether the text ends there.  The first separator decides whether colons stand
between the parts.  Any part may be the last one, with a fraction or with one
more character behind it; behind the last possible part the mark of the fraction
may be the separator. -/
def readParts
    (colons : Option Bool) : Nat → List Char → Option (List Nat × Nat × Bool)
  | 0, text => do
    let (microseconds, ended) ← readFraction text
    return ([], microseconds, ended)
  | left + 1, text => do
    let (part, rest) ← takeColumns 2 text
    if isDangling rest then
      return ([part], 0, atEnd rest)
    let separated := colons.getD (rest.head? == some ':')
    let isMark := rest.head? == some '.' || rest.head? == some ','
    if isMark then
      let (microseconds, ended) ← readFraction (rest.drop 1)
      return ([part], microseconds, ended)
    let partText ← if separated then takeMark ':' rest else some rest
    let (parts, microseconds, ended) ← readParts (some separated) left partText
    return (part :: parts, microseconds, ended)

/-- A time of hours, minutes and seconds, and whether the text ends there. -/
def readClock (text : List Char) : Option (ClockTime × Bool) := do
  let (parts, microseconds, ended) ← readParts none 3 text
  return (⟨parts.getD 0 0, parts.getD 1 0, parts.getD 2 0, microseconds⟩, ended)

/-- Whether a character starts the zone of a time. -/
def startsZone (character : Char) : Bool :=
  character == '+' || character == '-' || character == 'Z'

/-- The offset that the zone of a time spells; less than a day either way.  A
fraction counts only behind a whole second. -/
def readZone : List Char → Option Int
  | 'Z' :: rest => if atEnd rest then some 0 else none
  | sign :: rest =>
    match readClock rest with
    | some (time, true) =>
      if time.total < 1000000 then
        some 0
      else if time.total < dayMicroseconds then
        some (if sign = '-' then -(time.total : Int) else time.total)
      else
        none
    | _ => none
  | [] => none

/-- The time of day and the offset that a text spells. -/
def readTimeOfDay (text : List Char) : Option (ClockTime × Option Int) := do
  let clockText := text.takeWhile fun character => !startsZone character
  let zoneText := text.dropWhile fun character => !startsZone character
  let (time, ended) ← readClock clockText
  if !time.isTimeOfDay then
    none
  else if zoneText.isEmpty then
    if ended then some (time, none) else none
  else
    let offset ← readZone zoneText
    return (time, some offset)

/-- The number of columns before the character that separates a date from a
time.  For a week with more digits behind it the separator is a hyphen when it
can be one, and otherwise an even count of digits belongs to the time. -/
def separatorColumn (text : List Char) : Nat :=
  match text.drop 4 with
  | '-' :: 'W' :: _ =>
    if text[8]? = some '-' then
      match text[10]? with
      | some character => if character.isDigit then 8 else 10
      | none => 10
    else
      8
  | '-' :: _ => 10
  | 'W' :: _ =>
    let digitsEnd := 7 + ((text.drop 7).takeWhile Char.isDigit).length
    if digitsEnd < 9 then digitsEnd
    else if digitsEnd % 2 = 0 then 7
    else 8
  | _ => 8

/-- The moment that a text spells; a text without a separator has no time. -/
def Moment.read? (text : List Char) : Option Moment := do
  let column := separatorColumn text
  let date ← readDateColumns column text
  if text.length ≤ column then
    return ⟨date, .midnight, none⟩
  else
    let (time, offset) ← readTimeOfDay (text.drop (column + 1))
    return ⟨date, time, offset⟩

end Calendar
end Cadence
