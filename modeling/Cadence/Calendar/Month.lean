/-!
# Months of the year

The twelve months, their numbers, names and lengths, and the days of a year
that pass before each of them.
-/

namespace Cadence
namespace Calendar

/-- A month of the year. -/
inductive Month where
  | january
  | february
  | march
  | april
  | may
  | june
  | july
  | august
  | september
  | october
  | november
  | december
  deriving DecidableEq, Inhabited, Repr

namespace Month

/-- The months in the order of a year. -/
def all : List Month :=
  [january, february, march, april, may, june,
    july, august, september, october, november, december]

/-- The place of a month in its year, counted from 0. -/
def index : Month → Nat
  | january => 0
  | february => 1
  | march => 2
  | april => 3
  | may => 4
  | june => 5
  | july => 6
  | august => 7
  | september => 8
  | october => 9
  | november => 10
  | december => 11

/-- The customary number of a month, from 1 to 12. -/
def number (month : Month) : Nat :=
  month.index + 1

/-- The month that a running count of months, starting in a January, falls
on. -/
def ofCount (count : Nat) : Month :=
  match count % 12 with
  | 0 => january
  | 1 => february
  | 2 => march
  | 3 => april
  | 4 => may
  | 5 => june
  | 6 => july
  | 7 => august
  | 8 => september
  | 9 => october
  | 10 => november
  | _ => december

/-- The month with a given number, when the number is one of 1 to 12. -/
def ofNumber? (number : Int) : Option Month :=
  if 1 ≤ number ∧ number ≤ 12 then some (ofCount (number - 1).toNat) else none

theorem mem_all (month : Month) : month ∈ all := by
  cases month <;> decide

theorem index_lt (month : Month) : month.index < 12 := by
  cases month <;> decide

theorem index_ofCount (count : Nat) : (ofCount count).index = count % 12 := by
  have remainderBound : count % 12 < 12 := Nat.mod_lt _ (by decide)
  unfold ofCount
  generalize count % 12 = remainder at remainderBound
  match remainder, remainderBound with
  | 0, _ | 1, _ | 2, _ | 3, _ | 4, _ | 5, _
  | 6, _ | 7, _ | 8, _ | 9, _ | 10, _ | 11, _ => rfl

@[simp] theorem ofCount_index (month : Month) : ofCount month.index = month := by
  cases month <;> rfl

@[simp] theorem ofNumber?_number (month : Month) :
    ofNumber? month.number = some month := by
  cases month <;> rfl

theorem index_injective {left right : Month}
    (sameIndex : left.index = right.index) : left = right := by
  rw [← ofCount_index left, sameIndex, ofCount_index]

/-- The English name of a month. -/
def name : Month → String
  | january => "January"
  | february => "February"
  | march => "March"
  | april => "April"
  | may => "May"
  | june => "June"
  | july => "July"
  | august => "August"
  | september => "September"
  | october => "October"
  | november => "November"
  | december => "December"

/-- The number of days of a month, in a leap year or in a common one. -/
def length (leap : Bool) : Month → Nat
  | january => 31
  | february => if leap then 29 else 28
  | march => 31
  | april => 30
  | may => 31
  | june => 30
  | july => 31
  | august => 31
  | september => 30
  | october => 31
  | november => 30
  | december => 31

/-- The days of a year that pass before a month begins. -/
def daysBefore (leap : Bool) : Month → Nat
  | january => 0
  | february => 31
  | march => if leap then 60 else 59
  | april => if leap then 91 else 90
  | may => if leap then 121 else 120
  | june => if leap then 152 else 151
  | july => if leap then 182 else 181
  | august => if leap then 213 else 212
  | september => if leap then 244 else 243
  | october => if leap then 274 else 273
  | november => if leap then 305 else 304
  | december => if leap then 335 else 334

/-- The month that holds a given day of the year, counted from 0. -/
def containing (leap : Bool) (dayOfYear : Nat) : Month :=
  if dayOfYear < february.daysBefore leap then january
  else if dayOfYear < march.daysBefore leap then february
  else if dayOfYear < april.daysBefore leap then march
  else if dayOfYear < may.daysBefore leap then april
  else if dayOfYear < june.daysBefore leap then may
  else if dayOfYear < july.daysBefore leap then june
  else if dayOfYear < august.daysBefore leap then july
  else if dayOfYear < september.daysBefore leap then august
  else if dayOfYear < october.daysBefore leap then september
  else if dayOfYear < november.daysBefore leap then october
  else if dayOfYear < december.daysBefore leap then november
  else december

theorem length_ge (leap : Bool) (month : Month) : 28 ≤ month.length leap := by
  cases month <;> cases leap <;> decide

theorem length_le (leap : Bool) (month : Month) : month.length leap ≤ 31 := by
  cases month <;> cases leap <;> decide

/-- The days before the next month are those before this one and its own. -/
theorem daysBefore_succ
    (leap : Bool)
    (month : Month)
    (notLast : month.index < 11) :
    (ofCount (month.index + 1)).daysBefore leap =
      month.daysBefore leap + month.length leap := by
  cases month <;> cases leap <;> first | rfl | (revert notLast; decide)

/-- A day of a year lies between the start and the end of its month. -/
theorem containing_bounds
    (leap : Bool)
    {dayOfYear : Nat}
    (inYear : dayOfYear < if leap then 366 else 365) :
    (containing leap dayOfYear).daysBefore leap ≤ dayOfYear ∧
      dayOfYear < (containing leap dayOfYear).daysBefore leap +
        (containing leap dayOfYear).length leap := by
  fun_cases containing leap dayOfYear <;> cases leap <;>
    simp only [daysBefore, length, Bool.false_eq_true, if_true, if_false] at * <;>
    omega

end Month
end Calendar
end Cadence
