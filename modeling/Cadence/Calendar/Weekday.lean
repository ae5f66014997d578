/-!
# Days of the week

The seven weekdays in calendar order, counted from Monday, with the names and
short codes that rule texts use.
-/

namespace Cadence
namespace Calendar

/-- A day of the week; weeks start on Monday. -/
inductive Weekday where
  | monday
  | tuesday
  | wednesday
  | thursday
  | friday
  | saturday
  | sunday
  deriving DecidableEq, Inhabited, Repr

namespace Weekday

/-- The weekdays in the order of a week. -/
def all : List Weekday :=
  [monday, tuesday, wednesday, thursday, friday, saturday, sunday]

/-- The place of a weekday in its week: Monday is 0 and Sunday is 6. -/
def index : Weekday → Nat
  | monday => 0
  | tuesday => 1
  | wednesday => 2
  | thursday => 3
  | friday => 4
  | saturday => 5
  | sunday => 6

/-- The weekday that a running count of days, starting on a Monday, falls on. -/
def ofCount (count : Nat) : Weekday :=
  match count % 7 with
  | 0 => monday
  | 1 => tuesday
  | 2 => wednesday
  | 3 => thursday
  | 4 => friday
  | 5 => saturday
  | _ => sunday

/-- The weekday with a given place in the week, when the number is one. -/
def ofIndex? (index : Int) : Option Weekday :=
  if 0 ≤ index ∧ index < 7 then some (ofCount index.toNat) else none

theorem index_lt (weekday : Weekday) : weekday.index < 7 := by
  cases weekday <;> decide

theorem index_ofCount (count : Nat) : (ofCount count).index = count % 7 := by
  have remainderBound : count % 7 < 7 := Nat.mod_lt _ (by decide)
  unfold ofCount
  generalize count % 7 = remainder at remainderBound
  match remainder, remainderBound with
  | 0, _ | 1, _ | 2, _ | 3, _ | 4, _ | 5, _ | 6, _ => rfl

@[simp] theorem ofCount_index (weekday : Weekday) :
    ofCount weekday.index = weekday := by
  cases weekday <;> rfl

@[simp] theorem ofIndex?_index (weekday : Weekday) :
    ofIndex? weekday.index = some weekday := by
  cases weekday <;> rfl

theorem index_injective {left right : Weekday}
    (sameIndex : left.index = right.index) : left = right := by
  rw [← ofCount_index left, sameIndex, ofCount_index]

theorem mem_all (weekday : Weekday) : weekday ∈ all := by
  cases weekday <;> decide

/-- The capital spelling of a weekday in rule texts. -/
def code : Weekday → List Char
  | monday => "MONDAY".toList
  | tuesday => "TUESDAY".toList
  | wednesday => "WEDNESDAY".toList
  | thursday => "THURSDAY".toList
  | friday => "FRIDAY".toList
  | saturday => "SATURDAY".toList
  | sunday => "SUNDAY".toList

/-- The two-letter code of a weekday in rule texts. -/
def shortCode : Weekday → List Char
  | monday => "MO".toList
  | tuesday => "TU".toList
  | wednesday => "WE".toList
  | thursday => "TH".toList
  | friday => "FR".toList
  | saturday => "SA".toList
  | sunday => "SU".toList

/-- The name of a weekday inside a sentence. -/
def name : Weekday → String
  | monday => "Monday"
  | tuesday => "Tuesday"
  | wednesday => "Wednesday"
  | thursday => "Thursday"
  | friday => "Friday"
  | saturday => "Saturday"
  | sunday => "Sunday"

/-- The weekday with exactly this capital spelling. -/
def ofCode? (text : List Char) : Option Weekday :=
  all.find? fun weekday => weekday.code == text

/-- The weekday with exactly this capital spelling or short code. -/
def ofCodeOrShortCode? (text : List Char) : Option Weekday :=
  all.find? fun weekday => weekday.code == text || weekday.shortCode == text

@[simp] theorem ofCode?_code (weekday : Weekday) :
    ofCode? weekday.code = some weekday := by
  cases weekday <;> decide

@[simp] theorem ofCodeOrShortCode?_code (weekday : Weekday) :
    ofCodeOrShortCode? weekday.code = some weekday := by
  cases weekday <;> decide

@[simp] theorem ofCodeOrShortCode?_shortCode (weekday : Weekday) :
    ofCodeOrShortCode? weekday.shortCode = some weekday := by
  cases weekday <;> decide

end Weekday
end Calendar
end Cadence
