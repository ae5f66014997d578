import Cadence.Text.Blank
import Cadence.Text.LetterCase

/-!
# Frequencies

The four units in which a schedule repeats, and names of units that nothing can
be computed for.  A name is read without white space around it and in capitals.
-/

namespace Cadence
namespace Recurrence

open Text

/-- A unit in which a schedule repeats. -/
inductive Frequency where
  | daily
  | weekly
  | monthly
  | yearly
  deriving DecidableEq, Inhabited, Repr

namespace Frequency

/-- The frequencies from the shortest to the longest. -/
def all : List Frequency :=
  [daily, weekly, monthly, yearly]

/-- The capital spelling of a frequency in rule texts. -/
def code : Frequency → List Char
  | daily => "DAILY".toList
  | weekly => "WEEKLY".toList
  | monthly => "MONTHLY".toList
  | yearly => "YEARLY".toList

/-- The frequency as the first word of a sentence. -/
def title : Frequency → String
  | daily => "Daily"
  | weekly => "Weekly"
  | monthly => "Monthly"
  | yearly => "Yearly"

/-- The frequency in small letters. -/
def small : Frequency → String
  | daily => "daily"
  | weekly => "weekly"
  | monthly => "monthly"
  | yearly => "yearly"

/-- The word for several units. -/
def units : Frequency → String
  | daily => "days"
  | weekly => "weeks"
  | monthly => "months"
  | yearly => "years"

/-- The most days that one unit may have. -/
def longestUnit : Frequency → Nat
  | daily => 1
  | weekly => 7
  | monthly => 31
  | yearly => 366

/-- The frequency with exactly this capital spelling. -/
def ofCode? (name : List Char) : Option Frequency :=
  all.find? fun frequency => frequency.code == name

@[simp] theorem ofCode?_code (frequency : Frequency) :
    ofCode? frequency.code = some frequency := by
  cases frequency <;> decide

theorem code_of_ofCode?
    {name : List Char}
    {frequency : Frequency}
    (named : ofCode? name = some frequency) : frequency.code = name := by
  have found := List.find?_some named
  simpa using found

end Frequency

/-- A name that is the spelling of no frequency. -/
structure ForeignFrequency where
  /-- The name in capitals, without white space around it. -/
  name : List Char
  /-- No frequency has this spelling. -/
  unlisted : Frequency.ofCode? name = none
  deriving DecidableEq

/-- A frequency, or a name that is none. -/
def readFrequency (text : List Char) : Frequency ⊕ ForeignFrequency :=
  let name := upper (trim text)
  match listing : Frequency.ofCode? name with
  | some frequency => .inl frequency
  | none => .inr ⟨name, listing⟩

/-- Nothing can be computed for a frequency of this name. -/
structure UnsupportedFrequency where
  name : List Char
  deriving DecidableEq

end Recurrence
end Cadence
