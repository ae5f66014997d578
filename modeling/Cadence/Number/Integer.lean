import Cadence.Text.Blank
import Cadence.Text.Digit

/-!
# Whole numbers in text

Reading whole numbers with surrounding white space, one sign, digits of any
script and single underscores between digits, and writing them in plain decimal
digits.
-/

namespace Cadence
namespace Number

open Text

/-- The most digits that a whole number may be read from or written with. -/
def digitLimit : Nat :=
  4300

/-- The value that decimal digits spell after the value `spelled`, and their
count.  Single underscores may stand between digits; anything else fails. -/
def readDigits
    (spelled count : Nat) : List Char → Option (Nat × Nat)
  | [] => some (spelled, count)
  | '_' :: digit :: rest =>
    match digitValue? digit with
    | some value => readDigits (10 * spelled + value) (count + 1) rest
    | none => none
  | digit :: rest =>
    match digitValue? digit with
    | some value => readDigits (10 * spelled + value) (count + 1) rest
    | none => none

/-- The value of a digit followed by digits and single underscores, when there
are not too many digits. -/
def readNatural? : List Char → Option Nat
  | [] => none
  | digit :: rest =>
    match digitValue? digit with
    | none => none
    | some value =>
      match readDigits value 1 rest with
      | some (number, count) => if count ≤ digitLimit then some number else none
      | none => none

/-- White space that may surround a whole number: the record separators among
the controls do not count. -/
def isNumberBlank (character : Char) : Bool :=
  isBlank character &&
    !decide (0x1C ≤ character.toNat ∧ character.toNat ≤ 0x1F)

/-- The whole number of digits behind one sign or none. -/
def readSigned? : List Char → Option Int
  | '-' :: digits => (readNatural? digits).map fun (natural : Nat) => -(natural : Int)
  | '+' :: digits => (readNatural? digits).map fun (natural : Nat) => (natural : Int)
  | digits => (readNatural? digits).map fun (natural : Nat) => (natural : Int)

/-- The whole number that a text spells. -/
def readInteger? (text : List Char) : Option Int :=
  readSigned? (trimBy isNumberBlank text)

/-- The decimal digits of a natural number. -/
def naturalDigits (number : Nat) : List Char :=
  Nat.toDigits 10 number

/-- The decimal digits of a whole number, after a minus sign when negative. -/
def integerDigits : Int → List Char
  | .ofNat number => naturalDigits number
  | .negSucc predecessor => '-' :: naturalDigits (predecessor + 1)

/-- A whole number as text. -/
def integerText (number : Int) : String :=
  String.ofList (integerDigits number)

/-- Whether a whole number has few enough digits to be written. -/
def isWritable (number : Int) : Bool :=
  decide ((naturalDigits number.natAbs).length ≤ digitLimit)

/-- The message for a whole number that cannot be written. -/
def unwritableMessage : String :=
  "Exceeds the limit (" ++ integerText digitLimit ++ " digits) for integer string " ++
    "conversion; use sys.set_int_max_str_digits() to increase the limit"

theorem isWritable_iff {number : Int} :
    isWritable number = true ↔ (naturalDigits number.natAbs).length ≤ digitLimit := by
  rw [isWritable, decide_eq_true_eq]

theorem toNat_pos_of_one_le {number : Int} (positive : 1 ≤ number) :
    0 < number.toNat := by
  omega

/-- Reading plain digits adds them to the value spelled before. -/
theorem readDigits_of_isDigit
    {digits : List Char}
    (allDigits : ∀ digit ∈ digits, digit.isDigit = true)
    (spelled count : Nat) :
    readDigits spelled count digits =
      some (Nat.ofDigitChars 10 digits spelled, count + digits.length) := by
  induction digits generalizing spelled count with
  | nil => simp [readDigits, Nat.ofDigitChars]
  | cons digit rest hypothesis =>
      have isDigit := allDigits digit (List.mem_cons_self ..)
      have notUnderscore : digit ≠ '_' := by
        rintro rfl
        exact absurd isDigit (by decide)
      have restDigits : ∀ digit ∈ rest, digit.isDigit = true :=
        fun digit member => allDigits digit (List.mem_cons_of_mem _ member)
      have value := digitValue?_of_isDigit isDigit
      have step := hypothesis restDigits
      cases rest with
      | nil =>
          simp [readDigits, value, Nat.ofDigitChars]
      | cons second rest =>
          rw [readDigits]
          · simp only [value, step, Nat.ofDigitChars, List.foldl_cons,
              List.length_cons]
            congr 2
            omega
          · intro _ _ underscore
            exact absurd underscore notUnderscore

theorem isDigit_of_mem_naturalDigits
    {number : Nat}
    {digit : Char}
    (member : digit ∈ naturalDigits number) : digit.isDigit = true :=
  Nat.isDigit_of_mem_toDigits (by decide) (by decide) member

/-- A number that is not too long is read back from its digits. -/
theorem readNatural?_naturalDigits
    {number : Nat}
    (short : (naturalDigits number).length ≤ digitLimit) :
    readNatural? (naturalDigits number) = some number := by
  have allDigits : ∀ digit ∈ naturalDigits number, digit.isDigit = true :=
    fun _ member => isDigit_of_mem_naturalDigits member
  have value : Nat.ofDigitChars 10 (naturalDigits number) 0 = number := by
    simp [naturalDigits]
  cases digits : naturalDigits number with
  | nil => simp [naturalDigits] at digits
  | cons first rest =>
      rw [digits] at allDigits short value
      have firstDigit := digitValue?_of_isDigit (allDigits first (List.mem_cons_self ..))
      have restDigits := readDigits_of_isDigit
        (fun digit member => allDigits digit (List.mem_cons_of_mem _ member))
        (first.toNat - '0'.toNat) 1
      simp only [Nat.ofDigitChars, List.foldl_cons, Nat.mul_zero, Nat.zero_add] at value
      simp only [List.length_cons] at short
      simp only [readNatural?, firstDigit, restDigits, Nat.ofDigitChars, value]
      rw [if_pos (by omega)]

theorem isNumberBlank_of_isDigit
    {character : Char}
    (digit : character.isDigit = true) : isNumberBlank character = false := by
  simp [isNumberBlank, Text.isBlank_of_isDigit digit]

/-- A whole number whose digits are not too many is read back from its text. -/
theorem readInteger?_integerDigits
    {number : Int}
    (short : (naturalDigits number.natAbs).length ≤ digitLimit) :
    readInteger? (integerDigits number) = some number := by
  have keepsAll : ∀ character ∈ integerDigits number,
      isNumberBlank character = false := by
    intro character member
    cases number with
    | ofNat natural => exact isNumberBlank_of_isDigit (isDigit_of_mem_naturalDigits member)
    | negSucc predecessor =>
        rcases List.mem_cons.mp member with isSign | inDigits
        · exact isSign ▸ by decide
        · exact isNumberBlank_of_isDigit (isDigit_of_mem_naturalDigits inDigits)
  rw [readInteger?, trimBy_eq_self keepsAll]
  unfold readSigned?
  cases number with
  | ofNat natural =>
      have digitsRead : readNatural? (naturalDigits natural) = some natural :=
        readNatural?_naturalDigits short
      have allDigits : ∀ digit ∈ naturalDigits natural, digit.isDigit = true :=
        fun _ member => isDigit_of_mem_naturalDigits member
      simp only [integerDigits]
      split
      · next digits isDigits =>
          have wrong := allDigits '-' (isDigits ▸ List.mem_cons_self ..)
          exact absurd wrong (by decide)
      · next digits isDigits =>
          have wrong := allDigits '+' (isDigits ▸ List.mem_cons_self ..)
          exact absurd wrong (by decide)
      · simp [digitsRead]
  | negSucc predecessor =>
      have digitsRead :
          readNatural? (naturalDigits (predecessor + 1)) = some (predecessor + 1) :=
        readNatural?_naturalDigits short
      simp only [integerDigits, digitsRead]
      rfl

end Number
end Cadence
