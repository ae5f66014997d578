import Cadence.Proofs.Number.DigitCount
import Cadence.Proofs.Text.Capitals

/-!
# How whole numbers are spelled

The syntax of whole numbers, which knows no bound on their length.  The reader understands
exactly the spellings with few enough digits, leading zeros included, as the numbers that they
spell.
-/

namespace Cadence
namespace Number

open Text

/-! ## The syntax -/

/-- A text spells a natural number: decimal digits of any script, with single underscores
between them. -/
inductive SpellsNatural : List Char → Nat → Prop where
  | digit {character : Char} {value : Nat}
    (isDigit : digitValue? character = some value) :
    SpellsNatural [character] value
  | append {text : List Char} {number : Nat} {character : Char} {value : Nat}
    (spelled : SpellsNatural text number)
    (isDigit : digitValue? character = some value) :
    SpellsNatural (text ++ [character]) (10 * number + value)
  | appendMarked {text : List Char} {number : Nat} {character : Char} {value : Nat}
    (spelled : SpellsNatural text number)
    (isDigit : digitValue? character = some value) :
    SpellsNatural (text ++ ['_', character]) (10 * number + value)

/-- A text spells a whole number behind one sign or none. -/
inductive SpellsSigned : List Char → Int → Prop where
  | unsigned {text : List Char} {number : Nat} (spelled : SpellsNatural text number) :
    SpellsSigned text number
  | plus {text : List Char} {number : Nat} (spelled : SpellsNatural text number) :
    SpellsSigned ('+' :: text) number
  | minus {text : List Char} {number : Nat} (spelled : SpellsNatural text number) :
    SpellsSigned ('-' :: text) (-number)

/-- A text spells a whole number, with white space around it. -/
def SpellsInteger (text : List Char) (number : Int) : Prop :=
  ∃ left body right, text = left ++ body ++ right ∧
    (∀ character ∈ left, isNumberBlank character = true) ∧
    (∀ character ∈ right, isNumberBlank character = true) ∧
    SpellsSigned body number

/-- How many digits a text has. -/
def digitCount (text : List Char) : Nat :=
  text.countP fun character => (digitValue? character).isSome

/-! ## Digits and other characters -/

/-- The digits of a script stand apart from all white space. -/
theorem digits_apart_from_blanks :
    ∀ start ∈ zeroDigits, ∀ range ∈ blankRanges, start + 10 ≤ range.1 ∨ range.2 < start := by
  decide

theorem isBlank_of_digitValue?
    {character : Char}
    {value : Nat}
    (isDigit : digitValue? character = some value) : isBlank character = false := by
  unfold digitValue? at isDigit
  split at isDigit
  · next basic => exact isBlank_of_isDigit basic
  · split at isDigit
    · cases isDigit
    · obtain ⟨start, found, _⟩ := Option.map_eq_some_iff.mp isDigit
      have within := List.find?_some found
      rw [decide_eq_true_eq] at within
      rw [isBlank, inRanges, List.any_eq_false]
      intro range isRange
      have apart := digits_apart_from_blanks start (List.mem_of_find?_eq_some found) range isRange
      rw [decide_eq_true_eq]
      omega

theorem isNumberBlank_of_digitValue?
    {character : Char}
    {value : Nat}
    (isDigit : digitValue? character = some value) : isNumberBlank character = false := by
  rw [isNumberBlank, isBlank_of_digitValue? isDigit, Bool.false_and]

theorem digitValue?_of_isNumberBlank
    {character : Char}
    (blank : isNumberBlank character = true) : digitValue? character = none := by
  cases isDigit : digitValue? character with
  | none => rfl
  | some value =>
      rw [isNumberBlank_of_digitValue? isDigit] at blank
      cases blank

theorem digitCount_cons_of_digitValue?
    {character : Char}
    {value : Nat}
    (isDigit : digitValue? character = some value)
    (rest : List Char) : digitCount (character :: rest) = digitCount rest + 1 :=
  List.countP_cons_of_pos (by rw [isDigit, Option.isSome_some])

theorem digitCount_cons_of_eq_none
    {character : Char}
    (noDigit : digitValue? character = none)
    (rest : List Char) : digitCount (character :: rest) = digitCount rest :=
  List.countP_cons_of_neg (by rw [noDigit, Option.isSome_none]; exact Bool.false_ne_true)

theorem digitCount_of_isNumberBlank
    {text : List Char}
    (blank : ∀ character ∈ text, isNumberBlank character = true) : digitCount text = 0 := by
  rw [digitCount, List.countP_eq_zero]
  intro character member
  rw [digitValue?_of_isNumberBlank (blank character member)]
  exact Bool.false_ne_true

/-- White space around a text has no digits. -/
theorem digitCount_surrounded
    {left text right : List Char}
    (leftBlank : ∀ character ∈ left, isNumberBlank character = true)
    (rightBlank : ∀ character ∈ right, isNumberBlank character = true) :
    digitCount (left ++ text ++ right) = digitCount text := by
  have noneLeft := digitCount_of_isNumberBlank leftBlank
  have noneRight := digitCount_of_isNumberBlank rightBlank
  unfold digitCount at noneLeft noneRight ⊢
  rw [List.countP_append, List.countP_append, noneLeft, noneRight, Nat.zero_add, Nat.add_zero]

/-! ## Reading digits -/

theorem digitValue?_underscore : digitValue? '_' = none := by
  decide

theorem ne_underscore_of_digitValue?
    {character : Char}
    {value : Nat}
    (isDigit : digitValue? character = some value) : character ≠ '_' := by
  rintro rfl
  rw [digitValue?_underscore] at isDigit
  cases isDigit

theorem readDigits_cons
    {character : Char}
    {value : Nat}
    (isDigit : digitValue? character = some value)
    (spelled count : Nat)
    (rest : List Char) :
    readDigits spelled count (character :: rest) =
      readDigits (10 * spelled + value) (count + 1) rest := by
  rw [readDigits, isDigit]
  intro _ _ isMark
  exact absurd isMark (ne_underscore_of_digitValue? isDigit)

theorem readDigits_marked
    {character : Char}
    {value : Nat}
    (isDigit : digitValue? character = some value)
    (spelled count : Nat)
    (rest : List Char) :
    readDigits spelled count ('_' :: character :: rest) =
      readDigits (10 * spelled + value) (count + 1) rest := by
  rw [readDigits, isDigit]

/-- Digits are read one after another. -/
theorem readDigits_append
    {first : List Char}
    {spelled count number total : Nat}
    (read : readDigits spelled count first = some (number, total))
    (second : List Char) :
    readDigits spelled count (first ++ second) = readDigits number total second := by
  fun_induction readDigits spelled count first with
  | case1 =>
      cases read
      rfl
  | case2 spelled count character rest value isDigit hypothesis =>
      rw [List.cons_append, List.cons_append, readDigits_marked isDigit]
      exact hypothesis read
  | case3 => cases read
  | case4 spelled count character rest _ value isDigit hypothesis =>
      rw [List.cons_append, readDigits_cons isDigit]
      exact hypothesis read
  | case5 => cases read

/-- What is read behind the spelling of a number spells the number together with it. -/
theorem SpellsNatural.of_readDigits
    {front rest : List Char}
    {spelled count number total : Nat}
    (spells : SpellsNatural front spelled)
    (read : readDigits spelled count rest = some (number, total)) :
    SpellsNatural (front ++ rest) number ∧ total = count + digitCount rest := by
  fun_induction readDigits spelled count rest generalizing front with
  | case1 =>
      cases read
      rw [List.append_nil]
      exact ⟨spells, rfl⟩
  | case2 spelled count character rest value isDigit hypothesis =>
      obtain ⟨spellsAll, isTotal⟩ := hypothesis (spells.appendMarked isDigit) read
      rw [List.append_assoc] at spellsAll
      refine ⟨spellsAll, ?_⟩
      rw [isTotal, digitCount_cons_of_eq_none digitValue?_underscore,
        digitCount_cons_of_digitValue? isDigit]
      omega
  | case3 => cases read
  | case4 spelled count character rest _ value isDigit hypothesis =>
      obtain ⟨spellsAll, isTotal⟩ := hypothesis (spells.append isDigit) read
      rw [List.append_assoc] at spellsAll
      refine ⟨spellsAll, ?_⟩
      rw [isTotal, digitCount_cons_of_digitValue? isDigit]
      omega
  | case5 => cases read

/-- The spelling of a number starts with a digit, and its digits are read as the number. -/
theorem SpellsNatural.exists_readDigits
    {text : List Char}
    {number : Nat}
    (spells : SpellsNatural text number) :
    ∃ first rest value total, text = first :: rest ∧ digitValue? first = some value ∧
      readDigits value 1 rest = some (number, total) := by
  induction spells with
  | digit isDigit => exact ⟨_, [], _, 1, rfl, isDigit, rfl⟩
  | append spelled isDigit hypothesis =>
      obtain ⟨first, rest, value, total, rfl, firstDigit, read⟩ := hypothesis
      refine ⟨first, rest ++ _, value, total + 1, rfl, firstDigit, ?_⟩
      rw [readDigits_append read, readDigits_cons isDigit, readDigits]
  | appendMarked spelled isDigit hypothesis =>
      obtain ⟨first, rest, value, total, rfl, firstDigit, read⟩ := hypothesis
      refine ⟨first, rest ++ _, value, total + 1, rfl, firstDigit, ?_⟩
      rw [readDigits_append read, readDigits_marked isDigit, readDigits]

/-- The spelling of a number has no white space at its ends. -/
theorem SpellsNatural.ends
    {text : List Char}
    {number : Nat}
    (spells : SpellsNatural text number) :
    text ≠ [] ∧ (∀ first ∈ text.head?, isNumberBlank first = false) ∧
      ∀ last ∈ text.getLast?, isNumberBlank last = false := by
  refine ⟨?_, ?_, ?_⟩
  · cases spells <;> simp
  · obtain ⟨first, rest, value, _, rfl, isDigit, _⟩ := spells.exists_readDigits
    rintro _ ⟨⟩
    exact isNumberBlank_of_digitValue? isDigit
  · intro last isLast
    cases spells with
    | digit isDigit =>
        cases isLast
        exact isNumberBlank_of_digitValue? isDigit
    | append spelled isDigit =>
        rw [List.getLast?_concat] at isLast
        cases isLast
        exact isNumberBlank_of_digitValue? isDigit
    | appendMarked spelled isDigit =>
        rw [List.getLast?_append_cons] at isLast
        cases isLast
        exact isNumberBlank_of_digitValue? isDigit

/-- A zero in front does not count. -/
theorem SpellsNatural.zero_cons
    {text : List Char}
    {number : Nat}
    (spells : SpellsNatural text number) : SpellsNatural ('0' :: text) number := by
  have isZero : digitValue? '0' = some 0 := by decide
  induction spells with
  | digit isDigit =>
      have behindZero := (SpellsNatural.digit isZero).append isDigit
      rw [Nat.mul_zero, Nat.zero_add] at behindZero
      exact behindZero
  | append _ isDigit hypothesis => exact hypothesis.append isDigit
  | appendMarked _ isDigit hypothesis => exact hypothesis.appendMarked isDigit

theorem SpellsNatural.zeros_append
    {text : List Char}
    {number : Nat}
    (spells : SpellsNatural text number)
    (zeros : Nat) : SpellsNatural (List.replicate zeros '0' ++ text) number := by
  induction zeros with
  | zero => exact spells
  | succ zeros hypothesis => exact hypothesis.zero_cons

theorem digitCount_zeros_append (zeros : Nat) (text : List Char) :
    digitCount (List.replicate zeros '0' ++ text) = zeros + digitCount text := by
  have isZero : (digitValue? '0').isSome = true := by decide
  unfold digitCount
  rw [List.countP_append, List.countP_replicate, if_pos isZero]

/-- A natural number is read from its spellings with few enough digits. -/
theorem readNatural?_eq_some_iff {text : List Char} {number : Nat} :
    readNatural? text = some number ↔
      SpellsNatural text number ∧ digitCount text ≤ digitLimit := by
  constructor
  · intro isRead
    unfold readNatural? at isRead
    split at isRead
    · cases isRead
    · split at isRead
      · cases isRead
      · next isDigit =>
          split at isRead
          · next read =>
              split at isRead
              · next short =>
                  cases isRead
                  obtain ⟨spells, isTotal⟩ := (SpellsNatural.digit isDigit).of_readDigits read
                  rw [digitCount_cons_of_digitValue? isDigit, Nat.add_comm, ← isTotal]
                  exact ⟨spells, short⟩
              · cases isRead
          · cases isRead
  · rintro ⟨spells, short⟩
    obtain ⟨first, rest, value, total, rfl, isDigit, read⟩ := spells.exists_readDigits
    have isTotal := ((SpellsNatural.digit isDigit).of_readDigits read).2
    rw [digitCount_cons_of_digitValue? isDigit, Nat.add_comm, ← isTotal] at short
    simp only [readNatural?, isDigit, read, if_pos short]

/-! ## Reading whole numbers -/

theorem SpellsSigned.ends
    {body : List Char}
    {number : Int}
    (spells : SpellsSigned body number) :
    body ≠ [] ∧ (∀ first ∈ body.head?, isNumberBlank first = false) ∧
      ∀ last ∈ body.getLast?, isNumberBlank last = false := by
  have behind {sign : Char} {text : List Char} {number : Nat}
      (keeps : isNumberBlank sign = false) (spelled : SpellsNatural text number) :
      sign :: text ≠ [] ∧ (∀ first ∈ (sign :: text).head?, isNumberBlank first = false) ∧
        ∀ last ∈ (sign :: text).getLast?, isNumberBlank last = false := by
    obtain ⟨nonempty, _, keepsLast⟩ := spelled.ends
    refine ⟨List.cons_ne_nil _ _, ?_, ?_⟩
    · rintro _ ⟨⟩
      exact keeps
    · rw [List.getLast?_cons_of_ne_nil nonempty]
      exact keepsLast
  cases spells with
  | unsigned spelled => exact spelled.ends
  | plus spelled => exact behind (by decide) spelled
  | minus spelled => exact behind (by decide) spelled

/-- A number behind a sign or none is read from its spellings with few enough digits. -/
theorem readSigned?_eq_some_iff {body : List Char} {number : Int} :
    readSigned? body = some number ↔
      SpellsSigned body number ∧ digitCount body ≤ digitLimit := by
  have signs : digitValue? '-' = none ∧ digitValue? '+' = none := by decide
  constructor
  · intro isRead
    unfold readSigned? at isRead
    split at isRead
    · obtain ⟨natural, isNatural, rfl⟩ := Option.map_eq_some_iff.mp isRead
      obtain ⟨spells, short⟩ := readNatural?_eq_some_iff.mp isNatural
      exact ⟨.minus spells, (digitCount_cons_of_eq_none signs.1 _).symm ▸ short⟩
    · obtain ⟨natural, isNatural, rfl⟩ := Option.map_eq_some_iff.mp isRead
      obtain ⟨spells, short⟩ := readNatural?_eq_some_iff.mp isNatural
      exact ⟨.plus spells, (digitCount_cons_of_eq_none signs.2 _).symm ▸ short⟩
    · obtain ⟨natural, isNatural, rfl⟩ := Option.map_eq_some_iff.mp isRead
      obtain ⟨spells, short⟩ := readNatural?_eq_some_iff.mp isNatural
      exact ⟨.unsigned spells, short⟩
  · rintro ⟨spells, short⟩
    cases spells with
    | unsigned spelled =>
        have isNatural := readNatural?_eq_some_iff.mpr ⟨spelled, short⟩
        obtain ⟨first, rest, value, _, rfl, isDigit, _⟩ := spelled.exists_readDigits
        unfold readSigned?
        split
        · next isMinus =>
            cases isMinus
            rw [signs.1] at isDigit
            cases isDigit
        · next isPlus =>
            cases isPlus
            rw [signs.2] at isDigit
            cases isDigit
        · rw [isNatural]
          rfl
    | plus spelled =>
        rw [digitCount_cons_of_eq_none signs.2] at short
        rw [readSigned?, readNatural?_eq_some_iff.mpr ⟨spelled, short⟩]
        rfl
    | minus spelled =>
        rw [digitCount_cons_of_eq_none signs.1] at short
        rw [readSigned?, readNatural?_eq_some_iff.mpr ⟨spelled, short⟩]
        rfl

/-- A whole number is read from its spellings with few enough digits. -/
theorem readInteger?_eq_some_iff {text : List Char} {number : Int} :
    readInteger? text = some number ↔
      SpellsInteger text number ∧ digitCount text ≤ digitLimit := by
  rw [readInteger?, readSigned?_eq_some_iff]
  constructor
  · rintro ⟨spells, short⟩
    obtain ⟨left, right, split, leftBlank, rightBlank⟩ :=
      @exists_surrounding isNumberBlank text
    refine ⟨⟨left, _, right, split, leftBlank, rightBlank, spells⟩, ?_⟩
    rw [split, digitCount_surrounded leftBlank rightBlank]
    exact short
  · rintro ⟨⟨left, body, right, rfl, leftBlank, rightBlank, spells⟩, short⟩
    obtain ⟨nonempty, keepsFirst, keepsLast⟩ := spells.ends
    rw [trimBy_surrounded nonempty keepsFirst keepsLast leftBlank rightBlank]
    rw [digitCount_surrounded leftBlank rightBlank] at short
    exact ⟨spells, short⟩

end Number
end Cadence
