import Cadence.Text.Blank
import Cadence.Text.LetterCase
import Cadence.Text.Pieces

/-!
# Plain texts

Basic capital letters, decimal digits and the minus sign are neither white space nor
separators, and they are their own capital forms.  Texts made of them come back
unchanged from trimming and capitalizing, and joined pieces come back from splitting.
-/

namespace Cadence
namespace Text

/-- Whether a character is a basic capital letter, a decimal digit or a minus sign. -/
def isPlain (character : Char) : Bool :=
  character.isUpper || character.isDigit || character == '-'

theorem toNat_of_isPlain {character : Char} (plain : isPlain character = true) :
    character.toNat = 45 ∨
      (48 ≤ character.toNat ∧ character.toNat ≤ 57) ∨
      (65 ≤ character.toNat ∧ character.toNat ≤ 90) := by
  unfold isPlain at plain
  simp only [Bool.or_eq_true, beq_iff_eq] at plain
  rcases plain with (isUpper | isDigit) | rfl
  · right; right
    have bounds : 'A'.val ≤ character.val ∧ character.val ≤ 'Z'.val :=
      of_decide_eq_true isUpper
    simpa [UInt32.le_iff_toNat_le] using bounds
  · right; left
    simpa [Char.isDigit, UInt32.le_iff_toNat_le] using isDigit
  · left
    rfl

theorem isBlank_of_isPlain {character : Char} (plain : isPlain character = true) :
    isBlank character = false := by
  have bounds := toNat_of_isPlain plain
  simp only [isBlank, inRanges, blankRanges, List.any_cons, List.any_nil]
  simp only [Bool.or_eq_false_iff, decide_eq_false_iff_not, and_true]
  omega

theorem isPlain_of_isDigit {character : Char} (digit : character.isDigit = true) :
    isPlain character = true := by
  simp [isPlain, digit]

/-- A plain character is its own capital form. -/
theorem upperChar_of_isPlain {character : Char} (plain : isPlain character = true) :
    upperChar character = [character] := by
  have bounds := toNat_of_isPlain plain
  have isCapital : character.toUpper = character := by
    unfold Char.toUpper
    rw [dif_neg]
    intro isSmall
    simp [UInt32.le_iff_toNat_le] at isSmall
    omega
  unfold upperChar
  rw [if_pos (by omega), isCapital]

/-- A plain text is its own capital form. -/
theorem upper_eq_self
    {text : List Char}
    (plain : ∀ character ∈ text, isPlain character = true) :
    upper text = text := by
  induction text with
  | nil => rfl
  | cons character rest hypothesis =>
      have restPlain : ∀ other ∈ rest, isPlain other = true :=
        fun other member => plain other (List.mem_cons_of_mem _ member)
      have step := hypothesis restPlain
      unfold upper at step ⊢
      rw [List.flatMap_cons, step, upperChar_of_isPlain (plain _ (List.mem_cons_self ..))]
      rfl

/-- A plain text has no white space at its ends. -/
theorem trim_eq_self
    {text : List Char}
    (plain : ∀ character ∈ text, isPlain character = true) :
    trim text = text :=
  trimBy_eq_self fun character member => isBlank_of_isPlain (plain character member)

theorem notMem_of_isPlain
    {text : List Char}
    {separator : Char}
    (plain : ∀ character ∈ text, isPlain character = true)
    (notPlain : isPlain separator = false) : separator ∉ text := by
  intro member
  have contradictory := plain separator member
  rw [notPlain] at contradictory
  cases contradictory

/-- A joined text starts with its first piece. -/
theorem exists_joinWith_cons
    (separator : Char)
    (piece : List Char)
    (pieces : List (List Char)) :
    ∃ rest, joinWith separator (piece :: pieces) = piece ++ rest := by
  cases pieces with
  | nil => exact ⟨[], (List.append_nil piece).symm⟩
  | cons next pieces => exact ⟨separator :: joinWith separator (next :: pieces), rfl⟩

/-- Pieces without the separator come back from the text they are joined to. -/
theorem splitOn_joinWith
    {separator : Char}
    {pieces : List (List Char)}
    (nonempty : pieces ≠ [])
    (absent : ∀ piece ∈ pieces, separator ∉ piece) :
    splitOn separator (joinWith separator pieces) = pieces := by
  induction pieces with
  | nil => exact absurd rfl nonempty
  | cons piece pieces hypothesis =>
      have pieceAbsent := absent piece (List.mem_cons_self ..)
      cases pieces with
      | nil => exact splitOn_of_notMem pieceAbsent
      | cons next pieces =>
          have restAbsent : ∀ other ∈ next :: pieces, separator ∉ other :=
            fun other member => absent other (List.mem_cons_of_mem _ member)
          have rest := hypothesis (List.cons_ne_nil next pieces) restAbsent
          rw [joinWith, splitOn_append pieceAbsent, rest]
          exact List.cons_ne_nil next pieces

end Text
end Cadence
