import Cadence.Text.Ranges

/-!
# White space

The white space characters, and texts without it at their ends.
-/

namespace Cadence
namespace Text

/-- The white space characters: the controls that move the position or separate
records, and the spaces and line separators of all scripts. -/
def blankRanges : List (Nat × Nat) := [
  (0x9, 0xD), (0x1C, 0x20), (0x85, 0x85), (0xA0, 0xA0), (0x1680, 0x1680),
  (0x2000, 0x200A), (0x2028, 0x2029), (0x202F, 0x202F), (0x205F, 0x205F),
  (0x3000, 0x3000)]

/-- Whether a character is white space. -/
def isBlank (character : Char) : Bool :=
  inRanges blankRanges character

/-- Whether a text is empty or only white space. -/
def isBlankText (text : List Char) : Bool :=
  text.all isBlank

/-- A text without the characters of a class at its start. -/
def trimStart (drop : Char → Bool) (text : List Char) : List Char :=
  text.dropWhile drop

/-- A text without the characters of a class at its end. -/
def trimEnd (drop : Char → Bool) (text : List Char) : List Char :=
  (text.reverse.dropWhile drop).reverse

/-- A text without the characters of a class at both ends. -/
def trimBy (drop : Char → Bool) (text : List Char) : List Char :=
  trimEnd drop (trimStart drop text)

/-- A text without characters of a class stays as it is. -/
theorem trimBy_eq_self
    {drop : Char → Bool}
    {text : List Char}
    (keepsAll : ∀ character ∈ text, drop character = false) :
    trimBy drop text = text := by
  have keepsEnd {kept : List Char}
      (kept_keeps : ∀ character ∈ kept, drop character = false) :
      kept.dropWhile drop = kept := by
    cases kept with
    | nil => rfl
    | cons first rest =>
        simp [kept_keeps first (List.mem_cons_self ..)]
  have keepsReverse : ∀ character ∈ text.reverse, drop character = false :=
    fun character member => keepsAll character (List.mem_reverse.mp member)
  rw [trimBy, trimStart, keepsEnd keepsAll, trimEnd, keepsEnd keepsReverse,
    List.reverse_reverse]

/-- A text without white space at both ends. -/
def trim (text : List Char) : List Char :=
  trimBy isBlank text

theorem isBlank_of_isDigit
    {character : Char}
    (digit : character.isDigit = true) : isBlank character = false := by
  have bounds : 48 ≤ character.toNat ∧ character.toNat ≤ 57 := by
    simpa [Char.isDigit, UInt32.le_iff_toNat_le] using digit
  simp only [isBlank, inRanges, blankRanges, List.any_cons, List.any_nil]
  simp only [Bool.or_eq_false_iff, decide_eq_false_iff_not, and_true]
  omega

end Text
end Cadence
