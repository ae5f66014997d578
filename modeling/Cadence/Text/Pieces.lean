/-!
# Texts in pieces

Cutting a text at every separator, or at the first one, and joining pieces with
a separator between them.
-/

namespace Cadence
namespace Text

/-- The pieces of a text between the separators; a text without a separator is
one piece. -/
def splitOn (separator : Char) : List Char → List (List Char)
  | [] => [[]]
  | character :: rest =>
    if character = separator then
      [] :: splitOn separator rest
    else
      match splitOn separator rest with
      | [] => [[character]]
      | piece :: pieces => (character :: piece) :: pieces

/-- The pieces joined with a separator between neighbours. -/
def joinWith (separator : Char) : List (List Char) → List Char
  | [] => []
  | [piece] => piece
  | piece :: pieces => piece ++ separator :: joinWith separator pieces

/-- The text before the first separator and the text after it. -/
def cutAt (separator : Char) : List Char → Option (List Char × List Char)
  | [] => none
  | character :: rest =>
    if character = separator then
      some ([], rest)
    else
      (cutAt separator rest).map fun cut => (character :: cut.1, cut.2)

theorem splitOn_ne_nil (separator : Char) (text : List Char) :
    splitOn separator text ≠ [] := by
  cases text with
  | nil => simp [splitOn]
  | cons character rest =>
      unfold splitOn
      split
      · simp
      · split <;> simp

/-- Joining the pieces of a text gives it back. -/
theorem joinWith_splitOn (separator : Char) (text : List Char) :
    joinWith separator (splitOn separator text) = text := by
  induction text with
  | nil => rfl
  | cons character rest hypothesis =>
      have nonempty := splitOn_ne_nil separator rest
      unfold splitOn
      generalize splitOn separator rest = pieces at hypothesis nonempty ⊢
      match pieces, nonempty with
      | piece :: pieces, _ =>
        split
        · next isSeparator => simp [joinWith, hypothesis, isSeparator]
        · cases pieces <;> simp_all [joinWith]

/-- A text without the separator is one piece. -/
theorem splitOn_of_notMem
    {separator : Char}
    {text : List Char}
    (absent : separator ∉ text) : splitOn separator text = [text] := by
  induction text with
  | nil => rfl
  | cons character rest hypothesis =>
      simp only [List.mem_cons, not_or] at absent
      simp [splitOn, hypothesis absent.2, Ne.symm absent.1]

/-- A piece without the separator is cut off whole. -/
theorem splitOn_append
    {separator : Char}
    {piece : List Char}
    (absent : separator ∉ piece)
    (rest : List Char) :
    splitOn separator (piece ++ separator :: rest) =
      piece :: splitOn separator rest := by
  induction piece with
  | nil => simp [splitOn]
  | cons character piece hypothesis =>
      simp only [List.mem_cons, not_or] at absent
      simp [splitOn, hypothesis absent.2, Ne.symm absent.1]

/-- The text before a separator that it does not contain is cut off whole. -/
theorem cutAt_append
    {separator : Char}
    {head : List Char}
    (absent : separator ∉ head)
    (rest : List Char) :
    cutAt separator (head ++ separator :: rest) = some (head, rest) := by
  induction head with
  | nil => simp [cutAt]
  | cons character head hypothesis =>
      simp only [List.mem_cons, not_or] at absent
      simp [cutAt, hypothesis absent.2, Ne.symm absent.1]

theorem cutAt_eq_none_iff {separator : Char} {text : List Char} :
    cutAt separator text = none ↔ separator ∉ text := by
  induction text with
  | nil => simp [cutAt]
  | cons character rest hypothesis =>
      unfold cutAt
      split
      · next isSeparator => simp [isSeparator]
      · next notSeparator => simp [hypothesis, Ne.symm notSeparator]

end Text
end Cadence
