import Cadence.Proofs.Text.Plain
import Cadence.Recurrence.RuleText

/-!
# Written parts

A part is plain when its value is not empty and has only capital letters, digits and minus
signs.  The text of some parts begins with the first letter of a key, which is not the letter
that the mark in front of a rule text begins with.
-/

namespace Cadence
namespace Recurrence

open Text

/-! ## Looking up keys -/

theorem Parts.value?_eq_none_iff {parts : Parts} {key : Key} :
    parts.value? key = none ↔ key ∉ parts.map Prod.fst := by
  unfold Parts.value?
  rw [Option.map_eq_none_iff, List.find?_eq_none]
  constructor
  · intro noneFound member
    obtain ⟨part, isPart, sameKey⟩ := List.mem_map.mp member
    exact noneFound part isPart (beq_iff_eq.mpr sameKey)
  · intro absent part isPart sameKey
    exact absent (List.mem_map.mpr ⟨part, isPart, beq_iff_eq.mp sameKey⟩)

theorem Parts.value?_append_of_notMem
    {first second : Parts}
    {key : Key}
    (absent : key ∉ first.map Prod.fst) :
    Parts.value? (first ++ second) key = second.value? key := by
  have notFound := Parts.value?_eq_none_iff.mpr absent
  unfold Parts.value? at notFound ⊢
  rw [Option.map_eq_none_iff] at notFound
  rw [List.find?_append, notFound, Option.none_or]

/-! ## Single parts -/

theorem Key.isPlain_spelling (key : Key) :
    ∀ character ∈ key.spelling, isPlain character = true := by
  rw [← List.all_eq_true]
  cases key <;> decide

/-- A part whose value survives trimming, capitalizing and splitting. -/
def IsPlainPart (part : Key × List Char) : Prop :=
  part.2 ≠ [] ∧ ∀ character ∈ part.2, isPlain character = true

/-! ## Whole texts -/

/-- The mark in front of a rule text begins with a letter that no key begins with. -/
theorem Key.exists_spelling_eq_cons (key : Key) :
    ∃ first rest, key.spelling = first :: rest ∧ first ≠ 'R' := by
  cases key <;> exact ⟨_, _, rfl, by decide⟩

theorem exists_joinWith_eq_cons
    {parts : Parts}
    (nonempty : parts ≠ []) :
    ∃ first rest, joinWith ';' (parts.map writePart) = first :: rest ∧
      isPlain first = true ∧ first ≠ 'R' := by
  cases parts with
  | nil => exact absurd rfl nonempty
  | cons part parts =>
      obtain ⟨rest, isText⟩ :=
        exists_joinWith_cons ';' (writePart part) (parts.map writePart)
      obtain ⟨first, others, isSpelling, notMark⟩ := part.1.exists_spelling_eq_cons
      refine ⟨first, others ++ '=' :: part.2 ++ rest, ?_, ?_, notMark⟩
      · rw [List.map_cons, isText, writePart, isSpelling]
        rfl
      · exact part.1.isPlain_spelling first (isSpelling ▸ List.mem_cons_self ..)

theorem isBlankText_joinWith
    {parts : Parts}
    (nonempty : parts ≠ []) :
    isBlankText (joinWith ';' (parts.map writePart)) = false := by
  obtain ⟨first, rest, starts, plain, _⟩ := exists_joinWith_eq_cons nonempty
  rw [starts, isBlankText, List.all_cons, isBlank_of_isPlain plain, Bool.false_and]

end Recurrence
end Cadence
