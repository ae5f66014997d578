import Cadence.Proofs.Recurrence.Pieces

/-!
# Reading back typed parts

A part may be typed with its value in any letter case and with white space around it.  Parts with
different keys whose values are not blank and hold no semicolon come back from the text that they
are joined to, with their values trimmed and in capitals: trimming the text reaches only the ends
of its pieces, and the mark in front of a rule text begins with a letter that no key begins with.
-/

namespace Cadence
namespace Recurrence

open Text

/-- A part as it is read, with its value in capitals and without white space around it. -/
def capitalPart (part : Key × List Char) : Key × List Char :=
  (part.1, upper (trim part.2))

/-- A part whose value is typed: something that holds no semicolon. -/
structure IsTypedPart (part : Key × List Char) : Prop where
  valued : isBlankText part.2 = false
  whole : ';' ∉ part.2

/-- A plain part is read as it is. -/
theorem capitalPart_of_isPlainPart
    {part : Key × List Char}
    (plain : IsPlainPart part) : capitalPart part = part := by
  unfold capitalPart
  rw [trim_eq_self plain.2, upper_eq_self plain.2]

/-- A part that is plain when it is read is typed. -/
theorem isTypedPart_of_capitalPart
    {part : Key × List Char}
    (plain : IsPlainPart (capitalPart part)) : IsTypedPart part where
  valued := by
    rw [← isEmpty_upper_trim, List.isEmpty_eq_false_iff]
    exact plain.1
  whole := by
    intro member
    have inCapitals : ';' ∈ upper (trim part.2) := mem_upper_trim (by decide) member
    exact notMem_of_isPlain plain.2 (by decide) inCapitals

/-! ## Single pieces -/

/-- The piece that a part is written as assigns its value to its key. -/
theorem part?_writePart
    {part : Key × List Char}
    (valued : isBlankText part.2 = false) : part? (writePart part) = some (capitalPart part) := by
  have keyPlain := part.1.isPlain_spelling
  have named : isBlankText part.1.spelling = false := by
    cases part.1 <;> rfl
  have assigned : IsAssignment (writePart part) (upper (trim part.1.spelling))
      (upper (trim part.2)) :=
    .intro rfl (notMem_of_isPlain keyPlain (by decide)) named valued
  rw [trim_eq_self keyPlain, upper_eq_self keyPlain] at assigned
  exact part?_eq_some_iff.mpr assigned

theorem semicolon_notMem_writePart
    {part : Key × List Char}
    (whole : ';' ∉ part.2) : ';' ∉ writePart part := by
  have keyWhole : ';' ∉ part.1.spelling := notMem_of_isPlain part.1.isPlain_spelling (by decide)
  simp [writePart, keyWhole, whole]

/-- Pieces that differ in the white space around them are read alike. -/
theorem addPieces_congr
    {first second : List (List Char)}
    (sameTrimmed : first.map trim = second.map trim)
    (parts : Parts) : addPieces parts first = addPieces parts second := by
  induction first generalizing second parts with
  | nil =>
      rw [List.map_nil, eq_comm, List.map_eq_nil_iff] at sameTrimmed
      rw [sameTrimmed]
  | cons piece first hypothesis =>
      cases second with
      | nil => cases sameTrimmed
      | cons other second =>
          rw [List.map_cons, List.map_cons, List.cons.injEq] at sameTrimmed
          have sameStep : addPiece parts piece = addPiece parts other := by
            unfold addPiece
            rw [sameTrimmed.1]
          rw [addPieces, addPieces, sameStep]
          cases addPiece parts other with
          | error fault => rfl
          | ok extended => exact hypothesis sameTrimmed.2 extended

/-! ## Whole texts -/

/-- A text that begins with another plain letter than the mark is read from its start. -/
theorem withoutPrefix_eq_trim
    {first : Char}
    {rest : List Char}
    (plain : isPlain first = true)
    (notMark : first ≠ 'R') : withoutPrefix (first :: rest) = trim (first :: rest) := by
  have trimmed : trim (first :: rest) = first :: trimEnd isBlank rest :=
    trimBy_append_cons (isBlank_of_isPlain plain) [] rest
  unfold withoutPrefix
  simp only [trimmed, upper_cons, upperChar_of_isPlain plain]
  rw [if_neg]
  intro isMark
  have sameHead := congrArg List.head? isMark
  exact notMark (Option.some.inj sameHead)

/-- Typed parts with different keys are read back from their text. -/
theorem readParts_joinWith
    {parts : Parts}
    (nonempty : parts ≠ [])
    (typed : ∀ part ∈ parts, IsTypedPart part)
    (distinct : (parts.map Prod.fst).Nodup) :
    readParts (joinWith ';' (parts.map writePart)) = .ok (parts.map capitalPart) := by
  obtain ⟨first, rest, starts, firstPlain, notMark⟩ := exists_joinWith_eq_cons nonempty
  have separated : ∀ piece ∈ parts.map writePart, ';' ∉ piece := by
    intro piece isPiece
    obtain ⟨part, isPart, rfl⟩ := List.mem_map.mp isPiece
    exact semicolon_notMem_writePart (typed part isPart).whole
  have piecesNonempty : parts.map writePart ≠ [] := by
    simpa using nonempty
  have isPart : ∀ part ∈ parts, part? (writePart part) = some (capitalPart part) :=
    fun part member => part?_writePart (typed part member).valued
  have partsOfPieces : (parts.map writePart).filterMap part? = parts.map capitalPart := by
    rw [List.filterMap_map, ← List.filterMap_eq_map]
    exact List.filterMap_congr isPart
  have sameKeys : (parts.map capitalPart).map Prod.fst = parts.map Prod.fst := by
    rw [List.map_map]
    rfl
  have onlySpace : (splitOn ';' (withoutPrefix (joinWith ';' (parts.map writePart)))).map trim =
      (parts.map writePart).map trim := by
    rw [starts, withoutPrefix_eq_trim firstPlain notMark, ← starts,
      map_trim_splitOn_trim (by decide), splitOn_joinWith piecesNonempty separated]
  have noneRead : (([] : Parts).map Prod.fst).Nodup := List.nodup_nil
  unfold readParts
  rw [addPieces_congr onlySpace, addPieces_eq_ok_iff noneRead, List.nil_append, partsOfPieces,
    sameKeys]
  refine ⟨?_, distinct, rfl⟩
  intro piece isPiece _
  obtain ⟨part, isMember, rfl⟩ := List.mem_map.mp isPiece
  exact ⟨_, _, part?_eq_some_iff.mp (isPart part isMember)⟩

/-- Plain parts with different keys are read back as they are. -/
theorem readParts_joinWith_of_isPlainPart
    {parts : Parts}
    (nonempty : parts ≠ [])
    (plain : ∀ part ∈ parts, IsPlainPart part)
    (distinct : (parts.map Prod.fst).Nodup) :
    readParts (joinWith ';' (parts.map writePart)) = .ok parts := by
  have isRead : ∀ part ∈ parts, capitalPart part = part :=
    fun part member => capitalPart_of_isPlainPart (plain part member)
  have typed : ∀ part ∈ parts, IsTypedPart part := by
    intro part member
    apply isTypedPart_of_capitalPart
    rw [isRead part member]
    exact plain part member
  rw [readParts_joinWith nonempty typed distinct, List.map_congr_left isRead, List.map_id']

end Recurrence
end Cadence
