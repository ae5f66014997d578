import Cadence.Proofs.Recurrence.WrittenParts
import Cadence.Proofs.Text.Capitals
import Mathlib.Data.List.Nodup

/-!
# The pieces of a rule text

What stands between the semicolons of a rule text, and which of it counts.  A text is read
into parts exactly when every piece that is not blank assigns a value to a name and no key is
named twice.  The parts are then the assignments to keys, in the order of the text.
-/

namespace Cadence
namespace Recurrence

open Text

/-! ## The mark in front -/

/-- What a rule text says behind the mark, which may be spelled in any letter case and may be
missing. -/
inductive IsBody (text : List Char) : List Char → Prop where
  | marked
    {mark body : List Char}
    (split : trim text = mark ++ body)
    (isMark : upper mark = rulePrefix) : IsBody text body
  | unmarked
    (noMark : ∀ mark body, trim text = mark ++ body → upper mark ≠ rulePrefix) :
    IsBody text (trim text)

theorem leadsSequence_of_mem_rulePrefix :
    ∀ capital ∈ rulePrefix, leadsSequence capital = false := by
  have noneLeads : (rulePrefix.all fun capital => !leadsSequence capital) = true := by
    decide
  intro capital member
  simpa using List.all_eq_true.mp noneLeads capital member

/-- What is read of a text is exactly its body. -/
theorem isBody_iff {text body : List Char} : IsBody text body ↔ body = withoutPrefix text := by
  have leadNone := leadsSequence_of_mem_rulePrefix
  unfold withoutPrefix
  dsimp only
  constructor
  · rintro (⟨split, isMark⟩ | ⟨noMark⟩)
    · next mark =>
      have sameLength : rulePrefix.length = mark.length :=
        (length_eq_of_upper_eq leadNone isMark).symm
      have starts : (upper (trim text)).take rulePrefix.length = rulePrefix := by
        rw [split, upper_append, isMark, List.take_left]
      rw [if_pos starts, split, sameLength, List.drop_left]
    · rw [if_neg]
      intro starts
      have isMark := (take_upper_eq_iff leadNone).mp starts
      exact noMark _ _ (List.take_append_drop rulePrefix.length _).symm isMark
  · rintro rfl
    split
    · next starts =>
        have isMark := (take_upper_eq_iff leadNone).mp starts
        exact .marked (List.take_append_drop rulePrefix.length _).symm isMark
    · next noStart =>
        apply IsBody.unmarked
        intro mark body split isMark
        apply noStart
        rw [split, upper_append, isMark, List.take_left]

/-- The pieces of a rule text between the semicolons. -/
def rulePieces (text : List Char) : List (List Char) :=
  splitOn ';' (withoutPrefix text)

/-! ## Single pieces -/

/-- A piece that assigns a value to a name.  Both are not blank and are taken in capitals,
without white space around them, from the two sides of the first equals sign. -/
inductive IsAssignment (piece : List Char) : List Char → List Char → Prop where
  | intro
    {left right : List Char}
    (split : piece = left ++ '=' :: right)
    (isFirst : '=' ∉ left)
    (named : isBlankText left = false)
    (valued : isBlankText right = false) :
    IsAssignment piece (upper (trim left)) (upper (trim right))

theorem not_isAssignment_nil {name value : List Char} : ¬IsAssignment [] name value := by
  rintro ⟨split, _, _, _⟩
  exact List.append_ne_nil_of_right_ne_nil _ (List.cons_ne_nil _ _) split.symm

theorem isEmpty_upper_trim (text : List Char) :
    (upper (trim text)).isEmpty = isBlankText text := by
  rw [Bool.eq_iff_iff, List.isEmpty_iff, upper_eq_nil_iff, trim_eq_nil_iff]

/-- What is read of a piece are the name and the value that it assigns. -/
theorem readPart_trim_eq_ok_iff {piece name value : List Char} :
    readPart (trim piece) = .ok (name, value) ↔ IsAssignment piece name value := by
  have outerTrimmed (cut : List Char × List Char) :
      trim (trimStart isBlank cut.1) = trim cut.1 ∧
        trim (trimEnd isBlank cut.2) = trim cut.2 :=
    ⟨trimBy_trimStart cut.1, trimBy_trimEnd cut.2⟩
  unfold readPart
  rw [cutAt_trim (by decide)]
  cases isCut : cutAt '=' piece with
  | none =>
      constructor
      · intro failed
        cases failed
      · rintro ⟨split, isFirst, _, _⟩
        rw [cutAt_eq_some_iff.mpr ⟨split, isFirst⟩] at isCut
        cases isCut
  | some cut =>
      obtain ⟨left, right⟩ := cut
      obtain ⟨split, isFirst⟩ := cutAt_eq_some_iff.mp isCut
      have outer := outerTrimmed (left, right)
      simp only [Option.map_some, outer, isEmpty_upper_trim]
      constructor
      · intro isRead
        split at isRead
        · cases isRead
        · next notBlank =>
            cases isRead
            rw [Bool.or_eq_true, not_or, Bool.not_eq_true, Bool.not_eq_true] at notBlank
            exact .intro split isFirst notBlank.1 notBlank.2
      · rintro ⟨otherSplit, otherFirst, named, valued⟩
        have sameCut := cutAt_eq_some_iff.mpr ⟨otherSplit, otherFirst⟩
        rw [isCut] at sameCut
        cases sameCut
        rw [named, valued]
        rfl

theorem ofSpelling?_eq_some_iff {name : List Char} {key : Key} :
    Key.ofSpelling? name = some key ↔ name = key.spelling := by
  constructor
  · intro isSpelled
    have found := List.find?_some isSpelled
    exact (beq_iff_eq.mp found).symm
  · rintro rfl
    exact Key.ofSpelling?_spelling key

/-- The key and the value of a piece that assigns a value to a key. -/
def part? (piece : List Char) : Option (Key × List Char) :=
  match readPart (trim piece) with
  | .error _ => none
  | .ok (name, value) => (Key.ofSpelling? name).map fun key => (key, value)

theorem part?_eq_some_iff {piece value : List Char} {key : Key} :
    part? piece = some (key, value) ↔ IsAssignment piece key.spelling value := by
  rw [← readPart_trim_eq_ok_iff]
  unfold part?
  cases readPart (trim piece) with
  | error fault => simp
  | ok assigned =>
      obtain ⟨name, other⟩ := assigned
      simp [ofSpelling?_eq_some_iff]

/-- A piece that does not keep a text from being read: it is blank, or it assigns a value. -/
def IsReadable (piece : List Char) : Prop :=
  isBlankText piece = false → ∃ name value, IsAssignment piece name value

theorem part?_eq_none_of_isBlankText
    {piece : List Char}
    (blank : isBlankText piece = true) : part? piece = none := by
  unfold part?
  rw [trim_eq_nil_iff.mpr blank]
  rfl

theorem isReadable_of_addPiece
    {parts extended : Parts}
    {piece : List Char}
    (isAdded : addPiece parts piece = .ok extended) : IsReadable piece := by
  intro notBlank
  unfold addPiece at isAdded
  dsimp only at isAdded
  rw [isEmpty_trim, notBlank] at isAdded
  cases isRead : readPart (trim piece) with
  | error fault =>
      rw [isRead] at isAdded
      cases isAdded
  | ok assigned => exact ⟨assigned.1, assigned.2, readPart_trim_eq_ok_iff.mp isRead⟩

/-- A piece that can be read and assigns nothing to a key adds nothing. -/
theorem addPiece_of_part?_eq_none
    {piece : List Char}
    (readable : IsReadable piece)
    (noPart : part? piece = none)
    (parts : Parts) : addPiece parts piece = .ok parts := by
  unfold addPiece
  dsimp only
  rw [isEmpty_trim]
  split
  · rfl
  · next notBlank =>
      obtain ⟨name, value, assigned⟩ := readable ((Bool.not_eq_true _).mp notBlank)
      have isRead := readPart_trim_eq_ok_iff.mpr assigned
      unfold part? at noPart
      rw [isRead] at noPart ⊢
      have noKey : Key.ofSpelling? name = none := by simpa using noPart
      simp only [noKey]

/-- A piece that assigns a value to a key adds both, when the key is new. -/
theorem addPiece_of_part?_eq_some
    {piece value : List Char}
    {key : Key}
    (isPart : part? piece = some (key, value))
    (parts : Parts) :
    addPiece parts piece =
      if (parts.value? key).isSome then .error (.duplicateKey key)
      else .ok (parts ++ [(key, value)]) := by
  have notBlank : ¬isBlankText piece = true := by
    intro blank
    rw [part?_eq_none_of_isBlankText blank] at isPart
    cases isPart
  have isRead := readPart_trim_eq_ok_iff.mpr (part?_eq_some_iff.mp isPart)
  unfold addPiece
  dsimp only
  rw [isEmpty_trim, if_neg notBlank, isRead]
  simp only [Key.ofSpelling?_spelling]

/-- A piece can be added to parts exactly when it can be read and its key is new. -/
theorem addPiece_eq_ok_iff {parts extended : Parts} {piece : List Char} :
    addPiece parts piece = .ok extended ↔
      IsReadable piece ∧ (∀ part, part? piece = some part → part.1 ∉ parts.map Prod.fst) ∧
        extended = parts ++ (part? piece).toList := by
  by_cases readable : IsReadable piece
  · rw [and_iff_right readable]
    cases isPart : part? piece with
    | none =>
        rw [addPiece_of_part?_eq_none readable isPart]
        simp [eq_comm]
    | some part =>
        rw [addPiece_of_part?_eq_some isPart]
        simp only [Option.some.injEq, forall_eq', ← Parts.value?_eq_none_iff]
        cases parts.value? part.1 <;> simp [eq_comm]
  · exact iff_of_false (fun isAdded => readable (isReadable_of_addPiece isAdded))
      fun reads => readable reads.1

/-! ## Whole texts -/

theorem addPieces_cons_eq_ok_iff
    {parts extended : Parts}
    {piece : List Char}
    {pieces : List (List Char)} :
    addPieces parts (piece :: pieces) = .ok extended ↔
      ∃ longer, addPiece parts piece = .ok longer ∧ addPieces longer pieces = .ok extended := by
  rw [addPieces]
  cases addPiece parts piece <;> simp

theorem nodup_keys_append_iff {parts : Parts} {part : Option (Key × List Char)} :
    ((parts ++ part.toList).map Prod.fst).Nodup ↔
      (parts.map Prod.fst).Nodup ∧ ∀ new, part = some new → new.1 ∉ parts.map Prod.fst := by
  cases part with
  | none => simp
  | some part =>
      rw [List.map_append, List.nodup_append_comm, and_comm]
      simp

theorem append_filterMap_cons (parts : Parts) (piece : List Char) (pieces : List (List Char)) :
    parts ++ (piece :: pieces).filterMap part? =
      (parts ++ (part? piece).toList) ++ pieces.filterMap part? := by
  cases isPart : part? piece <;> simp [isPart]

/-- Pieces can be added to parts with different keys exactly when each can be read and no key
comes twice. -/
theorem addPieces_eq_ok_iff
    {parts extended : Parts}
    {pieces : List (List Char)}
    (distinct : (parts.map Prod.fst).Nodup) :
    addPieces parts pieces = .ok extended ↔
      (∀ piece ∈ pieces, IsReadable piece) ∧
        ((parts ++ pieces.filterMap part?).map Prod.fst).Nodup ∧
        extended = parts ++ pieces.filterMap part? := by
  induction pieces generalizing parts with
  | nil => simp [addPieces, distinct, eq_comm]
  | cons piece pieces hypothesis =>
      rw [addPieces_cons_eq_ok_iff, append_filterMap_cons, List.forall_mem_cons]
      constructor
      · rintro ⟨longer, isAdded, restAdded⟩
        obtain ⟨readable, isNew, rfl⟩ := addPiece_eq_ok_iff.mp isAdded
        have stillDistinct := nodup_keys_append_iff.mpr ⟨distinct, isNew⟩
        obtain ⟨restReadable, allDistinct, same⟩ := (hypothesis stillDistinct).mp restAdded
        exact ⟨⟨readable, restReadable⟩, allDistinct, same⟩
      · rintro ⟨⟨readable, restReadable⟩, allDistinct, same⟩
        have stillDistinct :
            ((parts ++ (part? piece).toList).map Prod.fst).Nodup := by
          rw [List.map_append] at allDistinct
          exact (List.nodup_append.mp allDistinct).1
        have isNew := (nodup_keys_append_iff.mp stillDistinct).2
        exact ⟨_, addPiece_eq_ok_iff.mpr ⟨readable, isNew, rfl⟩,
          (hypothesis stillDistinct).mpr ⟨restReadable, allDistinct, same⟩⟩

/-- No key is assigned twice. -/
def AssignsOnce (pieces : List (List Char)) : Prop :=
  pieces.Pairwise fun first second =>
    ∀ (key : Key) value other,
      IsAssignment first key.spelling value → ¬IsAssignment second key.spelling other

theorem nodup_keys_iff {pieces : List (List Char)} :
    ((pieces.filterMap part?).map Prod.fst).Nodup ↔ AssignsOnce pieces := by
  unfold AssignsOnce List.Nodup
  rw [List.pairwise_map, List.pairwise_filterMap]
  apply List.Pairwise.iff
  intro first second
  constructor
  · intro different key value other firstAssigns secondAssigns
    exact different _ (part?_eq_some_iff.mpr firstAssigns) _
      (part?_eq_some_iff.mpr secondAssigns) rfl
  · rintro once ⟨key, value⟩ firstPart ⟨_, other⟩ secondPart rfl
    exact once key value other (part?_eq_some_iff.mp firstPart)
      (part?_eq_some_iff.mp secondPart)

/-- Some piece assigns a value to a key. -/
def Gives (pieces : List (List Char)) (key : Key) (value : List Char) : Prop :=
  ∃ piece ∈ pieces, IsAssignment piece key.spelling value

/-- Under different keys each key has the value that it is listed with. -/
theorem Parts.value?_eq_some_iff
    {parts : Parts}
    (distinct : (parts.map Prod.fst).Nodup)
    {key : Key}
    {value : List Char} :
    parts.value? key = some value ↔ (key, value) ∈ parts := by
  have isListed {other : List Char} (given : parts.value? key = some other) :
      (key, other) ∈ parts := by
    obtain ⟨part, found, rfl⟩ := Option.map_eq_some_iff.mp given
    have sameKey : part.1 = key := by simpa using List.find?_some found
    exact sameKey ▸ List.mem_of_find?_eq_some found
  constructor
  · exact isListed
  · intro listed
    cases given : parts.value? key with
    | none => exact absurd (List.mem_map_of_mem listed) (Parts.value?_eq_none_iff.mp given)
    | some other =>
        have same := List.inj_on_of_nodup_map distinct (isListed given) listed rfl
        cases same
        rfl

/-- A text is read into parts exactly when each piece can be read and no key is assigned
twice; the parts are then the assignments to keys. -/
theorem readParts_eq_ok_iff {text : List Char} {parts : Parts} :
    readParts text = .ok parts ↔
      (∀ piece ∈ rulePieces text, IsReadable piece) ∧ AssignsOnce (rulePieces text) ∧
        parts = (rulePieces text).filterMap part? := by
  have noneListed : (([] : Parts).map Prod.fst).Nodup := List.nodup_nil
  unfold readParts
  rw [addPieces_eq_ok_iff noneListed, List.nil_append]
  exact and_congr_right fun _ => and_congr_left fun _ => nodup_keys_iff

/-- A key that is not assigned twice has the value that some piece gives it. -/
theorem value?_filterMap_part?_eq_some_iff
    {pieces : List (List Char)}
    (once : AssignsOnce pieces)
    (key : Key)
    (value : List Char) :
    Parts.value? (pieces.filterMap part?) key = some value ↔ Gives pieces key value := by
  rw [Parts.value?_eq_some_iff (nodup_keys_iff.mpr once), List.mem_filterMap]
  simp only [part?_eq_some_iff, Gives]

end Recurrence
end Cadence
