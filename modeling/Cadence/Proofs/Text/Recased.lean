import Cadence.Proofs.Text.Capitals

/-!
# Texts in another letter case

Capitals neither make nor take away white space and separators, so a text may be cut, trimmed and
capitalized in any order.  The case of basic letters makes no difference to capitals.
-/

namespace Cadence
namespace Text

/-! ## Single characters -/

theorem toUpper_of_not_basic {character : Char} (notBasic : 128 ≤ character.toNat) :
    character.toUpper = character := by
  unfold Char.toUpper
  rw [dif_neg]
  intro isSmall
  simp [UInt32.le_iff_toNat_le] at isSmall
  omega

/-- A relation holds between the basic capital of a character and the character when it does for
the basic characters one by one, and between other characters and themselves. -/
theorem of_toUpper
    (holds : Char → Char → Prop)
    (each : ∀ code, code < 128 → holds (Char.ofNat code).toUpper (Char.ofNat code))
    (unchanged : ∀ character, holds character character)
    (character : Char) : holds character.toUpper character := by
  rcases Nat.lt_or_ge character.toNat 128 with isBasic | notBasic
  · have holdsOf := each character.toNat isBasic
    rwa [Char.ofNat_toNat] at holdsOf
  · rw [toUpper_of_not_basic notBasic]
    exact unchanged character

section Basic

variable (character : Char)

/-- Capitals of basic letters have the capitals of the letters. -/
theorem upperChar_toUpper : upperChar character.toUpper = upperChar character :=
  of_toUpper (fun capital letter => upperChar capital = upperChar letter) (by decide)
    (fun _ => rfl) character

theorem isBlank_toUpper : isBlank character.toUpper = isBlank character :=
  of_toUpper (fun capital letter => isBlank capital = isBlank letter) (by decide)
    (fun _ => rfl) character

theorem isBlank_toLower : isBlank character.toLower = isBlank character := by
  rcases Nat.lt_or_ge character.toNat 128 with isBasic | notBasic
  · have each : ∀ code, code < 128 →
        isBlank (Char.ofNat code).toLower = isBlank (Char.ofNat code) := by decide
    have ofCode := each character.toNat isBasic
    rwa [Char.ofNat_toNat] at ofCode
  · unfold Char.toLower
    rw [dif_neg]
    intro isCapital
    simp [UInt32.le_iff_toNat_le] at isCapital
    omega

/-- The separators of rule texts are no capitals of other characters. -/
theorem toUpper_eq_separator_iff {separator : Char} (isSeparator : separator ∈ [';', '=', ',']) :
    character.toUpper = separator ↔ character = separator := by
  apply of_toUpper (fun capital letter => capital = separator ↔ letter = separator)
  · simp only [List.mem_cons, List.not_mem_nil, or_false] at isSeparator
    rcases isSeparator with rfl | rfl | rfl <;> decide
  · exact fun _ => Iff.rfl

end Basic

/-- White space has no capitals. -/
theorem upperChar_of_isBlank {character : Char} (blank : isBlank character = true) :
    upperChar character = [character] := by
  have each : ∀ range ∈ blankRanges, ∀ offset, offset < range.2 + 1 - range.1 →
      upperChar (Char.ofNat (range.1 + offset)) = [Char.ofNat (range.1 + offset)] := by
    decide
  obtain ⟨range, isRange, bounds⟩ := List.any_eq_true.mp blank
  rw [decide_eq_true_eq] at bounds
  have isForm := each range isRange (character.toNat - range.1) (by omega)
  rwa [Nat.add_sub_cancel' bounds.1, Char.ofNat_toNat] at isForm

/-- A code point behind the comma is no comma. -/
theorem ofNat_ne_comma {code : Nat} (behind : 44 < code) : Char.ofNat code ≠ ',' := by
  intro isComma
  by_cases isValid : code.isValidChar
  · have sameCode : (Char.ofNat code).toNat = 44 := congrArg Char.toNat isComma
    rw [Char.ofNat, dif_pos isValid] at sameCode
    have isCode : code = 44 := sameCode
    exact absurd isCode (Nat.ne_of_gt behind)
  · rw [Char.ofNat, dif_neg isValid] at isComma
    exact absurd isComma (by decide)

/-- Only a comma has a comma among its capitals. -/
theorem comma_mem_upperChar_iff {character : Char} :
    ',' ∈ upperChar character ↔ character = ',' := by
  have notListed : ∀ entry ∈ LetterCase.upperSequences, ',' ∉ entry.2.map Char.ofNat := by
    decide
  have behind : ∀ run ∈ LetterCase.upperRuns, 44 < run.image := by
    decide +kernel
  unfold upperChar
  split
  · rw [List.mem_singleton, eq_comm]
    exact toUpper_eq_separator_iff character (by decide)
  · next notBasic =>
      have notComma : character ≠ ',' := by
        rintro rfl
        exact notBasic (by decide)
      apply iff_of_false _ notComma
      split
      · next capitals listed =>
          obtain ⟨entry, found, rfl⟩ := Option.map_eq_some_iff.mp listed
          exact notListed entry (List.mem_of_find?_eq_some found)
      · rw [List.mem_singleton, mapRuns?]
        cases found : LetterCase.upperRuns.find? fun run => run.contains character.toNat with
        | none => exact notComma.symm
        | some run =>
            have isRun := List.mem_of_find?_eq_some found
            exact (ofNat_ne_comma (Nat.lt_add_right _ (behind run isRun))).symm

/-! ## Cut texts -/

section Cutting

variable {separator : Char} {form : Char → List Char}

theorem splitOn_append_of_notMem
    {word text piece : List Char}
    {pieces : List (List Char)}
    (absent : separator ∉ word)
    (isSplit : splitOn separator text = piece :: pieces) :
    splitOn separator (word ++ text) = (word ++ piece) :: pieces := by
  induction word with
  | nil => exact isSplit
  | cons character word hypothesis =>
      rw [List.mem_cons, not_or] at absent
      rw [List.cons_append, splitOn, if_neg (Ne.symm absent.1), hypothesis absent.2]
      rfl

/-- Forms of characters keep a cut when they keep the separator and make no other one. -/
theorem splitOn_flatMap
    (keeps : form separator = [separator])
    (makesNone : ∀ character, separator ∈ form character ↔ character = separator)
    (text : List Char) :
    splitOn separator (text.flatMap form) =
      (splitOn separator text).map fun piece => piece.flatMap form := by
  induction text with
  | nil => rfl
  | cons character text hypothesis =>
      rw [List.flatMap_cons, splitOn]
      split
      · next isSeparator =>
          rw [isSeparator, keeps, List.singleton_append, splitOn, if_pos rfl, hypothesis]
          rfl
      · next notSeparator =>
          have absent := mt (makesNone character).mp notSeparator
          have nonempty := splitOn_ne_nil separator text
          cases isSplit : splitOn separator text with
          | nil => exact absurd isSplit nonempty
          | cons piece pieces =>
              rw [isSplit] at hypothesis
              exact splitOn_append_of_notMem absent hypothesis

/-- The capitals of the pieces between commas are the pieces of the capitals. -/
theorem splitOn_upper (text : List Char) :
    splitOn ',' (upper text) = (splitOn ',' text).map upper :=
  splitOn_flatMap (by decide) (fun _ => comma_mem_upperChar_iff) text

theorem splitOn_map_toUpper
    (isSeparator : separator ∈ [';', '=', ','])
    (text : List Char) :
    splitOn separator (text.map Char.toUpper) =
      (splitOn separator text).map (List.map Char.toUpper) := by
  have keeps : [separator.toUpper] = [separator] := by
    rw [(toUpper_eq_separator_iff separator isSeparator).mpr rfl]
  have makesNone (character : Char) :
      separator ∈ [character.toUpper] ↔ character = separator := by
    rw [List.mem_singleton, eq_comm]
    exact toUpper_eq_separator_iff character isSeparator
  rw [List.map_eq_flatMap, splitOn_flatMap keeps makesNone]
  apply List.map_congr_left
  intro piece _
  exact List.map_eq_flatMap.symm

end Cutting

/-! ## Trimmed texts -/

theorem isBlank_comp_toUpper : isBlank ∘ Char.toUpper = isBlank :=
  funext isBlank_toUpper

theorem trim_map_toUpper (text : List Char) :
    trim (text.map Char.toUpper) = (trim text).map Char.toUpper := by
  unfold trim trimBy trimEnd trimStart
  rw [List.dropWhile_map, ← List.map_reverse, List.dropWhile_map, ← List.map_reverse,
    isBlank_comp_toUpper]

theorem upper_map_toUpper (text : List Char) : upper (text.map Char.toUpper) = upper text := by
  induction text with
  | nil => rfl
  | cons character text hypothesis =>
      rw [List.map_cons, upper_cons, upper_cons, upperChar_toUpper, hypothesis]

theorem isBlankText_map_toUpper (text : List Char) :
    isBlankText (text.map Char.toUpper) = isBlankText text := by
  rw [isBlankText, List.all_map, isBlank_comp_toUpper]
  rfl

/-- No separator is won or lost with another letter case. -/
theorem mem_map_toUpper_iff
    {separator : Char}
    (isSeparator : separator ∈ [';', '=', ','])
    {text : List Char} : separator ∈ text.map Char.toUpper ↔ separator ∈ text := by
  simp only [List.mem_map, toUpper_eq_separator_iff _ isSeparator, exists_eq_right]

theorem trim_upper_trimStart (text : List Char) :
    trim (upper (trimStart isBlank text)) = trim (upper text) := by
  induction text with
  | nil => rfl
  | cons character text hypothesis =>
      cases blank : isBlank character with
      | false => rw [trimStart, List.dropWhile_cons_of_neg (by simp [blank])]
      | true =>
          rw [trimStart, List.dropWhile_cons_of_pos blank, upper_cons, upperChar_of_isBlank blank,
            List.singleton_append, trim, trim, trimBy_cons_of_drop blank]
          exact hypothesis

theorem trim_upper_trimEnd (text : List Char) :
    trim (upper (trimEnd isBlank text)) = trim (upper text) := by
  induction text using List.reverseRecOn with
  | nil => rfl
  | append_singleton text character hypothesis =>
      cases blank : isBlank character with
      | false =>
          have kept : trimEnd isBlank (text ++ [character]) = text ++ [character] :=
            List.rdropWhile_concat_neg isBlank text character (by simp [blank])
          rw [kept]
      | true =>
          have isForm : upper (text ++ [character]) = upper text ++ [character] := by
            rw [upper_append, upper_cons, upperChar_of_isBlank blank]
            rfl
          rw [trimEnd_concat_of_drop blank, hypothesis, isForm, trim, trim,
            ← trimBy_trimEnd (upper text ++ [character]), trimEnd_concat_of_drop blank,
            trimBy_trimEnd]

/-- Trimming a text before its capitals are trimmed makes no difference. -/
theorem trim_upper_trim (text : List Char) : trim (upper (trim text)) = trim (upper text) :=
  (trim_upper_trimEnd _).trans (trim_upper_trimStart text)

/-- White space is its own capital form. -/
theorem upper_of_isBlankText
    {text : List Char}
    (blank : isBlankText text = true) : upper text = text := by
  induction text with
  | nil => rfl
  | cons character text hypothesis =>
      rw [isBlankText, List.all_cons, Bool.and_eq_true] at blank
      rw [upper_cons, upperChar_of_isBlank blank.1, hypothesis blank.2]
      rfl

/-- What is trimmed from the end of a text is white space. -/
theorem exists_trimEnd_append (text : List Char) :
    ∃ spaces, isBlankText spaces = true ∧ text = trimEnd isBlank text ++ spaces := by
  refine ⟨(text.reverse.takeWhile isBlank).reverse, ?_, ?_⟩
  · rw [isBlankText, List.all_reverse]
    exact List.all_takeWhile
  · rw [trimEnd, ← List.reverse_append, List.takeWhile_append_dropWhile, List.reverse_reverse]

end Text
end Cadence
