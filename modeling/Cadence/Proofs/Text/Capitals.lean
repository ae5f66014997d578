import Cadence.Proofs.Text.Plain
import Mathlib.Data.List.DropRight

/-!
# Trimmed, cut and capitalized texts

What trimming leaves of a text that is cut at a separator, and which texts have a capital
form that starts with given capitals.  A character has at least one capital, and most have
one only, so a start of the capital form is the capital form of a start.
-/

namespace Cadence
namespace Text

section Trimming

variable {drop : Char → Bool}

/-! ## Trimmed texts -/

theorem mem_of_mem_trimStart
    {text : List Char}
    {character : Char}
    (member : character ∈ trimStart drop text) : character ∈ text :=
  (List.dropWhile_sublist drop).mem member

theorem mem_of_mem_trimEnd
    {text : List Char}
    {character : Char}
    (member : character ∈ trimEnd drop text) : character ∈ text :=
  (List.rdropWhile_prefix drop text).mem member

/-- Nothing is left of a text exactly when all of it belongs to the class. -/
theorem trimBy_eq_nil_iff {text : List Char} :
    trimBy drop text = [] ↔ ∀ character ∈ text, drop character = true := by
  change (text.dropWhile drop).rdropWhile drop = [] ↔ _
  rw [List.rdropWhile_eq_nil_iff, ← List.dropWhile_eq_nil_iff, List.dropWhile_idempotent,
    List.dropWhile_eq_nil_iff]

theorem trimStart_append_cons
    {kept : Char}
    (isKept : drop kept = false)
    (before after : List Char) :
    trimStart drop (before ++ kept :: after) = trimStart drop before ++ kept :: after := by
  induction before with
  | nil => simp [trimStart, isKept]
  | cons character before hypothesis =>
      unfold trimStart at hypothesis ⊢
      rw [List.cons_append, List.dropWhile_cons, List.dropWhile_cons]
      split
      · exact hypothesis
      · rfl

theorem trimEnd_append_cons
    {kept : Char}
    (isKept : drop kept = false)
    (before after : List Char) :
    trimEnd drop (before ++ kept :: after) = before ++ kept :: trimEnd drop after := by
  have mirrored := trimStart_append_cons isKept after.reverse before.reverse
  unfold trimStart at mirrored
  unfold trimEnd
  rw [List.reverse_append, List.reverse_cons, List.append_assoc, List.singleton_append,
    mirrored]
  simp

/-- A character that is kept parts a text into two that are trimmed on their own. -/
theorem trimBy_append_cons
    {kept : Char}
    (isKept : drop kept = false)
    (before after : List Char) :
    trimBy drop (before ++ kept :: after) =
      trimStart drop before ++ kept :: trimEnd drop after := by
  unfold trimBy
  rw [trimStart_append_cons isKept, trimEnd_append_cons isKept]

/-- A text whose ends are kept is what is left when more is written around it. -/
theorem trimBy_surrounded
    {left text right : List Char}
    (nonempty : text ≠ [])
    (keepsFirst : ∀ first ∈ text.head?, drop first = false)
    (keepsLast : ∀ last ∈ text.getLast?, drop last = false)
    (dropsLeft : ∀ character ∈ left, drop character = true)
    (dropsRight : ∀ character ∈ right, drop character = true) :
    trimBy drop (left ++ text ++ right) = text := by
  have noLeft : trimStart drop left = [] := List.dropWhile_eq_nil_iff.mpr dropsLeft
  have noRight : trimEnd drop right = [] := List.rdropWhile_eq_nil_iff.mpr dropsRight
  have startTrimmed : trimStart drop (left ++ text ++ right) = text ++ right := by
    cases text with
    | nil => contradiction
    | cons first text =>
        rw [List.append_assoc, List.cons_append, trimStart_append_cons (keepsFirst first rfl),
          noLeft]
        rfl
  rw [trimBy, startTrimmed]
  obtain ⟨before, last, rfl⟩ := (List.eq_nil_or_concat text).resolve_left nonempty
  rw [List.concat_eq_append] at keepsLast ⊢
  rw [List.append_assoc, List.singleton_append,
    trimEnd_append_cons (keepsLast last List.getLast?_concat), noRight]

/-- What is trimmed from a text was written around what is left. -/
theorem exists_surrounding (text : List Char) :
    ∃ left right, text = left ++ trimBy drop text ++ right ∧
      (∀ character ∈ left, drop character = true) ∧
      ∀ character ∈ right, drop character = true := by
  refine ⟨text.takeWhile drop, (trimStart drop text).rtakeWhile drop, ?_,
    fun character => List.mem_takeWhile_imp, fun character => List.mem_rtakeWhile_imp⟩
  have sameEnd : trimBy drop text ++ (trimStart drop text).rtakeWhile drop =
      trimStart drop text := List.rdropWhile_append_rtakeWhile
  rw [List.append_assoc, sameEnd]
  exact (List.takeWhile_append_dropWhile ..).symm

theorem trimBy_trimStart (text : List Char) :
    trimBy drop (trimStart drop text) = trimBy drop text := by
  unfold trimBy trimStart
  rw [List.dropWhile_idempotent]

theorem trimBy_trimEnd (text : List Char) :
    trimBy drop (trimEnd drop text) = trimBy drop text := by
  by_cases someKept : ∃ kept ∈ text, drop kept = false
  · obtain ⟨kept, isMember, isKept⟩ := someKept
    obtain ⟨before, after, rfl⟩ := List.append_of_mem isMember
    have idempotent : trimEnd drop (trimEnd drop after) = trimEnd drop after :=
      List.rdropWhile_idempotent drop after
    rw [trimEnd_append_cons isKept, trimBy_append_cons isKept, trimBy_append_cons isKept,
      idempotent]
  · have allDropped : ∀ character ∈ text, drop character = true := by
      intro character member
      by_contra isKept
      exact someKept ⟨character, member, (Bool.not_eq_true _).mp isKept⟩
    have endDropped : ∀ character ∈ trimEnd drop text, drop character = true :=
      fun character member => allDropped character (mem_of_mem_trimEnd member)
    rw [trimBy_eq_nil_iff.mpr endDropped, trimBy_eq_nil_iff.mpr allDropped]

theorem trimBy_cons_of_drop
    {character : Char}
    (isDropped : drop character = true)
    (text : List Char) : trimBy drop (character :: text) = trimBy drop text := by
  unfold trimBy trimStart
  rw [List.dropWhile_cons_of_pos isDropped]

theorem trimEnd_concat_of_drop
    {character : Char}
    (isDropped : drop character = true)
    (text : List Char) : trimEnd drop (text ++ [character]) = trimEnd drop text :=
  List.rdropWhile_concat_pos drop text character isDropped

/-- A character that is kept at the ends of a text is not trimmed away. -/
theorem mem_trimBy
    {kept : Char}
    {text : List Char}
    (isKept : drop kept = false)
    (member : kept ∈ text) : kept ∈ trimBy drop text := by
  obtain ⟨before, after, rfl⟩ := List.append_of_mem member
  rw [trimBy_append_cons isKept]
  exact List.mem_append_right _ (List.mem_cons_self ..)

end Trimming

theorem trim_eq_nil_iff {text : List Char} : trim text = [] ↔ isBlankText text = true := by
  rw [trim, trimBy_eq_nil_iff, isBlankText, List.all_eq_true]

theorem isEmpty_trim (text : List Char) : (trim text).isEmpty = isBlankText text := by
  rw [Bool.eq_iff_iff, List.isEmpty_iff, trim_eq_nil_iff]

/-- A separator in a text is kept by its trimmed capitals. -/
theorem mem_upper_trim
    {separator : Char}
    (isSeparator : separator ∈ [';', '=', ','])
    {text : List Char}
    (isMember : separator ∈ text) : separator ∈ upper (trim text) := by
  have facts : isBlank separator = false ∧ separator ∈ upperChar separator := by
    simp only [List.mem_cons, List.not_mem_nil, or_false] at isSeparator
    rcases isSeparator with rfl | rfl | rfl <;> decide
  have inTrimmed : separator ∈ trim text := mem_trimBy facts.1 isMember
  exact List.mem_flatMap.mpr ⟨separator, inTrimmed, facts.2⟩

/-! ## Cutting at a separator -/

/-- No piece of a text holds the separator. -/
theorem notMem_of_mem_splitOn
    {separator : Char}
    {text piece : List Char}
    (isPiece : piece ∈ splitOn separator text) : separator ∉ piece := by
  induction text generalizing piece with
  | nil =>
      rw [splitOn, List.mem_singleton] at isPiece
      rw [isPiece]
      exact List.not_mem_nil
  | cons character rest hypothesis =>
      unfold splitOn at isPiece
      split at isPiece
      · rcases List.mem_cons.mp isPiece with rfl | inRest
        · exact List.not_mem_nil
        · exact hypothesis inRest
      · next notSeparator =>
          cases pieces : splitOn separator rest with
          | nil => exact absurd pieces (splitOn_ne_nil separator rest)
          | cons first others =>
              rw [pieces] at isPiece hypothesis
              rcases List.mem_cons.mp isPiece with rfl | inOthers
              · rw [List.mem_cons, not_or]
                exact ⟨Ne.symm notSeparator, hypothesis (List.mem_cons_self ..)⟩
              · exact hypothesis (List.mem_cons_of_mem _ inOthers)

section Splitting

variable {separator character : Char}

/-- A character other than the separator behind a text belongs to its last piece. -/
theorem exists_splitOn_concat
    (notSeparator : character ≠ separator)
    (text : List Char) :
    ∃ before last, splitOn separator text = before ++ [last] ∧
      splitOn separator (text ++ [character]) = before ++ [last ++ [character]] := by
  induction text with
  | nil => exact ⟨[], [], rfl, by simp [splitOn, notSeparator]⟩
  | cons first text hypothesis =>
      obtain ⟨before, last, isSplit, isLonger⟩ := hypothesis
      by_cases isSeparator : first = separator
      · refine ⟨[] :: before, last, ?_, ?_⟩
        · rw [splitOn, if_pos isSeparator, isSplit]
          rfl
        · rw [List.cons_append, splitOn, if_pos isSeparator, isLonger]
          rfl
      · cases before with
        | nil =>
            refine ⟨[], first :: last, ?_, ?_⟩
            · rw [splitOn, if_neg isSeparator, isSplit]
              rfl
            · rw [List.cons_append, splitOn, if_neg isSeparator, isLonger]
              rfl
        | cons piece before =>
            refine ⟨(first :: piece) :: before, last, ?_, ?_⟩
            · rw [splitOn, if_neg isSeparator, isSplit]
              rfl
            · rw [List.cons_append, splitOn, if_neg isSeparator, isLonger]
              rfl

variable (notBlank : isBlank separator = false)
include notBlank

theorem map_trim_splitOn_trimStart (text : List Char) :
    (splitOn separator (trimStart isBlank text)).map trim = (splitOn separator text).map trim := by
  induction text with
  | nil => rfl
  | cons character text hypothesis =>
      cases blank : isBlank character with
      | false => rw [trimStart, List.dropWhile_cons_of_neg (by simp [blank])]
      | true =>
          have notSeparator : character ≠ separator := by
            rintro rfl
            exact absurd (blank.symm.trans notBlank) (by decide)
          rw [trimStart, List.dropWhile_cons_of_pos blank]
          rw [trimStart] at hypothesis
          rw [hypothesis]
          have nonempty := splitOn_ne_nil separator text
          rw [splitOn, if_neg notSeparator]
          cases pieces : splitOn separator text with
          | nil => exact absurd pieces nonempty
          | cons piece pieces =>
              rw [List.map_cons, List.map_cons, trim, trim, trimBy_cons_of_drop blank]

theorem map_trim_splitOn_trimEnd (text : List Char) :
    (splitOn separator (trimEnd isBlank text)).map trim = (splitOn separator text).map trim := by
  induction text using List.reverseRecOn with
  | nil => rfl
  | append_singleton text character hypothesis =>
      cases blank : isBlank character with
      | false =>
          have kept : trimEnd isBlank (text ++ [character]) = text ++ [character] :=
            List.rdropWhile_concat_neg isBlank text character (by simp [blank])
          rw [kept]
      | true =>
          have notSeparator : character ≠ separator := by
            rintro rfl
            exact absurd (blank.symm.trans notBlank) (by decide)
          obtain ⟨before, last, isSplit, isLonger⟩ := exists_splitOn_concat notSeparator text
          have sameLast : trim (last ++ [character]) = trim last := by
            rw [trim, trim, ← trimBy_trimEnd, trimEnd_concat_of_drop blank, trimBy_trimEnd]
          rw [trimEnd_concat_of_drop blank, hypothesis, isSplit, isLonger, List.map_append,
            List.map_append, List.map_singleton, List.map_singleton, sameLast]

/-- Trimming a text before it is split makes no difference to its trimmed pieces. -/
theorem map_trim_splitOn_trim (text : List Char) :
    (splitOn separator (trim text)).map trim = (splitOn separator text).map trim :=
  (map_trim_splitOn_trimEnd notBlank _).trans (map_trim_splitOn_trimStart notBlank text)

end Splitting

theorem cutAt_eq_some_iff
    {separator : Char}
    {text head rest : List Char} :
    cutAt separator text = some (head, rest) ↔
      text = head ++ separator :: rest ∧ separator ∉ head := by
  constructor
  · intro isCut
    induction text generalizing head with
    | nil => cases isCut
    | cons character text hypothesis =>
        unfold cutAt at isCut
        split at isCut
        · next isSeparator =>
            cases isCut
            exact ⟨by rw [isSeparator, List.nil_append], List.not_mem_nil⟩
        · next notSeparator =>
            obtain ⟨⟨shorter, _⟩, shorterCut, same⟩ := Option.map_eq_some_iff.mp isCut
            cases same
            obtain ⟨rfl, absent⟩ := hypothesis shorterCut
            refine ⟨rfl, ?_⟩
            rw [List.mem_cons, not_or]
            exact ⟨Ne.symm notSeparator, absent⟩
  · rintro ⟨rfl, absent⟩
    exact cutAt_append absent rest

/-- Trimming takes white space away from the outer ends of the two sides of a separator. -/
theorem cutAt_trim
    {separator : Char}
    (notBlank : isBlank separator = false)
    (text : List Char) :
    cutAt separator (trim text) =
      (cutAt separator text).map fun cut =>
        (trimStart isBlank cut.1, trimEnd isBlank cut.2) := by
  cases isCut : cutAt separator text with
  | none =>
      have absent := cutAt_eq_none_iff.mp isCut
      apply cutAt_eq_none_iff.mpr
      intro member
      exact absent (mem_of_mem_trimStart (mem_of_mem_trimEnd member))
  | some cut =>
      obtain ⟨head, rest⟩ := cut
      obtain ⟨rfl, absent⟩ := cutAt_eq_some_iff.mp isCut
      have stillAbsent : separator ∉ trimStart isBlank head :=
        fun member => absent (mem_of_mem_trimStart member)
      rw [trim, trimBy_append_cons notBlank, cutAt_append stillAbsent]
      rfl

/-! ## Capital forms -/

/-- Whether the capitals of some character are several and begin with this one. -/
def leadsSequence (capital : Char) : Bool :=
  LetterCase.upperSequences.any fun entry => (entry.2.map Char.ofNat).head? == some capital

/-- The capital form of a character is one capital or a listed sequence. -/
theorem upperChar_cases (character : Char) :
    (∃ capital, upperChar character = [capital]) ∨
      ∃ entry ∈ LetterCase.upperSequences, upperChar character = entry.2.map Char.ofNat := by
  unfold upperChar
  split
  · exact .inl ⟨_, rfl⟩
  · split
    · next capitals listed =>
        obtain ⟨entry, found, rfl⟩ := Option.map_eq_some_iff.mp listed
        exact .inr ⟨entry, List.mem_of_find?_eq_some found, rfl⟩
    · exact .inl ⟨_, rfl⟩

/-- The capital form of a character has a first capital, which is the only one or leads a
sequence. -/
theorem exists_upperChar_eq_cons (character : Char) :
    ∃ capital rest, upperChar character = capital :: rest ∧
      (rest = [] ∨ leadsSequence capital = true) := by
  rcases upperChar_cases character with ⟨capital, single⟩ | ⟨entry, isEntry, several⟩
  · exact ⟨capital, [], single, .inl rfl⟩
  · have listed : ∀ entry ∈ LetterCase.upperSequences, entry.2 ≠ [] := by decide
    cases codes : entry.2 with
    | nil => exact absurd codes (listed entry isEntry)
    | cons code rest =>
        refine ⟨Char.ofNat code, rest.map Char.ofNat, ?_, .inr ?_⟩
        · rw [several, codes, List.map_cons]
        · refine List.any_eq_true.mpr ⟨entry, isEntry, ?_⟩
          rw [codes, List.map_cons, List.head?_cons, beq_self_eq_true]

@[simp] theorem upper_cons (character : Char) (text : List Char) :
    upper (character :: text) = upperChar character ++ upper text :=
  List.flatMap_cons

@[simp] theorem upper_eq_nil_iff {text : List Char} : upper text = [] ↔ text = [] := by
  cases text with
  | nil => simp
  | cons character text =>
      obtain ⟨capital, rest, isForm, _⟩ := exists_upperChar_eq_cons character
      simp [isForm]

section Starts

variable {capitals : List Char}
variable (leadNone : ∀ capital ∈ capitals, leadsSequence capital = false)
include leadNone

/-- A capital form starts with capitals that lead no sequence exactly when they are the
capital form of as many characters. -/
theorem take_upper_eq_iff {text : List Char} :
    (upper text).take capitals.length = capitals ↔
      upper (text.take capitals.length) = capitals := by
  induction capitals generalizing text with
  | nil => simp
  | cons capital capitals hypothesis =>
      have restLeadNone : ∀ other ∈ capitals, leadsSequence other = false :=
        fun other member => leadNone other (List.mem_cons_of_mem _ member)
      cases text with
      | nil => simp
      | cons character text =>
          obtain ⟨first, rest, isForm, alone | leads⟩ := exists_upperChar_eq_cons character
          · have shorter : (upper text).take capitals.length = capitals ↔
                upper (text.take capitals.length) = capitals := hypothesis restLeadNone
            simp [isForm, alone, shorter]
          · have different : first ≠ capital := by
              rintro rfl
              rw [leadNone first (List.mem_cons_self ..)] at leads
              cases leads
            simp [isForm, different]

/-- Capitals that lead no sequence are the capital form of as many characters. -/
theorem length_eq_of_upper_eq
    {text : List Char}
    (isForm : upper text = capitals) : text.length = capitals.length := by
  induction text generalizing capitals with
  | nil => rw [← isForm, upper_nil]
  | cons character text hypothesis =>
      obtain ⟨first, rest, isCapital, alone | leads⟩ := exists_upperChar_eq_cons character
      · rw [upper_cons, isCapital, alone, List.singleton_append] at isForm
        subst isForm
        have restLeadNone : ∀ other ∈ upper text, leadsSequence other = false :=
          fun other member => leadNone other (List.mem_cons_of_mem _ member)
        rw [List.length_cons, List.length_cons, hypothesis restLeadNone rfl]
      · have isMember : first ∈ capitals := by
          rw [← isForm, upper_cons, isCapital]
          exact List.mem_cons_self ..
        rw [leadNone first isMember] at leads
        cases leads

end Starts

end Text
end Cadence
