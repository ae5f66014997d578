import Cadence.Proofs.Recurrence.TypedParts
import Cadence.Proofs.Text.Recased
import Mathlib.Logic.Relation

/-!
# The layout of rule texts

A rule text may be laid out in many ways: with its pieces in any order, with blank pieces and
pieces of unknown keys among them, with white space around pieces, keys and values, in either
letter case, and behind the mark.  What is read depends on the parts alone, as a set, and a
change of layout keeps the parts.
-/

namespace Cadence
namespace Recurrence

open Text

/-! ## Marked texts -/

/-- A text begins with the mark, once it is trimmed and in capitals. -/
def IsMarked (text : List Char) : Prop :=
  rulePrefix <+: upper (trim text)

instance : DecidablePred IsMarked :=
  fun text => inferInstanceAs (Decidable (rulePrefix <+: upper (trim text)))

/-- A text that is not blank, and none of whose pieces begins with the mark. -/
structure IsBare (text : List Char) : Prop where
  notBlank : isBlankText text = false
  unmarked : ∀ piece ∈ splitOn ';' text, ¬IsMarked piece

/-- A word that begins a text ends before a character that it does not have. -/
theorem isPrefix_of_isPrefix_append
    {word before after : List Char}
    (starts : word <+: before ++ after)
    (stops : ∀ character ∈ after.head?, character ∉ word) : word <+: before := by
  rcases List.prefix_or_prefix_of_prefix starts (List.prefix_append before after) with
    within | ⟨rest, rfl⟩
  · exact within
  · have continues := (List.prefix_append_right_inj before).mp starts
    cases rest with
    | nil => simp
    | cons character rest =>
        obtain ⟨others, rfl⟩ := continues
        exact absurd (List.mem_append_right before List.mem_cons_self) (stops character rfl)

theorem notMem_rulePrefix_of_isBlank {character : Char} (blank : isBlank character = true) :
    character ∉ rulePrefix := by
  have noneBlank : (rulePrefix.all fun other => !isBlank other) = true := by
    decide
  intro isMember
  have notBlank := List.all_eq_true.mp noneBlank character isMember
  rw [blank] at notBlank
  cases notBlank

/-- White space behind a text does not matter to its mark. -/
theorem isMarked_iff_trimStart {text : List Char} :
    IsMarked text ↔ rulePrefix <+: upper (trimStart isBlank text) := by
  obtain ⟨spaces, areBlank, isSplit⟩ := exists_trimEnd_append (trimStart isBlank text)
  constructor
  · intro marked
    rw [isSplit, upper_append]
    exact marked.trans (List.prefix_append _ _)
  · intro starts
    rw [isSplit, upper_append, upper_of_isBlankText areBlank] at starts
    apply isPrefix_of_isPrefix_append starts
    intro character isHead
    exact notMem_rulePrefix_of_isBlank
      (List.all_eq_true.mp areBlank character (List.mem_of_mem_head? isHead))

/-- What stands behind a separator does not matter to the mark. -/
theorem isMarked_append_iff
    {separator : Char}
    (isSeparator : separator ∈ [';', '='])
    {left right : List Char} :
    IsMarked (left ++ separator :: right) ↔ IsMarked left := by
  have facts : isBlank separator = false ∧ upperChar separator = [separator] ∧
      separator ∉ rulePrefix := by
    rcases List.mem_pair.mp isSeparator with rfl | rfl <;> decide
  obtain ⟨notBlank, isForm, notPrefix⟩ := facts
  rw [isMarked_iff_trimStart, isMarked_iff_trimStart, trimStart_append_cons notBlank,
    upper_append, upper_cons, isForm]
  constructor
  · intro starts
    apply isPrefix_of_isPrefix_append starts
    rintro _ ⟨⟩
    exact notPrefix
  · intro starts
    exact starts.trans (List.prefix_append _ _)

/-- A text begins with the mark only when its first piece does. -/
theorem not_isMarked_of_pieces
    {text : List Char}
    (unmarked : ∀ piece ∈ splitOn ';' text, ¬IsMarked piece) : ¬IsMarked text := by
  intro marked
  rw [← joinWith_splitOn ';' text] at marked
  cases isSplit : splitOn ';' text with
  | nil => exact splitOn_ne_nil ';' text isSplit
  | cons piece pieces =>
      rw [isSplit] at marked unmarked
      apply unmarked piece List.mem_cons_self
      cases pieces with
      | nil => exact marked
      | cons next pieces => exact (isMarked_append_iff (by decide)).mp marked

/-! ## What is read of a text -/

theorem readParts_of_not_isMarked
    {text : List Char}
    (unmarked : ¬IsMarked text) : readParts text = addPieces [] (splitOn ';' text) := by
  have body : withoutPrefix text = trim text := by
    apply if_neg
    intro starts
    exact unmarked (List.prefix_iff_eq_take.mpr starts.symm)
  rw [readParts, body]
  exact addPieces_congr (map_trim_splitOn_trim (by decide) text) []

/-- A mark has no white space. -/
theorem isBlank_of_mem_mark
    {mark : List Char}
    (isMark : upper mark = rulePrefix)
    {character : Char}
    (isMember : character ∈ mark) : isBlank character = false := by
  rw [← Bool.not_eq_true]
  intro blank
  apply notMem_rulePrefix_of_isBlank blank
  rw [← isMark]
  apply List.mem_flatMap.mpr
  refine ⟨character, isMember, ?_⟩
  rw [upperChar_of_isBlank blank]
  exact List.mem_singleton_self _

/-- Behind a mark a text is read from its start. -/
theorem readParts_of_mark
    {mark : List Char}
    (isMark : upper mark = rulePrefix)
    (text : List Char) :
    readParts (mark ++ text) = addPieces [] (splitOn ';' text) := by
  have isTrimmed : trim (mark ++ text) = mark ++ trimEnd isBlank text := by
    rcases List.eq_nil_or_concat mark with rfl | ⟨start, last, rfl⟩
    · cases isMark
    · have keeps (character : Char) (isMember : character ∈ start.concat last) :=
        isBlank_of_mem_mark isMark isMember
      have keepsStart : trimStart isBlank start = start := by
        cases start with
        | nil => rfl
        | cons first start =>
            apply List.dropWhile_cons_of_neg
            rw [keeps first (by simp)]
            nofun
      rw [List.concat_eq_append, List.append_assoc, List.singleton_append, trim,
        trimBy_append_cons (keeps last (by simp)), keepsStart]
      simp
  have body : withoutPrefix (mark ++ text) = trimEnd isBlank text :=
    (isBody_iff.mp (.marked isTrimmed isMark)).symm
  rw [readParts, body]
  exact addPieces_congr (map_trim_splitOn_trimEnd (by decide) text) []

section Outcomes

variable {Outcome : Type} {finish : Parts → Except RuleFault Outcome}

theorem toOption_eq_some_iff
    {Failure : Type}
    {result : Except Failure Outcome}
    {value : Outcome} :
    result.toOption = some value ↔ result = .ok value := by
  cases result <;> simp [Except.toOption]

/-- What pieces come to, when they are read to the end. -/
def outcome (finish : Parts → Except RuleFault Outcome) (pieces : List (List Char)) :
    Option Outcome :=
  (addPieces [] pieces).toOption.bind fun parts => (finish parts).toOption

theorem outcome_eq_some_iff {pieces : List (List Char)} {value : Outcome} :
    outcome finish pieces = some value ↔
      (∀ piece ∈ pieces, IsReadable piece) ∧
        ((pieces.filterMap part?).map Prod.fst).Nodup ∧
        finish (pieces.filterMap part?) = .ok value := by
  have noneRead : (([] : Parts).map Prod.fst).Nodup := List.nodup_nil
  have isRead (parts : Parts) : (addPieces [] pieces).toOption = some parts ↔
      (∀ piece ∈ pieces, IsReadable piece) ∧
        ((pieces.filterMap part?).map Prod.fst).Nodup ∧
        parts = pieces.filterMap part? := by
    rw [toOption_eq_some_iff, addPieces_eq_ok_iff noneRead, List.nil_append]
  unfold outcome
  simp only [Option.bind_eq_some_iff, isRead, toOption_eq_some_iff]
  constructor
  · rintro ⟨_, ⟨readable, distinct, rfl⟩, finishes⟩
    exact ⟨readable, distinct, finishes⟩
  · rintro ⟨readable, distinct, finishes⟩
    exact ⟨_, ⟨readable, distinct, rfl⟩, finishes⟩

/-- Whoever finishes parts looks at the values of keys alone. -/
def ReadsValues (finish : Parts → Except RuleFault Outcome) : Prop :=
  ∀ parts others, parts.value? = others.value? → finish parts = finish others

theorem readsValues_ruleOfParts : ReadsValues ruleOfParts := by
  intro parts others same
  unfold ruleOfParts frequencyOfParts intervalOfParts weekdayOfParts numberOfParts
  rw [same]

/-- Pieces that are read into the same parts, in any order. -/
structure ReadAlike (first second : List (List Char)) : Prop where
  readable : (∀ piece ∈ first, IsReadable piece) ↔ ∀ piece ∈ second, IsReadable piece
  parts : (first.filterMap part?).Perm (second.filterMap part?)

/-- Parts with different keys have the same values in any order. -/
theorem value?_eq_of_perm
    {first second : Parts}
    (perm : first.Perm second)
    (distinct : (first.map Prod.fst).Nodup) : first.value? = second.value? := by
  funext key
  apply Option.ext
  intro value
  have stillDistinct : (second.map Prod.fst).Nodup := (perm.map _).nodup_iff.mp distinct
  rw [Parts.value?_eq_some_iff distinct, Parts.value?_eq_some_iff stillDistinct, perm.mem_iff]

theorem ReadAlike.outcome_eq
    {first second : List (List Char)}
    (alike : ReadAlike first second)
    (values : ReadsValues finish) : outcome finish first = outcome finish second := by
  apply Option.ext
  intro value
  rw [outcome_eq_some_iff, outcome_eq_some_iff, alike.readable,
    (alike.parts.map Prod.fst).nodup_iff]
  refine and_congr_right fun _ => and_congr_right fun distinct => ?_
  have sameValues := value?_eq_of_perm alike.parts.symm distinct
  rw [values _ _ sameValues]

end Outcomes

/-! ## Single pieces in another layout -/

/-- Two pieces assign the same, or both nothing. -/
structure AssignAlike (first second : List Char) : Prop where
  blank : isBlankText first = isBlankText second
  assigns : ∀ name value, IsAssignment first name value ↔ IsAssignment second name value

namespace AssignAlike

variable {first second : List Char}

theorem isReadable_iff (alike : AssignAlike first second) :
    IsReadable first ↔ IsReadable second := by
  unfold IsReadable
  simp only [alike.blank, alike.assigns]

theorem part?_eq (alike : AssignAlike first second) : part? first = part? second := by
  apply Option.ext
  intro (key, value)
  rw [part?_eq_some_iff, part?_eq_some_iff, alike.assigns]

end AssignAlike

/-- A piece with an equals sign assigns what is on its sides, unless one is blank. -/
theorem isAssignment_append_iff
    {left right name value : List Char}
    (isFirst : '=' ∉ left) :
    IsAssignment (left ++ '=' :: right) name value ↔
      isBlankText left = false ∧ isBlankText right = false ∧
        name = upper (trim left) ∧ value = upper (trim right) := by
  constructor
  · rintro ⟨split, otherFirst, named, valued⟩
    have cut := cutAt_append isFirst right
    rw [split, cutAt_append otherFirst] at cut
    obtain ⟨rfl, rfl⟩ := Prod.mk.inj (Option.some.inj cut)
    exact ⟨named, valued, rfl, rfl⟩
  · rintro ⟨named, valued, rfl, rfl⟩
    exact .intro rfl isFirst named valued

theorem not_isAssignment_of_notMem
    {piece name value : List Char}
    (absent : '=' ∉ piece) : ¬IsAssignment piece name value := by
  rintro ⟨split, _, _, _⟩
  rw [split] at absent
  exact absent (List.mem_append_right _ List.mem_cons_self)

theorem isBlankText_append_equals (left right : List Char) :
    isBlankText (left ++ '=' :: right) = false := by
  rw [isBlankText, List.all_append, List.all_cons]
  simp [show isBlank '=' = false by decide]

/-- Pieces with an equals sign assign alike when their sides are alike. -/
theorem AssignAlike.of_sides
    {left right otherLeft otherRight : List Char}
    (isFirst : '=' ∉ left)
    (otherIsFirst : '=' ∉ otherLeft)
    (sameName : upper (trim left) = upper (trim otherLeft))
    (sameValue : upper (trim right) = upper (trim otherRight)) :
    AssignAlike (left ++ '=' :: right) (otherLeft ++ '=' :: otherRight) where
  blank := by rw [isBlankText_append_equals, isBlankText_append_equals]
  assigns name value := by
    rw [isAssignment_append_iff isFirst, isAssignment_append_iff otherIsFirst,
      ← isEmpty_upper_trim left, ← isEmpty_upper_trim right, sameName, sameValue,
      isEmpty_upper_trim, isEmpty_upper_trim]

/-- Pieces with the same text between white space, or assignments with the same texts on their
sides. -/
inductive SpacedAlike : List Char → List Char → Prop where
  | piece
    {first second : List Char}
    (same : trim first = trim second) : SpacedAlike first second
  | sides
    {left right otherLeft otherRight : List Char}
    (isFirst : '=' ∉ left)
    (sameName : trim left = trim otherLeft)
    (sameValue : trim right = trim otherRight) :
    SpacedAlike (left ++ '=' :: right) (otherLeft ++ '=' :: otherRight)

namespace SpacedAlike

variable {first second : List Char}

theorem equals_notMem
    {left otherLeft : List Char}
    (isFirst : '=' ∉ left)
    (sameName : trim left = trim otherLeft) : '=' ∉ otherLeft := by
  intro isMember
  have inTrimmed : '=' ∈ trim otherLeft := mem_trimBy (by decide) isMember
  rw [← sameName] at inTrimmed
  exact isFirst (mem_of_mem_trimStart (mem_of_mem_trimEnd inTrimmed))

theorem assignAlike (alike : SpacedAlike first second) : AssignAlike first second := by
  cases alike with
  | piece same =>
      constructor
      · rw [← isEmpty_trim, ← isEmpty_trim, same]
      · intro name value
        rw [← readPart_trim_eq_ok_iff, ← readPart_trim_eq_ok_iff, same]
  | sides isFirst sameName sameValue =>
      exact .of_sides isFirst (equals_notMem isFirst sameName) (congrArg upper sameName)
        (congrArg upper sameValue)

theorem isMarked_iff (alike : SpacedAlike first second) : IsMarked first ↔ IsMarked second := by
  cases alike with
  | piece same => rw [IsMarked, IsMarked, same]
  | sides isFirst sameName sameValue =>
      rw [isMarked_append_iff (by decide), isMarked_append_iff (by decide), IsMarked, IsMarked,
        sameName]

end SpacedAlike

/-- Pieces in the capitals of their basic letters assign as before. -/
theorem assignAlike_map_toUpper (piece : List Char) :
    AssignAlike (piece.map Char.toUpper) piece := by
  cases isCut : cutAt '=' piece with
  | none =>
      have absent := cutAt_eq_none_iff.mp isCut
      have stillAbsent := mt (mem_map_toUpper_iff (by decide)).mp absent
      constructor
      · exact isBlankText_map_toUpper piece
      · intro name value
        exact iff_of_false (not_isAssignment_of_notMem stillAbsent)
          (not_isAssignment_of_notMem absent)
  | some cut =>
      obtain ⟨rfl, isFirst⟩ := cutAt_eq_some_iff.mp isCut
      have stillFirst := mt (mem_map_toUpper_iff (by decide)).mp isFirst
      rw [List.map_append, List.map_cons]
      apply AssignAlike.of_sides stillFirst isFirst
      · rw [trim_map_toUpper, upper_map_toUpper]
      · rw [trim_map_toUpper, upper_map_toUpper]

theorem isMarked_map_toUpper {text : List Char} :
    IsMarked (text.map Char.toUpper) ↔ IsMarked text := by
  rw [IsMarked, IsMarked, trim_map_toUpper, upper_map_toUpper]

/-! ## Whole texts in another layout -/

/-- A piece that counts for nothing: it is blank, or it assigns to an unknown key. -/
def IsIgnored (piece : List Char) : Prop :=
  isBlankText piece = true ∨
    ∃ name value, IsAssignment piece name value ∧ Key.ofSpelling? name = none

/-- A text has the pieces of another one in another order, with other white space around pieces,
keys and values, or with basic letters in the other case. -/
inductive Rearranges (first second : List Char) : Prop where
  | reordered (perm : (splitOn ';' first).Perm (splitOn ';' second))
  | spaced (alike : List.Forall₂ SpacedAlike (splitOn ';' first) (splitOn ';' second))
  | recased (same : first.map Char.toUpper = second.map Char.toUpper)

/-- A text has one more piece than another one, and the piece counts for nothing. -/
inductive Interposes (first second : List Char) : Prop where
  | intro
    {before after : List (List Char)}
    {piece : List Char}
    (isFirst : splitOn ';' first = before ++ after)
    (isSecond : splitOn ';' second = before ++ piece :: after)
    (ignored : IsIgnored piece) : Interposes first second

/-- A text is laid out in another way. -/
inductive Relays (first second : List Char) : Prop where
  | rearranged (rearranges : Rearranges first second)
  | interposed (interposes : Interposes first second)

theorem part?_of_isIgnored {piece : List Char} (ignored : IsIgnored piece) :
    part? piece = none := by
  rcases ignored with blank | ⟨name, value, assigned, noKey⟩
  · exact part?_eq_none_of_isBlankText blank
  · rw [part?, readPart_trim_eq_ok_iff.mpr assigned]
    simp only [noKey, Option.map_none]

theorem isReadable_of_isIgnored {piece : List Char} (ignored : IsIgnored piece) :
    IsReadable piece := by
  rcases ignored with blank | ⟨name, value, assigned, _⟩
  · intro notBlank
    rw [blank] at notBlank
    cases notBlank
  · exact fun _ => ⟨name, value, assigned⟩

theorem readAlike_of_forall₂
    {first second : List (List Char)}
    (alike : List.Forall₂ AssignAlike first second) : ReadAlike first second := by
  induction alike with
  | nil => exact ⟨Iff.rfl, .refl _⟩
  | @cons piece other first second alikeHead _ hypothesis =>
      constructor
      · rw [List.forall_mem_cons, List.forall_mem_cons, alikeHead.isReadable_iff,
          hypothesis.readable]
      · rw [List.filterMap_cons, List.filterMap_cons, alikeHead.part?_eq]
        cases part? other with
        | none => exact hypothesis.parts
        | some part => exact hypothesis.parts.cons part

/-- Texts with the same capitals have pieces with the same capitals. -/
theorem map_splitOn_of_recased
    {first second : List Char}
    (same : first.map Char.toUpper = second.map Char.toUpper) :
    (splitOn ';' first).map (List.map Char.toUpper) =
      (splitOn ';' second).map (List.map Char.toUpper) := by
  rw [← splitOn_map_toUpper (by decide), ← splitOn_map_toUpper (by decide), same]

theorem readAlike_map_toUpper (pieces : List (List Char)) :
    ReadAlike (pieces.map (List.map Char.toUpper)) pieces := by
  apply readAlike_of_forall₂
  rw [List.forall₂_map_left_iff, List.forall₂_same]
  exact fun piece _ => assignAlike_map_toUpper piece

theorem ReadAlike.symm {first second : List (List Char)} (alike : ReadAlike first second) :
    ReadAlike second first :=
  ⟨alike.readable.symm, alike.parts.symm⟩

theorem ReadAlike.trans
    {first second third : List (List Char)}
    (alike : ReadAlike first second)
    (alikeNext : ReadAlike second third) : ReadAlike first third :=
  ⟨alike.readable.trans alikeNext.readable, alike.parts.trans alikeNext.parts⟩

theorem Rearranges.readAlike {first second : List Char} (rearranges : Rearranges first second) :
    ReadAlike (splitOn ';' first) (splitOn ';' second) := by
  cases rearranges with
  | reordered perm => exact ⟨by simp only [perm.mem_iff], perm.filterMap _⟩
  | spaced alike => exact readAlike_of_forall₂ (alike.imp fun _ _ => SpacedAlike.assignAlike)
  | recased same =>
      have first := readAlike_map_toUpper (splitOn ';' first)
      rw [map_splitOn_of_recased same] at first
      exact first.symm.trans (readAlike_map_toUpper _)

theorem Interposes.readAlike {first second : List Char} (interposes : Interposes first second) :
    ReadAlike (splitOn ';' first) (splitOn ';' second) := by
  obtain ⟨isFirst, isSecond, ignored⟩ := interposes
  rw [isFirst, isSecond]
  constructor
  · simp only [List.forall_mem_append, List.forall_mem_cons, isReadable_of_isIgnored ignored,
      true_and]
  · rw [List.filterMap_append, List.filterMap_append,
      List.filterMap_cons_none (part?_of_isIgnored ignored)]

/-! ## Bare texts -/

/-- A text is blank exactly when it is one blank piece. -/
theorem isBlankText_iff_splitOn {text : List Char} :
    isBlankText text = true ↔ ∃ piece, splitOn ';' text = [piece] ∧ isBlankText piece = true := by
  constructor
  · intro blank
    refine ⟨text, splitOn_of_notMem ?_, blank⟩
    intro isMember
    exact absurd (List.all_eq_true.mp blank ';' isMember) (by decide)
  · rintro ⟨piece, isPiece, blank⟩
    rw [← joinWith_splitOn ';' text, isPiece]
    exact blank

/-- A text is bare by its pieces: one blank piece alone is not bare, and none may be marked. -/
theorem isBare_iff {text : List Char} :
    IsBare text ↔
      (∀ piece, splitOn ';' text = [piece] → isBlankText piece = false) ∧
        ∀ piece ∈ splitOn ';' text, ¬IsMarked piece := by
  have notBlank : isBlankText text = false ↔
      ∀ piece, splitOn ';' text = [piece] → isBlankText piece = false := by
    rw [← Bool.not_eq_true, isBlankText_iff_splitOn]
    simp
  rw [← notBlank]
  exact ⟨fun bare => ⟨bare.notBlank, bare.unmarked⟩, fun bare => ⟨bare.1, bare.2⟩⟩

theorem isBare_map_toUpper {text : List Char} :
    IsBare (text.map Char.toUpper) ↔ IsBare text := by
  have samePieces : (∀ piece ∈ splitOn ';' (text.map Char.toUpper), ¬IsMarked piece) ↔
      ∀ piece ∈ splitOn ';' text, ¬IsMarked piece := by
    rw [splitOn_map_toUpper (by decide), List.forall_mem_map]
    simp only [isMarked_map_toUpper]
  constructor
  · intro bare
    exact ⟨isBlankText_map_toUpper text ▸ bare.notBlank, samePieces.mp bare.unmarked⟩
  · intro bare
    exact ⟨(isBlankText_map_toUpper text).trans bare.notBlank, samePieces.mpr bare.unmarked⟩

theorem exists_mem_of_forall₂
    {related : List Char → List Char → Prop}
    {first second : List (List Char)}
    (alike : List.Forall₂ related first second)
    {piece : List Char}
    (isPiece : piece ∈ second) : ∃ other ∈ first, related other piece := by
  induction alike with
  | nil => cases isPiece
  | @cons head other first second relatedHead _ hypothesis =>
      rcases List.mem_cons.mp isPiece with rfl | inRest
      · exact ⟨head, List.mem_cons_self, relatedHead⟩
      · obtain ⟨partner, isPartner, relatedPiece⟩ := hypothesis inRest
        exact ⟨partner, List.mem_cons_of_mem _ isPartner, relatedPiece⟩

theorem isBare_of_spaced
    {first second : List Char}
    (alike : List.Forall₂ SpacedAlike (splitOn ';' first) (splitOn ';' second))
    (bare : IsBare first) : IsBare second := by
  obtain ⟨notBlank, unmarked⟩ := isBare_iff.mp bare
  apply isBare_iff.mpr
  constructor
  · intro piece isSecond
    rw [isSecond] at alike
    obtain ⟨other, rest, alikePiece, alikeRest, isFirst⟩ := List.forall₂_cons_right_iff.mp alike
    rw [List.forall₂_nil_right_iff.mp alikeRest] at isFirst
    rw [← alikePiece.assignAlike.blank]
    exact notBlank other isFirst
  · intro piece isPiece
    obtain ⟨other, isOther, alikePiece⟩ := exists_mem_of_forall₂ alike isPiece
    rw [← alikePiece.isMarked_iff]
    exact unmarked other isOther

/-- A rearranged text is bare still. -/
theorem Rearranges.isBare
    {first second : List Char}
    (rearranges : Rearranges first second)
    (bare : IsBare first) : IsBare second := by
  cases rearranges with
  | reordered perm =>
      obtain ⟨notBlank, unmarked⟩ := isBare_iff.mp bare
      apply isBare_iff.mpr
      constructor
      · intro piece isSecond
        rw [isSecond, List.perm_singleton] at perm
        exact notBlank piece perm
      · intro piece isPiece
        exact unmarked piece (perm.mem_iff.mpr isPiece)
  | spaced alike => exact isBare_of_spaced alike bare
  | recased same =>
      rw [← isBare_map_toUpper, ← same, isBare_map_toUpper]
      exact bare

/-! ## Rules of texts in another layout -/

theorem isBlankText_mark_append
    {mark : List Char}
    (isMark : upper mark = rulePrefix)
    (text : List Char) : isBlankText (mark ++ text) = false := by
  cases mark with
  | nil => cases isMark
  | cons first mark =>
      have notBlank := isBlank_of_mem_mark isMark List.mem_cons_self
      rw [List.cons_append, isBlankText, List.all_cons, notBlank, Bool.false_and]

/-- What no step changes is the same for texts that are joined by steps. -/
theorem eq_of_eqvGen
    {Value : Type}
    {value : List Char → Value}
    {step : List Char → List Char → Prop}
    (keeps : ∀ first second, step first second → value first = value second)
    {first second : List Char}
    (joined : Relation.EqvGen step first second) : value first = value second := by
  induction joined with
  | rel first second isStep => exact keeps first second isStep
  | refl first => rfl
  | symm first second _ same => exact same.symm
  | trans first second third _ _ same sameNext => exact same.trans sameNext

/-- A text that is read as pieces spells the rule that the pieces come to. -/
theorem toOption_readRule
    {text : String}
    {pieces : List (List Char)}
    (notBlank : isBlankText text.toList = false)
    (isRead : readParts text.toList = addPieces [] pieces) :
    (readRule text).toOption = (outcome ruleOfParts pieces).map some := by
  unfold readRule outcome
  rw [notBlank, isRead]
  cases addPieces [] pieces with
  | error fault => rfl
  | ok parts =>
      dsimp only [Except.toOption, Option.bind_some]
      cases ruleOfParts parts <;> rfl

/-- Another layout makes no difference to what the pieces of a text come to. -/
theorem Relays.outcome_eq
    {Outcome : Type}
    {finish : Parts → Except RuleFault Outcome}
    {first second : List Char}
    (relays : Relays first second)
    (values : ReadsValues finish) :
    outcome finish (splitOn ';' first) = outcome finish (splitOn ';' second) := by
  cases relays with
  | rearranged rearranges => exact rearranges.readAlike.outcome_eq values
  | interposed interposes => exact interposes.readAlike.outcome_eq values

/-- Who depends on what pieces come to alone reads a bare text in any layout that keeps it, unless
a marked piece comes to the front. -/
theorem IsBare.reads_in_any_layout
    {Value : Type}
    {reads : String → Option Value}
    {comesTo : List (List Char) → Option Value}
    (depends : ∀ text pieces, isBlankText text.toList = false →
      readParts text.toList = addPieces [] pieces → reads text = comesTo pieces)
    {step : List Char → List Char → Prop}
    (keeps : ∀ first second, step first second →
      comesTo (splitOn ';' first) = comesTo (splitOn ';' second))
    {first second : String}
    (bare : IsBare first.toList)
    (notBlank : isBlankText second.toList = false)
    (joined : Relation.EqvGen step first.toList second.toList) :
    (¬IsMarked second.toList → reads second = reads first) ∧
      ∀ mark : String, upper mark.toList = rulePrefix → reads (mark ++ second) = reads first := by
  have unmarked := not_isMarked_of_pieces bare.unmarked
  have readsFirst : reads first = comesTo (splitOn ';' second.toList) :=
    (depends first _ bare.notBlank (readParts_of_not_isMarked unmarked)).trans
      (eq_of_eqvGen keeps joined)
  rw [readsFirst]
  constructor
  · intro unmarkedSecond
    exact depends second _ notBlank (readParts_of_not_isMarked unmarkedSecond)
  · intro mark isMark
    apply depends
    · rw [String.toList_append]
      exact isBlankText_mark_append isMark _
    · rw [String.toList_append]
      exact readParts_of_mark isMark _

end Recurrence
end Cadence
