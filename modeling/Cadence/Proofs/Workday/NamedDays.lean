import Cadence.Proofs.Recurrence.Grammar
import Cadence.Proofs.Recurrence.Layout
import Cadence.Workday.WorkingDays

/-!
# Named working days

The days of a rule text for working days may stand in any order, more than once, and under either
name.  Like the rule of a text, the working days do not depend on its layout.
-/

namespace Cadence
namespace Workday

open Calendar Recurrence Text

namespace WorkingDays

/-! ## Reading names -/

theorem readWeekdays_eq_ok_iff {names : List (List Char)} {weekdays : List Weekday} :
    readWeekdays names = .ok weekdays ↔ names.map readWeekday? = weekdays.map some := by
  induction names generalizing weekdays with
  | nil => cases weekdays <;> simp [readWeekdays]
  | cons name names hypothesis =>
      rw [readWeekdays, List.map_cons]
      cases weekdays with
      | nil => cases readWeekday? name <;> cases readWeekdays names <;> simp
      | cons weekday weekdays =>
          rw [List.map_cons, List.cons.injEq, ← hypothesis]
          cases readWeekday? name <;> cases readWeekdays names <;> simp

theorem ofList_congr
    {weekdays others : List Weekday}
    (same : ∀ weekday, weekday ∈ weekdays ↔ weekday ∈ others) :
    ofList weekdays = ofList others := by
  unfold ofList
  congr 1
  apply List.filter_congr
  intro weekday _
  rw [Bool.eq_iff_iff, List.contains_iff_mem, List.contains_iff_mem]
  exact same weekday

theorem exists_eq_map_some
    {named : List (Option Weekday)}
    (allNamed : none ∉ named) : ∃ weekdays : List Weekday, named = weekdays.map some := by
  induction named with
  | nil => exact ⟨[], rfl⟩
  | cons weekday? named hypothesis =>
      rw [List.mem_cons, not_or] at allNamed
      obtain ⟨weekdays, rfl⟩ := hypothesis allNamed.2
      cases weekday? with
      | none => exact absurd rfl allNamed.1
      | some weekday => exact ⟨weekday :: weekdays, rfl⟩

theorem map_ofList_eq_ok_iff {names : List (List Char)} {workingDays : WorkingDays} :
    (readWeekdays names).map ofList = .ok workingDays ↔
      ∃ weekdays : List Weekday, names.map readWeekday? = weekdays.map some ∧
        ofList weekdays = workingDays := by
  simp only [← readWeekdays_eq_ok_iff]
  cases readWeekdays names <;> simp [Except.map]

/-- Names are read into working days by the days that are among them. -/
theorem map_ofList_readWeekdays_congr
    {names others : List (List Char)}
    (same : ∀ weekday?, weekday? ∈ names.map readWeekday? ↔ weekday? ∈ others.map readWeekday?)
    {workingDays : WorkingDays}
    (reads : (readWeekdays names).map ofList = .ok workingDays) :
    (readWeekdays others).map ofList = .ok workingDays := by
  obtain ⟨weekdays, areNamed, rfl⟩ := map_ofList_eq_ok_iff.mp reads
  rw [areNamed] at same
  have allNamed : none ∉ others.map readWeekday? := by
    rw [← same]
    simp
  obtain ⟨otherWeekdays, othersNamed⟩ := exists_eq_map_some allNamed
  rw [othersNamed] at same
  apply map_ofList_eq_ok_iff.mpr
  refine ⟨otherWeekdays, othersNamed, ofList_congr ?_⟩
  intro weekday
  simpa using (same (some weekday)).symm

/-- The day that a name between commas stands for. -/
def dayOf (name : List Char) : Option Weekday :=
  readWeekday? (upper (trim name))

/-- Each name is read on its own, whatever the white space and the letter case of the list. -/
theorem map_readWeekday?_splitOn (names : List Char) :
    (splitOn ',' (upper (trim names))).map readWeekday? = (splitOn ',' names).map dayOf := by
  have onItsOwn : readWeekday? ∘ upper = readWeekday? ∘ upper ∘ trim := by
    funext name
    rw [Function.comp_apply, Function.comp_apply, Function.comp_apply, readWeekday?, readWeekday?,
      trim_upper_trim]
  have isDayOf : dayOf = (readWeekday? ∘ upper) ∘ trim := rfl
  rw [splitOn_upper, List.map_map, onItsOwn, isDayOf, ← Function.comp_assoc, ← List.map_map,
    map_trim_splitOn_trim (by decide), List.map_map]

theorem dayOf_eq_some {name : List Char} {weekday : Weekday} (isNamed : NamesWeekday name weekday) :
    dayOf name = some weekday :=
  readWeekday?_eq_some_iff.mpr isNamed.upper_trim

/-! ## Lists of days -/

/-- Lists of the same days: the same names in any order and any number of times, or one name of a
day for another. -/
inductive DaysAlike (names others : List Char) : Prop where
  | listed (same : ∀ name, name ∈ splitOn ',' names ↔ name ∈ splitOn ',' others)
  | renamed
    (alike : List.Forall₂
      (fun name other =>
        name = other ∨ ∃ weekday, NamesWeekday name weekday ∧ NamesWeekday other weekday)
      (splitOn ',' names) (splitOn ',' others))

theorem DaysAlike.symm {names others : List Char} (alike : DaysAlike names others) :
    DaysAlike others names := by
  cases alike with
  | listed same => exact .listed fun name => (same name).symm
  | renamed alike =>
      apply DaysAlike.renamed
      apply alike.flip.imp
      intro other name related
      exact related.imp Eq.symm fun ⟨weekday, isNamed, otherNamed⟩ =>
        ⟨weekday, otherNamed, isNamed⟩

theorem DaysAlike.mem_map_dayOf_iff
    {names others : List Char}
    (alike : DaysAlike names others)
    (weekday? : Option Weekday) :
    weekday? ∈ (splitOn ',' names).map dayOf ↔ weekday? ∈ (splitOn ',' others).map dayOf := by
  cases alike with
  | listed same => simp only [List.mem_map, same]
  | renamed alike =>
      have sameDays :
          List.Forall₂ Eq ((splitOn ',' names).map dayOf) ((splitOn ',' others).map dayOf) := by
        rw [List.forall₂_map_left_iff, List.forall₂_map_right_iff]
        apply alike.imp
        rintro name other (rfl | ⟨weekday, isNamed, otherNamed⟩)
        · rfl
        · rw [dayOf_eq_some isNamed, dayOf_eq_some otherNamed]
      rw [List.forall₂_eq_eq_eq] at sameDays
      rw [sameDays]

/-- A text has another list of the same days. -/
inductive Relists (first second : List Char) : Prop where
  | intro
    {before after : List (List Char)}
    {left names others : List Char}
    (isFirst : splitOn ';' first = before ++ (left ++ '=' :: names) :: after)
    (isSecond : splitOn ';' second = before ++ (left ++ '=' :: others) :: after)
    (isKey : upper (trim left) = Key.weekday.spelling)
    (alike : DaysAlike names others) : Relists first second

/-! ## Pieces that list days -/

section Days

variable {left names : List Char} (isKey : upper (trim left) = Key.weekday.spelling)
include isKey

theorem isBlankText_days_key : isBlankText left = false := by
  rw [← isEmpty_upper_trim, isKey]
  rfl

theorem equals_notMem_days_key : '=' ∉ left := by
  intro isMember
  have inCapitals := mem_upper_trim (by decide) isMember
  rw [isKey] at inCapitals
  exact absurd inCapitals (by decide)

theorem part?_days (valued : isBlankText names = false) :
    part? (left ++ '=' :: names) = some (.weekday, upper (trim names)) := by
  rw [part?_eq_some_iff, isAssignment_append_iff (equals_notMem_days_key isKey)]
  exact ⟨isBlankText_days_key isKey, valued, isKey.symm, rfl⟩

theorem isReadable_days_iff :
    IsReadable (left ++ '=' :: names) ↔ isBlankText names = false := by
  constructor
  · intro readable
    obtain ⟨name, value, assigned⟩ := readable (isBlankText_append_equals left names)
    exact ((isAssignment_append_iff (equals_notMem_days_key isKey)).mp assigned).2.1
  · intro valued _
    exact ⟨_, _, part?_eq_some_iff.mp (part?_days isKey valued)⟩

end Days

theorem readsValues_ofParts : ReadsValues ofParts := by
  intro parts others same
  unfold ofParts
  rw [same]

theorem ofParts_eq_ok_iff {parts : Parts} {workingDays : WorkingDays} :
    ofParts parts = .ok workingDays ↔
      parts.value? .frequency = some Frequency.weekly.code ∧
        ∃ names, parts.value? .weekday = some names ∧
          (readWeekdays (splitOn ',' names)).map ofList = .ok workingDays := by
  unfold ofParts
  split
  · next isWeekly =>
      rw [and_iff_right isWeekly]
      cases parts.value? .weekday <;> simp
  · next notWeekly => simp [notWeekly]

theorem isBlankText_of_readWeekdays
    {names : List Char}
    {workingDays : WorkingDays}
    (reads : (readWeekdays (splitOn ',' (upper (trim names)))).map ofList = .ok workingDays) :
    isBlankText names = false := by
  rw [← Bool.not_eq_true]
  intro blank
  rw [trim_eq_nil_iff.mpr blank] at reads
  cases reads

theorem Relists.symm {first second : List Char} (relists : Relists first second) :
    Relists second first := by
  obtain ⟨isFirst, isSecond, isKey, alike⟩ := relists
  exact .intro isSecond isFirst isKey alike.symm

theorem value?_append_cons_of_ne
    {key other : Key}
    (different : key ≠ other)
    (before after : Parts)
    (value : List Char) :
    Parts.value? (before ++ (key, value) :: after) other =
      Parts.value? (before ++ after) other := by
  unfold Parts.value?
  rw [List.find?_append, List.find?_append, List.find?_cons_of_neg (by simpa using different)]

/-- A text whose days are listed in another way has working days when the text has some. -/
theorem Relists.outcome_eq_some
    {first second : List Char}
    (relists : Relists first second)
    {workingDays : WorkingDays}
    (reads : outcome ofParts (splitOn ';' first) = some workingDays) :
    outcome ofParts (splitOn ';' second) = some workingDays := by
  obtain @⟨before, after, left, names, others, isFirst, isSecond, isKey, alike⟩ := relists
  obtain ⟨readable, distinct, finishes⟩ := outcome_eq_some_iff.mp reads
  rw [isFirst] at readable distinct finishes
  have valued : isBlankText names = false :=
    (isReadable_days_iff isKey).mp (readable _ (by simp))
  have isPart := part?_days isKey valued
  rw [List.filterMap_append, List.filterMap_cons_some isPart] at distinct finishes
  obtain ⟨isWeekly, value, isValue, areRead⟩ := ofParts_eq_ok_iff.mp finishes
  have isNames := (Parts.value?_eq_some_iff distinct).mpr List.mem_append_cons_self
  obtain rfl : upper (trim names) = value := Option.some.inj (isNames.symm.trans isValue)
  have othersRead : (readWeekdays (splitOn ',' (upper (trim others)))).map ofList =
      .ok workingDays := by
    apply map_ofList_readWeekdays_congr _ areRead
    rw [map_readWeekday?_splitOn, map_readWeekday?_splitOn]
    exact alike.mem_map_dayOf_iff
  have othersValued := isBlankText_of_readWeekdays othersRead
  have othersPart := part?_days isKey othersValued
  rw [isSecond]
  apply outcome_eq_some_iff.mpr
  rw [List.filterMap_append, List.filterMap_cons_some othersPart]
  have stillDistinct :
      ((before.filterMap part? ++ (.weekday, upper (trim others)) :: after.filterMap part?).map
        Prod.fst).Nodup := by
    rwa [List.map_append, List.map_cons] at distinct ⊢
  refine ⟨?_, stillDistinct, ofParts_eq_ok_iff.mpr ⟨?_, _, ?_, othersRead⟩⟩
  · rw [List.forall_mem_append, List.forall_mem_cons] at readable ⊢
    exact ⟨readable.1, (isReadable_days_iff isKey).mpr othersValued, readable.2.2⟩
  · rw [value?_append_cons_of_ne (by decide)] at isWeekly ⊢
    exact isWeekly
  · exact (Parts.value?_eq_some_iff stillDistinct).mpr List.mem_append_cons_self

theorem Relists.outcome_eq {first second : List Char} (relists : Relists first second) :
    outcome ofParts (splitOn ';' first) = outcome ofParts (splitOn ';' second) := by
  apply Option.ext
  intro workingDays
  exact ⟨relists.outcome_eq_some, relists.symm.outcome_eq_some⟩

theorem Relists.isBare
    {first second : List Char}
    (relists : Relists first second)
    (bare : IsBare first) : IsBare second := by
  obtain @⟨before, after, left, names, others, isFirst, isSecond, isKey, alike⟩ := relists
  have unmarked := bare.unmarked
  apply isBare_iff.mpr
  rw [isFirst, List.forall_mem_append, List.forall_mem_cons] at unmarked
  rw [isSecond, List.forall_mem_append, List.forall_mem_cons]
  constructor
  · intro piece isOnly
    have isPiece : left ++ '=' :: others ∈ [piece] := by
      rw [← isOnly]
      exact List.mem_append_cons_self
    rw [← List.mem_singleton.mp isPiece]
    exact isBlankText_append_equals left others
  · refine ⟨unmarked.1, ?_, unmarked.2.2⟩
    rw [isMarked_append_iff (by decide)] at unmarked ⊢
    exact unmarked.2.1

/-! ## Working days of texts in another layout -/

/-- A text is rearranged, or lists the same days in another way. -/
inductive RearrangesDays (first second : List Char) : Prop where
  | layout (rearranges : Rearranges first second)
  | days (relists : Relists first second)

/-- A text is laid out in another way, or lists the same days in another way. -/
inductive RelaysDays (first second : List Char) : Prop where
  | layout (relays : Relays first second)
  | days (relists : Relists first second)

theorem RelaysDays.outcome_eq {first second : List Char} (relays : RelaysDays first second) :
    outcome ofParts (splitOn ';' first) = outcome ofParts (splitOn ';' second) := by
  cases relays with
  | layout relays => exact relays.outcome_eq readsValues_ofParts
  | days relists => exact relists.outcome_eq

theorem RearrangesDays.isBare
    {first second : List Char}
    (rearranges : RearrangesDays first second)
    (bare : IsBare first) : IsBare second := by
  cases rearranges with
  | layout rearranges => exact rearranges.isBare bare
  | days relists => exact relists.isBare bare

/-- A text that is read as pieces names the working days that the pieces come to. -/
theorem toOption_read
    {text : String}
    {pieces : List (List Char)}
    (notBlank : isBlankText text.toList = false)
    (isRead : readParts text.toList = addPieces [] pieces) :
    (read text).toOption = outcome ofParts pieces := by
  unfold read outcome
  simp only [notBlank, Bool.false_eq_true, if_false]
  rw [isRead]
  cases addPieces [] pieces with
  | error fault => rfl
  | ok parts =>
      dsimp only [Except.toOption, Option.bind_some]
      cases ofParts parts <;> rfl

theorem splitOn_of_namesWeekday
    {name : List Char}
    {weekday : Weekday}
    (isNamed : NamesWeekday name weekday) : splitOn ',' name = [name] := by
  apply splitOn_of_notMem
  intro isMember
  have inCapitals := mem_upper_trim (by decide) isMember
  rcases isNamed with isCode | isShortCode
  · rw [isCode] at inCapitals
    exact notMem_of_isPlain (isPlain_weekdayCode weekday) (by decide) inCapitals
  · rw [isShortCode] at inCapitals
    exact notMem_of_isPlain (isPlainPart_shortCode weekday).2 (by decide) inCapitals

theorem ofList_singleton (weekday : Weekday) : ofList [weekday] = ⟨[weekday]⟩ := by
  cases weekday <;> decide

/-- The text of a weekly rule names the weekday of the rule as the only working day. -/
theorem read_of_readRule
    {text : String}
    {rule : Rule}
    {weekday : Weekday}
    (isRead : readRule text = .ok (some rule))
    (isWeekly : rule.pattern = .weekly (some weekday)) : read text = .ok ⟨[weekday]⟩ := by
  have spelled := isSpelled_of_readRule isRead
  have hasFrequency : rule.frequency? = some .weekly := by
    rw [Rule.frequency?, isWeekly]
    rfl
  have hasWeekday : rule.selectors.weekday = some weekday := by
    rw [Rule.selectors, isWeekly]
    rfl
  obtain ⟨value, given, isNamed⟩ := ((spelled.weekday weekday).mp hasWeekday).2
  obtain ⟨notBlank, parts, partsRead, _⟩ := readRule_eq_ok_some_iff.mp isRead
  obtain ⟨_, once, rfl⟩ := readParts_eq_ok_iff.mp partsRead
  have valueOf := value?_filterMap_part?_eq_some_iff once
  have named : ofParts ((rulePieces text.toList).filterMap part?) = .ok ⟨[weekday]⟩ := by
    apply ofParts_eq_ok_iff.mpr
    refine ⟨(valueOf _ _).mpr ((spelled.frequency _).mp hasFrequency), value,
      (valueOf _ _).mpr given, ?_⟩
    rw [splitOn_of_namesWeekday isNamed]
    apply map_ofList_eq_ok_iff.mpr
    refine ⟨[weekday], ?_, ofList_singleton weekday⟩
    rw [List.map_singleton, readWeekday?_eq_some_iff.mpr isNamed]
    rfl
  unfold read
  simp only [notBlank, Bool.false_eq_true, if_false]
  rw [partsRead]
  dsimp only
  rw [named]

end WorkingDays

open WorkingDays

/-- A rule text is read in any layout: its pieces in another order, white space around pieces, keys
and values, letters in the other case, and blank pieces or pieces of unknown keys among them make
no difference to the rule or to the working days, and nor does the mark in front.  Only a marked
piece may not come to the front, where its mark would be taken for the mark of the text.  Working
days depend on which days are listed alone, and a weekly rule names one. -/
theorem rule_texts_read_in_any_layout :
    (∀ first second : String, IsBare first.toList → isBlankText second.toList = false →
      Relation.EqvGen Relays first.toList second.toList →
      (¬IsMarked second.toList → (readRule second).toOption = (readRule first).toOption) ∧
      ∀ mark : String, upper mark.toList = rulePrefix →
        (readRule (mark ++ second)).toOption = (readRule first).toOption) ∧
    (∀ first second : String, IsBare first.toList → isBlankText second.toList = false →
      Relation.EqvGen RelaysDays first.toList second.toList →
      (¬IsMarked second.toList →
        (WorkingDays.read second).toOption = (WorkingDays.read first).toOption) ∧
      ∀ mark : String, upper mark.toList = rulePrefix →
        (WorkingDays.read (mark ++ second)).toOption = (WorkingDays.read first).toOption) ∧
    (∀ first second : List Char, IsBare first → RearrangesDays first second →
      IsBare second ∧ isBlankText second = false ∧ ¬IsMarked second) ∧
    (∀ text rule weekday, readRule text = .ok (some rule) →
      rule.pattern = .weekly (some weekday) → WorkingDays.read text = .ok ⟨[weekday]⟩) := by
  refine ⟨?_, ?_, ?_, ?_⟩
  · intro first second bare notBlank joined
    apply bare.reads_in_any_layout _ _ notBlank joined
    · exact fun pieces => (outcome ruleOfParts pieces).map some
    · intro text pieces
      exact toOption_readRule
    · intro first second relays
      rw [relays.outcome_eq readsValues_ruleOfParts]
  · intro first second bare notBlank joined
    apply bare.reads_in_any_layout _ _ notBlank joined
    · exact outcome ofParts
    · intro text pieces
      exact toOption_read
    · intro first second relays
      exact relays.outcome_eq
  · intro first second bare rearranges
    have stillBare := rearranges.isBare bare
    exact ⟨stillBare, stillBare.notBlank, not_isMarked_of_pieces stillBare.unmarked⟩
  · intro text rule weekday
    exact read_of_readRule

/-- A weekly rule in small letters, with its day in front and a note behind it, spells the same
rule, and under the other name of its day it names the same day. -/
theorem rule_texts_read_in_any_layout_monday :
    let first := "FREQ=WEEKLY;BYDAY=MO"
    let second := "byday=mo;x-note=rent;freq=weekly"
    let third := "byday=monday;x-note=rent;freq=weekly"
    (readRule second).toOption = (readRule first).toOption ∧
      (readRule ("rRule:" ++ second)).toOption = (readRule first).toOption ∧
      (WorkingDays.read third).toOption = (WorkingDays.read first).toOption ∧
      (WorkingDays.read ("RRULE:" ++ third)).toOption = (WorkingDays.read first).toOption ∧
      IsBare "BYDAY=MO;FREQ=WEEKLY".toList ∧
      WorkingDays.read first = .ok ⟨[.monday]⟩ := by
  intro first second third
  obtain ⟨rules, days, rearranged, weekly⟩ := rule_texts_read_in_any_layout
  have bare : IsBare first.toList := ⟨by decide, by decide⟩
  have reordered : Rearranges first.toList "BYDAY=MO;FREQ=WEEKLY".toList :=
    .reordered (by decide)
  have noted : Interposes "BYDAY=MO;FREQ=WEEKLY".toList
      "BYDAY=MO;X-NOTE=RENT;FREQ=WEEKLY".toList := by
    have assigned : IsAssignment "X-NOTE=RENT".toList "X-NOTE".toList "RENT".toList :=
      readPart_trim_eq_ok_iff.mp rfl
    apply @Interposes.intro _ _ ["BYDAY=MO".toList] ["FREQ=WEEKLY".toList] "X-NOTE=RENT".toList
    · decide
    · decide
    · exact .inr ⟨_, _, assigned, by decide⟩
  have recased : Rearranges "BYDAY=MO;X-NOTE=RENT;FREQ=WEEKLY".toList second.toList :=
    .recased (by decide)
  have renamed : Relists second.toList third.toList := by
    apply @Relists.intro _ _ [] ["x-note=rent".toList, "freq=weekly".toList] "byday".toList
      "mo".toList "monday".toList
    · decide
    · decide
    · decide
    · apply DaysAlike.renamed
      exact .cons (.inr ⟨.monday, .inr (by decide), .inl (by decide)⟩) .nil
  have relaid : Relation.EqvGen Relays first.toList second.toList :=
    .trans _ _ _ (.rel _ _ (.rearranged reordered))
      (.trans _ _ _ (.rel _ _ (.interposed noted)) (.rel _ _ (.rearranged recased)))
  have relaidDays : Relation.EqvGen RelaysDays first.toList third.toList :=
    .trans _ _ _ (relaid.mono fun _ _ => .layout) (.rel _ _ (.days renamed))
  obtain ⟨sameRule, sameMarkedRule⟩ := rules first second bare (by decide) relaid
  obtain ⟨sameDays, sameMarkedDays⟩ := days first third bare (by decide) relaidDays
  have isRead : readRule "FREQ=WEEKLY;BYDAY=MO" =
      .ok (some ⟨1, .weekly (some .monday), by decide⟩) := rfl
  exact ⟨sameRule (by decide), sameMarkedRule "rRule:" (by decide), sameDays (by decide),
    sameMarkedDays "RRULE:" (by decide), (rearranged _ _ bare (.layout reordered)).1,
    weekly _ _ .monday isRead rfl⟩

/-- A marked piece in front of a daily rule is read with it, though anywhere else it counts for
nothing: the rule keeps every other day. -/
theorem marked_piece_in_front_is_read :
    let first := "FREQ=DAILY"
    let second := "RRULE:INTERVAL=2;FREQ=DAILY"
    IsBare first.toList ∧ isBlankText second.toList = false ∧
      Interposes first.toList second.toList ∧
      readRule first = .ok (some ⟨1, .daily, by decide⟩) ∧
      readRule second = .ok (some ⟨2, .daily, by decide⟩) := by
  intro first second
  have assigned : IsAssignment "RRULE:INTERVAL=2".toList "RRULE:INTERVAL".toList "2".toList :=
    readPart_trim_eq_ok_iff.mp rfl
  have daily : readRule "FREQ=DAILY" = .ok (some ⟨1, .daily, by decide⟩) := rfl
  have everyOtherDay : readRule "RRULE:INTERVAL=2;FREQ=DAILY" =
      .ok (some ⟨2, .daily, by decide⟩) := rfl
  refine ⟨⟨by decide, by decide⟩, by decide, ?_, daily, everyOtherDay⟩
  apply @Interposes.intro _ _ [] ["FREQ=DAILY".toList] "RRULE:INTERVAL=2".toList
  · decide
  · decide
  · exact .inr ⟨_, _, assigned, by decide⟩

end Workday
end Cadence
