import Cadence.Proofs.Number.Numerals
import Cadence.Proofs.Recurrence.SpelledFields
import Cadence.Proofs.Recurrence.TypedParts

/-!
# The grammar of rule texts

Which texts spell a rule, and which rule a text spells, said by the pieces of the text alone.
The reader accepts exactly these texts and gives exactly that rule, unless a number has too many
digits.
-/

namespace Cadence
namespace Recurrence

open Calendar Number Stored Text

/-! ## What pieces give -/

section Given

variable (pieces : List (List Char))

/-- Some piece gives a whole number for a key. -/
def GivesNumber (key : Key) (number : Int) : Prop :=
  ∃ value, Gives pieces key value ∧ SpellsInteger value number

/-- A value is the name or the short code of a weekday. -/
def NamesWeekday (value : List Char) (weekday : Weekday) : Prop :=
  upper (trim value) = weekday.code ∨ upper (trim value) = weekday.shortCode

/-- Some piece gives a weekday. -/
def GivesWeekday (weekday : Weekday) : Prop :=
  ∃ value, Gives pieces .weekday value ∧ NamesWeekday value weekday

/-- A weekday is given together with a place among equal weekdays: one of the first four, or
the last. -/
def CountsWeekday : Prop :=
  (∃ ordinal : WeekdayOrdinal, GivesNumber pieces .ordinal ordinal.number) ∧
    ∃ weekday, GivesWeekday pieces weekday

/-- A place among equal weekdays counts for months, when a weekday is given with it. -/
def KeepsOrdinal : Prop :=
  Gives pieces .frequency Frequency.monthly.code ∧ CountsWeekday pieces

/-- A weekday counts for weeks, and for months in which it has a place. -/
def KeepsWeekday : Prop :=
  Gives pieces .frequency Frequency.weekly.code ∨ KeepsOrdinal pieces

/-- A day of the month counts for years, and for months without a counted weekday. -/
def KeepsMonthDay : Prop :=
  Gives pieces .frequency Frequency.yearly.code ∨
    Gives pieces .frequency Frequency.monthly.code ∧ ¬CountsWeekday pieces

/-- A month counts for years. -/
def KeepsMonth : Prop :=
  Gives pieces .frequency Frequency.yearly.code

/-- The pieces of a text that spells a rule. -/
structure InGrammar : Prop where
  /-- Every piece is blank or assigns a value. -/
  readable : ∀ piece ∈ pieces, IsReadable piece
  /-- No key is assigned twice. -/
  once : AssignsOnce pieces
  frequency : ∃ frequency : Frequency, Gives pieces .frequency frequency.code
  interval : ∀ value, Gives pieces .interval value →
    ∃ number, SpellsInteger value number ∧ 1 ≤ number
  weekday : ∀ value, Gives pieces .weekday value → ∃ weekday, NamesWeekday value weekday
  numbers : ∀ key ∈ [Key.monthDay, .ordinal, .month], ∀ value, Gives pieces key value →
    ∃ number, SpellsInteger value number
  monthDay : KeepsMonthDay pieces → ∀ number, GivesNumber pieces .monthDay number →
    number = -1 ∨ 1 ≤ number ∧ number ≤ 31
  month : KeepsMonth pieces → ∀ number, GivesNumber pieces .month number →
    1 ≤ number ∧ number ≤ 12

/-- No number that is given has too many digits, leading zeros included. -/
def AreShort : Prop :=
  ∀ key ∈ [Key.interval, .monthDay, .ordinal, .month], ∀ value, Gives pieces key value →
    digitCount value ≤ digitLimit

/-- The rule that the pieces of a text spell. -/
structure IsSpelled (rule : Rule) : Prop where
  frequency : ∀ frequency : Frequency,
    rule.frequency? = some frequency ↔ Gives pieces .frequency frequency.code
  /-- The interval is the one that is given, or 1 when none is. -/
  interval : ∀ number : Int, rule.interval = number ↔
    GivesNumber pieces .interval number ∨ number = 1 ∧ ∀ value, ¬Gives pieces .interval value
  weekday : ∀ weekday, rule.selectors.weekday = some weekday ↔
    KeepsWeekday pieces ∧ GivesWeekday pieces weekday
  ordinal : ∀ ordinal, rule.selectors.ordinal = some ordinal ↔
    KeepsOrdinal pieces ∧ GivesNumber pieces .ordinal ordinal.number
  monthDay : ∀ day, rule.selectors.monthDay = some day ↔
    KeepsMonthDay pieces ∧ GivesNumber pieces .monthDay day.number
  month : ∀ month, rule.selectors.month = some month ↔
    KeepsMonth pieces ∧ GivesNumber pieces .month month.number

end Given

/-! ## The fields that are kept for a frequency -/

section KeptFields

variable
  {frequency : Frequency}
  {interval : Int}
  {weekday : Option Weekday}
  {monthDay : Option Int}
  {ordinal : Option WeekdayOrdinal}
  {month : Option Int}

theorem weekday_usedFields_eq_some_iff {code : List Char} :
    (usedFields frequency interval weekday monthDay ordinal month).weekday = some code ↔
      (frequency = .weekly ∨
        frequency = .monthly ∧ ordinal.isSome = true ∧ weekday.isSome = true) ∧
      weekday.map Weekday.code = some code := by
  cases frequency <;> cases ordinal <;> cases weekday <;> simp [usedFields]

theorem ordinal_usedFields_eq_some_iff {number : Int} :
    (usedFields frequency interval weekday monthDay ordinal month).ordinal = some number ↔
      (frequency = .monthly ∧ ordinal.isSome = true ∧ weekday.isSome = true) ∧
      ordinal.map WeekdayOrdinal.number = some number := by
  cases frequency <;> cases ordinal <;> cases weekday <;> simp [usedFields]

theorem monthDay_usedFields_eq_some_iff {number : Int} :
    (usedFields frequency interval weekday monthDay ordinal month).monthDay = some number ↔
      (frequency = .yearly ∨
        frequency = .monthly ∧ ¬(ordinal.isSome = true ∧ weekday.isSome = true)) ∧
      monthDay = some number := by
  cases frequency <;> cases ordinal <;> cases weekday <;> simp [usedFields]

theorem month_usedFields_eq_some_iff {number : Int} :
    (usedFields frequency interval weekday monthDay ordinal month).month = some number ↔
      frequency = .yearly ∧ month = some number := by
  cases frequency <;> cases ordinal <;> cases weekday <;> simp [usedFields]

end KeptFields

/-! ## Parts and pieces -/

theorem weekdayCode_injective : Function.Injective Weekday.code := by
  intro first second sameCode
  simpa using congrArg Weekday.ofCode? sameCode

theorem ordinalNumber_injective : Function.Injective WeekdayOrdinal.number := by
  intro left right sameNumber
  simpa using congrArg WeekdayOrdinal.ofNumber? sameNumber

theorem monthNumber_injective :
    Function.Injective fun month : Month => (month.number : Int) := by
  intro first second sameNumber
  simpa using congrArg Month.ofNumber? sameNumber

/-- A set field has the spelling of what it means and of nothing else. -/
theorem map_eq_some_iff_of_injective
    {Given Meaning : Type}
    {spell : Meaning → Given}
    (injective : Function.Injective spell)
    {given : Option Meaning}
    {meaning : Meaning} : given.map spell = some (spell meaning) ↔ given = some meaning :=
  (Option.map_injective injective).eq_iff' rfl

theorem readWeekday?_eq_some_iff {value : List Char} {weekday : Weekday} :
    readWeekday? value = some weekday ↔ NamesWeekday value weekday := by
  unfold readWeekday? NamesWeekday
  constructor
  · intro understood
    have found := List.find?_some understood
    rw [Bool.or_eq_true, beq_iff_eq, beq_iff_eq] at found
    exact found.imp Eq.symm Eq.symm
  · rintro (isCode | isShortCode)
    · rw [isCode, Weekday.ofCodeOrShortCode?_code]
    · rw [isShortCode, Weekday.ofCodeOrShortCode?_shortCode]

/-- A name in capitals, without white space around it, names the same weekday. -/
theorem NamesWeekday.upper_trim
    {value : List Char}
    {weekday : Weekday}
    (isNamed : NamesWeekday value weekday) : NamesWeekday (upper (trim value)) weekday := by
  rcases isNamed with isCode | isShortCode
  · left
    have plain := isPlain_weekdayCode weekday
    rw [isCode, trim_eq_self plain, upper_eq_self plain]
  · right
    have plain := (isPlainPart_shortCode weekday).2
    rw [isShortCode, trim_eq_self plain, upper_eq_self plain]

section Parts

variable {pieces : List (List Char)} {parts : Parts}
variable (given : ∀ key value, parts.value? key = some value ↔ Gives pieces key value)
include given

theorem givesNumber_iff
    (short : AreShort pieces)
    {key : Key}
    (isNumeric : key ∈ [Key.interval, .monthDay, .ordinal, .month])
    {number : Int} :
    GivesNumber pieces key number ↔ parts.number? key = some number := by
  unfold GivesNumber Parts.number?
  rw [Option.bind_eq_some_iff]
  simp only [given, readInteger?_eq_some_iff]
  constructor
  · rintro ⟨value, isGiven, spells⟩
    exact ⟨value, isGiven, spells, short key isNumeric value isGiven⟩
  · rintro ⟨value, isGiven, spells, _⟩
    exact ⟨value, isGiven, spells⟩

theorem givesWeekday_iff {weekday : Weekday} :
    GivesWeekday pieces weekday ↔ parts.weekday? = some weekday := by
  unfold GivesWeekday Parts.weekday?
  rw [Option.bind_eq_some_iff]
  simp only [given, readWeekday?_eq_some_iff]

theorem givesOrdinal_iff (short : AreShort pieces) {ordinal : WeekdayOrdinal} :
    GivesNumber pieces .ordinal ordinal.number ↔ parts.ordinal? = some ordinal := by
  rw [givesNumber_iff given short (by decide)]
  unfold Parts.ordinal?
  rw [Option.bind_eq_some_iff]
  constructor
  · intro isNumber
    exact ⟨_, isNumber, WeekdayOrdinal.ofNumber?_number ordinal⟩
  · rintro ⟨number, isNumber, understood⟩
    rw [isNumber, ordinalNumber_of_ofNumber? understood]

theorem countsWeekday_iff (short : AreShort pieces) :
    CountsWeekday pieces ↔ parts.ordinal?.isSome = true ∧ parts.weekday?.isSome = true := by
  unfold CountsWeekday
  simp only [givesOrdinal_iff given short, givesWeekday_iff given, Option.isSome_iff_exists]

theorem understood_iff
    {Meaning : Type}
    {read? : List Char → Option Meaning}
    {key : Key} :
    (∀ value, parts.value? key = some value → (read? value).isSome = true) ↔
      ∀ value, Gives pieces key value → ∃ meaning, read? value = some meaning := by
  simp only [given, Option.isSome_iff_exists]

/-- A number can be understood when it is spelled with few enough digits. -/
theorem numberUnderstood_iff {key : Key} :
    (∀ value, parts.value? key = some value → (readInteger? value).isSome = true) ↔
      ∀ value, Gives pieces key value →
        (∃ number, SpellsInteger value number) ∧ digitCount value ≤ digitLimit := by
  rw [understood_iff given]
  simp only [readInteger?_eq_some_iff, exists_and_right]

/-- All that is given for keys other than the frequency can be understood. -/
theorem areUnderstood_iff :
    parts.AreUnderstood ↔
      ((∀ value, Gives pieces .interval value →
        ∃ number, SpellsInteger value number ∧ 1 ≤ number) ∧
      (∀ value, Gives pieces .weekday value → ∃ weekday, NamesWeekday value weekday) ∧
      ∀ key ∈ [Key.monthDay, .ordinal, .month], ∀ value, Gives pieces key value →
        ∃ number, SpellsInteger value number) ∧
      AreShort pieces := by
  constructor
  · rintro ⟨numbers, weekday, positive⟩
    have short : AreShort pieces := fun key isNumeric value isGiven =>
      ((numberUnderstood_iff given).mp (numbers key isNumeric) value isGiven).2
    refine ⟨⟨?_, ?_, ?_⟩, short⟩
    · intro value isGiven
      obtain ⟨⟨number, spells⟩, _⟩ :=
        (numberUnderstood_iff given).mp (numbers .interval (by decide)) value isGiven
      have isNumber :=
        (givesNumber_iff given short (by decide)).mp ⟨value, isGiven, spells⟩
      rw [isNumber] at positive
      exact ⟨number, spells, positive⟩
    · simpa only [readWeekday?_eq_some_iff] using (understood_iff given).mp weekday
    · intro key isNumeric value isGiven
      exact ((numberUnderstood_iff given).mp
        (numbers key (List.mem_cons_of_mem _ isNumeric)) value isGiven).1
  · rintro ⟨⟨interval, weekday, numbers⟩, short⟩
    refine ⟨?_, ?_, ?_⟩
    · intro key isNumeric
      apply (numberUnderstood_iff given).mpr
      intro value isGiven
      refine ⟨?_, short key isNumeric value isGiven⟩
      rcases List.mem_cons.mp isNumeric with rfl | isOther
      · obtain ⟨number, spells, _⟩ := interval value isGiven
        exact ⟨number, spells⟩
      · exact numbers key isOther value isGiven
    · apply (understood_iff given).mpr
      simpa only [readWeekday?_eq_some_iff] using weekday
    · cases isNumber : parts.number? .interval with
      | none => decide
      | some number =>
          obtain ⟨value, isValue, isRead⟩ := Option.bind_eq_some_iff.mp isNumber
          have isGiven := (given _ _).mp isValue
          obtain ⟨other, spells, positive⟩ := interval value isGiven
          have otherRead :=
            readInteger?_eq_some_iff.mpr ⟨spells, short _ (by decide) value isGiven⟩
          rw [isRead] at otherRead
          cases otherRead
          exact positive

/-- An interval is left out exactly when no piece gives one. -/
theorem number?_eq_none_iff (understood : parts.AreUnderstood) :
    parts.number? .interval = none ↔ ∀ value, ¬Gives pieces .interval value := by
  constructor
  · intro noNumber value isGiven
    have isValue := (given _ _).mpr isGiven
    have isRead := understood.numbers _ (by decide) _ isValue
    rw [Parts.number?, isValue, Option.bind_some] at noNumber
    rw [noNumber] at isRead
    cases isRead
  · intro noneGiven
    cases isValue : parts.value? .interval with
    | none => rw [Parts.number?, isValue, Option.bind_none]
    | some value => exact absurd ((given _ _).mp isValue) (noneGiven value)

section Kept

variable {frequency : Frequency}
variable (named : parts.value? .frequency = some frequency.code)
include named

theorem gives_frequency_iff {other : Frequency} :
    Gives pieces .frequency other.code ↔ frequency = other := by
  rw [← given, named, Option.some.injEq]
  exact ⟨Frequency.code_injective, congrArg Frequency.code⟩

section Short

variable (short : AreShort pieces)
include short

theorem weekday_fields_eq_some_iff {weekday : Weekday} :
    (parts.fields frequency).weekday = some weekday.code ↔
      KeepsWeekday pieces ∧ GivesWeekday pieces weekday := by
  unfold Parts.fields KeepsWeekday KeepsOrdinal
  rw [weekday_usedFields_eq_some_iff, gives_frequency_iff given named,
    gives_frequency_iff given named, countsWeekday_iff given short, givesWeekday_iff given,
    map_eq_some_iff_of_injective weekdayCode_injective]

theorem ordinal_fields_eq_some_iff {ordinal : WeekdayOrdinal} :
    (parts.fields frequency).ordinal = some ordinal.number ↔
      KeepsOrdinal pieces ∧ GivesNumber pieces .ordinal ordinal.number := by
  unfold Parts.fields KeepsOrdinal
  rw [ordinal_usedFields_eq_some_iff, gives_frequency_iff given named,
    countsWeekday_iff given short, givesOrdinal_iff given short,
    map_eq_some_iff_of_injective ordinalNumber_injective]

theorem monthDay_fields_eq_some_iff {number : Int} :
    (parts.fields frequency).monthDay = some number ↔
      KeepsMonthDay pieces ∧ GivesNumber pieces .monthDay number := by
  unfold Parts.fields KeepsMonthDay
  rw [monthDay_usedFields_eq_some_iff, gives_frequency_iff given named,
    gives_frequency_iff given named, countsWeekday_iff given short,
    givesNumber_iff given short (by decide)]

theorem month_fields_eq_some_iff {number : Int} :
    (parts.fields frequency).month = some number ↔
      KeepsMonth pieces ∧ GivesNumber pieces .month number := by
  unfold Parts.fields KeepsMonth
  rw [month_usedFields_eq_some_iff, gives_frequency_iff given named,
    givesNumber_iff given short (by decide)]

end Short

/-- A rule with the fields that understood parts spell is spelled by the pieces. -/
theorem isSpelled_of_fields_eq
    (understood : parts.AreUnderstood)
    {rule : Rule}
    (same : rule.fields = parts.fields frequency) : IsSpelled pieces rule := by
  have short := ((areUnderstood_iff given).mp understood).2
  have supported : rule.frequency? = some frequency := by
    apply Rule.frequency?_of_frequencyCode
    exact (congrArg Fields.frequency same).trans frequency_usedFields
  have isInterval : (rule.interval : Int) = (parts.number? .interval).getD 1 := by
    have sameInterval := (congrArg Fields.interval same).trans interval_usedFields
    exact Value.int.inj sameInterval
  refine ⟨?_, ?_, ?_, ?_, ?_, ?_⟩
  · intro other
    rw [supported, gives_frequency_iff given named, Option.some.injEq]
  · intro number
    rw [isInterval, givesNumber_iff given short (by decide),
      ← number?_eq_none_iff given understood]
    cases parts.number? .interval <;> simp [eq_comm]
  · intro weekday
    rw [← weekday_fields_eq_some_iff given named short, ← same]
    exact (map_eq_some_iff_of_injective weekdayCode_injective).symm
  · intro ordinal
    rw [← ordinal_fields_eq_some_iff given named short, ← same]
    exact (map_eq_some_iff_of_injective ordinalNumber_injective).symm
  · intro day
    rw [← monthDay_fields_eq_some_iff given named short, ← same]
    exact (map_eq_some_iff_of_injective fun _ _ => MonthDay.number_injective).symm
  · intro month
    rw [← month_fields_eq_some_iff given named short, ← same]
    exact (map_eq_some_iff_of_injective monthNumber_injective).symm

end Kept

end Parts

theorem Selectors.eq_of_each_eq
    {first second : Selectors}
    (sameWeekday : first.weekday = second.weekday)
    (sameMonthDay : first.monthDay = second.monthDay)
    (sameOrdinal : first.ordinal = second.ordinal)
    (sameMonth : first.month = second.month) : first = second := by
  cases first
  cases second
  rw [Selectors.mk.injEq]
  exact ⟨sameWeekday, sameMonthDay, sameOrdinal, sameMonth⟩

/-- Two rules that the same pieces spell are equal. -/
theorem IsSpelled.eq
    {pieces : List (List Char)}
    {frequency : Frequency}
    (named : Gives pieces .frequency frequency.code)
    {first second : Rule}
    (firstSpelled : IsSpelled pieces first)
    (secondSpelled : IsSpelled pieces second) : first = second := by
  have firstFrequency : first.pattern.frequency? = some frequency :=
    (firstSpelled.frequency frequency).mpr named
  have secondFrequency : second.pattern.frequency? = some frequency :=
    (secondSpelled.frequency frequency).mpr named
  have sameInterval : first.interval = second.interval := by
    have given := (firstSpelled.interval first.interval).mp rfl
    exact_mod_cast ((secondSpelled.interval first.interval).mpr given).symm
  have sameSelectors : first.pattern.selectors = second.pattern.selectors := by
    apply Selectors.eq_of_each_eq <;> apply Option.ext
    · exact fun weekday =>
        (firstSpelled.weekday weekday).trans (secondSpelled.weekday weekday).symm
    · exact fun day => (firstSpelled.monthDay day).trans (secondSpelled.monthDay day).symm
    · exact fun ordinal =>
        (firstSpelled.ordinal ordinal).trans (secondSpelled.ordinal ordinal).symm
    · exact fun month => (firstSpelled.month month).trans (secondSpelled.month month).symm
  have samePattern : first.pattern = second.pattern := by
    have firstMade := Pattern.ofSelectors_selectors firstFrequency
    rw [sameSelectors, Pattern.ofSelectors_selectors secondFrequency] at firstMade
    exact (Except.ok.inj firstMade).symm
  cases first
  cases second
  rw [Rule.mk.injEq]
  exact ⟨sameInterval, samePattern⟩

/-! ## Padded numbers -/

/-- The parts of a daily rule whose interval is one behind so many zeros. -/
def paddedParts (zeros : Nat) : Parts :=
  [(.frequency, Frequency.daily.code), (.interval, List.replicate zeros '0' ++ ['1'])]

theorem paddedParts_ne_nil (zeros : Nat) : paddedParts zeros ≠ [] :=
  List.cons_ne_nil _ _

theorem isPlainPart_of_mem_paddedParts (zeros : Nat) :
    ∀ part ∈ paddedParts zeros, IsPlainPart part := by
  rw [paddedParts, List.forall_mem_cons, List.forall_mem_singleton]
  refine ⟨Frequency.daily.isPlainPart_code,
    List.append_ne_nil_of_right_ne_nil _ (List.cons_ne_nil _ _), ?_⟩
  intro character member
  rcases List.mem_append.mp member with isZero | isOne
  · rw [List.eq_of_mem_replicate isZero]
    decide
  · rw [List.mem_singleton.mp isOne]
    decide

/-- What the pieces of a padded text give. -/
theorem gives_padded_iff
    {zeros : Nat}
    {pieces : List (List Char)}
    (once : AssignsOnce pieces)
    (same : paddedParts zeros = pieces.filterMap part?)
    (key : Key)
    (value : List Char) :
    Gives pieces key value ↔
      key = .frequency ∧ value = Frequency.daily.code ∨
        key = .interval ∧ value = List.replicate zeros '0' ++ ['1'] := by
  rw [← value?_filterMap_part?_eq_some_iff once,
    Parts.value?_eq_some_iff (nodup_keys_iff.mpr once), ← same, paddedParts]
  simp

/-- However many zeros stand in front of it, a one is a whole number. -/
theorem inGrammar_padded
    {zeros : Nat}
    {pieces : List (List Char)}
    (readable : ∀ piece ∈ pieces, IsReadable piece)
    (once : AssignsOnce pieces)
    (same : paddedParts zeros = pieces.filterMap part?) : InGrammar pieces := by
  have given := gives_padded_iff once same
  have noneGiven {key : Key} (noFrequency : key ≠ .frequency) (noInterval : key ≠ .interval)
      (value : List Char) : ¬Gives pieces key value := by
    intro isGiven
    rcases (given key value).mp isGiven with ⟨isKey, _⟩ | ⟨isKey, _⟩
    · exact noFrequency isKey
    · exact noInterval isKey
  have spellsOne : SpellsInteger (List.replicate zeros '0' ++ ['1']) 1 := by
    have isOne : digitValue? '1' = some 1 := by decide
    refine ⟨[], List.replicate zeros '0' ++ ['1'], [], ?_, ?_, ?_, ?_⟩
    · rw [List.nil_append, List.append_nil]
    · exact fun _ member => absurd member List.not_mem_nil
    · exact fun _ member => absurd member List.not_mem_nil
    · exact .unsigned ((SpellsNatural.digit isOne).zeros_append zeros)
  refine ⟨readable, once, ⟨.daily, (given _ _).mpr (Or.inl ⟨rfl, rfl⟩)⟩, ?_, ?_, ?_, ?_, ?_⟩
  · intro value isGiven
    rcases (given _ _).mp isGiven with ⟨isKey, _⟩ | ⟨_, rfl⟩
    · cases isKey
    · exact ⟨1, spellsOne, Int.le_refl 1⟩
  · intro value isGiven
    exact absurd isGiven (noneGiven (by decide) (by decide) value)
  · intro key isNumeric value isGiven
    refine absurd isGiven (noneGiven ?_ ?_ value)
    · rintro rfl
      exact absurd isNumeric (by decide)
    · rintro rfl
      exact absurd isNumeric (by decide)
  · rintro _ _ ⟨value, isGiven, _⟩
    exact absurd isGiven (noneGiven (by decide) (by decide) value)
  · rintro _ _ ⟨value, isGiven, _⟩
    exact absurd isGiven (noneGiven (by decide) (by decide) value)

/-! ## Reading exactly the grammar -/

/-- Pieces are in the grammar and have no number of too many digits exactly when their parts make
a rule. -/
theorem inGrammar_iff {pieces : List (List Char)} :
    InGrammar pieces ∧ AreShort pieces ↔
      (∀ piece ∈ pieces, IsReadable piece) ∧ AssignsOnce pieces ∧
        ∃ rule, ruleOfParts (pieces.filterMap part?) = .ok rule := by
  constructor
  · rintro ⟨grammatical, short⟩
    have given := value?_filterMap_part?_eq_some_iff grammatical.once
    have understood := (areUnderstood_iff given).mpr
      ⟨⟨grammatical.interval, grammatical.weekday, grammatical.numbers⟩, short⟩
    obtain ⟨frequency, isGiven⟩ := grammatical.frequency
    have named := (given _ _).mpr isGiven
    have inRange : ∃ rule : Rule,
        rule.fields = Parts.fields (pieces.filterMap part?) frequency := by
      apply exists_fields_eq_usedFields_iff.mpr
      refine ⟨understood.interval, ?_, ?_⟩
      · intro number isDay
        obtain ⟨keepsDay, dayGiven⟩ :=
          (monthDay_fields_eq_some_iff given named short).mp isDay
        exact grammatical.monthDay keepsDay number dayGiven
      · intro number isMonth
        obtain ⟨keepsMonth, monthGiven⟩ :=
          (month_fields_eq_some_iff given named short).mp isMonth
        exact grammatical.month keepsMonth number monthGiven
    obtain ⟨rule, same⟩ := inRange
    exact ⟨grammatical.readable, grammatical.once, rule,
      ruleOfParts_eq_ok_iff.mpr ⟨understood, frequency, named, same⟩⟩
  · rintro ⟨readable, once, rule, made⟩
    have given := value?_filterMap_part?_eq_some_iff once
    obtain ⟨understood, frequency, named, same⟩ := ruleOfParts_eq_ok_iff.mp made
    obtain ⟨⟨interval, weekday, numbers⟩, short⟩ := (areUnderstood_iff given).mp understood
    obtain ⟨_, dayInRange, monthInRange⟩ := exists_fields_eq_usedFields_iff.mp ⟨rule, same⟩
    refine ⟨⟨readable, once, ⟨frequency, (given _ _).mp named⟩, interval, weekday, numbers,
      ?_, ?_⟩, short⟩
    · intro keepsDay number dayGiven
      exact dayInRange number
        ((monthDay_fields_eq_some_iff given named short).mpr ⟨keepsDay, dayGiven⟩)
    · intro keepsMonth number monthGiven
      exact monthInRange number
        ((month_fields_eq_some_iff given named short).mpr ⟨keepsMonth, monthGiven⟩)

theorem isSpelled_of_ruleOfParts
    {pieces : List (List Char)}
    (once : AssignsOnce pieces)
    {rule : Rule}
    (made : ruleOfParts (pieces.filterMap part?) = .ok rule) : IsSpelled pieces rule := by
  obtain ⟨understood, frequency, named, same⟩ := ruleOfParts_eq_ok_iff.mp made
  exact isSpelled_of_fields_eq (value?_filterMap_part?_eq_some_iff once) named understood same

theorem readRule_eq_ok_none_iff {text : String} :
    readRule text = .ok none ↔ isBlankText text.toList = true := by
  unfold readRule
  constructor
  · intro isNone
    split at isNone
    · next blank => exact blank
    · split at isNone
      · cases isNone
      · split at isNone <;> cases isNone
  · intro blank
    rw [if_pos blank]

theorem readRule_eq_ok_some_iff {text : String} {rule : Rule} :
    readRule text = .ok (some rule) ↔
      isBlankText text.toList = false ∧
        ∃ parts, readParts text.toList = .ok parts ∧ ruleOfParts parts = .ok rule := by
  unfold readRule
  constructor
  · intro isRead
    split at isRead
    · cases isRead
    · next notBlank =>
        split at isRead
        · cases isRead
        · next parts partsRead =>
            split at isRead
            · cases isRead
            · next ruleMade =>
                cases isRead
                exact ⟨(Bool.not_eq_true _).mp notBlank, parts, partsRead, ruleMade⟩
  · rintro ⟨notBlank, parts, partsRead, ruleMade⟩
    simp only [notBlank, partsRead, ruleMade]
    rfl

theorem not_inGrammar_of_isBlankText
    {text : List Char}
    (blank : isBlankText text = true) : ¬InGrammar (rulePieces text) := by
  have onePiece : rulePieces text = [[]] := by
    unfold rulePieces withoutPrefix
    rw [trim_eq_nil_iff.mpr blank]
    rfl
  intro grammatical
  obtain ⟨frequency, piece, isPiece, assigned⟩ := grammatical.frequency
  rw [onePiece, List.mem_singleton] at isPiece
  rw [isPiece] at assigned
  exact not_isAssignment_nil assigned

/-- A rule is read exactly from the texts whose pieces are in the grammar and have no number of
too many digits. -/
theorem exists_readRule_eq_ok_iff {text : String} :
    (∃ rule, readRule text = .ok (some rule)) ↔
      InGrammar (rulePieces text.toList) ∧ AreShort (rulePieces text.toList) := by
  simp only [readRule_eq_ok_some_iff, readParts_eq_ok_iff]
  constructor
  · rintro ⟨rule, _, _, ⟨readable, once, rfl⟩, made⟩
    exact inGrammar_iff.mpr ⟨readable, once, rule, made⟩
  · rintro ⟨grammatical, short⟩
    have notBlank : isBlankText text.toList = false := by
      rw [← Bool.not_eq_true]
      exact fun blank => not_inGrammar_of_isBlankText blank grammatical
    obtain ⟨readable, once, rule, made⟩ := inGrammar_iff.mp ⟨grammatical, short⟩
    exact ⟨rule, notBlank, _, ⟨readable, once, rfl⟩, made⟩

theorem isSpelled_of_readRule
    {text : String}
    {rule : Rule}
    (isRead : readRule text = .ok (some rule)) : IsSpelled (rulePieces text.toList) rule := by
  obtain ⟨_, parts, partsRead, made⟩ := readRule_eq_ok_some_iff.mp isRead
  obtain ⟨_, once, rfl⟩ := readParts_eq_ok_iff.mp partsRead
  exact isSpelled_of_ruleOfParts once made

/-- A rule is read from a text exactly when the pieces between the semicolons of its body are in
the grammar and have no number of too many digits.  It is the only rule that they spell.  No rule
is read exactly from a blank text. -/
theorem readRule_grammar (text : String) :
    (readRule text = .ok none ↔ isBlankText text.toList = true) ∧
    ∃ pieces : List (List Char),
      (∀ body, IsBody text.toList body ↔ body = joinWith ';' pieces) ∧
      (∀ piece ∈ pieces, ';' ∉ piece) ∧
      ((∃ rule, readRule text = .ok (some rule)) ↔ InGrammar pieces ∧ AreShort pieces) ∧
      ∀ rule, readRule text = .ok (some rule) ↔
        (InGrammar pieces ∧ AreShort pieces) ∧ IsSpelled pieces rule := by
  refine ⟨readRule_eq_ok_none_iff, rulePieces text.toList, ?_, ?_,
    exists_readRule_eq_ok_iff, ?_⟩
  · intro body
    rw [rulePieces, joinWith_splitOn]
    exact isBody_iff
  · exact fun piece => notMem_of_mem_splitOn
  · intro rule
    constructor
    · intro isRead
      exact ⟨exists_readRule_eq_ok_iff.mp ⟨rule, isRead⟩, isSpelled_of_readRule isRead⟩
    · rintro ⟨grammatical, isSpelled⟩
      obtain ⟨other, isRead⟩ := exists_readRule_eq_ok_iff.mpr grammatical
      obtain ⟨frequency, named⟩ := grammatical.1.frequency
      rw [isSpelled.eq named (isSpelled_of_readRule isRead)]
      exact isRead

/-- Pieces in the grammar that no rule is read from: a one behind as many zeros as a number may
have digits. -/
theorem readRule_rejects_padded_interval :
    let text := String.ofList (joinWith ';' ((paddedParts digitLimit).map writePart))
    InGrammar (rulePieces text.toList) ∧ ∃ malformed, readRule text = .error malformed := by
  intro text
  have isText : text.toList = joinWith ';' ((paddedParts digitLimit).map writePart) :=
    String.toList_ofList
  have isRead : readParts text.toList = .ok (paddedParts digitLimit) := by
    rw [isText]
    exact readParts_joinWith_of_isPlainPart (paddedParts_ne_nil digitLimit)
      (isPlainPart_of_mem_paddedParts digitLimit) (by decide)
  obtain ⟨readable, once, same⟩ := readParts_eq_ok_iff.mp isRead
  refine ⟨inGrammar_padded readable once same, ?_⟩
  have notShort : ¬AreShort (rulePieces text.toList) := by
    intro short
    have isGiven := (gives_padded_iff once same _ _).mpr (Or.inr ⟨rfl, rfl⟩)
    have few := short .interval (by decide) _ isGiven
    rw [digitCount_zeros_append] at few
    exact absurd few (by decide)
  cases outcome : readRule text with
  | error malformed => exact ⟨malformed, rfl⟩
  | ok rule? =>
      cases rule? with
      | none =>
          have blank := readRule_eq_ok_none_iff.mp outcome
          rw [isText, isBlankText_joinWith (paddedParts_ne_nil digitLimit)] at blank
          cases blank
      | some rule => exact absurd (exists_readRule_eq_ok_iff.mp ⟨rule, outcome⟩).2 notShort

/-- A fifth weekday is none that counts, so the day of the month is kept. -/
example :
    readRule " Rrule: freq=monthly;;ByDay=mo;BYSETPOS=5;bymonthday=+31;bymonth=99;x=y" =
      .ok (some ⟨1, .monthly (some (.numbered 31 (by decide))), by decide⟩) :=
  rfl

end Recurrence
end Cadence
