import Cadence.Proofs.Text.Plain
import Cadence.Recurrence.Description
import Mathlib.Data.List.Nodup

/-!
# Sentences

A description read word by word.  No word holds a space, so a sentence falls into its words again,
and the words say the frequency, the interval and every selector of a rule: rules that are
described alike are one rule.
-/

namespace Cadence
namespace Recurrence

open Calendar Number Text

/-! ## Names -/

theorem naturalDigits_injective : Function.Injective naturalDigits := by
  intro first second same
  have sameNumber := congrArg (fun digits => Nat.ofDigitChars 10 digits 0) same
  simpa [naturalDigits] using sameNumber

/-- Names that are distinct in a complete list tell all that they name apart. -/
theorem injective_of_nodup
    {Named : Type}
    {nameOf : Named → String}
    {all : List Named}
    (complete : ∀ named, named ∈ all)
    (distinct : (all.map fun named => (nameOf named).toList).Nodup) :
    Function.Injective fun named => (nameOf named).toList := by
  intro first second same
  exact List.inj_on_of_nodup_map distinct (complete first) (complete second) same

theorem weekdayName_injective : Function.Injective fun weekday : Weekday => weekday.name.toList :=
  injective_of_nodup Weekday.mem_all (by decide)

theorem monthName_injective : Function.Injective fun month : Month => month.name.toList :=
  injective_of_nodup Month.mem_all (by decide)

theorem ordinalLabel_injective :
    Function.Injective fun ordinal : WeekdayOrdinal => ordinal.label.toList :=
  injective_of_nodup
    (fun ordinal => show ordinal ∈ WeekdayOrdinal.all by cases ordinal <;> decide) (by decide)

theorem frequencyTitle_injective :
    Function.Injective fun frequency : Frequency => frequency.title.toList :=
  injective_of_nodup
    (fun frequency => show frequency ∈ Frequency.all by cases frequency <;> decide) (by decide)

theorem frequencyUnits_injective :
    Function.Injective fun frequency : Frequency => frequency.units.toList :=
  injective_of_nodup
    (fun frequency => show frequency ∈ Frequency.all by cases frequency <;> decide) (by decide)

/-! ## Words of a description -/

/-- The words for how often a rule repeats. -/
def paceWords (interval : Nat) (frequency : Frequency) : List (List Char) :=
  if interval = 1 then
    [frequency.title.toList]
  else
    ["Every".toList, naturalDigits interval, frequency.units.toList]

/-- The words for a selected day of a month. -/
def MonthDay.words : MonthDay → List (List Char)
  | last => ["the".toList, "last".toList, "day".toList]
  | numbered number _ => ["day".toList, naturalDigits number]

/-- The words for the day on which a pattern repeats. -/
def Pattern.dayWords : Pattern → List (List Char)
  | daily => []
  | weekly weekday => weekday.elim [] fun weekday => ["on".toList, weekday.name.toList]
  | monthly day => day.elim [] fun day => "on".toList :: day.words
  | monthlyWeekday ordinal weekday =>
    ["on".toList, "the".toList, ordinal.label.toList, weekday.name.toList]
  | yearly month day =>
    (month.elim [] fun month => ["in".toList, month.name.toList]) ++
      day.elim [] fun day => "on".toList :: day.words
  | foreign .. => []

/-- Words behind another one, each behind a space. -/
def spaced (words : List (List Char)) : List Char :=
  words.flatMap (' ' :: ·)

theorem spaced_append (first second : List (List Char)) :
    spaced (first ++ second) = spaced first ++ spaced second :=
  List.flatMap_append

theorem joinWith_cons (word : List Char) (words : List (List Char)) :
    joinWith ' ' (word :: words) = word ++ spaced words := by
  induction words generalizing word with
  | nil => simp [joinWith, spaced]
  | cons next words hypothesis => simp [joinWith, hypothesis, spaced]

theorem MonthDay.toList_describe (day : MonthDay) :
    (" on " ++ day.describe).toList = spaced ("on".toList :: day.words) := by
  cases day with
  | last => rfl
  | numbered number inRange =>
      simp [describe, words, spaced, integerText, integerDigits]

theorem toList_describeSelected
    {Kind : Type}
    {phrase : Kind → String}
    {words : Kind → List (List Char)}
    (each : ∀ selected, (phrase selected).toList = spaced (words selected))
    (selected : Option Kind) :
    (describeSelected phrase selected).toList = spaced (selected.elim [] words) := by
  cases selected with
  | none => rfl
  | some selected => exact each selected

theorem Pattern.toList_describeDay (pattern : Pattern) :
    pattern.describeDay.toList = spaced pattern.dayWords := by
  cases pattern with
  | daily => rfl
  | weekly weekday => exact toList_describeSelected (fun weekday => by simp [spaced]) weekday
  | monthly day => exact toList_describeSelected MonthDay.toList_describe day
  | monthlyWeekday ordinal weekday => simp [describeDay, dayWords, spaced]
  | yearly month day =>
      rw [describeDay, String.toList_append, dayWords, spaced_append,
        toList_describeSelected MonthDay.toList_describe]
      congr 1
      exact toList_describeSelected (fun month => by simp [spaced]) month
  | foreign frequency selectors => rfl

/-- A description is its words with spaces between them. -/
theorem Rule.toList_describe
    {rule : Rule}
    {frequency : Frequency}
    (isFrequency : rule.frequency? = some frequency) :
    rule.describe.toList =
      joinWith ' ' (paceWords rule.interval frequency ++ rule.pattern.dayWords) := by
  have isFrequency : rule.pattern.frequency? = some frequency := isFrequency
  unfold Rule.describe describePace paceWords
  rw [String.toList_append, Pattern.toList_describeDay, isFrequency]
  split
  · rw [List.singleton_append, joinWith_cons]
  · simp [joinWith_cons, spaced, integerText, integerDigits]

/-! ## Words without spaces -/

theorem space_notMem_naturalDigits (number : Nat) : ' ' ∉ naturalDigits number := by
  intro isMember
  exact absurd (isDigit_of_mem_naturalDigits isMember) (by decide)

theorem space_notMem_paceWords (interval : Nat) (frequency : Frequency) :
    ∀ word ∈ paceWords interval frequency, ' ' ∉ word := by
  have inTitle : ' ' ∉ frequency.title.toList := by cases frequency <;> decide
  have inUnits : ' ' ∉ frequency.units.toList := by cases frequency <;> decide
  unfold paceWords
  split
  · simpa using inTitle
  · simpa using ⟨space_notMem_naturalDigits interval, inUnits⟩

theorem MonthDay.space_notMem_words (day : MonthDay) :
    ∀ word ∈ "on".toList :: day.words, ' ' ∉ word := by
  cases day with
  | last => decide
  | numbered number inRange => simpa [words] using space_notMem_naturalDigits number

theorem space_notMem_elim
    {Kind : Type}
    {words : Kind → List (List Char)}
    (each : ∀ selected, ∀ word ∈ words selected, ' ' ∉ word)
    (selected : Option Kind) : ∀ word ∈ selected.elim [] words, ' ' ∉ word := by
  cases selected with
  | none => exact List.forall_mem_nil _
  | some selected => exact each selected

theorem Pattern.space_notMem_dayWords (pattern : Pattern) :
    ∀ word ∈ pattern.dayWords, ' ' ∉ word := by
  cases pattern with
  | daily => exact List.forall_mem_nil _
  | weekly weekday =>
      exact space_notMem_elim (fun weekday => by cases weekday <;> decide) weekday
  | monthly day => exact space_notMem_elim MonthDay.space_notMem_words day
  | monthlyWeekday ordinal weekday =>
      have inLabel : ' ' ∉ ordinal.label.toList := by cases ordinal <;> decide
      have inName : ' ' ∉ weekday.name.toList := by cases weekday <;> decide
      simp [dayWords, inLabel, inName]
  | yearly month day =>
      rw [dayWords, List.forall_mem_append]
      constructor
      · exact space_notMem_elim (fun month => by cases month <;> decide) month
      · exact space_notMem_elim MonthDay.space_notMem_words day
  | foreign frequency selectors => exact List.forall_mem_nil _

/-- A description falls into its words at the spaces. -/
theorem Rule.splitOn_describe
    {rule : Rule}
    {frequency : Frequency}
    (isFrequency : rule.frequency? = some frequency) :
    splitOn ' ' rule.describe.toList =
      paceWords rule.interval frequency ++ rule.pattern.dayWords := by
  have nonempty : paceWords rule.interval frequency ≠ [] := by
    unfold paceWords
    split <;> exact List.cons_ne_nil _ _
  rw [rule.toList_describe isFrequency]
  apply splitOn_joinWith (List.append_ne_nil_of_left_ne_nil nonempty _)
  exact List.forall_mem_append.mpr
    ⟨space_notMem_paceWords _ _, rule.pattern.space_notMem_dayWords⟩

/-! ## Words tell rules apart -/

/-- The first words of a sentence say the frequency and the interval, since no title is the word
that a sentence with a larger interval starts with. -/
theorem paceWords_append_inj
    {interval other : Nat}
    {frequency otherFrequency : Frequency}
    {words others : List (List Char)}
    (same : paceWords interval frequency ++ words = paceWords other otherFrequency ++ others) :
    interval = other ∧ frequency = otherFrequency ∧ words = others := by
  have titleNotEvery (frequency : Frequency) : frequency.title.toList ≠ "Every".toList := by
    cases frequency <;> decide
  unfold paceWords at same
  split at same <;> split at same
  · next isOne otherIsOne =>
      simp only [List.singleton_append, List.cons.injEq] at same
      exact ⟨isOne.trans otherIsOne.symm, frequencyTitle_injective same.1, same.2⟩
  · exact absurd (List.cons.inj same).1 (titleNotEvery _)
  · exact absurd (List.cons.inj same).1.symm (titleNotEvery _)
  · simp only [List.cons_append, List.nil_append, List.cons.injEq] at same
    exact ⟨naturalDigits_injective same.2.1, frequencyUnits_injective same.2.2.1, same.2.2.2⟩

theorem MonthDay.words_injective : Function.Injective MonthDay.words := by
  intro first second same
  cases first with
  | last =>
      cases second with
      | last => rfl
      | numbered number inRange => simp [words] at same
  | numbered number inRange =>
      cases second with
      | last => simp [words] at same
      | numbered other otherInRange =>
          simp only [words, List.cons.injEq, true_and, and_true] at same
          cases naturalDigits_injective same
          rfl

/-- The words for a set selector are not empty and tell its values apart. -/
theorem elim_injective
    {Kind : Type}
    {words : Kind → List (List Char)}
    (injective : Function.Injective words)
    (nonempty : ∀ selected, words selected ≠ []) :
    Function.Injective fun selected : Option Kind => selected.elim [] words := by
  intro first second same
  cases first with
  | none =>
      cases second with
      | none => rfl
      | some second => exact absurd same.symm (nonempty second)
  | some first =>
      cases second with
      | none => exact absurd same (nonempty first)
      | some second => exact congrArg some (injective same)

theorem dayOn_injective :
    Function.Injective fun day : Option MonthDay =>
      day.elim [] fun day => "on".toList :: day.words :=
  elim_injective (List.cons_injective.comp MonthDay.words_injective) fun _ => List.cons_ne_nil _ _

theorem weekdayOn_injective :
    Function.Injective fun weekday : Option Weekday =>
      weekday.elim [] fun weekday => ["on".toList, weekday.name.toList] := by
  apply elim_injective _ fun _ => List.cons_ne_nil _ _
  intro first second same
  exact weekdayName_injective (List.cons.inj (List.cons.inj same).2).1

/-- A day of the month is not described like a counted weekday. -/
theorem dayOn_ne_counted (day : Option MonthDay) (label : List Char) (weekday : Weekday) :
    (day.elim [] fun day => "on".toList :: day.words) ≠
      ["on".toList, "the".toList, label, weekday.name.toList] := by
  have dayNotName : "day".toList ≠ weekday.name.toList := by cases weekday <;> decide
  intro same
  cases day with
  | none => cases same
  | some day =>
      cases day with
      | last =>
          simp only [Option.elim_some, MonthDay.words, List.cons.injEq] at same
          exact dayNotName same.2.2.2.1
      | numbered number inRange => simp [MonthDay.words] at same

/-- A day of the month is not described like a month. -/
theorem dayOn_ne_in (day : Option MonthDay) (words : List (List Char)) :
    (day.elim [] fun day => "on".toList :: day.words) ≠ "in".toList :: words := by
  intro same
  cases day with
  | none => cases same
  | some day => exact absurd (List.cons.inj same).1 (by decide)

/-- The words for a month and a day of the month say both, set or not. -/
theorem monthIn_append_dayOn_inj
    {month other : Option Month}
    {day otherDay : Option MonthDay}
    (same : (Pattern.yearly month day).dayWords = (Pattern.yearly other otherDay).dayWords) :
    month = other ∧ day = otherDay := by
  unfold Pattern.dayWords at same
  cases month with
  | none =>
      cases other with
      | none => exact ⟨rfl, dayOn_injective same⟩
      | some other => exact absurd same (dayOn_ne_in day _)
  | some month =>
      cases other with
      | none => exact absurd same.symm (dayOn_ne_in otherDay _)
      | some other =>
          obtain ⟨sameName, sameDay⟩ := List.cons.inj (List.cons.inj same).2
          exact ⟨congrArg some (monthName_injective sameName), dayOn_injective sameDay⟩

/-- The words behind the pace say on which day a pattern repeats. -/
theorem Pattern.eq_of_dayWords_eq
    {first second : Pattern}
    {frequency : Frequency}
    (isFrequency : first.frequency? = some frequency)
    (isOther : second.frequency? = some frequency)
    (same : first.dayWords = second.dayWords) : first = second := by
  cases first <;> cases isFrequency <;> cases second <;> cases isOther
  case daily.refl.daily.refl => rfl
  case weekly.refl.weekly.refl weekday other => exact congrArg weekly (weekdayOn_injective same)
  case monthly.refl.monthly.refl day other => exact congrArg monthly (dayOn_injective same)
  case monthly.refl.monthlyWeekday.refl day ordinal weekday =>
      exact absurd same (dayOn_ne_counted day _ weekday)
  case monthlyWeekday.refl.monthly.refl ordinal weekday day =>
      exact absurd same.symm (dayOn_ne_counted day _ weekday)
  case monthlyWeekday.refl.monthlyWeekday.refl ordinal weekday other otherWeekday =>
      simp only [dayWords, List.cons.injEq, true_and, and_true] at same
      rw [ordinalLabel_injective same.1, weekdayName_injective same.2]
  case yearly.refl.yearly.refl month day other otherDay =>
      obtain ⟨sameMonth, sameDay⟩ := monthIn_append_dayOn_inj same
      rw [sameMonth, sameDay]

/-- The words of a rule are not the word for a single date. -/
theorem paceWords_append_ne_once
    (interval : Nat)
    (frequency : Frequency)
    (words : List (List Char)) :
    paceWords interval frequency ++ words ≠ ["Once".toList] := by
  have titleNotOnce : frequency.title.toList ≠ "Once".toList := by cases frequency <;> decide
  unfold paceWords
  split
  · exact fun same => titleNotOnce (List.cons.inj same).1
  · exact fun same => absurd (List.cons.inj same).1 (by decide)

/-- Rules with one description are one rule. -/
theorem Rule.eq_of_describe_eq
    {first second : Rule}
    {frequency otherFrequency : Frequency}
    (isFrequency : first.frequency? = some frequency)
    (isOther : second.frequency? = some otherFrequency)
    (same : first.describe = second.describe) : first = second := by
  have sameWords := congrArg (fun description => splitOn ' ' description.toList) same
  rw [splitOn_describe isFrequency, splitOn_describe isOther] at sameWords
  obtain ⟨sameInterval, rfl, sameDay⟩ := paceWords_append_inj sameWords
  have samePattern := Pattern.eq_of_dayWords_eq isFrequency isOther sameDay
  cases first
  cases second
  cases sameInterval
  cases samePattern
  rfl

/-- A rule is not described as a single date is. -/
theorem Rule.describe_ne_once
    {rule : Rule}
    {frequency : Frequency}
    (isFrequency : rule.frequency? = some frequency) : rule.describe ≠ "Once" := by
  intro same
  have sameWords := congrArg (fun description => splitOn ' ' description.toList) same
  rw [splitOn_describe isFrequency] at sameWords
  exact paceWords_append_ne_once _ _ _ (sameWords.trans (by decide))

/-- Descriptions tell schedules apart, each with a rule of a known frequency or with none: the same
sentence stands for the same rule only. -/
theorem descriptions_tell_rules_apart
    {first second : Option Rule}
    (supported : ∀ rule ∈ first, ∃ frequency, rule.frequency? = some frequency)
    (otherSupported : ∀ rule ∈ second, ∃ frequency, rule.frequency? = some frequency) :
    describe first = describe second ↔ first = second := by
  refine ⟨fun same => ?_, congrArg describe⟩
  cases first with
  | none =>
      cases second with
      | none => rfl
      | some second =>
          obtain ⟨frequency, isOther⟩ := otherSupported second rfl
          exact absurd same.symm (Rule.describe_ne_once isOther)
  | some first =>
      obtain ⟨frequency, isFrequency⟩ := supported first rfl
      cases second with
      | none => exact absurd same (Rule.describe_ne_once isFrequency)
      | some second =>
          obtain ⟨otherFrequency, isOther⟩ := otherSupported second rfl
          exact congrArg some (Rule.eq_of_describe_eq isFrequency isOther same)

/-- The last day of every month and the last Friday of every month. -/
theorem descriptions_tell_rules_apart_monthEnds :
    let lastDays : Rule := ⟨1, .monthly (some .last), by decide⟩
    let lastFridays : Rule := ⟨1, .monthlyWeekday .last .friday, by decide⟩
    (∃ frequency, lastDays.frequency? = some frequency) ∧
      (∃ frequency, lastFridays.frequency? = some frequency) ∧
      describe (some lastDays) = "Monthly on the last day" ∧
      describe (some lastFridays) = "Monthly on the last Friday" ∧
      describe (some lastDays) ≠ describe (some lastFridays) ∧
      describe none ≠ describe (some lastDays) := by
  intro lastDays lastFridays
  have isMonthly : lastDays.frequency? = some .monthly := rfl
  have isMonthlyToo : lastFridays.frequency? = some .monthly := rfl
  have supported : ∀ rule ∈ some lastDays, ∃ frequency, rule.frequency? = some frequency := by
    rintro rule ⟨⟩
    exact ⟨_, isMonthly⟩
  have supportedToo :
      ∀ rule ∈ some lastFridays, ∃ frequency, rule.frequency? = some frequency := by
    rintro rule ⟨⟩
    exact ⟨_, isMonthlyToo⟩
  have different : some lastDays ≠ some lastFridays := by decide
  have apart := (descriptions_tell_rules_apart supported supportedToo).not.mpr different
  have fromNone : describe none ≠ describe (some lastDays) :=
    (descriptions_tell_rules_apart (by rintro rule ⟨⟩) supported).not.mpr
      (Option.some_ne_none _).symm
  exact ⟨⟨_, isMonthly⟩, ⟨_, isMonthlyToo⟩, by decide, by decide, apart, fromNone⟩

end Recurrence
end Cadence
