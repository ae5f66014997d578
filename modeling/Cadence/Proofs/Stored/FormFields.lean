import Cadence.Proofs.Recurrence.Grammar
import Cadence.Stored.RuleForm

/-!
# The fields of a form's rule

A form picks the selectors of its rule in the branch of its frequency, and a rule text drops
those that its frequency does not understand.  Both keep the same fields, apart from the weekday
of the start, which stands in for a missing one in a monthly form.
-/

namespace Cadence
namespace Stored

open Calendar Number Recurrence Text

variable
  {name : List Char}
  {interval : Int}
  {weekday : Option Weekday}
  {monthDay ordinal month : Option Int}
  {startDate : Option Date}

/-- The weekday that a form may give to its rule. -/
def countedWeekday
    (frequency : Frequency)
    (weekday : Option Weekday)
    (startDate : Option Date) : Option Weekday :=
  if frequency = .monthly then formWeekday weekday startDate else weekday

/-- Without a start a form has the weekday that it is given. -/
@[simp] theorem countedWeekday_none (frequency : Frequency) :
    countedWeekday frequency weekday none = weekday := by
  cases weekday <;> exact ite_self _

theorem formWeekday_of_countedWeekday
    {frequency : Frequency}
    {given : Weekday}
    (counted : countedWeekday frequency weekday startDate = some given) :
    formWeekday weekday startDate = some given := by
  unfold countedWeekday at counted
  split at counted
  · exact counted
  · rw [counted]
    rfl

/-- A month keeps a counted weekday in a form exactly when it does in a text. -/
theorem formFields_monthly :
    formFields Frequency.monthly.code interval weekday monthDay ordinal month startDate =
      usedFields .monthly interval (formWeekday weekday startDate) monthDay
        (ordinal.bind WeekdayOrdinal.ofNumber?) month := by
  have notDaily : Frequency.monthly.code ≠ Frequency.daily.code := by decide
  have notWeekly : Frequency.monthly.code ≠ Frequency.weekly.code := by decide
  unfold formFields
  simp only [if_neg notDaily, if_neg notWeekly, if_pos]
  cases isPlace : ordinal.bind WeekdayOrdinal.ofNumber? with
  | none => cases formWeekday weekday startDate <;> rfl
  | some place =>
      obtain ⟨number, rfl, understood⟩ := Option.bind_eq_some_iff.mp isPlace
      have sameNumber := ordinalNumber_of_ofNumber? understood
      cases formWeekday weekday startDate with
      | none => rfl
      | some counted =>
          rw [← sameNumber]
          rfl

/-- The branch of a form for a frequency keeps what a text with that frequency keeps. -/
theorem formFields_code (frequency : Frequency) :
    formFields frequency.code interval weekday monthDay ordinal month startDate =
      usedFields frequency interval (countedWeekday frequency weekday startDate) monthDay
        (ordinal.bind WeekdayOrdinal.ofNumber?) month := by
  cases frequency with
  | daily => rfl
  | weekly => rfl
  | monthly => exact formFields_monthly
  | yearly => rfl

/-- A frequency that is none of the four keeps no selector. -/
theorem formFields_of_ofCode?_eq_none (unlisted : Frequency.ofCode? name = none) :
    formFields name interval weekday monthDay ordinal month startDate =
      Fields.plain name interval := by
  have notNamed (frequency : Frequency) : name ≠ frequency.code := by
    rintro rfl
    rw [Frequency.ofCode?_code] at unlisted
    cases unlisted
  unfold formFields
  simp only [notNamed, if_false]

/-- A form gives its rule no selector, or those that are kept for a frequency, with the weekday of
the start where months count one that is not given. -/
theorem formFields_cases :
    formFields name interval weekday monthDay ordinal month startDate =
        Fields.plain name interval ∨
      ∃ frequency counted,
        (∀ given, counted = some given → formWeekday weekday startDate = some given) ∧
        formFields name interval weekday monthDay ordinal month startDate =
          usedFields frequency interval counted monthDay
            (ordinal.bind WeekdayOrdinal.ofNumber?) month := by
  cases listed : Frequency.ofCode? name with
  | none => exact .inl (formFields_of_ofCode?_eq_none listed)
  | some frequency =>
      obtain rfl := Frequency.code_of_ofCode? listed
      exact .inr ⟨frequency, _, fun _ => formWeekday_of_countedWeekday,
        formFields_code frequency⟩

theorem interval_formFields :
    (formFields name interval weekday monthDay ordinal month startDate).interval =
      .int interval := by
  rcases formFields_cases with isPlain | ⟨frequency, counted, _, isUsed⟩
  · rw [isPlain]
    rfl
  · rw [isUsed]
    exact interval_usedFields

/-- What the fields of a form have set is kept for a frequency. -/
theorem exists_usedFields_of_formFields
    {Entry : Type}
    {entry : Entry}
    (select : Fields → Option Entry)
    (unset : select (Fields.plain name interval) = none)
    (kept : select (formFields name interval weekday monthDay ordinal month startDate) =
      some entry) :
    ∃ frequency counted,
      (∀ given, counted = some given → formWeekday weekday startDate = some given) ∧
      select (usedFields frequency interval counted monthDay
        (ordinal.bind WeekdayOrdinal.ofNumber?) month) = some entry := by
  rcases formFields_cases with isPlain | ⟨frequency, counted, isGiven, isUsed⟩
  · rw [isPlain, unset] at kept
    cases kept
  · exact ⟨frequency, counted, isGiven, isUsed ▸ kept⟩

theorem weekday_of_formFields
    {code : List Char}
    (kept : (formFields name interval weekday monthDay ordinal month startDate).weekday =
      some code) : (formWeekday weekday startDate).map Weekday.code = some code := by
  obtain ⟨frequency, counted, isGiven, isUsed⟩ :=
    exists_usedFields_of_formFields Fields.weekday rfl kept
  obtain ⟨given, isCounted, isCode⟩ :=
    Option.map_eq_some_iff.mp (weekday_usedFields_eq_some_iff.mp isUsed).2
  rw [isGiven given isCounted, Option.map_some, isCode]

theorem monthDay_of_formFields
    {number : Int}
    (kept : (formFields name interval weekday monthDay ordinal month startDate).monthDay =
      some number) : monthDay = some number := by
  obtain ⟨frequency, counted, _, isUsed⟩ :=
    exists_usedFields_of_formFields Fields.monthDay rfl kept
  exact (monthDay_usedFields_eq_some_iff.mp isUsed).2

theorem ordinal_of_formFields
    {number : Int}
    (kept : (formFields name interval weekday monthDay ordinal month startDate).ordinal =
      some number) : ordinal = some number := by
  obtain ⟨frequency, counted, _, isUsed⟩ :=
    exists_usedFields_of_formFields Fields.ordinal rfl kept
  obtain ⟨place, isPlace, rfl⟩ :=
    Option.map_eq_some_iff.mp (ordinal_usedFields_eq_some_iff.mp isUsed).2
  obtain ⟨given, rfl, understood⟩ := Option.bind_eq_some_iff.mp isPlace
  rw [ordinalNumber_of_ofNumber? understood]

theorem month_of_formFields
    {number : Int}
    (kept : (formFields name interval weekday monthDay ordinal month startDate).month =
      some number) : month = some number := by
  obtain ⟨frequency, counted, _, isUsed⟩ :=
    exists_usedFields_of_formFields Fields.month rfl kept
  exact (month_usedFields_eq_some_iff.mp isUsed).2

end Stored
end Cadence
