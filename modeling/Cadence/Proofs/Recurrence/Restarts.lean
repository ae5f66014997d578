import Cadence.Proofs.Recurrence.Periods

/-!
# Restarts

A schedule that starts again on one of its own occurrences.  The selectors that its rule
leaves out are read from the new start and come out as before, except for a day of the month
that the month of the new start was too short for.  With the same day of the month the
schedule goes on as it was, and counts its periods from the one in which it started again.
-/

namespace Cadence
namespace Recurrence

open Calendar

theorem MonthDay.ofDate_eq_of_day_eq {first second : Date} (sameDay : first.day = second.day) :
    ofDate first = ofDate second := by
  unfold ofDate
  simp only [sameDay]

section Restart

variable {start restart : Date}

/-- A pattern selects the same day of every unit from a start and from a date that it
selects itself, when the two agree on a day of the month that they have to give. -/
theorem Pattern.selectedDay?_eq_of_selects
    {pattern : Pattern}
    (selected : pattern.selects start restart = true)
    (sameDay : pattern.frequency? = some .monthly ∨ pattern.frequency? = some .yearly →
      pattern.selectors.monthDay = none → pattern.selectors.ordinal = none →
      restart.day = start.day)
    (unit : Nat) :
    pattern.selectedDay? restart unit = pattern.selectedDay? start unit := by
  cases pattern with
  | daily => rfl
  | weekly weekday =>
      cases weekday with
      | some weekday => rfl
      | none =>
          simp only [selects, Option.getD_none, beq_iff_eq] at selected
          simp only [selectedDay?, Option.getD_none, selected]
  | monthly day =>
      cases day with
      | some day => rfl
      | none =>
          have sameMonthDay := MonthDay.ofDate_eq_of_day_eq (sameDay (Or.inl rfl) rfl rfl)
          simp only [selectedDay?, Option.getD_none, sameMonthDay]
  | monthlyWeekday ordinal weekday => rfl
  | yearly month day =>
      simp only [selects, Bool.and_eq_true, beq_iff_eq] at selected
      have sameMonth : month.getD restart.month = month.getD start.month := by
        cases month with
        | some month => rw [Option.getD_some, Option.getD_some]
        | none => exact selected.1
      have sameMonthDay : day.getD (.ofDate restart) = day.getD (.ofDate start) := by
        cases day with
        | some day => rw [Option.getD_some, Option.getD_some]
        | none => exact MonthDay.ofDate_eq_of_day_eq (sameDay (Or.inr rfl) rfl rfl)
      simp only [selectedDay?, sameMonth, sameMonthDay]
  | foreign frequency selectors => rfl

variable {rule : Rule} {index : Nat}

section SameDay

variable
  (occurs : rule.periodIndex start restart = .ok (some index))
  (sameDay : rule.frequency? = some .monthly ∨ rule.frequency? = some .yearly →
    rule.selectors.monthDay = none → rule.selectors.ordinal = none →
    restart.day = start.day)
include occurs sameDay

/-- The periods from a restart on are those of the first start, less the periods that had
passed by then. -/
theorem Rule.periodIndex_restart_eq_some_iff
    {date : Date}
    (later : restart ≤ date)
    {count : Nat} :
    rule.periodIndex restart date = .ok (some count) ↔
      rule.periodIndex start date = .ok (some (index + count)) := by
  obtain ⟨frequency, supported⟩ := Rule.exists_frequency?_of_periodIndex occurs
  have restartUnit := Rule.unitIndex_of_periodIndex supported occurs
  have selected : rule.pattern.selects start restart = true := by
    rw [Rule.periodIndex_eq_some_iff supported,
      Pattern.selectedDay?_eq_some_iff supported] at occurs
    exact occurs.2.2
  have started : start ≤ date := by
    rw [Rule.periodIndex_eq_some_iff supported] at occurs
    exact Nat.le_trans occurs.1 later
  have sameUnit : rule.pattern.unitIndex restart + count * rule.interval =
      rule.pattern.unitIndex start + (index + count) * rule.interval := by
    rw [restartUnit, Nat.add_mul, Nat.add_assoc]
  rw [Rule.periodIndex_eq_some_iff supported, Rule.periodIndex_eq_some_iff supported,
    Pattern.selectedDay?_eq_of_selects selected sameDay, sameUnit]
  exact and_congr_left fun _ => iff_of_true later started

/-- A schedule that starts again on one of its occurrences goes on as before.  When the rule is
monthly or yearly and sets neither a day of the month nor a place among equal weekdays, the
occurrence has to have the day of the month of the start.  Every later date is then an
occurrence from either of them or from none, and its period from the start is its period from
the restart and the periods that had passed by then. -/
theorem Rule.periodIndex_eq_add_of_restart
    {date : Date}
    (later : restart ≤ date) :
    ∃ found : Option Nat,
      rule.periodIndex restart date = .ok found ∧
        rule.periodIndex start date = .ok (found.map fun count => index + count) := by
  obtain ⟨frequency, supported⟩ := Rule.exists_frequency?_of_periodIndex occurs
  have numbered (count : Nat) : rule.periodIndex restart date = .ok (some count) ↔
      rule.periodIndex start date = .ok (some (index + count)) :=
    Rule.periodIndex_restart_eq_some_iff occurs sameDay later
  obtain ⟨found, isFound⟩ : ∃ found, rule.periodIndex restart date = .ok found :=
    ⟨_, Rule.periodIndex_of_frequency? supported restart date⟩
  obtain ⟨total, isTotal⟩ : ∃ total, rule.periodIndex start date = .ok total :=
    ⟨_, Rule.periodIndex_of_frequency? supported start date⟩
  refine ⟨found, isFound, ?_⟩
  cases found with
  | some count => exact (numbered count).mp isFound
  | none =>
      cases total with
      | none => exact isTotal
      | some total =>
          have notBefore := Rule.periodIndex_le_of_le supported later occurs isTotal
          rw [← Nat.add_sub_cancel' notBefore] at isTotal
          have counted := (numbered (total - index)).mpr isTotal
          rw [isFound] at counted
          cases counted

end SameDay
end Restart

/-- Every month from 30 January 2024 on, with a meeting on 29 February.  Started again on
30 March, which was two periods later, the schedule meets on 30 May, two more periods later. -/
theorem periodIndex_eq_add_of_restart_thirtieth :
    let rule : Rule := ⟨1, .monthly none, Nat.one_pos⟩
    let start : Date := ⟨738914, by decide⟩
    let restart : Date := ⟨738974, by decide⟩
    let date : Date := ⟨739035, by decide⟩
    rule.periodIndex start restart = .ok (some 2) ∧
      (rule.frequency? = some .monthly ∨ rule.frequency? = some .yearly →
        rule.selectors.monthDay = none → rule.selectors.ordinal = none →
        restart.day = start.day) ∧
      restart ≤ date ∧
      rule.periodIndex restart date = .ok (some 2) ∧
      rule.periodIndex start date = .ok (some (2 + 2)) := by
  intro rule start restart date
  have occurs : rule.periodIndex start restart = .ok (some 2) := by decide +kernel
  have sameDay : restart.day = start.day := by decide +kernel
  have later : restart ≤ date := by decide
  obtain ⟨found, fromRestart, fromStart⟩ :=
    Rule.periodIndex_eq_add_of_restart occurs (fun _ _ _ => sameDay) later
  have isFound : rule.periodIndex restart date = .ok (some 2) := by decide +kernel
  rw [isFound] at fromRestart
  cases fromRestart
  exact ⟨occurs, fun _ _ _ => sameDay, later, isFound, fromStart⟩

/-- The day of the month matters: 30 March does not follow from the meeting on 29 February. -/
example :
    let rule : Rule := ⟨1, .monthly none, Nat.one_pos⟩
    let start : Date := ⟨738914, by decide⟩
    let restart : Date := ⟨738944, by decide⟩
    let date : Date := ⟨738974, by decide⟩
    rule.periodIndex start restart = .ok (some 1) ∧
      rule.periodIndex start date = .ok (some 2) ∧
      rule.periodIndex restart date = .ok none := by
  decide +kernel

end Recurrence
end Cadence
