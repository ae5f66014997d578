import Cadence.Proofs.Recurrence.Reanchored
import Cadence.Proofs.Scheduling.Listed

/-!
# Moved meetings

A meeting that moves takes place on its new date: the rule taken from that date selects it, and
where periods do not overlap the date falls to the period that starts on it.  The dates that the
meeting passes over are left to no period, so nothing takes place on them.
-/

namespace Cadence
namespace Scheduling

open Calendar Recurrence

namespace Schedule

variable {schedule edited : Schedule} {date present newDate : Date}

/-- A date with at most one claim is answered alike whether or not the question bears a
conflict. -/
theorem checkOccurrenceOn_of_claims_le_one
    (atMostOne : schedule.claims date ≤ 1)
    (strict : Bool)
    (limits : Limits) :
    schedule.checkOccurrenceOn strict limits date =
      schedule.checkOccurrenceOn false limits date := by
  have noConflict := conflict_resolve_eq_none_iff.mpr atMostOne
  have sameAnswer : schedule.periodOn strict date = schedule.periodOn false date := by
    unfold periodOn
    simp only [noConflict]
  unfold checkOccurrenceOn
  rw [sameAnswer]

/-- A date that no period claims is no occurrence. -/
theorem checkOccurrenceOn_of_claims_eq_zero
    (unclaimed : schedule.claims date = 0)
    (strict : Bool)
    (limits : Limits) :
    schedule.checkOccurrenceOn strict limits date = .ok false := by
  have noneFound : schedule.periods.find? (fun period => period.contains date) = none := by
    rw [List.find?_eq_none, ← List.filter_eq_nil_iff]
    exact List.eq_nil_of_length_eq_zero unclaimed
  have atMostOne : schedule.claims date ≤ 1 := unclaimed ▸ Nat.zero_le 1
  rw [checkOccurrenceOn_of_claims_le_one atMostOne, checkOccurrenceOn_false, noneFound]

/-- The period that a moved meeting starts has the new date as an occurrence. -/
theorem isOccurrence_current_of_moveMeeting
    (moved : schedule.moveMeeting present newDate = .ok edited) :
    edited.current.isOccurrence .none newDate = .ok true := by
  obtain ⟨follows, notBehind, _, occurs, rfl⟩ := moveMeeting_eq_ok_iff.mp moved
  refine isOccurrence_reanchor_self ?_ notBehind
  intro rule isRule
  rw [Period.isOccurrence, isRule] at occurs
  exact exists_frequency?_of_isOccurrence occurs

/-- Moving a meeting of a schedule without overlapping periods leaves the dates from the old one up
to the new one unclaimed. -/
theorem claims_eq_zero_of_moveMeeting
    (noOverlap : schedule.NoOverlap)
    (moved : schedule.moveMeeting present newDate = .ok edited)
    (notBefore : present ≤ date)
    (before : date < newDate) : edited.claims date = 0 := by
  have isEdit : schedule.edit (.moveMeeting present newDate) = .ok edited := moved
  have counted : schedule.claims date =
      edited.claims date + if present ≤ date ∧ date < newDate then 1 else 0 :=
    claims_eq_of_edit isEdit date
  have atMostOne := noOverlap_iff.mp noOverlap date
  rw [if_pos ⟨notBefore, before⟩] at counted
  omega

/-- A moved meeting takes place on its new date.  Taking the set selectors of a rule from a date
gives fields that pass every check, keeps the frequency, the interval and which selectors are set,
makes no difference when it is done again, and has the date as the occurrence of its first period;
a schedule that starts on the date with the rule taken from it, or with none, occurs on it.  After
a meeting of a schedule without overlapping periods has moved, its new date is an occurrence and
none of the dates that it passed over is. -/
theorem moved_meetings_take_place :
    (∀ (given : Option Rule),
      (∀ rule ∈ given, ∃ frequency, rule.frequency? = some frequency) → ∀ date : Date,
      (∀ rule ∈ given, rule.IsReanchored (rule.reanchor date) date) ∧
        isOccurrence (given.map fun rule => rule.reanchor date) date .none date = .ok true) ∧
    ∀ (schedule edited : Schedule) (present newDate : Date),
      schedule.NoOverlap → schedule.moveMeeting present newDate = .ok edited →
      ∀ strict,
        edited.checkOccurrenceOn strict .none newDate = .ok true ∧
          ∀ date, present ≤ date → date < newDate →
            edited.checkOccurrenceOn strict .none date = .ok false := by
  constructor
  · intro given supported date
    refine ⟨?_, isOccurrence_reanchor_self supported nofun⟩
    intro rule isRule
    obtain ⟨frequency, isSupported⟩ := supported rule isRule
    exact Rule.isReanchored_reanchor isSupported date
  · intro schedule edited present newDate noOverlap moved strict
    have isEdit : schedule.edit (.moveMeeting present newDate) = .ok edited := moved
    have atMostOne := noOverlap_iff.mp (noOverlap.of_edit isEdit) newDate
    constructor
    · rw [checkOccurrenceOn_of_claims_le_one atMostOne]
      exact checkOccurrenceOn_of_isOccurrence atMostOne
        (List.mem_append_right _ (List.mem_singleton_self _))
        (isOccurrence_current_of_moveMeeting moved)
    · intro date notBefore before
      exact checkOccurrenceOn_of_claims_eq_zero
        (claims_eq_zero_of_moveMeeting noOverlap moved notBefore before) strict .none

/-- Second Tuesdays from 9 January 2024 on, behind a single date of the year before.  The meeting
of 13 February moves to the fifth Thursday of the month, 29 February, and passes over 20 February;
from then on the meetings are on last Thursdays. -/
theorem moved_meetings_take_place_leapDay :
    let secondTuesdays : Rule := ⟨1, .monthlyWeekday .second .tuesday, by decide⟩
    let lastThursdays : Rule := ⟨1, .monthlyWeekday .last .thursday, by decide⟩
    let schedule : Schedule := {
      id := "calendar"
      current := ⟨some secondTuesdays, ⟨738893, by decide⟩, none, by decide⟩
      history := [⟨none, ⟨738800, by decide⟩, some ⟨738884, by decide⟩, by decide⟩] }
    let present : Date := ⟨738928, by decide⟩
    let between : Date := ⟨738935, by decide⟩
    let leapDay : Date := ⟨738944, by decide⟩
    (∀ rule ∈ some secondTuesdays, ∃ frequency, rule.frequency? = some frequency) ∧
      secondTuesdays.IsReanchored lastThursdays leapDay ∧
      schedule.NoOverlap ∧
      ∃ edited, schedule.moveMeeting present leapDay = .ok edited ∧
        edited.checkOccurrenceOn true .none leapDay = .ok true ∧
        present ≤ between ∧ between < leapDay ∧
        edited.checkOccurrenceOn true .none between = .ok false := by
  intro secondTuesdays lastThursdays schedule present between leapDay
  have supported : ∀ rule ∈ some secondTuesdays,
      ∃ frequency, rule.frequency? = some frequency :=
    forall_mem_some_supported (show secondTuesdays.frequency? = some .monthly from rfl)
  have noOverlap : schedule.NoOverlap :=
    List.pairwise_pair.mpr (Period.disjoint_of_lt rfl (by decide))
  have isLast : secondTuesdays.reanchor leapDay = lastThursdays := by decide +kernel
  obtain ⟨edited, moved⟩ : ∃ edited, schedule.moveMeeting present leapDay = .ok edited :=
    exists_eq_ok_of_isOk (by decide +kernel)
  obtain ⟨ofRule, ofSchedule⟩ := moved_meetings_take_place
  have reanchored := (ofRule _ supported leapDay).1 secondTuesdays rfl
  rw [isLast] at reanchored
  obtain ⟨takesPlace, passedOver⟩ := ofSchedule schedule edited present leapDay noOverlap moved true
  exact ⟨supported, reanchored, noOverlap, edited, moved, takesPlace, by decide, by decide,
    passedOver between (by decide) (by decide)⟩

end Schedule
end Scheduling
end Cadence
