import Cadence.Proofs.Scheduling.Answers
import Cadence.Proofs.Scheduling.EditRuns

/-!
# The past

What a schedule is up to a day: the parts of its periods up to that day.  The answers on
the day and the occurrences of windows that end there depend on these parts only, and no
edit of a later date changes them.
-/

namespace Cadence
namespace Scheduling

open Calendar Recurrence

namespace Period

variable {period part : Period} {day : Date}

/-- The part of a period up to a day, when it starts by then. -/
def upTo? (day : Date) (period : Period) : Option Period :=
  if started : period.startDate ≤ day then
    some ⟨period.rule, period.startDate, some (period.lastIn day),
      le_of_mem_some (le_lastIn_iff.mpr ⟨started, period.starts_le⟩)⟩
  else
    none

theorem upTo?_congr
    {first second : Period}
    (sameRule : first.rule = second.rule)
    (sameStart : first.startDate = second.startDate)
    (sameLast : first.lastIn day = second.lastIn day) :
    first.upTo? day = second.upTo? day := by
  simp only [upTo?, sameRule, sameStart, sameLast]

section Part

variable (isPart : period.upTo? day = some part)
include isPart

theorem fields_of_upTo? :
    part.rule = period.rule ∧ part.startDate = period.startDate ∧
      part.endDate = some (period.lastIn day) := by
  unfold upTo? at isPart
  split at isPart <;> cases isPart
  exact ⟨rfl, rfl, rfl⟩

/-- The day is behind the end of a period exactly when it is behind the end of its part. -/
theorem le_endDate_iff_of_upTo? :
    (∀ last ∈ part.endDate, day ≤ last) ↔ ∀ last ∈ period.endDate, day ≤ last := by
  obtain ⟨-, -, isEnd⟩ := fields_of_upTo? isPart
  rw [isEnd]
  simp only [Option.mem_some_iff, forall_eq', le_lastIn_iff]
  exact and_iff_right (Nat.le_refl _)

theorem contains_of_upTo? : part.contains day = period.contains day := by
  obtain ⟨-, sameStart, -⟩ := fields_of_upTo? isPart
  rw [Bool.eq_iff_iff, contains_iff, contains_iff, sameStart, le_endDate_iff_of_upTo? isPart]

theorem isOccurrence_of_upTo? (limits : Limits) :
    part.isOccurrence limits day = period.isOccurrence limits day := by
  obtain ⟨sameRule, sameStart, -⟩ := fields_of_upTo? isPart
  unfold isOccurrence
  rw [sameRule, sameStart]
  exact isOccurrence_endDate_congr _ _ limits (le_endDate_iff_of_upTo? isPart)

theorem occurrences_of_upTo? (limit : ProbeLimit) (fromDate : Date) :
    part.occurrences limit fromDate day = period.occurrences limit fromDate day := by
  obtain ⟨sameRule, sameStart, isEnd⟩ := fields_of_upTo? isPart
  have sameLast : part.lastIn day = period.lastIn day := by
    apply Date.ext
    rw [lastIn, isEnd, Option.elim_some, Date.dayNumber_min]
    exact Nat.min_eq_right (period.lastIn_le day)
  rw [occurrences_eq, occurrences_eq, sameRule, sameStart, sameLast]

end Part

/-- A period that starts after a day has no part up to it. -/
theorem lt_startDate_of_upTo? (noPart : period.upTo? day = none) :
    day < period.startDate := by
  unfold upTo? at noPart
  split at noPart
  · cases noPart
  · next notStarted => exact Nat.lt_of_not_le notStarted

theorem upTo?_of_lt_startDate (later : day < period.startDate) :
    period.upTo? day = none :=
  dif_neg (Nat.not_le_of_lt later)

theorem exists_upTo?_of_contains (inside : period.contains day = true) :
    ∃ part, period.upTo? day = some part :=
  ⟨_, dif_pos (contains_iff.mp inside).1⟩

theorem contains_eq_any_upTo? :
    period.contains day = (period.upTo? day).any fun part => part.contains day := by
  cases isPart : period.upTo? day with
  | none => exact contains_of_lt_startDate (lt_startDate_of_upTo? isPart)
  | some part => exact (contains_of_upTo? isPart).symm

/-- A window that ends before a period starts holds none of its occurrences. -/
theorem occurrences_of_lt_startDate
    (later : day < period.startDate)
    (limit : ProbeLimit)
    (fromDate : Date) :
    period.occurrences limit fromDate day = .ok [] := by
  rw [occurrences_eq, if_pos]
  have reached := period.lastIn_le day
  rw [Date.le_iff] at reached
  rw [Date.lt_iff] at later ⊢
  rw [Date.dayNumber_max]
  omega

/-- A period that ends before a date is, up to any day before the date, what it was. -/
theorem upTo?_closedBefore
    {date : Date}
    (follows : period.Follows date)
    (before : day < date) :
    (period.closedBefore date follows.afterStart).upTo? day = period.upTo? day := by
  refine upTo?_congr rfl rfl ?_
  have inPeriod : ∀ last ∈ period.endDate, day ≤ last := fun last isLast =>
    Nat.le_of_lt (Nat.lt_of_lt_of_le before (follows.notAfterEnd last isLast))
  have inClosed :
      ∀ last ∈ (period.closedBefore date follows.afterStart).endDate, day ≤ last := by
    rintro _ ⟨⟩
    exact Nat.le_sub_one_of_lt before
  rw [lastIn_eq_self inClosed, lastIn_eq_self inPeriod]

end Period

/-! ## Schedules up to a day -/

namespace Schedule

variable {schedule edited : Schedule} {day : Date}

/-- The parts of the periods of a schedule up to a day. -/
def upTo (schedule : Schedule) (day : Date) : List Period :=
  schedule.periods.filterMap (Period.upTo? day)

theorem find?_upTo (schedule : Schedule) (day : Date) :
    (schedule.upTo day).find? (fun part => part.contains day) =
      (schedule.periods.find? fun period => period.contains day).bind
        (Period.upTo? day) := by
  unfold upTo
  rw [List.find?_filterMap]
  simp only [← Period.contains_eq_any_upTo?]

/-- The first period to contain a day has a part up to it, which is the first one to
contain the day among the parts. -/
theorem exists_find?_upTo
    {period : Period}
    (isFirst : schedule.periods.find? (fun period => period.contains day) = some period) :
    ∃ part, period.upTo? day = some part ∧
      (schedule.upTo day).find? (fun part => part.contains day) = some part := by
  have inside := List.find?_some isFirst
  obtain ⟨part, isPart⟩ := Period.exists_upTo?_of_contains inside
  refine ⟨part, isPart, ?_⟩
  rw [find?_upTo, isFirst]
  exact isPart

/-- The answer on a day depends on the parts of the periods up to the day. -/
theorem checkOccurrenceOn_eq_upTo
    (schedule : Schedule)
    (limits : Limits)
    (day : Date) :
    schedule.checkOccurrenceOn false limits day =
      match (schedule.upTo day).find? fun part => part.contains day with
      | none => .ok false
      | some part => (part.isOccurrence limits day).mapError .unsupported := by
  rw [checkOccurrenceOn_false]
  cases isFirst : schedule.periods.find? fun period => period.contains day with
  | none => rw [find?_upTo, isFirst, Option.bind_none]
  | some period =>
      obtain ⟨part, isPart, isFirstPart⟩ := exists_find?_upTo isFirst
      rw [isFirstPart]
      simp only [Period.isOccurrence_of_upTo? isPart]

/-- The first part to contain a day is the part of the period in effect on that day. -/
theorem upTo?_resolve
    {part : Period}
    (isFirst : (schedule.upTo day).find? (fun part => part.contains day) = some part) :
    (schedule.resolve day).period.upTo? day = some part := by
  rw [find?_upTo] at isFirst
  obtain ⟨period, isFirstPeriod, isPart⟩ := Option.bind_eq_some_iff.mp isFirst
  rw [period_resolve, isFirstPeriod]
  exact isPart

theorem occurrencesOf_filterMap_upTo?
    (limit : ProbeLimit)
    (fromDate day : Date)
    (periods : List Period) :
    occurrencesOf limit fromDate day (periods.filterMap (Period.upTo? day)) =
      occurrencesOf limit fromDate day periods := by
  induction periods with
  | nil => rfl
  | cons period periods hypothesis =>
      cases isPart : period.upTo? day with
      | none =>
          rw [List.filterMap_cons_none isPart, hypothesis, occurrencesOf,
            Period.occurrences_of_lt_startDate (Period.lt_startDate_of_upTo? isPart)]
          cases occurrencesOf limit fromDate day periods with
          | error interruption => rfl
          | ok dates => simp only [mergeDates_nil_left]
      | some part =>
          rw [List.filterMap_cons_some isPart, occurrencesOf, occurrencesOf, hypothesis,
            Period.occurrences_of_upTo? isPart]

/-- The occurrences of a window depend on the parts of the periods up to its last day. -/
theorem occurrences_eq_upTo
    (schedule : Schedule)
    (limit : ProbeLimit)
    (fromDate day : Date) :
    schedule.occurrences limit true fromDate day =
      if day < fromDate then .ok []
      else occurrencesOf limit fromDate day (schedule.upTo day) := by
  unfold occurrences upTo
  rw [occurrencesOf_filterMap_upTo?]
  rfl

/-! ## Edits -/

/-- An edit leaves the days before its date as they were. -/
theorem upTo_eq_of_edit
    {edit : Edit}
    (succeeds : schedule.edit edit = .ok edited)
    (before : day < edit.date) : edited.upTo day = schedule.upTo day := by
  obtain ⟨follows, period, notEarlier, starts, _, rfl⟩ :=
    exists_replaceCurrent_of_edit succeeds
  have later : day < period.startDate := by
    rw [starts]
    exact Nat.lt_of_lt_of_le before notEarlier
  unfold upTo
  rw [periods_replaceCurrent, periods, List.filterMap_append, List.filterMap_append]
  simp only [List.filterMap_cons, List.filterMap_nil, Period.upTo?_of_lt_startDate later,
    Period.upTo?_closedBefore follows before]

/-- A run of edits leaves the days before the current period as they were, since each edit moves the
start of that period on. -/
theorem upTo_eq_of_editAll
    {edits : List Edit}
    (succeeds : schedule.editAll edits = .ok edited)
    (before : day < schedule.current.startDate) :
    edited.upTo day = schedule.upTo day := by
  have kept : edited.upTo day = schedule.upTo day ∧ day < edited.current.startDate := by
    refine editAll_induction (motive := fun reached =>
      reached.upTo day = schedule.upTo day ∧ day < reached.current.startDate)
      ?_ succeeds ⟨rfl, before⟩
    rintro reached next edit succeeds ⟨sameParts, beforeCurrent⟩
    obtain ⟨afterStart, notAfter⟩ := edit_date_bounds succeeds
    have beforeEdit : day < edit.date := Nat.lt_trans beforeCurrent afterStart
    exact ⟨(upTo_eq_of_edit succeeds beforeEdit).trans sameParts,
      Nat.lt_of_lt_of_le beforeEdit notAfter⟩
  exact kept.1

/-- Editing a schedule leaves the past as it was, whatever edits follow.  Before the date
of the first edit every question about a single day has the same answer, the same rule is
in effect since the same date on each day that some period contains, and every window
holds the same occurrences or is interrupted alike. -/
theorem edits_keep_past
    {edit : Edit}
    {edits : List Edit}
    {final : Schedule}
    (succeeds : schedule.edit edit = .ok edited)
    (runs : edited.editAll edits = .ok final) :
    (∀ day < edit.date, ∀ limits : Limits,
      final.checkOccurrenceOn false limits day =
        schedule.checkOccurrenceOn false limits day) ∧
    (∀ day < edit.date, (∃ period ∈ schedule.periods, period.contains day = true) →
      final.ruleOn false day = schedule.ruleOn false day ∧
      (final.periodOn false day).map Period.startDate =
        (schedule.periodOn false day).map Period.startDate) ∧
    (∀ untilDate < edit.date, ∀ (limit : ProbeLimit) (fromDate : Date),
      final.occurrences limit true fromDate untilDate =
        schedule.occurrences limit true fromDate untilDate) := by
  have kept {day : Date} (before : day < edit.date) :
      final.upTo day = schedule.upTo day := by
    have beforeStart : day < edited.current.startDate :=
      Nat.lt_of_lt_of_le before (edit_date_bounds succeeds).2
    exact (upTo_eq_of_editAll runs beforeStart).trans (upTo_eq_of_edit succeeds before)
  refine ⟨?_, ?_, ?_⟩
  · intro day before limits
    rw [checkOccurrenceOn_eq_upTo, checkOccurrenceOn_eq_upTo, kept before]
  · intro day before claimed
    obtain ⟨period, isFirst⟩ := Option.isSome_iff_exists.mp (List.find?_isSome.mpr claimed)
    obtain ⟨part, _, isFirstPart⟩ := exists_find?_upTo isFirst
    have isPart := upTo?_resolve isFirstPart
    rw [← kept before] at isFirstPart
    have isFinalPart := upTo?_resolve isFirstPart
    unfold ruleOn
    rw [periodOn_false, periodOn_false]
    obtain ⟨sameRule, sameStart, -⟩ := Period.fields_of_upTo? isPart
    obtain ⟨sameFinalRule, sameFinalStart, -⟩ := Period.fields_of_upTo? isFinalPart
    refine ⟨congrArg Except.ok ?_, congrArg Except.ok ?_⟩
    · exact sameFinalRule.symm.trans sameRule
    · exact sameFinalStart.symm.trans sameStart
  · intro untilDate before limit fromDate
    rw [occurrences_eq_upTo, occurrences_eq_upTo, kept before]

/-- Meetings on Mondays from the first one of 2024 on.  The meeting of 15 January moves to
the Wednesday after it, and from 5 February on there is one a month: 8 January stays a
meeting under the weekly rule. -/
theorem edits_keep_past_mondays :
    let weekly : Rule := ⟨1, .weekly none, by decide⟩
    let monthly : Rule := ⟨1, .monthly none, by decide⟩
    let schedule : Schedule := {
      id := "calendar"
      current := ⟨some weekly, ⟨738885, by decide⟩, none, by decide⟩
      history := [⟨none, ⟨738800, by decide⟩, some ⟨738884, by decide⟩, by decide⟩] }
    let move : Edit := .moveMeeting ⟨738899, by decide⟩ ⟨738901, by decide⟩
    let february : Edit := .supersede (some monthly) ⟨738920, by decide⟩ false
    let monday : Date := ⟨738892, by decide⟩
    ∃ moved final,
      schedule.edit move = .ok moved ∧ moved.editAll [february] = .ok final ∧
      final.checkOccurrenceOn false .none monday = .ok true ∧
      final.ruleOn false monday = .ok (some weekly) ∧
      final.occurrences .automatic true .first monday =
        schedule.occurrences .automatic true .first monday := by
  intro weekly monthly schedule move february monday
  obtain ⟨moved, isMoved⟩ : ∃ moved, schedule.edit move = .ok moved :=
    exists_eq_ok_of_isOk (by decide)
  obtain ⟨final, isFinal⟩ : ∃ final, moved.editAll [february] = .ok final := by
    have isRun : schedule.editAll [move, february] = moved.editAll [february] := by
      rw [editAll, isMoved]
    rw [← isRun]
    exact exists_eq_ok_of_isOk (by decide)
  obtain ⟨answers, rules, windows⟩ := edits_keep_past isMoved isFinal
  have before : monday < move.date := by decide
  have claimed : ∃ period ∈ schedule.periods, period.contains monday = true :=
    ⟨schedule.current, List.mem_append_right _ (List.mem_singleton_self _), by decide⟩
  refine ⟨moved, final, isMoved, isFinal, ?_, ?_, windows monday before _ _⟩
  · rw [answers monday before]
    exact eq_ok_of_toOption (by decide)
  · rw [(rules monday before claimed).1]
    exact eq_ok_of_toOption (by decide)

end Schedule
end Scheduling
end Cadence
