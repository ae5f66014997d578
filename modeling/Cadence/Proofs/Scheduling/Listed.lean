import Cadence.Proofs.Scheduling.Answers
import Cadence.Proofs.Scheduling.Coverage

/-!
# Listed dates

The listing of a window and the answers about its days.  A date is listed when it is an
occurrence of any period, but its answer comes from the first period that contains it.
The two differ only on dates in conflict.
-/

namespace Cadence
namespace Scheduling

open Calendar Recurrence

/-- A period whose rule, if it has one, is of a supported frequency. -/
def Period.IsSupported (period : Period) : Prop :=
  ∀ rule ∈ period.rule, ∃ frequency, rule.frequency? = some frequency

/-- A period with a supported rule, or with none, answers for every date. -/
theorem Period.IsSupported.exists_isOccurrence_eq_ok
    {period : Period}
    (supported : period.IsSupported)
    (limits : Limits)
    (date : Date) :
    ∃ occurs, period.isOccurrence limits date = .ok occurs := by
  unfold Period.isOccurrence
  cases isRule : period.rule with
  | none => exact ⟨_, isOccurrence_none _ _ _⟩
  | some rule =>
      obtain ⟨frequency, isSupported⟩ := supported rule isRule
      exact ⟨_, isOccurrence_of_frequency? isSupported _ _ _⟩

section Window

variable {fromDate untilDate : Date} (inside : untilDate < Date.last)
include inside

/-- The occurrences of a period with a supported rule, or with none, in a window. -/
theorem Period.exists_occurrences_eq_ok {period : Period} (supported : period.IsSupported) :
    ∃ dates, period.occurrences .automatic fromDate untilDate = .ok dates ∧
      dates.Pairwise (· < ·) ∧
      ∀ date, date ∈ dates ↔
        (fromDate ≤ date ∧ date ≤ untilDate) ∧
          period.isOccurrence .none date = .ok true := by
  have inReach {date : Date}
      (occurs : period.isOccurrence .none date = .ok true)
      (upTo : date ≤ untilDate) : date ≤ period.lastIn untilDate :=
    le_lastIn_iff.mpr ⟨upTo, (contains_iff.mp (contains_of_isOccurrence occurs)).2⟩
  by_cases empty : period.lastIn untilDate < max fromDate period.startDate
  · refine ⟨[], ?_, List.Pairwise.nil, ?_⟩
    · rw [occurrences_eq, if_pos empty]
    · intro date
      simp only [List.not_mem_nil, false_iff]
      rintro ⟨⟨opened, upTo⟩, occurs⟩
      have reached := inReach occurs upTo
      have started := (contains_iff.mp (contains_of_isOccurrence occurs)).1
      rw [Date.lt_iff, Date.dayNumber_max] at empty
      rw [Date.le_iff] at opened reached started
      omega
  · have reachInside : period.lastIn untilDate < Date.last :=
      Nat.lt_of_le_of_lt (period.lastIn_le untilDate) inside
    obtain ⟨dates, isList, ascending, members⟩ :=
      exists_toList_windowSequence supported period.startDate fromDate reachInside
        period.endDate
    refine ⟨dates, (if_neg empty).trans isList, ascending, ?_⟩
    intro date
    rw [members]
    constructor
    · rintro ⟨⟨opened, reached⟩, occurs⟩
      exact ⟨⟨opened, (le_lastIn_iff.mp reached).1⟩, occurs⟩
    · rintro ⟨⟨opened, upTo⟩, occurs⟩
      exact ⟨⟨opened, inReach occurs upTo⟩, occurs⟩

/-- The occurrences of several periods in a window. -/
theorem exists_occurrencesOf_eq_ok
    {periods : List Period}
    (supported : ∀ period ∈ periods, period.IsSupported) :
    ∃ dates, occurrencesOf .automatic fromDate untilDate periods = .ok dates ∧
      dates.Pairwise (· < ·) ∧
      ∀ date, date ∈ dates ↔
        (fromDate ≤ date ∧ date ≤ untilDate) ∧
          ∃ period ∈ periods, period.isOccurrence .none date = .ok true := by
  induction periods with
  | nil => exact ⟨[], rfl, List.Pairwise.nil, by simp⟩
  | cons period periods hypothesis =>
      rw [List.forall_mem_cons] at supported
      obtain ⟨dates, isList, ascending, members⟩ :=
        period.exists_occurrences_eq_ok inside supported.1
      obtain ⟨others, isOthers, othersAscending, otherMembers⟩ := hypothesis supported.2
      refine ⟨mergeDates dates others, ?_, pairwise_mergeDates ascending othersAscending, ?_⟩
      · rw [occurrencesOf, isList, isOthers]
      · intro date
        rw [mem_mergeDates, members, otherMembers, ← and_or_left]
        simp only [List.mem_cons, exists_eq_or_imp]

end Window

namespace Schedule

variable {schedule : Schedule} {date : Date}

/-- A date is an occurrence when it is one of the first period that contains it. -/
theorem checkOccurrenceOn_eq_true_iff {limits : Limits} :
    schedule.checkOccurrenceOn false limits date = .ok true ↔
      ∃ period, schedule.periods.find? (fun period => period.contains date) = some period ∧
        period.isOccurrence limits date = .ok true := by
  rw [checkOccurrenceOn_false]
  cases schedule.periods.find? fun period => period.contains date with
  | none => simp
  | some period =>
      simp only [Option.some.injEq, exists_eq_left', mapError_eq_ok_iff]

/-- The only claim on a date is the first one. -/
theorem find?_of_claims_le_one
    {period : Period}
    (atMostOne : schedule.claims date ≤ 1)
    (member : period ∈ schedule.periods)
    (contains : period.contains date = true) :
    schedule.periods.find? (fun period => period.contains date) = some period := by
  have claiming : period ∈ schedule.claiming date := mem_claiming.mpr ⟨member, contains⟩
  rw [claims] at atMostOne
  rw [← List.head?_filter]
  change (schedule.claiming date).head? = some period
  cases isClaiming : schedule.claiming date with
  | nil =>
      rw [isClaiming] at claiming
      cases claiming
  | cons first others =>
      rw [isClaiming] at claiming atMostOne
      have noOthers : others = [] := List.eq_nil_of_length_eq_zero
        (Nat.le_zero.mp (Nat.le_of_succ_le_succ atMostOne))
      rw [noOthers] at claiming
      rw [List.head?_cons, List.mem_singleton.mp claiming]

/-- An occurrence of a period is one of the schedule unless the date is in conflict. -/
theorem checkOccurrenceOn_of_isOccurrence
    {period : Period}
    {limits : Limits}
    (atMostOne : schedule.claims date ≤ 1)
    (member : period ∈ schedule.periods)
    (occurs : period.isOccurrence limits date = .ok true) :
    schedule.checkOccurrenceOn false limits date = .ok true :=
  checkOccurrenceOn_eq_true_iff.mpr ⟨period, find?_of_claims_le_one atMostOne member
    (Period.contains_of_isOccurrence occurs), occurs⟩

theorem exists_isOccurrenceOn_eq_ok
    (supported : ∀ period ∈ schedule.periods, period.IsSupported)
    (limits : Limits)
    (date : Date) :
    ∃ occurs, schedule.isOccurrenceOn limits date = .ok occurs :=
  (supported _ (schedule.resolve_mem_periods date)).exists_isOccurrence_eq_ok limits date

/-- Without overlapping periods the occurrences of a schedule are those of its periods. -/
theorem isOccurrenceOn_eq_true_iff
    (noOverlap : schedule.NoOverlap)
    {limits : Limits} :
    schedule.isOccurrenceOn limits date = .ok true ↔
      ∃ period ∈ schedule.periods, period.isOccurrence limits date = .ok true := by
  constructor
  · exact fun occurs => ⟨_, schedule.resolve_mem_periods date, occurs⟩
  · rintro ⟨period, member, occurs⟩
    have checked :=
      checkOccurrenceOn_of_isOccurrence (noOverlap_iff.mp noOverlap date) member occurs
    rw [checkOccurrenceOn, periodOn_false] at checked
    exact mapError_eq_ok_iff.mp checked

/-- The occurrences of all periods of a schedule in a window. -/
theorem exists_occurrences_eq_ok
    {untilDate : Date}
    (schedule : Schedule)
    (supported : ∀ period ∈ schedule.periods, period.IsSupported)
    (fromDate : Date)
    (inside : untilDate < Date.last) :
    ∃ dates, schedule.occurrences .automatic true fromDate untilDate = .ok dates ∧
      dates.Pairwise (· < ·) ∧
      ∀ date, date ∈ dates ↔
        (fromDate ≤ date ∧ date ≤ untilDate) ∧
          ∃ period ∈ schedule.periods, period.isOccurrence .none date = .ok true := by
  by_cases empty : untilDate < fromDate
  · refine ⟨[], if_pos empty, List.Pairwise.nil, ?_⟩
    intro date
    simp only [List.not_mem_nil, false_iff]
    rintro ⟨⟨opened, upTo⟩, _⟩
    exact Nat.not_lt_of_le (Nat.le_trans opened upTo) empty
  · unfold occurrences
    rw [if_neg empty]
    exact exists_occurrencesOf_eq_ok inside supported

/-- The listing of a window that ends before the calendar does agrees with the answers
about its days.  It lists the occurrences of all periods in the window, in order and each
once.  Every date that is an occurrence of the schedule is listed, and a listed date that
is none is in conflict; without overlapping periods the list holds exactly the occurrences
of the schedule. -/
theorem occurrences_agree
    {untilDate : Date}
    (schedule : Schedule)
    (supported : ∀ period ∈ schedule.periods, period.IsSupported)
    (fromDate : Date)
    (inside : untilDate < Date.last) :
    ∃ dates, schedule.occurrences .automatic true fromDate untilDate = .ok dates ∧
      dates.Pairwise (· < ·) ∧
      (∀ date, date ∈ dates ↔
        (fromDate ≤ date ∧ date ≤ untilDate) ∧
          ∃ period ∈ schedule.periods, period.isOccurrence .none date = .ok true) ∧
      (∀ date, fromDate ≤ date → date ≤ untilDate →
        schedule.checkOccurrenceOn false .none date = .ok true → date ∈ dates) ∧
      (∀ date ∈ dates, schedule.checkOccurrenceOn false .none date ≠ .ok true →
        (schedule.resolve date).conflict ≠ none) ∧
      (schedule.NoOverlap → ∀ date, date ∈ dates ↔
        (fromDate ≤ date ∧ date ≤ untilDate) ∧
          schedule.checkOccurrenceOn false .none date = .ok true) := by
  obtain ⟨dates, isList, ascending, members⟩ :=
    schedule.exists_occurrences_eq_ok supported fromDate inside
  have listed (date : Date) (opened : fromDate ≤ date) (upTo : date ≤ untilDate)
      (occurs : schedule.checkOccurrenceOn false .none date = .ok true) : date ∈ dates := by
    obtain ⟨period, isFirst, isOccurrence⟩ := checkOccurrenceOn_eq_true_iff.mp occurs
    exact (members date).mpr
      ⟨⟨opened, upTo⟩, period, List.mem_of_find?_eq_some isFirst, isOccurrence⟩
  have answered (date : Date) (member : date ∈ dates) (atMostOne : schedule.claims date ≤ 1) :
      schedule.checkOccurrenceOn false .none date = .ok true := by
    obtain ⟨_, period, isPeriod, occurs⟩ := (members date).mp member
    exact checkOccurrenceOn_of_isOccurrence atMostOne isPeriod occurs
  refine ⟨dates, isList, ascending, members, listed, ?_, ?_⟩
  · intro date member noOccurrence noConflict
    exact noOccurrence (answered date member (conflict_resolve_eq_none_iff.mp noConflict))
  · intro noOverlap date
    constructor
    · intro member
      exact ⟨((members date).mp member).1, answered date member (noOverlap_iff.mp noOverlap date)⟩
    · rintro ⟨⟨opened, upTo⟩, occurs⟩
      exact listed date opened upTo occurs

/-- Mondays from the first one of 2024 on.  A single meeting on 10 January takes the days up
to 15 January, so that Monday is listed but no meeting, and in conflict; when it takes the
days of the year before instead, every Monday listed is a meeting. -/
theorem occurrences_agree_mondays :
    let mondays : Period :=
      ⟨some ⟨1, .weekly none, by decide⟩, ⟨738885, by decide⟩, none, by decide⟩
    let overlapping : Schedule := {
      id := "calendar"
      current := mondays
      history := [⟨none, ⟨738894, by decide⟩, some ⟨738899, by decide⟩, by decide⟩] }
    let apart : Schedule := {
      id := "calendar"
      current := mondays
      history := [⟨none, ⟨738800, by decide⟩, some ⟨738884, by decide⟩, by decide⟩] }
    let monday : Date := ⟨738899, by decide⟩
    (∃ dates, overlapping.occurrences .automatic true .first monday = .ok dates ∧
      monday ∈ dates ∧ (overlapping.resolve monday).conflict ≠ none) ∧
    apart.NoOverlap ∧
    ∃ dates, apart.occurrences .automatic true .first monday = .ok dates ∧
      monday ∈ dates ∧ ∀ date, date ∈ dates ↔
        (.first ≤ date ∧ date ≤ monday) ∧
          apart.checkOccurrenceOn false .none date = .ok true := by
  intro mondays overlapping apart monday
  have supported (single : Period) (noRule : single.rule = none) :
      ∀ period ∈ [single, mondays], period.IsSupported := by
    refine List.forall_mem_cons.mpr ⟨?_, List.forall_mem_singleton.mpr ?_⟩
    · rw [Period.IsSupported, noRule]
      rintro _ ⟨⟩
    · rintro _ ⟨⟩
      exact ⟨.weekly, rfl⟩
  have inside : monday < Date.last := by decide
  have isMeeting : mondays.isOccurrence .none monday = .ok true :=
    eq_ok_of_toOption (by decide)
  have noOverlap : apart.NoOverlap :=
    List.pairwise_pair.mpr (Period.disjoint_of_lt rfl (by decide))
  obtain ⟨dates, isList, _, members, _, differs, _⟩ :=
    overlapping.occurrences_agree (supported _ rfl) .first inside
  obtain ⟨apartDates, isApartList, _, apartMembers, _, _, agrees⟩ :=
    apart.occurrences_agree (supported _ rfl) .first inside
  have listed : monday ∈ dates := (members monday).mpr
    ⟨⟨by decide, by decide⟩, mondays, by decide, isMeeting⟩
  have noMeeting : overlapping.checkOccurrenceOn false .none monday ≠ .ok true := by
    have answer : overlapping.checkOccurrenceOn false .none monday = .ok false :=
      eq_ok_of_toOption (by decide)
    rw [answer]
    intro occurs
    cases occurs
  exact ⟨⟨dates, isList, listed, differs monday listed noMeeting⟩, noOverlap, apartDates,
    isApartList, (apartMembers monday).mpr
      ⟨⟨by decide, by decide⟩, mondays, by decide, isMeeting⟩, agrees noOverlap⟩

end Schedule
end Scheduling
end Cadence
