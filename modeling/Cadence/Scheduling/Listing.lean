import Cadence.Recurrence.Search
import Cadence.Scheduling.Schedule

/-!
# Occurrences of a schedule

All occurrences in a window of dates, through the whole history.  Every period
contributes the occurrences of its own rule inside its own stretch of time.
-/

namespace Cadence
namespace Scheduling

open Calendar Recurrence

/-- Two ascending lists of dates as one, each date once. -/
def mergeDates : List Date → List Date → List Date
  | [], second => second
  | first, [] => first
  | earlier :: first, later :: second =>
    if earlier < later then
      earlier :: mergeDates first (later :: second)
    else if later < earlier then
      later :: mergeDates (earlier :: first) second
    else
      earlier :: mergeDates first second
termination_by first second => first.length + second.length

@[simp] theorem mergeDates_nil_left (dates : List Date) :
    mergeDates [] dates = dates := by
  simp [mergeDates]

@[simp] theorem mergeDates_nil_right (dates : List Date) :
    mergeDates dates [] = dates := by
  cases dates <;> simp [mergeDates]

theorem mem_mergeDates {date : Date} {first second : List Date} :
    date ∈ mergeDates first second ↔ date ∈ first ∨ date ∈ second := by
  fun_induction mergeDates first second with
  | case1 => simp
  | case2 => simp
  | case3 earlier first later second _ hypothesis =>
      simp [hypothesis, or_assoc]
  | case4 earlier first later second _ _ hypothesis =>
      simp only [List.mem_cons, hypothesis]
      constructor <;> (intro member; simp only [← or_assoc] at *; grind)
  | case5 earlier first later second notBefore notAfter hypothesis =>
      have same : earlier = later := by
        apply Date.ext
        rw [Date.lt_iff] at notBefore notAfter
        omega
      subst same
      simp only [List.mem_cons, hypothesis]
      grind

/-- Merging keeps the order and lets no date appear twice. -/
theorem pairwise_mergeDates
    {first second : List Date}
    (firstAscending : first.Pairwise (· < ·))
    (secondAscending : second.Pairwise (· < ·)) :
    (mergeDates first second).Pairwise (· < ·) := by
  fun_induction mergeDates first second with
  | case1 => exact secondAscending
  | case2 => exact firstAscending
  | case3 earlier first later second before hypothesis =>
      rw [List.pairwise_cons] at firstAscending
      refine List.pairwise_cons.mpr ⟨?_, hypothesis firstAscending.2 secondAscending⟩
      intro date member
      rcases mem_mergeDates.mp member with inFirst | inSecond
      · exact firstAscending.1 date inFirst
      · rcases List.mem_cons.mp inSecond with same | inRest
        · exact same ▸ before
        · exact Nat.lt_trans before (List.rel_of_pairwise_cons secondAscending inRest)
  | case4 earlier first later second _ before hypothesis =>
      rw [List.pairwise_cons] at secondAscending
      refine List.pairwise_cons.mpr ⟨?_, hypothesis firstAscending secondAscending.2⟩
      intro date member
      rcases mem_mergeDates.mp member with inFirst | inSecond
      · rcases List.mem_cons.mp inFirst with same | inRest
        · exact same ▸ before
        · exact Nat.lt_trans before (List.rel_of_pairwise_cons firstAscending inRest)
      · exact secondAscending.1 date inSecond
  | case5 earlier first later second notBefore notAfter hypothesis =>
      have same : earlier = later := by
        apply Date.ext
        rw [Date.lt_iff] at notBefore notAfter
        omega
      subst same
      rw [List.pairwise_cons] at firstAscending secondAscending
      refine List.pairwise_cons.mpr
        ⟨?_, hypothesis firstAscending.2 secondAscending.2⟩
      intro date member
      rcases mem_mergeDates.mp member with inFirst | inSecond
      · exact firstAscending.1 date inFirst
      · exact secondAscending.1 date inSecond

/-- The occurrences of one period in a window. -/
def Period.occurrences
    (period : Period)
    (limit : ProbeLimit)
    (fromDate untilDate : Date) : Except Interruption (List Date) :=
  let windowEnd := period.endDate.elim untilDate (min untilDate)
  if windowEnd < max fromDate period.startDate then
    .ok []
  else
    (limit.windowSequence period.rule period.startDate fromDate windowEnd
      period.endDate).toList

/-- The occurrences of several periods in a window, each date once and in
order. -/
def occurrencesOf
    (limit : ProbeLimit)
    (fromDate untilDate : Date) : List Period → Except Interruption (List Date)
  | [] => .ok []
  | period :: periods =>
    match period.occurrences limit fromDate untilDate with
    | .error interruption => .error interruption
    | .ok dates =>
      match occurrencesOf limit fromDate untilDate periods with
      | .error interruption => .error interruption
      | .ok others => .ok (mergeDates dates others)

/-- The occurrences of a schedule in a window, with or without its history. -/
def Schedule.occurrences
    (schedule : Schedule)
    (limit : ProbeLimit)
    (includeHistory : Bool)
    (fromDate untilDate : Date) : Except Interruption (List Date) :=
  if untilDate < fromDate then
    .ok []
  else
    occurrencesOf limit fromDate untilDate
      (if includeHistory then schedule.periods else [schedule.current])

end Scheduling
end Cadence
