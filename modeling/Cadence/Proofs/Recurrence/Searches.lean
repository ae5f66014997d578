import Cadence.Proofs.Recurrence.CalendarEnds

/-!
# Searches

The searches for the next occurrences, the next one and the previous one with a probe limit
chosen for the rule.  They find what there is, or that there is nothing, except where they walk
out of the calendar: behind its last day or before its first one.
-/

namespace Cadence
namespace Recurrence

open Calendar

/-- A search answers, unless it leaves the calendar. -/
structure AnswersUnless {α : Type}
    (leaves : Prop)
    (answer : Except Interruption α) : Prop where
  fails : leaves → answer = .error .outOfCalendar
  answers : ¬ leaves → ∃ found, answer = .ok found

theorem AnswersUnless.of_ok {α : Type}
    {leaves : Prop}
    {answer : Except Interruption α}
    {found : α}
    (isAnswer : answer = .ok found)
    (stays : ¬ leaves) : AnswersUnless leaves answer where
  fails := fun given => absurd given stays
  answers := fun _ => ⟨found, isAnswer⟩

/-- What holds on a date and on all dates up to the day before holds up to that date. -/
theorem forall_le_previous_iff
    {Holds : Date → Prop}
    {date preceding : Date}
    (isPrevious : date.previous? = some preceding)
    (here : Holds date) :
    (∀ probed ≤ preceding, Holds probed) ↔ ∀ probed ≤ date, Holds probed := by
  have number := Date.dayNumber_previous? isPrevious
  constructor
  · intro before probed upTo
    rw [Date.le_iff] at upTo
    by_cases isDate : probed = date
    · rw [isDate]
      exact here
    · apply before
      have different : probed.dayNumber ≠ date.dayNumber :=
        fun same => isDate (Date.ext same)
      rw [Date.le_iff]
      omega
  · intro all probed upTo
    apply all
    rw [Date.le_iff] at upTo ⊢
    omega

/-- A date is no later than the earlier of a day and the last day of a schedule, if it has
one, exactly when it is no later than both. -/
theorem le_elim_min_iff {onOrBefore : Date} {endDate : Option Date} (date : Date) :
    date ≤ endDate.elim onOrBefore (min onOrBefore) ↔
      date ≤ onOrBefore ∧ ∀ last ∈ endDate, date ≤ last := by
  cases endDate with
  | none => simp
  | some last =>
      simp only [Option.elim_some, Option.mem_some_iff, forall_eq', Date.le_iff,
        Date.dayNumber_min]
      omega

/-- Among as many days as the limit for a rule there is an occurrence. -/
theorem exists_isOccurrence_of_forRule
    {rule : Rule}
    {frequency : Frequency}
    (isSupported : rule.frequency? = some frequency)
    {start opening : Date}
    (started : start ≤ opening)
    (inside : opening.dayNumber + ProbeLimit.automatic.forRule (some rule) false none ≤
      calendarLength) :
    ∃ date, opening ≤ date ∧
      date.dayNumber <
        opening.dayNumber + ProbeLimit.automatic.forRule (some rule) false none ∧
      isOccurrence (some rule) start {} date = .ok true := by
  simp only [ProbeLimit.forRule] at inside ⊢
  have noGap : ∀ gap ∈ (none : Option Int), 0 ≤ gap := by
    intro gap isGap
    cases isGap
  have fits : (opening.dayNumber : Int) + longestGapDays (some rule) false none ≤
      calendarLength := by
    omega
  obtain ⟨date, notBefore, before, occurs⟩ :=
    exists_isOccurrence_of_longestGapDays isSupported noGap started fits
  exact ⟨date, notBefore, by omega, occurs⟩

/-- Among the days up to one that is as far from the first day of the calendar as the limit for
a rule there is an occurrence of a schedule that starts on the first day. -/
theorem exists_isOccurrence_of_forRule_le
    {rule : Rule}
    {frequency : Frequency}
    (isSupported : rule.frequency? = some frequency)
    {last : Date}
    (reaches : ProbeLimit.automatic.forRule (some rule) false none ≤ last.dayNumber) :
    ∃ date ≤ last, isOccurrence (some rule) Date.first {} date = .ok true := by
  have zero : Date.first.dayNumber = 0 := rfl
  have inside := last.inCalendar
  obtain ⟨date, _, before, occurs⟩ :=
    exists_isOccurrence_of_forRule isSupported Date.first.first_le (by omega)
  refine ⟨date, ?_, occurs⟩
  rw [Date.le_iff]
  omega

section Searches

variable {rule : Option Rule} (start : Date)

theorem firstProbe_nextSequence_le_iff
    {limit : ProbeLimit}
    {fromDate : Date}
    {count : Nat}
    {endDate : Option Date}
    {date : Date} :
    (limit.nextSequence rule start fromDate count endDate).firstProbe ≤ date ↔
      start ≤ date ∧ fromDate ≤ date := by
  change (some fromDate).elim start (max start) ≤ date ↔ _
  rw [firstProbe_le_iff]
  simp only [Option.mem_some_iff, forall_eq']

/-- A search for the next occurrence leaves the calendar when it goes on behind the last one. -/
theorem leavesCalendar_nextSequence_one_iff
    {limit : ProbeLimit}
    {fromDate : Date}
    {endDate : Option Date} :
    (limit.nextSequence rule start fromDate 1 endDate).LeavesCalendar ↔
      rule ≠ none ∧ (∀ last ∈ endDate, last = Date.last) ∧
        ∀ date, fromDate ≤ date → isOccurrence rule start { endDate } date ≠ .ok true := by
  have tooFew_iff :
      ((limit.nextSequence rule start fromDate 1 endDate).occurrencesBefore
          calendarLength).length < 1 ↔
        ∀ date, fromDate ≤ date → isOccurrence rule start { endDate } date ≠ .ok true := by
    rw [Nat.lt_one_iff, List.length_eq_zero_iff, List.eq_nil_iff_forall_not_mem]
    apply forall_congr'
    intro date
    rw [Sequence.mem_occurrencesBefore_calendarLength, firstProbe_nextSequence_le_iff, not_and,
      and_imp]
    constructor
    · intro noOthers started occurs
      exact noOthers (bounds_of_isOccurrence occurs).1 started occurs
    · intro noOthers _ started
      exact noOthers started
  constructor
  · intro leaves
    exact ⟨leaves.repeats, leaves.scheduleEnd, tooFew_iff.mp (leaves.tooFew 1 rfl)⟩
  · rintro ⟨repeats, scheduleEnd, noOthers⟩
    refine ⟨repeats, ?_, nofun, scheduleEnd⟩
    rintro _ ⟨⟩
    exact tooFew_iff.mpr noOthers

variable (supported : ∀ given ∈ rule, ∃ frequency, given.frequency? = some frequency)
include supported

theorem isOccurrence_eq_ok_of_supported
    (limits : Limits)
    (date : Date) : ∃ occurs, isOccurrence rule start limits date = .ok occurs := by
  cases rule with
  | none => exact ⟨_, isOccurrence_none start limits date⟩
  | some rule =>
      obtain ⟨frequency, isSupported⟩ := supported rule rfl
      exact ⟨_, isOccurrence_of_frequency? isSupported start limits date⟩

/-- The next occurrences are found, fewer of them when the schedule ends before, unless the
search leaves the calendar. -/
theorem nextOccurrences_eq
    (fromDate : Date)
    (count : Nat)
    (endDate : Option Date) :
    let sequence := ProbeLimit.automatic.nextSequence rule start fromDate count endDate
    let found := ProbeLimit.automatic.nextOccurrences rule start fromDate count endDate
    (sequence.LeavesCalendar → found = .error .outOfCalendar) ∧
      (¬ sequence.LeavesCalendar →
        found = .ok ((sequence.occurrencesBefore calendarLength).take count)) := by
  intro sequence found
  have started : sequence.start ≤ sequence.firstProbe :=
    ((firstProbe_nextSequence_le_iff start).mp (Nat.le_refl _)).1
  obtain ⟨leaving, staying⟩ := sequence.ending_run_of_automatic
    supported started rfl (Or.inl nofun)
  have isFound : found = foundDates sequence.run := rfl
  rw [isFound, ← Prod.eta sequence.run]
  refine ⟨fun leaves => ?_, fun stays => ?_⟩
  · rw [leaving leaves]
    rfl
  · have isComplete := staying stays
    rw [isComplete]
    refine congrArg Except.ok ?_
    cases rule with
    | none => exact Sequence.dates_run_of_rule_none rfl rfl rfl rfl
    | some rule =>
        obtain ⟨frequency, isSupported⟩ := supported rule rfl
        have repeating : sequence.IsRepeating :=
          ⟨⟨rule, frequency, rfl, isSupported⟩, ProbeLimit.automatic.forRule_pos _ _ _⟩
        exact repeating.dates_run rfl rfl isComplete

/-- The next occurrence is found, or that there is none, unless the day asked for or the search
leaves the calendar. -/
theorem answersUnless_nextOccurrence
    (after : Date)
    (inclusive : Bool)
    (endDate : Option Date) :
    AnswersUnless
      ((inclusive = false ∧ after = Date.last) ∨
        (rule ≠ none ∧ (∀ last ∈ endDate, last = Date.last) ∧
          ∀ date, after ≤ date → (inclusive = false → after ≠ date) →
            isOccurrence rule start { endDate } date ≠ .ok true))
      (ProbeLimit.automatic.nextOccurrence rule start after inclusive endDate) := by
  unfold ProbeLimit.nextOccurrence
  cases isFrom : if inclusive then some after else after.next? with
  | none =>
      cases inclusive with
      | true => cases isFrom
      | false =>
          have isLast := Date.next?_eq_none_iff.mp isFrom
          exact ⟨fun _ => rfl, fun stays => absurd (Or.inl ⟨rfl, isLast⟩) stays⟩
  | some fromDate =>
      have started (date : Date) :
          fromDate ≤ date ↔ after ≤ date ∧ (inclusive = false → after ≠ date) := by
        cases inclusive with
        | true =>
            cases isFrom
            simp
        | false =>
            have number := Date.dayNumber_next? isFrom
            have different : after ≠ date ↔ after.dayNumber ≠ date.dayNumber :=
              not_congr ⟨congrArg _, Date.ext⟩
            simp only [forall_const, different, Date.le_iff, number]
            omega
      have notLast : ¬ (inclusive = false ∧ after = Date.last) := by
        rintro ⟨rfl, rfl⟩
        cases isFrom
      rw [or_iff_right notLast]
      have condition :
          (ProbeLimit.automatic.nextSequence rule start fromDate 1 endDate).LeavesCalendar ↔
            (rule ≠ none ∧ (∀ last ∈ endDate, last = Date.last) ∧
              ∀ date, after ≤ date → (inclusive = false → after ≠ date) →
                isOccurrence rule start { endDate } date ≠ .ok true) := by
        rw [leavesCalendar_nextSequence_one_iff]
        simp only [started, and_imp]
      rw [← condition]
      obtain ⟨leaving, staying⟩ :=
        nextOccurrences_eq start supported fromDate 1 endDate
      exact ⟨fun leaves => congrArg (Except.map List.head?) (leaving leaves),
        fun stays => ⟨_, congrArg (Except.map List.head?) (staying stays)⟩⟩

/-- Probing backwards leaves the calendar when it comes to its first day, which is the start,
with probes left and nothing found. -/
theorem answersUnless_probeBack
    (endDate : Option Date)
    (probes : Nat)
    (date : Date) :
    AnswersUnless
      (start = Date.first ∧ date.dayNumber < probes ∧
        ∀ probed ≤ date, isOccurrence rule start { endDate } probed ≠ .ok true)
      (probeBack rule start endDate probes date) := by
  induction probes generalizing date with
  | zero => exact .of_ok rfl fun leaves => Nat.not_lt_zero _ leaves.2.1
  | succ probes hypothesis =>
      rw [probeBack]
      split
      · next before =>
          refine .of_ok rfl ?_
          rintro ⟨rfl, _⟩
          exact Nat.not_lt_zero _ before
      · next started =>
          obtain ⟨occurs, isAnswer⟩ :=
            isOccurrence_eq_ok_of_supported start supported { endDate } date
          rw [isAnswer]
          cases occurs with
          | true => exact .of_ok rfl fun leaves => leaves.2.2 date (Nat.le_refl _) isAnswer
          | false =>
              have rejected : isOccurrence rule start { endDate } date ≠ .ok true := by
                intro occurs
                rw [isAnswer] at occurs
                cases occurs
              cases isPrevious : date.previous? with
              | none =>
                  have isFirst := Date.previous?_eq_none_iff.mp isPrevious
                  subst isFirst
                  have same {probed : Date} (before : probed ≤ Date.first) :
                      probed = Date.first := Date.ext (Nat.le_zero.mp before)
                  refine ⟨fun _ => rfl, fun stays => absurd ?_ stays⟩
                  refine ⟨same (Nat.le_of_not_lt started), Nat.zero_lt_succ _, ?_⟩
                  intro probed before
                  rw [same before]
                  exact rejected
              | some preceding =>
                  have number := Date.dayNumber_previous? isPrevious
                  rw [← forall_le_previous_iff isPrevious rejected, number,
                    Nat.succ_lt_succ_iff]
                  exact hypothesis preceding

/-- The previous occurrence is found, or that there is none, unless the search comes to the
first day of the calendar and goes on. -/
theorem answersUnless_previousOccurrence
    (onOrBefore : Date)
    (endDate : Option Date) :
    AnswersUnless
      (rule ≠ none ∧ start = Date.first ∧
        ∀ date ≤ onOrBefore, isOccurrence rule start { endDate } date ≠ .ok true)
      (ProbeLimit.automatic.previousOccurrence rule start onOrBefore endDate) := by
  cases rule with
  | none => exact .of_ok (previousOccurrence_none ..) fun leaves => leaves.1 rfl
  | some rule =>
      obtain ⟨frequency, isSupported⟩ := supported rule rfl
      have condition :
          (start = Date.first ∧
            (endDate.elim onOrBefore (min onOrBefore)).dayNumber <
              ProbeLimit.automatic.forRule (some rule) false none ∧
            ∀ probed ≤ endDate.elim onOrBefore (min onOrBefore),
              isOccurrence (some rule) start { endDate } probed ≠ .ok true) ↔
          (some rule ≠ none ∧ start = Date.first ∧
            ∀ date ≤ onOrBefore,
              isOccurrence (some rule) start { endDate } date ≠ .ok true) := by
        rw [and_iff_right (Option.some_ne_none rule)]
        apply and_congr_right
        rintro rfl
        constructor
        · rintro ⟨_, noneBefore⟩ date upTo occurs
          have notBehind := (bounds_of_isOccurrence occurs).2
          exact noneBefore date ((le_elim_min_iff date).mpr ⟨upTo, notBehind⟩) occurs
        · intro noneBefore
          refine ⟨?_, fun probed upTo => noneBefore probed ((le_elim_min_iff probed).mp upTo).1⟩
          by_contra reaches
          obtain ⟨date, before, occurs⟩ :=
            exists_isOccurrence_of_forRule_le isSupported (Nat.le_of_not_lt reaches)
          have upTo := (le_elim_min_iff date).mp before
          have occursUpToEnd : isOccurrence (some rule) Date.first { endDate } date = .ok true :=
            isOccurrence_of_le_endDate isSupported occurs upTo.2
          exact noneBefore date upTo.1 occursUpToEnd
      rw [← condition]
      exact answersUnless_probeBack start supported _ _ _

end Searches
/-- Searches that choose their probe limit themselves fail at the ends of the calendar only.
For a schedule without a rule or with one of the four frequencies, a generated sequence with no
negative gap, or whose rule has no long one, and a search for the next occurrences end without
a failure unless they go on behind the last day of the calendar, too few dates found and no
last day to stop them.  The next occurrence is found, or that there is none, unless the day asked
for follows the last one or no day up to there is an occurrence; the previous one, unless the
start is the first day of the calendar and no day from there on is an occurrence. -/
theorem searches_fail_at_calendar_ends
    (rule : Option Rule)
    (supported : ∀ given ∈ rule, ∃ frequency, given.frequency? = some frequency)
    (start : Date) :
    (∀ (fromDate : Date) (count : Nat) (endDate : Option Date),
      let sequence := ProbeLimit.automatic.nextSequence rule start fromDate count endDate
      let found := ProbeLimit.automatic.nextOccurrences rule start fromDate count endDate
      (sequence.LeavesCalendar → found = .error .outOfCalendar) ∧
        (¬ sequence.LeavesCalendar →
          found = .ok ((sequence.occurrencesBefore calendarLength).take count))) ∧
    (∀ (after : Date) (inclusive : Bool) (endDate : Option Date),
      AnswersUnless
        ((inclusive = false ∧ after = Date.last) ∨
          (rule ≠ none ∧ (∀ last ∈ endDate, last = Date.last) ∧
            ∀ date, after ≤ date → (inclusive = false → after ≠ date) →
              isOccurrence rule start { endDate } date ≠ .ok true))
        (ProbeLimit.automatic.nextOccurrence rule start after inclusive endDate)) ∧
    (∀ (onOrBefore : Date) (endDate : Option Date),
      AnswersUnless
        (rule ≠ none ∧ start = Date.first ∧
          ∀ date ≤ onOrBefore, isOccurrence rule start { endDate } date ≠ .ok true)
        (ProbeLimit.automatic.previousOccurrence rule start onOrBefore endDate)) ∧
    ∀ (fromDate : Option Date) (count : Option Int) (untilDate : Option Date)
      (limits : Limits) (sequence : Sequence),
      ProbeLimit.automatic.sequence rule start fromDate count untilDate limits =
        .ok sequence →
      ((∀ gap ∈ limits.minGapDays, 0 ≤ gap) ∨
        longestGapDays rule limits.skipFirstPeriod none ≤ leastAutomaticLimit) →
      AnswersUnless sequence.LeavesCalendar sequence.toList := by
  refine ⟨nextOccurrences_eq start supported, answersUnless_nextOccurrence start supported,
    answersUnless_previousOccurrence start supported, ?_⟩
  intro fromDate count untilDate limits sequence made reaches
  obtain ⟨_, _, isSequence⟩ := ProbeLimit.sequence_eq_ok_iff.mp made
  obtain ⟨leaving, staying⟩ := sequence.ending_run_of_automatic
    (by rw [isSequence]; exact supported)
    (by rw [isSequence]; exact (firstProbe_le_iff.mp (Nat.le_refl _)).1)
    (by rw [isSequence])
    (by rw [isSequence]; exact reaches)
  unfold Sequence.toList
  rw [← Prod.eta sequence.run]
  exact ⟨fun leaves => by rw [leaving leaves], fun stays => ⟨_, by rw [staying stays]⟩⟩

/-- Every Tuesday from 1 January 2024 on: the sequence of the dates up to the end of 2024 and
the searches from its days on and back are answered. -/
theorem searches_fail_at_calendar_ends_tuesdays :
    let rule : Rule := ⟨1, .weekly (some .tuesday), by decide⟩
    let start : Date := ⟨738885, by decide⟩
    let yearEnd : Date := ⟨739250, by decide⟩
    (∀ given ∈ some rule, ∃ frequency, given.frequency? = some frequency) ∧
      (∃ dates, ProbeLimit.automatic.nextOccurrences (some rule) start start 100 (some yearEnd) =
        .ok dates) ∧
      (∃ found, ProbeLimit.automatic.nextOccurrence (some rule) start yearEnd false
        (some yearEnd) = .ok found) ∧
      (∃ found, ProbeLimit.automatic.previousOccurrence (some rule) start start none =
        .ok found) ∧
      ∃ sequence dates,
        ProbeLimit.automatic.sequence (some rule) start none none (some yearEnd) Limits.none =
          .ok sequence ∧
        (∀ gap ∈ Limits.none.minGapDays, 0 ≤ gap) ∧
        sequence.toList = .ok dates := by
  intro rule start yearEnd
  have supported : ∀ given ∈ some rule, ∃ frequency, given.frequency? = some frequency := by
    rintro _ ⟨⟩
    exact ⟨.weekly, rfl⟩
  have notLast : yearEnd ≠ Date.last := by decide
  obtain ⟨next, single, previous, generated⟩ :=
    searches_fail_at_calendar_ends (some rule) supported start
  refine ⟨supported, ⟨_, (next start 100 yearEnd).2 ?_⟩, (single yearEnd false yearEnd).answers ?_,
    (previous start none).answers ?_, ?_⟩
  · exact fun leaves => notLast (leaves.scheduleEnd _ rfl)
  · rintro (⟨_, isLast⟩ | ⟨_, isLast, _⟩)
    · exact notLast isLast
    · exact notLast (isLast _ rfl)
  · rintro ⟨_, isFirst, _⟩
    exact absurd isFirst (by decide)
  · obtain ⟨sequence, made⟩ : ∃ sequence, ProbeLimit.automatic.sequence (some rule) start none
        none (some yearEnd) Limits.none = .ok sequence :=
      ⟨_, ProbeLimit.sequence_eq_ok_iff.mpr ⟨Or.inr nofun, nofun, rfl⟩⟩
    have untilYearEnd : sequence.untilDate = some yearEnd := by
      rw [(ProbeLimit.sequence_eq_ok_iff.mp made).2.2]
    obtain ⟨dates, isList⟩ := (generated none none yearEnd Limits.none sequence made
      (Or.inl nofun)).answers fun leaves => notLast (leaves.untilEnd _ untilYearEnd)
    exact ⟨sequence, dates, made, nofun, isList⟩

/-- Every day from 29 December 9999 on: the dates up to the last day of the calendar, ten more
dates and the date after the last one are not given.  Nor is the last Tuesday before the first
day of the calendar, a Monday. -/
theorem searches_leave_calendar :
    let daily : Rule := ⟨1, .daily, by decide⟩
    let tuesdays : Rule := ⟨1, .weekly (some .tuesday), by decide⟩
    let start : Date := ⟨3652056, by decide⟩
    (∃ sequence,
      ProbeLimit.automatic.sequence (some daily) start none none (some Date.last)
        Limits.none = .ok sequence ∧
      sequence.toList = .error .outOfCalendar) ∧
    ProbeLimit.automatic.nextOccurrences (some daily) start start 10 none =
      .error .outOfCalendar ∧
    ProbeLimit.automatic.nextOccurrence (some daily) start Date.last false none =
      .error .outOfCalendar ∧
    ProbeLimit.automatic.previousOccurrence (some tuesdays) Date.first Date.first none =
      .error .outOfCalendar := by
  intro daily tuesdays start
  have dailySupported : ∀ given ∈ some daily, ∃ frequency, given.frequency? = some frequency := by
    rintro _ ⟨⟩
    exact ⟨.daily, rfl⟩
  have tuesdaysSupported :
      ∀ given ∈ some tuesdays, ∃ frequency, given.frequency? = some frequency := by
    rintro _ ⟨⟩
    exact ⟨.weekly, rfl⟩
  refine ⟨?_, ?_, rfl, ?_⟩
  · let sequence : Sequence :=
      ⟨some daily, start, start, none, some Date.last, Limits.none, 3653⟩
    have leaves : sequence.LeavesCalendar := by
      refine ⟨nofun, nofun, ?_, nofun⟩
      rintro _ ⟨⟩
      rfl
    have ending := (sequence.ending_run_of_automatic dailySupported
      (Nat.le_refl _) rfl (Or.inl nofun)).1 leaves
    refine ⟨sequence, rfl, ?_⟩
    unfold Sequence.toList
    rw [← Prod.eta sequence.run, ending]
  · apply (nextOccurrences_eq start dailySupported start 10 none).1
    refine ⟨nofun, ?_, nofun, nofun⟩
    rintro _ ⟨⟩
    decide +kernel
  · apply (answersUnless_previousOccurrence Date.first tuesdaysSupported Date.first none).fails
    refine ⟨nofun, rfl, ?_⟩
    intro date isFirst
    have same : date = Date.first := Date.ext (Nat.le_zero.mp isFirst)
    rw [same]
    decide +kernel

end Recurrence
end Cadence
