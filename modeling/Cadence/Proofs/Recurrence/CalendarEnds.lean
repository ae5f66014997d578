import Cadence.Proofs.Recurrence.SingleDate

/-!
# The ends of the calendar

How a sequence ends that chooses its probe limit itself.  It is never exhausted, so it is
complete or interrupted at the end of the calendar.  The second happens exactly when it goes on
looking behind the last day of the calendar, having found too few dates before it.
-/

namespace Cadence
namespace Recurrence

open Calendar

namespace Sequence

variable {sequence : Sequence}

/-- The occurrences before a day stay when the day moves on. -/
theorem occurrencesBefore_append
    {earlier later : Nat}
    (started : sequence.firstProbe.dayNumber ≤ earlier)
    (ordered : earlier ≤ later) :
    sequence.occurrencesBefore later =
      sequence.occurrencesBefore earlier ++
        (Date.between earlier later).filter sequence.accepts := by
  unfold occurrencesBefore
  rw [Date.between_append started ordered, List.filter_append]

/-- A sequence that has not stopped has given fewer dates than it counts. -/
theorem length_occurrencesBefore_lt
    {number stop : Nat}
    (isCount : sequence.count = some number)
    (continues : ∀ day, sequence.firstProbe.dayNumber ≤ day → day < stop →
      sequence.endingAt? day = none)
    (notEnough : sequence.count ≠ some (sequence.occurrencesBefore stop).length)
    (started : sequence.firstProbe.dayNumber ≤ stop)
    (inside : stop ≤ calendarLength) :
    (sequence.occurrencesBefore stop).length < number := by
  induction stop, started using Nat.le_induction with
  | base =>
      rw [occurrencesBefore_firstProbe] at notEnough ⊢
      rw [isCount] at notEnough
      apply Nat.pos_of_ne_zero
      rintro rfl
      exact notEnough rfl
  | succ day started hypothesis =>
      obtain ⟨date, rfl⟩ := Date.exists_dayNumber_eq (Nat.lt_of_succ_le inside)
      have goesOn := continues date.dayNumber started (Nat.lt_succ_self _)
      have before := hypothesis
        (fun day notBefore earlier => continues day notBefore (Nat.lt_succ_of_lt earlier))
        ((endingAt?_eq_none_iff date).mp goesOn).1 (Nat.le_of_succ_le inside)
      rw [isCount] at notEnough
      cases accepted : sequence.accepts date with
      | true =>
          rw [occurrencesBefore_succ_of_accepts started accepted, List.length_append,
            List.length_singleton] at notEnough ⊢
          have different : number ≠ _ := fun same => notEnough (congrArg some same)
          omega
      | false =>
          rw [occurrencesBefore_succ_of_not_accepts started accepted]
          exact before

theorem accepts_eq_true_iff {date : Date} :
    sequence.accepts date = true ↔
      isOccurrence sequence.rule sequence.start sequence.limits date = .ok true := by
  unfold accepts
  split <;> simp [*]

theorem mem_occurrencesBefore_calendarLength {date : Date} :
    date ∈ sequence.occurrencesBefore calendarLength ↔
      sequence.firstProbe ≤ date ∧
        isOccurrence sequence.rule sequence.start sequence.limits date = .ok true := by
  rw [mem_occurrencesBefore, accepts_eq_true_iff, Date.le_iff, and_iff_left date.inCalendar]

/-- A sequence looks for dates up to the end of the calendar and finds too few. -/
structure LeavesCalendar (sequence : Sequence) : Prop where
  repeats : sequence.rule ≠ none
  tooFew : ∀ number ∈ sequence.count,
    (sequence.occurrencesBefore calendarLength).length < number
  untilEnd : ∀ last ∈ sequence.untilDate, last = Date.last
  scheduleEnd : ∀ last ∈ sequence.limits.endDate, last = Date.last

theorem LeavesCalendar.endsBefore_eq_false
    (leaves : sequence.LeavesCalendar)
    {day : Nat}
    (inside : day < calendarLength) : sequence.endsBefore day = false := by
  rw [endsBefore_eq_false_iff]
  constructor
  · intro last isLast
    rw [leaves.untilEnd last isLast]
    exact Nat.le_pred_of_lt inside
  · intro last isLast
    rw [leaves.scheduleEnd last isLast]
    exact Nat.le_pred_of_lt inside

/-- A sequence that is not exhausted is interrupted at the end of the calendar or complete. -/
theorem IsRepeating.ending_run
    (repeating : sequence.IsRepeating)
    (notExhausted : sequence.run.2.isExhaustion = false) :
    (sequence.LeavesCalendar → sequence.run.2 = .interrupted .outOfCalendar) ∧
      (¬ sequence.LeavesCalendar → sequence.run.2 = .complete) := by
  obtain ⟨stop, runs⟩ := exists_runsTo_run repeating
  have inside := runs.stop_le
  have ends := runs.ending_eq
  unfold endingAt? at ends
  split at ends
  · next enough =>
      have isComplete := (Option.some.inj ends).symm
      refine ⟨fun leaves => ?_, fun _ => isComplete⟩
      have tooFew := leaves.tooFew _ enough
      rw [occurrencesBefore_append runs.ordered inside, List.length_append] at tooFew
      omega
  · next notEnough =>
      split at ends
      · obtain ⟨lastProbed, _, isEnding⟩ := Option.map_eq_some_iff.mp ends
        rw [← isEnding, isExhaustion_exhaustion] at notExhausted
        cases notExhausted
      · split at ends
        · next isEnd =>
            subst isEnd
            have outside := (Option.some.inj ends).symm
            refine ⟨fun _ => outside, fun stays => absurd ?_ stays⟩
            have goesOn := runs.continues Date.last.dayNumber sequence.firstProbe.le_last
              (by decide)
            have bounds := endsBefore_eq_false_iff.mp ((endingAt?_eq_none_iff _).mp goesOn).2.2
            have isLast {date : Date} (notBefore : Date.last ≤ date) : date = Date.last :=
              Date.ext (Nat.le_antisymm date.le_last notBefore)
            obtain ⟨rule, _, isRule, _⟩ := repeating.supported
            refine ⟨?_, ?_, fun last isUntil => isLast (bounds.1 last isUntil),
              fun last isSchedule => isLast (bounds.2 last isSchedule)⟩
            · rw [isRule]
              exact Option.some_ne_none rule
            · intro number isCount
              exact length_occurrencesBefore_lt isCount runs.continues notEnough runs.ordered
                inside
        · next notEnd =>
            split at ends
            · next behind =>
                refine ⟨fun leaves => ?_, fun _ => (Option.some.inj ends).symm⟩
                rw [leaves.endsBefore_eq_false (Nat.lt_of_le_of_ne inside notEnd)] at behind
                cases behind
            · cases ends


/-- A complete sequence without a last day gives the first of its occurrences, as many as it
counts. -/
theorem IsRepeating.dates_run
    (repeating : sequence.IsRepeating)
    {number : Nat}
    (isCount : sequence.count = some number)
    (unbounded : sequence.untilDate = none)
    (isComplete : sequence.run.2 = .complete) :
    sequence.run.1 = (sequence.occurrencesBefore calendarLength).take number := by
  obtain ⟨stop, runs⟩ := exists_runsTo_run repeating
  have inside := runs.stop_le
  have dates_eq : sequence.run.1 = sequence.occurrencesBefore stop := runs.dates_eq
  have ends := runs.ending_eq
  rw [isComplete] at ends
  rw [dates_eq, occurrencesBefore_append runs.ordered inside]
  by_cases enough : sequence.count = some (sequence.occurrencesBefore stop).length
  · rw [isCount, Option.some.injEq] at enough
    rw [enough, List.take_left]
  · have fewer := length_occurrencesBefore_lt isCount runs.continues enough runs.ordered inside
    have behind : sequence.endsBefore stop = true := by
      unfold endingAt? at ends
      rw [if_neg enough] at ends
      split at ends
      · obtain ⟨lastProbed, _, isEnding⟩ := Option.map_eq_some_iff.mp ends
        cases isEnding
      · split at ends
        · cases ends
        · split at ends
          · next behind => exact behind
          · cases ends
    have noOthers : (Date.between stop calendarLength).filter sequence.accepts = [] := by
      rw [List.filter_eq_nil_iff]
      intro date member accepted
      have answer := repeating.isOccurrence_eq date
      rw [accepted] at answer
      have before : date.dayNumber < stop := dayNumber_lt_of_endsBefore behind
        (by rw [unbounded]; nofun) (bounds_of_isOccurrence answer).2
      exact Nat.not_lt_of_le (Date.mem_between.mp member).1 before
    rw [noOthers, List.append_nil, List.take_of_length_le (Nat.le_of_lt fewer)]

end Sequence

/-- A sequence without a rule is complete. -/
theorem Sequence.ending_run_of_rule_none
    {sequence : Sequence}
    (noRule : sequence.rule = none) : sequence.run.2 = .complete := by
  by_cases isZero : sequence.count = some 0
  · unfold run begin
    rw [if_pos isZero]
  · obtain ⟨dates, runs, _⟩ := sequence.exists_run_of_rule_none noRule isZero
    rw [runs]

/-- A sequence without a rule gives its single occurrence, unless it counts none. -/
theorem Sequence.dates_run_of_rule_none
    {sequence : Sequence}
    (noRule : sequence.rule = none)
    {number : Nat}
    (isCount : sequence.count = some number)
    (unbounded : sequence.untilDate = none)
    (noGap : sequence.limits.minGapDays = none) :
    sequence.run.1 = (sequence.occurrencesBefore calendarLength).take number := by
  cases number with
  | zero =>
      unfold run begin
      rw [if_pos isCount]
      rfl
  | succ number =>
      obtain ⟨dates, runs, ascending, members⟩ :=
        sequence.exists_run_of_rule_none noRule (by rw [isCount]; nofun)
      have isAll : dates = sequence.occurrencesBefore calendarLength := by
        apply eq_of_ascending ascending (sequence.pairwise_occurrencesBefore _)
        intro date
        rw [members, mem_occurrencesBefore_calendarLength, noRule,
          isOccurrence_none_eq_true_iff, unbounded, noGap]
        constructor
        · rintro ⟨isStart, started, _, notBehind⟩
          exact ⟨started, isStart, notBehind, nofun⟩
        · rintro ⟨started, isStart, notBehind, _⟩
          exact ⟨isStart, started, nofun, notBehind⟩
      have single : dates.length ≤ 1 := by
        match dates, ascending with
        | [], _ | [_], _ => simp
        | first :: second :: _, ascending =>
            have ordered := List.rel_of_pairwise_cons ascending (List.mem_cons_self ..)
            rw [((members first).mp (by simp)).1, ((members second).mp (by simp)).1] at ordered
            exact absurd ordered (Nat.lt_irrefl _)
      rw [runs, ← isAll, List.take_of_length_le (Nat.le_trans single (Nat.succ_le_succ
        (Nat.zero_le number)))]

/-! ## Automatic limits -/

/-- A least distance that is not positive keeps no date away. -/
theorem isOccurrence_of_gap_nonpos
    (rule : Option Rule)
    (start : Date)
    {limits : Limits}
    (noGap : ∀ gap ∈ limits.minGapDays, gap ≤ 0)
    (date : Date) :
    isOccurrence rule start limits date =
      isOccurrence rule start { limits with minGapDays := none } date := by
  have sameAdmission : limits.admits start date =
      ({ limits with minGapDays := none } : Limits).admits start date := by
    rw [Bool.eq_iff_iff, Limits.admits_iff, Limits.admits_iff]
    apply and_congr_right
    intro started
    apply and_congr_right
    intro _
    refine iff_of_true ?_ nofun
    intro gap isGap
    have small := noGap gap isGap
    rw [Date.le_iff] at started
    unfold Date.daysUntil
    omega
  unfold isOccurrence
  rw [sameAdmission]

/-- A search that chooses its limit itself is never exhausted, unless a negative least distance
takes the limit below the longest gap of the rule. -/
theorem Sequence.isExhaustion_run_of_automatic
    {sequence : Sequence}
    {rule : Rule}
    {frequency : Frequency}
    (isRule : sequence.rule = some rule)
    (supported : rule.frequency? = some frequency)
    (started : sequence.start ≤ sequence.firstProbe)
    (isLimit : sequence.probeLimit = ProbeLimit.automatic.forRule (some rule)
      sequence.limits.skipFirstPeriod sequence.limits.minGapDays)
    (reaches : (∀ gap ∈ sequence.limits.minGapDays, 0 ≤ gap) ∨
      longestGapDays (some rule) sequence.limits.skipFirstPeriod none ≤
        leastAutomaticLimit) :
    sequence.run.2.isExhaustion = false := by
  have positive : 0 < sequence.probeLimit := isLimit ▸ ProbeLimit.automatic.forRule_pos _ _ _
  by_cases notNegative : ∀ gap ∈ sequence.limits.minGapDays, 0 ≤ gap
  · apply isExhaustion_run isRule supported started notNegative positive
    rw [isLimit]
    simp only [ProbeLimit.forRule]
    omega
  · have noGap : ∀ gap ∈ sequence.limits.minGapDays, gap ≤ 0 := by
      intro gap isGap
      by_contra isPositive
      apply notNegative
      intro other isOther
      cases Option.mem_unique isGap isOther
      omega
    have covers := reaches.resolve_left notNegative
    let plain : Sequence :=
      { sequence with limits := { sequence.limits with minGapDays := none } }
    have alike : sequence.Alike plain :=
      { rule_eq := rfl
        start_eq := rfl
        firstProbe_eq := rfl
        count_eq := rfl
        probeLimit_eq := rfl
        isBehind_eq := fun _ => rfl
        isOccurrence_eq := fun date _ => isOccurrence_of_gap_nonpos _ _ noGap date }
    rw [alike.run_eq]
    have plainRule : plain.rule = some rule := isRule
    have plainStarted : plain.start ≤ plain.firstProbe := started
    have plainCovers : longestGapDays (some rule) plain.limits.skipFirstPeriod
        plain.limits.minGapDays ≤ plain.probeLimit := by
      change longestGapDays (some rule) sequence.limits.skipFirstPeriod none ≤
        sequence.probeLimit
      rw [isLimit]
      simp only [ProbeLimit.forRule]
      omega
    have plainGap : ∀ gap ∈ plain.limits.minGapDays, 0 ≤ gap := by
      intro gap isGap
      cases isGap
    exact isExhaustion_run plainRule supported plainStarted plainGap positive plainCovers

/-- A sequence that chooses its limit itself is interrupted when it leaves the calendar, and
complete otherwise. -/
theorem Sequence.ending_run_of_automatic
    (sequence : Sequence)
    (supported : ∀ given ∈ sequence.rule, ∃ frequency, given.frequency? = some frequency)
    (started : sequence.start ≤ sequence.firstProbe)
    (isLimit : sequence.probeLimit = ProbeLimit.automatic.forRule sequence.rule
      sequence.limits.skipFirstPeriod sequence.limits.minGapDays)
    (reaches : (∀ gap ∈ sequence.limits.minGapDays, 0 ≤ gap) ∨
      longestGapDays sequence.rule sequence.limits.skipFirstPeriod none ≤
        leastAutomaticLimit) :
    (sequence.LeavesCalendar → sequence.run.2 = .interrupted .outOfCalendar) ∧
      (¬ sequence.LeavesCalendar → sequence.run.2 = .complete) := by
  cases isRule : sequence.rule with
  | none =>
      exact ⟨fun leaves => absurd isRule leaves.repeats,
        fun _ => ending_run_of_rule_none isRule⟩
  | some rule =>
      obtain ⟨frequency, isSupported⟩ := supported rule isRule
      rw [isRule] at isLimit reaches
      apply IsRepeating.ending_run
      · refine ⟨⟨rule, frequency, isRule, isSupported⟩, ?_⟩
        rw [isLimit]
        exact ProbeLimit.automatic.forRule_pos _ _ _
      · exact isExhaustion_run_of_automatic isRule isSupported started isLimit reaches

end Recurrence
end Cadence
