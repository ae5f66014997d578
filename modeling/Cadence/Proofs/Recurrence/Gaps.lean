import Cadence.Proofs.Recurrence.Generated

/-!
# Gaps between occurrences

From any day of a schedule the next period starts within one interval of units, so its
date comes before the end of that unit.  The longest gap of a rule covers these units,
the first period and the least distance from the start, and a search that may miss as
many days is never exhausted.
-/

namespace Cadence
namespace Recurrence

open Calendar

section Gaps

variable {rule : Rule} {frequency : Frequency} {start opening : Date}

theorem Pattern.longestUnit_of_frequency?
    {pattern : Pattern}
    (supported : pattern.frequency? = some frequency) :
    pattern.longestUnit = frequency.longestUnit := by
  unfold Pattern.longestUnit
  rw [supported]

theorem Frequency.longestUnit_pos (frequency : Frequency) : 1 ≤ frequency.longestUnit := by
  cases frequency <;> decide

/-- Some later period starts at most one interval of units behind the unit of a day. -/
theorem exists_period_after
    {interval unit first : Nat}
    (positive : 0 < interval)
    (notBefore : first ≤ unit) :
    ∃ index, 1 ≤ index ∧ unit < first + index * interval ∧
      first + index * interval ≤ unit + interval := by
  have division := Nat.div_add_mod (unit - first) interval
  have remainder := Nat.mod_lt (unit - first) positive
  refine ⟨(unit - first) / interval + 1, Nat.le_add_left 1 _, ?_, ?_⟩
  · rw [Nat.succ_mul, Nat.mul_comm _ interval]
    omega
  · rw [Nat.succ_mul, Nat.mul_comm _ interval]
    omega

/-- From any day of a schedule a later period has a date before the end of the unit that
is one interval away. -/
theorem Rule.exists_periodIndex_after
    (supported : rule.frequency? = some frequency)
    (started : start ≤ opening)
    (inside : frequency.unitOpening
      (rule.pattern.unitIndex opening + rule.interval + 1) ≤ calendarLength) :
    ∃ (date : Date) (index : Nat),
      rule.periodIndex start date = .ok (some index) ∧ 1 ≤ index ∧ opening ≤ date ∧
        date.dayNumber <
          frequency.unitOpening (rule.pattern.unitIndex opening + rule.interval + 1) := by
  obtain ⟨index, afterFirst, later, close⟩ :=
    exists_period_after rule.interval_pos (Pattern.unitIndex_mono supported started)
  have closes := frequency.unitOpening_mono (Nat.succ_le_succ close)
  obtain ⟨date, indexed⟩ :=
    Rule.exists_periodIndex_eq supported afterFirst (Nat.le_trans closes inside)
  have inUnit := Rule.unitIndex_of_periodIndex supported indexed
  have bounds := (Pattern.unitIndex_bounds supported date).2
  rw [← inUnit] at later
  rw [inUnit] at bounds
  exact ⟨date, index, indexed, afterFirst,
    Nat.le_of_lt (Pattern.lt_of_unitIndex_lt supported later),
    Nat.lt_of_lt_of_le bounds closes⟩

/-- The units from a day to the end of the one an interval away are no longer than the
longest units. -/
theorem Rule.unitOpening_after_le
    (supported : rule.frequency? = some frequency)
    (opening : Date) :
    frequency.unitOpening (rule.pattern.unitIndex opening + rule.interval + 1) ≤
      opening.dayNumber + frequency.longestUnit * (rule.interval + 1) := by
  have bounds := (Pattern.unitIndex_bounds supported opening).1
  have length := frequency.unitOpening_add_le
    (rule.pattern.unitIndex opening) (rule.interval + 1)
  rw [← Nat.add_assoc] at length
  omega

/-- The longest gap of a rule is at least the units up to the next period and the days
of the least gap. -/
theorem le_longestGapDays
    (supported : rule.frequency? = some frequency)
    (skipFirstPeriod : Bool)
    (minGapDays : Option Int) :
    (frequency.longestUnit * (rule.interval + 1) : Nat) + minGapDays.getD 0 ≤
      longestGapDays (some rule) skipFirstPeriod minGapDays := by
  have unitLength := Pattern.longestUnit_of_frequency? supported
  have skipped : frequency.longestUnit * (rule.interval + 1) ≤
      frequency.longestUnit *
        (rule.interval + 1 + if skipFirstPeriod then rule.interval else 0) :=
    Nat.mul_le_mul_left _ (Nat.le_add_right _ _)
  unfold longestGapDays
  simp only [unitLength]
  omega

/-- As many days as the longest gap of a rule hold an occurrence: the days of the least gap pass
first, and the next period follows within its units. -/
theorem exists_isOccurrence_of_longestGapDays
    (supported : rule.frequency? = some frequency)
    {skipFirstPeriod : Bool}
    {minGapDays : Option Int}
    (notNegative : ∀ gap ∈ minGapDays, 0 ≤ gap)
    (started : start ≤ opening)
    (inside : (opening.dayNumber : Int) +
      longestGapDays (some rule) skipFirstPeriod minGapDays ≤ calendarLength) :
    ∃ date : Date,
      opening ≤ date ∧
        (date.dayNumber : Int) <
          opening.dayNumber + longestGapDays (some rule) skipFirstPeriod minGapDays ∧
        isOccurrence (some rule) start { skipFirstPeriod, minGapDays } date = .ok true := by
  have covers := le_longestGapDays supported skipFirstPeriod minGapDays
  have gapNotNegative : 0 ≤ minGapDays.getD 0 := by
    cases minGapDays with
    | none => exact Int.le_refl 0
    | some gap => exact notNegative gap rfl
  have unitPositive : 1 * 1 ≤ frequency.longestUnit * (rule.interval + 1) :=
    Nat.mul_le_mul frequency.longestUnit_pos (Nat.le_add_left 1 _)
  obtain ⟨gapEnd, isGapEnd⟩ : ∃ gapEnd : Date,
      gapEnd.dayNumber = opening.dayNumber + (minGapDays.getD 0).toNat :=
    Date.exists_dayNumber_eq (by omega)
  have gapStarted : start ≤ gapEnd := by
    rw [Date.le_iff] at started ⊢
    omega
  have units := rule.unitOpening_after_le supported gapEnd
  obtain ⟨date, index, indexed, afterFirst, behindGap, beforeEnd⟩ :=
    Rule.exists_periodIndex_after supported gapStarted (by omega)
  rw [Date.le_iff] at started gapStarted behindGap
  refine ⟨date, by rw [Date.le_iff]; omega, by omega, ?_⟩
  rw [isOccurrence_eq_true_iff supported, Limits.admits_iff]
  refine ⟨⟨by rw [Date.le_iff]; omega, ?_, ?_⟩, index, indexed, ?_⟩
  · intro endDate isEnd
    cases isEnd
  · intro gap isGap
    cases isGap
    simp only [Date.daysUntil, Option.getD_some] at isGapEnd ⊢
    omega
  · intro _
    omega

/-- A bound on the end of a schedule takes no occurrence away before that end. -/
theorem isOccurrence_of_le_endDate
    (supported : rule.frequency? = some frequency)
    {limits : Limits}
    {date : Date}
    (occurs : isOccurrence (some rule) start { limits with endDate := none } date = .ok true)
    (notOver : ∀ endDate ∈ limits.endDate, date ≤ endDate) :
    isOccurrence (some rule) start limits date = .ok true := by
  rw [isOccurrence_eq_true_iff supported, Limits.admits_iff] at occurs ⊢
  obtain ⟨⟨started, _, behindGap⟩, indexed⟩ := occurs
  exact ⟨⟨started, notOver, behindGap⟩, indexed⟩

/-- A sequence that may miss as many days as the longest gap of its rule is never
exhausted: the days it missed last would be as many as that gap, so one of them would be an
occurrence. -/
theorem Sequence.isExhaustion_run
    {sequence : Sequence}
    (isRule : sequence.rule = some rule)
    (supported : rule.frequency? = some frequency)
    (started : sequence.start ≤ sequence.firstProbe)
    (notNegative : ∀ gap ∈ sequence.limits.minGapDays, 0 ≤ gap)
    (positive : 0 < sequence.probeLimit)
    (covers : longestGapDays (some rule)
      sequence.limits.skipFirstPeriod sequence.limits.minGapDays ≤ sequence.probeLimit) :
    sequence.run.2.isExhaustion = false := by
  rw [Bool.eq_false_iff]
  intro exhausted
  have repeating : sequence.IsRepeating := ⟨⟨rule, frequency, isRule, supported⟩, positive⟩
  obtain ⟨stop, runs⟩ := Sequence.exists_runsTo_run repeating
  have isLimit := probeLimit_eq_of_isExhaustion exhausted runs.ending_eq
  have inCalendar := runs.stop_le
  have missesBound := sequence.missesBefore_le stop
  obtain ⟨opening, isOpening⟩ : ∃ opening : Date,
      opening.dayNumber = stop - sequence.missesBefore stop :=
    Date.exists_dayNumber_eq (by omega)
  have missed {date : Date} (notBefore : opening.dayNumber ≤ date.dayNumber)
      (before : date.dayNumber < stop) :
      sequence.firstProbe.dayNumber ≤ date.dayNumber ∧ sequence.accepts date = false :=
    not_accepts_of_missesBefore (by omega) before
  have openingStarted := (missed (Nat.le_refl _) (by omega)).1
  obtain ⟨date, notBefore, beforeEnd, occurs⟩ : ∃ date : Date, opening ≤ date ∧
      (date.dayNumber : Int) < opening.dayNumber + longestGapDays (some rule)
        sequence.limits.skipFirstPeriod sequence.limits.minGapDays ∧
      isOccurrence (some rule) sequence.start
        { sequence.limits with endDate := none } date = .ok true :=
    exists_isOccurrence_of_longestGapDays supported notNegative
      (Nat.le_trans started openingStarted) (by omega)
  have before : date.dayNumber < stop := by omega
  obtain ⟨dateStarted, rejected⟩ := missed notBefore before
  have goesOn := runs.continues date.dayNumber dateStarted before
  have bounds := endsBefore_eq_false_iff.mp ((endingAt?_eq_none_iff date).mp goesOn).2.2
  have accepted := isOccurrence_of_le_endDate supported occurs bounds.2
  rw [← isRule, repeating.isOccurrence_eq, rejected] at accepted
  cases accepted

end Gaps

/-- The longest gap of a rule is long enough: as many days in a row on or after the start
hold an occurrence when they are all in the calendar.  A sequence that chooses its probe
limit itself is therefore never exhausted. -/
theorem longestGapDays_suffices
    (rule : Rule)
    {frequency : Frequency}
    (supported : rule.frequency? = some frequency)
    (start : Date)
    (skipFirstPeriod : Bool)
    (minGapDays : Option Int)
    (notNegative : ∀ gap ∈ minGapDays, 0 ≤ gap) :
    (∀ opening : Date, start ≤ opening →
      (opening.dayNumber : Int) +
        longestGapDays (some rule) skipFirstPeriod minGapDays ≤ calendarLength →
      ∃ date : Date, opening ≤ date ∧
        (date.dayNumber : Int) <
          opening.dayNumber + longestGapDays (some rule) skipFirstPeriod minGapDays ∧
        isOccurrence (some rule) start { skipFirstPeriod, minGapDays } date = .ok true) ∧
    ∀ (fromDate : Option Date) (count : Option Int) (untilDate endDate : Option Date)
      (sequence : Sequence),
      ProbeLimit.automatic.sequence (some rule) start fromDate count untilDate
        { skipFirstPeriod, minGapDays, endDate } = .ok sequence →
      (∀ (probedDays found : Nat) (lastProbed : Date),
        sequence.run.2 ≠ .interrupted (.exhausted probedDays found lastProbed)) ∧
        sequence.run.2 ≠ .interrupted .unwritable := by
  constructor
  · intro opening started inside
    exact exists_isOccurrence_of_longestGapDays supported notNegative started inside
  · intro fromDate count untilDate endDate sequence made
    obtain ⟨_, _, isSequence⟩ := ProbeLimit.sequence_eq_ok_iff.mp made
    have notExhausted : sequence.run.2.isExhaustion = false := by
      subst isSequence
      apply Sequence.isExhaustion_run rfl supported _ notNegative
      · exact ProbeLimit.automatic.forRule_pos _ _ _
      · simp only [ProbeLimit.forRule]
        omega
      · exact (firstProbe_le_iff.mp (Nat.le_refl _)).1
    constructor
    · intro probedDays found lastProbed exhausted
      rw [exhausted] at notExhausted
      cases notExhausted
    · intro unwritable
      rw [unwritable] at notExhausted
      cases notExhausted

/-- Every third second Tuesday, at least ten days after a start on 31 January 2024 and
not in its first period, is found within the longest gap and without exhaustion. -/
theorem longestGapDays_suffices_secondTuesdays :
    let rule : Rule := ⟨3, .monthlyWeekday .second .tuesday, by decide⟩
    let start : Date := ⟨738915, by decide⟩
    let limits : Limits := { skipFirstPeriod := true, minGapDays := some 10 }
    rule.frequency? = some .monthly ∧
      (∀ gap ∈ some (10 : Int), 0 ≤ gap) ∧
      start ≤ start ∧
      (start.dayNumber : Int) + longestGapDays (some rule) true (some 10) ≤ calendarLength ∧
      (∃ date : Date, start ≤ date ∧
        (date.dayNumber : Int) <
          start.dayNumber + longestGapDays (some rule) true (some 10) ∧
        isOccurrence (some rule) start limits date = .ok true) ∧
      ∃ sequence,
        ProbeLimit.automatic.sequence (some rule) start none (some 5) none limits =
          .ok sequence ∧
        (∀ (probedDays found : Nat) (lastProbed : Date),
          sequence.run.2 ≠ .interrupted (.exhausted probedDays found lastProbed)) ∧
        sequence.run.2 ≠ .interrupted .unwritable := by
  intro rule start limits
  have notNegative : ∀ gap ∈ some (10 : Int), 0 ≤ gap := by decide
  have inside : (start.dayNumber : Int) +
      longestGapDays (some rule) true (some 10) ≤ calendarLength := by decide
  obtain ⟨holds, neverExhausted⟩ :=
    longestGapDays_suffices rule rfl start true (some 10) notNegative
  exact ⟨rfl, notNegative, Nat.le_refl _, inside, holds start (Nat.le_refl _) inside,
    _, rfl, neverExhausted none (some 5) none none _ rfl⟩

end Recurrence
end Cadence
