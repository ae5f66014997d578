import Cadence.Proofs.Number.DigitCount
import Cadence.Proofs.Recurrence.Stopping

/-!
# Generated sequences

A generator makes a sequence when it is given a bound on the dates or on the days.  The
sequence of a rule with one of the four frequencies gives, in ascending order, exactly
the occurrences between its bounds and before the first day on which it stops.  It cannot
report that it is exhausted when the interval of its rule has too many digits.
-/

namespace Cadence
namespace Recurrence

open Calendar Number

/-- A generator asks for one of the two bounds and for a count that is not negative. -/
theorem ProbeLimit.sequence_eq_ok_iff
    {limit : ProbeLimit}
    {rule : Option Rule}
    {start : Date}
    {fromDate : Option Date}
    {count : Option Int}
    {untilDate : Option Date}
    {limits : Limits}
    {sequence : Sequence} :
    limit.sequence rule start fromDate count untilDate limits = .ok sequence ↔
      (count ≠ none ∨ untilDate ≠ none) ∧
        (∀ number ∈ count, 0 ≤ number) ∧
        sequence = {
          rule
          start
          firstProbe := fromDate.elim start (max start)
          count := count.map Int.toNat
          untilDate
          limits
          probeLimit := limit.forRule rule limits.skipFirstPeriod limits.minGapDays } := by
  cases count with
  | none =>
      cases untilDate with
      | none => simp [ProbeLimit.sequence]
      | some untilDate =>
          simp only [ProbeLimit.sequence, ProbeLimit.sequence.sequenceOf]
          simp [eq_comm]
  | some number =>
      simp only [ProbeLimit.sequence, checkCount]
      by_cases negative : number < 0
      · simp [negative, Except.map, Int.not_le.mpr negative]
      · have notNegative := Int.not_lt.mp negative
        simp only [negative, if_false, Except.map, ProbeLimit.sequence.sequenceOf]
        simp [notNegative, eq_comm]

namespace Sequence

variable {sequence : Sequence}

/-- A sequence reports that it is exhausted when the interval of its rule can be written. -/
theorem exhaustion_of_rule
    {rule : Rule}
    (isRule : sequence.rule = some rule)
    {probedDays found : Nat}
    {lastProbed : Date} :
    sequence.exhaustion probedDays found lastProbed =
      if (naturalDigits rule.interval).length ≤ digitLimit then
        .exhausted probedDays found lastProbed
      else
        .unwritable := by
  unfold exhaustion
  rw [isRule]
  simp [isWritable]

/-- The dates before a day on which nothing has stopped the sequence lie between its
bounds. -/
theorem mem_occurrencesBefore_iff
    {stop : Nat}
    (continues : ∀ day, sequence.firstProbe.dayNumber ≤ day → day < stop →
      sequence.endingAt? day = none)
    {date : Date} :
    date ∈ sequence.occurrencesBefore stop ↔
      sequence.firstProbe ≤ date ∧
        (∀ last ∈ sequence.untilDate, date ≤ last) ∧
        (∀ last ∈ sequence.limits.endDate, date ≤ last) ∧
        sequence.accepts date = true ∧
        date.dayNumber < stop := by
  rw [mem_occurrencesBefore]
  constructor
  · rintro ⟨⟨started, before⟩, accepted⟩
    have goesOn := continues date.dayNumber started before
    have notOver := ((endingAt?_eq_none_iff date).mp goesOn).2.2
    have bounds := endsBefore_eq_false_iff.mp notOver
    exact ⟨started, bounds.1, bounds.2, accepted, before⟩
  · rintro ⟨started, _, _, accepted, before⟩
    exact ⟨⟨started, before⟩, accepted⟩

end Sequence

/-- A date on or after the first probe is on or after both dates it is taken from. -/
theorem firstProbe_le_iff {start date : Date} {fromDate : Option Date} :
    fromDate.elim start (max start) ≤ date ↔
      start ≤ date ∧ ∀ opening ∈ fromDate, opening ≤ date := by
  cases fromDate with
  | none => simp
  | some opening =>
      simp only [Option.elim_some, Date.le_iff, Date.dayNumber_max]
      simp only [Option.mem_some, forall_eq']
      omega

/-- A day that is no occurrence exhausts a sequence that may miss one day only. -/
theorem Sequence.run_of_not_accepts_firstProbe
    {sequence : Sequence}
    (repeating : sequence.IsRepeating)
    (single : sequence.probeLimit = 1)
    (notZero : sequence.count ≠ some 0)
    (notBehind : sequence.isBehind sequence.firstProbe = false)
    (rejected : sequence.accepts sequence.firstProbe = false) :
    sequence.run = ([], .interrupted (sequence.exhaustion 1 0 sequence.firstProbe)) := by
  obtain ⟨rule, _, isRule, _⟩ := repeating.supported
  have givesUp : sequence.begin =
      .stopped (.interrupted (sequence.exhaustion 1 0 sequence.firstProbe)) := by
    unfold begin
    rw [if_neg notZero, isRule]
    simp only
    rw [probe_of_not_accepts repeating notBehind rejected, single]
    rfl
  rw [run, givesUp]

/-- The day behind the start is no occurrence of a daily rule with a longer interval.  A
sequence that may miss one day only stops there, and an interval of too many digits prevents
the report of it. -/
theorem run_sequence_of_not_isWritable
    {interval : Nat}
    (positive : 0 < interval)
    (long : isWritable interval = false)
    {start following : Date}
    (isNext : start.next? = some following) :
    ∃ sequence,
      (ProbeLimit.days 1 Nat.one_pos).sequence (some ⟨interval, .daily, positive⟩) start
        (some following) (some 1) none Limits.none = .ok sequence ∧
      isOccurrence (some ⟨interval, .daily, positive⟩) start Limits.none following =
        .ok false ∧
      sequence.run = ([], .interrupted .unwritable) := by
  have numbers := Date.dayNumber_next? isNext
  have longer : 1 < interval := by
    apply Nat.lt_of_not_le
    intro atMostOne
    rw [Bool.eq_false_iff, ne_eq, isWritable_iff, Nat.le_antisymm atMostOne positive] at long
    exact long (by decide)
  have oneDay : following.dayNumber - start.dayNumber = 1 := by omega
  have notIndexed : Pattern.daily.periodIndex? interval start following = none := by
    simp [Pattern.periodIndex?, Pattern.unitIndex, oneDay, Nat.mod_eq_of_lt longer]
  have rejected :
      isOccurrence (some ⟨interval, .daily, positive⟩) start Limits.none following =
        .ok false := by
    rw [isOccurrence_of_frequency? rfl, notIndexed]
    simp
  have later : max start following = following := by
    apply Date.ext
    rw [Date.dayNumber_max]
    omega
  refine ⟨_, rfl, rejected, ?_⟩
  rw [Sequence.run_of_not_accepts_firstProbe
    ⟨⟨⟨interval, .daily, positive⟩, .daily, rfl, rfl⟩, Nat.one_pos⟩ rfl
    (fun isZero : some 1 = some 0 => Nat.one_ne_zero (Option.some.inj isZero)) rfl]
  · rw [Sequence.exhaustion_of_rule rfl, if_neg]
    rw [Bool.eq_false_iff, ne_eq, isWritable_iff] at long
    exact long
  · unfold Sequence.accepts
    simp only [ProbeLimit.sequence.sequenceOf, Option.elim_some, later, rejected]

/-- The sequence of a rule with one of the four frequencies gives its dates in ascending
order.  They are the occurrences from the start and the first date asked for on, up to
both last days and before the first day on which the sequence stops, and the sequence
ends as that day says: complete when it has given enough dates or is behind a last day,
exhausted after as many days in vain as the probe limit allows, and otherwise at the end
of the calendar.  Exhaustion is reported unless the interval of the rule has too many digits
to be written. -/
theorem ProbeLimit.run_sequence_exact
    (limit : ProbeLimit)
    (rule : Rule)
    {frequency : Frequency}
    (supported : rule.frequency? = some frequency)
    (start : Date)
    (fromDate : Option Date)
    (count : Option Int)
    (untilDate : Option Date)
    (limits : Limits)
    (bounded : count ≠ none ∨ untilDate ≠ none)
    (notNegative : ∀ number ∈ count, 0 ≤ number) :
    ∃ (sequence : Sequence) (stop : Nat) (dates : List Date) (ending : Ending),
      limit.sequence (some rule) start fromDate count untilDate limits = .ok sequence ∧
      sequence.firstProbe = fromDate.elim start (max start) ∧
      sequence.count = count.map Int.toNat ∧
      sequence.untilDate = untilDate ∧
      sequence.limits = limits ∧
      sequence.probeLimit =
        limit.forRule (some rule) limits.skipFirstPeriod limits.minGapDays ∧
      sequence.run = (dates, ending) ∧
      dates = sequence.occurrencesBefore stop ∧
      dates.Pairwise (· < ·) ∧
      (∀ date, date ∈ dates ↔
        (start ≤ date ∧ ∀ opening ∈ fromDate, opening ≤ date) ∧
        (∀ last ∈ untilDate, date ≤ last) ∧
        (∀ last ∈ limits.endDate, date ≤ last) ∧
        isOccurrence (some rule) start limits date = .ok true ∧
        date.dayNumber < stop) ∧
      sequence.endingAt? stop = some ending ∧
      (∀ day, sequence.firstProbe.dayNumber ≤ day → day < stop →
        sequence.endingAt? day = none) ∧
      ∀ probedDays found lastProbed,
        sequence.exhaustion probedDays found lastProbed =
          if (naturalDigits rule.interval).length ≤ digitLimit then
            .exhausted probedDays found lastProbed
          else
            .unwritable := by
  obtain ⟨sequence, made⟩ : ∃ sequence,
      limit.sequence (some rule) start fromDate count untilDate limits = .ok sequence :=
    ⟨_, ProbeLimit.sequence_eq_ok_iff.mpr ⟨bounded, notNegative, rfl⟩⟩
  obtain ⟨_, _, isSequence⟩ := ProbeLimit.sequence_eq_ok_iff.mp made
  have repeating : sequence.IsRepeating := by
    rw [isSequence]
    exact ⟨⟨rule, frequency, rfl, supported⟩, limit.forRule_pos _ _ _⟩
  obtain ⟨stop, runs⟩ := Sequence.exists_runsTo_run repeating
  have dates_eq : sequence.run.1 = sequence.occurrencesBefore stop := runs.dates_eq
  have ascending := sequence.pairwise_occurrencesBefore stop
  rw [← dates_eq] at ascending
  refine ⟨sequence, stop, sequence.run.1, sequence.run.2, made, ?_, ?_, ?_, ?_, ?_, rfl,
    dates_eq, ascending, ?_, runs.ending_eq, runs.continues, ?_⟩
  · rw [isSequence]
  · rw [isSequence]
  · rw [isSequence]
  · rw [isSequence]
  · rw [isSequence]
  · intro date
    have answer := repeating.isOccurrence_eq date
    rw [dates_eq, Sequence.mem_occurrencesBefore_iff runs.continues]
    rw [isSequence] at answer ⊢
    rw [answer, Except.ok.injEq, firstProbe_le_iff]
  · intro probedDays found lastProbed
    rw [isSequence]
    exact Sequence.exhaustion_of_rule rfl

/-- The next three leap days from the one of 2024 on are given by a yearly rule of every
fourth year. -/
theorem run_sequence_exact_leapDays :
    let rule : Rule := ⟨4, .yearly none none, by decide⟩
    let start : Date := ⟨738944, by decide⟩
    rule.frequency? = some .yearly ∧
      (some (3 : Int) ≠ none ∨ (none : Option Date) ≠ none) ∧
      (∀ number ∈ some (3 : Int), 0 ≤ number) ∧
      ∃ sequence,
        ProbeLimit.automatic.sequence (some rule) start none (some 3) none Limits.none =
          .ok sequence ∧
        sequence.run.1.Pairwise (· < ·) := by
  intro rule start
  have bounded : some (3 : Int) ≠ none ∨ (none : Option Date) ≠ none :=
    Or.inl (Option.some_ne_none 3)
  have notNegative : ∀ number ∈ some (3 : Int), 0 ≤ number := by decide
  obtain ⟨sequence, stop, dates, ending, made, _, _, _, _, _, runs, _, ascending, _⟩ :=
    ProbeLimit.run_sequence_exact .automatic rule rfl start none (some 3) none Limits.none
      bounded notNegative
  refine ⟨rfl, bounded, notNegative, sequence, made, ?_⟩
  rw [runs]
  exact ascending

/-- A daily rule with the least interval that has too many digits, 10 to the power of 4300, from
1 January 2024 on. -/
theorem run_sequence_unwritable :
    let rule : Rule := ⟨leastBeyond digitLimit, .daily, leastBeyond_pos digitLimit⟩
    let start : Date := ⟨738885, by decide⟩
    let following : Date := ⟨738886, by decide⟩
    ∃ sequence,
      (ProbeLimit.days 1 Nat.one_pos).sequence (some rule) start (some following) (some 1) none
        Limits.none = .ok sequence ∧
      isOccurrence (some rule) start Limits.none following = .ok false ∧
      sequence.run = ([], .interrupted .unwritable) := by
  intro rule start following
  have long : isWritable (leastBeyond digitLimit) = false :=
    isWritable_eq_false_iff.mpr (Nat.le_of_eq (Int.natAbs_natCast _).symm)
  exact run_sequence_of_not_isWritable (leastBeyond_pos digitLimit) long rfl

end Recurrence
end Cadence
