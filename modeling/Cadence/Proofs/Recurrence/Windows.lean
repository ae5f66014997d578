import Cadence.Proofs.Recurrence.Gaps

/-!
# Windows of occurrences

The occurrences of a schedule between two dates.  A sequence that chooses its probe limit
itself and has its last day before the end of the calendar gives all of them and is not
interrupted.  An end of the schedule that is not before the last day of a window makes no
difference to its sequence.
-/

namespace Cadence
namespace Recurrence

open Calendar

/-! ## Sequences that answer alike -/

namespace Sequence

variable {first second : Sequence}

/-- Two sequences start alike and give the same answer on every day up to their last
one. -/
structure Alike (first second : Sequence) : Prop where
  rule_eq : first.rule = second.rule
  start_eq : first.start = second.start
  firstProbe_eq : first.firstProbe = second.firstProbe
  count_eq : first.count = second.count
  probeLimit_eq : first.probeLimit = second.probeLimit
  isBehind_eq : ∀ date, first.isBehind date = second.isBehind date
  isOccurrence_eq : ∀ date, first.isBehind date = false →
    isOccurrence first.rule first.start first.limits date =
      isOccurrence second.rule second.start second.limits date

namespace Alike

theorem exhaustion_eq
    (alike : first.Alike second)
    (probedDays found : Nat)
    (lastProbed : Date) :
    first.exhaustion probedDays found lastProbed =
      second.exhaustion probedDays found lastProbed := by
  unfold exhaustion
  rw [alike.rule_eq]

theorem probe_eq
    (alike : first.Alike second)
    (found misses : Nat)
    (date : Date) :
    first.probe found misses date = second.probe found misses date := by
  induction remaining : date.daysLeft using Nat.strongRecOn
    generalizing misses date with
  | ind remaining hypothesis =>
      subst remaining
      cases behind : first.isBehind date with
      | true =>
          have alsoBehind := alike.isBehind_eq date
          rw [behind] at alsoBehind
          rw [probe, probe, if_pos behind, if_pos alsoBehind.symm]
      | false =>
          have notBehind := alike.isBehind_eq date
          rw [behind] at notBehind
          rw [probe_of_not_isBehind behind, probe_of_not_isBehind notBehind.symm,
            alike.isOccurrence_eq date behind, alike.probeLimit_eq, alike.exhaustion_eq]
          cases isNext : date.next? with
          | none => rfl
          | some following =>
              simp only
              rw [hypothesis following.daysLeft (Date.daysLeft_next? isNext) _ _ rfl]

theorem begin_eq (alike : first.Alike second) : first.begin = second.begin := by
  unfold begin
  rw [alike.count_eq, alike.rule_eq, alike.firstProbe_eq, alike.start_eq,
    alike.isBehind_eq, alike.probe_eq]

theorem continueAfter_eq
    (alike : first.Alike second)
    (found : Nat)
    (date : Date) :
    first.continueAfter found date = second.continueAfter found date := by
  unfold continueAfter
  rw [alike.rule_eq, alike.count_eq]
  simp only [alike.probe_eq]

theorem restAfter_eq
    (alike : first.Alike second)
    (found : Nat)
    (date : Date) :
    first.restAfter found date = second.restAfter found date := by
  fun_induction restAfter first found date with
  | case1 found date ending stops =>
      rw [restAfter_eq_resume, ← alike.continueAfter_eq, stops]
      rfl
  | case2 found date occurrence finds rest hypothesis =>
      rw [restAfter_eq_resume second, ← alike.continueAfter_eq, finds]
      simp only [resume, ← hypothesis, rest]

/-- Sequences that answer alike run alike. -/
theorem run_eq (alike : first.Alike second) : first.run = second.run := by
  unfold run
  rw [alike.begin_eq]
  simp only [alike.restAfter_eq]

end Alike
end Sequence

/-- Two ends of a schedule that a date is behind alike give it the same answer. -/
theorem isOccurrence_endDate_congr
    (rule : Option Rule)
    (start : Date)
    (limits : Limits)
    {first second : Option Date}
    {date : Date}
    (alike : (∀ last ∈ first, date ≤ last) ↔ ∀ last ∈ second, date ≤ last) :
    isOccurrence rule start { limits with endDate := first } date =
      isOccurrence rule start { limits with endDate := second } date := by
  have sameAdmission :
      ({ limits with endDate := first } : Limits).admits start date =
        ({ limits with endDate := second } : Limits).admits start date := by
    rw [Bool.eq_iff_iff, Limits.admits_iff, Limits.admits_iff]
    exact and_congr_right fun _ => and_congr_left fun _ => alike
  unfold isOccurrence
  rw [sameAdmission]

theorem Sequence.isBehind_eq_false_iff {sequence : Sequence} {date : Date} :
    sequence.isBehind date = false ↔
      (∀ last ∈ sequence.untilDate, date ≤ last) ∧
        ∀ last ∈ sequence.limits.endDate, date ≤ last := by
  rw [isBehind_eq_endsBefore]
  exact endsBefore_eq_false_iff

/-- An end of the schedule that is not before the last day of a window makes no
difference to the sequence of the window. -/
theorem ProbeLimit.alike_windowSequence
    (limit : ProbeLimit)
    (rule : Option Rule)
    (start fromDate untilDate : Date)
    {endDate : Option Date}
    (notBefore : ∀ last ∈ endDate, untilDate ≤ last) :
    (limit.windowSequence rule start fromDate untilDate endDate).Alike
      (limit.windowSequence rule start fromDate untilDate none) where
  rule_eq := rfl
  start_eq := rfl
  firstProbe_eq := rfl
  count_eq := rfl
  probeLimit_eq := rfl
  isBehind_eq := by
    intro date
    rw [Sequence.isBehind_eq_endsBefore, Sequence.isBehind_eq_endsBefore]
    cases endDate with
    | none => rfl
    | some last =>
        have later := notBefore last rfl
        rw [Date.le_iff] at later
        simp only [Sequence.endsBefore, windowSequence, Option.any_some, Option.any_none,
          Bool.or_false]
        rw [← Bool.decide_or, decide_eq_decide]
        omega
  isOccurrence_eq := by
    intro date notBehind
    exact isOccurrence_endDate_congr rule start Limits.none
      ⟨fun _ => nofun, fun _ => (Sequence.isBehind_eq_false_iff.mp notBehind).2⟩

/-! ## Complete windows -/

theorem Limits.admits_of_isOccurrence
    {rule : Option Rule}
    {start date : Date}
    {limits : Limits}
    (occurs : isOccurrence rule start limits date = .ok true) :
    limits.admits start date = true := by
  cases admitted : limits.admits start date with
  | true => rfl
  | false =>
      rw [isOccurrence_of_not_admits admitted] at occurs
      cases occurs

/-- An occurrence is neither before the start nor behind the end. -/
theorem bounds_of_isOccurrence
    {rule : Option Rule}
    {start date : Date}
    {limits : Limits}
    (occurs : isOccurrence rule start limits date = .ok true) :
    start ≤ date ∧ ∀ last ∈ limits.endDate, date ≤ last := by
  have admitted := Limits.admits_iff.mp (Limits.admits_of_isOccurrence occurs)
  exact ⟨admitted.1, admitted.2.1⟩

/-- Only the end of its bounds stops a sequence that does not count and is not interrupted. -/
theorem Sequence.endsBefore_of_endingAt?
    {sequence : Sequence}
    {stop : Nat}
    {ending : Ending}
    (ends : sequence.endingAt? stop = some ending)
    (uncounted : sequence.count = none)
    (notExhausted : ending.isExhaustion = false)
    (inCalendar : stop ≠ calendarLength) :
    sequence.endsBefore stop = true ∧ ending = .complete := by
  have notEnough : sequence.count ≠ some (sequence.occurrencesBefore stop).length := by
    rw [uncounted]
    exact Option.some_ne_none _ |>.symm
  have notLimit : sequence.probeLimit ≠ sequence.missesBefore stop := by
    intro isLimit
    rw [endingAt?, if_neg notEnough, if_pos isLimit] at ends
    obtain ⟨lastProbed, _, isEnding⟩ := Option.map_eq_some_iff.mp ends
    rw [← isEnding, isExhaustion_exhaustion] at notExhausted
    cases notExhausted
  rw [endingAt?, if_neg notEnough, if_neg notLimit, if_neg inCalendar] at ends
  split at ends
  · next behind => exact ⟨behind, (Option.some.inj ends).symm⟩
  · cases ends

/-- A day on which a sequence is past its bounds is behind everything between them. -/
theorem Sequence.dayNumber_lt_of_endsBefore
    {sequence : Sequence}
    {stop : Nat}
    {date : Date}
    (behind : sequence.endsBefore stop = true)
    (upToLast : ∀ last ∈ sequence.untilDate, date ≤ last)
    (upToEnd : ∀ last ∈ sequence.limits.endDate, date ≤ last) : date.dayNumber < stop := by
  apply Nat.lt_of_not_le
  intro notBefore
  have notBehind : sequence.endsBefore stop = false :=
    endsBefore_eq_false_iff.mpr
      ⟨fun last isLast => Nat.le_trans notBefore (upToLast last isLast),
        fun last isEnd => Nat.le_trans notBefore (upToEnd last isEnd)⟩
  rw [notBehind] at behind
  cases behind

/-- A sequence with a last day before the end of the calendar that cannot be exhausted
gives all occurrences between its bounds. -/
theorem Sequence.IsRepeating.exists_toList_eq_ok
    {sequence : Sequence}
    {last : Date}
    (repeating : sequence.IsRepeating)
    (notExhausted : sequence.run.2.isExhaustion = false)
    (uncounted : sequence.count = none)
    (isLast : sequence.untilDate = some last)
    (inside : last < Date.last) :
    ∃ dates, sequence.toList = .ok dates ∧ dates.Pairwise (· < ·) ∧
      ∀ date, date ∈ dates ↔
        sequence.firstProbe ≤ date ∧
          (∀ last ∈ sequence.untilDate, date ≤ last) ∧
          (∀ endDate ∈ sequence.limits.endDate, date ≤ endDate) ∧
          sequence.accepts date = true := by
  obtain ⟨stop, runs⟩ := exists_runsTo_run repeating
  have dates_eq : sequence.run.1 = sequence.occurrencesBefore stop := runs.dates_eq
  have inCalendar : stop ≠ calendarLength := by
    rintro rfl
    have goesOn := runs.continues Date.last.dayNumber sequence.firstProbe.le_last (by decide)
    have bounds := endsBefore_eq_false_iff.mp ((endingAt?_eq_none_iff _).mp goesOn).2.2
    exact Nat.not_lt_of_le (bounds.1 last isLast) inside
  obtain ⟨behind, isComplete⟩ :=
    endsBefore_of_endingAt? runs.ending_eq uncounted notExhausted inCalendar
  have isRun : sequence.run = (sequence.run.1, .complete) := by rw [← isComplete]
  refine ⟨sequence.run.1, ?_, ?_, ?_⟩
  · rw [toList, isRun]
  · rw [dates_eq]
    exact sequence.pairwise_occurrencesBefore stop
  · intro date
    rw [dates_eq, mem_occurrencesBefore_iff runs.continues]
    constructor
    · rintro ⟨started, upToLast, upToEnd, accepted, _⟩
      exact ⟨started, upToLast, upToEnd, accepted⟩
    · rintro ⟨started, upToLast, upToEnd, accepted⟩
      exact ⟨started, upToLast, upToEnd, accepted,
        dayNumber_lt_of_endsBefore behind upToLast upToEnd⟩

/-- A sequence without a rule gives its start when that lies between its bounds, and is
complete then. -/
theorem Sequence.exists_run_of_rule_none
    (sequence : Sequence)
    (noRule : sequence.rule = none)
    (notZero : sequence.count ≠ some 0) :
    ∃ dates, sequence.run = (dates, .complete) ∧ dates.Pairwise (· < ·) ∧
      ∀ date, date ∈ dates ↔
        date = sequence.start ∧ sequence.firstProbe ≤ date ∧
          (∀ last ∈ sequence.untilDate, date ≤ last) ∧
          ∀ last ∈ sequence.limits.endDate, date ≤ last := by
  have single (date : Date) : sequence.restAfter 1 date = ([], .complete) := by
    rw [restAfter_eq_resume, continueAfter, noRule]
    rfl
  unfold run begin
  rw [if_neg notZero, noRule]
  by_cases inBounds : sequence.firstProbe ≤ sequence.start ∧
      sequence.isBehind sequence.start = false
  · refine ⟨[sequence.start], ?_, List.pairwise_singleton _ _, ?_⟩
    · simp [inBounds.1, inBounds.2, single]
    · intro date
      rw [List.mem_singleton]
      constructor
      · rintro rfl
        exact ⟨rfl, inBounds.1, isBehind_eq_false_iff.mp inBounds.2⟩
      · exact fun bounds => bounds.1
  · refine ⟨[], ?_, List.Pairwise.nil, ?_⟩
    · have outside : (decide (sequence.firstProbe ≤ sequence.start) &&
          !sequence.isBehind sequence.start) = false := by
        simpa using inBounds
      simp only [outside, Bool.false_eq_true, if_false]
    · intro date
      simp only [List.not_mem_nil, false_iff]
      rintro ⟨rfl, started, notBehind⟩
      exact inBounds ⟨started, isBehind_eq_false_iff.mpr notBehind⟩

section Window

variable {start fromDate untilDate date : Date} {endDate : Option Date}

theorem ProbeLimit.firstProbe_windowSequence_le_iff
    {limit : ProbeLimit}
    {rule : Option Rule} :
    (limit.windowSequence rule start fromDate untilDate endDate).firstProbe ≤ date ↔
      start ≤ date ∧ fromDate ≤ date := by
  change (some fromDate).elim start (max start) ≤ date ↔ _
  rw [firstProbe_le_iff]
  simp only [Option.mem_some_iff, forall_eq']

/-- The window of a schedule without a rule holds the start when that lies in it. -/
theorem exists_toList_windowSequence_none
    (limit : ProbeLimit)
    (start fromDate untilDate : Date)
    (endDate : Option Date) :
    ∃ dates,
      (limit.windowSequence none start fromDate untilDate endDate).toList = .ok dates ∧
      dates.Pairwise (· < ·) ∧
      ∀ date, date ∈ dates ↔
        (fromDate ≤ date ∧ date ≤ untilDate) ∧
          isOccurrence none start { endDate } date = .ok true := by
  obtain ⟨dates, runs, ascending, members⟩ :=
    (limit.windowSequence none start fromDate untilDate endDate).exists_run_of_rule_none rfl
      nofun
  refine ⟨dates, ?_, ascending, ?_⟩
  · rw [Sequence.toList, runs]
  · intro date
    rw [members, ProbeLimit.firstProbe_windowSequence_le_iff, isOccurrence_none,
      Except.ok.injEq, Bool.and_eq_true, Limits.admits_iff, beq_iff_eq]
    constructor
    · rintro ⟨isStart, ⟨started, opened⟩, upToLast, upToEnd⟩
      exact ⟨⟨opened, upToLast untilDate rfl⟩, ⟨started, upToEnd, nofun⟩, isStart⟩
    · rintro ⟨⟨opened, upToLast⟩, ⟨started, upToEnd, _⟩, isStart⟩
      refine ⟨isStart, ⟨started, opened⟩, ?_, upToEnd⟩
      rintro _ ⟨⟩
      exact upToLast

/-- The window of a schedule that ends before the calendar does holds exactly the
occurrences in it, in ascending order. -/
theorem exists_toList_windowSequence
    {rule : Option Rule}
    (supported : ∀ given ∈ rule, ∃ frequency, given.frequency? = some frequency)
    (start fromDate : Date)
    (inside : untilDate < Date.last)
    (endDate : Option Date) :
    ∃ dates,
      (ProbeLimit.automatic.windowSequence rule start fromDate untilDate endDate).toList =
        .ok dates ∧
      dates.Pairwise (· < ·) ∧
      ∀ date, date ∈ dates ↔
        (fromDate ≤ date ∧ date ≤ untilDate) ∧
          isOccurrence rule start { endDate } date = .ok true := by
  cases rule with
  | none => exact exists_toList_windowSequence_none .automatic start fromDate untilDate endDate
  | some rule =>
      obtain ⟨frequency, supported⟩ := supported rule rfl
      have positive := ProbeLimit.automatic.forRule_pos (some rule) false none
      have covers : longestGapDays (some rule) false none ≤
          ProbeLimit.automatic.forRule (some rule) false none := by
        simp only [ProbeLimit.forRule]
        omega
      have repeating :
          (ProbeLimit.automatic.windowSequence (some rule) start fromDate untilDate
            endDate).IsRepeating :=
        ⟨⟨rule, frequency, rfl, supported⟩, positive⟩
      obtain ⟨dates, isList, ascending, members⟩ :=
        repeating.exists_toList_eq_ok
          (Sequence.isExhaustion_run rfl supported
            (ProbeLimit.firstProbe_windowSequence_le_iff.mp (Nat.le_refl _)).1
            (by rintro _ ⟨⟩) positive covers)
          rfl rfl inside
      refine ⟨dates, isList, ascending, ?_⟩
      intro date
      have answer := repeating.isOccurrence_eq date
      change isOccurrence (some rule) start { endDate } date = _ at answer
      rw [members, ProbeLimit.firstProbe_windowSequence_le_iff, answer, Except.ok.injEq]
      constructor
      · rintro ⟨⟨_, fromOpening⟩, upToLast, _, accepted⟩
        exact ⟨⟨fromOpening, upToLast untilDate rfl⟩, accepted⟩
      · rintro ⟨⟨fromOpening, upToLast⟩, accepted⟩
        rw [accepted] at answer
        have bounds := bounds_of_isOccurrence answer
        refine ⟨⟨bounds.1, fromOpening⟩, ?_, bounds.2, accepted⟩
        rintro _ ⟨⟩
        exact upToLast

end Window

end Recurrence
end Cadence
