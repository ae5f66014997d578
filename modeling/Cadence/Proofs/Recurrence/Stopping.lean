import Cadence.Proofs.Recurrence.Periods
import Cadence.Recurrence.Search

/-!
# Where a sequence stops

A sequence comes to one day after another.  What it has given before a day, and how
many days it has probed in vain since, follow from the occurrences before that day
alone, and so does whether it stops there.  A run gives the occurrences up to the first
day on which the sequence stops and ends as that day says.
-/

namespace Cadence
namespace Recurrence

open Calendar

/-- Whether a sequence has stopped because it has probed too many days in vain. -/
def Ending.isExhaustion : Ending → Bool
  | .interrupted (.exhausted ..) => true
  | .interrupted .unwritable => true
  | .interrupted .outOfCalendar => false
  | .interrupted (.unsupported _) => false
  | .complete => false

namespace Sequence

@[simp] theorem isExhaustion_exhaustion
    (sequence : Sequence)
    (probedDays found : Nat)
    (lastProbed : Date) :
    (Ending.interrupted (sequence.exhaustion probedDays found lastProbed)).isExhaustion =
      true := by
  unfold exhaustion
  split <;> rfl

/-- Whether a date is an occurrence for a sequence. -/
def accepts (sequence : Sequence) (date : Date) : Bool :=
  match isOccurrence sequence.rule sequence.start sequence.limits date with
  | .ok occurs => occurs
  | .error _ => false

/-- The occurrences from the first probe up to a day, which is left out. -/
def occurrencesBefore (sequence : Sequence) (day : Nat) : List Date :=
  (Date.between sequence.firstProbe.dayNumber day).filter sequence.accepts

/-- The days in a row before a day that are no occurrences: those since the last
occurrence, or since the first probe when there is none. -/
def missesBefore (sequence : Sequence) (day : Nat) : Nat :=
  match (sequence.occurrencesBefore day).getLast? with
  | some date => day - (date.dayNumber + 1)
  | none => day - sequence.firstProbe.dayNumber

/-- Whether a day is behind the last one of a sequence or of its schedule. -/
def endsBefore (sequence : Sequence) (day : Nat) : Bool :=
  (sequence.untilDate.any fun last => decide (last.dayNumber < day)) ||
    sequence.limits.endDate.any fun last => decide (last.dayNumber < day)

/-- How a sequence that comes to a day stops in front of it, when it does: it has given
enough dates, it has probed too many days in vain, the calendar is over, or the day is
behind its last one. -/
def endingAt? (sequence : Sequence) (day : Nat) : Option Ending :=
  if sequence.count = some (sequence.occurrencesBefore day).length then
    some .complete
  else if sequence.probeLimit = sequence.missesBefore day then
    (Date.ofDayNumber? (day - 1)).map fun lastProbed =>
      .interrupted (sequence.exhaustion sequence.probeLimit
        (sequence.occurrencesBefore day).length lastProbed)
  else if day = calendarLength then
    some (.interrupted .outOfCalendar)
  else if sequence.endsBefore day then
    some .complete
  else
    none

/-- A sequence of a rule with one of the four frequencies that may probe a day. -/
structure IsRepeating (sequence : Sequence) : Prop where
  supported : ∃ rule frequency,
    sequence.rule = some rule ∧ rule.frequency? = some frequency
  limit_pos : 0 < sequence.probeLimit

/-- A sequence has come to a day without stopping, except that the day may be behind its
last one. -/
structure IsProbing (sequence : Sequence) (found misses day : Nat) : Prop where
  started : sequence.firstProbe.dayNumber ≤ day
  found_eq : found = (sequence.occurrencesBefore day).length
  misses_eq : misses = sequence.missesBefore day
  misses_lt : misses < sequence.probeLimit
  found_lt : ∀ number ∈ sequence.count, found < number

/-- From a day on a sequence gives the occurrences up to a later day, the first on
which it stops, and ends as that day says. -/
structure RunsTo
    (sequence : Sequence)
    (opening stop : Nat)
    (result : List Date × Ending) : Prop where
  ordered : opening ≤ stop
  dates_eq : result.1 = (Date.between opening stop).filter sequence.accepts
  ending_eq : sequence.endingAt? stop = some result.2
  continues : ∀ day, opening ≤ day → day < stop → sequence.endingAt? day = none

variable {sequence : Sequence} {found misses : Nat} {date : Date}

theorem IsRepeating.rule_isNone
    (repeating : sequence.IsRepeating) : sequence.rule.isNone = false := by
  obtain ⟨rule, frequency, isRule, _⟩ := repeating.supported
  rw [isRule]
  rfl

theorem IsRepeating.isOccurrence_eq
    (repeating : sequence.IsRepeating)
    (date : Date) :
    isOccurrence sequence.rule sequence.start sequence.limits date =
      .ok (sequence.accepts date) := by
  obtain ⟨rule, frequency, isRule, supported⟩ := repeating.supported
  unfold accepts
  rw [isRule, isOccurrence_of_frequency? supported]

/-- The last day to probe is the earlier one of the two that may be set. -/
theorem isBehind_eq_endsBefore (sequence : Sequence) (date : Date) :
    sequence.isBehind date = sequence.endsBefore date.dayNumber := by
  unfold isBehind endsBefore lastProbe
  cases sequence.untilDate with
  | none => simp [Date.lt_iff]
  | some untilDate =>
      cases sequence.limits.endDate with
      | none => simp [Date.lt_iff]
      | some endDate =>
          simp only [Option.any_some, Date.lt_iff, Date.dayNumber_min]
          rw [← Bool.decide_or, decide_eq_decide]
          omega

theorem endsBefore_eq_false_iff {day : Nat} :
    sequence.endsBefore day = false ↔
      (∀ last ∈ sequence.untilDate, day ≤ last.dayNumber) ∧
        ∀ last ∈ sequence.limits.endDate, day ≤ last.dayNumber := by
  unfold endsBefore
  cases sequence.untilDate <;> cases sequence.limits.endDate <;> simp

theorem mem_occurrencesBefore {day : Nat} :
    date ∈ sequence.occurrencesBefore day ↔
      (sequence.firstProbe.dayNumber ≤ date.dayNumber ∧ date.dayNumber < day) ∧
        sequence.accepts date = true := by
  unfold occurrencesBefore
  rw [List.mem_filter, Date.mem_between]

/-! ## One more day -/

theorem occurrencesBefore_succ_of_accepts
    (started : sequence.firstProbe.dayNumber ≤ date.dayNumber)
    (accepted : sequence.accepts date = true) :
    sequence.occurrencesBefore (date.dayNumber + 1) =
      sequence.occurrencesBefore date.dayNumber ++ [date] := by
  unfold occurrencesBefore
  rw [Date.between_succ started, List.filter_append]
  simp [accepted]

theorem occurrencesBefore_succ_of_not_accepts
    (started : sequence.firstProbe.dayNumber ≤ date.dayNumber)
    (rejected : sequence.accepts date = false) :
    sequence.occurrencesBefore (date.dayNumber + 1) =
      sequence.occurrencesBefore date.dayNumber := by
  unfold occurrencesBefore
  rw [Date.between_succ started, List.filter_append]
  simp [rejected]

theorem missesBefore_succ_of_accepts
    (started : sequence.firstProbe.dayNumber ≤ date.dayNumber)
    (accepted : sequence.accepts date = true) :
    sequence.missesBefore (date.dayNumber + 1) = 0 := by
  unfold missesBefore
  rw [occurrencesBefore_succ_of_accepts started accepted, List.getLast?_concat]
  exact Nat.sub_self _

theorem missesBefore_succ_of_not_accepts
    (started : sequence.firstProbe.dayNumber ≤ date.dayNumber)
    (rejected : sequence.accepts date = false) :
    sequence.missesBefore (date.dayNumber + 1) =
      sequence.missesBefore date.dayNumber + 1 := by
  unfold missesBefore
  rw [occurrencesBefore_succ_of_not_accepts started rejected]
  cases lastOccurrence : (sequence.occurrencesBefore date.dayNumber).getLast? with
  | none =>
      simp only
      omega
  | some last =>
      have bounds := (mem_occurrencesBefore.mp (List.mem_of_getLast? lastOccurrence)).1
      simp only
      omega

/-- Dates are given in ascending order. -/
theorem pairwise_occurrencesBefore (sequence : Sequence) (day : Nat) :
    (sequence.occurrencesBefore day).Pairwise (· < ·) :=
  List.Pairwise.filter _ (Date.pairwise_between _ _)

@[simp] theorem occurrencesBefore_firstProbe :
    sequence.occurrencesBefore sequence.firstProbe.dayNumber = [] := by
  simp [occurrencesBefore]

@[simp] theorem missesBefore_firstProbe :
    sequence.missesBefore sequence.firstProbe.dayNumber = 0 := by
  simp [missesBefore]

namespace IsProbing

theorem count_ne
    (probing : sequence.IsProbing found misses date.dayNumber) :
    sequence.count ≠ some (sequence.occurrencesBefore date.dayNumber).length := by
  intro isCount
  have less := probing.found_lt _ isCount
  rw [probing.found_eq] at less
  exact Nat.lt_irrefl _ less

theorem limit_ne
    (probing : sequence.IsProbing found misses date.dayNumber) :
    sequence.probeLimit ≠ sequence.missesBefore date.dayNumber := by
  have less := probing.misses_lt
  rw [probing.misses_eq] at less
  exact Nat.ne_of_gt less

/-- On a day that is behind the last one to probe the sequence is complete. -/
theorem endingAt?_of_isBehind
    (probing : sequence.IsProbing found misses date.dayNumber)
    (behind : sequence.isBehind date = true) :
    sequence.endingAt? date.dayNumber = some .complete := by
  have inCalendar := Nat.ne_of_lt date.inCalendar
  unfold endingAt?
  rw [if_neg probing.count_ne, if_neg probing.limit_ne, if_neg inCalendar]
  rw [isBehind_eq_endsBefore] at behind
  exact if_pos behind

/-- On any other day the sequence does not stop before it has probed the day. -/
theorem endingAt?_eq_none
    (probing : sequence.IsProbing found misses date.dayNumber)
    (notBehind : sequence.isBehind date = false) :
    sequence.endingAt? date.dayNumber = none := by
  have inCalendar := Nat.ne_of_lt date.inCalendar
  unfold endingAt?
  rw [if_neg probing.count_ne, if_neg probing.limit_ne, if_neg inCalendar]
  rw [isBehind_eq_endsBefore] at notBehind
  exact if_neg (Bool.not_eq_true _ ▸ notBehind)

/-- Behind an occurrence the sequence goes on with one more date found. -/
theorem succ_of_accepts
    (probing : sequence.IsProbing found misses date.dayNumber)
    (accepted : sequence.accepts date = true)
    (notEnough : ∀ number ∈ sequence.count, found + 1 < number) :
    sequence.IsProbing (found + 1) 0 (date.dayNumber + 1) where
  started := Nat.le_succ_of_le probing.started
  found_eq := by
    rw [occurrencesBefore_succ_of_accepts probing.started accepted, List.length_append,
      ← probing.found_eq]
    rfl
  misses_eq := (missesBefore_succ_of_accepts probing.started accepted).symm
  misses_lt := Nat.zero_lt_of_lt probing.misses_lt
  found_lt := notEnough

/-- Behind any other day the sequence goes on with one more miss. -/
theorem succ_of_not_accepts
    (probing : sequence.IsProbing found misses date.dayNumber)
    (rejected : sequence.accepts date = false)
    (notExhausted : misses + 1 < sequence.probeLimit) :
    sequence.IsProbing found (misses + 1) (date.dayNumber + 1) where
  started := Nat.le_succ_of_le probing.started
  found_eq := by
    rw [occurrencesBefore_succ_of_not_accepts probing.started rejected]
    exact probing.found_eq
  misses_eq := by
    rw [missesBefore_succ_of_not_accepts probing.started rejected, ← probing.misses_eq]
  misses_lt := notExhausted
  found_lt := probing.found_lt

end IsProbing

/-! ## Runs -/

/-- A run that stops at once. -/
theorem RunsTo.of_ending
    {day : Nat}
    {ending : Ending}
    (ends : sequence.endingAt? day = some ending) :
    sequence.RunsTo day day ([], ending) where
  ordered := Nat.le_refl day
  dates_eq := by rw [Date.between_self]; rfl
  ending_eq := ends
  continues := by
    intro other notBefore before
    omega

/-- A run that goes on behind a day gives that day first when it is an occurrence. -/
theorem RunsTo.of_succ
    {stop : Nat}
    {dates : List Date}
    {ending : Ending}
    (rest : sequence.RunsTo (date.dayNumber + 1) stop (dates, ending))
    (goesOn : sequence.endingAt? date.dayNumber = none) :
    sequence.RunsTo date.dayNumber stop
      (if sequence.accepts date then (date :: dates, ending) else (dates, ending)) where
  ordered := Nat.le_of_succ_le rest.ordered
  dates_eq := by
    have later : dates = (Date.between (date.dayNumber + 1) stop).filter sequence.accepts :=
      rest.dates_eq
    rw [Date.between_eq_cons rest.ordered, List.filter_cons, ← later]
    split <;> rfl
  ending_eq := by
    have ends : sequence.endingAt? stop = some ending := rest.ending_eq
    rw [ends]
    split <;> rfl
  continues := by
    intro day notBefore before
    rcases Nat.eq_or_lt_of_le notBefore with same | after
    · exact same ▸ goesOn
    · exact rest.continues day after before

/-- All dates that a step leads to, behind `found` others, and how the sequence
stops. -/
def resume (sequence : Sequence) (found : Nat) : Step → List Date × Ending
  | .stopped ending => ([], ending)
  | .found date =>
    let rest := sequence.restAfter (found + 1) date
    (date :: rest.1, rest.2)

theorem restAfter_eq_resume (sequence : Sequence) (found : Nat) (date : Date) :
    sequence.restAfter found date =
      sequence.resume found (sequence.continueAfter found date) := by
  rw [restAfter]
  split <;> rename_i step <;> rw [step] <;> rfl

theorem run_eq_resume (sequence : Sequence) :
    sequence.run = sequence.resume 0 sequence.begin := by
  unfold run
  cases sequence.begin <;> rfl

/-- Behind an occurrence the sequence has enough dates, is at the end of the calendar,
or probes on. -/
theorem exists_runsTo_restAfter
    (repeating : sequence.IsRepeating)
    (probing : sequence.IsProbing found misses date.dayNumber)
    (accepted : sequence.accepts date = true)
    (onward : ∀ following, date.next? = some following →
      sequence.IsProbing (found + 1) 0 following.dayNumber →
      ∃ stop, sequence.RunsTo following.dayNumber stop
        (sequence.resume (found + 1) (sequence.probe (found + 1) 0 following))) :
    ∃ stop, sequence.RunsTo (date.dayNumber + 1) stop
      (sequence.restAfter (found + 1) date) := by
  have foundLength :
      (sequence.occurrencesBefore (date.dayNumber + 1)).length = found + 1 := by
    rw [occurrencesBefore_succ_of_accepts probing.started accepted, List.length_append,
      ← probing.found_eq]
    rfl
  have noMisses := missesBefore_succ_of_accepts probing.started accepted
  rw [restAfter_eq_resume]
  unfold continueAfter
  rw [if_neg (Bool.not_eq_true _ ▸ repeating.rule_isNone)]
  split
  · next enough =>
      obtain ⟨number, isCount, reached⟩ := (Option.any_eq_true ..).mp enough
      have notReached := probing.found_lt number isCount
      have exactly : number = found + 1 := by
        simp only [decide_eq_true_eq] at reached
        omega
      refine ⟨_, RunsTo.of_ending ?_⟩
      unfold endingAt?
      rw [foundLength, if_pos (exactly ▸ isCount)]
  · next notEnough =>
      have less : ∀ number ∈ sequence.count, found + 1 < number := by
        intro number isCount
        apply Nat.lt_of_not_le
        intro reached
        exact notEnough
          ((Option.any_eq_true ..).mpr ⟨number, isCount, decide_eq_true reached⟩)
      split
      · next isLast =>
          have notCount : sequence.count ≠ some (found + 1) :=
            fun isCount => Nat.lt_irrefl _ (less _ isCount)
          refine ⟨_, RunsTo.of_ending ?_⟩
          unfold endingAt?
          rw [foundLength, noMisses, if_neg notCount,
            if_neg (Nat.ne_of_gt repeating.limit_pos),
            if_pos (Date.dayNumber_add_one_of_isLast isLast)]
      · next following isNext =>
          rw [← Date.dayNumber_next? isNext]
          apply onward following isNext
          rw [Date.dayNumber_next? isNext]
          exact probing.succ_of_accepts accepted less

/-- What probing a day that is not behind the last one leads to. -/
theorem probe_of_not_isBehind
    (notBehind : sequence.isBehind date = false)
    (found misses : Nat) :
    sequence.probe found misses date =
      match isOccurrence sequence.rule sequence.start sequence.limits date with
      | .error unsupported => .stopped (.interrupted (.unsupported unsupported))
      | .ok true => .found date
      | .ok false =>
        if sequence.probeLimit ≤ misses + 1 then
          .stopped (.interrupted (sequence.exhaustion (misses + 1) found date))
        else
          match date.next? with
          | none => .stopped (.interrupted .outOfCalendar)
          | some following => sequence.probe found (misses + 1) following := by
  rw [probe, notBehind]
  simp only [Bool.false_eq_true, if_false]
  cases isOccurrence sequence.rule sequence.start sequence.limits date with
  | error unsupported => rfl
  | ok occurs =>
      cases occurs with
      | true => rfl
      | false =>
          simp only
          split
          · rfl
          · split <;> rename_i step <;> rw [step]

/-- Probing a day that is no occurrence gives up or goes on with the next day. -/
theorem probe_of_not_accepts
    (repeating : sequence.IsRepeating)
    (notBehind : sequence.isBehind date = false)
    (rejected : sequence.accepts date = false) :
    sequence.probe found misses date =
      if sequence.probeLimit ≤ misses + 1 then
        .stopped (.interrupted (sequence.exhaustion (misses + 1) found date))
      else
        match date.next? with
        | none => .stopped (.interrupted .outOfCalendar)
        | some following => sequence.probe found (misses + 1) following := by
  rw [probe_of_not_isBehind notBehind, repeating.isOccurrence_eq, rejected]

/-- Behind a day that is no occurrence the sequence is exhausted, is at the end of the
calendar, or probes on. -/
theorem exists_runsTo_of_not_accepts
    (repeating : sequence.IsRepeating)
    (probing : sequence.IsProbing found misses date.dayNumber)
    (notBehind : sequence.isBehind date = false)
    (rejected : sequence.accepts date = false)
    (onward : ∀ following, date.next? = some following →
      sequence.IsProbing found (misses + 1) following.dayNumber →
      ∃ stop, sequence.RunsTo following.dayNumber stop
        (sequence.resume found (sequence.probe found (misses + 1) following))) :
    ∃ stop, sequence.RunsTo (date.dayNumber + 1) stop
      (sequence.resume found (sequence.probe found misses date)) := by
  have foundLength :
      (sequence.occurrencesBefore (date.dayNumber + 1)).length = found := by
    rw [occurrencesBefore_succ_of_not_accepts probing.started rejected]
    exact probing.found_eq.symm
  have oneMore : sequence.missesBefore (date.dayNumber + 1) = misses + 1 := by
    rw [missesBefore_succ_of_not_accepts probing.started rejected, ← probing.misses_eq]
  have notCount : sequence.count ≠ some found :=
    fun isCount => Nat.lt_irrefl _ (probing.found_lt _ isCount)
  have misses_lt := probing.misses_lt
  rw [probe_of_not_accepts repeating notBehind rejected]
  split
  · next exhausts =>
      have isLimit : sequence.probeLimit = misses + 1 := by omega
      refine ⟨_, RunsTo.of_ending ?_⟩
      unfold endingAt?
      rw [foundLength, oneMore, if_neg notCount, if_pos isLimit, isLimit,
        Nat.add_sub_cancel, Date.ofDayNumber?_dayNumber]
      rfl
  · next notExhausted =>
      have notLimit : sequence.probeLimit ≠ misses + 1 := by omega
      split
      · next isLast =>
          refine ⟨_, RunsTo.of_ending ?_⟩
          unfold endingAt?
          rw [foundLength, oneMore, if_neg notCount, if_neg notLimit,
            if_pos (Date.dayNumber_add_one_of_isLast isLast)]
      · next following isNext =>
          have probingNext := probing.succ_of_not_accepts rejected (by omega)
          rw [← Date.dayNumber_next? isNext] at probingNext ⊢
          exact onward following isNext probingNext

/-- Probing a day that the sequence has come to runs to the first day on which the
sequence stops. -/
theorem exists_runsTo_probe
    (repeating : sequence.IsRepeating)
    (probing : sequence.IsProbing found misses date.dayNumber) :
    ∃ stop, sequence.RunsTo date.dayNumber stop
      (sequence.resume found (sequence.probe found misses date)) := by
  induction remaining : date.daysLeft using Nat.strongRecOn
    generalizing found misses date with
  | ind remaining hypothesis =>
      subst remaining
      have onward {found misses : Nat} (following : Date)
          (isNext : date.next? = some following)
          (probing : sequence.IsProbing found misses following.dayNumber) :
          ∃ stop, sequence.RunsTo following.dayNumber stop
            (sequence.resume found (sequence.probe found misses following)) :=
        hypothesis following.daysLeft (Date.daysLeft_next? isNext) probing rfl
      cases behind : sequence.isBehind date with
      | true =>
          rw [probe, behind]
          exact ⟨_, RunsTo.of_ending (probing.endingAt?_of_isBehind behind)⟩
      | false =>
          have goesOn := probing.endingAt?_eq_none behind
          cases accepted : sequence.accepts date with
          | true =>
              obtain ⟨stop, rest⟩ := exists_runsTo_restAfter repeating probing accepted
                fun following isNext => onward following isNext
              have whole := rest.of_succ goesOn
              rw [if_pos accepted] at whole
              rw [probe, behind, repeating.isOccurrence_eq, accepted]
              exact ⟨stop, whole⟩
          | false =>
              obtain ⟨stop, rest⟩ := exists_runsTo_of_not_accepts repeating probing behind
                accepted fun following isNext => onward following isNext
              have whole := rest.of_succ goesOn
              rw [if_neg (Bool.not_eq_true _ ▸ accepted)] at whole
              exact ⟨stop, whole⟩

/-- A run gives the occurrences up to the first day on which the sequence stops. -/
theorem exists_runsTo_run (repeating : sequence.IsRepeating) :
    ∃ stop, sequence.RunsTo sequence.firstProbe.dayNumber stop sequence.run := by
  rw [run_eq_resume]
  unfold begin
  split
  · next isZero =>
      refine ⟨_, RunsTo.of_ending ?_⟩
      unfold endingAt?
      rw [occurrencesBefore_firstProbe]
      exact if_pos isZero
  · next notZero =>
      obtain ⟨rule, frequency, isRule, _⟩ := repeating.supported
      rw [isRule]
      apply exists_runsTo_probe repeating
      refine ⟨Nat.le_refl _, ?_, missesBefore_firstProbe.symm, repeating.limit_pos, ?_⟩
      · rw [occurrencesBefore_firstProbe]
        rfl
      · intro number isCount
        apply Nat.pos_of_ne_zero
        rintro rfl
        exact notZero isCount

/-- On a day of the calendar that the sequence goes on with nothing has stopped it. -/
theorem endingAt?_eq_none_iff (date : Date) :
    sequence.endingAt? date.dayNumber = none ↔
      sequence.count ≠ some (sequence.occurrencesBefore date.dayNumber).length ∧
        sequence.probeLimit ≠ sequence.missesBefore date.dayNumber ∧
        sequence.endsBefore date.dayNumber = false := by
  have inCalendar := date.inCalendar
  obtain ⟨preceding, isPreceding⟩ :=
    Date.exists_dayNumber_eq (Nat.lt_of_le_of_lt (Nat.sub_le date.dayNumber 1) inCalendar)
  unfold endingAt?
  rw [← isPreceding, Date.ofDayNumber?_dayNumber]
  constructor
  · intro goesOn
    split at goesOn
    · cases goesOn
    · next notEnough =>
        split at goesOn
        · cases goesOn
        · next notExhausted =>
            refine ⟨notEnough, notExhausted, ?_⟩
            rw [if_neg (Nat.ne_of_lt inCalendar)] at goesOn
            split at goesOn
            · cases goesOn
            · next notOver => exact Bool.eq_false_iff.mpr notOver
  · rintro ⟨notEnough, notExhausted, notOver⟩
    rw [if_neg notEnough, if_neg notExhausted, if_neg (Nat.ne_of_lt inCalendar), notOver]
    rfl

theorem missesBefore_le (sequence : Sequence) (day : Nat) :
    sequence.missesBefore day ≤ day := by
  unfold missesBefore
  split <;> exact Nat.sub_le _ _

/-- A run stops at the end of the calendar at the latest. -/
theorem RunsTo.stop_le
    {stop : Nat}
    {result : List Date × Ending}
    (runs : sequence.RunsTo date.dayNumber stop result) : stop ≤ calendarLength := by
  apply Nat.le_of_not_lt
  intro beyond
  have goesOn := runs.continues calendarLength (Nat.le_of_lt date.inCalendar) beyond
  have lastNumber : Date.ofDayNumber? (calendarLength - 1) = some Date.last :=
    Date.ofDayNumber?_eq_some_iff.mpr rfl
  unfold endingAt? at goesOn
  rw [lastNumber, if_pos rfl] at goesOn
  split at goesOn
  · cases goesOn
  · split at goesOn <;> cases goesOn

/-- A sequence gives up on a day when it has just missed as many days as it may. -/
theorem probeLimit_eq_of_isExhaustion
    {day : Nat}
    {ending : Ending}
    (exhausted : ending.isExhaustion = true)
    (ends : sequence.endingAt? day = some ending) :
    sequence.probeLimit = sequence.missesBefore day := by
  unfold endingAt? at ends
  split at ends
  · cases ends
    cases exhausted
  · split at ends
    · next isLimit => exact isLimit
    · split at ends
      · cases ends
        cases exhausted
      · split at ends <;> cases ends
        cases exhausted

/-- No date is given behind the last one. -/
theorem le_of_mem_occurrencesBefore
    {day : Nat}
    {last : Date}
    (isLast : (sequence.occurrencesBefore day).getLast? = some last)
    (member : date ∈ sequence.occurrencesBefore day) : date ≤ last := by
  obtain ⟨earlier, isAppend⟩ := List.getLast?_eq_some_iff.mp isLast
  have ascending := sequence.pairwise_occurrencesBefore day
  rw [isAppend] at member ascending
  rcases List.mem_append.mp member with isEarlier | isSame
  · exact Nat.le_of_lt ((List.pairwise_append.mp ascending).2.2 date isEarlier last
      (List.mem_singleton_self last))
  · rw [List.mem_singleton.mp isSame]
    exact Nat.le_refl _

/-- The days in vain before a day are probed days, and none of them is an
occurrence. -/
theorem not_accepts_of_missesBefore
    {day : Nat}
    (missed : day ≤ date.dayNumber + sequence.missesBefore day)
    (before : date.dayNumber < day) :
    sequence.firstProbe.dayNumber ≤ date.dayNumber ∧ sequence.accepts date = false := by
  unfold missesBefore at missed
  cases lastOccurrence : (sequence.occurrencesBefore day).getLast? with
  | none =>
      have noOccurrence := List.getLast?_eq_none_iff.mp lastOccurrence
      rw [lastOccurrence] at missed
      simp only at missed
      have started : sequence.firstProbe.dayNumber ≤ date.dayNumber := by omega
      refine ⟨started, Bool.eq_false_iff.mpr ?_⟩
      intro accepted
      have member := mem_occurrencesBefore.mpr ⟨⟨started, before⟩, accepted⟩
      rw [noOccurrence] at member
      cases member
  | some last =>
      have lastBounds := (mem_occurrencesBefore.mp (List.mem_of_getLast? lastOccurrence)).1
      rw [lastOccurrence] at missed
      simp only at missed
      have started : sequence.firstProbe.dayNumber ≤ date.dayNumber := by omega
      refine ⟨started, Bool.eq_false_iff.mpr ?_⟩
      intro accepted
      have ordered := le_of_mem_occurrencesBefore lastOccurrence
        (mem_occurrencesBefore.mpr ⟨⟨started, before⟩, accepted⟩)
      rw [Date.le_iff] at ordered
      omega

end Sequence
end Recurrence
end Cadence
