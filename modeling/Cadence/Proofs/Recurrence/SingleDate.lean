import Cadence.Proofs.Recurrence.Windows

/-!
# Single dates

A schedule without a rule, which occurs once, on its start.  Its sequences, the search for
the next occurrence and the search for the previous one all give this date where it lies
within their bounds.  The search backwards also needs the start to be within reach of its
probe limit.
-/

namespace Cadence
namespace Recurrence

open Calendar

variable {start : Date}

/-- The start is an occurrence unless it is behind the end or too close to itself. -/
theorem isOccurrence_none_eq_true_iff {limits : Limits} {date : Date} :
    isOccurrence none start limits date = .ok true ↔
      date = start ∧ (∀ last ∈ limits.endDate, date ≤ last) ∧
        ∀ gap ∈ limits.minGapDays, gap ≤ 0 := by
  rw [isOccurrence_none, Except.ok.injEq, Bool.and_eq_true, beq_iff_eq, Limits.admits_iff]
  constructor
  · rintro ⟨⟨_, notBehind, farEnough⟩, rfl⟩
    refine ⟨rfl, notBehind, ?_⟩
    intro gap isGap
    have close := farEnough gap isGap
    rwa [Date.daysUntil, Int.sub_self] at close
  · rintro ⟨rfl, notBehind, noGap⟩
    refine ⟨⟨Nat.le_refl _, notBehind, ?_⟩, rfl⟩
    intro gap isGap
    rw [Date.daysUntil, Int.sub_self]
    exact noGap gap isGap

/-! ## Forwards -/

/-- An ascending list of no other date than one. -/
theorem head?_of_forall_eq
    {dates : List Date}
    {holds : Prop}
    [Decidable holds]
    (members : ∀ date, date ∈ dates ↔ date = start ∧ holds) :
    dates.head? = if holds then some start else none := by
  cases dates with
  | nil =>
      have fails : ¬ holds := fun given => List.not_mem_nil ((members start).mpr ⟨rfl, given⟩)
      rw [if_neg fails]
      rfl
  | cons date others =>
      obtain ⟨rfl, given⟩ := (members date).mp (List.mem_cons_self ..)
      rw [if_pos given]
      rfl

/-- The next occurrence is the start when that is still to come and not behind the end. -/
theorem nextOccurrence_none
    (limit : ProbeLimit)
    {after : Date}
    (inside : after < Date.last)
    (endDate : Option Date) :
    limit.nextOccurrence none start after false endDate =
      .ok (if after < start ∧ ∀ last ∈ endDate, start ≤ last then some start else none) := by
  obtain ⟨following, isNext⟩ : ∃ following, after.next? = some following := by
    apply Option.ne_none_iff_exists'.mp
    rw [Ne, Date.next?_eq_none_iff]
    rintro rfl
    exact Nat.lt_irrefl _ inside
  obtain ⟨dates, runs, _, members⟩ :=
    (limit.nextSequence none start following 1 endDate).exists_run_of_rule_none rfl nofun
  have isFirst : dates.head? =
      if after < start ∧ ∀ last ∈ endDate, start ≤ last then some start else none := by
    apply head?_of_forall_eq
    intro date
    rw [members]
    apply and_congr_right
    rintro rfl
    have nextNumber := Date.dayNumber_next? isNext
    have started : (limit.nextSequence none date following 1 endDate).firstProbe ≤ date ↔
        after < date := by
      change (some following).elim date (max date) ≤ date ↔ _
      rw [firstProbe_le_iff]
      simp only [Option.mem_some_iff, forall_eq', Date.le_iff, Date.lt_iff]
      omega
    rw [started]
    exact and_congr_right fun _ => and_iff_right nofun
  unfold ProbeLimit.nextOccurrence ProbeLimit.nextOccurrences
  simp only [Bool.false_eq_true, if_false, isNext, runs, foundDates, Except.map]
  rw [isFirst]

/-! ## Backwards -/

theorem exists_previous?_eq_some {date : Date} (later : start < date) :
    ∃ preceding, date.previous? = some preceding ∧
      date.dayNumber = preceding.dayNumber + 1 := by
  cases isPrevious : date.previous? with
  | none =>
      rw [Date.previous?_eq_none_iff.mp isPrevious] at later
      exact absurd (Nat.lt_of_lt_of_le later start.first_le) (Nat.lt_irrefl _)
  | some preceding => exact ⟨preceding, rfl, Date.dayNumber_previous? isPrevious⟩

/-- Probing backwards meets the start when it is not before it and close enough. -/
theorem probeBack_none
    {endDate : Option Date}
    {probes : Nat}
    {date : Date}
    (notBehind : ∀ last ∈ endDate, date ≤ last) :
    probeBack none start endDate probes date =
      .ok (if start ≤ date ∧ date.dayNumber < start.dayNumber + probes then some start
        else none) := by
  induction probes generalizing date with
  | zero =>
      have outOfReach : ¬ (start ≤ date ∧ date.dayNumber < start.dayNumber + 0) := by
        rw [Date.le_iff]
        omega
      rw [probeBack, if_neg outOfReach]
  | succ probes hypothesis =>
      rw [probeBack]
      by_cases before : date < start
      · have notReached : ¬ (start ≤ date ∧ date.dayNumber < start.dayNumber + (probes + 1)) :=
          fun reached => Nat.not_le_of_lt before reached.1
        rw [if_pos before, if_neg notReached]
      · rw [if_neg before]
        by_cases isStart : date = start
        · subst isStart
          have occurs : isOccurrence none date { endDate } date = .ok true :=
            isOccurrence_none_eq_true_iff.mpr ⟨rfl, notBehind, nofun⟩
          have reached : date ≤ date ∧ date.dayNumber < date.dayNumber + (probes + 1) :=
            ⟨Nat.le_refl _, by omega⟩
          rw [occurs, if_pos reached]
        · have rejected : isOccurrence none start { endDate } date = .ok false := by
            rw [isOccurrence_none, beq_false_of_ne isStart, Bool.and_false]
          have later : start < date :=
            Nat.lt_of_le_of_ne (Nat.le_of_not_lt before) fun same => isStart (Date.ext same.symm)
          obtain ⟨preceding, isPrevious, previousNumber⟩ := exists_previous?_eq_some later
          have stillNotBehind : ∀ last ∈ endDate, preceding ≤ last := by
            intro last isLast
            have upTo := notBehind last isLast
            rw [Date.le_iff] at upTo ⊢
            omega
          have sameReach :
              (start ≤ preceding ∧ preceding.dayNumber < start.dayNumber + probes) ↔
                start ≤ date ∧ date.dayNumber < start.dayNumber + (probes + 1) := by
            rw [Date.lt_iff] at later
            rw [Date.le_iff, Date.le_iff]
            omega
          rw [rejected, isPrevious]
          dsimp only
          rw [hypothesis stillNotBehind]
          simp only [sameReach]

/-- The previous occurrence is the start when that is not to come, not behind the end, and
within ten years of the earlier of the date and the end. -/
theorem previousOccurrence_none (start onOrBefore : Date) (endDate : Option Date) :
    ProbeLimit.automatic.previousOccurrence none start onOrBefore endDate =
      .ok (if start ≤ onOrBefore ∧ (∀ last ∈ endDate, start ≤ last) ∧
          (endDate.elim onOrBefore (min onOrBefore)).dayNumber < start.dayNumber + 3653 then
        some start
      else
        none) := by
  have notBehind : ∀ last ∈ endDate, endDate.elim onOrBefore (min onOrBefore) ≤ last := by
    rintro last rfl
    rw [Option.elim_some, Date.le_iff, Date.dayNumber_min]
    exact Nat.min_le_right _ _
  have reaches : start ≤ endDate.elim onOrBefore (min onOrBefore) ↔
      start ≤ onOrBefore ∧ ∀ last ∈ endDate, start ≤ last := by
    cases endDate with
    | none => simp
    | some last =>
        simp only [Option.elim_some, Option.mem_some_iff, forall_eq', Date.le_iff,
          Date.dayNumber_min]
        omega
  have limit : ProbeLimit.automatic.forRule none false none = 3653 := rfl
  unfold ProbeLimit.previousOccurrence
  rw [limit, probeBack_none notBehind]
  simp only [reaches, and_assoc]

/-! ## All paths -/

/-- A schedule without a rule means the same on every path.  Where no gap keeps its start
away, its sequence gives exactly the dates between the bounds that are occurrences with the
same limits, and is complete.  The next occurrence is the start as long as it is to come, and
the previous one is the start once it is not, in both cases unless it is behind the end; the
search backwards reaches ten years of days. -/
theorem single_date_on_every_path (start : Date) :
    (∀ (limit : ProbeLimit) (fromDate : Option Date) (count : Option Int)
        (untilDate : Option Date) (limits : Limits),
      (count ≠ none ∨ untilDate ≠ none) → (∀ number ∈ count, 1 ≤ number) →
      (∀ gap ∈ limits.minGapDays, gap ≤ 0) →
      ∃ sequence dates,
        limit.sequence none start fromDate count untilDate limits = .ok sequence ∧
        sequence.toList = .ok dates ∧
        dates.Pairwise (· < ·) ∧
        ∀ date, date ∈ dates ↔
          (start ≤ date ∧ ∀ opening ∈ fromDate, opening ≤ date) ∧
          (∀ last ∈ untilDate, date ≤ last) ∧
          (∀ last ∈ limits.endDate, date ≤ last) ∧
          isOccurrence none start limits date = .ok true) ∧
    (∀ (date : Date) (endDate : Option Date),
      ProbeLimit.automatic.previousOccurrence none start date endDate =
        .ok (if start ≤ date ∧ (∀ last ∈ endDate, start ≤ last) ∧
            (endDate.elim date (min date)).dayNumber < start.dayNumber + 3653 then
          some start
        else
          none)) ∧
    ∀ (date : Date) (endDate : Option Date), date < Date.last →
      ProbeLimit.automatic.nextOccurrence none start date false endDate =
        .ok (if date < start ∧ ∀ last ∈ endDate, start ≤ last then some start else none) := by
  refine ⟨?_, previousOccurrence_none start, fun date endDate inside =>
    nextOccurrence_none .automatic inside endDate⟩
  intro limit fromDate count untilDate limits bounded positive noGap
  have notNegative : ∀ number ∈ count, 0 ≤ number := by
    intro number isCount
    have atLeastOne := positive number isCount
    omega
  obtain ⟨sequence, made⟩ : ∃ sequence,
      limit.sequence none start fromDate count untilDate limits = .ok sequence :=
    ⟨_, ProbeLimit.sequence_eq_ok_iff.mpr ⟨bounded, notNegative, rfl⟩⟩
  obtain ⟨_, _, isSequence⟩ := ProbeLimit.sequence_eq_ok_iff.mp made
  have notZero : sequence.count ≠ some 0 := by
    rw [isSequence]
    intro isZero
    obtain ⟨number, isCount, isNumber⟩ := Option.map_eq_some_iff.mp isZero
    have atLeastOne := positive number isCount
    omega
  obtain ⟨dates, runs, ascending, members⟩ :=
    sequence.exists_run_of_rule_none (by rw [isSequence]) notZero
  refine ⟨sequence, dates, made, by rw [Sequence.toList, runs], ascending, ?_⟩
  intro date
  rw [members, isOccurrence_none_eq_true_iff, isSequence]
  simp only [firstProbe_le_iff]
  constructor
  · rintro ⟨isStart, started, upToLast, upToEnd⟩
    exact ⟨started, upToLast, upToEnd, isStart, upToEnd, noGap⟩
  · rintro ⟨started, upToLast, upToEnd, isStart, _, _⟩
    exact ⟨isStart, started, upToLast, upToEnd⟩

/-- The single date of 1 January 2014 in a sequence of one date, and from the days around the
reach of the search backwards, with an end in between. -/
theorem single_date_on_every_path_decade :
    let start : Date := ⟨735233, by decide⟩
    let endDate : Date := ⟨738885, by decide⟩
    let later : Date := ⟨740000, by decide⟩
    let earlier : Date := ⟨735232, by decide⟩
    let limits : Limits := { skipFirstPeriod := true, minGapDays := some 0, endDate }
    ((some (1 : Int) ≠ none ∨ (none : Option Date) ≠ none) ∧
      (∀ number ∈ some (1 : Int), 1 ≤ number) ∧ (∀ gap ∈ limits.minGapDays, gap ≤ 0) ∧
      ∃ sequence dates,
        ProbeLimit.automatic.sequence none start none (some 1) none limits = .ok sequence ∧
        sequence.toList = .ok dates ∧ start ∈ dates) ∧
    ProbeLimit.automatic.previousOccurrence none start later (some endDate) =
      .ok (some start) ∧
    earlier < Date.last ∧
    ProbeLimit.automatic.nextOccurrence none start earlier false (some endDate) =
      .ok (some start) := by
  intro start endDate later earlier limits
  obtain ⟨forwards, previous, next⟩ := single_date_on_every_path start
  have bounded : some (1 : Int) ≠ none ∨ (none : Option Date) ≠ none :=
    Or.inl (Option.some_ne_none 1)
  have positive : ∀ number ∈ some (1 : Int), 1 ≤ number := by decide
  have noGap : ∀ gap ∈ limits.minGapDays, gap ≤ 0 := by decide
  have inside : earlier < Date.last := by decide
  obtain ⟨sequence, dates, made, isList, _, members⟩ :=
    forwards .automatic none (some 1) none limits bounded positive noGap
  have occurs : isOccurrence none start limits start = .ok true :=
    isOccurrence_none_eq_true_iff.mpr ⟨rfl, by decide, noGap⟩
  have upToEnd : ∀ last ∈ limits.endDate, start ≤ last := by decide
  refine ⟨⟨bounded, positive, noGap, sequence, dates, made, isList, (members start).mpr
    ⟨⟨Nat.le_refl _, nofun⟩, nofun, upToEnd, occurs⟩⟩, ?_, inside, ?_⟩
  · rw [previous]
    exact congrArg _ (if_pos (by decide))
  · rw [next earlier _ inside]
    exact congrArg _ (if_pos (by decide))

/-- A gap of one day keeps the single date of 1 January 2014 from being an occurrence but not
from its sequence, and 3653 days later it is not found as the previous occurrence. -/
theorem single_date_paths_differ :
    let start : Date := ⟨735233, by decide⟩
    let later : Date := ⟨738886, by decide⟩
    let limits : Limits := { minGapDays := some 1 }
    (∃ sequence dates,
      ProbeLimit.automatic.sequence none start none (some 1) none limits = .ok sequence ∧
      sequence.toList = .ok dates ∧ start ∈ dates ∧
      isOccurrence none start limits start = .ok false) ∧
    start ≤ later ∧
    ProbeLimit.automatic.previousOccurrence none start later none = .ok none := by
  intro start later limits
  let sequence : Sequence := ⟨none, start, start, some 1, none, limits, 3653⟩
  obtain ⟨dates, runs, _, members⟩ := sequence.exists_run_of_rule_none rfl (by decide)
  refine ⟨⟨sequence, dates, rfl, by rw [Sequence.toList, runs], ?_, ?_⟩, by decide, ?_⟩
  · have unbounded : ∀ last ∈ (none : Option Date), start ≤ last := by simp
    exact (members start).mpr ⟨rfl, Nat.le_refl _, unbounded, unbounded⟩
  · have tooClose : limits.admits start start = false := by
      rw [Bool.eq_false_iff, Ne, Limits.admits_iff]
      exact fun admitted => absurd (admitted.2.2 1 rfl) (by decide)
    rw [isOccurrence_none, tooClose, Bool.false_and]
  · rw [previousOccurrence_none]
    exact congrArg _ (if_neg (by decide))

end Recurrence
end Cadence
