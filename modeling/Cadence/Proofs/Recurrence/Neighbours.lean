import Cadence.Proofs.Recurrence.Searches
import Mathlib.Order.Bounds.Defs

/-!
# Neighbouring occurrences

The search forwards finds the first occurrences behind a day and the search backwards the last
one up to it, as long as there are any: no gap of a rule is longer than the limit that is chosen
for it.  What the one finds and what the other finds are therefore neighbours, and looking back
from the day before the next occurrence finds the previous one again.
-/

namespace Cadence
namespace Recurrence

open Calendar

/-- A date is an occurrence of a rule with a start and perhaps an end. -/
def Rule.Occurs (rule : Rule) (start : Date) (endDate : Option Date) (date : Date) : Prop :=
  isOccurrence (some rule) start { endDate } date = .ok true

/-- A date comes after a day, or on it when the day counts itself. -/
def ComesAfter (day : Date) (inclusive : Bool) (date : Date) : Prop :=
  if inclusive then day ≤ date else day < date

section Order

/-- The first of some dates in order is the least of them. -/
theorem isLeast_of_head?
    {dates : List Date}
    {date : Date}
    {members : Set Date}
    (ascending : dates.Pairwise (· < ·))
    (listed : ∀ date, date ∈ dates ↔ date ∈ members)
    (isHead : dates.head? = some date) : IsLeast members date := by
  obtain ⟨others, rfl⟩ := List.head?_eq_some_iff.mp isHead
  refine ⟨(listed date).mp (List.mem_cons_self ..), ?_⟩
  intro other member
  rcases List.mem_cons.mp ((listed other).mpr member) with same | behind
  · rw [same]
    exact Nat.le_refl _
  · exact Nat.le_of_lt (List.rel_of_pairwise_cons ascending behind)

theorem eq_of_isGreatest
    {members : Set Date}
    {first second : Date}
    (isFirst : IsGreatest members first)
    (isSecond : IsGreatest members second) : first = second :=
  Date.ext (Nat.le_antisymm (isSecond.2 isFirst.1) (isFirst.2 isSecond.1))

/-- The dates from some day on are those that come after a given one. -/
theorem exists_le_iff_comesAfter
    {after : Date}
    {inclusive : Bool}
    (inside : inclusive = false → after < Date.last) :
    ∃ fromDate, (if inclusive then some after else after.next?) = some fromDate ∧
      ∀ date, fromDate ≤ date ↔ ComesAfter after inclusive date := by
  cases inclusive with
  | true => exact ⟨after, rfl, fun date => Iff.rfl⟩
  | false =>
      cases isNext : after.next? with
      | none =>
          rw [Date.next?_eq_none_iff.mp isNext] at inside
          exact absurd (inside rfl) (Nat.lt_irrefl _)
      | some fromDate =>
          refine ⟨fromDate, rfl, ?_⟩
          intro date
          have number := Date.dayNumber_next? isNext
          change fromDate ≤ date ↔ after < date
          rw [Date.le_iff, Date.lt_iff, number]
          exact Nat.succ_le_iff

end Order

variable {rule : Rule} {frequency : Frequency} {start : Date} {endDate : Option Date}

/-! ## Forwards -/

section Forwards

variable (supported : rule.frequency? = some frequency)
include supported

/-- The occurrences from a day on, of which a search gives the first ones: as many as it counts,
or all of them when the schedule ends before the calendar does. -/
theorem exists_nextOccurrences_eq (endDate : Option Date) (fromDate : Date) :
    ∃ dates : List Date,
      dates.Pairwise (· < ·) ∧
      (∀ date, date ∈ dates ↔ fromDate ≤ date ∧ rule.Occurs start endDate date) ∧
      (∀ count, count ≤ dates.length ∨ (∃ last ∈ endDate, last < Date.last) →
        ProbeLimit.automatic.nextOccurrences (some rule) start fromDate count endDate =
          .ok (dates.take count)) ∧
      ∀ count found,
        ProbeLimit.automatic.nextOccurrences (some rule) start fromDate count endDate =
          .ok found →
        found = dates.take count := by
  have isSupported := forall_mem_some_supported supported
  let sequence (count : Nat) : Sequence :=
    ProbeLimit.automatic.nextSequence (some rule) start fromDate count endDate
  refine ⟨(sequence 0).occurrencesBefore calendarLength,
    (sequence 0).pairwise_occurrencesBefore _, ?_, ?_, ?_⟩
  · intro date
    rw [Sequence.mem_occurrencesBefore_calendarLength, firstProbe_nextSequence_le_iff]
    constructor
    · rintro ⟨⟨_, notBefore⟩, occurs⟩
      exact ⟨notBefore, occurs⟩
    · rintro ⟨notBefore, occurs⟩
      exact ⟨⟨(bounds_of_isOccurrence occurs).1, notBefore⟩, occurs⟩
  · intro count enough
    refine (nextOccurrences_eq start isSupported fromDate count endDate).2 ?_
    intro leaves
    rcases enough with enough | ⟨last, isEnd, early⟩
    · exact Nat.not_lt_of_le enough (leaves.tooFew count rfl)
    · rw [leaves.scheduleEnd last isEnd] at early
      exact Nat.lt_irrefl _ early
  · intro count found isFound
    obtain ⟨leaving, staying⟩ := nextOccurrences_eq start isSupported fromDate count endDate
    by_cases leaves : (sequence count).LeavesCalendar
    · rw [leaving leaves] at isFound
      cases isFound
    · rw [staying leaves] at isFound
      cases isFound
      rfl

end Forwards

/-- The next occurrence is the first of the next occurrences. -/
theorem nextOccurrence_eq_map
    {given : Option Rule}
    {limit : ProbeLimit}
    {after fromDate : Date}
    {inclusive : Bool}
    (isFrom : (if inclusive then some after else after.next?) = some fromDate) :
    limit.nextOccurrence given start after inclusive endDate =
      (limit.nextOccurrences given start fromDate 1 endDate).map List.head? := by
  unfold ProbeLimit.nextOccurrence
  simp only [isFrom]

section Next

variable
  (supported : rule.frequency? = some frequency)
  {after : Date}
  {inclusive : Bool}
  (inside : inclusive = false → after < Date.last)
include supported inside

/-- The occurrences that come after a day.  The search for the next one gives the first of them:
it is found when there is one, and found missing when there is none and the schedule ends before
the calendar does. -/
theorem exists_nextOccurrence_eq :
    ∃ dates : List Date,
      dates.Pairwise (· < ·) ∧
      (∀ date, date ∈ dates ↔
        date ∈ {date | ComesAfter after inclusive date ∧ rule.Occurs start endDate date}) ∧
      (dates ≠ [] ∨ (∃ last ∈ endDate, last < Date.last) →
        ProbeLimit.automatic.nextOccurrence (some rule) start after inclusive endDate =
          .ok dates.head?) ∧
      ∀ next,
        ProbeLimit.automatic.nextOccurrence (some rule) start after inclusive endDate =
          .ok next →
        next = dates.head? := by
  obtain ⟨fromDate, isFrom, comesAfter⟩ := exists_le_iff_comesAfter inside
  obtain ⟨dates, ascending, members, finds, isFound⟩ :=
    exists_nextOccurrences_eq supported endDate fromDate
  have head_take : (dates.take 1).head? = dates.head? := by
    cases dates <;> rfl
  refine ⟨dates, ascending, ?_, ?_, ?_⟩
  · intro date
    rw [members, comesAfter]
    rfl
  · intro enough
    have found := finds 1 (enough.imp_left List.length_pos_iff.mpr)
    rw [nextOccurrence_eq_map isFrom, found, ← head_take]
    rfl
  · intro next isNext
    rw [nextOccurrence_eq_map isFrom] at isNext
    cases found : ProbeLimit.automatic.nextOccurrences (some rule) start fromDate 1 endDate with
    | error interruption =>
        rw [found] at isNext
        cases isNext
    | ok first =>
        rw [found, isFound 1 first found] at isNext
        cases isNext
        exact head_take

/-- The next occurrence that is found is the least one. -/
theorem isLeast_of_nextOccurrence
    {next : Date}
    (isNext : ProbeLimit.automatic.nextOccurrence (some rule) start after inclusive endDate =
      .ok (some next)) :
    IsLeast {date | ComesAfter after inclusive date ∧ rule.Occurs start endDate date} next := by
  obtain ⟨dates, ascending, members, _, isHead⟩ := exists_nextOccurrence_eq supported inside
  exact isLeast_of_head? ascending members (isHead _ isNext).symm

/-- The next occurrence is found when there is one. -/
theorem exists_nextOccurrence_eq_some
    (someAfter : ∃ date, ComesAfter after inclusive date ∧ rule.Occurs start endDate date) :
    ∃ next,
      ProbeLimit.automatic.nextOccurrence (some rule) start after inclusive endDate =
        .ok (some next) := by
  obtain ⟨dates, ascending, members, finds, _⟩ := exists_nextOccurrence_eq supported inside
  obtain ⟨date, isAfter⟩ := someAfter
  have nonempty : dates ≠ [] := List.ne_nil_of_mem ((members date).mpr isAfter)
  have found := finds (Or.inl nonempty)
  rw [List.head?_eq_some_head nonempty] at found
  exact ⟨_, found⟩

/-- A schedule that ends before the calendar does has no next occurrence when there is none. -/
theorem nextOccurrence_eq_none
    (ends : ∃ last ∈ endDate, last < Date.last)
    (noneAfter : ¬ ∃ date, ComesAfter after inclusive date ∧ rule.Occurs start endDate date) :
    ProbeLimit.automatic.nextOccurrence (some rule) start after inclusive endDate =
      .ok none := by
  obtain ⟨dates, ascending, members, finds, _⟩ := exists_nextOccurrence_eq supported inside
  have isEmpty : dates = [] := by
    rw [List.eq_nil_iff_forall_not_mem]
    exact fun date member => noneAfter ⟨date, (members date).mp member⟩
  have found := finds (Or.inr ends)
  rwa [isEmpty] at found

end Next

/-! ## Backwards -/

/-- What probing backwards finds is the last occurrence. -/
theorem isGreatest_of_probeBack
    {probes : Nat}
    {date found : Date}
    (isFound : probeBack (some rule) start endDate probes date = .ok (some found)) :
    IsGreatest {day | day ≤ date ∧ rule.Occurs start endDate day} found := by
  induction probes generalizing date with
  | zero => cases isFound
  | succ probes hypothesis =>
      rw [probeBack] at isFound
      split at isFound
      · cases isFound
      · split at isFound
        · cases isFound
        · next occurs =>
            cases isFound
            exact ⟨⟨Nat.le_refl _, occurs⟩, fun day member => member.1⟩
        · next rejected =>
            split at isFound
            · cases isFound
            · next preceding isPrevious =>
                obtain ⟨⟨upTo, occurs⟩, isLast⟩ := hypothesis isFound
                have number := Date.dayNumber_previous? isPrevious
                have notOn : rule.Occurs start endDate date → date ≤ found := by
                  intro occursOn
                  rw [Rule.Occurs, rejected] at occursOn
                  cases occursOn
                have bounds := (forall_le_previous_iff isPrevious notOn).mp
                  fun day before occursOn => isLast ⟨before, occursOn⟩
                refine ⟨⟨?_, occurs⟩, fun day member => bounds day member.1 member.2⟩
                rw [Date.le_iff] at upTo ⊢
                omega

/-- When probing backwards finds nothing, every occurrence is as far back as the probes
reach. -/
theorem dayNumber_add_le_of_probeBack
    {probes : Nat}
    {date day : Date}
    (notFound : probeBack (some rule) start endDate probes date = .ok none)
    (upTo : day ≤ date)
    (occurs : rule.Occurs start endDate day) : day.dayNumber + probes ≤ date.dayNumber := by
  induction probes generalizing date with
  | zero => exact upTo
  | succ probes hypothesis =>
      rw [probeBack] at notFound
      split at notFound
      · next before =>
          have started := (bounds_of_isOccurrence occurs).1
          exact absurd (Nat.lt_of_le_of_lt (Nat.le_trans started upTo) before)
            (Nat.lt_irrefl _)
      · split at notFound
        · cases notFound
        · cases notFound
        · next rejected =>
            have different : day ≠ date := by
              rintro rfl
              rw [Rule.Occurs, rejected] at occurs
              cases occurs
            split at notFound
            · cases notFound
            · next preceding isPrevious =>
                have number := Date.dayNumber_previous? isPrevious
                have before : day < date :=
                  Nat.lt_of_le_of_ne upTo fun same => different (Date.ext same)
                rw [Date.lt_iff, number] at before
                have reach := hypothesis notFound (Nat.le_of_lt_succ before)
                omega

/-- The occurrences up to a day are those up to the end of the schedule, when that is
earlier. -/
theorem isGreatest_elim_min_iff {onOrBefore found : Date} :
    IsGreatest
        {day | day ≤ endDate.elim onOrBefore (min onOrBefore) ∧ rule.Occurs start endDate day}
        found ↔
      IsGreatest {day | day ≤ onOrBefore ∧ rule.Occurs start endDate day} found := by
  have sameDays : {day | day ≤ endDate.elim onOrBefore (min onOrBefore) ∧
      rule.Occurs start endDate day} =
        {day | day ≤ onOrBefore ∧ rule.Occurs start endDate day} := by
    ext day
    simp only [Set.mem_ofPred_eq, le_elim_min_iff, and_assoc, and_congr_right_iff,
      and_iff_right_iff_imp]
    exact fun _ occurs => (bounds_of_isOccurrence occurs).2
  rw [sameDays]

theorem isGreatest_of_previousOccurrence
    {limit : ProbeLimit}
    {onOrBefore previous : Date}
    (isPrevious : limit.previousOccurrence (some rule) start onOrBefore endDate =
      .ok (some previous)) :
    IsGreatest {day | day ≤ onOrBefore ∧ rule.Occurs start endDate day} previous :=
  isGreatest_elim_min_iff.mp (isGreatest_of_probeBack isPrevious)

section Previous

variable (supported : rule.frequency? = some frequency) {onOrBefore : Date}
include supported

/-- The previous occurrence is missing only when there is none: no gap is as long as the limit
for the rule. -/
theorem not_exists_of_previousOccurrence
    (notFound : ProbeLimit.automatic.previousOccurrence (some rule) start onOrBefore endDate =
      .ok none) :
    ¬ ∃ day ≤ onOrBefore, rule.Occurs start endDate day := by
  rintro ⟨day, upTo, occurs⟩
  unfold ProbeLimit.previousOccurrence at notFound
  have notBehind := (bounds_of_isOccurrence occurs).2
  have reach := dayNumber_add_le_of_probeBack notFound
    ((le_elim_min_iff day).mpr ⟨upTo, notBehind⟩) occurs
  have started := (bounds_of_isOccurrence occurs).1
  generalize isClosing : endDate.elim onOrBefore (min onOrBefore) = closing at notFound reach
  have inside := closing.inCalendar
  have positive := ProbeLimit.automatic.forRule_pos (some rule) false none
  obtain ⟨opening, isOpening⟩ : ∃ opening : Date, opening.dayNumber =
      closing.dayNumber + 1 - ProbeLimit.automatic.forRule (some rule) false none :=
    Date.exists_dayNumber_eq (by omega)
  have openingStarted : start ≤ opening := by
    rw [Date.le_iff] at started ⊢
    omega
  obtain ⟨missed, notBefore, before, missedOccurs⟩ :=
    exists_isOccurrence_of_forRule supported openingStarted (by omega)
  rw [Date.le_iff] at notBefore
  have missedUpTo : missed ≤ closing := by
    rw [Date.le_iff]
    omega
  have missedInside : ∀ last ∈ endDate, missed ≤ last :=
    ((le_elim_min_iff missed).mp (isClosing.symm ▸ missedUpTo)).2
  have missedReach := dayNumber_add_le_of_probeBack notFound missedUpTo
    (isOccurrence_of_le_endDate supported missedOccurs missedInside)
  omega

/-- The previous occurrence is found when there is one. -/
theorem exists_previousOccurrence_eq_some
    (someBefore : ∃ day ≤ onOrBefore, rule.Occurs start endDate day) :
    ∃ previous,
      ProbeLimit.automatic.previousOccurrence (some rule) start onOrBefore endDate =
        .ok (some previous) := by
  have answers := answersUnless_previousOccurrence start
    (forall_mem_some_supported supported) onOrBefore endDate
  obtain ⟨found, isFound⟩ := answers.answers fun leaves =>
    have ⟨day, upTo, occurs⟩ := someBefore
    leaves.2.2 day upTo occurs
  cases found with
  | none => exact absurd someBefore (not_exists_of_previousOccurrence supported isFound)
  | some previous => exact ⟨previous, isFound⟩

/-- There is no previous occurrence when there is none and the schedule does not start on the
first day of the calendar. -/
theorem previousOccurrence_eq_none
    (later : Date.first < start)
    (noneBefore : ¬ ∃ day ≤ onOrBefore, rule.Occurs start endDate day) :
    ProbeLimit.automatic.previousOccurrence (some rule) start onOrBefore endDate =
      .ok none := by
  have answers := answersUnless_previousOccurrence start
    (forall_mem_some_supported supported) onOrBefore endDate
  obtain ⟨found, isFound⟩ := answers.answers fun leaves =>
    Nat.lt_irrefl _ (leaves.2.1 ▸ later : Date.first < Date.first)
  cases found with
  | none => exact isFound
  | some previous =>
      have member := (isGreatest_of_previousOccurrence isFound).1
      exact absurd ⟨previous, member⟩ noneBefore

/-- The search backwards gives the same from two days that no occurrence lies between. -/
theorem previousOccurrence_congr
    {first second : Date}
    (same : ∀ day, rule.Occurs start endDate day → (day ≤ first ↔ day ≤ second)) :
    ProbeLimit.automatic.previousOccurrence (some rule) start first endDate =
      ProbeLimit.automatic.previousOccurrence (some rule) start second endDate := by
  have sameDays : {day | day ≤ first ∧ rule.Occurs start endDate day} =
      {day | day ≤ second ∧ rule.Occurs start endDate day} :=
    Set.ext fun day => and_congr_left (same day)
  by_cases someBefore : ∃ day ≤ first, rule.Occurs start endDate day
  · obtain ⟨found, isFound⟩ := exists_previousOccurrence_eq_some supported someBefore
    obtain ⟨day, upTo, occurs⟩ := someBefore
    obtain ⟨other, isOther⟩ := exists_previousOccurrence_eq_some supported
      ⟨day, (same day occurs).mp upTo, occurs⟩
    have isLast := isGreatest_of_previousOccurrence isFound
    rw [sameDays] at isLast
    rw [isFound, isOther, eq_of_isGreatest isLast (isGreatest_of_previousOccurrence isOther)]
  · have noneBefore : ¬ ∃ day ≤ second, rule.Occurs start endDate day := by
      rintro ⟨day, upTo, occurs⟩
      exact someBefore ⟨day, (same day occurs).mpr upTo, occurs⟩
    by_cases isFirst : start = Date.first
    · have fails {onOrBefore : Date}
          (noneBefore : ¬ ∃ day ≤ onOrBefore, rule.Occurs start endDate day) :=
        (answersUnless_previousOccurrence start (forall_mem_some_supported supported)
          onOrBefore endDate).fails ⟨Option.some_ne_none rule, isFirst,
            fun day upTo occurs => noneBefore ⟨day, upTo, occurs⟩⟩
      rw [fails someBefore, fails noneBefore]
    · have later : Date.first < start :=
        Nat.lt_of_le_of_ne start.first_le fun same => isFirst (Date.ext same.symm)
      rw [previousOccurrence_eq_none supported later someBefore,
        previousOccurrence_eq_none supported later noneBefore]

end Previous

/-! ## Both ways -/

section Both

variable
  (supported : rule.frequency? = some frequency)
  {day next : Date}
  (inside : day < Date.last)
  (isNext : ProbeLimit.automatic.nextOccurrence (some rule) start day false endDate =
    .ok (some next))
include supported inside isNext

/-- An occurrence before the next one is not behind the day. -/
theorem le_of_lt_nextOccurrence
    {date : Date}
    (occurs : rule.Occurs start endDate date)
    (before : date < next) : date ≤ day := by
  have isLeast := (isLeast_of_nextOccurrence supported (fun _ => inside) isNext).2
  apply Nat.le_of_not_lt
  intro later
  have notBefore : next ≤ date := isLeast ⟨later, occurs⟩
  exact Nat.not_lt_of_le notBefore before

/-- Looking back from the day before the next occurrence finds the previous one again. -/
theorem exists_previousOccurrence_eq_of_nextOccurrence :
    ∃ before, next.previous? = some before ∧
      ProbeLimit.automatic.previousOccurrence (some rule) start before endDate =
        ProbeLimit.automatic.previousOccurrence (some rule) start day endDate := by
  have behind : day < next :=
    (isLeast_of_nextOccurrence supported (fun _ => inside) isNext).1.1
  obtain ⟨before, isBefore, number⟩ := exists_previous?_eq_some behind
  rw [Date.lt_iff, number] at behind
  refine ⟨before, isBefore, previousOccurrence_congr supported ?_⟩
  intro date occurs
  constructor
  · intro notAfter
    apply le_of_lt_nextOccurrence supported inside isNext occurs
    rw [Date.le_iff] at notAfter
    rw [Date.lt_iff, number]
    exact Nat.lt_succ_of_le notAfter
  · intro upTo
    exact Nat.le_trans upTo (Nat.le_of_lt_succ behind)

end Both

/-- The searches find the occurrences next to a day, with a limit chosen for the rule.  The
search for the next occurrences gives the first ones from a day on, as many as are asked for; when
there are fewer and the schedule ends before the calendar does, it gives them all.  The next
occurrence is the least one behind a day, or on it when that is asked for; the previous one is the
greatest one up to a day.  When there is none, the next one is missing from a schedule that ends
before the calendar does, and the previous one from a schedule that starts after the first day.
No occurrence lies between the two, and the day before the next one has the same previous one. -/
theorem searches_find_neighbours
    (rule : Rule)
    {frequency : Frequency}
    (supported : rule.frequency? = some frequency)
    (start : Date)
    (endDate : Option Date) :
    (∀ fromDate : Date, ∃ dates : List Date,
      dates.Pairwise (· < ·) ∧
      (∀ date, date ∈ dates ↔ fromDate ≤ date ∧ rule.Occurs start endDate date) ∧
      (∀ count ≤ dates.length,
        ProbeLimit.automatic.nextOccurrences (some rule) start fromDate count endDate =
          .ok (dates.take count)) ∧
      ((∃ last ∈ endDate, last < Date.last) → ∀ count, dates.length < count →
        ProbeLimit.automatic.nextOccurrences (some rule) start fromDate count endDate =
          .ok dates)) ∧
    (∀ (after : Date) (inclusive : Bool), after < Date.last →
      let next :=
        ProbeLimit.automatic.nextOccurrence (some rule) start after inclusive endDate
      let later := {date | ComesAfter after inclusive date ∧ rule.Occurs start endDate date}
      (later.Nonempty → ∃ date, next = .ok (some date) ∧ IsLeast later date) ∧
        ((∃ last ∈ endDate, last < Date.last) → ¬ later.Nonempty → next = .ok none)) ∧
    (∀ onOrBefore : Date,
      let previous :=
        ProbeLimit.automatic.previousOccurrence (some rule) start onOrBefore endDate
      let earlier := {date | date ≤ onOrBefore ∧ rule.Occurs start endDate date}
      (earlier.Nonempty → ∃ date, previous = .ok (some date) ∧ IsGreatest earlier date) ∧
        (Date.first < start → ¬ earlier.Nonempty → previous = .ok none)) ∧
    ∀ day next : Date, day < Date.last →
      ProbeLimit.automatic.nextOccurrence (some rule) start day false endDate =
        .ok (some next) →
      (∀ previous,
        ProbeLimit.automatic.previousOccurrence (some rule) start day endDate =
          .ok (some previous) →
        ∀ date, rule.Occurs start endDate date → ¬ (previous < date ∧ date < next)) ∧
      ∃ before, next.previous? = some before ∧
        ProbeLimit.automatic.previousOccurrence (some rule) start before endDate =
          ProbeLimit.automatic.previousOccurrence (some rule) start day endDate := by
  refine ⟨?_, ?_, ?_, ?_⟩
  · intro fromDate
    obtain ⟨dates, ascending, members, finds, _⟩ :=
      exists_nextOccurrences_eq supported endDate fromDate
    refine ⟨dates, ascending, members, fun count enough => finds count (Or.inl enough), ?_⟩
    intro ends count fewer
    rw [finds count (Or.inr ends), List.take_of_length_le (Nat.le_of_lt fewer)]
  · intro after inclusive inside next later
    constructor
    · intro someAfter
      obtain ⟨date, isNext⟩ := exists_nextOccurrence_eq_some supported (fun _ => inside) someAfter
      exact ⟨date, isNext, isLeast_of_nextOccurrence supported (fun _ => inside) isNext⟩
    · exact nextOccurrence_eq_none supported (fun _ => inside)
  · intro onOrBefore previous earlier
    constructor
    · intro someBefore
      obtain ⟨date, isPrevious⟩ := exists_previousOccurrence_eq_some supported someBefore
      exact ⟨date, isPrevious, isGreatest_of_previousOccurrence isPrevious⟩
    · exact previousOccurrence_eq_none supported
  · intro day next inside isNext
    constructor
    · rintro previous isPrevious date occurs ⟨later, before⟩
      have isGreatest := isGreatest_of_previousOccurrence isPrevious
      have upTo := le_of_lt_nextOccurrence supported inside isNext occurs before
      have notAfter : date ≤ previous := isGreatest.2 ⟨upTo, occurs⟩
      exact Nat.not_lt_of_le notAfter later
    · exact exists_previousOccurrence_eq_of_nextOccurrence supported inside isNext

/-- The last days of the months from 10 January to 15 December 2024.  The occurrence behind
29 February is no later than 31 March, and 29 February is the previous one from the day before. -/
theorem searches_find_neighbours_monthEnds :
    let rule : Rule := ⟨1, .monthly (some .last), Nat.one_pos⟩
    let start : Date := ⟨738894, by decide⟩
    let closing : Date := ⟨739234, by decide⟩
    let february : Date := ⟨738944, by decide⟩
    let march : Date := ⟨738975, by decide⟩
    rule.frequency? = some .monthly ∧
      rule.Occurs start closing february ∧ rule.Occurs start closing march ∧
      february < march ∧ february < Date.last ∧
      (∃ dates : List Date, february ∈ dates ∧ 1 ≤ dates.length ∧
        ProbeLimit.automatic.nextOccurrences (some rule) start february 1 closing =
          .ok (dates.take 1)) ∧
      ∃ next before,
        ProbeLimit.automatic.nextOccurrence (some rule) start february false closing =
          .ok (some next) ∧
        next ≤ march ∧
        next.previous? = some before ∧
        ProbeLimit.automatic.previousOccurrence (some rule) start before closing =
          .ok (some february) := by
  intro rule start closing february march
  have onFebruary : rule.Occurs start closing february := by
    unfold Rule.Occurs
    decide +kernel
  have onMarch : rule.Occurs start closing march := by
    unfold Rule.Occurs
    decide +kernel
  have ordered : february < march := by decide
  have inside : february < Date.last := by decide
  obtain ⟨searches, nextOne, previousOne, neighbours⟩ :=
    searches_find_neighbours rule rfl start closing
  obtain ⟨dates, _, members, finds, _⟩ := searches february
  have listed : february ∈ dates := (members february).mpr ⟨Nat.le_refl _, onFebruary⟩
  have enough : 1 ≤ dates.length := List.length_pos_of_mem listed
  obtain ⟨next, isNext, _, isLeast⟩ := (nextOne february false inside).1 ⟨march, ordered, onMarch⟩
  obtain ⟨previous, isPrevious, isGreatest⟩ :=
    (previousOne february).1 ⟨february, Nat.le_refl _, onFebruary⟩
  obtain ⟨_, before, isBefore, sameAnswer⟩ := neighbours february next inside isNext
  have isFebruary : previous = february := Date.ext (Nat.le_antisymm isGreatest.1.1
    (isGreatest.2 ⟨Nat.le_refl _, onFebruary⟩))
  rw [isPrevious, isFebruary] at sameAnswer
  exact ⟨rfl, onFebruary, onMarch, ordered, inside, ⟨dates, listed, enough, finds 1 enough⟩,
    next, before, isNext, isLeast ⟨ordered, onMarch⟩, isBefore, sameAnswer⟩

end Recurrence
end Cadence
