import Cadence.Proofs.Recurrence.Stopping

/-!
# Readers of a sequence

Any number of readers take dates from one sequence in turns, a few at a time.  How many dates a
reader has been asked for decides where it stands in the one iteration that never pauses, and
with that what it gives next.
-/

namespace Cadence
namespace Recurrence

open Calendar

namespace Sequence

/-! ## An iteration that never pauses -/

/-- All dates from a day on in one loop, which counts a date right after it has given it. -/
def iterateFrom (sequence : Sequence) (found misses : Nat) (date : Date) : List Date × Ending :=
  if sequence.isBehind date then
    ([], .complete)
  else
    match isOccurrence sequence.rule sequence.start sequence.limits date with
    | .error unsupported => ([], .interrupted (.unsupported unsupported))
    | .ok true =>
      if sequence.count.any fun count => decide (count ≤ found + 1) then
        ([date], .complete)
      else
        match isNext : date.next? with
        | none => ([date], .interrupted .outOfCalendar)
        | some following =>
          let rest := sequence.iterateFrom (found + 1) 0 following
          (date :: rest.1, rest.2)
    | .ok false =>
      if sequence.probeLimit ≤ misses + 1 then
        ([], .interrupted (sequence.exhaustion (misses + 1) found date))
      else
        match isNext : date.next? with
        | none => ([], .interrupted .outOfCalendar)
        | some following => sequence.iterateFrom found (misses + 1) following
termination_by date.daysLeft
decreasing_by
  · exact Date.daysLeft_next? isNext
  · exact Date.daysLeft_next? isNext

/-- All dates of a sequence, iterated without a pause, and how the iteration ends. -/
def iterate (sequence : Sequence) : List Date × Ending :=
  if sequence.count = some 0 then
    ([], .complete)
  else
    match sequence.rule with
    | none =>
      if sequence.firstProbe ≤ sequence.start && !sequence.isBehind sequence.start then
        ([sequence.start], .complete)
      else
        ([], .complete)
    | some _ => sequence.iterateFrom 0 0 sequence.firstProbe

variable {sequence : Sequence}

/-- A reader that is paused at a date that is not the last of enough goes on behind it. -/
theorem continueAfter_of_notEnough
    {found : Nat}
    {date : Date}
    (repeats : sequence.rule.isNone = false)
    (notEnough : ¬ sequence.count.any (fun count => decide (count ≤ found)) = true) :
    sequence.continueAfter found date =
      date.next?.elim (.stopped (.interrupted .outOfCalendar)) (sequence.probe found 0) := by
  rw [continueAfter, if_neg (ne_true_of_eq_false repeats), if_neg notEnough]
  cases date.next? <;> rfl

theorem resume_probe_of_occurs
    {found misses : Nat}
    {date : Date}
    (notBehind : ¬ sequence.isBehind date = true)
    (occurs : isOccurrence sequence.rule sequence.start sequence.limits date = .ok true) :
    sequence.resume found (sequence.probe found misses date) =
      (date :: (sequence.restAfter (found + 1) date).1,
        (sequence.restAfter (found + 1) date).2) := by
  rw [probe_of_not_isBehind ((Bool.not_eq_true _).mp notBehind), occurs]
  rfl

/-- Probing a day in vain ends the sequence, or leads to the day behind it. -/
theorem probe_of_occursNot
    {date : Date}
    (notBehind : ¬ sequence.isBehind date = true)
    (occursNot : isOccurrence sequence.rule sequence.start sequence.limits date = .ok false)
    (found misses : Nat) :
    sequence.probe found misses date =
      if sequence.probeLimit ≤ misses + 1 then
        .stopped (.interrupted (sequence.exhaustion (misses + 1) found date))
      else
        date.next?.elim (.stopped (.interrupted .outOfCalendar))
          (sequence.probe found (misses + 1)) := by
  rw [probe_of_not_isBehind ((Bool.not_eq_true _).mp notBehind), occursNot]
  cases date.next? <;> rfl

/-- A loop that pauses at each date and goes on later gives what one gives that never pauses. -/
theorem iterateFrom_eq_resume
    (repeats : sequence.rule.isNone = false)
    (found misses : Nat)
    (date : Date) :
    sequence.iterateFrom found misses date =
      sequence.resume found (sequence.probe found misses date) := by
  fun_induction iterateFrom sequence found misses date with
  | case1 found misses date behind =>
      rw [probe, if_pos behind]
      rfl
  | case2 found misses date notBehind unsupported fails =>
      rw [probe_of_not_isBehind ((Bool.not_eq_true _).mp notBehind), fails]
      rfl
  | case3 found misses date notBehind occurs enough =>
      rw [resume_probe_of_occurs notBehind occurs, restAfter_eq_resume, continueAfter,
        if_neg (ne_true_of_eq_false repeats), if_pos enough]
      rfl
  | case4 found misses date notBehind occurs notEnough isLast =>
      rw [resume_probe_of_occurs notBehind occurs, restAfter_eq_resume,
        continueAfter_of_notEnough repeats notEnough, isLast]
      rfl
  | case5 found misses date notBehind occurs notEnough following isNext rest hypothesis =>
      rw [resume_probe_of_occurs notBehind occurs, restAfter_eq_resume,
        continueAfter_of_notEnough repeats notEnough, isNext, Option.elim_some]
      dsimp only [rest]
      rw [hypothesis]
  | case6 found misses date notBehind occursNot exhausted =>
      rw [probe_of_occursNot notBehind occursNot, if_pos exhausted]
      rfl
  | case7 found misses date notBehind occursNot notExhausted isLast =>
      rw [probe_of_occursNot notBehind occursNot, if_neg notExhausted, isLast]
      rfl
  | case8 found misses date notBehind occursNot notExhausted following isNext hypothesis =>
      rw [hypothesis, probe_of_occursNot notBehind occursNot, if_neg notExhausted, isNext,
        Option.elim_some]

theorem iterate_eq_run (sequence : Sequence) : sequence.iterate = sequence.run := by
  rw [run_eq_resume]
  unfold iterate begin
  split
  · rfl
  · cases rule : sequence.rule with
    | some repeated =>
        apply iterateFrom_eq_resume
        rw [rule]
        rfl
    | none =>
        have single : sequence.restAfter 1 sequence.start = ([], .complete) := by
          rw [restAfter_eq_resume, continueAfter, rule]
          rfl
        dsimp only
        split
        · rw [resume, single]
        · rfl

/-! ## Where a reader stands -/

theorem resume_eq_nil_iff {found : Nat} {step : Step} {ending : Ending} :
    sequence.resume found step = ([], ending) ↔ step = .stopped ending := by
  cases step <;> simp [resume]

theorem resume_eq_cons_iff
    {found : Nat}
    {step : Step}
    {date : Date}
    {dates : List Date}
    {ending : Ending} :
    sequence.resume found step = (date :: dates, ending) ↔
      step = .found date ∧ sequence.restAfter (found + 1) date = (dates, ending) := by
  cases step with
  | stopped other => simp [resume]
  | found other =>
      constructor
      · intro resumes
        obtain ⟨sameDates, rfl⟩ := Prod.mk.inj resumes
        obtain ⟨rfl, rfl⟩ := List.cons.inj sameDates
        exact ⟨rfl, rfl⟩
      · rintro ⟨⟨⟩, rest⟩
        rw [resume, rest]

/-- Behind a date of a run comes the rest of the run. -/
theorem restAfter_of_getElem?
    {index : Nat}
    {date : Date}
    (given : sequence.run.1[index]? = some date) :
    sequence.restAfter (index + 1) date = (sequence.run.1.drop (index + 1), sequence.run.2) := by
  induction index generalizing date with
  | zero =>
      have isCons : sequence.run.1 = date :: sequence.run.1.drop 1 := by
        rw [← List.head?_eq_getElem?] at given
        exact (List.cons_head?_tail given).symm.trans (by rw [List.drop_one])
      have resumes : sequence.resume 0 sequence.begin =
          (date :: sequence.run.1.drop 1, sequence.run.2) := by
        rw [← isCons, ← run_eq_resume]
      exact (resume_eq_cons_iff.mp resumes).2
  | succ index hypothesis =>
      obtain ⟨inside, isDate⟩ := List.getElem?_eq_some_iff.mp given
      have resumes := hypothesis (List.getElem?_eq_getElem (Nat.lt_of_succ_lt inside))
      rw [restAfter_eq_resume, List.drop_eq_getElem_cons inside, isDate] at resumes
      exact (resume_eq_cons_iff.mp resumes).2

/-- The cursor of a reader that has been asked for so many dates of a run. -/
def cursorAt (whole : List Date × Ending) : Nat → Cursor
  | 0 => .fresh
  | asked + 1 =>
    match whole.1[asked]? with
    | some date => .paused (asked + 1) date
    | none => .closed

/-- A reader that has not been asked for more dates than there are goes on with the rest. -/
theorem resume_stepFrom_cursorAt
    {asked : Nat}
    (inside : asked ≤ sequence.run.1.length) :
    sequence.resume asked (sequence.stepFrom (cursorAt sequence.run asked)) =
      (sequence.run.1.drop asked, sequence.run.2) := by
  cases asked with
  | zero => exact (run_eq_resume sequence).symm
  | succ asked =>
      have given := List.getElem?_eq_getElem inside
      rw [cursorAt, given]
      exact (restAfter_eq_resume ..).symm.trans (restAfter_of_getElem? given)

theorem cursorAt_of_lt
    {whole : List Date × Ending}
    {asked : Nat}
    (beyond : whole.1.length < asked) : cursorAt whole asked = .closed := by
  cases asked with
  | zero => cases beyond
  | succ asked => rw [cursorAt, List.getElem?_eq_none (Nat.le_of_lt_succ beyond)]

theorem advance_cursorAt
    {whole : List Date × Ending}
    {asked : Nat}
    (inside : asked < whole.1.length) :
    advance (cursorAt whole asked) whole.1[asked] = cursorAt whole (asked + 1) := by
  have next : cursorAt whole (asked + 1) = .paused (asked + 1) whole.1[asked] := by
    rw [cursorAt, List.getElem?_eq_getElem inside]
  rw [next]
  cases asked with
  | zero => rfl
  | succ asked =>
      rw [cursorAt, List.getElem?_eq_getElem (Nat.lt_of_succ_lt inside)]
      rfl

end Sequence

/-- What interrupts a sequence that ends in this way. -/
def Ending.interruption? : Ending → Option Interruption
  | complete => none
  | interrupted interruption => some interruption

namespace Sequence

/-- The interruption that a reader meets on the way to `count` more dates: the one that ends the
iteration, unless it has met it before or is not led as far. -/
def interruptionWithin (whole : List Date × Ending) (asked count : Nat) : Option Interruption :=
  if asked ≤ whole.1.length ∧ whole.1.length < asked + count then
    whole.2.interruption?
  else
    none

variable {sequence : Sequence}

/-- A reader continues a run where it stands. -/
theorem take_cursorAt (asked count : Nat) :
    sequence.take (cursorAt sequence.run asked) count =
      ((sequence.run.1.drop asked).take count, interruptionWithin sequence.run asked count,
        cursorAt sequence.run (asked + count)) := by
  induction count generalizing asked with
  | zero =>
      have notWithin : interruptionWithin sequence.run asked 0 = none :=
        if_neg fun within => absurd within.2 (Nat.not_lt.mpr within.1)
      rw [take_zero, notWithin, List.take_zero, Nat.add_zero]
  | succ count hypothesis =>
      rcases Nat.lt_trichotomy asked sequence.run.1.length with inside | atEnd | beyond
      · have resumes := resume_stepFrom_cursorAt (Nat.le_of_lt inside)
        rw [List.drop_eq_getElem_cons inside] at resumes
        have sameInterruption : interruptionWithin sequence.run asked (count + 1) =
            interruptionWithin sequence.run (asked + 1) count := by
          unfold interruptionWithin
          congr 1
          rw [eq_iff_iff]
          omega
        rw [take, (resume_eq_cons_iff.mp resumes).1]
        dsimp only
        rw [advance_cursorAt inside, hypothesis, List.drop_eq_getElem_cons inside,
          List.take_succ_cons, sameInterruption, Nat.add_right_comm, Nat.add_assoc]
      · have resumes := resume_stepFrom_cursorAt (Nat.le_of_eq atEnd)
        have within : interruptionWithin sequence.run asked (count + 1) =
            sequence.run.2.interruption? :=
          if_pos ⟨Nat.le_of_eq atEnd, by omega⟩
        have closed : cursorAt sequence.run (asked + (count + 1)) = .closed :=
          cursorAt_of_lt (by omega)
        have nothing : sequence.run.1.drop asked = [] :=
          List.drop_of_length_le (Nat.le_of_eq atEnd.symm)
        rw [nothing] at resumes
        rw [take, resume_eq_nil_iff.mp resumes, within, closed, nothing]
        cases sequence.run.2 <;> rfl
      · have notWithin : interruptionWithin sequence.run asked (count + 1) = none :=
          if_neg fun within => absurd within.1 (Nat.not_le.mpr beyond)
        rw [cursorAt_of_lt beyond, take_closed, notWithin,
          List.drop_of_length_le (Nat.le_of_lt beyond), List.take_nil,
          cursorAt_of_lt (Nat.lt_add_right _ beyond)]

/-! ## Requests in turns -/

/-- What can be asked of a sequence.  Its readers are numbered as they are opened. -/
inductive Request where
  | openReader
  /-- Up to `count` more dates for a reader. -/
  | take (reader count : Nat)
  | first
  | all

/-- What is answered. -/
inductive Answer where
  | opened (reader : Nat)
  | taken (dates : List Date) (interruption : Option Interruption)
  /-- No reader with this number has been opened. -/
  | noReader
  | first (date : Except Interruption (Option Date))
  | all (dates : Except Interruption (List Date))

/-- The answer to one request, and the readers behind it. -/
def answer (sequence : Sequence) (readers : List Cursor) : Request → Answer × List Cursor
  | .openReader => (.opened readers.length, readers ++ [.fresh])
  | .take reader count =>
    match readers[reader]? with
    | none => (.noReader, readers)
    | some cursor =>
      let taken := sequence.take cursor count
      (.taken taken.1 taken.2.1, readers.set reader taken.2.2)
  | .first => (.first sequence.first?, readers)
  | .all => (.all sequence.toList, readers)

/-- The answers to requests one after another, and the readers behind them. -/
def serve (sequence : Sequence) (readers : List Cursor) :
    List Request → List Answer × List Cursor
  | [] => ([], readers)
  | request :: requests =>
    let answered := sequence.answer readers request
    let rest := sequence.serve answered.2 requests
    (answered.1 :: rest.1, rest.2)

/-- How many dates each reader has been asked for behind a request. -/
def askedBehind (asked : List Nat) : Request → List Nat
  | .openReader => asked ++ [0]
  | .take reader count => asked.modify reader (· + count)
  | .first => asked
  | .all => asked

/-- The answer that a whole iteration holds for a request. -/
def answerFrom (whole : List Date × Ending) (asked : List Nat) : Request → Answer
  | .openReader => .opened asked.length
  | .take reader count =>
    match asked[reader]? with
    | none => .noReader
    | some before =>
      .taken ((whole.1.drop before).take count) (interruptionWithin whole before count)
  | .first =>
    match whole with
    | (date :: _, _) => .first (.ok (some date))
    | ([], .complete) => .first (.ok none)
    | ([], .interrupted interruption) => .first (.error interruption)
  | .all =>
    match whole with
    | (dates, .complete) => .all (.ok dates)
    | (_, .interrupted interruption) => .all (.error interruption)

/-- The answers that a whole iteration holds for requests one after another. -/
def answersFrom (whole : List Date × Ending) (asked : List Nat) : List Request → List Answer
  | [] => []
  | request :: requests =>
    answerFrom whole asked request :: answersFrom whole (askedBehind asked request) requests

/-- The dates that a reader is given with an answer. -/
def datesIn (reader : Nat) : Request × Answer → List Date
  | (.take other _, .taken dates _) => if other = reader then dates else []
  | _ => []

/-- The dates that a reader is given, one answer after another. -/
def datesFor (reader : Nat) (requests : List Request) (answers : List Answer) : List Date :=
  (requests.zip answers).flatMap (datesIn reader)

theorem answerFrom_first (asked : List Nat) :
    answerFrom sequence.run asked .first = .first sequence.first? := by
  rw [run_eq_resume, first?]
  cases sequence.begin with
  | found date => rfl
  | stopped ending => cases ending <;> rfl

theorem answerFrom_all (asked : List Nat) :
    answerFrom sequence.run asked .all = .all sequence.toList := by
  unfold toList
  obtain ⟨dates, ending⟩ := sequence.run
  cases ending <;> rfl

/-- A request leaves every reader where the dates that it has been asked for lead. -/
theorem answer_map_cursorAt (asked : List Nat) (request : Request) :
    sequence.answer (asked.map (cursorAt sequence.run)) request =
      (answerFrom sequence.run asked request,
        (askedBehind asked request).map (cursorAt sequence.run)) := by
  cases request with
  | openReader => simp [answer, answerFrom, askedBehind, cursorAt]
  | first => rw [answer, answerFrom_first, askedBehind]
  | all => rw [answer, answerFrom_all, askedBehind]
  | take reader count =>
      rw [answer, answerFrom, askedBehind, List.getElem?_map]
      cases isAsked : asked[reader]? with
      | none =>
          have outside := List.getElem?_eq_none_iff.mp isAsked
          rw [List.modify_eq_self outside]
          rfl
      | some before =>
          dsimp only [Option.map_some]
          rw [take_cursorAt, List.modify_eq_set_getElem?, isAsked]
          simp [List.map_set]

theorem serve_map_cursorAt (asked : List Nat) (requests : List Request) :
    sequence.serve (asked.map (cursorAt sequence.run)) requests =
      (answersFrom sequence.run asked requests,
        (requests.foldl askedBehind asked).map (cursorAt sequence.run)) := by
  induction requests generalizing asked with
  | nil => rfl
  | cons request requests hypothesis =>
      rw [serve, answer_map_cursorAt, hypothesis]
      rfl

/-! ## What a reader has been given -/

/-- A request that is answered gives a reader the dates that it asks for in its name. -/
theorem take_append_datesIn
    (whole : List Date × Ending)
    (asked : List Nat)
    (reader : Nat)
    (request : Request) :
    whole.1.take (asked[reader]?.getD 0) ++
        datesIn reader (request, answerFrom whole asked request) =
      whole.1.take ((askedBehind asked request)[reader]?.getD 0) := by
  cases request with
  | openReader =>
      have sameNumber : (asked ++ [0])[reader]?.getD 0 = asked[reader]?.getD 0 := by
        rcases Nat.lt_or_ge reader asked.length with opened | notOpened
        · rw [List.getElem?_append_left opened]
        · rw [List.getElem?_append_right notOpened, List.getElem?_eq_none notOpened]
          cases reader - asked.length <;> rfl
      rw [askedBehind, sameNumber]
      exact List.append_nil _
  | first =>
      unfold answerFrom
      split <;> exact List.append_nil _
  | all =>
      unfold answerFrom
      split <;> exact List.append_nil _
  | take other count =>
      rw [answerFrom, askedBehind]
      cases isAsked : asked[other]? with
      | none =>
          rw [List.modify_eq_self (List.getElem?_eq_none_iff.mp isAsked)]
          exact List.append_nil _
      | some before =>
          dsimp only [datesIn]
          rw [List.getElem?_modify]
          by_cases same : other = reader
          · subst same
            simp only [if_true, isAsked]
            exact List.take_add.symm
          · simp [same]

theorem take_append_datesFor
    (whole : List Date × Ending)
    (asked : List Nat)
    (reader : Nat)
    (requests : List Request) :
    whole.1.take (asked[reader]?.getD 0) ++
        datesFor reader requests (answersFrom whole asked requests) =
      whole.1.take ((requests.foldl askedBehind asked)[reader]?.getD 0) := by
  induction requests generalizing asked with
  | nil => exact List.append_nil _
  | cons request requests hypothesis =>
      rw [answersFrom, datesFor, List.zip_cons_cons, List.flatMap_cons, ← List.append_assoc,
        take_append_datesIn]
      exact hypothesis _

/-- Who does not take from a reader leaves it where it is. -/
theorem getElem?_answer
    {readers : List Cursor}
    {request : Request}
    {reader : Nat}
    (opened : reader < readers.length)
    (notTaken : ∀ count, request ≠ .take reader count) :
    (sequence.answer readers request).2[reader]? = readers[reader]? := by
  cases request with
  | openReader => exact List.getElem?_append_left opened
  | first => rfl
  | all => rfl
  | take other count =>
      have different : other ≠ reader := by
        rintro rfl
        exact notTaken count rfl
      rw [answer]
      cases readers[other]? with
      | none => rfl
      | some cursor => exact List.getElem?_set_ne different

theorem length_le_length_answer (readers : List Cursor) (request : Request) :
    readers.length ≤ (sequence.answer readers request).2.length := by
  cases request with
  | openReader => exact (List.length_append ..).symm ▸ Nat.le_add_right ..
  | first => exact Nat.le_refl _
  | all => exact Nat.le_refl _
  | take other count =>
      rw [answer]
      cases readers[other]? with
      | none => exact Nat.le_refl _
      | some cursor => exact Nat.le_of_eq (List.length_set ..).symm

theorem getElem?_serve
    {readers : List Cursor}
    {requests : List Request}
    {reader : Nat}
    (opened : reader < readers.length)
    (notTaken : ∀ count, .take reader count ∉ requests) :
    (sequence.serve readers requests).2[reader]? = readers[reader]? := by
  induction requests generalizing readers with
  | nil => rfl
  | cons request requests hypothesis =>
      have notFirst (count : Nat) : request ≠ .take reader count := by
        rintro rfl
        exact notTaken count List.mem_cons_self
      have notLater (count : Nat) : .take reader count ∉ requests :=
        fun member => notTaken count (List.mem_cons_of_mem _ member)
      have stillOpened : reader < (sequence.answer readers request).2.length :=
        Nat.lt_of_lt_of_le opened (length_le_length_answer readers request)
      exact (hypothesis stillOpened notLater).trans (getElem?_answer opened notFirst)

/-- However readers take turns, they are given what one iteration that never pauses gives: each
continues where it stands, has the first of the dates so far, and is interrupted where the
iteration is.  What is asked of one reader, or of the sequence, changes no other reader. -/
theorem readers_continue_one_iteration (sequence : Sequence) :
    (∀ requests,
      (sequence.serve [] requests).1 = answersFrom sequence.iterate [] requests) ∧
    (∀ requests reader,
      datesFor reader requests (sequence.serve [] requests).1 =
        sequence.iterate.1.take ((requests.foldl askedBehind [])[reader]?.getD 0)) ∧
    (∀ readers requests reader, reader < readers.length →
      (∀ count, .take reader count ∉ requests) →
      (sequence.serve readers requests).2[reader]? = readers[reader]?) := by
  have served (requests : List Request) :
      (sequence.serve [] requests).1 = answersFrom sequence.iterate [] requests := by
    rw [iterate_eq_run]
    exact congrArg Prod.fst (serve_map_cursorAt [] requests)
  refine ⟨served, ?_, ?_⟩
  · intro requests reader
    rw [served]
    exact take_append_datesFor sequence.iterate [] reader requests
  · intro readers requests reader opened notTaken
    exact getElem?_serve opened notTaken

/-- A weekly rule that gives up after three days in vain: its second reader meets the interruption
at once, the first one when it goes on, and only once. -/
theorem readers_continue_one_iteration_mondays :
    let monday : Date := ⟨738892, by decide⟩
    let thursday : Date := ⟨738895, by decide⟩
    let mondays : Sequence :=
      ⟨some ⟨1, .weekly (some .monday), by decide⟩, monday, monday, none, none, {}, 3⟩
    let requests : List Request := [
      .openReader, .take 0 1, .openReader, .take 1 2, .first, .all, .take 0 1, .take 0 1]
    (mondays.serve [] requests).1 = [
      .opened 0,
      .taken [monday] none,
      .opened 1,
      .taken [monday] (some (.exhausted 3 1 thursday)),
      .first (.ok (some monday)),
      .all (.error (.exhausted 3 1 thursday)),
      .taken [] (some (.exhausted 3 1 thursday)),
      .taken [] none] ∧
    datesFor 0 requests (mondays.serve [] requests).1 = [monday] ∧
    (mondays.serve [.paused 1 monday] [.openReader, .take 1 2]).2[0]? =
      some (.paused 1 monday) := by
  intro monday thursday mondays requests
  obtain ⟨answers, dates, unmoved⟩ := readers_continue_one_iteration mondays
  have whole : mondays.iterate = ([monday], .interrupted (.exhausted 3 1 thursday)) := by
    decide +kernel
  refine ⟨?_, ?_, unmoved _ _ 0 (by decide) (by simp)⟩
  · rw [answers, whole]
    rfl
  · rw [dates, whole]
    rfl

end Sequence
end Recurrence
end Cadence
