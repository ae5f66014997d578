import Cadence.Proofs.Payment.Journal
import Mathlib.Data.List.Forall2

/-!
# Dues looked up for every instruction

A batch looks dues up only when they decide on something today.  An eager batch looks them up for
every instruction that needs any.  Where a look-up always answers and leaves nothing behind that
another look-up or a transfer could notice, both ask for the same transfers, and their results
differ only in the amounts of instructions that are not due and in the readings of the clock.

The two batches are compared one computation after another: in states that are alike they come to
answers that are related, and they leave states that are alike.
-/

namespace Cadence
namespace Payment

open Calendar Number Scheduling

/-! ## Computations in states that are alike -/

section Agreement

variable {State First Second FirstNext SecondNext : Type}
variable {alike : State → State → Prop} {related : First → Second → Prop}

/-- In states that are alike two computations come to related answers, and they leave states that
are alike. -/
def Agree
    (alike : State → State → Prop)
    (related : First → Second → Prop)
    (first : StateM State First)
    (second : StateM State Second) : Prop :=
  ∀ left right, alike left right →
    related (first.run left).1 (second.run right).1 ∧
      alike (first.run left).2 (second.run right).2

namespace Agree

theorem pure
    {answer : First}
    {other : Second}
    (isRelated : related answer other) :
    Agree alike related (Pure.pure answer) (Pure.pure other) :=
  fun _ _ areAlike => ⟨isRelated, areAlike⟩

theorem bind
    {first : StateM State First}
    {second : StateM State Second}
    {firstNext : First → StateM State FirstNext}
    {secondNext : Second → StateM State SecondNext}
    {relatedNext : FirstNext → SecondNext → Prop}
    (agree : Agree alike related first second)
    (agreeNext : ∀ answer other, related answer other →
      Agree alike relatedNext (firstNext answer) (secondNext other)) :
    Agree alike relatedNext (first >>= firstNext) (second >>= secondNext) := by
  intro left right areAlike
  obtain ⟨isRelated, stillAlike⟩ := agree left right areAlike
  rw [StateT.run_bind, StateT.run_bind]
  exact agreeNext _ _ isRelated _ _ stillAlike

theorem imp
    {weaker : First → Second → Prop}
    {first : StateM State First}
    {second : StateM State Second}
    (agree : Agree alike related first second)
    (weaken : ∀ answer other, related answer other → weaker answer other) :
    Agree alike weaker first second := by
  intro left right areAlike
  obtain ⟨isRelated, stillAlike⟩ := agree left right areAlike
  exact ⟨weaken _ _ isRelated, stillAlike⟩

end Agree
end Agreement

variable {State : Type}

/-- Look-ups always answer, and no look-up and no transfer can tell whether one was made: in states
that are alike they answer alike, and a look-up leaves a state that is like the one before.  The
clock may read anything. -/
structure Services.LooksUpDiscreetly
    (services : Services State)
    (alike : State → State → Prop) : Prop where
  refl : ∀ state, alike state state
  answers : ∀ lookUp ∈ services.lookUpDues, ∀ instruction state, ∃ dues,
    ((lookUp instruction).run state).1 = .ok dues
  unnoticed : ∀ lookUp ∈ services.lookUpDues, ∀ instruction left right, alike left right →
    alike left ((lookUp instruction).run right).2
  lookUp : ∀ lookUp ∈ services.lookUpDues, ∀ instruction,
    Agree alike Eq (lookUp instruction) (lookUp instruction)
  transfer : ∀ request, Agree alike Eq (services.transfer request) (services.transfer request)
  clock : Agree alike (fun _ _ => True) services.clock services.clock

/-! ## Batches that obtain dues in a given way -/

/-- What becomes of an instruction that obtains its dues in a given way. -/
def outcomeWith
    (services : Services State)
    (today : Date)
    (obtain : Instruction → StateM State (Except String (Option LoanDues)))
    (instruction : Instruction) : StateM State (Except UndefinedAmount Outcome) := do
  match ← obtain instruction with
  | .error failure => return .ok ⟨.error, none, some failure⟩
  | .ok dues => settle services today instruction dues

/-- What becomes of one instruction, recorded with the time. -/
def recordedWith
    (services : Services State)
    (outcome : Instruction → StateM State (Except UndefinedAmount Outcome))
    (instruction : Instruction) : StateM State (Except UndefinedAmount Result) := do
  match ← outcome instruction with
  | .error undefined => return .error undefined
  | .ok outcome =>
    let timestamp ← services.clock
    return .ok
      ⟨instruction.id, outcome.status, timestamp, outcome.amount, outcome.failure⟩

/-- The results of instructions in their order. -/
def allRecordedWith
    (services : Services State)
    (outcome : Instruction → StateM State (Except UndefinedAmount Outcome)) :
    List Instruction → StateM State (Except UndefinedAmount (List Result))
  | [] => return .ok []
  | instruction :: instructions => do
    match ← recordedWith services outcome instruction with
    | .error undefined => return .error undefined
    | .ok result =>
      match ← allRecordedWith services outcome instructions with
      | .error undefined => return .error undefined
      | .ok results => return .ok (result :: results)

/-- Run all instructions for a day with outcomes that are come to in a given way. -/
def runWith
    (services : Services State)
    (outcome : Instruction → StateM State (Except UndefinedAmount Outcome))
    (instructions : List Instruction)
    (today : Date) : StateM State (Except UndefinedAmount Report) := do
  match ← allRecordedWith services outcome instructions with
  | .error undefined => return .error undefined
  | .ok results => return .ok ⟨today, results⟩

/-- The dues of an instruction, looked up whenever it needs any. -/
def eagerDuesFor
    (services : Services State)
    (instruction : Instruction) : StateM State (Except String (Option LoanDues)) :=
  if instruction.needsDues then
    match services.lookUpDues with
    | none => pure (.error noLookupText)
    | some lookUp => lookUp instruction
  else
    pure (.ok none)

/-- Run all instructions for a day, each with its dues looked up before it is decided on. -/
def runEagerly
    (services : Services State)
    (instructions : List Instruction)
    (today : Date) : StateM State (Except UndefinedAmount Report) :=
  runWith services (outcomeWith services today (eagerDuesFor services)) instructions today

theorem outcomeOf_eq_outcomeWith (services : Services State) (today : Date) :
    outcomeOf services today = outcomeWith services today (duesFor services today) := by
  funext instruction
  exact outcomeOf_eq_bind services

theorem processAll_eq_allRecordedWith (services : Services State) (today : Date) :
    processAll services today = allRecordedWith services (outcomeOf services today) := by
  funext instructions
  induction instructions with
  | nil => rfl
  | cons instruction instructions hypothesis =>
      rw [processAll, allRecordedWith, hypothesis]
      rfl

/-- A batch obtains dues when they decide on something. -/
theorem runBatch_eq_runWith
    (services : Services State)
    (instructions : List Instruction)
    (today : Date) :
    runBatch services instructions today =
      runWith services (outcomeWith services today (duesFor services today)) instructions
        today := by
  rw [runBatch, processAll_eq_allRecordedWith, outcomeOf_eq_outcomeWith]
  rfl

/-! ## Outcomes and results that agree -/

/-- Two computations are undefined together, or come to values that are related. -/
inductive ComeTogether
    {First Second : Type}
    (related : First → Second → Prop) :
    Except UndefinedAmount First → Except UndefinedAmount Second → Prop where
  | undefined : ComeTogether related (.error {}) (.error {})
  | ok
    {first : First}
    {second : Second}
    (isRelated : related first second) : ComeTogether related (.ok first) (.ok second)

theorem ComeTogether.of_ok
    {First Second : Type}
    {related : First → Second → Prop}
    {first : First}
    {answer : Except UndefinedAmount Second}
    (come : ComeTogether related (.ok first) answer) :
    ∃ second, answer = .ok second ∧ related first second := by
  cases come with
  | ok isRelated => exact ⟨_, rfl, isRelated⟩

/-- The outcome of an eager batch agrees with that of a batch, which need not know the amount of
an instruction that is not due. -/
structure Outcome.AgreesWith (eager outcome : Outcome) : Prop where
  status : eager.status = outcome.status
  failure : eager.failure = outcome.failure
  amount : outcome.status ≠ .notDue → eager.amount = outcome.amount

/-- The result of an eager batch agrees with that of a batch, which need not know the amount of
an instruction that is not due.  The time does not count. -/
structure Result.AgreesWith (eager result : Result) : Prop where
  instructionId : eager.instructionId = result.instructionId
  status : eager.status = result.status
  failure : eager.failure = result.failure
  amount : result.status ≠ .notDue → eager.amount = result.amount

theorem comeTogether_of_eq
    {outcome eager : Except UndefinedAmount Outcome}
    (same : outcome = eager) :
    ComeTogether (fun outcome eager => eager.AgreesWith outcome) outcome eager := by
  subst same
  cases outcome with
  | error undefined => exact .undefined
  | ok outcome => exact .ok ⟨rfl, rfl, fun _ => rfl⟩

/-! ## One instruction -/

section One

variable {services : Services State} {today : Date} {instruction : Instruction}

/-- Dues decide on the day of an instruction only when it is due with its loan. -/
theorem isDueOn_eq_of_ne_dues
    (notByDues : instruction.recurrenceType ≠ .dues)
    (dues : Option LoanDues) :
    instruction.isDueOn today dues = instruction.isDueOn today none := by
  unfold Instruction.isDueOn
  cases byType : instruction.recurrenceType with
  | dues => exact absurd byType notByDues
  | periodic => rfl
  | oneOff => rfl
  | unknown name => rfl

theorem looksUpDues_of_needsDues
    (needsDues : instruction.needsDues = true)
    (notByDues : instruction.recurrenceType ≠ .dues) :
    instruction.looksUpDues today = instruction.isDueOn today none := by
  simp [Instruction.looksUpDues, needsDues, notByDues]

/-- Dues are looked up exactly for the instructions that need some, when these decide on the day
or the day has come. -/
theorem looksUpDues_eq_true_iff :
    instruction.looksUpDues today = .ok true ↔
      instruction.needsDues = true ∧
        (instruction.recurrenceType = .dues ∨ instruction.isDueOn today none = .ok true) := by
  unfold Instruction.looksUpDues
  cases instruction.needsDues with
  | false => simp
  | true => by_cases byDues : instruction.recurrenceType = .dues <;> simp [byDues]

theorem ne_dues_of_looksUpDues_ne
    (needsDues : instruction.needsDues = true)
    (notLookedUp : instruction.looksUpDues today ≠ .ok true) :
    instruction.recurrenceType ≠ .dues := by
  intro byDues
  exact notLookedUp (looksUpDues_eq_true_iff.mpr ⟨needsDues, Or.inl byDues⟩)

theorem settle_of_error
    {error : DueError}
    {dues : Option LoanDues}
    (fails : instruction.isDueOn today dues = .error error) :
    settle services today instruction dues =
      pure (.ok ⟨.error, none, some error.message⟩) := by
  unfold settle Instruction.evaluate
  rw [fails]

theorem settle_of_not_due
    {dues : Option LoanDues}
    (notDue : instruction.isDueOn today dues = .ok false) :
    settle services today instruction dues =
      pure (.ok ⟨.notDue, instruction.transferAmount dues, none⟩) := by
  unfold settle Instruction.evaluate
  rw [notDue]
  rfl

variable {alike : State → State → Prop} (discreet : services.LooksUpDiscreetly alike)
include discreet

theorem agree_carryOut (request : TransferRequest) :
    Agree alike Eq (carryOut services request) (carryOut services request) := by
  apply Agree.bind (discreet.transfer request)
  intro answer other same
  subst same
  cases answer <;> exact .pure rfl

theorem agree_settle (dues : Option LoanDues) :
    Agree alike Eq (settle services today instruction dues)
      (settle services today instruction dues) := by
  unfold settle
  cases instruction.evaluate today dues with
  | error error => exact .pure rfl
  | ok decision =>
      dsimp only
      split
      · exact .pure rfl
      · apply Agree.bind (agree_carryOut discreet _)
        intro outcome other same
        subst same
        exact .pure rfl
      · exact .pure rfl

/-- A look-up more in the second computation is not noticed. -/
theorem agree_after_lookUp
    {First Second : Type}
    {related : First → Second → Prop}
    {lookUp : Instruction → StateM State (Except String (Option LoanDues))}
    (isLookUp : lookUp ∈ services.lookUpDues)
    {first : StateM State First}
    {next : Except String (Option LoanDues) → StateM State Second}
    (agree : ∀ dues, Agree alike related first (next (.ok dues))) :
    Agree alike related first (lookUp instruction >>= next) := by
  intro left right areAlike
  obtain ⟨dues, answered⟩ := discreet.answers lookUp isLookUp instruction right
  have unnoticed := discreet.unnoticed lookUp isLookUp instruction left right areAlike
  have agreed := agree dues left _ unnoticed
  rw [← answered] at agreed
  exact agreed

/-- Instructions that obtain the same dues come to the same. -/
theorem agree_outcomeWith_of_agree
    {lazy eager : Instruction → StateM State (Except String (Option LoanDues))}
    (agree : Agree alike Eq (lazy instruction) (eager instruction)) :
    Agree alike (ComeTogether fun outcome eager => eager.AgreesWith outcome)
      (outcomeWith services today lazy instruction)
      (outcomeWith services today eager instruction) := by
  apply agree.bind
  intro obtained other same
  subst same
  cases obtained with
  | error failure => exact .pure (comeTogether_of_eq rfl)
  | ok dues =>
      apply (agree_settle discreet dues).imp
      intro outcome eager
      exact comeTogether_of_eq

/-- A look-up of dues that decide on nothing makes no difference but to an amount that is not
moved. -/
theorem agree_outcomeWith (instruction : Instruction) :
    Agree alike (ComeTogether fun outcome eager => eager.AgreesWith outcome)
      (outcomeWith services today (duesFor services today) instruction)
      (outcomeWith services today (eagerDuesFor services) instruction) := by
  cases needsDues : instruction.needsDues with
  | false =>
      apply agree_outcomeWith_of_agree discreet
      have notLookedUp : instruction.looksUpDues today = .ok false :=
        looksUpDues_of_not_needsDues needsDues
      unfold duesFor eagerDuesFor obtainDues
      rw [notLookedUp, needsDues]
      cases services.lookUpDues <;> exact .pure rfl
  | true =>
      cases isLookUp : services.lookUpDues with
      | none =>
          apply agree_outcomeWith_of_agree discreet
          unfold duesFor eagerDuesFor
          rw [isLookUp, needsDues]
          exact .pure rfl
      | some lookUp =>
          have eagerly : eagerDuesFor services instruction = lookUp instruction := by
            unfold eagerDuesFor
            rw [needsDues, isLookUp]
            rfl
          have lazily : duesFor services today instruction =
              obtainDues lookUp today instruction := by
            unfold duesFor
            rw [isLookUp]
          by_cases lookedUp : instruction.looksUpDues today = .ok true
          · apply agree_outcomeWith_of_agree discreet
            rw [eagerly, lazily, obtainDues, lookedUp]
            exact discreet.lookUp lookUp isLookUp instruction
          · have notByDues := ne_dues_of_looksUpDues_ne needsDues lookedUp
            have sameDay (dues : Option LoanDues) :
                instruction.isDueOn today dues = instruction.isDueOn today none :=
              isDueOn_eq_of_ne_dues notByDues dues
            rw [looksUpDues_of_needsDues needsDues notByDues] at lookedUp
            unfold outcomeWith
            rw [eagerly, lazily, obtainDues, looksUpDues_of_needsDues needsDues notByDues]
            apply agree_after_lookUp discreet isLookUp
            intro dues
            cases dueToday : instruction.isDueOn today none with
            | error error =>
                dsimp only
                rw [settle_of_error ((sameDay dues).trans dueToday)]
                exact .pure (comeTogether_of_eq rfl)
            | ok isDue =>
                cases isDue with
                | true => exact absurd dueToday lookedUp
                | false =>
                    change Agree alike _ (settle services today instruction none) _
                    dsimp only
                    rw [settle_of_not_due dueToday,
                      settle_of_not_due ((sameDay dues).trans dueToday)]
                    exact .pure (.ok ⟨rfl, rfl, absurd rfl⟩)

end One

/-! ## Batches -/

section Batches

variable {services : Services State} {alike : State → State → Prop}
variable {outcome eager : Instruction → StateM State (Except UndefinedAmount Outcome)}
variable (clock : Agree alike (fun _ _ => True) services.clock services.clock)
variable (agree : ∀ instruction,
  Agree alike (ComeTogether fun outcome eager => eager.AgreesWith outcome)
    (outcome instruction) (eager instruction))
include clock agree

theorem agree_recordedWith (instruction : Instruction) :
    Agree alike (ComeTogether fun result eager => eager.AgreesWith result)
      (recordedWith services outcome instruction) (recordedWith services eager instruction) := by
  apply (agree instruction).bind
  intro obtained other related
  cases related with
  | undefined => exact .pure .undefined
  | ok agreed =>
      apply clock.bind
      intro timestamp reading _
      exact .pure (.ok ⟨rfl, agreed.status, agreed.failure, agreed.amount⟩)

theorem agree_allRecordedWith (instructions : List Instruction) :
    Agree alike (ComeTogether (List.Forall₂ fun result eager => eager.AgreesWith result))
      (allRecordedWith services outcome instructions)
      (allRecordedWith services eager instructions) := by
  induction instructions with
  | nil => exact .pure (.ok .nil)
  | cons instruction instructions hypothesis =>
      apply (agree_recordedWith clock agree instruction).bind
      intro result other related
      cases related with
      | undefined => exact .pure .undefined
      | ok agreed =>
          apply hypothesis.bind
          intro results others relatedRest
          cases relatedRest with
          | undefined => exact .pure .undefined
          | ok agreedRest => exact .pure (.ok (.cons agreed agreedRest))

theorem agree_runWith (instructions : List Instruction) (today : Date) :
    Agree alike
      (ComeTogether fun report eager => eager.runDate = report.runDate ∧
        List.Forall₂ (fun result eager => eager.AgreesWith result) report.results eager.results)
      (runWith services outcome instructions today)
      (runWith services eager instructions today) := by
  apply (agree_allRecordedWith clock agree instructions).bind
  intro results others related
  cases related with
  | undefined => exact .pure .undefined
  | ok agreed => exact .pure (.ok ⟨rfl, agreed⟩)

end Batches

/-! ## Journals -/

/-- States that are alike, with journals that show the same transfers. -/
def JournalsAlike
    (alike : State → State → Prop)
    (first second : State × List Exchange) : Prop :=
  alike first.1 second.1 ∧ requestsOf first.2 = requestsOf second.2

theorem agree_record
    {Answer : Type}
    {alike : State → State → Prop}
    {related : Answer → Answer → Prop}
    {question : StateM State Answer}
    {exchange : Answer → Exchange}
    (agree : Agree alike related question question)
    (sameRequests : ∀ answer other, requestsOf [exchange answer] = requestsOf [exchange other]) :
    Agree (JournalsAlike alike) related (record exchange question)
      (record exchange question) := by
  intro left right areAlike
  obtain ⟨isRelated, stillAlike⟩ := agree left.1 right.1 areAlike.1
  refine ⟨isRelated, stillAlike, ?_⟩
  change requestsOf (left.2 ++ [exchange _]) = requestsOf (right.2 ++ [exchange _])
  rw [requestsOf_append, requestsOf_append, areAlike.2, sameRequests]

/-- Who only looks at the transfers of a journal does not notice a look-up in it. -/
theorem Services.LooksUpDiscreetly.recorded
    {services : Services State}
    {alike : State → State → Prop}
    (discreet : services.LooksUpDiscreetly alike) :
    services.recorded.LooksUpDiscreetly (JournalsAlike alike) where
  refl state := ⟨discreet.refl state.1, rfl⟩
  answers := by
    intro recordedLookUp isRecorded instruction state
    obtain ⟨lookUp, isLookUp, rfl⟩ := Option.map_eq_some_iff.mp isRecorded
    exact discreet.answers lookUp isLookUp instruction state.1
  unnoticed := by
    intro recordedLookUp isRecorded instruction left right areAlike
    obtain ⟨lookUp, isLookUp, rfl⟩ := Option.map_eq_some_iff.mp isRecorded
    refine ⟨discreet.unnoticed lookUp isLookUp instruction _ _ areAlike.1, ?_⟩
    change _ = requestsOf (right.2 ++ [.lookUp instruction _])
    rw [requestsOf_append, areAlike.2]
    exact (List.append_nil _).symm
  lookUp := by
    intro recordedLookUp isRecorded instruction
    obtain ⟨lookUp, isLookUp, rfl⟩ := Option.map_eq_some_iff.mp isRecorded
    exact agree_record (discreet.lookUp lookUp isLookUp instruction) fun _ _ => rfl
  transfer request := agree_record (discreet.transfer request) fun _ _ => rfl
  clock := agree_record discreet.clock fun _ _ => rfl

/-- The instructions that a journal shows look-ups for, in their order. -/
def lookUpsOf (journal : List Exchange) : List Instruction :=
  journal.filterMap fun
    | .lookUp instruction _ => some instruction
    | _ => none

@[simp] theorem lookUpsOf_append (earlier later : List Exchange) :
    lookUpsOf (earlier ++ later) = lookUpsOf earlier ++ lookUpsOf later :=
  List.filterMap_append

theorem lookUpsOf_of_settles
    {services : Services State}
    {today : Date}
    {instruction : Instruction}
    {dues : Option LoanDues}
    {outcome : Except UndefinedAmount Outcome}
    {exchanges : List Exchange}
    (settles : Settles services today instruction dues outcome exchanges) :
    lookUpsOf exchanges = [] := by
  cases settles <;> rfl

/-! ## Look-ups of a journal -/

section LookUps

variable {services : Services State} {today : Date} {instruction : Instruction}

/-- An instruction whose dues a batch looks up: it needs some, and these decide on its day or
the day has come. -/
def Instruction.IsLookedUp (today : Date) (instruction : Instruction) : Prop :=
  instruction.needsDues = true ∧
    (instruction.recurrenceType = .dues ∨ instruction.isDueOn today none = .ok true)

instance (today : Date) : DecidablePred (Instruction.IsLookedUp today) :=
  fun _ => decidable_of_iff _ looksUpDues_eq_true_iff

theorem lookUpsOf_of_obtains
    {obtained : Except String (Option LoanDues)}
    {exchanges : List Exchange}
    (configured : services.lookUpDues ≠ none)
    (obtains : Obtains services today instruction obtained exchanges) :
    lookUpsOf exchanges = [instruction].filter (Instruction.IsLookedUp today) := by
  have notLookedUp : instruction.looksUpDues today ≠ .ok true →
      [] = [instruction].filter (Instruction.IsLookedUp today) := by
    intro notLookedUp
    have isNot : ¬ instruction.IsLookedUp today := notLookedUp ∘ looksUpDues_eq_true_iff.mpr
    rw [List.filter_cons_of_neg (by simpa using isNot), List.filter_nil]
  cases obtains with
  | noLookUp missing needed => exact absurd missing configured
  | unneeded notMissing without =>
      apply notLookedUp
      rw [without]
      nofun
  | undecided fails =>
      apply notLookedUp
      rw [fails]
      nofun
  | asked isLookUp lookedUp isAnswer =>
      have isLookedUp : instruction.IsLookedUp today := looksUpDues_eq_true_iff.mp lookedUp
      rw [List.filter_cons_of_pos (by simpa using isLookedUp)]
      rfl

theorem records_eagerDuesFor (configured : services.lookUpDues ≠ none) :
    Records (eagerDuesFor services.recorded instruction) (eagerDuesFor services instruction)
      fun _ exchanges => lookUpsOf exchanges = [instruction].filter Instruction.needsDues := by
  unfold eagerDuesFor Services.recorded
  cases needsDues : instruction.needsDues with
  | false =>
      apply Records.pure
      simp [lookUpsOf, needsDues]
  | true =>
      cases isLookUp : services.lookUpDues with
      | none => exact absurd isLookUp configured
      | some lookUp =>
          refine (Records.record _ _).imp ?_
          intro answer exchanges ⟨_, isExchange⟩
          simp [isExchange, lookUpsOf, needsDues]

theorem records_outcomeWith
    {asked : List Instruction}
    {recordedDues : Instruction →
      StateM (State × List Exchange) (Except String (Option LoanDues))}
    {plainDues : Instruction → StateM State (Except String (Option LoanDues))}
    (records : Records (recordedDues instruction) (plainDues instruction) fun _ exchanges =>
      lookUpsOf exchanges = asked) :
    Records (outcomeWith services.recorded today recordedDues instruction)
      (outcomeWith services today plainDues instruction) fun _ exchanges =>
        lookUpsOf exchanges = asked := by
  refine records.bind ?_
  intro obtained exchanges areAsked
  cases obtained with
  | error failure =>
      apply Records.pure
      rw [List.append_nil, areAsked]
  | ok dues =>
      apply (records_settle dues).imp
      intro outcome others settles
      rw [lookUpsOf_append, areAsked, lookUpsOf_of_settles settles, List.append_nil]

end LookUps

section BatchLookUps

variable {services : Services State} {asks : Instruction → Bool}
variable {recordedOutcome : Instruction →
  StateM (State × List Exchange) (Except UndefinedAmount Outcome)}
variable {outcome : Instruction → StateM State (Except UndefinedAmount Outcome)}
variable (records : ∀ instruction,
  Records (recordedOutcome instruction) (outcome instruction) fun _ exchanges =>
    lookUpsOf exchanges = [instruction].filter asks)
include records

theorem records_recordedWith (instruction : Instruction) :
    Records (recordedWith services.recorded recordedOutcome instruction)
      (recordedWith services outcome instruction) fun _ exchanges =>
        lookUpsOf exchanges = [instruction].filter asks := by
  refine (records instruction).bind ?_
  intro obtained exchanges areAsked
  cases obtained with
  | error undefined =>
      apply Records.pure
      rw [List.append_nil, areAsked]
  | ok outcome =>
      refine (Records.record .clock services.clock).bind ?_
      intro timestamp others ⟨_, isReading⟩
      apply Records.pure
      rw [isReading, List.append_nil, lookUpsOf_append, areAsked]
      exact List.append_nil _

/-- A batch that comes to results looks dues up for one instruction after another. -/
theorem records_allRecordedWith (instructions : List Instruction) :
    Records (allRecordedWith services.recorded recordedOutcome instructions)
      (allRecordedWith services outcome instructions) fun results exchanges =>
        results.isOk → lookUpsOf exchanges = instructions.filter asks := by
  induction instructions with
  | nil => exact Records.pure fun _ => rfl
  | cons instruction instructions hypothesis =>
      refine (records_recordedWith records instruction).bind ?_
      intro obtained exchanges areAsked
      cases obtained with
      | error undefined => exact Records.pure nofun
      | ok result =>
          refine hypothesis.bind ?_
          intro results others areAskedRest
          cases results with
          | error undefined => exact Records.pure nofun
          | ok results =>
              apply Records.pure
              intro _
              rw [List.append_nil, lookUpsOf_append, areAsked, areAskedRest rfl,
                ← List.filter_append]
              rfl

theorem records_runWith (instructions : List Instruction) (today : Date) :
    Records (runWith services.recorded recordedOutcome instructions today)
      (runWith services outcome instructions today) fun report exchanges =>
        report.isOk → lookUpsOf exchanges = instructions.filter asks := by
  refine (records_allRecordedWith records instructions).bind ?_
  intro results exchanges areAsked
  cases results with
  | error undefined => exact Records.pure nofun
  | ok results =>
      apply Records.pure
      rw [List.append_nil]
      exact areAsked

end BatchLookUps

section Lazy

variable {services : Services State}

theorem records_lazy
    (configured : services.lookUpDues ≠ none)
    (instructions : List Instruction)
    (today : Date) :
    Records (runBatch services.recorded instructions today)
      (runBatch services instructions today) fun report exchanges =>
        report.isOk →
          lookUpsOf exchanges = instructions.filter (Instruction.IsLookedUp today) := by
  rw [runBatch_eq_runWith, runBatch_eq_runWith]
  apply records_runWith
  intro instruction
  apply records_outcomeWith
  apply records_duesFor.imp
  intro obtained exchanges
  exact lookUpsOf_of_obtains configured

theorem records_eager
    (configured : services.lookUpDues ≠ none)
    (instructions : List Instruction)
    (today : Date) :
    Records (runEagerly services.recorded instructions today)
      (runEagerly services instructions today) fun report exchanges =>
        report.isOk → lookUpsOf exchanges = instructions.filter Instruction.needsDues := by
  apply records_runWith
  intro instruction
  exact records_outcomeWith (records_eagerDuesFor configured)

/-- A batch and an eager batch come to results that agree. -/
theorem agree_runEagerly
    {alike : State → State → Prop}
    (discreet : services.LooksUpDiscreetly alike)
    (instructions : List Instruction)
    (today : Date) :
    Agree alike
      (ComeTogether fun report eager => eager.runDate = report.runDate ∧
        List.Forall₂ (fun result eager => eager.AgreesWith result) report.results eager.results)
      (runBatch services instructions today) (runEagerly services instructions today) := by
  rw [runBatch_eq_runWith]
  exact agree_runWith discreet.clock (agree_outcomeWith discreet) instructions today

end Lazy

end Payment
end Cadence
