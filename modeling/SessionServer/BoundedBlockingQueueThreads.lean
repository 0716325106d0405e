import SessionServer.BoundedBlockingQueue
import SessionServer.Chronicle
import SessionServer.ConditionVariable
import SessionServer.TransitionSystem

/-!
# The bounded blocking queue between threads

Any number of threads call the queue.  A critical section is one step; a
blocked `push` or `pop` sleeps on its condition variable between two of its
sections and re-checks its condition in each.  The notifications after a
section are steps of their own, taken when the mutex is free again.

Every section that ends its operation is recorded with what the operation
reports and the size of the queue right after it.
-/

namespace SessionServer

open TransitionSystem BoundedBlockingQueue Option List

variable {Thread α : Type*}

inductive QueueOperation (α : Type*) where
  | tryPush (value : α)
  | push (value : α)
  | pop
  | tryPop
  | close

/-- The value a push offers to the queue. -/
def QueueOperation.offered : QueueOperation α → Option α
  | .tryPush value | .push value => some value
  | _ => none

/-- What an operation returns. -/
inductive QueueReport (α : Type*) where
  | pushed (result : BoundedBlockingQueue.OperationResult)
  | popped (result : BoundedBlockingQueue.OperationResult) (out : Option α)
  | tryPopped (result : BoundedBlockingQueue.TryPopResult α)
  | closed

namespace QueueReport

def succeeded : QueueReport α → Bool
  | .pushed result => result.succeeded
  | .popped result _ => result.succeeded
  | .tryPopped result => result.value.isSome
  | .closed => true

def size : QueueReport α → Option ℕ
  | .pushed result => some result.size
  | .popped result _ => some result.size
  | .tryPopped result => some result.size
  | .closed => none

/-- The value handed to the caller. -/
def out : QueueReport α → Option α
  | .popped _ out => out
  | .tryPopped result => result.value
  | _ => none

end QueueReport

/-- One pass of an operation through the mutex; `none` when it has to wait. -/
def BoundedBlockingQueue.attempt (queue : BoundedBlockingQueue α) :
    QueueOperation α → Option (QueueReport α × BoundedBlockingQueue α)
  | .tryPush value =>
    let (result, after) := queue.tryPush value
    some (.pushed result, after)
  | .push value => do
      let (result, after) ← queue.push value
      some (.pushed result, after)
  | .pop => do
      let (result, out, after) ← queue.pop
      some (.popped result out, after)
  | .tryPop =>
    let (result, after) := queue.tryPop
    some (.tryPopped result, after)
  | .close => some (.closed, queue.close)

/-- Where a thread is in its operation. -/
inductive QueueStage (α : Type*) where
  | idle
  /-- In front of the mutex, or asleep between two sections. -/
  | entering (operation : QueueOperation α)
  /-- Behind its last section, in front of the `notify_one`. -/
  | notifyingNotEmpty
  | notifyingNotFull
  /-- In `close`, in front of its first and of its second `notify_all`. -/
  | closingNotEmpty
  | closingNotFull

structure QueueRecord (Thread α : Type*) where
  thread : Thread
  operation : QueueOperation α
  report : QueueReport α
  /-- The size of the queue when the section ended. -/
  sizeAfter : ℕ

namespace QueueRecord

/-- The value a successful push has added to the queue. -/
def accepted (record : QueueRecord Thread α) : Option α :=
  if record.report.succeeded then record.operation.offered else none

def delivered (record : QueueRecord Thread α) : Option α :=
  record.report.out

end QueueRecord

structure QueueMachine (Thread α : Type*) where
  queue : BoundedBlockingQueue α
  notEmpty : ConditionVariable Thread
  notFull : ConditionVariable Thread
  stage : Thread → QueueStage α
  records : List (QueueRecord Thread α)

inductive QueueAction (Thread α : Type*) where
  | call (thread : Thread) (operation : QueueOperation α)
  /-- The thread takes the mutex and runs to the end of its section. -/
  | enter (thread : Thread)
  | notify (thread : Thread) (sleeper : Option Thread)
  | broadcast (thread : Thread)
  /-- A wake-up that nobody caused. -/
  | wake (thread : Thread)

namespace QueueMachine

variable [DecidableEq Thread]

def create (queue : BoundedBlockingQueue α) : QueueMachine Thread α where
  queue := queue
  notEmpty := .empty
  notFull := .empty
  stage := fun _ => .idle
  records := []

def setStage (machine : QueueMachine Thread α) (thread : Thread) (stage : QueueStage α) :
    QueueMachine Thread α :=
  { machine with stage := Function.update machine.stage thread stage }

/-- The `wait` of the source's loops: only `push` and `pop` have one. -/
def block (machine : QueueMachine Thread α) (thread : Thread) :
    QueueOperation α → QueueMachine Thread α
  | .push _ => { machine with notFull := machine.notFull.wait thread }
  | .pop => { machine with notEmpty := machine.notEmpty.wait thread }
  | _ => machine

def resume (machine : QueueMachine Thread α) (thread : Thread) :
    QueueOperation α → QueueMachine Thread α
  | .push _ => { machine with notFull := machine.notFull.resume thread }
  | .pop => { machine with notEmpty := machine.notEmpty.resume thread }
  | _ => machine

/-- The operation's outcome takes effect and is recorded. -/
def record (machine : QueueMachine Thread α) (thread : Thread)
    (operation : QueueOperation α) (report : QueueReport α)
    (queue : BoundedBlockingQueue α) : QueueMachine Thread α :=
  { machine with
    queue := queue
    records := machine.records ++ [⟨thread, operation, report, queue.size⟩] }

/-- Out of the section: a successful push notifies `not_empty_`, a successful
pop `not_full_`, and `close` both. -/
def leave (machine : QueueMachine Thread α) (thread : Thread) (succeeded : Bool) :
    QueueOperation α → QueueMachine Thread α
  | .tryPush _ | .push _ =>
    if succeeded then
      ({ machine with notEmpty := machine.notEmpty.promise thread }).setStage thread
        .notifyingNotEmpty
    else
      machine.setStage thread .idle
  | .pop | .tryPop =>
    if succeeded then
      ({ machine with notFull := machine.notFull.promise thread }).setStage thread .notifyingNotFull
    else
      machine.setStage thread .idle
  | .close =>
    ({ machine with
      notEmpty := machine.notEmpty.promiseAll thread
      notFull := machine.notFull.promiseAll thread }).setStage thread .closingNotEmpty

/-- The section of a thread that holds the mutex. -/
def enter (machine : QueueMachine Thread α) (thread : Thread)
    (operation : QueueOperation α) : QueueMachine Thread α :=
  match machine.queue.attempt operation with
  | none => machine.block thread operation
  | some (report, queue) =>
    ((machine.resume thread operation).record thread operation report queue).leave
      thread report.succeeded operation

/-- The thread is blocked in a `wait` and nobody has woken it. -/
def Asleep (machine : QueueMachine Thread α) (thread : Thread) : Prop :=
  thread ∈ machine.notEmpty.waiting ∨ thread ∈ machine.notFull.waiting

instance (machine : QueueMachine Thread α) : DecidablePred machine.Asleep :=
  fun thread =>
    inferInstanceAs
      (Decidable (thread ∈ machine.notEmpty.waiting ∨ thread ∈ machine.notFull.waiting))

/-- The `notify_one` after a section; the scheduler picks the sleeper. -/
def notify (machine : QueueMachine Thread α) (thread : Thread) (sleeper : Option Thread) :
    Option (QueueMachine Thread α) :=
  match machine.stage thread with
  | .notifyingNotEmpty =>
    if machine.notEmpty.Wakes sleeper then
      some (({ machine with notEmpty := machine.notEmpty.notifyOne thread sleeper }).setStage
        thread .idle)
    else
      none
  | .notifyingNotFull =>
    if machine.notFull.Wakes sleeper then
      some (({ machine with notFull := machine.notFull.notifyOne thread sleeper }).setStage
        thread .idle)
    else
      none
  | _ => none

/-- `close` tells the consumers first, then the producers. -/
def broadcast (machine : QueueMachine Thread α) (thread : Thread) :
    Option (QueueMachine Thread α) :=
  match machine.stage thread with
  | .closingNotEmpty =>
    some (({ machine with notEmpty := machine.notEmpty.notifyAll thread }).setStage
      thread .closingNotFull)
  | .closingNotFull =>
    some (({ machine with notFull := machine.notFull.notifyAll thread }).setStage thread .idle)
  | _ => none

def step (machine : QueueMachine Thread α) :
    QueueAction Thread α → Option (QueueMachine Thread α)
  | .call thread operation =>
    match machine.stage thread with
    | .idle => some (machine.setStage thread (.entering operation))
    | _ => none
  | .enter thread =>
    match machine.stage thread with
    | .entering operation =>
      if machine.Asleep thread then none else some (machine.enter thread operation)
    | _ => none
  | .notify thread sleeper => machine.notify thread sleeper
  | .broadcast thread => machine.broadcast thread
  | .wake thread =>
    if thread ∈ machine.notEmpty.waiting then
      some { machine with notEmpty := machine.notEmpty.wake thread }
    else if thread ∈ machine.notFull.waiting then
      some { machine with notFull := machine.notFull.wake thread }
    else
      none

/-- Reachable from a new queue by some interleaving of some threads. -/
def Reachable (capacity : ℕ) (hcapacity : 0 < capacity)
    (machine : QueueMachine Thread α) : Prop :=
  Reaches step (fun _ _ => True) (create (.create capacity hcapacity)) machine

end QueueMachine

/-! ## One critical section -/

/-- Everything a section that ends its operation can do. -/
inductive BoundedBlockingQueue.Attempted (queue : BoundedBlockingQueue α) :
    QueueOperation α → QueueReport α → BoundedBlockingQueue α → Prop
  | accepted {operation : QueueOperation α} {value : α} :
      operation.offered = some value → queue.closed = false →
      queue.size ≠ queue.capacity →
      Attempted queue operation (.pushed ⟨true, queue.size + 1⟩) (queue.enqueue value)
  | refused {operation : QueueOperation α} {value : α} :
      operation.offered = some value → (operation = .push value → queue.closed = true) →
      Attempted queue operation (.pushed ⟨false, queue.size⟩) queue
  | popped {value : α} {rest : List α} :
      queue.items = value :: rest →
      Attempted queue .pop (.popped ⟨true, rest.length⟩ (some value)) { queue with items := rest }
  | drained :
      queue.items = [] → queue.closed = true →
      Attempted queue .pop (.popped ⟨false, 0⟩ none) queue
  | tryPopped {value : α} {rest : List α} :
      queue.items = value :: rest →
      Attempted queue .tryPop (.tryPopped ⟨some value, rest.length⟩) { queue with items := rest }
  | missed : queue.items = [] → Attempted queue .tryPop (.tryPopped ⟨none, 0⟩) queue
  | closed : Attempted queue .close .closed queue.close

namespace BoundedBlockingQueue

variable {queue after : BoundedBlockingQueue α} {operation : QueueOperation α}
  {report : QueueReport α}

theorem attempted_tryPush (queue : BoundedBlockingQueue α) (value : α) :
    queue.Attempted (.tryPush value) (.pushed (queue.tryPush value).1) (queue.tryPush value).2 := by
  unfold tryPush
  split
  next _ =>
    have hoffered : (QueueOperation.tryPush value).offered = some value := rfl
    apply Attempted.refused hoffered
    intro hpush
    cases hpush
  next hfree =>
    simp only [Bool.or_eq_true, not_or, Bool.not_eq_true, beq_eq_false_iff_ne] at hfree
    exact Attempted.accepted rfl hfree.1 hfree.2

theorem attempted_push {value : α} {result : OperationResult}
    (hpush : queue.push value = some (result, after)) :
    queue.Attempted (.push value) (.pushed result) after := by
  unfold push at hpush
  split at hpush
  next hclosed =>
    cases hpush
    have hoffered : (QueueOperation.push value).offered = some value := rfl
    apply Attempted.refused hoffered
    intro _
    exact hclosed
  next hopen =>
    split at hpush
    next => cases hpush
    next hfree =>
      cases hpush
      exact Attempted.accepted rfl (Bool.eq_false_iff.mpr hopen) hfree

theorem attempted_pop {result : OperationResult} {out : Option α}
    (hpop : queue.pop = some (result, out, after)) :
    queue.Attempted .pop (.popped result out) after := by
  unfold pop at hpop
  split at hpop
  next hempty =>
    split at hpop
    next hclosed =>
      cases hpop
      exact Attempted.drained hempty hclosed
    next => cases hpop
  next _ _ hitems =>
    cases hpop
    exact Attempted.popped hitems

theorem attempted_tryPop (queue : BoundedBlockingQueue α) :
    queue.Attempted .tryPop (.tryPopped queue.tryPop.1) queue.tryPop.2 := by
  unfold tryPop
  split
  next hempty => exact Attempted.missed hempty
  next _ _ hitems => exact Attempted.tryPopped hitems

theorem attempted_of_attempt (hattempt : queue.attempt operation = some (report, after)) :
    queue.Attempted operation report after := by
  cases operation with
  | tryPush value =>
    cases hattempt
    exact attempted_tryPush queue value
  | push =>
    simp only [attempt, bind_eq_bind, bind_eq_some_iff] at hattempt
    obtain ⟨⟨result, later⟩, hpush, hreport⟩ := hattempt
    cases hreport
    exact attempted_push hpush
  | pop =>
    simp only [attempt, bind_eq_bind, bind_eq_some_iff] at hattempt
    obtain ⟨⟨_, _, _⟩, hpop, hreport⟩ := hattempt
    cases hreport
    exact attempted_pop hpop
  | tryPop =>
    cases hattempt
    exact attempted_tryPop queue
  | close =>
    cases hattempt
    exact Attempted.closed

/-- Only a `push` into a full queue and a `pop` from an empty one wait, and
only while the queue is open. -/
theorem blocked_of_attempt (hattempt : queue.attempt operation = none) :
    queue.closed = false ∧
      ((∃ value, operation = .push value ∧ queue.size = queue.capacity) ∨
        (operation = .pop ∧ queue.items = [])) := by
  cases operation with
  | tryPush | tryPop | close => cases hattempt
  | push value =>
    simp only [attempt, bind_eq_bind, bind_eq_none_iff] at hattempt
    cases hpush : queue.push value with
    | some outcome => exact absurd (hattempt outcome hpush) (by simp)
    | none =>
      unfold push at hpush
      split at hpush
      next => cases hpush
      next hopen =>
        split at hpush
        next hfull => exact ⟨Bool.eq_false_iff.mpr hopen, Or.inl ⟨value, rfl, hfull⟩⟩
        next => cases hpush
  | pop =>
    simp only [attempt, bind_eq_bind, bind_eq_none_iff] at hattempt
    cases hpop : queue.pop with
    | some outcome => exact absurd (hattempt outcome hpop) (by simp)
    | none =>
      unfold pop at hpop
      split at hpop
      next hempty =>
        split at hpop
        next => cases hpop
        next hopen => exact ⟨Bool.eq_false_iff.mpr hopen, Or.inr ⟨rfl, hempty⟩⟩
      next => cases hpop

namespace Attempted

section Report

variable (hattempted : queue.Attempted operation report after)
include hattempted

theorem capacity_eq : after.capacity = queue.capacity := by
  cases hattempted <;> rfl

theorem size_eq {size : ℕ} (hsize : report.size = some size) : size = after.size := by
  cases hattempted with
  | accepted =>
    cases hsize
    simp [size]
  | refused | popped | tryPopped =>
    cases hsize
    rfl
  | drained hempty | missed hempty =>
    cases hsize
    simp [size, hempty]
  | closed => cases hsize

theorem size_le (hsize : queue.size ≤ queue.capacity) : after.size ≤ after.capacity := by
  cases hattempted with
  | accepted _ _ hfree =>
    have hlt : queue.size < queue.capacity := lt_of_le_of_ne hsize hfree
    simpa [size, enqueue] using hlt
  | refused | drained | missed | closed => exact hsize
  | popped hitems | tryPopped hitems =>
    simp only [size, hitems, length_cons] at hsize ⊢
    omega

theorem balance (thread : Thread) (size : ℕ) :
    queue.items ++ (QueueRecord.accepted ⟨thread, operation, report, size⟩).toList =
      (QueueRecord.delivered ⟨thread, operation, report, size⟩).toList ++ after.items := by
  cases hattempted with
  | accepted hoffered =>
    simp [QueueRecord.accepted, QueueRecord.delivered, QueueReport.succeeded,
      QueueReport.out, hoffered]
  | refused | drained | missed =>
    simp [QueueRecord.accepted, QueueRecord.delivered, QueueReport.succeeded, QueueReport.out]
  | popped hitems | tryPopped hitems =>
    simp [QueueRecord.accepted, QueueRecord.delivered, QueueReport.succeeded,
      QueueReport.out, QueueOperation.offered, hitems]
  | closed => simp [QueueRecord.accepted, QueueRecord.delivered, QueueReport.out,
      QueueOperation.offered]

theorem open_of_accepted
    (hoffered : operation.offered ≠ none) (hsucceeded : report.succeeded = true) :
    queue.closed = false := by
  cases hattempted with
  | accepted _ hopen => exact hopen
  | refused => cases hsucceeded
  | popped | drained | tryPopped | missed | closed => exact absurd rfl hoffered

end Report

theorem drained_of_failed (hattempted : queue.Attempted .pop report after)
    (hfailed : report.succeeded = false) :
    queue.closed = true ∧ queue.items = [] ∧ after.size = 0 := by
  cases hattempted with
  | accepted hoffered | refused hoffered => cases hoffered
  | popped => cases hfailed
  | drained hempty hclosed => exact ⟨hclosed, hempty, by simp [size, hempty]⟩

theorem closed_iff (hattempted : queue.Attempted operation report after) :
    after.closed = true ↔ queue.closed = true ∨ operation = .close := by
  cases hattempted with
  | accepted hoffered | refused hoffered =>
    have hpush : operation ≠ .close := by
      rintro rfl
      cases hoffered
    simp [hpush]
  | popped | drained | tryPopped | missed | closed => simp

end Attempted

end BoundedBlockingQueue

/-! ## The history of all sections -/

/-- The values pushed, in the order of their sections. -/
def acceptedValues (records : List (QueueRecord Thread α)) : List α :=
  records.filterMap QueueRecord.accepted

def deliveredValues (records : List (QueueRecord Thread α)) : List α :=
  records.filterMap QueueRecord.delivered

def CloseRecorded (records : List (QueueRecord Thread α)) : Prop :=
  ∃ record ∈ records, record.operation = .close

/-- What a record says, given those before it. -/
structure QueueRecord.Faithful (earlier : List (QueueRecord Thread α))
    (record : QueueRecord Thread α) : Prop where
  size_eq : ∀ size, record.report.size = some size → size = record.sizeAfter
  refused : CloseRecorded earlier → record.accepted = none
  drained : record.operation = .pop → record.report.succeeded = false →
    CloseRecorded earlier ∧ record.sizeAfter = 0 ∧ acceptedValues earlier = deliveredValues earlier

structure QueueLedger (capacity : ℕ) (queue : BoundedBlockingQueue α)
    (records : List (QueueRecord Thread α)) : Prop where
  capacity_eq : queue.capacity = capacity
  size_le : queue.size ≤ queue.capacity
  balance : acceptedValues records = deliveredValues records ++ queue.items
  closed_iff : queue.closed = true ↔ CloseRecorded records
  faithful : Chronicle QueueRecord.Faithful records

theorem acceptedValues_concat (records : List (QueueRecord Thread α))
    (record : QueueRecord Thread α) :
    acceptedValues (records ++ [record]) = acceptedValues records ++ record.accepted.toList := by
  unfold acceptedValues
  cases h : record.accepted <;> simp [h]

theorem deliveredValues_concat (records : List (QueueRecord Thread α))
    (record : QueueRecord Thread α) :
    deliveredValues (records ++ [record]) = deliveredValues records ++ record.delivered.toList := by
  unfold deliveredValues
  cases h : record.delivered <;> simp [h]

theorem closeRecorded_concat (records : List (QueueRecord Thread α))
    (record : QueueRecord Thread α) :
    CloseRecorded (records ++ [record]) ↔ CloseRecorded records ∨ record.operation = .close := by
  simp [CloseRecorded, or_and_right, exists_or]

namespace QueueLedger

variable {capacity : ℕ} {queue after : BoundedBlockingQueue α}
  {records : List (QueueRecord Thread α)} {operation : QueueOperation α}
  {report : QueueReport α}

theorem create (capacity : ℕ) (hcapacity : 0 < capacity) :
    QueueLedger capacity (.create capacity hcapacity : BoundedBlockingQueue α)
      ([] : List (QueueRecord Thread α)) where
  capacity_eq := rfl
  size_le := Nat.zero_le _
  balance := rfl
  closed_iff := by simp [CloseRecorded]
  faithful := Chronicle.nil

theorem faithful_next (hledger : QueueLedger capacity queue records)
    (hattempted : queue.Attempted operation report after) (thread : Thread) :
    QueueRecord.Faithful records ⟨thread, operation, report, after.size⟩ where
  size_eq := by
    intro _ hsize
    exact hattempted.size_eq hsize
  refused := by
    intro hclosed
    have hqueue : queue.closed = true := hledger.closed_iff.mpr hclosed
    unfold QueueRecord.accepted
    split
    next hsucceeded =>
      by_contra hoffered
      have hopen := hattempted.open_of_accepted hoffered hsucceeded
      rw [hqueue] at hopen
      cases hopen
    next => rfl
  drained := by
    intro hpop hfailed
    subst hpop
    obtain ⟨hclosed, hempty, hsize⟩ := hattempted.drained_of_failed hfailed
    refine ⟨hledger.closed_iff.mp hclosed, hsize, ?_⟩
    rw [hledger.balance, hempty, append_nil]

theorem step (hledger : QueueLedger capacity queue records)
    (hattempted : queue.Attempted operation report after) (thread : Thread) :
    QueueLedger capacity after (records ++ [⟨thread, operation, report, after.size⟩]) where
  capacity_eq := by
    rw [hattempted.capacity_eq, hledger.capacity_eq]
  size_le := hattempted.size_le hledger.size_le
  balance := by
    rw [acceptedValues_concat, deliveredValues_concat, hledger.balance, append_assoc,
      append_assoc, hattempted.balance thread after.size]
  closed_iff := by
    rw [closeRecorded_concat, ← hledger.closed_iff, hattempted.closed_iff]
  faithful := hledger.faithful.concat (hledger.faithful_next hattempted thread)

/-- Nothing is accepted once a `close` is recorded. -/
theorem acceptedValues_of_closed (hledger : QueueLedger capacity queue records)
    {earlier later : List (QueueRecord Thread α)} (hrecords : records = earlier ++ later)
    (hclosed : CloseRecorded earlier) :
    acceptedValues records = acceptedValues earlier := by
  have hlater : later.filterMap QueueRecord.accepted = [] := by
    rw [filterMap_eq_nil_iff]
    intro record hrecord
    obtain ⟨before, behind, hsplit⟩ := append_of_mem hrecord
    have hplace : records = (earlier ++ before) ++ record :: behind := by
      rw [hrecords, hsplit, append_assoc]
    apply (hledger.faithful _ _ _ hplace).refused
    obtain ⟨close, hclose, hoperation⟩ := hclosed
    exact ⟨close, mem_append_left _ hclose, hoperation⟩
  unfold acceptedValues
  rw [hrecords, filterMap_append, hlater, append_nil]

end QueueLedger

namespace QueueMachine

variable [DecidableEq Thread] {machine after : QueueMachine Thread α}

@[simp] theorem resume_records (machine : QueueMachine Thread α) (thread : Thread)
    (operation : QueueOperation α) :
    (machine.resume thread operation).records = machine.records := by
  cases operation <;> rfl

@[simp] theorem leave_queue (machine : QueueMachine Thread α) (thread : Thread)
    (succeeded : Bool) (operation : QueueOperation α) :
    (machine.leave thread succeeded operation).queue = machine.queue := by
  cases operation <;> simp only [leave] <;> (try split) <;> rfl

@[simp] theorem leave_records (machine : QueueMachine Thread α) (thread : Thread)
    (succeeded : Bool) (operation : QueueOperation α) :
    (machine.leave thread succeeded operation).records = machine.records := by
  cases operation <;> simp only [leave] <;> (try split) <;> rfl

/-- A step runs one section to the end of its operation, or leaves the queue
alone. -/
inductive Advances (machine after : QueueMachine Thread α) : Prop
  | still : after.queue = machine.queue → after.records = machine.records → Advances machine after
  | ended {thread : Thread} {operation : QueueOperation α} {report : QueueReport α} :
      machine.queue.Attempted operation report after.queue →
      after.records = machine.records ++ [⟨thread, operation, report, after.queue.size⟩] →
      Advances machine after

theorem enter_advances (machine : QueueMachine Thread α) (thread : Thread)
    (operation : QueueOperation α) :
    Advances machine (machine.enter thread operation) := by
  unfold enter
  cases hattempt : machine.queue.attempt operation with
  | none =>
    cases operation <;> exact Advances.still rfl rfl
  | some outcome =>
    obtain ⟨report, _⟩ := outcome
    have hattempted := attempted_of_attempt hattempt
    apply @Advances.ended Thread α machine _ thread operation report
    · simpa [record] using hattempted
    · simp [record]

theorem step_advances {action : QueueAction Thread α}
    (hstep : machine.step action = some after) : Advances machine after := by
  cases action with
  | call =>
    simp only [step] at hstep
    split at hstep
    next =>
      cases hstep
      exact Advances.still rfl rfl
    next => cases hstep
  | enter thread =>
    simp only [step] at hstep
    split at hstep
    next operation _ =>
      split at hstep
      next => cases hstep
      next =>
        cases hstep
        exact enter_advances machine thread operation
    next => cases hstep
  | notify =>
    simp only [step, notify] at hstep
    split at hstep
    next =>
      split at hstep
      next =>
        cases hstep
        exact Advances.still rfl rfl
      next => cases hstep
    next =>
      split at hstep
      next =>
        cases hstep
        exact Advances.still rfl rfl
      next => cases hstep
    next => cases hstep
  | broadcast =>
    simp only [step, broadcast] at hstep
    split at hstep
    next =>
      cases hstep
      exact Advances.still rfl rfl
    next =>
      cases hstep
      exact Advances.still rfl rfl
    next => cases hstep
  | wake =>
    simp only [step] at hstep
    split at hstep
    next =>
      cases hstep
      exact Advances.still rfl rfl
    next =>
      split at hstep
      next =>
        cases hstep
        exact Advances.still rfl rfl
      next => cases hstep

theorem ledger_of_reachable {capacity : ℕ} {hcapacity : 0 < capacity}
    (hreach : Reachable capacity hcapacity machine) :
    QueueLedger capacity machine.queue machine.records := by
  apply hreach.invariant
  · exact QueueLedger.create capacity hcapacity
  · intro _ _ _ hledger _ hstep
    cases step_advances hstep with
    | still hqueue hrecords =>
      rw [hqueue, hrecords]
      exact hledger
    | ended hattempted hrecords =>
      rw [hrecords]
      exact hledger.step hattempted _

/-- The queue is a bounded FIFO whatever the threads do: it never exceeds its
capacity, the values taken out are those put in from the first on, every
operation reports the size it leaves behind, nothing is accepted after
`close`, and a `pop` fails only on a closed queue all of whose values have
been delivered. -/
theorem bounded_fifo {capacity : ℕ} {hcapacity : 0 < capacity}
    (hreach : Reachable capacity hcapacity machine) :
    machine.queue.size ≤ capacity ∧
      acceptedValues machine.records = deliveredValues machine.records ++ machine.queue.items ∧
      deliveredValues machine.records <+: acceptedValues machine.records ∧
      (∀ record ∈ machine.records, ∀ size,
        record.report.size = some size → size = record.sizeAfter) ∧
      ∀ earlier record later, machine.records = earlier ++ record :: later →
        (CloseRecorded earlier → record.accepted = none) ∧
          (record.operation = .pop → record.report.succeeded = false →
            CloseRecorded earlier ∧ record.sizeAfter = 0 ∧
              acceptedValues machine.records = deliveredValues earlier) := by
  have hledger := ledger_of_reachable hreach
  have hdelivered : deliveredValues machine.records <+: acceptedValues machine.records := by
    rw [hledger.balance]
    exact prefix_append _ _
  refine ⟨hledger.capacity_eq ▸ hledger.size_le, hledger.balance, hdelivered, ?_, ?_⟩
  · intro record hrecord
    obtain ⟨earlier, later, hrecords⟩ := append_of_mem hrecord
    exact (hledger.faithful earlier record later hrecords).size_eq
  · intro earlier record later hrecords
    have hfaithful := hledger.faithful earlier record later hrecords
    constructor
    · exact hfaithful.refused
    · intro hpop hfailed
      obtain ⟨hclosed, hempty, hall⟩ := hfaithful.drained hpop hfailed
      refine ⟨hclosed, hempty, ?_⟩
      rw [hledger.acceptedValues_of_closed hrecords hclosed, hall]

/-- A consumer sleeps, is woken for a value, and fails once the queue has been
closed. -/
def drainActions : List (QueueAction Bool ℕ) :=
  [.call false .pop, .enter false, .call true (.push 7), .enter true,
    .notify true (some false), .enter false, .notify false none,
    .call true .close, .enter true, .broadcast true, .broadcast true,
    .call false .pop, .enter false]

theorem bounded_fifo_drain :
    ∃ machine : QueueMachine Bool ℕ, Reachable 1 Nat.one_pos machine ∧
      deliveredValues machine.records = [7] ∧ machine.records.length = 4 ∧
      machine.queue.size ≤ 1 ∧
      deliveredValues machine.records <+: acceptedValues machine.records := by
  have hrun : (run step drainActions (create (.create 1 Nat.one_pos))).isSome = true := by
    decide
  have hreach : Reachable 1 Nat.one_pos (get _ hrun) :=
    Reaches.of_run (some_get hrun).symm (guarded_of_forall fun _ _ _ => trivial)
  obtain ⟨hsize, _, hdelivered, _⟩ := bounded_fifo hreach
  exact ⟨_, hreach, rfl, rfl, hsize, hdelivered⟩

end QueueMachine

end SessionServer
