import SessionServer.BoundedBlockingQueueThreads

/-!
# No lost wake-up

Notifications are issued after the mutex is released, one per value or slot,
while other threads may take the value or slot first.  As long as a consumer
sleeps, the woken consumers and the notifications in flight are at least as
many as the values in the queue, and likewise for producers and free slots.
So when nothing is left to run, nobody sleeps in front of work.
-/

namespace SessionServer

open TransitionSystem ConditionVariable BoundedBlockingQueue Finset

variable {Thread α : Type*} [DecidableEq Thread]

namespace QueueMachine

/-! ## Where the threads are -/

/-- The six sets a thread can be in, and the stage each of them calls for. -/
structure Places (stage : QueueStage α) (waitsNotEmpty waitsNotFull notifiesNotEmpty
    notifiesNotFull closesNotEmpty closesNotFull : Prop) : Prop where
  consumer : waitsNotEmpty → stage = .entering .pop
  producer : waitsNotFull → ∃ value, stage = .entering (.push value)
  notifyingNotEmpty : notifiesNotEmpty → stage = .notifyingNotEmpty
  notifyingNotFull : notifiesNotFull → stage = .notifyingNotFull
  closingNotEmpty : closesNotEmpty → stage = .closingNotEmpty
  closingNotFull : closesNotFull → stage = .closingNotEmpty ∨ stage = .closingNotFull

/-- The condition variables have the thread only where its operation is. -/
def Placed (machine : QueueMachine Thread α) (thread : Thread) : Prop :=
  Places (machine.stage thread) (thread ∈ machine.notEmpty.parked)
    (thread ∈ machine.notFull.parked) (thread ∈ machine.notEmpty.notifying)
    (thread ∈ machine.notFull.notifying) (thread ∈ machine.notEmpty.broadcasting)
    (thread ∈ machine.notFull.broadcasting)

variable {machine after : QueueMachine Thread α} {thread : Thread}
variable {operation : QueueOperation α} {sleeper : Option Thread}

section Placed

variable (hplaced : ∀ other, machine.Placed other)
include hplaced

theorem placed_call (hidle : machine.stage thread = .idle) (next : QueueStage α) (other : Thread) :
    (machine.setStage thread next).Placed other := by
  have hbefore := hplaced other
  by_cases hother : other = thread
  · subst hother
    obtain ⟨_, _, _, _, _, _⟩ := hbefore
    constructor <;> simp_all [setStage]
  · simpa [Placed, setStage, hother] using hbefore

theorem placed_block (hentering : machine.stage thread = .entering operation) (other : Thread) :
    (machine.block thread operation).Placed other := by
  have hbefore := hplaced other
  by_cases hother : other = thread
  · subst hother
    obtain ⟨_, _, _, _, _, _⟩ := hbefore
    cases operation <;> constructor <;> simp_all [block]
  · cases operation <;> simpa [Placed, block, hother] using hbefore

theorem placed_leave (hentering : machine.stage thread = .entering operation)
    (hawake : ¬machine.Asleep thread) (succeeded : Bool) (other : Thread) :
    ((machine.resume thread operation).leave thread succeeded operation).Placed other := by
  have hbefore := hplaced other
  obtain ⟨hnotEmpty, hnotFull⟩ := not_or.mp hawake
  by_cases hother : other = thread
  · subst hother
    obtain ⟨_, _, _, _, _, _⟩ := hbefore
    cases operation <;> cases succeeded <;> constructor <;>
      simp_all [leave, setStage, resume, parked_resume]
  · cases operation <;> cases succeeded <;>
      simpa [Placed, leave, setStage, resume, parked_resume, hnotEmpty, hnotFull, hother]

theorem placed_notifyNotEmpty (hstage : machine.stage thread = .notifyingNotEmpty)
    (hwakes : machine.notEmpty.Wakes sleeper) (other : Thread) :
    (({ machine with notEmpty := machine.notEmpty.notifyOne thread sleeper }).setStage
      thread .idle).Placed other := by
  have hbefore := hplaced other
  by_cases hother : other = thread
  · subst hother
    obtain ⟨_, _, _, _, _, _⟩ := hbefore
    constructor <;> simp_all [setStage, parked_notifyOne]
  · simpa [Placed, setStage, parked_notifyOne hwakes, hother] using hbefore

theorem placed_notifyNotFull (hstage : machine.stage thread = .notifyingNotFull)
    (hwakes : machine.notFull.Wakes sleeper) (other : Thread) :
    (({ machine with notFull := machine.notFull.notifyOne thread sleeper }).setStage
      thread .idle).Placed other := by
  have hbefore := hplaced other
  by_cases hother : other = thread
  · subst hother
    obtain ⟨_, _, _, _, _, _⟩ := hbefore
    constructor <;> simp_all [setStage, parked_notifyOne]
  · simpa [Placed, setStage, parked_notifyOne hwakes, hother] using hbefore

theorem placed_broadcast (hstep : machine.broadcast thread = some after) (other : Thread) :
    after.Placed other := by
  have hbefore := hplaced other
  unfold broadcast at hstep
  split at hstep
  next hstage =>
    cases hstep
    by_cases hother : other = thread
    · subst hother
      obtain ⟨_, _, _, _, _, _⟩ := hbefore
      constructor <;> simp_all [setStage]
    · simpa [Placed, setStage, hother] using hbefore
  next _ =>
    cases hstep
    by_cases hother : other = thread
    · subst hother
      obtain ⟨_, _, _, _, _, _⟩ := hbefore
      constructor <;> simp_all [setStage]
    · simpa [Placed, setStage, hother] using hbefore
  next => cases hstep

end Placed

/-! ## Nobody sleeps on a value or a slot without a wake-up on its way -/

structure Wakeful (machine : QueueMachine Thread α) : Prop where
  placed : ∀ thread, machine.Placed thread
  size_le : machine.queue.size ≤ machine.queue.capacity
  notEmpty : machine.notEmpty.Attentive machine.queue.size machine.queue.closed
  notFull : machine.notFull.Attentive (machine.queue.capacity - machine.queue.size)
    machine.queue.closed

theorem wakeful_create (queue : BoundedBlockingQueue α) (hsize : queue.size ≤ queue.capacity) :
    (create queue : QueueMachine Thread α).Wakeful where
  placed := by
    intro _
    constructor <;> simp [create, parked, ConditionVariable.empty]
  size_le := hsize
  notEmpty := Attentive.empty _ _
  notFull := Attentive.empty _ _

theorem wakeful_block (hwakeful : machine.Wakeful)
    (hentering : machine.stage thread = .entering operation)
    (hattempt : machine.queue.attempt operation = none) :
    (machine.block thread operation).Wakeful := by
  have hplaced := placed_block hwakeful.placed hentering
  obtain ⟨hopen, hblocked⟩ := blocked_of_attempt hattempt
  cases hblocked with
  | inl hfull =>
    obtain ⟨_, rfl, hfull⟩ := hfull
    refine ⟨hplaced, hwakeful.size_le, hwakeful.notEmpty, ?_⟩
    have hsleep := Attentive.wait machine.notFull thread
    simpa [block, hopen, hfull] using hsleep
  | inr hempty =>
    obtain ⟨rfl, hempty⟩ := hempty
    refine ⟨hplaced, hwakeful.size_le, ?_, hwakeful.notFull⟩
    have hsleep := Attentive.wait machine.notEmpty thread
    simpa [block, hopen, hempty, size] using hsleep

theorem not_notifying_of_entering (hwakeful : machine.Wakeful)
    (hentering : machine.stage thread = .entering operation) :
    thread ∉ machine.notEmpty.notifying ∧ thread ∉ machine.notFull.notifying := by
  constructor
  · intro hnotifying
    have hstage := (hwakeful.placed thread).notifyingNotEmpty hnotifying
    rw [hentering] at hstage
    cases hstage
  · intro hnotifying
    have hstage := (hwakeful.placed thread).notifyingNotFull hnotifying
    rw [hentering] at hstage
    cases hstage

theorem attentive_leave (hwakeful : machine.Wakeful)
    (hentering : machine.stage thread = .entering operation)
    {report : QueueReport α} {queue : BoundedBlockingQueue α}
    (hattempted : machine.queue.Attempted operation report queue) :
    ((machine.resume thread operation).leave thread report.succeeded operation).notEmpty.Attentive
        queue.size queue.closed ∧
      ((machine.resume thread operation).leave thread report.succeeded operation).notFull.Attentive
        (queue.capacity - queue.size) queue.closed := by
  obtain ⟨hnotEmpty, hnotFull⟩ := not_notifying_of_entering hwakeful hentering
  have hbound := hwakeful.size_le
  have hvalues := hwakeful.notEmpty
  have hslots := hwakeful.notFull
  cases hattempted with
  | @accepted operation value hoffered hopen hfree =>
    have hsize : (machine.queue.enqueue value).size = machine.queue.size + 1 := by
      simp [size]
    have htaken : machine.queue.capacity - machine.queue.size =
        machine.queue.capacity - (machine.queue.size + 1) + 1 := by
      omega
    rw [hsize]
    rw [htaken] at hslots
    cases operation with
    | tryPush => exact ⟨hvalues.give hnotEmpty, hslots.mono (Nat.le_succ _)⟩
    | push => exact ⟨hvalues.give hnotEmpty, hslots.take thread⟩
    | pop | tryPop | close => cases hoffered
  | @refused operation value hoffered hclosed =>
    cases operation with
    | tryPush => exact ⟨hvalues, hslots⟩
    | push =>
      cases hoffered
      have hended := hclosed rfl
      rw [hended] at hvalues hslots ⊢
      exact ⟨hvalues, hslots.quit thread⟩
    | pop | tryPop | close => cases hoffered
  | @popped value rest hitems =>
    have hsize : machine.queue.size = rest.length + 1 := by
      simp [size, hitems]
    have hgiven : machine.queue.capacity - rest.length =
        machine.queue.capacity - machine.queue.size + 1 := by
      omega
    rw [hsize] at hvalues
    refine ⟨hvalues.take thread, ?_⟩
    change (machine.notFull.promise thread).Attentive
      (machine.queue.capacity - rest.length) machine.queue.closed
    rw [hgiven]
    exact hslots.give hnotFull
  | drained _ hclosed =>
    rw [hclosed] at hvalues hslots ⊢
    exact ⟨hvalues.quit thread, hslots⟩
  | @tryPopped value rest hitems =>
    have hsize : machine.queue.size = rest.length + 1 := by
      simp [size, hitems]
    have hgiven : machine.queue.capacity - rest.length =
        machine.queue.capacity - machine.queue.size + 1 := by
      omega
    rw [hsize] at hvalues
    refine ⟨hvalues.mono (Nat.le_succ _), ?_⟩
    change (machine.notFull.promise thread).Attentive
      (machine.queue.capacity - rest.length) machine.queue.closed
    rw [hgiven]
    exact hslots.give hnotFull
  | missed => exact ⟨hvalues, hslots⟩
  | closed => exact ⟨Attentive.finish _ _ thread, Attentive.finish _ _ thread⟩

theorem leave_record (thread : Thread) (succeeded : Bool) (operation : QueueOperation α)
    (machine : QueueMachine Thread α) (report : QueueReport α) (queue : BoundedBlockingQueue α) :
    ((machine.record thread operation report queue).leave thread succeeded operation) =
      { machine.leave thread succeeded operation with
        queue := queue
        records := machine.records ++ [⟨thread, operation, report, queue.size⟩] } := by
  cases operation <;> cases succeeded <;> rfl

theorem wakeful_enter (hwakeful : machine.Wakeful)
    (hentering : machine.stage thread = .entering operation)
    (hawake : ¬machine.Asleep thread) : (machine.enter thread operation).Wakeful := by
  unfold enter
  cases hattempt : machine.queue.attempt operation with
  | none => exact wakeful_block hwakeful hentering hattempt
  | some outcome =>
    obtain ⟨report, _⟩ := outcome
    have hattempted := attempted_of_attempt hattempt
    obtain ⟨hvalues, hslots⟩ := attentive_leave hwakeful hentering hattempted
    dsimp only
    rw [leave_record]
    exact ⟨placed_leave hwakeful.placed hentering hawake report.succeeded,
      hattempted.size_le hwakeful.size_le, hvalues, hslots⟩

theorem wakeful_notify (hwakeful : machine.Wakeful)
    (hstep : machine.notify thread sleeper = some after) : after.Wakeful := by
  unfold notify at hstep
  split at hstep
  next hstage =>
    split at hstep
    next hwakes =>
      cases hstep
      exact ⟨placed_notifyNotEmpty hwakeful.placed hstage hwakes, hwakeful.size_le,
        hwakeful.notEmpty.notifyOne thread hwakes, hwakeful.notFull⟩
    next => cases hstep
  next hstage =>
    split at hstep
    next hwakes =>
      cases hstep
      exact ⟨placed_notifyNotFull hwakeful.placed hstage hwakes, hwakeful.size_le,
        hwakeful.notEmpty, hwakeful.notFull.notifyOne thread hwakes⟩
    next => cases hstep
  next => cases hstep

theorem wakeful_broadcast (hwakeful : machine.Wakeful)
    (hstep : machine.broadcast thread = some after) : after.Wakeful := by
  have hplaced := placed_broadcast hwakeful.placed hstep
  unfold broadcast at hstep
  split at hstep
  next =>
    cases hstep
    exact ⟨hplaced, hwakeful.size_le, Attentive.notifyAll _ _ _ thread, hwakeful.notFull⟩
  next =>
    cases hstep
    exact ⟨hplaced, hwakeful.size_le, hwakeful.notEmpty, Attentive.notifyAll _ _ _ thread⟩
  next => cases hstep

theorem wakeful_step (hwakeful : machine.Wakeful) {action : QueueAction Thread α}
    (hstep : machine.step action = some after) : after.Wakeful := by
  cases action with
  | call =>
    simp only [step] at hstep
    split at hstep
    next hidle =>
      cases hstep
      exact ⟨placed_call hwakeful.placed hidle _, hwakeful.size_le, hwakeful.notEmpty,
        hwakeful.notFull⟩
    next => cases hstep
  | enter =>
    simp only [step] at hstep
    split at hstep
    next _ hentering =>
      split at hstep
      next => cases hstep
      next hawake =>
        cases hstep
        exact wakeful_enter hwakeful hentering hawake
    next => cases hstep
  | notify => exact wakeful_notify hwakeful hstep
  | broadcast => exact wakeful_broadcast hwakeful hstep
  | wake thread =>
    simp only [step] at hstep
    split at hstep
    next hwaiting =>
      cases hstep
      refine ⟨?_, hwakeful.size_le, hwakeful.notEmpty.wake thread, hwakeful.notFull⟩
      intro other
      simpa [Placed, parked_wake hwaiting] using hwakeful.placed other
    next =>
      split at hstep
      next hwaiting =>
        cases hstep
        refine ⟨?_, hwakeful.size_le, hwakeful.notEmpty, hwakeful.notFull.wake thread⟩
        intro other
        simpa [Placed, parked_wake hwaiting] using hwakeful.placed other
      next => cases hstep

theorem wakeful_of_reachable {capacity : ℕ} {hcapacity : 0 < capacity}
    (hreach : Reachable capacity hcapacity machine) : machine.Wakeful := by
  apply hreach.invariant
  · exact wakeful_create _ (Nat.zero_le _)
  · intro _ _ _ hwakeful _ hstep
    exact wakeful_step hwakeful hstep

/-! ## When nothing is left to run -/

/-- No thread has a section, a notification or a broadcast to go on with. -/
def Quiescent (machine : QueueMachine Thread α) : Prop :=
  ∀ thread, machine.step (.enter thread) = none ∧
    (∀ sleeper, machine.step (.notify thread sleeper) = none) ∧
    machine.step (.broadcast thread) = none

theorem Quiescent.asleep_of_entering (hquiescent : machine.Quiescent)
    (hentering : machine.stage thread = .entering operation) :
    machine.Asleep thread := by
  have hstuck := (hquiescent thread).1
  simp only [step, hentering] at hstuck
  by_contra hawake
  rw [if_neg hawake] at hstuck
  cases hstuck

theorem Quiescent.woken_eq (hquiescent : machine.Quiescent) (hwakeful : machine.Wakeful) :
    machine.notEmpty.woken = ∅ ∧ machine.notFull.woken = ∅ := by
  constructor
  · apply eq_empty_of_forall_notMem
    intro thread hwoken
    have hstage := (hwakeful.placed thread).consumer (mem_union_right _ hwoken)
    cases hquiescent.asleep_of_entering hstage with
    | inl hwaiting =>
      exact disjoint_left.mp machine.notEmpty.disjoint hwaiting hwoken
    | inr hwaiting =>
      obtain ⟨value, hproducer⟩ :=
        (hwakeful.placed thread).producer (mem_union_left _ hwaiting)
      rw [hstage] at hproducer
      cases hproducer
  · apply eq_empty_of_forall_notMem
    intro thread hwoken
    obtain ⟨_, hstage⟩ :=
      (hwakeful.placed thread).producer (mem_union_right _ hwoken)
    cases hquiescent.asleep_of_entering hstage with
    | inl hwaiting =>
      have hconsumer := (hwakeful.placed thread).consumer (mem_union_left _ hwaiting)
      rw [hstage] at hconsumer
      cases hconsumer
    | inr hwaiting =>
      exact disjoint_left.mp machine.notFull.disjoint hwaiting hwoken

theorem Quiescent.notifying_eq (hquiescent : machine.Quiescent) (hwakeful : machine.Wakeful) :
    machine.notEmpty.notifying = ∅ ∧ machine.notFull.notifying = ∅ := by
  constructor
  · apply eq_empty_of_forall_notMem
    intro thread hnotifying
    have hstage := (hwakeful.placed thread).notifyingNotEmpty hnotifying
    obtain ⟨sleeper, hwakes⟩ := machine.notEmpty.exists_wakes
    have hstuck := (hquiescent thread).2.1 sleeper
    simp [step, notify, hstage, hwakes] at hstuck
  · apply eq_empty_of_forall_notMem
    intro thread hnotifying
    have hstage := (hwakeful.placed thread).notifyingNotFull hnotifying
    obtain ⟨sleeper, hwakes⟩ := machine.notFull.exists_wakes
    have hstuck := (hquiescent thread).2.1 sleeper
    simp [step, notify, hstage, hwakes] at hstuck

theorem Quiescent.broadcasting_eq (hquiescent : machine.Quiescent) (hwakeful : machine.Wakeful) :
    machine.notEmpty.broadcasting = ∅ ∧ machine.notFull.broadcasting = ∅ := by
  constructor
  · apply eq_empty_of_forall_notMem
    intro thread hclosing
    have hstage := (hwakeful.placed thread).closingNotEmpty hclosing
    have hstuck := (hquiescent thread).2.2
    simp [step, broadcast, hstage] at hstuck
  · apply eq_empty_of_forall_notMem
    intro thread hclosing
    have hstuck := (hquiescent thread).2.2
    cases (hwakeful.placed thread).closingNotFull hclosing with
    | inl hstage | inr hstage => simp [step, broadcast, hstage] at hstuck

/-- As long as a consumer sleeps, every value has a woken consumer or a
notification of its own, or the broadcast of `close` is still to come; the same
holds for producers and free slots.  So nobody sleeps in front of a value, of a
free slot or of a closed queue once every thread has gone as far as it can. -/
theorem no_lost_wakeup {capacity : ℕ} {hcapacity : 0 < capacity}
    (hreach : Reachable capacity hcapacity machine) :
    (machine.notEmpty.waiting.Nonempty →
      machine.notEmpty.broadcasting.Nonempty ∨
        machine.queue.size ≤ machine.notEmpty.woken.card + machine.notEmpty.notifying.card) ∧
      (machine.notFull.waiting.Nonempty →
        machine.notFull.broadcasting.Nonempty ∨
          capacity - machine.queue.size ≤
            machine.notFull.woken.card + machine.notFull.notifying.card) ∧
      (machine.Quiescent →
        (machine.notEmpty.waiting.Nonempty →
          machine.queue.size = 0 ∧ machine.queue.closed = false) ∧
        (machine.notFull.waiting.Nonempty →
          machine.queue.size = capacity ∧ machine.queue.closed = false)) := by
  have hwakeful := wakeful_of_reachable hreach
  have hcapacity := (ledger_of_reachable hreach).capacity_eq
  have hbound := hwakeful.size_le
  have hslots := hwakeful.notFull
  rw [hcapacity] at hslots
  refine ⟨hwakeful.notEmpty.covered, hslots.covered, ?_⟩
  intro hquiescent
  obtain ⟨hwokenEmpty, hwokenFull⟩ := hquiescent.woken_eq hwakeful
  obtain ⟨hnotifyingEmpty, hnotifyingFull⟩ := hquiescent.notifying_eq hwakeful
  obtain ⟨hclosingEmpty, hclosingFull⟩ := hquiescent.broadcasting_eq hwakeful
  constructor
  · exact hwakeful.notEmpty.rest hwokenEmpty hnotifyingEmpty hclosingEmpty
  · intro hwaiting
    obtain ⟨_, hopen⟩ := hslots.rest hwokenFull hnotifyingFull hclosingFull hwaiting
    exact ⟨by omega, hopen⟩

/-- The value is in the queue, its notification not yet issued. -/
def inFlightActions : List (QueueAction Bool ℕ) :=
  [.call false .pop, .enter false, .call true (.push 7), .enter true]

theorem no_lost_wakeup_inFlight :
    ∃ machine : QueueMachine Bool ℕ, Reachable 1 Nat.one_pos machine ∧
      machine.notEmpty.waiting = {false} ∧ machine.queue.size = 1 ∧
      (machine.notEmpty.broadcasting.Nonempty ∨
        machine.queue.size ≤ machine.notEmpty.woken.card + machine.notEmpty.notifying.card) := by
  have hrun : (run step inFlightActions (create (.create 1 Nat.one_pos))).isSome = true := by
    decide
  have hreach : Reachable 1 Nat.one_pos (Option.get _ hrun) :=
    Reaches.of_run (Option.some_get hrun).symm (guarded_of_forall fun _ _ _ => trivial)
  have hwaiting : (Option.get _ hrun).notEmpty.waiting = {false} := rfl
  have hsleeper := (no_lost_wakeup hreach).1 (hwaiting ▸ singleton_nonempty false)
  exact ⟨_, hreach, hwaiting, rfl, hsleeper⟩

end QueueMachine

end SessionServer
