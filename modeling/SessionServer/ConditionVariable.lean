import Mathlib.Data.Finset.Card
import Mathlib.Tactic

/-!
# Condition variables

A condition variable is the threads it concerns: those asleep on it, those
woken but not yet running again, and those that have left their critical
section with a notification still to issue.  Sleepers wait for a supply of
something the mutex protects, or for a flag that ends the waiting.

`Attentive` is the counting invariant behind notifying one thread per unit of
supply: as long as somebody sleeps, every unit has a woken thread or a
notification of its own, whoever takes the units in between.
-/

structure ConditionVariable (Thread : Type*) where
  waiting : Finset Thread
  woken : Finset Thread
  /-- Threads with a `notify_one` still to issue. -/
  notifying : Finset Thread
  /-- Threads with a `notify_all` still to issue. -/
  broadcasting : Finset Thread
  disjoint : Disjoint waiting woken

namespace ConditionVariable

open Finset

variable {Thread : Type*} [DecidableEq Thread]

def empty : ConditionVariable Thread where
  waiting := ∅
  woken := ∅
  notifying := ∅
  broadcasting := ∅
  disjoint := disjoint_empty_left ∅

/-- The thread goes to sleep, also when it was just woken. -/
def wait (condition : ConditionVariable Thread) (thread : Thread) :
    ConditionVariable Thread where
  waiting := insert thread condition.waiting
  woken := condition.woken.erase thread
  notifying := condition.notifying
  broadcasting := condition.broadcasting
  disjoint := by
    rw [disjoint_insert_left]
    constructor
    · exact notMem_erase thread condition.woken
    · exact condition.disjoint.mono_right (erase_subset _ _)

/-- The thread runs again after its wait. -/
def resume (condition : ConditionVariable Thread) (thread : Thread) :
    ConditionVariable Thread where
  waiting := condition.waiting
  woken := condition.woken.erase thread
  notifying := condition.notifying
  broadcasting := condition.broadcasting
  disjoint := condition.disjoint.mono_right (erase_subset _ _)

/-- One sleeper wakes, by a notification or on its own. -/
def wake (condition : ConditionVariable Thread) (thread : Thread) :
    ConditionVariable Thread where
  waiting := condition.waiting.erase thread
  woken := insert thread condition.woken
  notifying := condition.notifying
  broadcasting := condition.broadcasting
  disjoint := by
    rw [disjoint_insert_right]
    constructor
    · exact notMem_erase thread condition.waiting
    · exact condition.disjoint.mono_left (erase_subset _ _)

/-- The thread will issue a `notify_one`. -/
def promise (condition : ConditionVariable Thread) (thread : Thread) :
    ConditionVariable Thread :=
  { condition with notifying := insert thread condition.notifying }

/-- The thread will issue a `notify_all`. -/
def promiseAll (condition : ConditionVariable Thread) (thread : Thread) :
    ConditionVariable Thread :=
  { condition with broadcasting := insert thread condition.broadcasting }

/-- The thread issues its `notify_one`, which wakes the given sleeper; `none`
is the notification that finds nobody asleep. -/
def notifyOne (condition : ConditionVariable Thread) (thread : Thread) :
    Option Thread → ConditionVariable Thread
  | some sleeper =>
    { condition.wake sleeper with notifying := condition.notifying.erase thread }
  | none => { condition with notifying := condition.notifying.erase thread }

/-- The thread issues its `notify_all`. -/
def notifyAll (condition : ConditionVariable Thread) (thread : Thread) :
    ConditionVariable Thread where
  waiting := ∅
  woken := condition.woken ∪ condition.waiting
  notifying := condition.notifying
  broadcasting := condition.broadcasting.erase thread
  disjoint := disjoint_empty_left _

/-- The threads inside a `wait`. -/
def parked (condition : ConditionVariable Thread) : Finset Thread :=
  condition.waiting ∪ condition.woken

@[simp] theorem parked_wait (condition : ConditionVariable Thread) (thread : Thread) :
    (condition.wait thread).parked = insert thread condition.parked := by
  ext other
  by_cases hother : other = thread <;> simp [parked, wait, hother]

theorem parked_resume {condition : ConditionVariable Thread} {thread : Thread}
    (hawake : thread ∉ condition.waiting) :
    (condition.resume thread).parked = condition.parked.erase thread := by
  ext other
  by_cases hother : other = thread
  · simp [parked, resume, hother, hawake]
  · simp [parked, resume, hother]

theorem parked_wake {condition : ConditionVariable Thread} {thread : Thread}
    (hwaiting : thread ∈ condition.waiting) :
    (condition.wake thread).parked = condition.parked := by
  ext other
  by_cases hother : other = thread
  · simp [parked, wake, hother, hwaiting]
  · simp [parked, wake, hother]

@[simp] theorem parked_notifyAll (condition : ConditionVariable Thread) (thread : Thread) :
    (condition.notifyAll thread).parked = condition.parked := by
  simp only [parked, notifyAll, empty_union]
  exact union_comm _ _

section Fields

variable (condition : ConditionVariable Thread) (thread : Thread)

@[simp] theorem wait_notifying : (condition.wait thread).notifying = condition.notifying := rfl

@[simp] theorem wait_broadcasting :
    (condition.wait thread).broadcasting = condition.broadcasting := rfl

@[simp] theorem resume_notifying :
    (condition.resume thread).notifying = condition.notifying := rfl

@[simp] theorem resume_broadcasting :
    (condition.resume thread).broadcasting = condition.broadcasting := rfl

@[simp] theorem wake_notifying : (condition.wake thread).notifying = condition.notifying := rfl

@[simp] theorem wake_broadcasting :
    (condition.wake thread).broadcasting = condition.broadcasting := rfl

@[simp] theorem promise_parked : (condition.promise thread).parked = condition.parked := rfl

@[simp] theorem promise_notifying :
    (condition.promise thread).notifying = insert thread condition.notifying := rfl

@[simp] theorem promise_broadcasting :
    (condition.promise thread).broadcasting = condition.broadcasting := rfl

@[simp] theorem promiseAll_parked :
    (condition.promiseAll thread).parked = condition.parked := rfl

@[simp] theorem promiseAll_notifying :
    (condition.promiseAll thread).notifying = condition.notifying := rfl

@[simp] theorem promiseAll_broadcasting :
    (condition.promiseAll thread).broadcasting = insert thread condition.broadcasting := rfl

@[simp] theorem notifyOne_notifying (sleeper : Option Thread) :
    (condition.notifyOne thread sleeper).notifying = condition.notifying.erase thread := by
  cases sleeper <;> rfl

@[simp] theorem notifyOne_broadcasting (sleeper : Option Thread) :
    (condition.notifyOne thread sleeper).broadcasting = condition.broadcasting := by
  cases sleeper <;> rfl

@[simp] theorem notifyAll_notifying :
    (condition.notifyAll thread).notifying = condition.notifying := rfl

@[simp] theorem notifyAll_broadcasting :
    (condition.notifyAll thread).broadcasting = condition.broadcasting.erase thread := rfl

end Fields

/-- What a `notify_one` may do: wake some sleeper, or nothing if there is none. -/
def Wakes (condition : ConditionVariable Thread) : Option Thread → Prop
  | some sleeper => sleeper ∈ condition.waiting
  | none => condition.waiting = ∅

instance (condition : ConditionVariable Thread) :
    DecidablePred condition.Wakes
  | some sleeper => inferInstanceAs (Decidable (sleeper ∈ condition.waiting))
  | none => inferInstanceAs (Decidable (condition.waiting = ∅))

theorem parked_notifyOne {condition : ConditionVariable Thread} {sleeper : Option Thread}
    (hwakes : condition.Wakes sleeper) (thread : Thread) :
    (condition.notifyOne thread sleeper).parked = condition.parked := by
  cases sleeper with
  | none => rfl
  | some => exact parked_wake hwakes

omit [DecidableEq Thread] in
theorem exists_wakes (condition : ConditionVariable Thread) :
    ∃ sleeper, condition.Wakes sleeper := by
  by_cases hempty : condition.waiting = ∅
  · exact ⟨none, hempty⟩
  · obtain ⟨sleeper, hsleeper⟩ := nonempty_iff_ne_empty.mpr hempty
    exact ⟨some sleeper, hsleeper⟩

/-- Nobody sleeps on a unit of supply that has neither a woken thread nor a
notification in flight, and nobody sleeps through the end of the waiting,
except until a broadcast that is still to come. -/
structure Attentive (condition : ConditionVariable Thread) (supply : ℕ) (ended : Bool) :
    Prop where
  covered : condition.waiting.Nonempty →
    condition.broadcasting.Nonempty ∨ supply ≤ condition.woken.card + condition.notifying.card
  released : ended = true → condition.waiting.Nonempty → condition.broadcasting.Nonempty

namespace Attentive

variable {condition : ConditionVariable Thread} {supply : ℕ} {ended : Bool}

omit [DecidableEq Thread] in
theorem empty (supply : ℕ) (ended : Bool) :
    (ConditionVariable.empty : ConditionVariable Thread).Attentive supply ended where
  covered := by
    intro hwaiting
    exact absurd hwaiting not_nonempty_empty
  released := by
    intro _ hwaiting
    exact absurd hwaiting not_nonempty_empty

omit [DecidableEq Thread] in
theorem mono {fewer : ℕ} (hattentive : condition.Attentive supply ended)
    (hfewer : fewer ≤ supply) : condition.Attentive fewer ended where
  covered := by
    intro hwaiting
    cases hattentive.covered hwaiting with
    | inl hbroadcast => exact Or.inl hbroadcast
    | inr hsupply => exact Or.inr (hfewer.trans hsupply)
  released := hattentive.released

/-- A thread goes to sleep only when there is no supply. -/
theorem wait (condition : ConditionVariable Thread) (thread : Thread) :
    (condition.wait thread).Attentive 0 false where
  covered := by
    intro _
    exact Or.inr (Nat.zero_le _)
  released := by
    intro hended
    exact absurd hended Bool.false_ne_true

/-- A thread that runs again takes one unit. -/
theorem take (hattentive : condition.Attentive (supply + 1) ended) (thread : Thread) :
    (condition.resume thread).Attentive supply ended where
  covered := by
    intro hwaiting
    cases hattentive.covered hwaiting with
    | inl hbroadcast => exact Or.inl hbroadcast
    | inr =>
      have hcard : condition.woken.card - 1 ≤ (condition.woken.erase thread).card :=
        pred_card_le_card_erase
      simp only [ConditionVariable.resume]
      omega
  released := hattentive.released

/-- After the end a thread may run again without taking anything. -/
theorem quit (hattentive : condition.Attentive supply true) (thread : Thread) :
    (condition.resume thread).Attentive supply true where
  covered := by
    intro hwaiting
    exact Or.inl (hattentive.released rfl hwaiting)
  released := hattentive.released

/-- A new unit comes with a notification of its own. -/
theorem give (hattentive : condition.Attentive supply ended) {thread : Thread}
    (hthread : thread ∉ condition.notifying) :
    (condition.promise thread).Attentive (supply + 1) ended where
  covered := by
    intro hwaiting
    cases hattentive.covered hwaiting with
    | inl hbroadcast => exact Or.inl hbroadcast
    | inr =>
      simp only [promise, card_insert_of_notMem hthread]
      omega
  released := hattentive.released

theorem finish (condition : ConditionVariable Thread) (supply : ℕ) (thread : Thread) :
    (condition.promiseAll thread).Attentive supply true where
  covered := by
    intro _
    exact Or.inl (insert_nonempty _ _)
  released := by
    intro _ _
    exact insert_nonempty _ _

theorem wake (hattentive : condition.Attentive supply ended) (thread : Thread) :
    (condition.wake thread).Attentive supply ended := by
  have hwaiting : (condition.wake thread).waiting.Nonempty → condition.waiting.Nonempty := by
    intro hnonempty
    exact hnonempty.mono (erase_subset _ _)
  constructor
  · intro hnonempty
    cases hattentive.covered (hwaiting hnonempty) with
    | inl hbroadcast => exact Or.inl hbroadcast
    | inr =>
      have hcard : condition.woken.card ≤ (insert thread condition.woken).card :=
        card_le_card (subset_insert _ _)
      simp only [ConditionVariable.wake]
      omega
  · intro hended hnonempty
    exact hattentive.released hended (hwaiting hnonempty)

/-- A notification turns into a woken thread, or finds nobody asleep. -/
theorem notifyOne (hattentive : condition.Attentive supply ended) (thread : Thread)
    {sleeper : Option Thread} (hwakes : condition.Wakes sleeper) :
    (condition.notifyOne thread sleeper).Attentive supply ended := by
  cases sleeper with
  | none =>
    have hempty : ¬condition.waiting.Nonempty := by
      rw [not_nonempty_iff_eq_empty]
      exact hwakes
    constructor
    · intro hnonempty
      exact absurd hnonempty hempty
    · intro _ hnonempty
      exact absurd hnonempty hempty
  | some sleeper =>
    have hnonempty : condition.waiting.Nonempty := ⟨sleeper, hwakes⟩
    constructor
    · intro _
      cases hattentive.covered hnonempty with
      | inl hbroadcast => exact Or.inl hbroadcast
      | inr =>
        have hasleep : sleeper ∉ condition.woken :=
          disjoint_left.mp condition.disjoint hwakes
        have hcard : condition.notifying.card - 1 ≤ (condition.notifying.erase thread).card :=
          pred_card_le_card_erase
        simp only [ConditionVariable.notifyOne, ConditionVariable.wake,
          card_insert_of_notMem hasleep]
        omega
    · intro hended _
      exact hattentive.released hended hnonempty

theorem notifyAll (condition : ConditionVariable Thread) (supply : ℕ) (ended : Bool)
    (thread : Thread) : (condition.notifyAll thread).Attentive supply ended where
  covered := by
    intro hwaiting
    exact absurd hwaiting not_nonempty_empty
  released := by
    intro _ hwaiting
    exact absurd hwaiting not_nonempty_empty

omit [DecidableEq Thread] in
/-- Once every notification has been issued and every woken thread has run,
whoever still sleeps has nothing to take. -/
theorem rest (hattentive : condition.Attentive supply ended)
    (hwoken : condition.woken = ∅) (hnotifying : condition.notifying = ∅)
    (hbroadcasting : condition.broadcasting = ∅) (hwaiting : condition.waiting.Nonempty) :
    supply = 0 ∧ ended = false := by
  have hquiet : ¬condition.broadcasting.Nonempty := by
    rw [hbroadcasting]
    exact not_nonempty_empty
  constructor
  · cases hattentive.covered hwaiting with
    | inl hbroadcast => exact absurd hbroadcast hquiet
    | inr hsupply =>
      rw [hwoken, hnotifying] at hsupply
      exact Nat.le_zero.mp hsupply
  · rw [Bool.eq_false_iff]
    intro hended
    exact hquiet (hattentive.released hended hwaiting)

end Attentive

end ConditionVariable
