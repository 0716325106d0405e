import Mathlib.Data.List.Basic
import Mathlib.Tactic

/-!
# The bounded blocking queue

Each operation is one critical section on the queue mutex.  A blocked `push`
or `pop` is an operation whose section cannot run yet: it answers `none`
until the wait condition of the source no longer holds.
-/

namespace SessionServer

structure BoundedBlockingQueue (α : Type*) where
  capacity : ℕ
  items : List α
  closed : Bool
  /-- The constructor rejects a capacity of zero. -/
  capacity_pos : 0 < capacity

namespace BoundedBlockingQueue

variable {α : Type*}

structure OperationResult where
  succeeded : Bool
  size : ℕ
  deriving DecidableEq, Repr

structure TryPopResult (α : Type*) where
  value : Option α
  size : ℕ
  deriving DecidableEq, Repr

def create (capacity : ℕ) (hcapacity : 0 < capacity) : BoundedBlockingQueue α where
  capacity := capacity
  items := []
  closed := false
  capacity_pos := hcapacity

def size (queue : BoundedBlockingQueue α) : ℕ :=
  queue.items.length

def enqueue (queue : BoundedBlockingQueue α) (value : α) :
    BoundedBlockingQueue α :=
  { queue with items := queue.items ++ [value] }

def tryPush (queue : BoundedBlockingQueue α) (value : α) :
    OperationResult × BoundedBlockingQueue α :=
  if queue.closed || queue.size == queue.capacity then
    (⟨false, queue.size⟩, queue)
  else
    (⟨true, queue.size + 1⟩, queue.enqueue value)

/-- `none` while the producer waits for a free slot. -/
def push (queue : BoundedBlockingQueue α) (value : α) :
    Option (OperationResult × BoundedBlockingQueue α) :=
  if queue.closed then
    some (⟨false, queue.size⟩, queue)
  else if queue.size = queue.capacity then
    none
  else
    some (⟨true, queue.size + 1⟩, queue.enqueue value)

/-- `none` while the consumer waits for a value. -/
def pop (queue : BoundedBlockingQueue α) :
    Option (OperationResult × Option α × BoundedBlockingQueue α) :=
  match queue.items with
  | [] => if queue.closed then some (⟨false, 0⟩, none, queue) else none
  | value :: rest =>
    some (⟨true, rest.length⟩, some value, { queue with items := rest })

def tryPop (queue : BoundedBlockingQueue α) : TryPopResult α × BoundedBlockingQueue α :=
  match queue.items with
  | [] => (⟨none, 0⟩, queue)
  | value :: rest => (⟨some value, rest.length⟩, { queue with items := rest })

def close (queue : BoundedBlockingQueue α) : BoundedBlockingQueue α :=
  { queue with closed := true }

@[simp] theorem create_items (capacity : ℕ) (hcapacity : 0 < capacity) :
    (create capacity hcapacity : BoundedBlockingQueue α).items = [] := rfl

@[simp] theorem create_closed (capacity : ℕ) (hcapacity : 0 < capacity) :
    (create capacity hcapacity : BoundedBlockingQueue α).closed = false := rfl

@[simp] theorem enqueue_items (queue : BoundedBlockingQueue α) (value : α) :
    (queue.enqueue value).items = queue.items ++ [value] := rfl

@[simp] theorem enqueue_closed (queue : BoundedBlockingQueue α) (value : α) :
    (queue.enqueue value).closed = queue.closed := rfl

@[simp] theorem close_items (queue : BoundedBlockingQueue α) :
    queue.close.items = queue.items := rfl

@[simp] theorem close_closed (queue : BoundedBlockingQueue α) :
    queue.close.closed = true := rfl

theorem tryPush_succeeded {queue : BoundedBlockingQueue α} {value : α}
    (hpush : (queue.tryPush value).1.succeeded = true) :
    queue.closed = false ∧ (queue.tryPush value).2 = queue.enqueue value := by
  unfold tryPush at hpush ⊢
  split
  next hblocked => simp [hblocked] at hpush
  next hopen =>
    simp only [Bool.or_eq_true, not_or, Bool.not_eq_true] at hopen
    exact ⟨hopen.1, rfl⟩

end BoundedBlockingQueue

end SessionServer
