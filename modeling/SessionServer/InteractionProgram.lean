import Mathlib.Tactic

/-!
# Programs that call their environment

A program returns, throws, or makes a call and goes on with the answer.  What
a call does is not part of the program: `run` interprets the calls by functions
on a state, and `Calls` bounds the calls it can make whatever the answers are.
-/

inductive InteractionProgram {Call : Type} (Answer : Call → Type) (Exn α : Type)
  | done (result : α)
  | fail (exception : Exn)
  | call (request : Call) (next : Answer request → InteractionProgram Answer Exn α)

namespace InteractionProgram

variable {Call : Type} {Answer : Call → Type} {Exn α β : Type}

def bind (program : InteractionProgram Answer Exn α)
    (rest : α → InteractionProgram Answer Exn β) : InteractionProgram Answer Exn β :=
  match program with
  | .done result => rest result
  | .fail exception => .fail exception
  | .call request next => .call request fun answer => (next answer).bind rest

def handle (program : InteractionProgram Answer Exn α)
    (handler : Exn → InteractionProgram Answer Exn α) : InteractionProgram Answer Exn α :=
  match program with
  | .done result => .done result
  | .fail exception => handler exception
  | .call request next => .call request fun answer => (next answer).handle handler

instance : Monad (InteractionProgram Answer Exn) where
  pure := .done
  bind := bind

instance : MonadExcept Exn (InteractionProgram Answer Exn) where
  throw := .fail
  tryCatch := handle

/-- The call alone. -/
def perform (request : Call) : InteractionProgram Answer Exn (Answer request) :=
  .call request .done

/-- A computation that makes no calls; its error is rethrown as an exception. -/
def ofExcept {Err : Type} (raise : Err → Exn) :
    Except Err α → InteractionProgram Answer Exn α
  | .ok result => .done result
  | .error error => .fail (raise error)

/-! ## Interpretation -/

section Run

variable {State : Type} (respond : (request : Call) → State → Answer request × State)

/-- Execute the program; the state after an exception is the one it was thrown
in. -/
def run : InteractionProgram Answer Exn α → State → Except Exn α × State
  | .done result, state => (.ok result, state)
  | .fail exception, state => (.error exception, state)
  | .call request next, state =>
    run (next (respond request state).1) (respond request state).2

@[simp] theorem run_pure (result : α) (state : State) :
    run respond (pure result : InteractionProgram Answer Exn α) state = (.ok result, state) :=
  rfl

@[simp] theorem run_throw (exception : Exn) (state : State) :
    run respond (throw exception : InteractionProgram Answer Exn α) state =
      (.error exception, state) :=
  rfl

@[simp] theorem run_perform (request : Call) (state : State) :
    run respond (perform request : InteractionProgram Answer Exn _) state =
      (.ok (respond request state).1, (respond request state).2) :=
  rfl

theorem run_bind (program : InteractionProgram Answer Exn α)
    (rest : α → InteractionProgram Answer Exn β) (state : State) :
    run respond (program >>= rest) state =
      match run respond program state with
      | (.ok result, after) => run respond (rest result) after
      | (.error exception, after) => (.error exception, after) := by
  induction program generalizing state with
  | done | fail => rfl
  | call _ _ ih => exact ih _ _

theorem run_tryCatch (program : InteractionProgram Answer Exn α)
    (handler : Exn → InteractionProgram Answer Exn α) (state : State) :
    run respond (tryCatch program handler) state =
      match run respond program state with
      | (.ok result, after) => (.ok result, after)
      | (.error exception, after) => run respond (handler exception) after := by
  induction program generalizing state with
  | done | fail => rfl
  | call _ _ ih => exact ih _ _

@[simp] theorem run_ofExcept_ok {Err : Type} (raise : Err → Exn) (result : α) (state : State) :
    run respond (ofExcept raise (.ok result) : InteractionProgram Answer Exn α) state =
      (.ok result, state) :=
  rfl

@[simp] theorem run_ofExcept_error {Err : Type} (raise : Err → Exn) (error : Err) (state : State) :
    run respond (ofExcept raise (.error error) : InteractionProgram Answer Exn α) state =
      (.error (raise error), state) :=
  rfl

end Run

/-! ## The calls a program can make -/

section Calls

/-- Whatever the answers, every call is an allowed one. -/
inductive Calls (allowed : Call → Prop) : InteractionProgram Answer Exn α → Prop
  | done (result : α) : Calls allowed (.done result)
  | fail (exception : Exn) : Calls allowed (.fail exception)
  | call {request : Call} {next : Answer request → InteractionProgram Answer Exn α}
      (hallowed : allowed request) (hnext : ∀ answer, Calls allowed (next answer)) :
      Calls allowed (.call request next)

variable {allowed : Call → Prop} {program : InteractionProgram Answer Exn α}

theorem calls_pure (result : α) : (pure result : InteractionProgram Answer Exn α).Calls allowed :=
  .done result

theorem calls_throw (exception : Exn) :
    (throw exception : InteractionProgram Answer Exn α).Calls allowed :=
  .fail exception

theorem calls_perform {request : Call} (hallowed : allowed request) :
    (perform request : InteractionProgram Answer Exn (Answer request)).Calls allowed :=
  .call hallowed fun answer => .done answer

theorem calls_ofExcept {Err : Type} (raise : Err → Exn) (computation : Except Err α) :
    (ofExcept raise computation : InteractionProgram Answer Exn α).Calls allowed := by
  cases computation with
  | ok result => exact .done result
  | error => exact .fail _

variable (hcalls : program.Calls allowed)
include hcalls

theorem Calls.bind {rest : α → InteractionProgram Answer Exn β}
    (hrest : ∀ result, (rest result).Calls allowed) :
    (program >>= rest).Calls allowed := by
  induction hcalls with
  | done result => exact hrest result
  | fail exception => exact .fail exception
  | call hallowed _ ih => exact .call hallowed ih

theorem Calls.tryCatch {handler : Exn → InteractionProgram Answer Exn α}
    (hhandler : ∀ exception, (handler exception).Calls allowed) :
    (tryCatch program handler).Calls allowed := by
  induction hcalls with
  | done result => exact .done result
  | fail exception => exact hhandler exception
  | call hallowed _ ih => exact .call hallowed ih

theorem Calls.mono {weaker : Call → Prop}
    (hweaker : ∀ request, allowed request → weaker request) : program.Calls weaker := by
  induction hcalls with
  | done result => exact .done result
  | fail exception => exact .fail exception
  | call hallowed _ ih => exact .call (hweaker _ hallowed) ih

/-- What every allowed call keeps true stays true. -/
theorem Calls.run_invariant {State : Type}
    {respond : (request : Call) → State → Answer request × State} (holds : State → Prop)
    (hkeeps : ∀ request state, allowed request → holds state →
      holds (respond request state).2) (state : State) (hstate : holds state) :
    holds (run respond program state).2 := by
  induction hcalls generalizing state with
  | done | fail => exact hstate
  | call hallowed _ ih =>
    exact ih _ _ (hkeeps _ state hallowed hstate)

/-- What no allowed call changes, the program does not change. -/
theorem Calls.run_keeps {State γ : Type}
    {respond : (request : Call) → State → Answer request × State} (observe : State → γ)
    (hkeeps : ∀ request state, allowed request →
      observe (respond request state).2 = observe state) (state : State) :
    observe (run respond program state).2 = observe state :=
  hcalls.run_invariant (fun after => observe after = observe state)
    (fun request after hallowed hafter => (hkeeps request after hallowed).trans hafter)
    state rfl

end Calls

end InteractionProgram
