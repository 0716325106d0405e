import Mathlib.Data.List.Basic

/-!
# Machines that answer calls

A machine answers each call with a result and moves to a next state.  If an
abstraction of the states commutes with every call, then the two machines give
the same results to every sequence of calls.
-/

structure ObservedMachine (Call Result State : Type) where
  respond : State → Call → Result × State

namespace ObservedMachine

variable {Call Result State Abstract : Type}

/-- The results of the calls, in order, and the state behind them. -/
def run (machine : ObservedMachine Call Result State) :
    State → List Call → List Result × State
  | state, [] => ([], state)
  | state, call :: rest =>
    let (result, next) := machine.respond state call
    let (results, final) := machine.run next rest
    (result :: results, final)

variable (machine : ObservedMachine Call Result State)

@[simp] theorem run_nil (state : State) : machine.run state [] = ([], state) := rfl

theorem run_cons (state : State) (call : Call) (rest : List Call) :
    machine.run state (call :: rest) =
      ((machine.respond state call).1 :: (machine.run (machine.respond state call).2 rest).1,
        (machine.run (machine.respond state call).2 rest).2) := rfl

/-- Calls that commute with the abstraction one by one commute with it along
every run. -/
theorem run_abstraction {abstract : ObservedMachine Call Result Abstract}
    {abstraction : State → Abstract}
    (hrespond : ∀ state call, abstract.respond (abstraction state) call =
      Prod.map id abstraction (machine.respond state call))
    (state : State) (calls : List Call) :
    abstract.run (abstraction state) calls = Prod.map id abstraction (machine.run state calls) := by
  induction calls generalizing state with
  | nil => rfl
  | cons _ _ ih =>
    rw [run_cons, run_cons, hrespond, Prod.map_fst, Prod.map_snd, ih]
    rfl

/-- What every call keeps holds along every run. -/
theorem run_invariant {invariant : State → Prop}
    (hrespond : ∀ state call, invariant state → invariant (machine.respond state call).2)
    {state : State} (hstate : invariant state) (calls : List Call) :
    invariant (machine.run state calls).2 := by
  induction calls generalizing state with
  | nil => exact hstate
  | cons call rest ih => exact ih (hrespond state call hstate)

end ObservedMachine
