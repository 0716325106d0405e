import Mathlib.Data.List.Basic
import Mathlib.Logic.Relation

/-!
# Executable transition systems

A system is a partial step function: `step state action` is `none` when the
action is not enabled.  A run is a list of actions.  Reachability carries a
guard on the steps that may be taken, so that one rule serves both the
unrestricted system and the runs all of whose steps meet some condition.
-/

namespace TransitionSystem

variable {State Action : Type*}

/-- Execute the actions in order; `none` as soon as one is not enabled. -/
def run (step : State → Action → Option State) :
    List Action → State → Option State
  | [], state => some state
  | action :: rest, state => (step state action).bind (run step rest)

/-- Some run, every step of which meets the guard, leads to the state. -/
inductive Reaches
    (step : State → Action → Option State) (guard : State → Action → Prop)
    (initial : State) : State → Prop
  | start : Reaches step guard initial initial
  | next {state after : State} {action : Action} :
      Reaches step guard initial state → guard state action →
      step state action = some after → Reaches step guard initial after

/-- The property holds in every state the run visits. -/
def Throughout
    (step : State → Action → Option State) (property : State → Prop) :
    List Action → State → Prop
  | [], state => property state
  | action :: rest, state =>
    property state ∧ ∀ after, step state action = some after → Throughout step property rest after

/-- The guard holds at every step the run takes. -/
def Guarded
    (step : State → Action → Option State) (guard : State → Action → Prop) :
    List Action → State → Prop
  | [], _ => True
  | action :: rest, state =>
    ∀ after, step state action = some after → guard state action ∧ Guarded step guard rest after

variable {step : State → Action → Option State}
  {guard : State → Action → Prop} {property : State → Prop}
  {initial state after : State}
variable {actions : List Action}

@[simp] theorem run_nil (state : State) : run step [] state = some state := rfl

@[simp] theorem run_cons (action : Action) (rest : List Action) (state : State) :
    run step (action :: rest) state = (step state action).bind (run step rest) := rfl

/-- The invariant rule: what holds initially and is kept by every guarded
step holds in every reachable state. -/
theorem Reaches.invariant (hreach : Reaches step guard initial state) (hinitial : property initial)
    (hstep : ∀ before action next, property before → guard before action →
      step before action = some next → property next) :
    property state := by
  induction hreach with
  | start => exact hinitial
  | next _ hguard hnext ih => exact hstep _ _ _ ih hguard hnext

theorem Reaches.mono {weaker : State → Action → Prop} (hreach : Reaches step guard initial state)
    (hweaker : ∀ before action, guard before action → weaker before action) :
    Reaches step weaker initial state := by
  induction hreach with
  | start => exact .start
  | next _ hguard hnext ih => exact ih.next (hweaker _ _ hguard) hnext

theorem Reaches.trans (hfirst : Reaches step guard initial state)
    (hsecond : Reaches step guard state after) :
    Reaches step guard initial after := by
  induction hsecond with
  | start => exact hfirst
  | next _ hguard hnext ih => exact ih.next hguard hnext

/-- A run that can be executed and meets the guard witnesses reachability. -/
theorem Reaches.of_run (hrun : run step actions initial = some state)
    (hguarded : Guarded step guard actions initial) :
    Reaches step guard initial state := by
  induction actions generalizing initial with
  | nil =>
    simp only [run_nil, Option.some.injEq] at hrun
    subst hrun
    exact .start
  | cons _ _ ih =>
    simp only [run_cons, Option.bind_eq_some_iff] at hrun
    obtain ⟨middle, hmiddle, hrest⟩ := hrun
    obtain ⟨hguard, hguardedRest⟩ := hguarded middle hmiddle
    exact (Reaches.start.next hguard hmiddle).trans (ih hrest hguardedRest)

/-- Execute the actions in order as long as the check passes before each. -/
def runWhile (step : State → Action → Option State) (check : State → Bool) :
    List Action → State → Option State
  | [], state => some state
  | action :: rest, state =>
    if check state then (step state action).bind (runWhile step check rest) else none

theorem Reaches.of_runWhile {check : State → Bool}
    (hrun : runWhile step check actions initial = some state) :
    Reaches step (fun before _ => check before = true) initial state := by
  induction actions generalizing initial with
  | nil =>
    simp only [runWhile, Option.some.injEq] at hrun
    subst hrun
    exact .start
  | cons _ _ ih =>
    unfold runWhile at hrun
    split at hrun
    · next hcheck =>
      rw [Option.bind_eq_some_iff] at hrun
      obtain ⟨middle, hmiddle, hrest⟩ := hrun
      have hfirst : Reaches step (fun before _ => check before = true) initial middle :=
        Reaches.start.next hcheck hmiddle
      exact hfirst.trans (ih hrest)
    · cases hrun

theorem guarded_of_forall (hguard : ∀ before, ∀ action ∈ actions, guard before action) :
    Guarded step guard actions state := by
  induction actions generalizing state with
  | nil => trivial
  | cons _ _ ih =>
    intro _ _
    refine ⟨hguard _ _ (by simp), ih ?_⟩
    intro before other hother
    exact hguard before other (List.mem_cons_of_mem _ hother)

theorem Throughout.head (hall : Throughout step property actions state) : property state := by
  cases actions with
  | nil => exact hall
  | cons => exact hall.1

/-- A property holds throughout a run exactly when every step meets the guard,
if some invariant that the guarded steps keep implies the property, and no
other step leads to a state with the property. -/
theorem throughout_iff_guarded {inv : State → Prop} {allowed : Action → Prop}
    (hkeeps : ∀ before action next, inv before → allowed action →
      guard before action → step before action = some next → inv next)
    (hproperty : ∀ state, inv state → property state)
    (hguard : ∀ before action next, inv before → allowed action →
      step before action = some next → property next → guard before action)
    (hallowed : ∀ action ∈ actions, allowed action) (hinv : inv state) :
    Throughout step property actions state ↔ Guarded step guard actions state := by
  induction actions generalizing state with
  | nil =>
    constructor
    · intro _
      trivial
    · intro _
      exact hproperty state hinv
  | cons action rest ih =>
    have hfirst : allowed action := hallowed action (by simp)
    have hrest : ∀ other ∈ rest, allowed other := by
      intro other hother
      exact hallowed other (List.mem_cons_of_mem _ hother)
    constructor
    · rintro ⟨_, hall⟩ next hstep
      have hafter := hall next hstep
      have hmeets := hguard state action next hinv hfirst hstep hafter.head
      have hnext := hkeeps state action next hinv hfirst hmeets hstep
      exact ⟨hmeets, (ih hrest hnext).mp hafter⟩
    · intro hguarded
      apply And.intro (hproperty state hinv)
      intro next hstep
      obtain ⟨hmeets, hafter⟩ := hguarded next hstep
      have hnext := hkeeps state action next hinv hfirst hmeets hstep
      exact (ih hrest hnext).mpr hafter

end TransitionSystem
