import SessionServer.SessionEventCustody
import SessionServer.SessionTurnPreservation
import SessionServer.WorkerPoolInversion

/-!
# The pool seen by each session

`Pool.view` is what the pool looks like from one session.  A worker shows up
there while it refers to the state that the map holds for the session.
-/

namespace SessionServer.WorkerPool

open Pool Worker Function

variable {n : ℕ}
variable {event : SessionEvent}

/-! ## The view -/

def Worker.task (sessionId : SessionId) (current : Option StateRef) : Worker → Task
  | .hand event ref stage =>
    if event.sessionId = sessionId ∧ current = some ref then .hand event stage
    else .idle
  | .turn event ref stage =>
    if event.sessionId = sessionId ∧ current = some ref then .turn event stage
    else .idle
  | _ => .idle

def Pool.current (pool : Pool n) (sessionId : SessionId) : Option StateRef :=
  pool.sequenceBySession.lookup sessionId

theorem Pool.TurnEnded.current_of_ne {pool after : Pool n} {ref : StateRef}
    (hended : pool.TurnEnded after event ref) {sessionId : SessionId}
    (hne : sessionId ≠ event.sessionId) : after.current sessionId = pool.current sessionId := by
  unfold Pool.current
  rw [hended.sequenceBySession]
  split
  · exact Finmap.lookup_erase_ne hne
  · rfl

def Pool.stateOf (pool : Pool n) (sessionId : SessionId) : SessionSequenceState :=
  match pool.current sessionId with
  | some ref => pool.states ref
  | none => {}

/-- The completion may still be pushed: the handler has returned, and the
first call has not happened or has not reached the inbox. -/
def Deferral.isCallable (deferral : Deferral) : Bool :=
  (deferral.handlerReturned && !deferral.completed) || deferral.pushing.isSome

def Deferral.callable (sessionId : SessionId) (deferral : Deferral) : Multiset ℕ :=
  if deferral.sessionId = sessionId ∧ deferral.isCallable = true then
    {deferral.sequence}
  else 0

def Pool.callableOf (pool : Pool n) (sessionId : SessionId) : Multiset ℕ :=
  ∑ id ∈ Finset.range pool.nextDeferral, (pool.deferrals id).callable sessionId

def Transcript.of (transcript : Transcript) (sessionId : SessionId) : Transcript :=
  transcript.filter fun observation => observation.sessionId == sessionId

def Pool.view (pool : Pool n) (sessionId : SessionId) : SessionView n where
  sessionId := sessionId
  registered := (pool.current sessionId).isSome
  state := pool.stateOf sessionId
  queue := pool.queued.filter fun event => event.sessionId == sessionId
  tasks := fun w => (pool.workers w).task sessionId (pool.current sessionId)
  callable := pool.callableOf sessionId
  log := Transcript.of pool.transcript sessionId

/-- From here on completions may be refused and held events dropped. -/
def Pool.lossy (pool : Pool n) : Bool :=
  pool.forceStopRequested || pool.inbox.closed

theorem Pool.initial_view (inbox : BoundedBlockingQueue SessionEvent)
    (outbox : BoundedBlockingQueue OutboundMessage) (hempty : inbox.items = [])
    (sessionId : SessionId) :
    (Pool.initial n inbox outbox).view sessionId = SessionView.initial n sessionId := by
  simp [Pool.view, Pool.initial, SessionView.initial, stateOf, Pool.current, queued,
    callableOf, Transcript.of, task, hempty]

theorem Transcript.of_append (first second : Transcript) (sessionId : SessionId) :
    Transcript.of (first ++ second) sessionId =
      Transcript.of first sessionId ++ Transcript.of second sessionId :=
  List.filter_append ..

theorem Transcript.of_self {transcript : Transcript} {sessionId : SessionId}
    (hall : ∀ observation ∈ transcript, observation.sessionId = sessionId) :
    Transcript.of transcript sessionId = transcript := by
  apply List.filter_eq_self.mpr
  intro observation hobservation
  simpa using hall observation hobservation

theorem Transcript.of_other {transcript : Transcript} {sessionId : SessionId}
    (hall : ∀ observation ∈ transcript, observation.sessionId ≠ sessionId) :
    Transcript.of transcript sessionId = [] := by
  apply List.filter_eq_nil_iff.mpr
  intro observation hobservation
  simpa using hall observation hobservation

/-! ## The invariants of the references -/

structure Pool.RefInvariant (pool : Pool n) : Prop where
  current : ∀ sessionId ref, pool.current sessionId = some ref →
    ref < pool.nextRef ∧ pool.owner ref = sessionId
  hand : ∀ w event ref stage, pool.workers w = .hand event ref stage →
    ref < pool.nextRef ∧ pool.owner ref = event.sessionId ∧
      (pool.current event.sessionId = some ref ∨ (pool.states ref).closed = true)
  turn : ∀ w event ref stage, pool.workers w = .turn event ref stage →
    pool.current event.sessionId = some ref

/-- A deferral of a running handler is still open or completed inline. -/
structure Pool.DeferralInvariant (pool : Pool n) : Prop where
  pushing : ∀ id payload, (pool.deferrals id).pushing = some payload →
    (pool.deferrals id).completed = true ∧ (pool.deferrals id).handlerReturned = true
  handling : ∀ w event ref stage id, pool.workers w = .turn event ref stage →
    stage.deferral = some id →
      id < pool.nextDeferral ∧ (pool.deferrals id).sessionId = event.sessionId ∧
        (pool.deferrals id).sequence = event.sequence ∧
        (pool.deferrals id).handlerReturned = false ∧
        (pool.deferrals id).inlinePayload.isSome = (pool.deferrals id).completed

structure Pool.Invariant (pool : Pool n) : Prop where
  refs : pool.RefInvariant
  deferrals : pool.DeferralInvariant
  turns : ∀ sessionId, (pool.view sessionId).TurnInvariant
  own : ∀ sessionId, (pool.view sessionId).OwnEvents

/-! ## Views of single changes -/

theorem Pool.stateOf_of_current {pool : Pool n} {sessionId : SessionId}
    {ref : StateRef} (hcurrent : pool.current sessionId = some ref) :
    pool.stateOf sessionId = pool.states ref := by
  simp [stateOf, hcurrent]

theorem Pool.view_tasks (pool : Pool n) (sessionId : SessionId) (w : Fin n) :
    (pool.view sessionId).tasks w = (pool.workers w).task sessionId (pool.current sessionId) := rfl

theorem Pool.view_of_hand {pool : Pool n} {w : Fin n} {ref : StateRef} {stage : HandStage}
    (hworker : pool.workers w = .hand event ref stage)
    (hcurrent : pool.current event.sessionId = some ref) :
    (pool.view event.sessionId).tasks w = .hand event stage := by
  simp [view_tasks, hworker, task, hcurrent]

theorem Pool.view_of_turn {pool : Pool n} {w : Fin n} {ref : StateRef} {stage : TurnStage}
    (hworker : pool.workers w = .turn event ref stage)
    (hcurrent : pool.current event.sessionId = some ref) :
    (pool.view event.sessionId).tasks w = .turn event stage := by
  simp [view_tasks, hworker, task, hcurrent]

theorem Worker.task_hand {sessionId : SessionId}
    (hsession : event.sessionId = sessionId) {ref : StateRef} {stage : HandStage} :
    (hand event ref stage).task sessionId (some ref) = .hand event stage := by
  simp [task, hsession]

theorem Worker.task_turn {sessionId : SessionId}
    (hsession : event.sessionId = sessionId) {ref : StateRef} {stage : TurnStage} :
    (turn event ref stage).task sessionId (some ref) = .turn event stage := by
  simp [task, hsession]

/-- A worker that serves one session with one state is invisible elsewhere. -/
def Worker.Serves (sessionId : SessionId) (ref : StateRef) : Worker → Prop
  | .hand event other _ => event.sessionId = sessionId ∧ other = ref
  | .turn event other _ => event.sessionId = sessionId ∧ other = ref
  | _ => True

theorem Worker.Serves.task_of_ne {worker : Worker} {sessionId other : SessionId}
    {ref : StateRef} (hserves : worker.Serves sessionId ref)
    (hne : other ≠ sessionId) (current : Option StateRef) :
    worker.task other current = .idle := by
  cases worker with
  | hand event | turn event =>
    have hevent : event.sessionId ≠ other := by rw [hserves.1]; exact hne.symm
    simp [task, hevent]
  | _ => rfl

theorem Worker.Serves.task_of_stale {worker : Worker} {sessionId : SessionId}
    {ref : StateRef} (hserves : worker.Serves sessionId ref)
    (other : SessionId) {current : Option StateRef} (hstale : current ≠ some ref) :
    worker.task other current = .idle := by
  cases worker with
  | hand _ held | turn _ held =>
    have hheld : current ≠ some held := by rw [hserves.2]; exact hstale
    simp [task, hheld]
  | _ => rfl

/-- The parts of the pool that the views are made of, apart from the
completions that may still be pushed. -/
structure Pool.Moves (pool after : Pool n) (w : Fin n) (worker : Worker)
    (ref : StateRef) (state : SessionSequenceState)
    (observations : List Observation) : Prop where
  workers : after.workers = update pool.workers w worker
  states : after.states = update pool.states ref state
  transcript : after.transcript = pool.transcript ++ observations
  queued : after.queued = pool.queued
  sequenceBySession : after.sequenceBySession = pool.sequenceBySession

theorem Pool.Acts.moves {pool after : Pool n} {w : Fin n} {worker : Worker}
    {ref : StateRef} {state : SessionSequenceState} {observations : List Observation}
    (hacts : pool.Acts after w worker ref state observations) :
    pool.Moves after w worker ref state observations :=
  ⟨hacts.workers, hacts.states, hacts.transcript, queued_congr hacts.inbox hacts.intake,
    hacts.sequenceBySession⟩

theorem Pool.Acts.callableOf {pool after : Pool n} {w : Fin n} {worker : Worker}
    {ref : StateRef} {state : SessionSequenceState} {observations : List Observation}
    (hacts : pool.Acts after w worker ref state observations) (sessionId : SessionId) :
    after.callableOf sessionId = pool.callableOf sessionId := by
  unfold Pool.callableOf
  rw [hacts.deferrals, hacts.nextDeferral]

section Moves

variable {pool after : Pool n} {w : Fin n} {worker : Worker} {ref : StateRef}
  {state : SessionSequenceState} {observations : List Observation}
  {sessionId : SessionId}

theorem Pool.Moves.of_worker (hworkers : after.workers = update pool.workers w worker)
    (hstates : after.states = pool.states) (htranscript : after.transcript = pool.transcript)
    (hqueued : after.queued = pool.queued)
    (hmap : after.sequenceBySession = pool.sequenceBySession) (ref : StateRef) :
    pool.Moves after w worker ref (pool.states ref) [] := by
  constructor
  · exact hworkers
  · rw [hstates, update_eq_self]
  · rw [htranscript, List.append_nil]
  · exact hqueued
  · exact hmap

section View

variable (hmoves : pool.Moves after w worker ref state observations)
include hmoves

theorem Pool.Moves.current
    (sessionId : SessionId) : after.current sessionId = pool.current sessionId := by
  unfold Pool.current
  rw [hmoves.sequenceBySession]

theorem Pool.Moves.view_self (hcurrent : pool.current sessionId = some ref)
    (hobservations : ∀ observation ∈ observations, observation.sessionId = sessionId) :
    after.view sessionId =
      { { pool.view sessionId with state := state }.advance w
          (worker.task sessionId (some ref)) observations with
        callable := after.callableOf sessionId } := by
  have hafter := (hmoves.current sessionId).trans hcurrent
  have htasks : (fun v => (after.workers v).task sessionId (some ref)) =
      update (fun v => (pool.workers v).task sessionId (some ref)) w
        (worker.task sessionId (some ref)) := by
    funext v
    rw [hmoves.workers]
    by_cases hv : v = w
    · subst hv
      simp
    · simp [hv]
  simp only [Pool.view, SessionView.advance, hafter, hcurrent, htasks,
    stateOf_of_current hafter, hmoves.states, hmoves.queued, hmoves.transcript,
    update_self, Transcript.of_append, Transcript.of_self hobservations]

/-- The step is not visible: the worker is not, and the state is not the
session's or is not changed. -/
theorem Pool.Moves.view_hidden
    (hbefore : (pool.workers w).task sessionId (pool.current sessionId) = .idle)
    (hafter : worker.task sessionId (pool.current sessionId) = .idle)
    (hstate : pool.current sessionId ≠ some ref ∨ state = pool.states ref) :
    after.view sessionId = { pool.view sessionId with
      callable := after.callableOf sessionId
      log := Transcript.of pool.transcript sessionId ++ Transcript.of observations sessionId } := by
  have hcurrent := hmoves.current sessionId
  have htasks : (fun v => (after.workers v).task sessionId (pool.current sessionId)) =
      fun v => (pool.workers v).task sessionId (pool.current sessionId) := by
    funext v
    rw [hmoves.workers]
    by_cases hv : v = w
    · subst hv
      simp [hbefore, hafter]
    · simp [hv]
  have hsame : after.stateOf sessionId = pool.stateOf sessionId := by
    unfold stateOf
    rw [hcurrent, hmoves.states]
    cases hcase : pool.current sessionId with
    | none => rfl
    | some other =>
      rcases hstate with hne | hsame
      · have hother : other ≠ ref := by
          intro heq
          exact hne (by rw [hcase, heq])
        simp [hother]
      · simp [hsame]
  simp only [Pool.view, hcurrent, htasks, hsame, hmoves.queued, hmoves.transcript,
    Transcript.of_append]

theorem Pool.Moves.view_other (hbefore : (pool.workers w).Serves sessionId ref)
    (hafter : worker.Serves sessionId ref) {other : SessionId}
    (hne : other ≠ sessionId) (hrefs : pool.current other ≠ some ref)
    (hcallable : after.callableOf other = pool.callableOf other)
    (hobservations : ∀ observation ∈ observations, observation.sessionId = sessionId) :
    after.view other = pool.view other := by
  have hnone : Transcript.of observations other = [] := by
    apply Transcript.of_other
    intro observation hobservation
    rw [hobservations observation hobservation]
    exact hne.symm
  rw [hmoves.view_hidden (hbefore.task_of_ne hne _) (hafter.task_of_ne hne _)
    (.inl hrefs), hcallable, hnone, List.append_nil]
  rfl

end View

end Moves

end SessionServer.WorkerPool
