import SessionServer.WorkerPoolBudget
import SessionServer.WorkerPoolSection

/-!
# What the sessions see of a step

A section of a worker moves the worker, the one sequence state it refers to and
the transcript, by the rules of the session turn.  An operation from outside
moves none of them.
-/

namespace SessionServer.WorkerPool

open BoundedBlockingQueue

variable {n : ℕ}
variable {event : SessionEvent} {pool after : Pool n} {w : Fin n} {ref : StateRef}
    {config : WorkerPoolConfig}

def Observation.sessionId : Observation → SessionId
  | .accepted event => event.sessionId
  | .popped event => event.sessionId
  | .started event => event.sessionId
  | .invoked event => event.sessionId
  | .returned event _ => event.sessionId
  | .processed event => event.sessionId
  | .ended event _ => event.sessionId
  | .failed sessionId => sessionId
  | .published event _ => event.sessionId
  | .answered sessionId _ _ _ => sessionId

/-- The observation is a publish in the turn of the event. -/
def Observation.Publishes (event : SessionEvent) (observation : Observation) : Prop :=
  ∃ message, observation = .published event message

theorem Observation.Publishes.isQuiet {observation : Observation}
    (hpublishes : observation.Publishes event) : observation.isQuiet = true := by
  obtain ⟨_, rfl⟩ := hpublishes
  rfl

theorem Observation.Publishes.sessionId
    {observation : Observation} (hpublishes : observation.Publishes event) :
    observation.sessionId = event.sessionId := by
  obtain ⟨_, rfl⟩ := hpublishes
  rfl

/-- The deferral of the handler call a worker is in. -/
def TurnStage.deferral : TurnStage → Option DeferralId
  | .handling context => context.deferral
  | .finishing context => context.deferral
  | _ => none

/-- Only this worker, this state and the transcript move. -/
structure Pool.Acts (pool after : Pool n) (w : Fin n) (worker : Worker)
    (ref : StateRef) (state : SessionSequenceState)
    (observations : List Observation) : Prop where
  workers : after.workers = Function.update pool.workers w worker
  states : after.states = Function.update pool.states ref state
  transcript : after.transcript = pool.transcript ++ observations
  inbox : after.inbox = pool.inbox
  intake : after.intake = pool.intake
  owner : after.owner = pool.owner
  nextRef : after.nextRef = pool.nextRef
  sequenceBySession : after.sequenceBySession = pool.sequenceBySession
  deferrals : after.deferrals = pool.deferrals
  nextDeferral : after.nextDeferral = pool.nextDeferral
  outstandingDeferred : after.outstandingDeferred = pool.outstandingDeferred
  drainRequested : after.drainRequested = pool.drainRequested
  forceStopRequested : after.forceStopRequested = pool.forceStopRequested

/-- Sections that move the worker, its session's state and the transcript. -/
inductive WorkerMove (config : WorkerPoolConfig) (lossy : Bool)
    (state : SessionSequenceState) (ref : StateRef) :
    Worker → Worker → SessionSequenceState → List Observation → Prop
  | hand (event : SessionEvent) (stage next : HandStage)
      (observations : List Observation) (hmove : HandMove state event stage next)
      (hpublishes : ∀ observation ∈ observations, observation.Publishes event) :
      WorkerMove config lossy state ref (.hand event ref stage)
        (.hand event ref next) state observations
  | tryStart (event : SessionEvent) (disposition : SessionTurnDisposition)
      (next : SessionSequenceState)
      (hstart : tryStartSessionTurn config event state = (disposition, next)) :
      WorkerMove config lossy state ref (.hand event ref .trying)
        ((tryTask event disposition).worker ref) next (tryLog event disposition)
  | discard (event : SessionEvent) :
      WorkerMove config lossy state ref (.hand event ref .discarding) .popping state []
  | failHand (event : SessionEvent) (rejection : Rejection)
      (hmark : (markSessionFailed state).1 = true) :
      WorkerMove config lossy state ref (.hand event ref (.failing rejection))
        (.hand event ref .disconnecting) (markSessionFailed state).2
        [.failed event.sessionId]
  | takePending (event : SessionEvent) :
      WorkerMove config lossy state ref (.hand event ref .takingPending)
        ((restart (takePendingDisconnected state).1).worker ref)
        (takePendingDisconnected state).2 []
  | turn (event : SessionEvent) (stage next : TurnStage)
      (observations : List Observation) (hmove : TurnMove state event stage next)
      (hdeferral : next.deferral = none ∨ next.deferral = stage.deferral)
      (hpublishes : ∀ observation ∈ observations, observation.Publishes event) :
      WorkerMove config lossy state ref (.turn event ref stage)
        (.turn event ref next) state observations
  | failTurn (event : SessionEvent) (failure : TurnFailure)
      (hmark : (markSessionFailed state).1 = true) :
      WorkerMove config lossy state ref (.turn event ref (.failing failure))
        (.turn event ref .disconnecting) (markSessionFailed state).2
        [.failed event.sessionId]
  | invoke (event : SessionEvent)
      (hskip : shouldSkipFailedSession event state = false) :
      WorkerMove config lossy state ref (.turn event ref .skipping)
        (.turn event ref (.handling {})) state [.invoked event]
  | handlerReturn (event : SessionEvent) (context : WorkerSessionEventContext) :
      WorkerMove config lossy state ref (.turn event ref (.handling context))
        (.turn event ref (.finishing context)) state
        [.returned event (if context.deferred then .deferred else .plain)]
  | handlerThrow (event : SessionEvent) (context : WorkerSessionEventContext) :
      WorkerMove config lossy state ref (.turn event ref (.handling context))
        (.turn event ref (.failing .handlerException)) state
        [.returned event .threw]
  | lose (event : SessionEvent) (stage : HandStage) (hlossy : lossy = true) :
      WorkerMove config lossy state ref (.hand event ref stage) .exited state []

/-- Nothing a session can see changes; the inbox may close, and the oldest
event may be popped. -/
structure Pool.Unmoved (pool after : Pool n) : Prop where
  workers : after.workers = pool.workers
  states : after.states = pool.states
  transcript : after.transcript = pool.transcript
  queued : after.queued = pool.queued
  owner : after.owner = pool.owner
  nextRef : after.nextRef = pool.nextRef
  sequenceBySession : after.sequenceBySession = pool.sequenceBySession
  deferrals : after.deferrals = pool.deferrals
  nextDeferral : after.nextDeferral = pool.nextDeferral
  outstandingDeferred : after.outstandingDeferred = pool.outstandingDeferred

theorem Pool.queued_congr (hinbox : after.inbox = pool.inbox)
    (hintake : after.intake = pool.intake) : after.queued = pool.queued := by
  unfold queued
  rw [hinbox, hintake]

/-! ## The end of a turn -/

structure Pool.TurnEnded (pool after : Pool n) (event : SessionEvent)
    (ref : StateRef) : Prop where
  workers : after.workers = pool.workers
  states : after.states = Function.update pool.states ref (endSessionTurn (pool.states ref)).2
  sequenceBySession : after.sequenceBySession =
    if (pool.states ref).activeDisconnect then
      pool.sequenceBySession.erase event.sessionId
    else pool.sequenceBySession
  outstandingDeferred : after.outstandingDeferred =
    if event.kind = .deferredCompletion then pool.outstandingDeferred - 1
    else pool.outstandingDeferred
  transcript : after.transcript =
    pool.transcript ++ [.ended event (pool.states ref).activeDisconnect]
  inbox : after.inbox = pool.inbox
  intake : after.intake = pool.intake
  owner : after.owner = pool.owner
  nextRef : after.nextRef = pool.nextRef
  deferrals : after.deferrals = pool.deferrals
  nextDeferral : after.nextDeferral = pool.nextDeferral
  drainRequested : after.drainRequested = pool.drainRequested
  forceStopRequested : after.forceStopRequested = pool.forceStopRequested

theorem Pool.turnEnded_completeSessionTurn (pool : Pool n) (w : Fin n)
    (event : SessionEvent) (ref : StateRef) :
    pool.TurnEnded (pool.completeSessionTurn w event ref).2 event ref := by
  have hdisconnect := (turnEnds_endSessionTurn (pool.states ref)).activeDisconnect
  have houtstanding :
      (if event.kind = .deferredCompletion ∧ pool.outstandingDeferred > 0 then
        pool.outstandingDeferred - 1
      else pool.outstandingDeferred) =
        if event.kind = .deferredCompletion then pool.outstandingDeferred - 1
        else pool.outstandingDeferred := by
    by_cases hkind : event.kind = .deferredCompletion
    · by_cases hpos : pool.outstandingDeferred > 0
      · simp [hkind, hpos]
      · simp only [hkind, hpos, and_false, if_false, if_true]
        omega
    · simp [hkind]
  simp only [Pool.completeSessionTurn]
  split
  next =>
    rw [Pool.maybeCloseInboxForDrainLocked_eq]
    constructor
    case sequenceBySession => simp only [hdisconnect]
    case outstandingDeferred => exact houtstanding
    case transcript => simp only [hdisconnect]
    all_goals rfl
  next =>
    constructor
    case sequenceBySession => simp only [hdisconnect]
    case outstandingDeferred => exact houtstanding
    case transcript => simp only [hdisconnect]
    all_goals rfl

/-! ## Sections and operations from outside -/

theorem Pool.Publication.publishes {message : OutboundMessage} {next : Bool → Worker}
    {effect : Effect n} (hpublish : pool.Publication ref event message next effect) :
    (∃ published, effect.worker = next published) ∧ effect.state = pool.states ref ∧
      ∀ observation ∈ effect.observations, observation.Publishes event := by
  cases hpublish with
  | sent =>
    refine ⟨⟨true, rfl⟩, rfl, ?_⟩
    intro observation hobservation
    exact ⟨message, List.mem_singleton.mp hobservation⟩
  | refused =>
    refine ⟨⟨false, rfl⟩, rfl, ?_⟩
    intro _ hobservation
    cases hobservation

theorem Pool.Section.move {action : Action n} {worker : Worker} {effect : Effect n}
    (hsection : pool.Section config w ref action worker effect) :
    WorkerMove config pool.forceStopRequested (pool.states ref) ref worker effect.worker
      effect.state effect.observations := by
  cases hsection with
  | lose event stage _ _ hforced => exact .lose event stage hforced
  | notify event remaining =>
    exact .hand event _ _ [] (.notify remaining) (by simp)
  | enter event => exact .hand event _ _ [] .enter (by simp)
  | tryStart event disposition state hstart => exact .tryStart event disposition state hstart
  | failHand event rejection hmark => exact .failHand event rejection hmark
  | rejected event rejection hmark =>
    exact .hand event _ _ [] (.alreadyFailed rejection hmark) (by simp)
  | discard event => exact .discard event
  | disconnectHand event _ hpublish =>
    obtain ⟨⟨published, hworker⟩, hstate, hpublishes⟩ := hpublish.publishes
    rw [hworker, hstate]
    exact .hand event _ _ _ .disconnected hpublishes
  | takePending event => exact .takePending event
  | emitCompletion event | stopCompletion event =>
    exact .turn event _ _ [] (.emitCompletion _ _ _ _) (.inl rfl) (by simp)
  | completionEmitted event context =>
    exact .turn event _ _ [] (.emitted context) (.inl rfl) (by simp)
  | failTurn event failure hmark => exact .failTurn event failure hmark
  | alreadyFailed event failure hmark =>
    exact .turn event _ _ [] (.alreadyFailed failure hmark) (.inl rfl) (by simp)
  | disconnectTurn event _ hpublish =>
    obtain ⟨⟨published, hworker⟩, hstate, hpublishes⟩ := hpublish.publishes
    rw [hworker, hstate]
    exact .turn event _ _ _ .disconnected (.inl rfl) hpublishes
  | skip event hskip => exact .turn event _ _ [] (.skip hskip) (.inl rfl) (by simp)
  | invoke event hskip => exact .invoke event hskip
  | finish event context hplain =>
    exact .turn event _ _ [] (.finish context hplain) (.inl rfl) (by simp)
  | publish event _ _ _ _ _ hpublish =>
    obtain ⟨⟨published, hworker⟩, hstate, hpublishes⟩ := hpublish.publishes
    rw [hworker, hstate]
    exact .turn event _ _ _ (.publish _ _ _ _) (.inl rfl) hpublishes
  | published event inlineCompletion =>
    exact .turn event _ _ [] (.published inlineCompletion) (.inl rfl) (by simp)
  | deferring event inlineCompletion =>
    exact .turn event _ _ [] (.defer inlineCompletion) (.inl rfl) (by simp)
  | emit event context _ message _ _ hemit =>
    have hdeferral :=
      context.emit_deferral config pool.forceStopRequested event message
    rw [hemit] at hdeferral
    exact .turn event _ _ [] (.handle _ _) (.inr hdeferral) (by simp)
  | handlerReturn event context => exact .handlerReturn event context
  | handlerThrow event context => exact .handlerThrow event context

theorem Pool.Acts.of_perform {effect : Effect n} (hafter : after = pool.perform w ref effect) :
    pool.Acts after w effect.worker ref effect.state effect.observations := by
  subst hafter
  constructor <;> rfl

theorem Pool.Section.moved {action : Action n} {worker : Worker} {effect : Effect n}
    (hsection : pool.Section config w ref action worker effect)
    (hafter : after = pool.perform w ref effect) :
    ∃ next state observations,
      WorkerMove config pool.forceStopRequested (pool.states ref) ref worker next state
        observations ∧ pool.Acts after w next ref state observations :=
  ⟨_, _, _, hsection.move, .of_perform hafter⟩

theorem Pool.Outside.unmoved {action : Action n} (houtside : pool.Outside action after) :
    pool.Unmoved after := by
  cases houtside with
  | pop _ _ _ _ hintake hitems =>
    refine ⟨rfl, rfl, rfl, ?_, rfl, rfl, rfl, rfl, rfl, rfl⟩
    simp [Pool.queued, hintake, hitems]
  | beginStop =>
    simp only [Pool.beginStop, Pool.maybeCloseInboxForDrainLocked_eq]
    exact ⟨rfl, rfl, rfl, rfl, rfl, rfl, rfl, rfl, rfl, rfl⟩
  | _ => exact ⟨rfl, rfl, rfl, rfl, rfl, rfl, rfl, rfl, rfl, rfl⟩

end SessionServer.WorkerPool
