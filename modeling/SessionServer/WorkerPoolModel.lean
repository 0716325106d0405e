import SessionServer.BoundedBlockingQueue
import SessionServer.OrderedMap
import SessionServer.SessionEvent
import SessionServer.TransitionSystem
import Mathlib.Data.Finmap
import Mathlib.Logic.Function.Basic
import Mathlib.Tactic

/-!
# The worker pool

The model has one atomic step for each critical section of the source: the
pop and the state lookup that follows it under the intake mutex, each function
that takes the sequence mutex, each publish to the outbox, the two sections of
a deferred completion, and the calls a handler makes through its context.
Between two sections any other thread may run.  The drain check reads the size
of the inbox and closes it in two calls of the queue; its thread holds the
sequence mutex over both, and a push may come in between.

A worker is described by what it holds: nothing, an event whose turn it has
not started, or the turn of an event.  Handlers are not modelled here; they
emit, defer, return or throw as they please, and anybody may complete a
deferral at any time.
-/

namespace SessionServer.WorkerPool

structure WorkerPoolConfig where
  inboundLowWatermark : ℕ
  maxOutboundMessagesPerEvent : ℕ
  maxOutboundBytesPerEvent : ℕ
  maxParkedEventsPerSession : ℕ := 32
  /-- The constructor rejects limits of zero. -/
  limits_pos : 0 < inboundLowWatermark ∧ 0 < maxOutboundMessagesPerEvent ∧
    0 < maxOutboundBytesPerEvent ∧ 0 < maxParkedEventsPerSession

/-! ## The per-session sequence state -/

inductive SessionTurnDisposition
  | process
  | parked
  | discarded
  | invalidSequence
  | parkedLimit
  deriving DecidableEq, Repr

structure SessionSequenceState where
  nextSequence : ℕ := 0
  active : Bool := false
  activeDisconnect : Bool := false
  awaitingCompletion : Bool := false
  failed : Bool := false
  closed : Bool := false
  parked : OrderedMap ℕ SessionEvent := .empty
  earlyCompletion : Option SessionEvent := none
  pendingDisconnected : Option SessionEvent := none

def shouldSkipFailedSession
    (event : SessionEvent) (state : SessionSequenceState) : Bool :=
  if event.kind = .disconnected then false
  else state.failed || state.closed

/-- The flag tells whether this call was the one that failed the session. -/
def markSessionFailed (state : SessionSequenceState) :
    Bool × SessionSequenceState :=
  if state.failed || state.closed then (false, state)
  else
    let pending :=
      match state.parked.firstValue? (fun event => event.kind == .disconnected) with
      | some event => some event
      | none => state.pendingDisconnected
    (true, { state with
      failed := true
      pendingDisconnected := pending
      parked := .empty })

/-- `none` is the `std::logic_error` of the source. -/
def markSessionDeferred (event : SessionEvent) (state : SessionSequenceState) :
    Option (Option SessionEvent × SessionSequenceState) :=
  if !state.active || state.nextSequence != event.sequence then none
  else
    some (state.earlyCompletion, { state with awaitingCompletion := true, earlyCompletion := none })

def tryStartSessionTurn
    (config : WorkerPoolConfig) (event : SessionEvent)
    (state : SessionSequenceState) :
    SessionTurnDisposition × SessionSequenceState :=
  if state.closed then (.discarded, state)
  else if event.kind = .deferredCompletion then
    if state.active && state.awaitingCompletion &&
        state.nextSequence == event.sequence then
      (.process, state)
    else if state.active && !state.awaitingCompletion &&
        state.nextSequence == event.sequence && state.earlyCompletion.isNone then
      (.parked, { state with earlyCompletion := some event })
    else (.invalidSequence, state)
  else if state.failed then
    if event.kind ≠ .disconnected then (.discarded, state)
    else if state.active then
      (.parked, { state with pendingDisconnected := some event })
    else
      (.process, { state with
        nextSequence := event.sequence
        active := true
        activeDisconnect := true })
  else if !state.active && state.nextSequence == event.sequence then
    (.process, { state with
      active := true
      activeDisconnect := event.kind == .disconnected })
  else if event.sequence < state.nextSequence ||
      state.parked.contains event.sequence then
    (.invalidSequence, state)
  else if state.parked.size ≥ config.maxParkedEventsPerSession then
    (.parkedLimit, state)
  else
    let (parked, inserted) := state.parked.emplace event.sequence event
    (if inserted then .parked else .invalidSequence,
      { state with parked := parked })

/-- The part of `completeSessionTurn` that touches the session's own state:
the event handed back to the worker and the state left behind. -/
def endSessionTurn (state : SessionSequenceState) :
    Option SessionEvent × SessionSequenceState :=
  let state := { state with
    active := false
    awaitingCompletion := false
    nextSequence := state.nextSequence + 1 }
  if state.activeDisconnect then (none, { state with closed := true })
  else if state.failed then
    (state.pendingDisconnected, { state with pendingDisconnected := none })
  else
    match state.parked.find? state.nextSequence with
    | none => (none, state)
    | some next =>
      (some next, { state with parked := state.parked.erase state.nextSequence })

def takePendingDisconnected (state : SessionSequenceState) :
    Option SessionEvent × SessionSequenceState :=
  if state.active || state.closed then (none, state)
  else (state.pendingDisconnected, { state with pendingDisconnected := none })

/-- A state that does not keep a draining inbox open. -/
def SessionSequenceState.isDrained (state : SessionSequenceState) : Bool :=
  !(state.active || state.parked.size != 0 || state.earlyCompletion.isSome ||
    state.pendingDisconnected.isSome)

/-! ## The context of one event -/

abbrev DeferralId := ℕ

structure WorkerSessionEventContext where
  messages : List OutboundMessage := []
  emittedMessages : ℕ := 0
  emittedBytes : ℕ := 0
  disconnectRequested : Bool := false
  /-- The deferral the handler asked for; `deferred_` of the source is that
  there is one. -/
  deferral : Option DeferralId := none

def WorkerSessionEventContext.deferred (context : WorkerSessionEventContext) : Bool :=
  context.deferral.isSome

inductive EmitOutcome
  | accepted
  | refused
  | overBudget
  deriving DecidableEq, Repr

def WorkerSessionEventContext.emit
    (config : WorkerPoolConfig) (forceStopRequested : Bool)
    (event : SessionEvent) (context : WorkerSessionEventContext)
    (message : OutboundMessage) : EmitOutcome × WorkerSessionEventContext :=
  let byteCount := message.bytes.length
  if forceStopRequested then (.refused, context)
  else if context.disconnectRequested then (.refused, context)
  else if message.kind = .disconnectSession then
    if message.sessionId ≠ event.sessionId ∨ byteCount ≠ 0 then (.refused, context)
    else
      (.accepted, { context with
        messages := context.messages ++ [message]
        disconnectRequested := true })
  else if byteCount = 0 ∨
      context.emittedMessages ≥ config.maxOutboundMessagesPerEvent ∨
      byteCount > config.maxOutboundBytesPerEvent - context.emittedBytes then
    (.overBudget, context)
  else
    (.accepted, { context with
      messages := context.messages ++ [message]
      emittedMessages := context.emittedMessages + 1
      emittedBytes := context.emittedBytes + byteCount })

/-- `QueueDeferredSessionCompletion` with its shared completion state.
`pushing` is the payload of the caller that completed the deferral after the
handler had returned and has not reached the inbox yet. -/
structure Deferral where
  sessionId : SessionId
  sequence : ℕ
  completed : Bool := false
  handlerReturned : Bool := false
  inlinePayload : Option DeferredCompletionPayload := none
  pushing : Option DeferredCompletionPayload := none

def Deferral.completionEvent
    (deferral : Deferral) (payload : DeferredCompletionPayload) : SessionEvent where
  kind := .deferredCompletion
  sessionId := deferral.sessionId
  sequence := deferral.sequence
  completion := some payload

/-! ## Workers -/

abbrev StateRef := ℕ

inductive Rejection
  | invalidSequence
  | parkedLimit
  deriving DecidableEq, Repr

inductive TurnFailure
  | handlerException
  | deferredFailure
  deriving DecidableEq, Repr

/-- Where a worker stands with an event whose turn it has not started. -/
inductive HandStage
  | popped (remaining : ℕ)
  | starting
  | trying
  | discarding
  | failing (rejection : Rejection)
  | disconnecting
  | takingPending

/-- Where a worker stands in the turn of an event. -/
inductive TurnStage
  | completing (context : WorkerSessionEventContext) (rest : List OutboundMessage)
  | failing (failure : TurnFailure)
  | disconnecting
  | skipping
  | handling (context : WorkerSessionEventContext)
  | finishing (context : WorkerSessionEventContext)
  | publishing (messages : List OutboundMessage) (deferred : Bool)
      (inlineCompletion : Option SessionEvent)
  | deferring (inlineCompletion : Option SessionEvent)
  | ending

inductive Worker
  | popping
  | hand (event : SessionEvent) (ref : StateRef) (stage : HandStage)
  | turn (event : SessionEvent) (ref : StateRef) (stage : TurnStage)
  | exited
  | crashed

/-- After a rejection a Disconnected event is tried again; any other event
makes way for a Disconnected that the failure may have uncovered. -/
def afterRejection (event : SessionEvent) : HandStage :=
  if event.kind = .disconnected then .starting else .takingPending

inductive HandlerOutcome
  | plain
  | deferred
  | threw
  deriving DecidableEq, Repr

/-- What happened, in order.  No modelled function reads the transcript; the
properties of whole runs are stated over it. -/
inductive Observation
  | accepted (event : SessionEvent)
  | popped (event : SessionEvent)
  | started (event : SessionEvent)
  | invoked (event : SessionEvent)
  | returned (event : SessionEvent) (outcome : HandlerOutcome)
  | processed (event : SessionEvent)
  | ended (event : SessionEvent) (closed : Bool)
  | failed (sessionId : SessionId)
  | published (event : SessionEvent) (message : OutboundMessage)
  | answered (sessionId : SessionId) (deferral : DeferralId) (first : Bool) (accepted : Bool)
  deriving DecidableEq, Repr

abbrev Transcript := List Observation

/-- The counters of `OverloadStats` and the notifications the pool issues. -/
structure OverloadStats where
  outboundBudgetRejections : ℕ := 0
  handlerExceptions : ℕ := 0
  workerParkedLimitFailures : ℕ := 0
  workerInvalidSequenceFailures : ℕ := 0
  workerDeferredFailures : ℕ := 0
  maxOutboundQueueSize : ℕ := 0
  inputCapacityNotifications : ℕ := 0
  outboundNotifications : ℕ := 0

/-! ## The pool -/

/-- What the holder of the intake mutex has popped and not looked up yet. -/
structure Popped (n : ℕ) where
  worker : Fin n
  event : SessionEvent
  remaining : ℕ

/-- The thread that has passed the drain check and holds the sequence mutex
until it has closed the inbox: the caller of `beginStop` or a worker. -/
inductive Closer (n : ℕ)
  | stopper
  | worker (w : Fin n)
  deriving DecidableEq

structure Pool (n : ℕ) where
  inbox : BoundedBlockingQueue SessionEvent
  intake : Option (Popped n)
  closer : Option (Closer n)
  outbox : BoundedBlockingQueue OutboundMessage
  workers : Fin n → Worker
  /-- The sequence states ever allocated; workers may hold one that the map
  has already dropped. -/
  states : StateRef → SessionSequenceState
  /-- The session each state was allocated for. -/
  owner : StateRef → SessionId
  nextRef : ℕ
  sequenceBySession : Finmap (fun _ : SessionId => StateRef)
  deferrals : DeferralId → Deferral
  nextDeferral : ℕ
  outstandingDeferred : ℕ
  drainRequested : Bool
  forceStopRequested : Bool
  stats : OverloadStats
  transcript : Transcript

def Pool.initial (n : ℕ) (inbox : BoundedBlockingQueue SessionEvent)
    (outbox : BoundedBlockingQueue OutboundMessage) : Pool n where
  inbox := inbox
  intake := none
  closer := none
  outbox := outbox
  workers := fun _ => .popping
  states := fun _ => {}
  owner := fun _ => 0
  nextRef := 0
  sequenceBySession := ∅
  deferrals := fun _ => { sessionId := 0, sequence := 0 }
  nextDeferral := 0
  outstandingDeferred := 0
  drainRequested := false
  forceStopRequested := false
  stats := {}
  transcript := []

variable {n : ℕ}

def Pool.setWorker (pool : Pool n) (w : Fin n) (worker : Worker) : Pool n :=
  { pool with workers := Function.update pool.workers w worker }

def Pool.setState (pool : Pool n) (ref : StateRef) (state : SessionSequenceState) :
    Pool n :=
  { pool with states := Function.update pool.states ref state }

def Pool.log (pool : Pool n) (observations : List Observation) : Pool n :=
  { pool with transcript := pool.transcript ++ observations }

/-- The events accepted and not looked up yet, the oldest first. -/
def Pool.queued (pool : Pool n) : List SessionEvent :=
  (pool.intake.map Popped.event).toList ++ pool.inbox.items

/-- What `maybeCloseInboxForDrainLocked` checks before it closes the inbox. -/
def Pool.DrainReady (pool : Pool n) : Prop :=
  pool.drainRequested = true ∧ pool.outstandingDeferred = 0 ∧
    pool.inbox.size = 0 ∧
    ∀ entry ∈ pool.sequenceBySession.entries, (pool.states entry.2).isDrained = true

instance (pool : Pool n) : Decidable pool.DrainReady := by
  unfold Pool.DrainReady
  infer_instance

/-- The check.  The close is a section of its own, `closeDrained`. -/
def Pool.maybeCloseInboxForDrainLocked (pool : Pool n) (closer : Closer n) : Pool n :=
  if pool.DrainReady then { pool with closer := some closer } else pool

/-- The thread that has passed the drain check closes the inbox and releases
the sequence mutex. -/
def Pool.closeDrained (pool : Pool n) : Option (Pool n) :=
  if pool.closer.isSome then some { pool with inbox := pool.inbox.close, closer := none }
  else none

def Pool.beginStop (pool : Pool n) : Pool n :=
  Pool.maybeCloseInboxForDrainLocked { pool with drainRequested := true } .stopper

/-- The flag is false when the outbox is closed; `none` while the publisher
waits for a free slot. -/
def Pool.publishOutbound (pool : Pool n) (event : SessionEvent)
    (message : OutboundMessage) : Option (Bool × Pool n) :=
  (pool.outbox.push message).map fun (result, outbox) =>
    if result.succeeded then
      (true, { pool with
        outbox := outbox
        stats := { pool.stats with
          maxOutboundQueueSize := max pool.stats.maxOutboundQueueSize result.size
          outboundNotifications := pool.stats.outboundNotifications + 1 }
        transcript := pool.transcript ++ [.published event message] })
    else (false, pool)

def Pool.requestSessionDisconnect (pool : Pool n) (event : SessionEvent) :
    Option (Pool n) :=
  (pool.publishOutbound event
    { sessionId := event.sessionId, bytes := [], kind := .disconnectSession }).map Prod.snd

def Pool.completeSessionTurn (pool : Pool n) (w : Fin n) (event : SessionEvent)
    (ref : StateRef) : Option SessionEvent × Pool n :=
  let (next, state) := endSessionTurn (pool.states ref)
  let pool := { pool with
    states := Function.update pool.states ref state
    outstandingDeferred :=
      if event.kind = .deferredCompletion ∧ pool.outstandingDeferred > 0 then
        pool.outstandingDeferred - 1
      else pool.outstandingDeferred
    sequenceBySession :=
      if state.activeDisconnect then pool.sequenceBySession.erase event.sessionId
      else pool.sequenceBySession
    transcript := pool.transcript ++ [.ended event state.activeDisconnect] }
  (next, if next.isNone then pool.maybeCloseInboxForDrainLocked (.worker w) else pool)

end SessionServer.WorkerPool
