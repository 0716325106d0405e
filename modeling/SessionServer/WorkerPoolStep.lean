import SessionServer.WorkerPoolModel

/-!
# Steps of the worker pool

`runStep` is the next critical section of one worker's loop; `Action` adds
what the threads around the pool may do.  A blocked section is not enabled.
-/

namespace SessionServer.WorkerPool

open Function

variable {n : ℕ}

/-- The state of a session in the map, allocated on first use. -/
def Pool.lookupOrCreate (pool : Pool n) (sessionId : SessionId) :
    StateRef × Pool n :=
  match pool.sequenceBySession.lookup sessionId with
  | some ref => (ref, pool)
  | none =>
    (pool.nextRef, { pool with
      states := update pool.states pool.nextRef {}
      owner := update pool.owner pool.nextRef sessionId
      nextRef := pool.nextRef + 1
      sequenceBySession :=
        pool.sequenceBySession.insert sessionId pool.nextRef })

/-- The two sections under the intake mutex: the pop, and the lookup of what
was popped.  The other workers wait for the mutex. -/
def Pool.popStep (pool : Pool n) (w : Fin n) : Option (Pool n) :=
  match pool.intake with
  | none =>
    match pool.inbox.pop with
    | none => none
    | some (_, none, _) => some (pool.setWorker w .exited)
    | some (result, some event, inbox) =>
      some { pool with inbox := inbox, intake := some ⟨w, event, result.size⟩ }
  | some popped =>
    if popped.worker = w then
      let (ref, pool) :=
        { pool with intake := none }.lookupOrCreate popped.event.sessionId
      some ((pool.setWorker w (.hand popped.event ref (.popped popped.remaining))).log
        [.popped popped.event])
    else none

def recordRejection (stats : OverloadStats) : Rejection → OverloadStats
  | .parkedLimit =>
    { stats with
      workerParkedLimitFailures := stats.workerParkedLimitFailures + 1 }
  | .invalidSequence =>
    { stats with
      workerInvalidSequenceFailures := stats.workerInvalidSequenceFailures + 1 }

/-- A missing or failed completion fails the session; any other is emitted
through a context of its own. -/
def completionStage (event : SessionEvent) : TurnStage :=
  match event.completion with
  | none => .failing .deferredFailure
  | some payload =>
    if payload.failed then .failing .deferredFailure
    else .completing {} payload.messages

/-- Sections of a worker that holds an event whose turn has not started. -/
def Pool.handStep (config : WorkerPoolConfig) (pool : Pool n) (w : Fin n)
    (event : SessionEvent) (ref : StateRef) : HandStage → Option (Pool n)
  | .popped remaining =>
    let pool :=
      if remaining = config.inboundLowWatermark then
        { pool with stats := { pool.stats with
            inputCapacityNotifications :=
              pool.stats.inputCapacityNotifications + 1 } }
      else pool
    some (pool.setWorker w
      (if pool.forceStopRequested then .exited else .hand event ref .starting))
  | .starting =>
    some (pool.setWorker w
      (if pool.forceStopRequested then .exited else .hand event ref .trying))
  | .trying =>
    let (disposition, state) :=
      tryStartSessionTurn config event (pool.states ref)
    let pool := pool.setState ref state
    match disposition with
    | .parked => some (pool.setWorker w .popping)
    | .discarded => some (pool.setWorker w (.hand event ref .discarding))
    | .invalidSequence =>
      some (pool.setWorker w (.hand event ref (.failing .invalidSequence)))
    | .parkedLimit =>
      some (pool.setWorker w (.hand event ref (.failing .parkedLimit)))
    | .process =>
      if event.kind = .deferredCompletion then
        some ((pool.setWorker w (.turn event ref (completionStage event))).log [.processed event])
      else
        some ((pool.setWorker w (.turn event ref .skipping)).log [.started event])
  | .discarding =>
    some ((pool.maybeCloseInboxForDrainLocked (.worker w)).setWorker w .popping)
  | .failing rejection =>
    let (marked, state) := markSessionFailed (pool.states ref)
    if marked then
      some ((({ pool with stats := recordRejection pool.stats rejection }.setState
        ref state).setWorker w (.hand event ref .disconnecting)).log [.failed event.sessionId])
    else some (pool.setWorker w (.hand event ref (afterRejection event)))
  | .disconnecting =>
    (pool.requestSessionDisconnect event).map fun pool =>
      pool.setWorker w (.hand event ref (afterRejection event))
  | .takingPending =>
    let (disconnected, state) := takePendingDisconnected (pool.states ref)
    some ((pool.setState ref state).setWorker w
      (match disconnected with
        | none => .popping
        | some next => .hand next ref .starting))

/-- The stats of a failed turn: the exception is counted in any case, a
deferred failure only when it is the one that fails the session. -/
def recordTurnFailure (stats : OverloadStats) (marked : Bool) :
    TurnFailure → OverloadStats
  | .handlerException =>
    { stats with handlerExceptions := stats.handlerExceptions + 1 }
  | .deferredFailure =>
    if marked then
      { stats with workerDeferredFailures := stats.workerDeferredFailures + 1 }
    else stats

/-- Sections of a worker inside the turn of an event.  A handler that runs is
moved by its own actions. -/
def Pool.turnStep (config : WorkerPoolConfig) (pool : Pool n) (w : Fin n)
    (event : SessionEvent) (ref : StateRef) : TurnStage → Option (Pool n)
  | .completing context [] =>
    some (pool.setWorker w (.turn event ref (.publishing context.messages false none)))
  | .completing context (message :: rest) =>
    match context.emit config pool.forceStopRequested event message with
    | (.accepted, context) =>
      some (pool.setWorker w (.turn event ref (.completing context rest)))
    | (.refused, context) =>
      some (pool.setWorker w (.turn event ref (.completing context [])))
    | (.overBudget, context) =>
      some ({ pool with stats := { pool.stats with
        outboundBudgetRejections :=
          pool.stats.outboundBudgetRejections + 1 } }.setWorker w
            (.turn event ref (.completing context [])))
  | .failing failure =>
    let (marked, state) := markSessionFailed (pool.states ref)
    let pool :=
      { pool with stats := recordTurnFailure pool.stats marked failure }
    if marked then
      some (((pool.setState ref state).setWorker w
        (.turn event ref .disconnecting)).log [.failed event.sessionId])
    else some (pool.setWorker w (.turn event ref .ending))
  | .disconnecting =>
    (pool.requestSessionDisconnect event).map fun pool =>
      pool.setWorker w (.turn event ref .ending)
  | .skipping =>
    if shouldSkipFailedSession event (pool.states ref) then
      some (pool.setWorker w (.turn event ref .ending))
    else
      some ((pool.setWorker w (.turn event ref (.handling {}))).log [.invoked event])
  | .handling _ => none
  | .finishing context =>
    match context.deferral with
    | none =>
      some (pool.setWorker w (.turn event ref (.publishing context.messages false none)))
    | some id =>
      let deferral := pool.deferrals id
      some ({ pool with
        deferrals := update pool.deferrals id
          { deferral with handlerReturned := true, inlinePayload := none }
        }.setWorker w (.turn event ref (.publishing context.messages true
          (deferral.inlinePayload.map deferral.completionEvent))))
  | .publishing [] deferred inlineCompletion =>
    some (pool.setWorker w (.turn event ref
      (if deferred then .deferring inlineCompletion else .ending)))
  | .publishing (message :: rest) deferred inlineCompletion =>
    (pool.publishOutbound event message).map fun (published, pool) =>
      pool.setWorker w (.turn event ref
        (.publishing (if published then rest else []) deferred inlineCompletion))
  | .deferring inlineCompletion =>
    match markSessionDeferred event (pool.states ref) with
    | none => some (pool.setWorker w .crashed)
    | some (earlyCompletion, state) =>
      some (({ pool with
        outstandingDeferred := pool.outstandingDeferred + 1 }.setState
          ref state).setWorker w
            (match inlineCompletion.or earlyCompletion with
              | none => .popping
              | some completion => .hand completion ref .starting))
  | .ending =>
    let (next, pool) := pool.completeSessionTurn w event ref
    some (pool.setWorker w
      (match next with
        | none => .popping
        | some next => .hand next ref .starting))

/-- The worker's next section takes the sequence mutex. -/
def Pool.locksSequence (pool : Pool n) (w : Fin n) : Bool :=
  match pool.workers w with
  | .popping => pool.intake.isSome
  | .hand _ _ (.popped _) | .hand _ _ .starting | .hand _ _ .disconnecting => false
  | .hand _ _ _ => true
  | .turn event _ .skipping => event.kind != .disconnected
  | .turn _ _ (.failing _) | .turn _ _ (.deferring _) | .turn _ _ .ending => true
  | _ => false

/-- The worker waits for the sequence mutex, or holds it and has to close the
inbox first. -/
def Pool.isBlocked (pool : Pool n) (w : Fin n) : Bool :=
  match pool.closer with
  | none => false
  | some closer => closer == .worker w || pool.locksSequence w

/-- One section of `WorkerPool::run`. -/
def Pool.runStep (config : WorkerPoolConfig) (pool : Pool n) (w : Fin n) :
    Option (Pool n) :=
  if pool.isBlocked w then none
  else
    match pool.workers w with
    | .popping => pool.popStep w
    | .hand event ref stage => pool.handStep config w event ref stage
    | .turn event ref stage => pool.turnStep config w event ref stage
    | .exited => none
    | .crashed => none

/-! ## Calls of handlers and of deferred completions -/

def Pool.emitStep (config : WorkerPoolConfig) (pool : Pool n) (w : Fin n)
    (message : OutboundMessage) : Option (Pool n) :=
  match pool.workers w with
  | .turn event ref (.handling context) =>
    let (outcome, context) :=
      context.emit config pool.forceStopRequested event message
    let pool :=
      if outcome = .overBudget then
        { pool with stats := { pool.stats with
            outboundBudgetRejections :=
              pool.stats.outboundBudgetRejections + 1 } }
      else pool
    some (pool.setWorker w (.turn event ref (.handling context)))
  | _ => none

/-- `defer` throws into the handler when it was called before or after
output; then nothing changes, and the handler goes on as it likes. -/
def Pool.deferStep (pool : Pool n) (w : Fin n) : Option (Pool n) :=
  match pool.workers w with
  | .turn event ref (.handling context) =>
    if context.deferred || !context.messages.isEmpty then none
    else
      some ({ pool with
        deferrals := update pool.deferrals pool.nextDeferral
          { sessionId := event.sessionId, sequence := event.sequence }
        nextDeferral := pool.nextDeferral + 1 }.setWorker w
          (.turn event ref (.handling { context with deferral := some pool.nextDeferral })))
  | _ => none

def Pool.returnStep (pool : Pool n) (w : Fin n) : Option (Pool n) :=
  match pool.workers w with
  | .turn event ref (.handling context) =>
    some ((pool.setWorker w (.turn event ref (.finishing context))).log
      [.returned event (if context.deferred then .deferred else .plain)])
  | _ => none

def Pool.throwStep (pool : Pool n) (w : Fin n) : Option (Pool n) :=
  match pool.workers w with
  | .turn event ref (.handling _) =>
    some ((pool.setWorker w (.turn event ref (.failing .handlerException))).log
      [.returned event .threw])
  | _ => none

/-- The section of `complete` under the deferral's own mutex.  The first call
keeps its payload inline while the handler runs and else goes on to push. -/
def Pool.completeStep (pool : Pool n) (id : DeferralId)
    (payload : DeferredCompletionPayload) : Option (Pool n) :=
  if id < pool.nextDeferral then
    let deferral := pool.deferrals id
    if pool.forceStopRequested || deferral.completed then
      some (pool.log [.answered deferral.sessionId id (!deferral.completed) false])
    else if deferral.handlerReturned then
      some { pool with
        deferrals := update pool.deferrals id
          { deferral with completed := true, pushing := some payload } }
    else
      some ({ pool with
        deferrals := update pool.deferrals id
          { deferral with completed := true, inlinePayload := some payload } }.log
            [.answered deferral.sessionId id true true])
  else none

/-- The blocking push of a completion that was called after the handler
returned. -/
def Pool.pushCompletionStep (pool : Pool n) (id : DeferralId) : Option (Pool n) :=
  if id < pool.nextDeferral then
    let deferral := pool.deferrals id
    match deferral.pushing with
    | none => none
    | some payload =>
      (pool.inbox.push (deferral.completionEvent payload)).map
        fun (result, inbox) =>
          { pool with
            inbox := inbox
            deferrals := update pool.deferrals id { deferral with pushing := none } }.log
            [.answered deferral.sessionId id true result.succeeded]
  else none

/-! ## The whole system -/

inductive Action (n : ℕ)
  | push (event : SessionEvent)
  | work (w : Fin n)
  | emit (w : Fin n) (message : OutboundMessage)
  | defer (w : Fin n)
  | handlerReturn (w : Fin n)
  | handlerThrow (w : Fin n)
  | complete (id : DeferralId) (payload : DeferredCompletionPayload)
  | pushCompletion (id : DeferralId)
  | popOutbound
  | beginStop
  | closeDrained
  | requestForceStop
  | closeInbox
  | closeOutbox

/-- A network thread pushes a Packet or Disconnected event; a push that the
queue refuses leaves nothing behind. -/
def Pool.pushStep (pool : Pool n) (event : SessionEvent) : Option (Pool n) :=
  if event.isExternal then
    let (result, inbox) := pool.inbox.tryPush event
    if result.succeeded then
      some ({ pool with inbox := inbox }.log [.accepted event])
    else none
  else none

/-- `forceStop` stores its flag, closes the inbox and then the outbox.  The
network layer also closes the outbox on its own. -/
def Pool.step (config : WorkerPoolConfig) (pool : Pool n) :
    Action n → Option (Pool n)
  | .push event => pool.pushStep event
  | .work w => pool.runStep config w
  | .emit w message => pool.emitStep config w message
  | .defer w => pool.deferStep w
  | .handlerReturn w => pool.returnStep w
  | .handlerThrow w => pool.throwStep w
  | .complete id payload => pool.completeStep id payload
  | .pushCompletion id => pool.pushCompletionStep id
  | .popOutbound =>
    match pool.outbox.items with
    | [] => none
    | _ :: rest => some { pool with outbox := { pool.outbox with items := rest } }
  | .beginStop => if pool.closer.isSome then none else some pool.beginStop
  | .closeDrained => pool.closeDrained
  | .requestForceStop => some { pool with forceStopRequested := true }
  | .closeInbox =>
    if pool.forceStopRequested then
      some { pool with inbox := pool.inbox.close }
    else none
  | .closeOutbox => some { pool with outbox := pool.outbox.close }

end SessionServer.WorkerPool
