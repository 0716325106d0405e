import SessionServer.SessionTurnMachine

/-!
# The sections of the pool

`StepOutcome` says what each step of the pool leaves behind.  Most sections of
a worker write the same few things: the worker itself, the sequence state it
refers to, the queues, the stats and the transcript.  `Section` lists them
with their effect.
-/

namespace SessionServer.WorkerPool

open BoundedBlockingQueue Pool Option Function

variable {n : ℕ} {config : WorkerPoolConfig} {pool after : Pool n} {w : Fin n}
variable {event : SessionEvent} {ref : StateRef} {action : Action n}

def Task.worker (ref : StateRef) : Task → Worker
  | .idle => .popping
  | .hand event stage => .hand event ref stage
  | .turn event stage => .turn event ref stage

def OverloadStats.sessionFailures (stats : OverloadStats) : ℕ :=
  stats.workerParkedLimitFailures + stats.workerInvalidSequenceFailures +
    stats.workerDeferredFailures

/-- What a section of a worker writes. -/
structure Effect (n : ℕ) where
  worker : Worker
  state : SessionSequenceState
  closer : Option (Closer n)
  outbox : BoundedBlockingQueue OutboundMessage
  stats : OverloadStats
  observations : List Observation

def Pool.perform (pool : Pool n) (w : Fin n) (ref : StateRef) (effect : Effect n) : Pool n :=
  { pool with
    workers := update pool.workers w effect.worker
    states := update pool.states ref effect.state
    closer := effect.closer
    outbox := effect.outbox
    stats := effect.stats
    transcript := pool.transcript ++ effect.observations }

/-- Only the worker moves on. -/
def Pool.goes (pool : Pool n) (ref : StateRef) (worker : Worker) : Effect n where
  worker := worker
  state := pool.states ref
  closer := pool.closer
  outbox := pool.outbox
  stats := pool.stats
  observations := []

/-- The effect of `publishOutbound`; the worker moves on by its answer. -/
inductive Pool.Publication (pool : Pool n) (ref : StateRef) (event : SessionEvent)
    (message : OutboundMessage) (next : Bool → Worker) : Effect n → Prop
  | sent (stats : OverloadStats) (hopen : pool.outbox.closed = false)
      (hstats : stats.sessionFailures = pool.stats.sessionFailures) :
      Publication pool ref event message next { pool.goes ref (next true) with
        outbox := pool.outbox.enqueue message
        stats
        observations := [.published event message] }
  | refused (hclosed : pool.outbox.closed = true) :
      Publication pool ref event message next (pool.goes ref (next false))

def disconnectCommand (event : SessionEvent) : OutboundMessage where
  sessionId := event.sessionId
  bytes := []
  kind := .disconnectSession

inductive Pool.Section (config : WorkerPoolConfig) (pool : Pool n) (w : Fin n)
    (ref : StateRef) : Action n → Worker → Effect n → Prop
  | lose (event : SessionEvent) (stage : HandStage) (stats : OverloadStats)
      (hstage : stage = .starting ∨ ∃ remaining, stage = .popped remaining)
      (hforced : pool.forceStopRequested = true)
      (hstats : stats.sessionFailures = pool.stats.sessionFailures) :
      Section config pool w ref (.work w) (.hand event ref stage)
        { pool.goes ref .exited with stats }
  | notify (event : SessionEvent) (remaining : ℕ) (stats : OverloadStats)
      (hforced : pool.forceStopRequested = false)
      (hstats : stats.sessionFailures = pool.stats.sessionFailures) :
      Section config pool w ref (.work w) (.hand event ref (.popped remaining))
        { pool.goes ref (.hand event ref .starting) with stats }
  | enter (event : SessionEvent) (hforced : pool.forceStopRequested = false) :
      Section config pool w ref (.work w) (.hand event ref .starting)
        (pool.goes ref (.hand event ref .trying))
  | tryStart (event : SessionEvent) (disposition : SessionTurnDisposition)
      (state : SessionSequenceState)
      (hstart : tryStartSessionTurn config event (pool.states ref) = (disposition, state)) :
      Section config pool w ref (.work w) (.hand event ref .trying)
        { pool.goes ref ((tryTask event disposition).worker ref) with
          state
          observations := tryLog event disposition }
  | failHand (event : SessionEvent) (rejection : Rejection)
      (hmark : (markSessionFailed (pool.states ref)).1 = true) :
      Section config pool w ref (.work w) (.hand event ref (.failing rejection))
        { pool.goes ref (.hand event ref .disconnecting) with
          state := (markSessionFailed (pool.states ref)).2
          stats := recordRejection pool.stats rejection
          observations := [.failed event.sessionId] }
  | rejected (event : SessionEvent) (rejection : Rejection)
      (hmark : (markSessionFailed (pool.states ref)).1 = false) :
      Section config pool w ref (.work w) (.hand event ref (.failing rejection))
        (pool.goes ref (.hand event ref (afterRejection event)))
  | discard (event : SessionEvent) :
      Section config pool w ref (.work w) (.hand event ref .discarding)
        { pool.goes ref .popping with
          closer := if pool.DrainReady then some (.worker w) else pool.closer }
  | disconnectHand (event : SessionEvent) (effect : Effect n)
      (hpublish : pool.Publication ref event (disconnectCommand event)
        (fun _ => .hand event ref (afterRejection event)) effect) :
      Section config pool w ref (.work w) (.hand event ref .disconnecting) effect
  | takePending (event : SessionEvent) :
      Section config pool w ref (.work w) (.hand event ref .takingPending)
        { pool.goes ref ((restart (takePendingDisconnected (pool.states ref)).1).worker ref)
          with state := (takePendingDisconnected (pool.states ref)).2 }
  | emitCompletion (event : SessionEvent) (context next : WorkerSessionEventContext)
      (message : OutboundMessage) (rest : List OutboundMessage)
      (hemit : context.emit config pool.forceStopRequested event message = (.accepted, next)) :
      Section config pool w ref (.work w)
        (.turn event ref (.completing context (message :: rest)))
        (pool.goes ref (.turn event ref (.completing next rest)))
  | stopCompletion (event : SessionEvent) (context next : WorkerSessionEventContext)
      (message : OutboundMessage) (rest : List OutboundMessage) (outcome : EmitOutcome)
      (stats : OverloadStats)
      (hemit : context.emit config pool.forceStopRequested event message = (outcome, next))
      (hrefused : outcome ≠ .accepted)
      (hstats : stats.sessionFailures = pool.stats.sessionFailures) :
      Section config pool w ref (.work w)
        (.turn event ref (.completing context (message :: rest)))
        { pool.goes ref (.turn event ref (.completing next [])) with stats }
  | completionEmitted (event : SessionEvent) (context : WorkerSessionEventContext) :
      Section config pool w ref (.work w) (.turn event ref (.completing context []))
        (pool.goes ref (.turn event ref (.publishing context.messages false none)))
  | failTurn (event : SessionEvent) (failure : TurnFailure)
      (hmark : (markSessionFailed (pool.states ref)).1 = true) :
      Section config pool w ref (.work w) (.turn event ref (.failing failure))
        { pool.goes ref (.turn event ref .disconnecting) with
          state := (markSessionFailed (pool.states ref)).2
          stats := recordTurnFailure pool.stats true failure
          observations := [.failed event.sessionId] }
  | alreadyFailed (event : SessionEvent) (failure : TurnFailure)
      (hmark : (markSessionFailed (pool.states ref)).1 = false) :
      Section config pool w ref (.work w) (.turn event ref (.failing failure))
        { pool.goes ref (.turn event ref .ending) with
          stats := recordTurnFailure pool.stats false failure }
  | disconnectTurn (event : SessionEvent) (effect : Effect n)
      (hpublish : pool.Publication ref event (disconnectCommand event)
        (fun _ => .turn event ref .ending) effect) :
      Section config pool w ref (.work w) (.turn event ref .disconnecting) effect
  | skip (event : SessionEvent)
      (hskip : shouldSkipFailedSession event (pool.states ref) = true) :
      Section config pool w ref (.work w) (.turn event ref .skipping)
        (pool.goes ref (.turn event ref .ending))
  | invoke (event : SessionEvent)
      (hskip : shouldSkipFailedSession event (pool.states ref) = false) :
      Section config pool w ref (.work w) (.turn event ref .skipping)
        { pool.goes ref (.turn event ref (.handling {})) with
          observations := [.invoked event] }
  | finish (event : SessionEvent) (context : WorkerSessionEventContext)
      (hplain : context.deferral = none) :
      Section config pool w ref (.work w) (.turn event ref (.finishing context))
        (pool.goes ref (.turn event ref (.publishing context.messages false none)))
  | publish (event : SessionEvent) (message : OutboundMessage)
      (rest : List OutboundMessage) (deferred : Bool)
      (inlineCompletion : Option SessionEvent) (effect : Effect n)
      (hpublish : pool.Publication ref event message (fun published => .turn event ref
        (.publishing (if published then rest else []) deferred inlineCompletion)) effect) :
      Section config pool w ref (.work w)
        (.turn event ref (.publishing (message :: rest) deferred inlineCompletion)) effect
  | published (event : SessionEvent) (inlineCompletion : Option SessionEvent) :
      Section config pool w ref (.work w)
        (.turn event ref (.publishing [] false inlineCompletion))
        (pool.goes ref (.turn event ref .ending))
  | deferring (event : SessionEvent) (inlineCompletion : Option SessionEvent) :
      Section config pool w ref (.work w)
        (.turn event ref (.publishing [] true inlineCompletion))
        (pool.goes ref (.turn event ref (.deferring inlineCompletion)))
  | emit (event : SessionEvent) (context next : WorkerSessionEventContext)
      (message : OutboundMessage) (outcome : EmitOutcome) (stats : OverloadStats)
      (hemit : context.emit config pool.forceStopRequested event message = (outcome, next))
      (hstats : stats.sessionFailures = pool.stats.sessionFailures) :
      Section config pool w ref (.emit w message) (.turn event ref (.handling context))
        { pool.goes ref (.turn event ref (.handling next)) with stats }
  | handlerReturn (event : SessionEvent) (context : WorkerSessionEventContext) :
      Section config pool w ref (.handlerReturn w) (.turn event ref (.handling context))
        { pool.goes ref (.turn event ref (.finishing context)) with
          observations := [.returned event (if context.deferred then .deferred else .plain)] }
  | handlerThrow (event : SessionEvent) (context : WorkerSessionEventContext) :
      Section config pool w ref (.handlerThrow w) (.turn event ref (.handling context))
        { pool.goes ref (.turn event ref (.failing .handlerException)) with
          observations := [.returned event .threw] }

/-- Operations that no session sees.  A popped event still counts as queued
until it is looked up. -/
inductive Pool.Outside (pool : Pool n) : Action n → Pool n → Prop
  | popOutbound (message : OutboundMessage) (rest : List OutboundMessage)
      (hitems : pool.outbox.items = message :: rest) :
      Outside pool .popOutbound { pool with outbox := { pool.outbox with items := rest } }
  | pop (w : Fin n) (event : SessionEvent) (rest : List SessionEvent)
      (hworker : pool.workers w = .popping) (hintake : pool.intake = none)
      (hitems : pool.inbox.items = event :: rest) :
      Outside pool (.work w) { pool with
        inbox := { pool.inbox with items := rest }
        intake := some ⟨w, event, rest.length⟩ }
  | beginStop (hfree : pool.closer = none) : Outside pool .beginStop pool.beginStop
  | closeDrained (hcloser : pool.closer.isSome = true) :
      Outside pool .closeDrained { pool with inbox := pool.inbox.close, closer := none }
  | requestForceStop : Outside pool .requestForceStop { pool with forceStopRequested := true }
  | closeInbox (hforced : pool.forceStopRequested = true) :
      Outside pool .closeInbox { pool with inbox := pool.inbox.close }
  | closeOutbox : Outside pool .closeOutbox { pool with outbox := pool.outbox.close }

inductive StepOutcome (config : WorkerPoolConfig) (pool after : Pool n) : Action n → Prop
  | push (event : SessionEvent) (hexternal : event.isExternal = true)
      (hopen : pool.inbox.closed = false)
      (hafter : after = { pool with inbox := pool.inbox.enqueue event }.log [.accepted event]) :
      StepOutcome config pool after (.push event)
  | lookup (w : Fin n) (event : SessionEvent) (remaining : ℕ)
      (hworker : pool.workers w = .popping)
      (hintake : pool.intake = some ⟨w, event, remaining⟩)
      (hafter : after =
        ((({ pool with intake := none }.lookupOrCreate event.sessionId).2.setWorker w
          (.hand event ({ pool with intake := none }.lookupOrCreate event.sessionId).1
            (.popped remaining))).log [.popped event])) :
      StepOutcome config pool after (.work w)
  | exit (w : Fin n) (hworker : pool.workers w = .popping)
      (hitems : pool.inbox.items = []) (hclosed : pool.inbox.closed = true)
      (hafter : after = pool.setWorker w .exited) :
      StepOutcome config pool after (.work w)
  | move (w : Fin n) (ref : StateRef) (effect : Effect n) (action : Action n)
      (hsection : pool.Section config w ref action (pool.workers w) effect)
      (hafter : after = pool.perform w ref effect) :
      StepOutcome config pool after action
  | finish (w : Fin n) (event : SessionEvent) (ref : StateRef)
      (context : WorkerSessionEventContext) (id : DeferralId)
      (hworker : pool.workers w = .turn event ref (.finishing context))
      (hid : context.deferral = some id)
      (hafter : after = { pool with
        deferrals := update pool.deferrals id
          { pool.deferrals id with handlerReturned := true, inlinePayload := none }
        }.setWorker w (.turn event ref (.publishing context.messages true
          ((pool.deferrals id).inlinePayload.map (pool.deferrals id).completionEvent)))) :
      StepOutcome config pool after (.work w)
  | markDeferred (w : Fin n) (event : SessionEvent) (ref : StateRef)
      (inlineCompletion earlyCompletion : Option SessionEvent)
      (state : SessionSequenceState)
      (hworker : pool.workers w = .turn event ref (.deferring inlineCompletion))
      (hdefer : markSessionDeferred event (pool.states ref) = some (earlyCompletion, state))
      (hafter : after = ({ pool with
        outstandingDeferred := pool.outstandingDeferred + 1 }.setState ref
          state).setWorker w ((restart (inlineCompletion.or earlyCompletion)).worker ref)) :
      StepOutcome config pool after (.work w)
  | crash (w : Fin n) (event : SessionEvent) (ref : StateRef)
      (inlineCompletion : Option SessionEvent)
      (hworker : pool.workers w = .turn event ref (.deferring inlineCompletion))
      (hdefer : markSessionDeferred event (pool.states ref) = none)
      (hafter : after = pool.setWorker w .crashed) :
      StepOutcome config pool after (.work w)
  | ending (w : Fin n) (event : SessionEvent) (ref : StateRef)
      (hworker : pool.workers w = .turn event ref .ending)
      (hafter : after = (pool.completeSessionTurn w event ref).2.setWorker w
        ((restart (pool.completeSessionTurn w event ref).1).worker ref)) :
      StepOutcome config pool after (.work w)
  | defer (w : Fin n) (event : SessionEvent) (ref : StateRef)
      (context : WorkerSessionEventContext)
      (hworker : pool.workers w = .turn event ref (.handling context))
      (hafter : after = { pool with
        deferrals := update pool.deferrals pool.nextDeferral
          { sessionId := event.sessionId, sequence := event.sequence }
        nextDeferral := pool.nextDeferral + 1 }.setWorker w
          (.turn event ref (.handling { context with deferral := some pool.nextDeferral }))) :
      StepOutcome config pool after (.defer w)
  | complete (id : DeferralId) (payload : DeferredCompletionPayload)
      (hid : id < pool.nextDeferral)
      (hopen : (pool.deferrals id).completed = false)
      (hreturned : (pool.deferrals id).handlerReturned = true)
      (hafter : after = { pool with
        deferrals := update pool.deferrals id
          { pool.deferrals id with completed := true, pushing := some payload } }) :
      StepOutcome config pool after (.complete id payload)
  | completeInline (id : DeferralId) (payload : DeferredCompletionPayload)
      (hid : id < pool.nextDeferral)
      (hopen : (pool.deferrals id).completed = false)
      (hrunning : (pool.deferrals id).handlerReturned = false)
      (hafter : after = { pool with
        deferrals := update pool.deferrals id
          { pool.deferrals id with completed := true, inlinePayload := some payload }
        }.log [.answered (pool.deferrals id).sessionId id true true]) :
      StepOutcome config pool after (.complete id payload)
  | answer (id : DeferralId) (payload : DeferredCompletionPayload)
      (hid : id < pool.nextDeferral)
      (hrefused : pool.forceStopRequested = true ∨ (pool.deferrals id).completed = true)
      (hafter : after = pool.log [.answered (pool.deferrals id).sessionId id
        (!(pool.deferrals id).completed) false]) :
      StepOutcome config pool after (.complete id payload)
  | pushCompletion (id : DeferralId) (payload : DeferredCompletionPayload)
      (hid : id < pool.nextDeferral)
      (hpushing : (pool.deferrals id).pushing = some payload)
      (hopen : pool.inbox.closed = false)
      (hafter : after = { pool with
        inbox := pool.inbox.enqueue ((pool.deferrals id).completionEvent payload)
        deferrals := update pool.deferrals id { pool.deferrals id with pushing := none }
        }.log [.answered (pool.deferrals id).sessionId id true true]) :
      StepOutcome config pool after (.pushCompletion id)
  | refuseCompletion (id : DeferralId) (payload : DeferredCompletionPayload)
      (hid : id < pool.nextDeferral)
      (hpushing : (pool.deferrals id).pushing = some payload)
      (hclosed : pool.inbox.closed = true)
      (hafter : after = { pool with
        deferrals := update pool.deferrals id { pool.deferrals id with pushing := none }
        }.log [.answered (pool.deferrals id).sessionId id true false]) :
      StepOutcome config pool after (.pushCompletion id)
  | outside (action : Action n) (houtside : pool.Outside action after) :
      StepOutcome config pool after action

/-! ## Every step has its outcome -/

theorem Pool.maybeCloseInboxForDrainLocked_eq (pool : Pool n) (closer : Closer n) :
    pool.maybeCloseInboxForDrainLocked closer = { pool with
      closer := if pool.DrainReady then some closer else pool.closer } := by
  unfold maybeCloseInboxForDrainLocked
  split <;> rfl

theorem Pool.perform_quiet (pool : Pool n) (w : Fin n) (ref : StateRef) (worker : Worker)
    (closer : Option (Closer n)) (stats : OverloadStats) :
    pool.perform w ref { pool.goes ref worker with closer, stats } =
      { pool with closer, stats }.setWorker w worker := by
  simp [perform, goes, setWorker]

theorem Pool.perform_state (pool : Pool n) (w : Fin n) (ref : StateRef) (worker : Worker)
    (state : SessionSequenceState) :
    pool.perform w ref { pool.goes ref worker with state } =
      (pool.setState ref state).setWorker w worker := by
  simp [perform, goes, setWorker, setState]

theorem Pool.perform_published (pool : Pool n) (w : Fin n) (ref : StateRef)
    (worker : Worker) (outbox : BoundedBlockingQueue OutboundMessage)
    (stats : OverloadStats) (observations : List Observation) :
    pool.perform w ref { pool.goes ref worker with outbox, stats, observations } =
      { pool with outbox, stats, transcript := pool.transcript ++ observations }.setWorker
        w worker := by
  simp [perform, goes, setWorker]

theorem Pool.publication_of_publishOutbound {message : OutboundMessage} {published : Bool}
    (hpublish : pool.publishOutbound event message = some (published, after))
    (w : Fin n) (ref : StateRef) (next : Bool → Worker) :
    ∃ effect, pool.Publication ref event message next effect ∧
      after.setWorker w (next published) = pool.perform w ref effect := by
  unfold publishOutbound push at hpublish
  split at hpublish
  next hclosed =>
    cases hpublish
    exact ⟨_, .refused hclosed, (perform_quiet _ _ _ _ _ _).symm⟩
  next hopen =>
    split at hpublish
    next => cases hpublish
    next =>
      cases hpublish
      refine ⟨_, .sent _ (by simpa using hopen) ?_, (perform_published _ _ _ _ _ _ _).symm⟩
      rfl

theorem Pool.publication_of_requestSessionDisconnect
    (hrequest : pool.requestSessionDisconnect event = some after) (w : Fin n)
    (ref : StateRef) (worker : Worker) :
    ∃ effect, pool.Publication ref event (disconnectCommand event) (fun _ => worker) effect ∧
      after.setWorker w worker = pool.perform w ref effect := by
  obtain ⟨⟨_, _⟩, hpublish, rfl⟩ := map_eq_some_iff.mp hrequest
  exact publication_of_publishOutbound hpublish w ref fun _ => worker

theorem StepOutcome.of_section {worker : Worker} {effect : Effect n}
    (hworker : pool.workers w = worker) (hsection : pool.Section config w ref action worker effect)
    (hafter : after = pool.perform w ref effect) : StepOutcome config pool after action := by
  subst hworker
  exact .move w ref effect action hsection hafter

theorem StepOutcome.of_goes {worker next : Worker} (hworker : pool.workers w = worker)
    (hsection : pool.Section config w ref action worker (pool.goes ref next))
    (hafter : after = pool.setWorker w next) : StepOutcome config pool after action := by
  apply StepOutcome.of_section hworker hsection
  rw [hafter]
  exact (pool.perform_quiet w ref next pool.closer pool.stats).symm

theorem Pool.handStep_trying {disposition : SessionTurnDisposition} {state : SessionSequenceState}
    (hstart : tryStartSessionTurn config event (pool.states ref) = (disposition, state)) :
    pool.handStep config w event ref .trying =
      some (((pool.setState ref state).setWorker w
        ((tryTask event disposition).worker ref)).log (tryLog event disposition)) := by
  simp only [handStep, hstart]
  cases disposition with
  | process =>
    by_cases hkind : event.kind = .deferredCompletion
    · simp [hkind, tryTask, tryLog, Task.worker]
    · simp [hkind, tryTask, tryLog, Task.worker]
  | _ => simp [tryTask, tryLog, Task.worker, Pool.log]

theorem Pool.outcome_handStep {stage : HandStage} (hworker : pool.workers w = .hand event ref stage)
    (hstep : pool.handStep config w event ref stage = some after) :
    StepOutcome config pool after (.work w) := by
  cases stage with
  | popped remaining =>
    simp only [handStep, Option.some.injEq] at hstep
    obtain ⟨stats, hpool, hstats⟩ : ∃ stats,
        (if remaining = config.inboundLowWatermark then
          { pool with stats := { pool.stats with
              inputCapacityNotifications :=
                pool.stats.inputCapacityNotifications + 1 } }
        else pool) = { pool with stats } ∧
          stats.sessionFailures = pool.stats.sessionFailures := by
      split
      · exact ⟨_, rfl, rfl⟩
      · exact ⟨pool.stats, rfl, rfl⟩
    rw [hpool] at hstep
    cases hforced : pool.forceStopRequested with
    | true =>
      apply StepOutcome.of_section hworker (.lose event _ stats (.inr ⟨_, rfl⟩) hforced hstats)
      rw [← hstep, if_pos hforced]
      exact (perform_quiet _ _ _ _ _ _).symm
    | false =>
      apply StepOutcome.of_section hworker (.notify event remaining stats hforced hstats)
      rw [← hstep, if_neg (by simp [hforced])]
      exact (perform_quiet _ _ _ _ _ _).symm
  | starting =>
    simp only [handStep, Option.some.injEq] at hstep
    cases hforced : pool.forceStopRequested with
    | true =>
      rw [if_pos hforced] at hstep
      exact .of_goes hworker (.lose event _ pool.stats (.inl rfl) hforced rfl) hstep.symm
    | false =>
      rw [if_neg (by simp [hforced])] at hstep
      exact .of_goes hworker (.enter event hforced) hstep.symm
  | trying =>
    cases hstart : tryStartSessionTurn config event (pool.states ref) with
    | mk disposition state =>
      rw [handStep_trying hstart] at hstep
      exact .of_section hworker (.tryStart event disposition state hstart)
        (Option.some.inj hstep).symm
  | discarding =>
    apply StepOutcome.of_section hworker (.discard event)
    rw [← Option.some.inj hstep, maybeCloseInboxForDrainLocked_eq]
    exact (perform_quiet _ _ _ _ _ _).symm
  | failing rejection =>
    simp only [handStep] at hstep
    cases hmark : (markSessionFailed (pool.states ref)).1 with
    | true =>
      simp only [hmark, if_true, Option.some.injEq] at hstep
      exact .of_section hworker (.failHand event rejection hmark) hstep.symm
    | false =>
      simp only [hmark, Bool.false_eq_true, if_false, Option.some.injEq] at hstep
      exact .of_goes hworker (.rejected event rejection hmark) hstep.symm
  | disconnecting =>
    obtain ⟨_, hrequest, rfl⟩ := map_eq_some_iff.mp hstep
    obtain ⟨effect, hpublish, hafter⟩ := publication_of_requestSessionDisconnect
      hrequest w ref (.hand event ref (afterRejection event))
    exact .of_section hworker (.disconnectHand event effect hpublish) hafter
  | takingPending =>
    simp only [handStep, Option.some.injEq] at hstep
    apply StepOutcome.of_section hworker (.takePending event)
    rw [perform_state, ← hstep]
    cases (takePendingDisconnected (pool.states ref)).1 <;> rfl

theorem Pool.outcome_turnStep {stage : TurnStage} (hworker : pool.workers w = .turn event ref stage)
    (hstep : pool.turnStep config w event ref stage = some after) :
    StepOutcome config pool after (.work w) := by
  cases stage with
  | completing context messages =>
    cases messages with
    | nil =>
      exact .of_goes hworker (.completionEmitted event context) (Option.some.inj hstep).symm
    | cons message rest =>
      simp only [turnStep] at hstep
      split at hstep
      next next hemit =>
        exact .of_goes hworker (.emitCompletion event context next message rest hemit)
          (Option.some.inj hstep).symm
      next next hemit =>
        exact .of_goes hworker (.stopCompletion event context next message rest _ pool.stats
          hemit (by simp) rfl) (Option.some.inj hstep).symm
      next next hemit =>
        apply StepOutcome.of_section hworker (.stopCompletion event context next message rest _
          { pool.stats with
            outboundBudgetRejections := pool.stats.outboundBudgetRejections + 1 }
          hemit (by simp) rfl)
        rw [← Option.some.inj hstep]
        exact (perform_quiet _ _ _ _ _ _).symm
  | failing failure =>
    simp only [turnStep] at hstep
    cases hmark : (markSessionFailed (pool.states ref)).1 with
    | true =>
      simp only [hmark, if_true, Option.some.injEq] at hstep
      exact .of_section hworker (.failTurn event failure hmark) hstep.symm
    | false =>
      simp only [hmark, Bool.false_eq_true, if_false, Option.some.injEq] at hstep
      apply StepOutcome.of_section hworker (.alreadyFailed event failure hmark)
      rw [← hstep]
      exact (perform_quiet _ _ _ _ _ _).symm
  | disconnecting =>
    obtain ⟨between, hrequest, rfl⟩ := map_eq_some_iff.mp hstep
    obtain ⟨effect, hpublish, hafter⟩ := publication_of_requestSessionDisconnect
      hrequest w ref (.turn event ref .ending)
    exact .of_section hworker (.disconnectTurn event effect hpublish) hafter
  | skipping =>
    simp only [turnStep] at hstep
    split at hstep
    next hskip => exact .of_goes hworker (.skip event hskip) (Option.some.inj hstep).symm
    next hskip =>
      apply StepOutcome.of_section hworker (.invoke event (by simpa using hskip))
      rw [← Option.some.inj hstep]
      exact (perform_published _ _ _ _ _ _ _).symm
  | handling => cases hstep
  | finishing context =>
    simp only [turnStep] at hstep
    cases hdeferral : context.deferral with
    | none =>
      rw [hdeferral] at hstep
      exact .of_goes hworker (.finish event context hdeferral) (Option.some.inj hstep).symm
    | some id =>
      rw [hdeferral] at hstep
      exact .finish w event ref context id hworker hdeferral (Option.some.inj hstep).symm
  | publishing messages deferred inlineCompletion =>
    cases messages with
    | nil =>
      cases deferred with
      | true =>
        exact .of_goes hworker (.deferring event inlineCompletion) (Option.some.inj hstep).symm
      | false =>
        exact .of_goes hworker (.published event inlineCompletion) (Option.some.inj hstep).symm
    | cons message rest =>
      obtain ⟨⟨published, _⟩, hresult, rfl⟩ := map_eq_some_iff.mp hstep
      obtain ⟨effect, hpublish, hafter⟩ := publication_of_publishOutbound hresult w ref
        fun published => .turn event ref
          (.publishing (if published then rest else []) deferred inlineCompletion)
      exact .of_section hworker
        (.publish event message rest deferred inlineCompletion effect hpublish) hafter
  | deferring inlineCompletion =>
    simp only [turnStep] at hstep
    cases hdefer : markSessionDeferred event (pool.states ref) with
    | none =>
      rw [hdefer] at hstep
      exact .crash w event ref inlineCompletion hworker hdefer (Option.some.inj hstep).symm
    | some result =>
      obtain ⟨earlyCompletion, state⟩ := result
      simp only [hdefer, Option.some.injEq] at hstep
      refine .markDeferred w event ref inlineCompletion earlyCompletion state hworker hdefer ?_
      rw [← hstep]
      cases inlineCompletion.or earlyCompletion <;> rfl
  | ending =>
    simp only [turnStep, Option.some.injEq] at hstep
    refine .ending w event ref hworker ?_
    rw [← hstep]
    cases (pool.completeSessionTurn w event ref).1 <;> rfl

theorem Pool.outcome_popStep (hworker : pool.workers w = .popping)
    (hstep : pool.popStep w = some after) : StepOutcome config pool after (.work w) := by
  unfold popStep pop at hstep
  cases hintake : pool.intake with
  | none =>
    cases hitems : pool.inbox.items with
    | nil =>
      cases hclosed : pool.inbox.closed with
      | true =>
        simp only [hintake, hitems, hclosed, if_true, Option.some.injEq] at hstep
        exact .exit w hworker hitems hclosed hstep.symm
      | false => simp [hintake, hitems, hclosed] at hstep
    | cons event rest =>
      simp only [hintake, hitems, Option.some.injEq] at hstep
      subst hstep
      exact .outside _ (.pop w event rest hworker hintake hitems)
  | some popped =>
    obtain ⟨v, event, remaining⟩ := popped
    simp only [hintake] at hstep
    split at hstep
    next hvw =>
      subst hvw
      exact .lookup v event remaining hworker hintake (Option.some.inj hstep).symm
    next => cases hstep

theorem Pool.outcome_completeStep {id : DeferralId} {payload : DeferredCompletionPayload}
    (hstep : pool.completeStep id payload = some after) :
    StepOutcome config pool after (.complete id payload) := by
  unfold completeStep at hstep
  split at hstep
  next hid =>
    simp only at hstep
    split at hstep
    next hrefused =>
      exact .answer id payload hid (by simpa using hrefused) (Option.some.inj hstep).symm
    next hfirst =>
      simp only [Bool.or_eq_true, not_or, Bool.not_eq_true] at hfirst
      split at hstep
      next hreturned =>
        exact .complete id payload hid hfirst.2 hreturned (Option.some.inj hstep).symm
      next hrunning =>
        exact .completeInline id payload hid hfirst.2 (by simpa using hrunning)
          (Option.some.inj hstep).symm
  next => cases hstep

theorem Pool.outcome_pushCompletionStep {id : DeferralId}
    (hstep : pool.pushCompletionStep id = some after) :
    StepOutcome config pool after (.pushCompletion id) := by
  unfold pushCompletionStep at hstep
  split at hstep
  next hid =>
    simp only at hstep
    split at hstep
    next => cases hstep
    next payload hpushing =>
      obtain ⟨⟨_, _⟩, hpush, rfl⟩ := map_eq_some_iff.mp hstep
      unfold push at hpush
      split at hpush
      next hclosed =>
        cases hpush
        exact .refuseCompletion id payload hid hpushing hclosed rfl
      next hopen =>
        split at hpush
        next => cases hpush
        next =>
          cases hpush
          exact .pushCompletion id payload hid hpushing (by simpa using hopen) rfl
  next => cases hstep

theorem Pool.outcome (hstep : pool.step config action = some after) :
    StepOutcome config pool after action := by
  cases action with
  | push event =>
    simp only [Pool.step, pushStep] at hstep
    split at hstep
    next hexternal =>
      split at hstep
      next hpush =>
        obtain ⟨hopen, henqueue⟩ := tryPush_succeeded hpush
        rw [henqueue, Option.some.injEq] at hstep
        exact .push event hexternal hopen hstep.symm
      next => cases hstep
    next => cases hstep
  | work =>
    simp only [Pool.step, runStep] at hstep
    split at hstep
    next => cases hstep
    next =>
      split at hstep
      next hworker => exact outcome_popStep hworker hstep
      next hworker => exact outcome_handStep hworker hstep
      next hworker => exact outcome_turnStep hworker hstep
      next => cases hstep
      next => cases hstep
  | emit _ message =>
    simp only [Pool.step, emitStep] at hstep
    split at hstep
    next event ref context hworker =>
      simp only [Option.some.injEq] at hstep
      subst hstep
      split
      · exact .of_section hworker (.emit event context _ message _
          { pool.stats with
            outboundBudgetRejections := pool.stats.outboundBudgetRejections + 1 } rfl rfl)
          (perform_quiet _ _ _ _ _ _).symm
      · exact .of_goes hworker (.emit event context _ message _ pool.stats rfl rfl) rfl
    next => cases hstep
  | defer w =>
    simp only [Pool.step, deferStep] at hstep
    split at hstep
    next event ref context hworker =>
      split at hstep
      next => cases hstep
      next => exact .defer w event ref context hworker (Option.some.inj hstep).symm
    next => cases hstep
  | handlerReturn =>
    simp only [Pool.step, returnStep] at hstep
    split at hstep
    next event ref context hworker =>
      apply StepOutcome.of_section hworker (.handlerReturn event context)
      rw [← Option.some.inj hstep]
      exact (perform_published _ _ _ _ _ _ _).symm
    next => cases hstep
  | handlerThrow =>
    simp only [Pool.step, throwStep] at hstep
    split at hstep
    next event _ context hworker =>
      apply StepOutcome.of_section hworker (.handlerThrow event context)
      rw [← Option.some.inj hstep]
      exact (perform_published _ _ _ _ _ _ _).symm
    next => cases hstep
  | complete => exact outcome_completeStep hstep
  | pushCompletion => exact outcome_pushCompletionStep hstep
  | popOutbound =>
    simp only [Pool.step] at hstep
    split at hstep
    next => cases hstep
    next message rest hitems =>
      cases hstep
      exact .outside _ (.popOutbound message rest hitems)
  | beginStop =>
    simp only [Pool.step] at hstep
    split at hstep
    next => cases hstep
    next hfree =>
      cases hstep
      exact .outside _ (.beginStop (by simpa using hfree))
  | closeDrained =>
    simp only [Pool.step, closeDrained] at hstep
    split at hstep
    next hcloser =>
      cases hstep
      exact .outside _ (.closeDrained hcloser)
    next => cases hstep
  | requestForceStop =>
    cases hstep
    exact .outside _ .requestForceStop
  | closeInbox =>
    simp only [Pool.step] at hstep
    split at hstep
    next hforced =>
      cases hstep
      exact .outside _ (.closeInbox hforced)
    next => cases hstep
  | closeOutbox =>
    cases hstep
    exact .outside _ .closeOutbox

end SessionServer.WorkerPool
