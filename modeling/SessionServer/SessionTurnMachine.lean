import SessionServer.Accounting
import SessionServer.WorkerPoolStep

/-!
# The pool seen from one session

Workers that serve different sessions do not interfere, and a state the map
has dropped is dead.  What remains for one session is a small machine: its
current sequence state, its part of the inbox, the workers busy with it, and
the completions that may still be pushed.  `SessionStep` says everything one
step of the pool can do to it.

The machine is lossy when a completion may be refused or a worker may drop the
event it holds, which happens only once the inbox is closed or a stop is
forced.
-/

namespace SessionServer.WorkerPool

open SessionSequenceState

inductive Task
  | idle
  | hand (event : SessionEvent) (stage : HandStage)
  | turn (event : SessionEvent) (stage : TurnStage)

structure SessionView (n : ℕ) where
  sessionId : SessionId
  registered : Bool
  state : SessionSequenceState
  queue : List SessionEvent
  tasks : Fin n → Task
  /-- Sequence numbers of the completions that may still be pushed: the
  handler has returned and the push has not happened. -/
  callable : Multiset ℕ
  log : Transcript

variable {n : ℕ}
variable {state : SessionSequenceState}

def SessionView.advance (view : SessionView n) (w : Fin n) (task : Task)
    (observations : List Observation) : SessionView n :=
  { view with
    tasks := Function.update view.tasks w task
    log := view.log ++ observations }

/-- The session leaves the map; workers that still refer to its state can
only discard what they hold. -/
def SessionView.close (view : SessionView n) (event : SessionEvent) :
    SessionView n :=
  { view with
    registered := false
    state := {}
    tasks := fun _ => .idle
    log := view.log ++ [.ended event true] }

section Advance

variable (view : SessionView n) (w : Fin n) (task : Task) (observations : List Observation)

@[simp] theorem SessionView.advance_sessionId :
    (view.advance w task observations).sessionId = view.sessionId := rfl

@[simp] theorem SessionView.advance_registered :
    (view.advance w task observations).registered = view.registered := rfl

@[simp] theorem SessionView.advance_state :
    (view.advance w task observations).state = view.state := rfl

@[simp] theorem SessionView.advance_queue :
    (view.advance w task observations).queue = view.queue := rfl

@[simp] theorem SessionView.advance_callable :
    (view.advance w task observations).callable = view.callable := rfl

@[simp] theorem SessionView.advance_log :
    (view.advance w task observations).log = view.log ++ observations := rfl

end Advance

def Observation.isQuiet : Observation → Bool
  | .published _ _ => true
  | .answered _ _ _ _ => true
  | _ => false

def tryTask (event : SessionEvent) : SessionTurnDisposition → Task
  | .process =>
    if event.kind = .deferredCompletion then .turn event (completionStage event)
    else .turn event .skipping
  | .parked => .idle
  | .discarded => .hand event .discarding
  | .invalidSequence => .hand event (.failing .invalidSequence)
  | .parkedLimit => .hand event (.failing .parkedLimit)

def tryLog (event : SessionEvent) : SessionTurnDisposition → List Observation
  | .process =>
    if event.kind = .deferredCompletion then [.processed event]
    else [.started event]
  | _ => []

def restart : Option SessionEvent → Task
  | none => .idle
  | some event => .hand event .starting

/-- Moves of a worker that leave the session's state alone. -/
inductive HandMove (state : SessionSequenceState) (event : SessionEvent) :
    HandStage → HandStage → Prop
  | notify (remaining : ℕ) : HandMove state event (.popped remaining) .starting
  | enter : HandMove state event .starting .trying
  | alreadyFailed (rejection : Rejection)
      (hmark : (markSessionFailed state).1 = false) :
      HandMove state event (.failing rejection) (afterRejection event)
  | disconnected : HandMove state event .disconnecting (afterRejection event)

inductive TurnMove (state : SessionSequenceState) (event : SessionEvent) :
    TurnStage → TurnStage → Prop
  | emitCompletion (context next : WorkerSessionEventContext)
      (messages rest : List OutboundMessage) :
      TurnMove state event (.completing context messages) (.completing next rest)
  | emitted (context : WorkerSessionEventContext) :
      TurnMove state event (.completing context []) (.publishing context.messages false none)
  | alreadyFailed (failure : TurnFailure)
      (hmark : (markSessionFailed state).1 = false) :
      TurnMove state event (.failing failure) .ending
  | disconnected : TurnMove state event .disconnecting .ending
  | skip (hskip : shouldSkipFailedSession event state = true) :
      TurnMove state event .skipping .ending
  | handle (context next : WorkerSessionEventContext) :
      TurnMove state event (.handling context) (.handling next)
  | finish (context : WorkerSessionEventContext)
      (hplain : context.deferral = none) :
      TurnMove state event (.finishing context) (.publishing context.messages false none)
  | publish (messages rest : List OutboundMessage) (deferred : Bool)
      (inlineCompletion : Option SessionEvent) :
      TurnMove state event (.publishing messages deferred inlineCompletion)
        (.publishing rest deferred inlineCompletion)
  | published (inlineCompletion : Option SessionEvent) :
      TurnMove state event (.publishing [] false inlineCompletion) .ending
  | defer (inlineCompletion : Option SessionEvent) :
      TurnMove state event (.publishing [] true inlineCompletion) (.deferring inlineCompletion)

inductive SessionStep (config : WorkerPoolConfig) (lossy : Bool)
    (view : SessionView n) : SessionView n → Prop
  | push (event : SessionEvent) (hexternal : event.isExternal = true)
      (hsession : event.sessionId = view.sessionId) :
      SessionStep config lossy view { view with
        queue := view.queue ++ [event]
        log := view.log ++ [.accepted event] }
  | pop (w : Fin n) (event : SessionEvent) (rest : List SessionEvent)
      (remaining : ℕ) (htask : view.tasks w = .idle)
      (hqueue : view.queue = event :: rest) :
      SessionStep config lossy view
        ({ view with registered := true, queue := rest }.advance w
          (.hand event (.popped remaining)) [.popped event])
  | handMove (w : Fin n) (event : SessionEvent) (stage next : HandStage)
      (observations : List Observation) (htask : view.tasks w = .hand event stage)
      (hmove : HandMove view.state event stage next)
      (hquiet : ∀ observation ∈ observations, observation.isQuiet = true) :
      SessionStep config lossy view (view.advance w (.hand event next) observations)
  | tryStart (w : Fin n) (event : SessionEvent)
      (disposition : SessionTurnDisposition) (state : SessionSequenceState)
      (htask : view.tasks w = .hand event .trying)
      (hstart : tryStartSessionTurn config event view.state = (disposition, state)) :
      SessionStep config lossy view
        ({ view with state := state }.advance w (tryTask event disposition)
          (tryLog event disposition))
  | discard (w : Fin n) (event : SessionEvent)
      (htask : view.tasks w = .hand event .discarding) :
      SessionStep config lossy view (view.advance w .idle [])
  | failHand (w : Fin n) (event : SessionEvent) (rejection : Rejection)
      (htask : view.tasks w = .hand event (.failing rejection))
      (hmark : (markSessionFailed view.state).1 = true) :
      SessionStep config lossy view
        ({ view with state := (markSessionFailed view.state).2 }.advance w
          (.hand event .disconnecting) [.failed event.sessionId])
  | takePending (w : Fin n) (event : SessionEvent)
      (htask : view.tasks w = .hand event .takingPending) :
      SessionStep config lossy view
        ({ view with state := (takePendingDisconnected view.state).2 }.advance w
          (restart (takePendingDisconnected view.state).1) [])
  | turnMove (w : Fin n) (event : SessionEvent) (stage next : TurnStage)
      (observations : List Observation) (htask : view.tasks w = .turn event stage)
      (hmove : TurnMove view.state event stage next)
      (hquiet : ∀ observation ∈ observations, observation.isQuiet = true) :
      SessionStep config lossy view (view.advance w (.turn event next) observations)
  | failTurn (w : Fin n) (event : SessionEvent) (failure : TurnFailure)
      (htask : view.tasks w = .turn event (.failing failure))
      (hmark : (markSessionFailed view.state).1 = true) :
      SessionStep config lossy view
        ({ view with state := (markSessionFailed view.state).2 }.advance w
          (.turn event .disconnecting) [.failed event.sessionId])
  | invoke (w : Fin n) (event : SessionEvent)
      (htask : view.tasks w = .turn event .skipping)
      (hskip : shouldSkipFailedSession event view.state = false) :
      SessionStep config lossy view (view.advance w (.turn event (.handling {})) [.invoked event])
  | handlerReturn (w : Fin n) (event : SessionEvent)
      (context : WorkerSessionEventContext)
      (htask : view.tasks w = .turn event (.handling context)) :
      SessionStep config lossy view
        (view.advance w (.turn event (.finishing context))
          [.returned event (if context.deferred then .deferred else .plain)])
  | handlerThrow (w : Fin n) (event : SessionEvent)
      (context : WorkerSessionEventContext)
      (htask : view.tasks w = .turn event (.handling context)) :
      SessionStep config lossy view
        (view.advance w (.turn event (.failing .handlerException)) [.returned event .threw])
  | finishInline (w : Fin n) (event completion : SessionEvent)
      (context : WorkerSessionEventContext)
      (htask : view.tasks w = .turn event (.finishing context))
      (hkind : completion.kind = .deferredCompletion)
      (hsequence : completion.sequence = event.sequence)
      (hsession : completion.sessionId = event.sessionId)
      (hdeferred : context.deferred = true) :
      SessionStep config lossy view
        (view.advance w (.turn event (.publishing context.messages true (some completion))) [])
  | finishOpen (w : Fin n) (event : SessionEvent)
      (context : WorkerSessionEventContext)
      (htask : view.tasks w = .turn event (.finishing context))
      (hdeferred : context.deferred = true) :
      SessionStep config lossy view
        ({ view with callable := event.sequence ::ₘ view.callable }.advance w
          (.turn event (.publishing context.messages true none)) [])
  | markDeferred (w : Fin n) (event : SessionEvent)
      (inlineCompletion earlyCompletion : Option SessionEvent)
      (state : SessionSequenceState)
      (htask : view.tasks w = .turn event (.deferring inlineCompletion))
      (hdefer : markSessionDeferred event view.state = some (earlyCompletion, state)) :
      SessionStep config lossy view
        ({ view with state := state }.advance w (restart (inlineCompletion.or earlyCompletion)) [])
  | endOpen (w : Fin n) (event : SessionEvent)
      (htask : view.tasks w = .turn event .ending)
      (hopen : view.state.activeDisconnect = false) :
      SessionStep config lossy view
        ({ view with state := (endSessionTurn view.state).2 }.advance w
          (restart (endSessionTurn view.state).1) [.ended event false])
  | endClosed (w : Fin n) (event : SessionEvent)
      (htask : view.tasks w = .turn event .ending)
      (hclosed : view.state.activeDisconnect = true) :
      SessionStep config lossy view (view.close event)
  | pushCompletion (completion : SessionEvent) (observations : List Observation)
      (hkind : completion.kind = .deferredCompletion)
      (hsession : completion.sessionId = view.sessionId)
      (hcallable : completion.sequence ∈ view.callable)
      (hquiet : ∀ observation ∈ observations, observation.isQuiet = true) :
      SessionStep config lossy view { view with
        queue := view.queue ++ [completion]
        callable := view.callable.erase completion.sequence
        log := view.log ++ observations }
  | refuseCompletion (sequence : ℕ) (observations : List Observation)
      (hcallable : sequence ∈ view.callable)
      (hquiet : ∀ observation ∈ observations, observation.isQuiet = true)
      (hlossy : lossy = true) :
      SessionStep config lossy view { view with
        callable := view.callable.erase sequence
        log := view.log ++ observations }
  | observe (observations : List Observation)
      (hquiet : ∀ observation ∈ observations, observation.isQuiet = true) :
      SessionStep config lossy view { view with log := view.log ++ observations }
  | lose (w : Fin n) (event : SessionEvent) (stage : HandStage)
      (htask : view.tasks w = .hand event stage) (hlossy : lossy = true) :
      SessionStep config lossy view (view.advance w .idle [])

/-! ## Specs of the state functions -/

/-- Everything `tryStartSessionTurn` can answer, with the reason. -/
inductive TurnStart (config : WorkerPoolConfig) (event : SessionEvent)
    (state : SessionSequenceState) :
    SessionTurnDisposition → SessionSequenceState → Prop
  | closed (hclosed : state.closed = true) : TurnStart config event state .discarded state
  | completion (hkind : event.kind = .deferredCompletion)
      (hactive : state.active = true) (hawaiting : state.awaitingCompletion = true)
      (hsequence : state.nextSequence = event.sequence) :
      TurnStart config event state .process state
  | early (hkind : event.kind = .deferredCompletion)
      (hactive : state.active = true)
      (hawaiting : state.awaitingCompletion = false)
      (hsequence : state.nextSequence = event.sequence)
      (hearly : state.earlyCompletion = none) :
      TurnStart config event state .parked { state with earlyCompletion := some event }
  | badCompletion (hkind : event.kind = .deferredCompletion)
      (hbad : ¬ (state.active = true ∧ state.nextSequence = event.sequence ∧
        (state.awaitingCompletion = true ∨ state.earlyCompletion = none))) :
      TurnStart config event state .invalidSequence state
  | failedPacket (hkind : event.kind = .packet) (hfailed : state.failed = true) :
      TurnStart config event state .discarded state
  | pending (hkind : event.kind = .disconnected) (hfailed : state.failed = true)
      (hactive : state.active = true) :
      TurnStart config event state .parked { state with pendingDisconnected := some event }
  | startFailed (hkind : event.kind = .disconnected)
      (hfailed : state.failed = true) (hactive : state.active = false) :
      TurnStart config event state .process { state with
        nextSequence := event.sequence
        active := true
        activeDisconnect := true }
  | start (hkind : event.kind ≠ .deferredCompletion)
      (hfailed : state.failed = false) (hactive : state.active = false)
      (hsequence : state.nextSequence = event.sequence) :
      TurnStart config event state .process { state with
        active := true
        activeDisconnect := event.kind == .disconnected }
  | invalid (hkind : event.kind ≠ .deferredCompletion)
      (hfailed : state.failed = false)
      (hinvalid : event.sequence < state.nextSequence ∨
        state.parked.contains event.sequence = true) :
      TurnStart config event state .invalidSequence state
  | limit (hkind : event.kind ≠ .deferredCompletion)
      (hfailed : state.failed = false)
      (hlimit : config.maxParkedEventsPerSession ≤ state.parked.size)
      (hlate : state.active = true ∨ state.nextSequence ≠ event.sequence) :
      TurnStart config event state .parkedLimit state
  | park (hkind : event.kind ≠ .deferredCompletion)
      (hfailed : state.failed = false)
      (hlate : state.active = true ∨ state.nextSequence ≠ event.sequence)
      (hsequence : state.nextSequence ≤ event.sequence)
      (habsent : state.parked.contains event.sequence = false)
      (hroom : state.parked.size < config.maxParkedEventsPerSession) :
      TurnStart config event state .parked
        { state with parked := (state.parked.emplace event.sequence event).1 }

theorem turnStart_tryStartSessionTurn {config : WorkerPoolConfig} {event : SessionEvent}
    {next : SessionSequenceState} {disposition : SessionTurnDisposition}
    (hstart : tryStartSessionTurn config event state = (disposition, next)) :
    TurnStart config event state disposition next := by
  unfold tryStartSessionTurn at hstart
  split at hstart
  next hclosed =>
    obtain ⟨rfl, rfl⟩ := Prod.mk.inj hstart
    exact .closed hclosed
  next _ =>
    split at hstart
    next hkind =>
      split at hstart
      next hready =>
        obtain ⟨rfl, rfl⟩ := Prod.mk.inj hstart
        simp only [Bool.and_eq_true, beq_iff_eq] at hready
        exact .completion hkind hready.1.1 hready.1.2 hready.2
      next hnotReady =>
        split at hstart
        next hearly =>
          obtain ⟨rfl, rfl⟩ := Prod.mk.inj hstart
          simp only [Bool.and_eq_true, beq_iff_eq, Bool.not_eq_true',
            Option.isNone_iff_eq_none] at hearly
          exact .early hkind hearly.1.1.1 hearly.1.1.2 hearly.1.2 hearly.2
        next hlate =>
          obtain ⟨rfl, rfl⟩ := Prod.mk.inj hstart
          refine .badCompletion hkind ?_
          rintro ⟨hactive, hsequence, hcase⟩
          cases hawaiting : state.awaitingCompletion with
          | true => simp [hactive, hsequence, hawaiting] at hnotReady
          | false => simp_all
    next hkind =>
      split at hstart
      next hfailed =>
        split at hstart
        next _ =>
          obtain ⟨rfl, rfl⟩ := Prod.mk.inj hstart
          refine .failedPacket ?_ hfailed
          cases hcase : event.kind <;> simp_all
        next hdisconnected =>
          have hkindEq : event.kind = .disconnected := not_not.mp hdisconnected
          split at hstart
          next hactive =>
            obtain ⟨rfl, rfl⟩ := Prod.mk.inj hstart
            exact .pending hkindEq hfailed hactive
          next hinactive =>
            obtain ⟨rfl, rfl⟩ := Prod.mk.inj hstart
            exact .startFailed hkindEq hfailed (by simpa using hinactive)
      next hfailed =>
        have hnotFailed : state.failed = false := by simpa using hfailed
        split at hstart
        next hready =>
          obtain ⟨rfl, rfl⟩ := Prod.mk.inj hstart
          simp only [Bool.and_eq_true, Bool.not_eq_true', beq_iff_eq] at hready
          exact .start hkind hnotFailed hready.1 hready.2
        next hready =>
          have hlate : state.active = true ∨ state.nextSequence ≠ event.sequence := by
            cases hactive : state.active with
            | true => exact .inl rfl
            | false => exact .inr (by simpa [hactive] using hready)
          split at hstart
          next hinvalid =>
            obtain ⟨rfl, rfl⟩ := Prod.mk.inj hstart
            simp only [Bool.or_eq_true, decide_eq_true_eq] at hinvalid
            exact .invalid hkind hnotFailed hinvalid
          next hvalid =>
            simp only [Bool.or_eq_true, decide_eq_true_eq, not_or, not_lt,
              Bool.not_eq_true] at hvalid
            split at hstart
            next hlimit =>
              obtain ⟨rfl, rfl⟩ := Prod.mk.inj hstart
              exact .limit hkind hnotFailed hlimit hlate
            next hroom =>
              have hinserted :=
                (OrderedMap.emplace_of_absent event hvalid.2).1
              simp only [hinserted, if_true] at hstart
              obtain ⟨rfl, rfl⟩ := Prod.mk.inj hstart
              exact .park hkind hnotFailed hlate hvalid.1 hvalid.2 (not_le.mp hroom)

/-- The Disconnected event a failing session keeps. -/
def SessionSequenceState.salvaged (state : SessionSequenceState) :
    Option SessionEvent :=
  (state.parked.firstValue? SessionEvent.isDisconnected).or state.pendingDisconnected

theorem markSessionFailed_true (hmark : (markSessionFailed state).1 = true) :
    state.failed = false ∧
      (markSessionFailed state).2 = { state with
        failed := true
        pendingDisconnected := state.salvaged
        parked := .empty } := by
  unfold markSessionFailed at hmark ⊢
  split
  next hdone => simp [hdone] at hmark
  next hopen =>
    simp only [Bool.or_eq_true, not_or, Bool.not_eq_true] at hopen
    refine ⟨hopen.1, ?_⟩
    unfold salvaged SessionEvent.isDisconnected
    cases hfirst : state.parked.firstValue? fun event => event.kind == .disconnected <;> rfl

theorem takePendingDisconnected_cases (state : SessionSequenceState) :
    (takePendingDisconnected state = (none, state) ∧ (state.active = true ∨ state.closed = true)) ∨
      (takePendingDisconnected state =
          (state.pendingDisconnected, { state with pendingDisconnected := none }) ∧
        state.active = false ∧ state.closed = false) := by
  unfold takePendingDisconnected
  split
  next hbusy =>
    left
    exact ⟨rfl, by simpa using hbusy⟩
  next hfree =>
    right
    simp only [Bool.or_eq_true, not_or, Bool.not_eq_true] at hfree
    exact ⟨rfl, hfree⟩

/-- Everything the end of a turn can leave behind. -/
inductive TurnEnd (state : SessionSequenceState) :
    Option SessionEvent → SessionSequenceState → Prop
  | disconnected (hdisconnect : state.activeDisconnect = true) :
      TurnEnd state none { state with
        active := false
        awaitingCompletion := false
        nextSequence := state.nextSequence + 1
        closed := true }
  | failed (hopen : state.activeDisconnect = false) (hfailed : state.failed = true) :
      TurnEnd state state.pendingDisconnected { state with
        active := false
        awaitingCompletion := false
        nextSequence := state.nextSequence + 1
        pendingDisconnected := none }
  | nothingParked (hopen : state.activeDisconnect = false)
      (hfailed : state.failed = false)
      (hnext : state.parked.find? (state.nextSequence + 1) = none) :
      TurnEnd state none { state with
        active := false
        awaitingCompletion := false
        nextSequence := state.nextSequence + 1 }
  | unparked (next : SessionEvent) (hopen : state.activeDisconnect = false)
      (hfailed : state.failed = false)
      (hnext : state.parked.find? (state.nextSequence + 1) = some next) :
      TurnEnd state (some next) { state with
        active := false
        awaitingCompletion := false
        nextSequence := state.nextSequence + 1
        parked := state.parked.erase (state.nextSequence + 1) }

theorem turnEnd_endSessionTurn (state : SessionSequenceState) :
    TurnEnd state (endSessionTurn state).1 (endSessionTurn state).2 := by
  unfold endSessionTurn
  simp only
  split
  next hdisconnect => exact .disconnected hdisconnect
  next hopen =>
    have hopen' : state.activeDisconnect = false := by simpa using hopen
    split
    next hfailed => exact .failed hopen' hfailed
    next hfailed =>
      have hfailed' : state.failed = false := by simpa using hfailed
      split
      next hnext => exact .nothingParked hopen' hfailed' hnext
      next next hnext => exact .unparked next hopen' hfailed' hnext

/-- What every end of a turn does to the sequence state. -/
structure TurnEnds (state after : SessionSequenceState) : Prop where
  active : after.active = false
  activeDisconnect : after.activeDisconnect = state.activeDisconnect
  awaitingCompletion : after.awaitingCompletion = false
  failed : after.failed = state.failed
  nextSequence : after.nextSequence = state.nextSequence + 1

theorem turnEnds_endSessionTurn (state : SessionSequenceState) :
    TurnEnds state (endSessionTurn state).2 := by
  have hend := turnEnd_endSessionTurn state
  generalize (endSessionTurn state).1 = next at hend
  generalize (endSessionTurn state).2 = after at hend ⊢
  cases hend <;> exact ⟨rfl, rfl, rfl, rfl, rfl⟩

theorem markSessionDeferred_some {event : SessionEvent}
    {after : SessionSequenceState} {early : Option SessionEvent}
    (hdefer : markSessionDeferred event state = some (early, after)) :
    early = state.earlyCompletion ∧
      after = { state with awaitingCompletion := true, earlyCompletion := none } := by
  unfold markSessionDeferred at hdefer
  split at hdefer
  next => simp at hdefer
  next =>
    simp only [Option.some.injEq, Prod.mk.injEq] at hdefer
    exact ⟨hdefer.1.symm, hdefer.2.symm⟩

theorem SessionSequenceState.isDrained_iff :
    state.isDrained = true ↔ state.active = false ∧ state.parked.entries = [] ∧
      state.earlyCompletion = none ∧ state.pendingDisconnected = none := by
  simp [isDrained, OrderedMap.size, and_assoc]

end SessionServer.WorkerPool
