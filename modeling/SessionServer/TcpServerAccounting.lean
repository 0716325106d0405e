import SessionServer.TcpServerInterest
import SessionServer.WorkerPoolSendable

/-!
# Registrations and counters of every run

The ledger is kept from the start of the event loop to the end of the
destructor.  Where the loop begins a round or waits, the registrations are
those of the sessions; between the steps of the thread every session ever
registered is live or counted once.
-/

namespace SessionServer.TcpServer

open Protocol InteractionProgram BoundedBlockingQueue TransitionSystem Environment List Option

variable {config : ServerConfig}
variable {request : IoCall}

/-- `run`, whose exception the caller catches, and then the destructor. -/
def runAndDestroy (config : ServerConfig) : Io Unit := do
  tryCatch (run config) fun _ => return ()
  closeNetworkResources

abbrev RecordedConfiguration :=
  Configuration IoAnswer ServerException Unit (Server × Ledger) Shared

def recordedInitial (config : ServerConfig) : RecordedConfiguration where
  program := runAndDestroy config
  own := ({}, {})
  shared := .initial config

/-- Some run with its ledger leads here, all of whose moves are of this kind. -/
def Recorded (config : ServerConfig) (allowed : Move Interference Reply → Prop)
    (state : RecordedConfiguration) : Prop :=
  TransitionSystem.Reaches (recorded config).step (fun _ move => allowed move)
    (recordedInitial config) state

theorem kept_initial (config : ServerConfig) : Kept config {} {} := by
  have hlookup (fd : Fd) : ({} : IoState).sessionsByFd.lookup fd = none :=
    Finmap.lookup_empty fd
  refine ⟨⟨?_, ?_, rfl, rfl⟩, rfl, rfl, rfl⟩
  · intro fd session hsome
    cases hsome
  · intro _ _ hsome
    cases hsome

theorem works_runAndDestroy (config : ServerConfig) :
    Works config (fun _ after _ => Sound config after) (runAndDestroy config) {}
      (.initial config) := by
  have hrun : Works config
      (fun _ after now => Sound config after ∧ ∃ watch io, Alert config watch io now)
      (tryCatch (run config) fun _ => pure ()) {} (.initial config) := by
    apply (works_run ⟨steady_initial config, alert_initial config⟩).tryCatch
    · intro _ _ _ hafter
      exact hafter
    · intro _ server shared hafter
      exact safe_pure hafter
  apply hrun.bind
  rintro _ _ _ ⟨hsound, _, _, halert⟩
  apply (works_closeNetworkResources hsound halert).mono
  intro _ _ _ hafter
  exact hafter.1

theorem records_runAndDestroy (config : ServerConfig) :
    Records config (fun _ => Booked) (runAndDestroy config) {} {} := by
  have hrun : Records config (fun _ => Booked) (tryCatch (run config) fun _ => pure ()) {} {} := by
    apply (records_run (kept_initial config)).tryCatch
    intro _ io ledger hbooked
    exact records_pure hbooked
  apply hrun.bind
  intro _ _ _ hbooked
  exact records_closeNetworkResources hbooked

section Recorded

variable {allowed : Move Interference Reply → Prop} {state : RecordedConfiguration}
  (hreach : Recorded config allowed state)
include hreach

theorem Recorded.safe :
    (recorded config).Safe
      (fun request own shared => guard config request own.1 shared ∧
        check config request own shared)
      (fun _ own _ => Booked own.1.io own.2) state.program state.own
      state.shared := by
  have hstart : (recorded config).Safe
      (fun request own shared => guard config request own.1 shared ∧
        check config request own shared)
      (fun _ own _ => Booked own.1.io own.2) (runAndDestroy config) ({}, {})
      (.initial config) := by
    apply (Environment.Safe.recording (works_runAndDestroy config)
      (records_runAndDestroy config {} (.initial config) rfl)).mono
    intro result own shared hpost
    cases result with
    | ok | error => exact hpost.2
  apply Environment.Safe.reaches _ hstart (hreach.mono fun _ _ _ => trivial)
  intro _ _ _ _ hbooked _
  exact hbooked

theorem Recorded.checked {next : IoAnswer request → Io Unit}
    (hprogram : state.program = .call request next) :
    check config request state.own state.shared := by
  have hsafe := hreach.safe
  rw [hprogram] at hsafe
  exact hsafe.guarded.2

end Recorded

/-! ## Registrations -/

/-- The event loop begins a round or is about to wait. -/
def AtLoopBoundary (state : RecordedConfiguration) : Prop :=
  (∃ next, state.program = .call .loopHead next) ∨ ∃ next, state.program = .call .wait next

theorem interest_matches {state : RecordedConfiguration}
    (hreach : Recorded config (fun _ => True) state) (hboundary : AtLoopBoundary state) :
    (∀ fd session, state.own.1.io.sessionsByFd.lookup fd = some session →
      state.own.2.interests fd = some (epollRdhup |||
        (if state.own.1.io.shutdownPhase = .running ∧
            state.own.1.io.readsPaused = false ∧ session.closingAfterFlush = false
          then epollIn else 0) |||
        (if session.hasPendingWrite = true then epollOut else 0))) ∧
    state.own.2.listening =
      if state.own.1.io.shutdownPhase = .running ∧
          state.own.1.io.readsPaused = false
        then some epollIn else none := by
  have hkept : Kept config state.own.1.io state.own.2 := by
    rcases hboundary with ⟨_, hprogram⟩ | ⟨_, hprogram⟩
    · exact hreach.checked hprogram
    · exact hreach.checked hprogram
  constructor
  · intro fd session hlookup
    rw [hkept.tuned.interests fd session hlookup id]
    unfold IoState.interest
    split <;> split <;> simp
  · rw [hkept.tuned.listening, hkept.tuned.listener]
    simp

def RecordedConfiguration.atLoopHead (state : RecordedConfiguration) : Bool :=
  match state.program with
  | .call .loopHead _ => true
  | _ => false

theorem atLoopBoundary_of_eq_true {state : RecordedConfiguration}
    (hhead : state.atLoopHead = true) : AtLoopBoundary state := by
  unfold RecordedConfiguration.atLoopHead at hhead
  split at hhead
  · next next hprogram => exact .inl ⟨next, hprogram⟩
  · cases hhead

/-- Reads are paused, and a session has bytes to send. -/
theorem interest_matches_busyMoves :
    ∃ state, Recorded smallConfig (fun _ => True) state ∧
      AtLoopBoundary state ∧
      state.own.2.interests 5 = some (epollRdhup ||| 0 ||| epollOut) ∧
      state.own.2.listening = none := by
  have hrun : (TransitionSystem.run (recorded smallConfig).step busyMoves
      (recordedInitial smallConfig)).any (fun state : RecordedConfiguration =>
        state.atLoopHead && decide (
          state.own.1.io.readsPaused = true ∧
          (state.own.1.io.sessionsByFd.lookup 5).any Session.hasPendingWrite = true)) = true := by
    decide +kernel
  obtain ⟨state, hstate, hchecked⟩ := (any_eq_true _ _).mp hrun
  rw [Bool.and_eq_true, decide_eq_true_iff] at hchecked
  obtain ⟨hhead, hpaused, hlive⟩ := hchecked
  obtain ⟨session, hlookup, hpending⟩ := (any_eq_true _ _).mp hlive
  have hreach : Recorded smallConfig (fun _ => True) state :=
    .of_run hstate (guarded_of_forall fun _ _ _ => trivial)
  have hboundary := atLoopBoundary_of_eq_true hhead
  obtain ⟨hinterests, hlistening⟩ := interest_matches hreach hboundary
  have hinterest := hinterests 5 session hlookup
  rw [if_pos hpending, if_neg (by simp [hpaused])] at hinterest
  rw [if_neg (by simp [hpaused])] at hlistening
  exact ⟨state, hreach, hboundary, hinterest, hlistening⟩

/-! ## Counters -/

/-- The calls by which a session is removed, and the accesses to the tables. -/
def IoCall.internal : IoCall → Bool
  | .get | .modify _ | .recordDisconnect _ _ | .epollRemove _ | .close _ => true
  | _ => false

/-- The thread is not in the middle of a removal. -/
def BetweenSteps (state : RecordedConfiguration) : Prop :=
  ∀ request next, state.program = .call request next → request.internal = false

theorem Recorded.booked {allowed : Move Interference Reply → Prop}
    {state : RecordedConfiguration} (hreach : Recorded config allowed state)
    (hbetween : BetweenSteps state) :
    Booked state.own.1.io state.own.2 := by
  cases hprogram : state.program with
  | call request next =>
    have hplain := hbetween request next hprogram
    have hchecked := hreach.checked hprogram
    cases request with
    | loopHead | wait => exact hchecked.booked
    | get | modify | recordDisconnect | epollRemove | close => cases hplain
    | _ => exact hchecked
  | done =>
    have hsafe := hreach.safe
    rw [hprogram] at hsafe
    cases hsafe with
    | done hpost => exact hpost
  | fail =>
    have hsafe := hreach.safe
    rw [hprogram] at hsafe
    cases hsafe with
    | fail hpost => exact hpost

/-- What a worker pool has put into its outbox. -/
def FromPool (message : OutputMessage) : Prop :=
  ∃ config produced, WorkerPool.Produces config produced ∧
    message = { sessionId := produced.sessionId.toNat
                bytes := produced.bytes
                kind := produced.kind }

/-- The workers publish what a worker pool produces. -/
def PublishesFromPool (move : Move Interference Reply) : Prop :=
  ∀ message, move = .interfere (.workerPublish message) → FromPool message

structure Supplied (state : RecordedConfiguration) : Prop where
  outbox : ∀ message ∈ state.shared.outbox.items, FromPool message
  taken : ∀ message, state.own.2.taken = some message → FromPool message

/-- Only a publish puts something into the outbox. -/
theorem interfere_outbox {shared after : Shared} {interference : Interference}
    (hstep : interfere config shared interference = some after) {message : OutputMessage}
    (hmessage : message ∈ after.outbox.items) :
    message ∈ shared.outbox.items ∨ interference = .workerPublish message := by
  cases interference with
  | workerPublish =>
    simp only [interfere, push] at hstep
    split at hstep
    · cases hstep
    rw [map_eq_some_iff] at hstep
    obtain ⟨⟨_, _⟩, hpush, rfl⟩ := hstep
    split at hpush
    · cases hpush
      exact .inl hmessage
    split at hpush
    · cases hpush
    · cases hpush
      rcases mem_append.mp hmessage with hold | hnew
      · exact .inl hold
      · rw [mem_singleton.mp hnew]
        exact .inr rfl
  | workerPop | closeInbox =>
    simp only [interfere] at hstep
    split at hstep
    · cases hstep
      exact .inl hmessage
    · cases hstep
  | completionPush =>
    simp only [interfere] at hstep
    split at hstep
    · obtain ⟨_, _, rfl⟩ := map_eq_some_iff.mp hstep
      exact .inl hmessage
    · cases hstep
  | workerNotify =>
    simp only [interfere] at hstep
    split at hstep
    · cases hstep
    · cases hstep
      exact .inl hmessage
  | workerExit =>
    simp only [interfere] at hstep
    split at hstep
    · cases hstep
    split at hstep
    · cases hstep
      exact .inl hmessage
    · cases hstep
  | requestStop =>
    cases hstep
    exact .inl hmessage

theorem Ledger.note_taken (ledger : Ledger) (hpop : request ≠ .outboxTryPop)
    (answer : IoAnswer request) : (ledger.note request answer).taken = ledger.taken := by
  cases request with
  | epollAdd | epollModify | epollAddListener => cases answer <;> rfl
  | outboxTryPop => exact absurd rfl hpop
  | _ => rfl

/-- A call leaves the outbox and the message taken, or takes one. -/
theorem respond_outbox {server after : Server} {shared later : Shared}
    {reply : Reply} {answer : IoAnswer request} {ledger : Ledger}
    (hrespond : respond request server shared reply = some (answer, after, later)) :
    (later.outbox.items = shared.outbox.items ∧ (ledger.note request answer).taken = ledger.taken) ∨
      (later.outbox.items = shared.outbox.items.tail ∧
        (ledger.note request answer).taken = shared.outbox.items.head?) := by
  by_cases hpop : request = .outboxTryPop
  · subst hpop
    cases Reply.unit?_map hrespond
    right
    unfold tryPop
    cases hitems : shared.outbox.items with
    | nil => exact ⟨hitems, rfl⟩
    | cons => exact ⟨rfl, rfl⟩
  · left
    refine ⟨?_, ledger.note_taken hpop answer⟩
    by_cases hinert : request.inert = true
    · rw [(respond_inert hinert hrespond).2]
    cases request with
    | accept | recv | send | drainInputCapacity =>
      simp only [respond, map_eq_some_iff, Prod.mk.injEq] at hrespond
      obtain ⟨_, _, _, _, rfl⟩ := hrespond
      rfl
    | loopHead | get | modify | register | storeCurrentSessions | enterPhase
    | recordDisconnect | close | feed | inboxTryPush | notifyInputCapacity | closeOutbox
    | beginStop | forceStop | raise =>
      cases Reply.unit?_map hrespond
      rfl
    | undefinedBehaviour => cases hrespond
    | outboxTryPop => exact absurd rfl hpop
    | _ => exact absurd rfl hinert

theorem Recorded.supplied {state : RecordedConfiguration}
    (hreach : Recorded config PublishesFromPool state) : Supplied state := by
  apply hreach.invariant
  · constructor
    · exact nofun
    · exact nofun
  rintro _ move next hbefore hallowed hstep
  cases move with
  | interfere =>
    obtain ⟨shared, hshared, rfl⟩ := step_interfere hstep
    refine ⟨?_, hbefore.taken⟩
    intro message hmessage
    rcases interfere_outbox hshared hmessage with hold | rfl
    · exact hbefore.outbox message hold
    · exact hallowed message rfl
  | reply =>
    obtain ⟨_, _, _, ⟨_, _⟩, _, _, hrespond, rfl⟩ :=
      step_reply hstep
    obtain ⟨hrespond, rfl⟩ := recording_respond.mp hrespond
    rcases respond_outbox hrespond with ⟨hitems, htaken⟩ | ⟨hitems, htaken⟩
    · constructor
      · intro message hmessage
        exact hbefore.outbox message (hitems ▸ hmessage)
      · intro message hmessage
        exact hbefore.taken message (htaken ▸ hmessage)
    · constructor
      · intro message hmessage
        exact hbefore.outbox message (mem_of_mem_tail (hitems ▸ hmessage))
      · intro message hmessage
        exact hbefore.outbox message (mem_of_mem_head? (htaken ▸ hmessage))

theorem FromPool.bytes_ne_nil {message : OutputMessage} (hmessage : FromPool message)
    (hkind : message.kind ≠ .disconnectSession) : message.bytes ≠ [] := by
  obtain ⟨_, _, hproduces, rfl⟩ := hmessage
  exact hproduces.sendable.resolve_left hkind

theorem connections_accounted (config : ServerConfig) :
    (∀ state, Recorded config (fun _ => True) state →
      BetweenSteps state →
      state.own.1.io.nextSessionId - 1 = state.own.1.io.sessionCount + state.own.2.removed ∧
        state.own.2.slowClientDisconnects = state.own.2.disconnects .pendingWriteLimit) ∧
    ∀ state, Recorded config PublishesFromPool state →
      ∀ fd next, state.program = .call (.recordDisconnect fd .pendingWriteLimit) next →
        ∃ session message, state.own.1.io.sessionsByFd.lookup fd = some session ∧
          state.own.2.taken = some message ∧ message.sessionId = session.id ∧
          message.bytes ≠ [] ∧
          config.maxPendingWriteBytes < session.pendingWriteBytes + message.bytes.length := by
  constructor
  · intro state hreach hbetween
    have hbooked := hreach.booked hbetween
    refine ⟨?_, hbooked.slow⟩
    rw [hbooked.balance]
    omega
  · intro _ hreach _ _ hprogram
    obtain ⟨session, message, hlookup, htaken, hid, hkind, hreason⟩ :=
      hreach.checked hprogram rfl
    have hbytes := (hreach.supplied.taken message htaken).bytes_ne_nil hkind
    exact ⟨session, message, hlookup, htaken, hid, hbytes, hreason.resolve_left hbytes⟩

/-- A message of which a session can hold one, not two. -/
def longMessage : OutputMessage :=
  { sessionId := 1, bytes := replicate 40 0 }

/-- The handler of a packet emits the message, and it is published. -/
def longMessageRun : List (WorkerPool.Action 1) :=
  [.push (WorkerPool.packetEvent 1 0)] ++ WorkerPool.works WorkerPool.sole 6 ++
    [.emit WorkerPool.sole { sessionId := 1, bytes := replicate 40 0 },
      .handlerReturn WorkerPool.sole] ++ WorkerPool.works WorkerPool.sole 2

theorem fromPool_longMessage : FromPool longMessage := by
  have hrun : (TransitionSystem.run (WorkerPool.Pool.step WorkerPool.smallConfig) longMessageRun
      (WorkerPool.smallPool 1)).any (fun pool => decide (pool.outbox.items =
        [{ sessionId := 1, bytes := replicate 40 0 }])) = true := by
    decide +kernel
  obtain ⟨pool, hpool, hitems⟩ := (any_eq_true _ _).mp hrun
  have hreach := TransitionSystem.Reaches.of_run hpool (guarded_of_forall fun _ _ _ => trivial)
  refine ⟨WorkerPool.smallConfig, { sessionId := 1, bytes := replicate 40 0 },
    ⟨1, _, _, pool, rfl, rfl, rfl, hreach, ?_⟩, rfl⟩
  rw [of_decide_eq_true hitems]
  exact mem_singleton_self _

/-- Two messages are published for the session; the second one does not fit. -/
def overflowingMoves : List (Move Interference Reply) :=
  receivingMoves ++ units 5 ++ waitReply [] ::
    .replicate 2 (.interfere (.workerPublish longMessage)) ++ units 5 ++ boolReply true :: units 4

def published? : Move Interference Reply → Option OutputMessage
  | .interfere (.workerPublish message) => some message
  | _ => none

def RecordedConfiguration.overflowing (state : RecordedConfiguration) : Bool :=
  match state.program with
  | .call (.recordDisconnect 5 .pendingWriteLimit) _ => true
  | _ => false

theorem connections_accounted_overflowingMoves :
    ∃ state, Recorded smallConfig PublishesFromPool state ∧
      (∃ next, state.program = .call (.recordDisconnect 5 .pendingWriteLimit) next) ∧
      ∃ session message, state.own.1.io.sessionsByFd.lookup 5 = some session ∧
        state.own.2.taken = some message ∧
        64 < session.pendingWriteBytes + message.bytes.length := by
  have hrun : (TransitionSystem.run (recorded smallConfig).step overflowingMoves
      (recordedInitial smallConfig)).any RecordedConfiguration.overflowing = true := by
    decide +kernel
  have hpublished : overflowingMoves.filterMap published? = [longMessage, longMessage] := rfl
  obtain ⟨state, hstate, hchecked⟩ := (any_eq_true _ _).mp hrun
  have hreach : Recorded smallConfig PublishesFromPool state := by
    apply TransitionSystem.Reaches.of_run hstate
    apply guarded_of_forall
    rintro _ _ hmove message rfl
    have hmember : message ∈ overflowingMoves.filterMap published? :=
      mem_filterMap.mpr ⟨_, hmove, rfl⟩
    have hlong : message = longMessage := by
      rw [hpublished] at hmember
      simpa using hmember
    rw [hlong]
    exact fromPool_longMessage
  have hnext : ∃ next, state.program = .call (.recordDisconnect 5 .pendingWriteLimit) next := by
    unfold RecordedConfiguration.overflowing at hchecked
    split at hchecked
    · next next hprogram => exact ⟨next, hprogram⟩
    · cases hchecked
  obtain ⟨next, hprogram⟩ := hnext
  obtain ⟨session, message, hlookup, htaken, _, _, hlarge⟩ :=
    (connections_accounted smallConfig).2 state hreach 5 next hprogram
  exact ⟨state, hreach, ⟨next, hprogram⟩, session, message, hlookup, htaken, hlarge⟩

end SessionServer.TcpServer
