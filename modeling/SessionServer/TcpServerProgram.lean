import SessionServer.InteractionSafety
import SessionServer.TcpServerState

/-!
# The program of the network thread

`TcpServer::run` from its event loop on, call by call: system calls, the
queues, the wakeup descriptors, the flags that other threads set.  A call that
can throw answers whether it succeeded.  The tables that are updated between
two calls are updated in one step.  The calls `loopHead` and `feed` do nothing:
they mark where the source is.
-/

namespace SessionServer.TcpServer

open Protocol InteractionProgram IoState

structure EpollEvent where
  token : ℕ
  error : Bool := false
  /-- `EPOLLHUP` or `EPOLLRDHUP`. -/
  peerClose : Bool := false
  readable : Bool := false
  writable : Bool := false
  deriving DecidableEq, Repr

inductive AcceptResult
  | accepted (fd : Fd)
  | wouldBlock
  | failed

inductive RecvResult
  | data (bytes : Bytes)
  | closed
  | wouldBlock
  | failed

/-- The events that a registration asks for, bit by bit. -/
abbrev EventMask := UInt32

def epollIn : EventMask := 0x001
def epollOut : EventMask := 0x004
def epollRdhup : EventMask := 0x2000

/-- The events that `updateInterest` computes for a session. -/
def IoState.interest (io : IoState) (session : Session) : EventMask :=
  let events := epollRdhup
  let events :=
    if io.shutdownPhase = .running ∧ io.readsPaused = false ∧
        session.closingAfterFlush = false then
      events ||| epollIn
    else events
  if session.hasPendingWrite then events ||| epollOut else events

inductive SendResult
  | sent (byteCount : ℕ)
  | zero
  | wouldBlock
  | failed

inductive IoCall
  | loopHead
  | get
  | modify (update : IoState → IoState)
  | register (config : ServerConfig) (fd : Fd)
  | storeCurrentSessions
  | enterPhase (phase : ShutdownPhase)
  | stopRequested
  | deadlineReached
  | wait
  | accept
  | configureSocket (fd : Fd)
  | recordDisconnect (fd : Fd) (reason : DisconnectReason)
  | recordSlowClientDisconnect
  | close (fd : Fd)
  | recv (fd : Fd)
  | feed (fd : Fd)
  | send (fd : Fd) (data : Bytes)
  | epollAdd (fd : Fd) (events : EventMask) (token : ℕ)
  | epollAddListener (events : EventMask) (token : ℕ)
  | epollRemoveListener
  | epollModify (fd : Fd) (events : EventMask) (token : ℕ)
  | epollRemove (fd : Fd)
  | sessionOrder
  | expiredSessions
  | inboxTryPush (event : InputEvent)
  | inboxSize
  | notifyInputCapacity
  | drainInputCapacity
  | outboxTryPop
  | outboxSize
  | notifyOutbound
  | drainOutboundWakeup
  | closeOutbox
  | beginStop
  | forceStop
  | workersFinished
  | joinWorkers
  | raise (exception : ServerException)
  | rounds
  | halt
  | undefinedBehaviour

abbrev IoAnswer : IoCall → Type
  | .get => IoState
  | .stopRequested | .deadlineReached | .configureSocket _ | .epollAdd _ _ _
  | .epollAddListener _ _ | .epollModify _ _ _ | .drainInputCapacity | .drainOutboundWakeup
  | .workersFinished => Bool
  | .wait => Option (List EpollEvent)
  | .accept => AcceptResult
  | .recv _ => RecvResult
  | .send _ _ => SendResult
  | .sessionOrder | .expiredSessions => List Fd
  | .inboxTryPush _ => BoundedBlockingQueue.OperationResult
  | .inboxSize | .outboxSize | .rounds => ℕ
  | .outboxTryPop => Option OutputMessage
  | .halt | .undefinedBehaviour => Empty
  | _ => Unit

abbrev Io := InteractionProgram IoAnswer ServerException

def invoke (request : IoCall) : Io (IoAnswer request) := perform request

def get : Io IoState := invoke .get

def modify (update : IoState → IoState) : Io Unit := invoke (.modify update)

def raise {α : Type} (exception : ServerException) : Io α :=
  invoke (.raise exception) >>= fun _ => throw exception

/-- The code has no defined behaviour from here on. -/
def undefinedBehaviour {α : Type} : Io α :=
  invoke .undefinedBehaviour >>= Empty.elim

/-- A `while` loop.  The rounds it takes are answered in advance: an answer
that is too small has no continuation. -/
def loop {σ α : Type} (body : σ → Io (σ ⊕ α)) (state : σ) : Io α :=
  invoke .rounds >>= fun rounds =>
    iterate (invoke .halt >>= Empty.elim) body rounds state

/-- An `if` without `else`. -/
def onlyIf (condition : Prop) [Decidable condition] (program : Io Unit) : Io Unit :=
  if condition then program else pure ()

/-- `std::size_t* remaining_work`; `none` is the null pointer. -/
abbrev WorkBudget := Option ℕ

def WorkBudget.spend (budget : WorkBudget) : WorkBudget :=
  budget.map (· - 1)

def acceptBatchLimit : ℕ := 64
def outboundDrainMessageLimit : ℕ := 256
def deferredInputWorkLimit : ℕ := 256
def sessionFlushByteLimit : ℕ := 256 * 1024
def listenerToken : ℕ := 1
def outboundWakeupToken : ℕ := 2
def inputCapacityWakeupToken : ℕ := 3

variable (config : ServerConfig)

/-! ## Pausing -/

def updateInterest (fd : Fd) : Io Unit := do
  let io ← get
  match io.sessionsByFd.lookup fd with
  | none => return ()
  | some session =>
    match io.registrationTokenByFd.lookup fd with
    | none => return ()
    | some token =>
      let modified : Bool ← invoke (.epollModify fd (io.interest session) token)
      if modified then return () else raise (.runtimeError "epoll_ctl modify failed")

def updateInterests : Io Unit := do
  let fds : List Fd ← invoke .sessionOrder
  forEach updateInterest fds

/-- The listener is taken out of the event loop if it is in. -/
def removeListener : Io Unit := do
  let io ← get
  onlyIf (io.listenerRegistered = true) do
    invoke .epollRemoveListener
    modify dropListener

def pauseReads : Io Unit := do
  let io ← get
  if io.readsPaused then return ()
  else
    modify pause
    removeListener
    updateInterests

def onInboundSize (size : ℕ) : Io ReadTransition := do
  let io ← get
  modify (setBackpressure (io.readBackpressure.onInboundSize config size).2)
  return (io.readBackpressure.onInboundSize config size).1

/-- A push failed: the inbox counts as full. -/
def onInboundFull : Io Unit := do
  let _ ← onInboundSize config config.inboundQueueCapacity
  pauseReads

/-- A push succeeded. -/
def onInboundPushed (size : ℕ) : Io Unit := do
  let transition ← onInboundSize config size
  if transition = .pause then pauseReads else return ()

/-! ## Disconnecting -/

/-- The session with the event committed, if it could be pushed. -/
def enqueueDisconnected (session : Session) : Io (Option Session) := do
  let pushResult : BoundedBlockingQueue.OperationResult ← invoke (.inboxTryPush
    { kind := .disconnected, sessionId := session.id, sequence := session.nextEventSequence })
  if !pushResult.succeeded then
    onInboundFull config
    return none
  else
    onInboundPushed config pushResult.size
    return some session.commitEventSequence

def deferDisconnected (session : Session) : Io Unit := do
  let io ← get
  if session.id ∈ io.deferredDisconnectIds then return ()
  else if io.deferredDisconnects.length ≥ config.maxSessions then
    raise (.logicError "deferred disconnect limit exceeded")
  else modify (deferDisconnect session)

/-- The end of `disconnect` while the server runs. -/
def announceDisconnected (session : Session) : Io Unit := do
  if session.hasCompletedPacket then deferDisconnected config session
  else
    let enqueued ← enqueueDisconnected config session
    if enqueued.isNone then deferDisconnected config session else return ()

def disconnect (fd : Fd) (reason : DisconnectReason) : Io Unit := do
  let io ← get
  match io.sessionsByFd.lookup fd with
  | none => return ()
  | some session =>
    invoke (.recordDisconnect fd reason)
    modify (detach fd session)
    invoke (.epollRemove fd)
    invoke (.close fd)
    modify eraseMoved
    if io.shutdownPhase = .drainingInput then deferDisconnected config session
    else if io.shutdownPhase ≠ .running then return ()
    else announceDisconnected config session

/-! ## Reading -/

inductive Decoded
  | all
  | stopped
  | malformed (error : ProtocolError)

/-- One round of the loop of `enqueueDecodedPackets`.  Every caller catches the
`ProtocolError` of `peekPacket` at once, so it is a result here. -/
def enqueueDecodedPacket (place : SessionPlace) (remainingWork : WorkBudget) :
    Io (WorkBudget ⊕ (Decoded × WorkBudget)) := do
  let io ← get
  match io.session? place with
  | none => undefinedBehaviour
  | some session =>
    match session.codec.peekPacket with
    | .error error => return .inr (.malformed error, remainingWork)
    | .ok none => return .inr (.all, remainingWork)
    | .ok (some packet) =>
      if remainingWork = some 0 then return .inr (.stopped, remainingWork)
      else
        let pushResult : BoundedBlockingQueue.OperationResult ← invoke (.inboxTryPush
          { kind := .packet
            sessionId := session.id
            packet
            sequence := session.nextEventSequence })
        if !pushResult.succeeded then
          onInboundFull config
          return .inr (.stopped, remainingWork)
        else
          match session.codec.consumePacket with
          | .error _ => raise (.logicError "no completed packet to consume")
          | .ok codec =>
            modify (setSession place { session with codec }.commitEventSequence)
            onInboundPushed config pushResult.size
            if pushResult.size ≥ config.inboundHighWatermark then
              return .inr (.stopped, remainingWork.spend)
            else return .inl remainingWork.spend

def enqueueDecodedPackets (place : SessionPlace) (remainingWork : WorkBudget) :
    Io (Decoded × WorkBudget) :=
  loop (enqueueDecodedPacket config place) remainingWork

def deferRead (fd : Fd) : Io Unit :=
  modify (IoState.deferRead fd)

/-- One round of the loop of `readSession`. -/
def receive (fd : Fd) (drainAfterPeerClose : Bool) (remainingWork : WorkBudget) :
    Io (WorkBudget ⊕ WorkBudget) := do
  let stopRequested : Bool ← invoke .stopRequested
  if stopRequested && !drainAfterPeerClose then return .inr remainingWork
  else
    let received : RecvResult ← invoke (.recv fd)
    match received with
    | .closed =>
      disconnect config fd .peerClosed
      return .inr remainingWork
    | .failed =>
      disconnect config fd .socketError
      return .inr remainingWork
    | .wouldBlock => return .inr remainingWork
    | .data bytes =>
      let io ← get
      match io.sessionsByFd.lookup fd with
      | none => undefinedBehaviour
      | some session =>
        invoke (.feed fd)
        match session.codec.feed (.bytes bytes) with
        | .error _ =>
          disconnect config fd .protocolError
          return .inr remainingWork
        | .ok codec =>
          modify (setSession (.live fd) { session with codec })
          let (decoded, remainingWork) ←
            enqueueDecodedPackets config (.live fd) remainingWork
          match decoded with
          | .all => return .inl remainingWork
          | .stopped =>
            deferRead fd
            return .inr remainingWork
          | .malformed _ =>
            disconnect config fd .protocolError
            return .inr remainingWork

def readSession (fd : Fd) (drainAfterPeerClose : Bool) (remainingWork : WorkBudget) :
    Io WorkBudget := do
  let io ← get
  if io.readsPaused && !drainAfterPeerClose then return remainingWork
  else
    match io.sessionsByFd.lookup fd with
    | none => return remainingWork
    | some session =>
      if session.closingAfterFlush then return remainingWork
      else loop (receive config fd drainAfterPeerClose) remainingWork

/-! ## Resuming -/

def readPeerClosed : List Fd → Io Unit
  | [] => return ()
  | fd :: rest => do
      let io ← get
      if io.readsPaused then return ()
      else
        let _ ← readSession config fd false none
        readPeerClosed rest

def resumeListener : Io Unit := do
  let added : Bool ← invoke (.epollAddListener epollIn listenerToken)
  if added then modify addListener
  else raise (.runtimeError "epoll_ctl add failed")

def resumeReads : Io Unit := do
  let io ← get
  if io.readsPaused = false ∨ io.shutdownPhase ≠ .running then return ()
  else
    modify unpause
    onlyIf (io.listenerRegistered = false) resumeListener
    let fds : List Fd ← invoke .sessionOrder
    forEach updateInterest fds
    let io ← get
    readPeerClosed config
      (fds.filter fun fd => (io.sessionsByFd.lookup fd).any Session.peerReadClosed)

/-- `return yieldForWorkBudget()` -/
def yieldForWorkBudget (remainingWork : WorkBudget) : Io Unit := do
  let io ← get
  if remainingWork = some 0 ∧ io.shutdownPhase ≠ .forced ∧ io.shutdownPhase ≠ .complete then
    invoke .notifyInputCapacity
  else return ()

/-- The front of the deferred sessions has no complete frame left. -/
def announceDeferred (remainingWork : WorkBudget) : Io (WorkBudget ⊕ Option WorkBudget) := do
  if remainingWork = some 0 then
    yieldForWorkBudget remainingWork
    return .inr none
  else
    let io ← get
    match io.session? .deferred with
    | none => undefinedBehaviour
    | some session =>
      let enqueued ← enqueueDisconnected config session
      if enqueued.isNone then return .inr none
      else
        modify (popDeferredDisconnect session.id)
        let size : ℕ ← invoke .inboxSize
        if size ≥ config.inboundHighWatermark then return .inr none
        else return .inl remainingWork.spend

/-- One round of the first loop of `drainDeferredInput`; it leaves with `none`
where the source returns false. -/
def drainDeferredDisconnect (remainingWork : WorkBudget) :
    Io (WorkBudget ⊕ Option WorkBudget) := do
  let io ← get
  if io.deferredDisconnects.isEmpty then return .inr (some remainingWork)
  else if remainingWork = some 0 then
    yieldForWorkBudget remainingWork
    return .inr none
  else
    let (decoded, remainingWork) ← enqueueDecodedPackets config .deferred remainingWork
    match decoded with
    | .stopped =>
      yieldForWorkBudget remainingWork
      return .inr none
    | .all | .malformed _ => announceDeferred config remainingWork

/-- One round of the second loop of `drainDeferredInput`. -/
def drainDeferredRead (remainingWork : WorkBudget) :
    Io (WorkBudget ⊕ Option WorkBudget) := do
  let io ← get
  match io.deferredReadFds with
  | [] => return .inr (some remainingWork)
  | fd :: _ =>
    if remainingWork = some 0 then
      yieldForWorkBudget remainingWork
      return .inr none
    else if fd ∉ io.deferredReadFdSet ∨ (io.sessionsByFd.lookup fd).isNone then
      modify popDeferredRead
      return .inl remainingWork
    else
      let (decoded, remainingWork) ← enqueueDecodedPackets config (.live fd) remainingWork
      match decoded with
      | .stopped =>
        yieldForWorkBudget remainingWork
        return .inr none
      | .malformed _ =>
        modify (takeDeferredRead fd)
        disconnect config fd .protocolError
        let size : ℕ ← invoke .inboxSize
        if size ≥ config.inboundHighWatermark then return .inr none
        else return .inl remainingWork
      | .all =>
        modify (takeDeferredRead fd)
        let io ← get
        if (io.sessionsByFd.lookup fd).any Session.peerReadClosed then
          let remainingWork ← readSession config fd true remainingWork
          return .inl remainingWork
        else return .inl remainingWork

/-- The end of `drainDeferredInput`: nothing is deferred any more. -/
def resumeIfDrained : Io Unit := do
  let size : ℕ ← invoke .inboxSize
  let io ← get
  if io.shutdownPhase = .running then
    modify (setBackpressure (io.readBackpressure.onCapacityAvailable config size).2)
    if (io.readBackpressure.onCapacityAvailable config size).1 = .resume then
      resumeReads config
    else return ()
  else return ()

def drainDeferredInput : Io Bool := do
  let afterDisconnects ←
    loop (drainDeferredDisconnect config) (some deferredInputWorkLimit)
  match afterDisconnects with
  | none => return false
  | some remainingWork =>
    let afterReads ← loop (drainDeferredRead config) remainingWork
    match afterReads with
    | none => return false
    | some _ =>
      let io ← get
      if !io.deferredDisconnects.isEmpty then return false
      else
        resumeIfDrained config
        return true

/-! ## Writing -/

/-- One round of the loop of `flushSession`; it leaves with false where the
source returns. -/
def flushWrite (fd : Fd) (sentBytes : ℕ) : Io (ℕ ⊕ Bool) := do
  let io ← get
  match io.sessionsByFd.lookup fd with
  | none => undefinedBehaviour
  | some session =>
    match session.pendingWrites with
    | [] => return .inr true
    | write :: _ =>
      if sentBytes ≥ sessionFlushByteLimit then return .inr true
      else
        let sendSize :=
          min (write.bytes.length - write.offset) (sessionFlushByteLimit - sentBytes)
        let sent : SendResult ← invoke
          (.send fd ((write.bytes.drop write.offset).take sendSize))
        match sent with
        | .zero | .failed =>
          disconnect config fd .socketError
          return .inr false
        | .wouldBlock =>
          updateInterest fd
          return .inr false
        | .sent byteCount =>
          match session.consumeWrite byteCount with
          | .error exception => raise exception
          | .ok session =>
            modify (setSession (.live fd) session)
            return .inl (sentBytes + byteCount)

def flushSession (fd : Fd) : Io Unit := do
  let io ← get
  if (io.sessionsByFd.lookup fd).isNone then return ()
  else
    let flushed ← loop (flushWrite config fd) 0
    if !flushed then return ()
    else
      let io ← get
      match io.sessionsByFd.lookup fd with
      | none => undefinedBehaviour
      | some session =>
        if session.closingAfterFlush && !session.hasPendingWrite then
          disconnect config fd .closeAfterFlush
        else updateInterest fd

def flushAllSessions : Io Unit := do
  let fds : List Fd ← invoke .sessionOrder
  forEach (flushSession config) fds

/-- What `drainOutbound` does with one message. -/
def deliver (message : OutputMessage) : Io Unit := do
  let io ← get
  match io.fdBySession.lookup message.sessionId with
  | none => return ()
  | some fd =>
    if message.kind = .disconnectSession then disconnect config fd .workerRequested
    else
      match io.sessionsByFd.lookup fd with
      | none => return ()
      | some session =>
        if session.closingAfterFlush then return ()
        else
          match session.tryEnqueue message.bytes with
          | none =>
            invoke .recordSlowClientDisconnect
            disconnect config session.fd .pendingWriteLimit
          | some session =>
            modify (setSession (.live fd)
              (if message.kind = .sendBytesAndDisconnect then session.closeAfterFlush
                else session))
            updateInterest session.fd

def drainMessages : ℕ → Io Unit
  | 0 => return ()
  | remaining + 1 => do
      let popped : Option OutputMessage ← invoke .outboxTryPop
      match popped with
      | none => return ()
      | some message =>
        deliver config message
        drainMessages remaining

def drainOutbound : Io Unit := do
  drainMessages config outboundDrainMessageLimit
  let size : ℕ ← invoke .outboxSize
  if size ≠ 0 then invoke .notifyOutbound else return ()

/-! ## Accepting and expiring -/

def acceptConnection (fd : Fd) : Io Unit := do
  let io ← get
  if io.sessionCount ≥ config.maxSessions then invoke (.close fd)
  else
    let configured : Bool ← invoke (.configureSocket fd)
    if !configured then invoke (.close fd)
    else
      invoke (.register config fd)
      let added : Bool ← invoke
        (.epollAdd fd (epollIn ||| epollRdhup) io.nextRegistrationToken)
      if added then invoke .storeCurrentSessions
      else raise (.runtimeError "epoll_ctl add failed")

/-- The loop of `acceptLoop` with what is left of the batch. -/
def acceptBatch : ℕ → Io Unit
  | 0 => return ()
  | remaining + 1 => do
      let stopRequested : Bool ← invoke .stopRequested
      if stopRequested then return ()
      else
        let accepted : AcceptResult ← invoke .accept
        match accepted with
        | .wouldBlock => return ()
        | .failed => raise (.runtimeError "accept4 failed")
        | .accepted fd =>
          let stopRequested : Bool ← invoke .stopRequested
          if stopRequested then invoke (.close fd)
          else
            acceptConnection config fd
            acceptBatch remaining

def acceptLoop : Io Unit := do
  let io ← get
  if !io.listenerRegistered || io.readsPaused then return ()
  else acceptBatch config acceptBatchLimit

def expireIdleSessions : Io Unit := do
  let expired : List Fd ← invoke .expiredSessions
  forEach (fun fd => disconnect config fd .idleTimeout) expired

/-! ## Shutting down -/

def beginShutdown : Io Unit := do
  let io ← get
  if io.shutdownPhase ≠ .running then return ()
  else
    invoke (.enterPhase .drainingInput)
    modify pause
    removeListener
    updateInterests

def forceShutdown : Io Unit := do
  let io ← get
  if io.shutdownPhase = .forced ∨ io.shutdownPhase = .complete then return ()
  else
    invoke .forceStop
    invoke (.enterPhase .forced)

def allSessionWritesDrained (fds : List Fd) (io : IoState) : Bool :=
  fds.all fun fd => !(io.sessionsByFd.lookup fd).any Session.hasPendingWrite

/-- The end of `advanceShutdown`. -/
def completeShutdown : Io Unit := do
  drainOutbound config
  let io ← get
  if io.shutdownPhase ≠ .drainingOutput then return ()
  else
    let finished : Bool ← invoke .workersFinished
    if !finished then return ()
    else
      drainOutbound config
      let size : ℕ ← invoke .outboxSize
      let fds : List Fd ← invoke .sessionOrder
      let io ← get
      if size = 0 ∧ allSessionWritesDrained fds io then
        invoke .closeOutbox
        invoke (.enterPhase .complete)
      else return ()

/-- `advanceShutdown` where input is drained. -/
def advanceInput : Io Unit := do
  let io ← get
  if io.shutdownPhase ≠ .drainingInput then return ()
  else
    let drained ← drainDeferredInput config
    if drained then
      invoke .beginStop
      invoke (.enterPhase .drainingOutput)
    else return ()

/-- `advanceShutdown` from its first `drainOutbound` on. -/
def advanceDraining : Io Unit := do
  drainOutbound config
  let late : Bool ← invoke .deadlineReached
  if late then forceShutdown
  else
    advanceInput config
    let late : Bool ← invoke .deadlineReached
    if late then forceShutdown else completeShutdown config

def advanceShutdown : Io Unit := do
  let io ← get
  if io.shutdownPhase = .running ∨ io.shutdownPhase = .complete then return ()
  else
    let late : Bool ← invoke .deadlineReached
    onlyIf late forceShutdown
    let io ← get
    if io.shutdownPhase = .forced then
      let finished : Bool ← invoke .workersFinished
      if finished then invoke (.enterPhase .complete) else return ()
    else advanceDraining config

def closeConnection (fd : Fd) : Io Unit := do
  invoke (.recordDisconnect fd .shutdown)
  invoke (.epollRemove fd)
  invoke (.close fd)

def closeNetworkResources : Io Unit := do
  removeListener
  let fds : List Fd ← invoke .sessionOrder
  forEach closeConnection fds
  modify clear

/-! ## The event loop -/

/-- The event asks to read. -/
def readOrDefer (fd : Fd) (event : EpollEvent) : Io Unit := do
  let io ← get
  if io.shutdownPhase = .running ∧ io.readsPaused = false ∧
      (event.readable ∨ event.peerClose) then
    let _ ← readSession config fd false none
  else if event.peerClose ∧
      (io.shutdownPhase = .running ∨ io.shutdownPhase = .drainingInput) then
    deferRead fd
  else return ()

/-- An event whose token is registered for the descriptor. -/
def handleSessionEvent (fd : Fd) (event : EpollEvent) : Io Unit := do
  if event.error then disconnect config fd .socketError
  else
    let io ← get
    match io.sessionsByFd.lookup fd with
    | none => return ()
    | some session =>
      onlyIf event.peerClose (modify (setSession (.live fd) session.markPeerReadClosed))
      readOrDefer config fd event
      let io ← get
      if (io.sessionsByFd.lookup fd).isSome && event.writable then flushSession config fd
      else return ()

def handleOutboundWakeup : Io Unit := do
  let drained : Bool ← invoke .drainOutboundWakeup
  if !drained then raise (.runtimeError "eventfd read failed")
  else
    let io ← get
    if io.shutdownPhase ≠ .forced then drainOutbound config else return ()

def handleInputCapacityWakeup : Io Unit := do
  let drained : Bool ← invoke .drainInputCapacity
  if !drained then raise (.runtimeError "eventfd read failed")
  else
    let io ← get
    if io.shutdownPhase = .running ∨ io.shutdownPhase = .drainingInput then
      let _ ← drainDeferredInput config
    else return ()

def handleListener : Io Unit := do
  let io ← get
  if io.shutdownPhase = .running ∧ io.listenerRegistered = true ∧ io.readsPaused = false then
    acceptLoop config
  else return ()

def handleEvent (event : EpollEvent) : Io Unit := do
  if event.token = outboundWakeupToken then handleOutboundWakeup config
  else if event.token = inputCapacityWakeupToken then handleInputCapacityWakeup config
  else if event.token = listenerToken then handleListener config
  else
    let io ← get
    match io.fdByRegistrationToken.lookup event.token with
    | none => return ()
    | some fd =>
      if io.registrationTokenByFd.lookup fd = some event.token then
        handleSessionEvent config fd event
      else return ()

def handleEvents : List EpollEvent → Io Unit
  | [] => return ()
  | event :: rest => do
      let stopRequested : Bool ← invoke .stopRequested
      onlyIf stopRequested beginShutdown
      let io ← get
      let late : Bool ← invoke .deadlineReached
      if io.shutdownPhase ≠ .running ∧ io.shutdownPhase ≠ .forced ∧
          io.shutdownPhase ≠ .complete ∧ late then
        forceShutdown
      else
        handleEvent config event
        handleEvents rest

/-- What the loop does after it has waited for events. -/
def handleBatch (events : List EpollEvent) : Io Unit := do
  handleEvents config events
  let io ← get
  onlyIf (io.shutdownPhase ≠ .forced) (drainOutbound config)
  let io ← get
  onlyIf (io.shutdownPhase = .running) (expireIdleSessions config)
  advanceShutdown config

/-- One round of the event loop. -/
def serveOnce (_ : Unit) : Io (Unit ⊕ Unit) := do
  invoke .loopHead
  let io ← get
  if io.shutdownPhase = .complete then return .inr ()
  else
    let stopRequested : Bool ← invoke .stopRequested
    onlyIf stopRequested beginShutdown
    advanceShutdown config
    let io ← get
    if io.shutdownPhase = .complete then return .inr ()
    else
      let events : Option (List EpollEvent) ← invoke .wait
      match events with
      | none => raise (.runtimeError "epoll_wait failed")
      | some events =>
        handleBatch config events
        return .inl ()

/-- What `run` does with an exception before it throws it on. -/
def abandon (exception : ServerException) : Io Unit := do
  invoke .beginStop
  invoke .closeOutbox
  invoke .joinWorkers
  closeNetworkResources
  throw exception

def run : Io Unit := do
  tryCatch (loop (serveOnce config) ()) abandon
  invoke .joinWorkers
  let io ← get
  onlyIf (io.forcedShutdown = false) do
    drainOutbound config
    flushAllSessions config
  closeNetworkResources

end SessionServer.TcpServer
