import SessionServer.TcpServerProgram

/-!
# The network thread among the workers

What each call of the program does, and what the other threads do meanwhile:
workers pop events and signal the input-capacity descriptor when exactly the
low watermark is left, publish messages, and finish when the closed inbox is
empty; deferred completions are pushed; the pool closes the inbox once it was
told to stop.  Beside the state of the thread stands what
happened so far: the bytes received and the events pushed for each session.
-/

namespace SessionServer.TcpServer

open Protocol InteractionProgram

/-- The state of the network thread with its history. -/
structure Server where
  io : IoState := {}
  /-- The connections that the kernel has open. -/
  openFds : Finset Fd := ∅
  received : ℕ → Bytes := fun _ => []
  pushed : List InputEvent := []
  /-- The bytes that `send` has taken for a session. -/
  sent : ℕ → Bytes := fun _ => []
  /-- The messages popped from the outbox for a session that exists or existed. -/
  addressed : ℕ → List OutputMessage := fun _ => []
  /-- The session ids and tokens given out. -/
  registrations : List (ℕ × ℕ) := []
  /-- A connection is in the tables that `acceptLoop` has not counted. -/
  registering : Bool := false
  raised : List ServerException := []

structure Shared where
  inbox : BoundedBlockingQueue InputEvent
  outbox : BoundedBlockingQueue OutputMessage
  /-- `active_workers_` -/
  workers : ℕ
  inputCapacitySignalled : Bool := false
  /-- Workers that have popped down to the low watermark and not notified yet. -/
  pendingNotifications : ℕ := 0
  stopRequested : Bool := false
  /-- The pool was told to stop. -/
  stopping : Bool := false
  forceStopRequested : Bool := false

def Shared.initial (config : ServerConfig) : Shared where
  inbox := .create config.inboundQueueCapacity
    (Nat.lt_of_lt_of_le (Nat.lt_trans config.low_pos config.low_lt_high) config.high_le_capacity)
  outbox := .create config.outboundQueueCapacity config.outboundQueueCapacity_pos
  workers := max 1 config.workerCount

/-! ## The other threads -/

inductive Interference
  | workerPop
  | workerNotify
  | workerPublish (message : OutputMessage)
  | workerExit
  | completionPush (event : InputEvent)
  | closeInbox
  | requestStop

def interfere (config : ServerConfig) (shared : Shared) : Interference → Option Shared
  | .workerPop =>
    match shared.inbox.pop with
    | some (result, some _, inbox) =>
      some { shared with
        inbox
        pendingNotifications :=
          if result.size = config.inboundLowWatermark then
            shared.pendingNotifications + 1
          else shared.pendingNotifications }
    | _ => none
  | .workerNotify =>
    if shared.pendingNotifications = 0 then none
    else some { shared with
      pendingNotifications := shared.pendingNotifications - 1
      inputCapacitySignalled := true }
  | .workerPublish message =>
    if shared.workers = 0 then none
    else (shared.outbox.push message).map fun pushed => { shared with outbox := pushed.2 }
  | .workerExit =>
    if shared.workers = 0 then none
    else if shared.forceStopRequested || shared.inbox.closed && shared.inbox.items.isEmpty then
      some { shared with workers := shared.workers - 1 }
    else none
  | .completionPush event =>
    if event.kind = .deferredCompletion then
      (shared.inbox.push event).map fun pushed => { shared with inbox := pushed.2 }
    else none
  | .closeInbox =>
    if shared.stopping then some { shared with inbox := shared.inbox.close } else none
  | .requestStop => some { shared with stopRequested := true }

/-! ## The calls -/

/-- How the kernel and the other parts of the server answer where the state does
not determine the answer. -/
inductive Reply
  | unit
  | bool (answer : Bool)
  | number (answer : ℕ)
  | events (answer : Option (List EpollEvent))
  | accepted (answer : AcceptResult)
  | received (answer : RecvResult)
  | sent (answer : SendResult)
  | fds (answer : List Fd)

namespace Reply

def unit? : Reply → Option Unit
  | .unit => some ()
  | _ => none

def bool? : Reply → Option Bool
  | .bool answer => some answer
  | _ => none

def number? : Reply → Option ℕ
  | .number answer => some answer
  | _ => none

def events? : Reply → Option (Option (List EpollEvent))
  | .events answer => some answer
  | _ => none

def fds? : Reply → Option (List Fd)
  | .fds answer => some answer
  | _ => none

/-- The kernel never returns a descriptor that is still open. -/
def accepted? (openFds : Finset Fd) : Reply → Option AcceptResult
  | .accepted (.accepted fd) => if fd ∈ openFds then none else some (.accepted fd)
  | .accepted answer => some answer
  | _ => none

/-- A successful `recv` fills some of the 4096 bytes of the buffer. -/
def received? : Reply → Option RecvResult
  | .received (.data bytes) =>
    if bytes.isEmpty || 4096 < bytes.length then none else some (.data bytes)
  | .received answer => some answer
  | _ => none

/-- A successful `send` takes some of the data. -/
def sent? (data : Bytes) : Reply → Option SendResult
  | .sent (.sent byteCount) =>
    if byteCount = 0 ∨ data.length < byteCount then none else some (.sent byteCount)
  | .sent answer => some answer
  | _ => none

end Reply

namespace Server

def accept (server : Server) : AcceptResult → Server
  | .accepted fd => { server with openFds := insert fd server.openFds }
  | _ => server

/-- The connection enters the tables. -/
def register (server : Server) (config : ServerConfig) (fd : Fd) : Server :=
  { server with
    io := server.io.register config fd
    registrations := server.registrations ++
      [(server.io.nextSessionId, server.io.nextRegistrationToken)]
    registering := true }

def storeCurrentSessions (server : Server) : Server :=
  { server with
    io := server.io.storeCurrentSessions
    registering := false }

/-- What is received counts for the session of the descriptor. -/
def receive (server : Server) (fd : Fd) : RecvResult → Server
  | .data bytes =>
    match server.io.sessionsByFd.lookup fd with
    | some session =>
      { server with
        received := Function.update server.received session.id
          (server.received session.id ++ bytes) }
    | none => server
  | _ => server

/-- What `send` has taken counts for the session of the descriptor. -/
def send (server : Server) (fd : Fd) (data : Bytes) : SendResult → Server
  | .sent byteCount =>
    match server.io.sessionsByFd.lookup fd with
    | some session =>
      { server with
        sent := Function.update server.sent session.id
          (server.sent session.id ++ data.take byteCount) }
    | none => server
  | _ => server

def takeMessage (server : Server) : Option OutputMessage → Server
  | some message =>
    if message.sessionId < server.io.nextSessionId then
      { server with
        addressed := Function.update server.addressed message.sessionId
          (server.addressed message.sessionId ++ [message]) }
    else server
  | none => server

def push (server : Server) (event : InputEvent) (succeeded : Bool) : Server :=
  if succeeded then { server with pushed := server.pushed ++ [event] } else server

section Io

variable (server : Server)

theorem accept_io (accepted : AcceptResult) : (server.accept accepted).io = server.io := by
  cases accepted <;> rfl

theorem receive_io (fd : Fd) (received : RecvResult) :
    (server.receive fd received).io = server.io := by
  unfold receive
  split
  · split <;> rfl
  · rfl

theorem send_io (fd : Fd) (data : Bytes) (sent : SendResult) :
    (server.send fd data sent).io = server.io := by
  unfold send
  split
  · split <;> rfl
  · rfl

theorem takeMessage_io (message : Option OutputMessage) :
    (server.takeMessage message).io = server.io := by
  unfold takeMessage
  split
  · split <;> rfl
  · rfl

theorem push_io (event : InputEvent) (succeeded : Bool) :
    (server.push event succeeded).io = server.io := by
  unfold push
  split <;> rfl

end Io

end Server

def respond : (request : IoCall) → Server → Shared → Reply →
    Option (IoAnswer request × Server × Shared)
  | .loopHead | .feed _ | .recordDisconnect _ _ | .recordSlowClientDisconnect
  | .epollRemove _ | .epollRemoveListener | .notifyOutbound | .joinWorkers =>
    fun server shared reply =>
    reply.unit?.map fun _ => ((), server, shared)
  | .get => fun server shared reply => reply.unit?.map fun _ => (server.io, server, shared)
  | .modify update => fun server shared reply =>
    reply.unit?.map fun _ => ((), { server with io := update server.io }, shared)
  | .register config fd => fun server shared reply =>
    reply.unit?.map fun _ => ((), server.register config fd, shared)
  | .storeCurrentSessions => fun server shared reply =>
    reply.unit?.map fun _ => ((), server.storeCurrentSessions, shared)
  | .enterPhase phase => fun server shared reply =>
    reply.unit?.map fun _ => ((), { server with io := server.io.enterPhase phase }, shared)
  | .stopRequested => fun server shared reply =>
    reply.unit?.map fun _ => (shared.stopRequested, server, shared)
  | .deadlineReached | .configureSocket _ | .epollAdd _ _ _ | .epollAddListener _ _
  | .epollModify _ _ _ | .drainOutboundWakeup => fun server shared reply =>
    reply.bool?.map fun answer => (answer, server, shared)
  | .wait => fun server shared reply =>
    reply.events?.map fun answer => (answer, server, shared)
  | .accept => fun server shared reply =>
    (reply.accepted? server.openFds).map fun answer => (answer, server.accept answer, shared)
  | .close fd => fun server shared reply =>
    reply.unit?.map fun _ => ((), { server with openFds := server.openFds.erase fd }, shared)
  | .recv fd => fun server shared reply =>
    reply.received?.map fun answer => (answer, server.receive fd answer, shared)
  | .send fd data => fun server shared reply =>
    (reply.sent? data).map fun answer => (answer, server.send fd data answer, shared)
  | .sessionOrder => fun server shared reply => do
      let fds ← reply.fds?
      if fds.Nodup ∧ fds.toFinset = server.io.sessionsByFd.keys then
        return (fds, server, shared)
      else none
  | .expiredSessions => fun server shared reply => do
      let fds ← reply.fds?
      if fds.Nodup ∧ fds.toFinset ⊆ server.io.sessionsByFd.keys then
        return (fds, server, shared)
      else none
  | .inboxTryPush event => fun server shared reply =>
    reply.unit?.map fun _ =>
      ((shared.inbox.tryPush event).1,
        server.push event (shared.inbox.tryPush event).1.succeeded,
        { shared with inbox := (shared.inbox.tryPush event).2 })
  | .inboxSize => fun server shared reply =>
    reply.unit?.map fun _ => (shared.inbox.size, server, shared)
  | .notifyInputCapacity => fun server shared reply =>
    reply.unit?.map fun _ => ((), server, { shared with inputCapacitySignalled := true })
  | .drainInputCapacity => fun server shared reply =>
    reply.bool?.map fun drained =>
      (drained, server,
        { shared with
          inputCapacitySignalled := shared.inputCapacitySignalled && !drained })
  | .outboxTryPop => fun server shared reply =>
    reply.unit?.map fun _ =>
      (shared.outbox.tryPop.1.value, server.takeMessage shared.outbox.tryPop.1.value,
        { shared with outbox := shared.outbox.tryPop.2 })
  | .outboxSize => fun server shared reply =>
    reply.unit?.map fun _ => (shared.outbox.size, server, shared)
  | .closeOutbox => fun server shared reply =>
    reply.unit?.map fun _ => ((), server, { shared with outbox := shared.outbox.close })
  | .workersFinished => fun server shared reply =>
    reply.unit?.map fun _ => (shared.workers == 0, server, shared)
  | .rounds => fun server shared reply =>
    reply.number?.map fun answer => (answer, server, shared)
  | .beginStop => fun server shared reply =>
    reply.unit?.map fun _ => ((), server, { shared with stopping := true })
  | .forceStop => fun server shared reply =>
    reply.unit?.map fun _ =>
      ((), server, { shared with
        stopping := true
        forceStopRequested := true
        inbox := shared.inbox.close
        outbox := shared.outbox.close })
  | .raise exception => fun server shared reply =>
    reply.unit?.map fun _ =>
      ((), { server with raised := server.raised ++ [exception] }, shared)
  | .halt | .undefinedBehaviour => fun _ _ _ => none

def environment (config : ServerConfig) :
    Environment IoAnswer Server Shared Interference Reply where
  interfere := interfere config
  respond := respond

abbrev ServerConfiguration := Configuration IoAnswer ServerException Unit Server Shared

def initial (config : ServerConfig) : ServerConfiguration where
  program := run config
  own := {}
  shared := .initial config

/-- Some run of the server from the start of its event loop leads here. -/
def Reachable (config : ServerConfig) (configuration : ServerConfiguration) : Prop :=
  TransitionSystem.Reaches (environment config).step (fun _ _ => True) (initial config)
    configuration

/-- The thread is at the head of the event loop. -/
def AtLoopHead (configuration : ServerConfiguration) : Prop :=
  ∃ next, configuration.program = .call .loopHead next

end SessionServer.TcpServer
