import SessionServer.PacketCodecBuffer
import SessionServer.BoundedBlockingQueue
import Mathlib.Data.Finmap

/-!
# The state of the network thread

`TcpServer` keeps a session for every open connection, four tables that refer
to it, and the sessions and descriptors whose input it had to put off.  Session
ids and registration tokens are counters, as the sequence numbers are.
-/

namespace SessionServer.TcpServer

open Protocol

abbrev Fd := ℕ

/-- The limits that `validate` accepts. -/
structure ServerConfig where
  inboundQueueCapacity : ℕ
  inboundHighWatermark : ℕ
  inboundLowWatermark : ℕ
  outboundQueueCapacity : ℕ
  workerCount : ℕ
  maxPendingWriteBytes : ℕ
  maxSessions : ℕ
  low_pos : 0 < inboundLowWatermark
  low_lt_high : inboundLowWatermark < inboundHighWatermark
  high_le_capacity : inboundHighWatermark ≤ inboundQueueCapacity
  outboundQueueCapacity_pos : 0 < outboundQueueCapacity
  maxPendingWriteBytes_pos : 0 < maxPendingWriteBytes
  maxSessions_pos : 0 < maxSessions

/-- An event that the network thread pushes into the inbox. -/
structure InputEvent where
  kind : SessionEventKind
  sessionId : ℕ
  packet : Packet := {}
  sequence : ℕ
  deriving DecidableEq, Repr

/-- A message that the network thread takes out of the outbox. -/
structure OutputMessage where
  sessionId : ℕ
  bytes : Bytes
  kind : OutboundMessageKind := .sendBytes
  deriving DecidableEq, Repr

inductive ServerException
  | logicError (message : String)
  | runtimeError (message : String)
  deriving DecidableEq, Repr

inductive DisconnectReason
  | peerClosed
  | socketError
  | protocolError
  | idleTimeout
  | workerRequested
  | pendingWriteLimit
  | closeAfterFlush
  | shutdown
  deriving DecidableEq, Repr

/-! ## Sessions -/

structure PendingWrite where
  bytes : Bytes
  offset : ℕ := 0

structure Session where
  fd : Fd
  id : ℕ
  codec : PacketCodec := .empty
  pendingWrites : List PendingWrite := []
  maxPendingWriteBytes : ℕ
  pendingWriteBytes : ℕ := 0
  nextEventSequence : ℕ := 0
  peerReadClosed : Bool := false
  closingAfterFlush : Bool := false

namespace Session

def commitEventSequence (session : Session) : Session :=
  { session with nextEventSequence := session.nextEventSequence + 1 }

def markPeerReadClosed (session : Session) : Session :=
  { session with peerReadClosed := true }

def closeAfterFlush (session : Session) : Session :=
  { session with closingAfterFlush := true }

def hasPendingWrite (session : Session) : Bool :=
  !session.pendingWrites.isEmpty

/-- `has_completed_packet` of `disconnect`. -/
def hasCompletedPacket (session : Session) : Bool :=
  match session.codec.peekPacket with
  | .ok packet => packet.isSome
  | .error _ => false

/-- `none` when the bytes are refused. -/
def tryEnqueue (session : Session) (bytes : Bytes) : Option Session :=
  if bytes.isEmpty then none
  else if bytes.length > session.maxPendingWriteBytes - session.pendingWriteBytes then none
  else some { session with
    pendingWrites := session.pendingWrites ++ [{ bytes }]
    pendingWriteBytes := session.pendingWriteBytes + bytes.length }

def consumeWrite (session : Session) (byteCount : ℕ) : Except ServerException Session :=
  match session.pendingWrites with
  | [] => .error (.logicError "no pending write to consume")
  | write :: rest =>
    if byteCount > write.bytes.length - write.offset then
      .error (.logicError "consume exceeds pending write")
    else
      let offset := write.offset + byteCount
      .ok { session with
        pendingWrites :=
          if offset = write.bytes.length then rest else { write with offset } :: rest
        pendingWriteBytes := session.pendingWriteBytes - byteCount }

end Session

/-! ## Backpressure -/

inductive ReadTransition
  | none
  | pause
  | resume
  deriving DecidableEq

structure ReadBackpressureController where
  paused : Bool := false
  deriving DecidableEq

namespace ReadBackpressureController

def onInboundSize (config : ServerConfig) (controller : ReadBackpressureController)
    (size : ℕ) : ReadTransition × ReadBackpressureController :=
  if !controller.paused && config.inboundHighWatermark ≤ size then (.pause, ⟨true⟩)
  else (.none, controller)

def onCapacityAvailable (config : ServerConfig) (controller : ReadBackpressureController)
    (size : ℕ) : ReadTransition × ReadBackpressureController :=
  if controller.paused && size ≤ config.inboundLowWatermark then (.resume, ⟨false⟩)
  else (.none, controller)

end ReadBackpressureController

/-! ## The tables -/

inductive ShutdownPhase
  | running
  | drainingInput
  | drainingOutput
  | forced
  | complete
  deriving DecidableEq, Repr

structure ConnectionTables where
  sessionsByFd : Finmap fun _ : Fd => Session := ∅
  fdBySession : Finmap fun _ : ℕ => Fd := ∅
  registrationTokenByFd : Finmap fun _ : Fd => ℕ := ∅
  fdByRegistrationToken : Finmap fun _ : ℕ => Fd := ∅
  /-- The entries of `sessions_by_fd_` whose session was moved out. -/
  movedSessions : ℕ := 0
  nextSessionId : ℕ := 1
  nextRegistrationToken : ℕ := 4
  currentSessions : ℕ := 0

structure DeferredInput where
  deferredDisconnects : List Session := []
  deferredDisconnectIds : Finset ℕ := ∅
  deferredReadFds : List Fd := []
  deferredReadFdSet : Finset Fd := ∅

structure ReadControl where
  readBackpressure : ReadBackpressureController := {}
  readsPaused : Bool := false
  listenerRegistered : Bool := true

/-- Initially as after `openListener`. -/
structure IoState extends ConnectionTables, DeferredInput, ReadControl where
  shutdownPhase : ShutdownPhase := .running
  forcedShutdown : Bool := false

/-- Where a function that takes a `Session&` finds it. -/
inductive SessionPlace
  | live (fd : Fd)
  /-- The front of `deferred_disconnects_`. -/
  | deferred
  deriving DecidableEq

namespace ConnectionTables

/-- `sessions_by_fd_.size()` -/
def sessionCount (tables : ConnectionTables) : ℕ :=
  tables.sessionsByFd.keys.card + tables.movedSessions

/-- What `acceptLoop` enters for a new connection. -/
def register (config : ServerConfig) (fd : Fd) (tables : ConnectionTables) :
    ConnectionTables :=
  let session : Session :=
    { fd, id := tables.nextSessionId, maxPendingWriteBytes := config.maxPendingWriteBytes }
  { tables with
    nextSessionId := tables.nextSessionId + 1
    fdBySession := tables.fdBySession.insert tables.nextSessionId fd
    sessionsByFd := tables.sessionsByFd.insert fd session
    nextRegistrationToken := tables.nextRegistrationToken + 1
    registrationTokenByFd := tables.registrationTokenByFd.insert fd tables.nextRegistrationToken
    fdByRegistrationToken := tables.fdByRegistrationToken.insert tables.nextRegistrationToken fd }

def storeCurrentSessions (tables : ConnectionTables) : ConnectionTables :=
  { tables with currentSessions := tables.sessionCount }

/-- What `disconnect` removes before it closes the connection.  The session is
moved out of `sessions_by_fd_`, where its key stays. -/
def detach (fd : Fd) (session : Session) (tables : ConnectionTables) : ConnectionTables :=
  { tables with
    sessionsByFd := tables.sessionsByFd.erase fd
    movedSessions := tables.movedSessions + 1
    fdBySession := tables.fdBySession.erase session.id
    fdByRegistrationToken :=
      match tables.registrationTokenByFd.lookup fd with
      | some token => tables.fdByRegistrationToken.erase token
      | none => tables.fdByRegistrationToken
    registrationTokenByFd := tables.registrationTokenByFd.erase fd }

/-- The key of the session moved out is erased. -/
def eraseMoved (tables : ConnectionTables) : ConnectionTables :=
  storeCurrentSessions { tables with movedSessions := tables.movedSessions - 1 }

def clear (tables : ConnectionTables) : ConnectionTables :=
  { tables with
    sessionsByFd := ∅
    movedSessions := 0
    fdBySession := ∅
    registrationTokenByFd := ∅
    fdByRegistrationToken := ∅
    currentSessions := 0 }

end ConnectionTables

namespace IoState

def session? (io : IoState) : SessionPlace → Option Session
  | .live fd => io.sessionsByFd.lookup fd
  | .deferred => io.deferredDisconnects.head?

def setSession (place : SessionPlace) (session : Session) (io : IoState) : IoState :=
  match place with
  | .live fd => { io with sessionsByFd := io.sessionsByFd.insert fd session }
  | .deferred =>
    { io with deferredDisconnects := session :: io.deferredDisconnects.tail }

def register (config : ServerConfig) (fd : Fd) (io : IoState) : IoState :=
  { io with toConnectionTables := io.toConnectionTables.register config fd }

def storeCurrentSessions (io : IoState) : IoState :=
  { io with toConnectionTables := io.toConnectionTables.storeCurrentSessions }

def detach (fd : Fd) (session : Session) (io : IoState) : IoState :=
  { io with
    toConnectionTables := io.toConnectionTables.detach fd session
    deferredReadFdSet := io.deferredReadFdSet.erase fd }

def eraseMoved (io : IoState) : IoState :=
  { io with toConnectionTables := io.toConnectionTables.eraseMoved }

def deferRead (fd : Fd) (io : IoState) : IoState :=
  if fd ∈ io.deferredReadFdSet then io
  else { io with
    deferredReadFdSet := insert fd io.deferredReadFdSet
    deferredReadFds := io.deferredReadFds ++ [fd] }

def popDeferredRead (io : IoState) : IoState :=
  { io with deferredReadFds := io.deferredReadFds.tail }

/-- The front of the deferred reads was decoded to the end. -/
def takeDeferredRead (fd : Fd) (io : IoState) : IoState :=
  { io with
    deferredReadFds := io.deferredReadFds.tail
    deferredReadFdSet := io.deferredReadFdSet.erase fd }

def deferDisconnect (session : Session) (io : IoState) : IoState :=
  { io with
    deferredDisconnects := io.deferredDisconnects ++ [session]
    deferredDisconnectIds := insert session.id io.deferredDisconnectIds }

def popDeferredDisconnect (sessionId : ℕ) (io : IoState) : IoState :=
  { io with
    deferredDisconnects := io.deferredDisconnects.tail
    deferredDisconnectIds := io.deferredDisconnectIds.erase sessionId }

def pause (io : IoState) : IoState :=
  { io with readsPaused := true }

def dropListener (io : IoState) : IoState :=
  { io with listenerRegistered := false }

def unpause (io : IoState) : IoState :=
  { io with readsPaused := false }

def addListener (io : IoState) : IoState :=
  { io with listenerRegistered := true }

def setBackpressure (controller : ReadBackpressureController) (io : IoState) : IoState :=
  { io with readBackpressure := controller }

/-- With `forced` the flag `forced_shutdown_` is set. -/
def enterPhase (phase : ShutdownPhase) (io : IoState) : IoState :=
  { io with
    shutdownPhase := phase
    forcedShutdown := io.forcedShutdown || phase == .forced }

/-- The end of `closeNetworkResources`. -/
def clear (io : IoState) : IoState :=
  { io with
    toConnectionTables := io.toConnectionTables.clear
    toDeferredInput := {} }

end IoState

end SessionServer.TcpServer
