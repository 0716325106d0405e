import SessionServer.InteractionProgram
import SessionServer.ProtocolVersion
import SessionServer.RoomServiceModel

/-!
# The message router

The router's code is a program: its calls are the calls of the source through
the event context, the sections under the negotiation mutex, the operations of
the room service, the call of the user repository and the completion of a
deferred event.  Everything between two calls is local to the thread.
-/

namespace SessionServer

open Protocol StructuredPayloadBuilder

/-- `std::ostringstream` applied to a `float`. -/
structure FloatText where
  text : UInt32 → Bytes
  printable : ∀ bits, ∀ byte ∈ text bits, isPrintable byte = true
  length_le : ∀ bits, (text bits).length ≤ 32

instance : Inhabited FloatText where
  default :=
    { text := fun _ => [0x30]
      printable := by
        intro bits byte hbyte
        rw [List.mem_singleton.mp hbyte]
        rfl
      length_le := by
        intro bits
        rw [List.length_singleton]
        omega }

namespace MessageRouter

/-! ## Names and payloads -/

structure NormalizedLoginName where
  normalized : Bytes
  display : Bytes
  deriving DecidableEq

def toLower (character : UInt8) : UInt8 :=
  if 0x41 ≤ character && character ≤ 0x5a then character - 0x41 + 0x61 else character

def normalizeLoginName (input : Bytes) : Option NormalizedLoginName :=
  let trimmed := trimAsciiWhitespace input
  if trimmed.isEmpty || trimmed.length > maxUserNameBytes || !isValidText trimmed then
    none
  else some { normalized := trimmed.map toLower, display := trimmed }

def persistenceErrorText : PersistenceErrorKind → String
  | .busy => "user persistence busy"
  | .unavailable => "user persistence unavailable"
  | .timeout => "user persistence timeout"
  | .stopping => "server is stopping"
  | .constraint => "user persistence failure"
  | .invalidData => "user persistence failure"

def parseRoomId (text : Bytes) : Except ProtocolError RoomId :=
  match fromChars 4294967295 text with
  | some (roomId, []) => .ok (UInt32.ofNat roomId)
  | _ => .error ⟨"invalid room id"⟩

def addUserFields (builder : StructuredPayloadBuilder) (user : User) :
    Except ProtocolError StructuredPayloadBuilder := do
  let builder ← builder.addField (ascii "user_id") user.id.toText
  let builder ← builder.addField (ascii "session_id") (decimal user.sessionId.toNat)
  builder.addField (ascii "name") user.name

def roomPayload (includeOkStatus : Bool) (event : Bytes) (result : RoomActionResult) :
    Except ProtocolError Bytes := do
  let builder ←
    if includeOkStatus then withStatus (ascii "OK")
    else pure .empty
  let builder ← builder.addField (ascii "event") event
  let builder ←
    if result.roomId ≠ 0 then
      builder.addField (ascii "room_id") (decimal result.roomId.toNat)
    else pure builder
  let builder ← addUserFields builder result.actor
  builder.build

def loginPayload (user : User) : Except ProtocolError Bytes := do
  let builder ← withStatus (ascii "OK")
  let builder ← addUserFields builder user
  builder.build

/-- The fields that a chat message and a position have in common. -/
def actorFields (event : Bytes) (result : RoomActionResult) :
    Except ProtocolError StructuredPayloadBuilder := do
  let builder : StructuredPayloadBuilder := .empty
  let builder ← builder.addField (ascii "event") event
  let builder ← builder.addField (ascii "room_id") (decimal result.roomId.toNat)
  addUserFields builder result.actor

def chatPayload (result : RoomActionResult) (message : Bytes) :
    Except ProtocolError Bytes := do
  let builder ← actorFields (ascii "CHAT") result
  let builder ← builder.addField (ascii "message") message
  builder.build

def positionPayload (floats : FloatText) (result : RoomActionResult)
    (position : PacketCodec.Position) : Except ProtocolError Bytes := do
  let builder ← actorFields (ascii "POSITION") result
  let builder ← builder.addField (ascii "x") (floats.text position.x)
  let builder ← builder.addField (ascii "y") (floats.text position.y)
  builder.build

def make (sessionId : SessionId) (type : PacketType) (payload : Bytes) :
    Except ProtocolError OutboundMessage := do
  let bytes ← PacketCodec.encode type payload
  return { sessionId := sessionId, bytes := bytes }

def error (sessionId : SessionId) (message : String) :
    Except ProtocolError OutboundMessage :=
  make sessionId .error (ascii message)

/-! ## Negotiation under its mutex -/

abbrev Versions := Finmap fun _ : SessionId => UInt16

/-- How the section of `handleNegotiation` under the mutex ends: the packet is
ignored, it is let through, or it is answered. -/
inductive Negotiation
  | ignored
  | passed
  | answered (response : OutboundMessage)
  deriving DecidableEq

/-- The end of the section: a session whose version is 0 is disconnected after
the response. -/
def closeNegotiation (sessionId : SessionId) (versions : Versions)
    (response : Except ProtocolError OutboundMessage) :
    Except ProtocolError Negotiation × Versions :=
  (response.map fun message =>
    .answered
      (if versions.lookup sessionId = some 0 then
        { message with kind := .sendBytesAndDisconnect }
      else message), versions)

/-- The answer to the first packet if it is a version request. -/
def selectVersion (sessionId : SessionId) (versions : Versions) (payload : Bytes) :
    Except ProtocolError OutboundMessage × Versions :=
  match decodeVersionRequest payload >>= negotiateVersion with
  | .error malformed => (.error malformed, versions.insert sessionId 0)
  | .ok none =>
    (error sessionId "unsupported protocol version", versions.insert sessionId 0)
  | .ok (some selected) =>
    (encodeVersionResponse selected >>= make sessionId .versionRes,
      versions.insert sessionId selected)

def negotiateLocked (versions : Versions) (sessionId : SessionId) (packet : Packet) :
    Except ProtocolError Negotiation × Versions :=
  match versions.lookup sessionId with
  | some version =>
    if version = 0 then (.ok .ignored, versions)
    else if packet.type ≠ .versionReq then (.ok .passed, versions)
    else
      closeNegotiation sessionId (versions.insert sessionId 0)
        (error sessionId "protocol version already negotiated")
  | none =>
    if packet.type ≠ .versionReq then
      closeNegotiation sessionId (versions.insert sessionId 0)
        (error sessionId "protocol version negotiation required")
    else
      match selectVersion sessionId versions packet.payload with
      | (.ok response, versions) => closeNegotiation sessionId versions (.ok response)
      | (.error _, versions) =>
        closeNegotiation sessionId versions (error sessionId "invalid protocol version request")

/-! ## Calls -/

/-- A shared pointer to a `DeferredSessionCompletion`. -/
abbrev CompletionId := ℕ

/-- The callback of a login: what its closure captures. -/
structure LoginCallback where
  sessionId : SessionId
  completion : CompletionId
  deriving DecidableEq

/-- What a repository does with a callback: it calls it on the spot, it keeps
it for a later call from any thread, or it throws and does not keep it. -/
inductive RepositoryAnswer
  | called (result : UserResult)
  | kept
  | threw

inductive RouterCall
  | emit (message : OutboundMessage)
  | defer
  | complete (completion : CompletionId) (payload : DeferredCompletionPayload)
  | eraseVersion (sessionId : SessionId)
  | negotiate (sessionId : SessionId) (packet : Packet)
  | clearVersion (sessionId : SessionId)
  | attachUser (sessionId : SessionId) (record : UserRecord)
  | act (sessionId : SessionId) (action : RoomAction)
  | findOrCreateByNormalizedName (request : FindOrCreateUser) (callback : LoginCallback)

/-- `defer` throws when it gives no completion. -/
def RouterCall.Answer : RouterCall → Type
  | .emit _ => Bool
  | .defer => Option CompletionId
  | .complete _ _ => Bool
  | .eraseVersion _ => Unit
  | .negotiate _ _ => Except ProtocolError Negotiation
  | .clearVersion _ => Unit
  | .attachUser _ _ => LoginResult
  | .act _ _ => RoomActionResult
  | .findOrCreateByNormalizedName _ _ => RepositoryAnswer

inductive HandlerException
  | protocolError (error : ProtocolError)
  | logicError (message : String)
  | repositoryError (message : String)
  deriving DecidableEq

def HandlerException.what : HandlerException → String
  | .protocolError error => error.message
  | .logicError message => message
  | .repositoryError message => message

abbrev Handler := InteractionProgram RouterCall.Answer HandlerException

def lift {α : Type} (computation : Except ProtocolError α) : Handler α :=
  .ofExcept .protocolError computation

def call (request : RouterCall) : Handler request.Answer :=
  .perform request

def emit (message : OutboundMessage) : Handler Bool :=
  call (.emit message)

def defer : Handler CompletionId := do
  match ← call .defer with
  | some completion => return completion
  | none =>
    throw (.logicError "session event can only defer once before emitting output")

def succeed (completion : CompletionId) (messages : List OutboundMessage) :
    Handler Bool :=
  call (.complete completion { failed := false, messages := messages })

def fail (completion : CompletionId) : Handler Bool :=
  call (.complete completion { failed := true, messages := [] })

def negotiate (sessionId : SessionId) (packet : Packet) : Handler Negotiation := do
  let outcome ← call (.negotiate sessionId packet)
  lift outcome

def eraseVersion (sessionId : SessionId) : Handler Unit :=
  call (.eraseVersion sessionId)

def clearVersion (sessionId : SessionId) : Handler Unit :=
  call (.clearVersion sessionId)

def act (sessionId : SessionId) (action : RoomAction) : Handler RoomActionResult :=
  call (.act sessionId action)

def attachUser (sessionId : SessionId) (record : UserRecord) : Handler LoginResult :=
  call (.attachUser sessionId record)

def findOrCreateByNormalizedName (request : FindOrCreateUser)
    (callback : LoginCallback) : Handler RepositoryAnswer :=
  call (.findOrCreateByNormalizedName request callback)

/-! ## Handling -/

/-- The error goes to the session that made the request. -/
def reject (sessionId : SessionId) (message : String) : Handler Unit := do
  let response ← lift (error sessionId message)
  let _ ← emit response

/-- Send to the recipients in turn until one message is refused. -/
def broadcast (skipped : Option SessionId) (payload : Bytes) :
    List SessionId → Handler Unit
  | [] => return
  | recipient :: rest => do
      if some recipient ≠ skipped then
        let message ← lift (make recipient .roomBroadcast payload)
        let accepted ← emit message
        if accepted then broadcast skipped payload rest
      else broadcast skipped payload rest

/-- The body of the callback that `handlePacket` hands to the repository. -/
def LoginCallback.invoke (callback : LoginCallback) (result : UserResult) :
    Handler Unit :=
  tryCatch
    (match result.user with
      | none => do
          let message :=
            match result.error with
            | some kind => persistenceErrorText kind
            | none => "user persistence failure"
          let response ← lift (error callback.sessionId message)
          let _ ← succeed callback.completion [response]
      | some record => do
          let login ← attachUser callback.sessionId record
          if !login.ok then
            let response ← lift (error callback.sessionId login.error)
            let _ ← succeed callback.completion [response]
          else
            let payload ← lift (loginPayload login.user)
            let response ← lift (make callback.sessionId .loginRes payload)
            let _ ← succeed callback.completion [response])
    fun _ => do
      let _ ← fail callback.completion

def handleLogin (sessionId : SessionId) (payload : Bytes) : Handler Unit := do
  match normalizeLoginName payload with
  | none => reject sessionId "invalid user name"
  | some name =>
    let completion ← defer
    tryCatch
      (do
        match ← findOrCreateByNormalizedName ⟨name.normalized, name.display⟩
          ⟨sessionId, completion⟩ with
        | .called result => LoginCallback.invoke ⟨sessionId, completion⟩ result
        | .kept => return
        | .threw => throw (.repositoryError "user repository"))
      fun _ => do
        let _ ← fail completion

def handleCreateRoom (sessionId : SessionId) (payload : Bytes) : Handler Unit := do
  match normalizeRoomName payload with
  | none => reject sessionId "invalid room name"
  | some roomName =>
    let result ← act sessionId (.createRoom roomName)
    if !result.ok then reject sessionId result.error
    else
      let payload ← lift (roomPayload true (ascii "CREATE_ROOM") result)
      let response ← lift (make sessionId .createRoomRes payload)
      let _ ← emit response

/-- Joining and leaving: the requester is answered, then the other members are
told. -/
def announce (sessionId : SessionId) (type : PacketType) (answer notice : Bytes)
    (result : RoomActionResult) : Handler Unit := do
  if !result.ok then reject sessionId result.error
  else
    let payload ← lift (roomPayload true answer result)
    let response ← lift (make sessionId type payload)
    let accepted ← emit response
    if accepted then
      let payload ← lift (roomPayload true notice result)
      broadcast (some sessionId) payload result.recipients

def handleJoinRoom (sessionId : SessionId) (payload : Bytes) : Handler Unit := do
  let roomId ← lift (parseRoomId payload)
  let result ← act sessionId (.joinRoom roomId)
  announce sessionId .joinRoomRes (ascii "JOIN_ROOM") (ascii "JOIN") result

def handleLeaveRoom (sessionId : SessionId) (payload : Bytes) : Handler Unit := do
  if !payload.isEmpty then reject sessionId "invalid leave room request"
  else
    let result ← act sessionId .leaveRoom
    announce sessionId .leaveRoomRes (ascii "LEAVE_ROOM") (ascii "LEAVE") result

def handleChat (sessionId : SessionId) (message : Bytes) : Handler Unit := do
  if message.length > maxChatMessageBytes then
    reject sessionId "chat message too large"
  else if !isValidText message then reject sessionId "invalid chat message"
  else
    let result ← act sessionId .chat
    if !result.ok then reject sessionId result.error
    else
      let payload ← lift (chatPayload result message)
      broadcast none payload result.recipients

def handlePosition (floats : FloatText) (sessionId : SessionId) (payload : Bytes) :
    Handler Unit := do
  let position ← lift (PacketCodec.decodePosition payload)
  let result ← act sessionId (.updatePosition position)
  if !result.ok then reject sessionId result.error
  else
    let payload ← lift (positionPayload floats result position)
    broadcast none payload result.recipients

def handlePing (sessionId : SessionId) (payload : Bytes) : Handler Unit := do
  if !payload.isEmpty then reject sessionId "invalid ping request"
  else
    let response ← lift (make sessionId .pong (ascii "PONG"))
    let _ ← emit response

def handlePacket (floats : FloatText) (sessionId : SessionId) (packet : Packet) :
    Handler Unit :=
  if packet.type = .loginReq then handleLogin sessionId packet.payload
  else if packet.type = .createRoomReq then handleCreateRoom sessionId packet.payload
  else if packet.type = .joinRoomReq then handleJoinRoom sessionId packet.payload
  else if packet.type = .leaveRoomReq then handleLeaveRoom sessionId packet.payload
  else if packet.type = .chatReq then handleChat sessionId packet.payload
  else if packet.type = .positionUpdate then handlePosition floats sessionId packet.payload
  else if packet.type = .ping then handlePing sessionId packet.payload
  else reject sessionId "unsupported packet type"

/-- The flag is false for a packet that is let through. -/
def handleNegotiation (sessionId : SessionId) (packet : Packet) : Handler Bool := do
  match ← negotiate sessionId packet with
  | .ignored => return true
  | .passed => return false
  | .answered response =>
    let accepted ← emit response
    if !accepted then
      clearVersion sessionId
      let _ ← emit { sessionId := sessionId, bytes := [], kind := .disconnectSession }
    return true

/-- The room service forgets the user, and the room is told. -/
def disconnectUser (sessionId : SessionId) : Handler Unit := do
  let result ← act sessionId .disconnect
  if !result.ok || result.roomId == 0 then return
  else
    let payload ← lift (roomPayload true (ascii "LEAVE") result)
    broadcast (some sessionId) payload result.recipients

def handleDisconnected (sessionId : SessionId) : Handler Unit := do
  eraseVersion sessionId
  disconnectUser sessionId

def handle (floats : FloatText) (event : SessionEvent) : Handler Unit :=
  if event.kind = .disconnected then handleDisconnected event.sessionId
  else
    tryCatch
      (do
        let handled ← handleNegotiation event.sessionId event.packet
        if !handled then handlePacket floats event.sessionId event.packet)
      fun exception => reject event.sessionId exception.what

end MessageRouter

end SessionServer
