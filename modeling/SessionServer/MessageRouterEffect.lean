import SessionServer.MessageRouterNegotiation

/-!
# What a packet leads to

One inversion lemma for the packet handlers: what a packet asks of the room
service, what the service answers and which messages the router sends about it.
The messages go out in turn until one of them is refused.
-/

namespace SessionServer.MessageRouter

open Protocol PacketCodec List

variable {Store : Type}
variable {messages : List OutboundMessage} {message : OutboundMessage}

/-! ## Sending -/

/-- Messages sent in turn until one is refused; `position` is the number of
messages the event emitted before. -/
def transmit (accepts : ℕ → OutboundMessage → Bool) :
    ℕ → List OutboundMessage → List (OutboundMessage × Bool)
  | _, [] => []
  | position, message :: rest =>
    (message, accepts position message) ::
      if accepts position message then transmit accepts (position + 1) rest else []

section Transmit

variable (accepts : ℕ → OutboundMessage → Bool)

@[simp] theorem transmit_nil (position : ℕ) : transmit accepts position [] = [] := rfl

@[simp] theorem transmit_singleton (position : ℕ) (message : OutboundMessage) :
    transmit accepts position [message] = [(message, accepts position message)] := by
  simp [transmit]

theorem transmit_isPrefix (messages : List OutboundMessage) (position : ℕ) :
    (transmit accepts position messages).map Prod.fst <+: messages := by
  induction messages generalizing position with
  | nil => exact prefix_rfl
  | cons _ _ ih =>
    simp only [transmit, map_cons, prefix_cons_inj]
    split
    · exact ih (position + 1)
    · exact nil_prefix

theorem mem_of_mem_transmit {position : ℕ}
    {entry : OutboundMessage × Bool} (hentry : entry ∈ transmit accepts position messages) :
    entry.1 ∈ messages :=
  (transmit_isPrefix accepts messages position).subset (mem_map_of_mem hentry)

end Transmit

theorem run_reject (around : Surroundings Store) (turn : Turn Store)
    {id : SessionId} {text : String} (herror : error id text = .ok message) :
    runHandler around (reject id text) turn =
      (.ok (), { turn with
        emitted := turn.emitted ++ [(message, around.accepts turn.emitted.length message)] }) := by
  unfold reject
  rw [run_bind, herror, run_lift_ok]
  rfl

/-- One packet for each recipient that is not skipped. -/
def notices (skipped : Option SessionId) (bytes : Bytes) (recipients : List SessionId) :
    List OutboundMessage :=
  (recipients.filter fun recipient => some recipient ≠ skipped).map
    fun recipient => { sessionId := recipient, bytes := bytes }

theorem mem_notices {skipped : Option SessionId} {bytes : Bytes} {recipients : List SessionId} :
    message ∈ notices skipped bytes recipients ↔
      ∃ recipient ∈ recipients, some recipient ≠ skipped ∧
        message = { sessionId := recipient, bytes := bytes } := by
  simp only [notices, mem_map, mem_filter, decide_eq_true_eq]
  constructor
  · rintro ⟨recipient, ⟨hmem, hne⟩, rfl⟩
    exact ⟨recipient, hmem, hne, rfl⟩
  · rintro ⟨recipient, hmem, hne, rfl⟩
    exact ⟨recipient, ⟨hmem, hne⟩, rfl⟩

/-- A payload that fits goes to the recipients in turn. -/
theorem run_broadcast (around : Surroundings Store) (skipped : Option SessionId)
    {payload bytes : Bytes} (hencode : encode .roomBroadcast payload = .ok bytes)
    (recipients : List SessionId) (turn : Turn Store) :
    runHandler around (broadcast skipped payload recipients) turn =
      (.ok (), { turn with
        emitted := turn.emitted ++ transmit around.accepts turn.emitted.length
          (notices skipped bytes recipients) }) := by
  induction recipients generalizing turn with
  | nil => simp [broadcast, notices]
  | cons recipient rest ih =>
    unfold broadcast
    by_cases hskipped : some recipient ≠ skipped
    · let message : OutboundMessage := { sessionId := recipient, bytes := bytes }
      have hmake : make recipient .roomBroadcast payload = .ok message := by
        rw [make, hencode]
        rfl
      have hnotices : notices skipped bytes (recipient :: rest) =
          message :: notices skipped bytes rest := by
        simp [notices, hskipped, message]
      rw [if_pos hskipped, run_bind, hmake, run_lift_ok, hnotices, transmit]
      simp only [run_bind, run_emit]
      split
      · rw [ih, append_assoc, length_append, length_singleton]
        rfl
      · rfl
    · have hnotices : notices skipped bytes (recipient :: rest) = notices skipped bytes rest := by
        simp [notices, not_not.mp hskipped]
      rw [if_neg hskipped, ih, hnotices]

/-! ## Requests -/

/-- The call of the room service that a packet asks for, if it is well formed. -/
def requested (packet : Packet) : Option RoomAction :=
  if packet.type = .createRoomReq then
    (normalizeRoomName packet.payload).map .createRoom
  else if packet.type = .joinRoomReq then
    (parseRoomId packet.payload).toOption.map .joinRoom
  else if packet.type = .leaveRoomReq then
    if packet.payload.isEmpty then some .leaveRoom else none
  else if packet.type = .chatReq then
    if packet.payload.length ≤ maxChatMessageBytes ∧ isValidText packet.payload = true then
      some .chat
    else none
  else if packet.type = .positionUpdate then
    (decodePosition packet.payload).toOption.map .updatePosition
  else none

section Requested

variable {packet : Packet}

theorem requested_createRoom (htype : packet.type = .createRoomReq) :
    requested packet = (normalizeRoomName packet.payload).map RoomAction.createRoom := by
  rw [requested, if_pos htype]

theorem requested_joinRoom (htype : packet.type = .joinRoomReq) :
    requested packet = (parseRoomId packet.payload).toOption.map RoomAction.joinRoom := by
  have hcreate : (.joinRoomReq : PacketType) ≠ .createRoomReq := by decide
  simp [requested, htype, hcreate]

theorem requested_leaveRoom (htype : packet.type = .leaveRoomReq) :
    requested packet = if packet.payload.isEmpty then some .leaveRoom else none := by
  have hcreate : (.leaveRoomReq : PacketType) ≠ .createRoomReq := by decide
  have hjoin : (.leaveRoomReq : PacketType) ≠ .joinRoomReq := by decide
  simp [requested, htype, hcreate, hjoin]

theorem requested_chat (htype : packet.type = .chatReq) :
    requested packet =
      if packet.payload.length ≤ maxChatMessageBytes ∧ isValidText packet.payload = true then
        some .chat
      else none := by
  have hcreate : (.chatReq : PacketType) ≠ .createRoomReq := by decide
  have hjoin : (.chatReq : PacketType) ≠ .joinRoomReq := by decide
  have hleave : (.chatReq : PacketType) ≠ .leaveRoomReq := by decide
  simp [requested, htype, hcreate, hjoin, hleave]

theorem requested_position (htype : packet.type = .positionUpdate) :
    requested packet = (decodePosition packet.payload).toOption.map RoomAction.updatePosition := by
  have hcreate : (.positionUpdate : PacketType) ≠ .createRoomReq := by decide
  have hjoin : (.positionUpdate : PacketType) ≠ .joinRoomReq := by decide
  have hleave : (.positionUpdate : PacketType) ≠ .leaveRoomReq := by decide
  have hchat : (.positionUpdate : PacketType) ≠ .chatReq := by decide
  simp [requested, htype, hcreate, hjoin, hleave, hchat]

theorem requested_ping (htype : packet.type = .ping) : requested packet = none := by
  have hcreate : (.ping : PacketType) ≠ .createRoomReq := by decide
  have hjoin : (.ping : PacketType) ≠ .joinRoomReq := by decide
  have hleave : (.ping : PacketType) ≠ .leaveRoomReq := by decide
  have hchat : (.ping : PacketType) ≠ .chatReq := by decide
  have hposition : (.ping : PacketType) ≠ .positionUpdate := by decide
  simp [requested, htype, hcreate, hjoin, hleave, hchat, hposition]

end Requested

/-- The payloads that a decoder throws on. -/
def Undecodable (packet : Packet) (failure : ProtocolError) : Prop :=
  packet.type = .joinRoomReq ∧ parseRoomId packet.payload = .error failure ∨
    packet.type = .positionUpdate ∧ decodePosition packet.payload = .error failure

theorem Undecodable.requested_eq_none {packet : Packet} {failure : ProtocolError}
    (hundecodable : Undecodable packet failure) : requested packet = none := by
  rcases hundecodable with ⟨htype, hparse⟩ | ⟨htype, hdecode⟩
  · rw [requested_joinRoom htype, hparse]
    rfl
  · rw [requested_position htype, hdecode]
    rfl

theorem Undecodable.length_le {packet : Packet} {failure : ProtocolError}
    (hundecodable : Undecodable packet failure) : failure.message.length ≤ 4092 := by
  rcases hundecodable with ⟨_, hparse⟩ | ⟨_, hdecode⟩
  · unfold parseRoomId at hparse
    split at hparse
    · simp at hparse
    · cases hparse
      decide
  · unfold decodePosition at hdecode
    split at hdecode
    · simp at hdecode
    · cases hdecode
      decide

/-! ## What is said about a served call -/

/-- The answer to the session that made the call. -/
def Answers (id : SessionId) (type : PacketType) (event : Bytes)
    (result : RoomActionResult) (message : OutboundMessage) : Prop :=
  ∃ payload, roomPayload true event result = .ok payload ∧ make id type payload = .ok message

/-- The same packet for every recipient that is not skipped. -/
def Notifies (skipped : Option SessionId) (payload : Except ProtocolError Bytes)
    (result : RoomActionResult) (messages : List OutboundMessage) : Prop :=
  ∃ built bytes, payload = .ok built ∧
    encode .roomBroadcast built = .ok bytes ∧
    messages = notices skipped bytes result.recipients

/-- The messages about a call that was served; `content` is the payload of the
packet. -/
inductive Said (floats : FloatText) (id : SessionId) (content : Bytes)
    (result : RoomActionResult) : RoomAction → List OutboundMessage → Prop
  | created {name : Bytes} {answer : OutboundMessage}
      (hanswer : Answers id .createRoomRes (ascii "CREATE_ROOM") result answer) :
      Said floats id content result (.createRoom name) [answer]
  | joined {roomId : RoomId} {answer : OutboundMessage} {told : List OutboundMessage}
      (hanswer : Answers id .joinRoomRes (ascii "JOIN_ROOM") result answer)
      (htold : Notifies (some id) (roomPayload true (ascii "JOIN") result) result told) :
      Said floats id content result (.joinRoom roomId) (answer :: told)
  | left {answer : OutboundMessage} {told : List OutboundMessage}
      (hanswer : Answers id .leaveRoomRes (ascii "LEAVE_ROOM") result answer)
      (htold : Notifies (some id) (roomPayload true (ascii "LEAVE") result) result told) :
      Said floats id content result .leaveRoom (answer :: told)
  | chatted {told : List OutboundMessage}
      (htold : Notifies none (chatPayload result content) result told) :
      Said floats id content result .chat told
  | moved {position : PacketCodec.Position} {told : List OutboundMessage}
      (htold : Notifies none (positionPayload floats result position) result told) :
      Said floats id content result (.updatePosition position) told

/-- Everything a packet other than a login can lead to: the rooms behind it and
the messages about it. -/
inductive PacketEffect (floats : FloatText) (order : Enumeration) (rooms : RoomRun)
    (id : SessionId) (packet : Packet) : RoomRun → List OutboundMessage → Prop
  | malformed {text : String} {message : OutboundMessage}
      (hrequested : requested packet = none)
      (hping : ¬ (packet.type = .ping ∧ packet.payload = []))
      (herror : error id text = .ok message) :
      PacketEffect floats order rooms id packet rooms [message]
  | refused {action : RoomAction} {message : OutboundMessage}
      (hrequested : requested packet = some action)
      (hrefused : (rooms.act order id action).1.ok = false)
      (herror : error id (rooms.act order id action).1.error = .ok message) :
      PacketEffect floats order rooms id packet (rooms.act order id action).2 [message]
  | served {action : RoomAction} {messages : List OutboundMessage}
      (hrequested : requested packet = some action)
      (hserved : (rooms.act order id action).1.ok = true)
      (hsaid : Said floats id packet.payload (rooms.act order id action).1 action messages) :
      PacketEffect floats order rooms id packet (rooms.act order id action).2 messages
  | ponged {message : OutboundMessage} (htype : packet.type = .ping)
      (hempty : packet.payload = [])
      (hmake : make id .pong (ascii "PONG") = .ok message) :
      PacketEffect floats order rooms id packet rooms [message]

def NamesValid (rooms : RoomRun) : Prop :=
  ∀ id user, rooms.service.usersBySession.lookup id = some user → IsName maxUserNameBytes user.name

section Fits

theorem encode_fits {payload : Bytes} (hlength : payload.length ≤ 4092) (type : PacketType) :
    ∃ bytes, encode type payload = .ok bytes := by
  have hfits : payload.length + packetHeaderSize ≤ maxPacketSize := by
    simp only [packetHeaderSize, maxPacketSize]
    omega
  exact ⟨_, encode_ok hfits⟩

variable {result : RoomActionResult} (hname : IsName maxUserNameBytes result.actor.name)

include hname

theorem answers_ok (id : SessionId) (type : PacketType) {event : Bytes}
    (hevent : SmallValue event) :
    ∃ message, Answers id type event result message := by
  obtain ⟨payload, hpayload, hlength⟩ := roomPayload_ok hevent hname
  obtain ⟨message, hmake⟩ := make_ok id type hlength
  exact ⟨message, payload, hpayload, hmake⟩

theorem notifies_room (skipped : Option SessionId) {event : Bytes} (hevent : SmallValue event) :
    ∃ messages, Notifies skipped (roomPayload true event result) result messages := by
  obtain ⟨payload, hpayload, hlength⟩ := roomPayload_ok hevent hname
  obtain ⟨bytes, hencode⟩ := encode_fits hlength .roomBroadcast
  exact ⟨_, payload, bytes, hpayload, hencode, rfl⟩

end Fits

theorem run_notify (around : Surroundings Store) (turn : Turn Store)
    {skipped : Option SessionId} {payload : Except ProtocolError Bytes} {result : RoomActionResult}
    (hnotifies : Notifies skipped payload result messages) :
    runHandler around (do
        let payload ← lift payload
        broadcast skipped payload result.recipients) turn =
      (.ok (), { turn with
        emitted := turn.emitted ++ transmit around.accepts turn.emitted.length messages }) := by
  obtain ⟨_, _, rfl, hencode, rfl⟩ := hnotifies
  rw [run_bind, run_lift_ok]
  exact run_broadcast around skipped hencode result.recipients turn

theorem run_announce (around : Surroundings Store) {turn : Turn Store}
    (hturn : turn.emitted = []) {id : SessionId} {type : PacketType}
    {answer notice : Bytes} {result : RoomActionResult} (hok : result.ok = true)
    (hanswer : Answers id type answer result message) {told : List OutboundMessage}
    (htold : Notifies (some id) (roomPayload true notice result) result told) :
    runHandler around (announce id type answer notice result) turn =
      (.ok (), { turn with
        emitted := transmit around.accepts 0 (message :: told) }) := by
  obtain ⟨_, hpayload, hmake⟩ := hanswer
  unfold announce
  rw [hok, Bool.not_true, if_neg Bool.false_ne_true, run_bind, hpayload, run_lift_ok]
  simp only
  rw [run_bind, hmake, run_lift_ok]
  simp only
  rw [run_bind, run_emit, hturn, transmit]
  cases haccepted : around.accepts 0 message with
  | false => simp
  | true =>
    have hnotify := run_notify around { turn with emitted := [(message, true)] } htold
    simp only [nil_append, if_true]
    exact hnotify

/-! ## The packet handlers -/

/-- How a packet handler ends: it returns, or a decoder throws before anything
was touched. -/
inductive Handled (floats : FloatText) (around : Surroundings Store)
    (state : RouterState Store) (id : SessionId) (packet : Packet) :
    Except HandlerException Unit × Turn Store → Prop
  | returned {after : RoomRun} {messages : List OutboundMessage}
      (heffect : PacketEffect floats around.order state.rooms id packet after messages) :
      Handled floats around state id packet
        (.ok (), { state := { state with rooms := after }
                   emitted := transmit around.accepts 0 messages })
  | threw {failure : ProtocolError} (hundecodable : Undecodable packet failure) :
      Handled floats around state id packet (.error (.protocolError failure), { state := state })

section Handlers

variable {floats : FloatText} {around : Surroundings Store} {state : RouterState Store}
  {id : SessionId} {packet : Packet}

theorem handled_single {after : RoomRun}
    (heffect : PacketEffect floats around.order state.rooms id packet after [message]) :
    Handled floats around state id packet
      (.ok (), { state := { state with rooms := after }
                 emitted := [(message, around.accepts 0 message)] }) := by
  rw [← transmit_singleton]
  exact .returned heffect

theorem handled_malformed {text : String} (hlength : text.length ≤ 4092)
    (hrequested : requested packet = none) (hping : ¬ (packet.type = .ping ∧ packet.payload = [])) :
    Handled floats around state id packet
      (runHandler around (reject id text) { state := state }) := by
  obtain ⟨_, herror, _⟩ := error_ok id hlength
  rw [run_reject around _ herror]
  exact handled_single (.malformed hrequested hping herror)

theorem handled_refused {action : RoomAction} (hrequested : requested packet = some action)
    (hrefused : (state.rooms.act around.order id action).1.ok = false) :
    Handled floats around state id packet
      (runHandler around
        (reject id (state.rooms.act around.order id action).1.error)
        { state := { state with
            rooms := (state.rooms.act around.order id action).2 } }) := by
  have hshort : ∀ text ∈ roomErrors, text.length ≤ 4092 := by decide
  have hlength : (state.rooms.act around.order id action).1.error.length ≤ 4092 :=
    hshort _ (RoomService.error_act_mem _ _ _ action)
  obtain ⟨_, herror, _⟩ := error_ok id hlength
  rw [run_reject around _ herror]
  exact handled_single (.refused hrequested hrefused herror)

theorem handled_act {action : RoomAction} {rest : RoomActionResult → Handler Unit}
    (hnames : NamesValid state.rooms) (hrequested : requested packet = some action)
    (hreject : ∀ result, result.ok = false → rest result = reject id result.error)
    (hserved : ∀ result, result = (state.rooms.act around.order id action).1 →
      result.ok = true → IsName maxUserNameBytes result.actor.name →
      ∃ messages, Said floats id packet.payload result action messages ∧
        ∀ turn : Turn Store, turn.emitted = [] → runHandler around (rest result) turn =
          (.ok (), { turn with emitted := transmit around.accepts 0 messages })) :
    Handled floats around state id packet
      (runHandler around (act id action >>= rest) { state := state }) := by
  rw [run_bind, run_act]
  cases hok : (state.rooms.act around.order id action).1.ok with
  | false =>
    simp only [hreject _ hok]
    exact handled_refused hrequested hok
  | true =>
    obtain ⟨messages, hsaid, hrun⟩ :=
      hserved _ rfl hok (hnames id _ (RoomRun.act_actor hok))
    have heffect : PacketEffect floats around.order state.rooms id packet
        (state.rooms.act around.order id action).2 messages :=
      .served hrequested hok hsaid
    have hreturned := hrun { state := { state with
      rooms := (state.rooms.act around.order id action).2 } } rfl
    simp only [hreturned]
    exact .returned heffect

variable (hnames : NamesValid state.rooms)

include hnames

theorem handled_createRoom (htype : packet.type = .createRoomReq) :
    Handled floats around state id packet
      (runHandler around (handleCreateRoom id packet.payload) { state := state }) := by
  have hping : ¬ (packet.type = .ping ∧ packet.payload = []) := by
    rw [htype]
    exact fun hping => absurd hping.1 (by decide)
  have hrequested := requested_createRoom htype
  unfold handleCreateRoom
  cases hroomName : normalizeRoomName packet.payload with
  | none =>
    rw [hroomName] at hrequested
    exact handled_malformed (by decide) hrequested hping
  | some =>
    rw [hroomName] at hrequested
    apply handled_act hnames hrequested
    · intro result hok
      simp [hok]
    · intro _ _ hok hname
      have hevent : SmallValue (ascii "CREATE_ROOM") :=
        smallValue_ascii (by decide) (by decide)
      obtain ⟨answer, hanswer⟩ := answers_ok hname id .createRoomRes hevent
      refine ⟨[answer], .created hanswer, ?_⟩
      obtain ⟨_, hpayload, hmake⟩ := hanswer
      intro _ hturn
      simp only [hok, Bool.not_true, Bool.false_eq_true, if_false, hpayload, hmake, run_bind,
        run_lift_ok, run_emit, run_pure, hturn, nil_append, length_nil,
        transmit_singleton]

theorem handled_joinRoom (htype : packet.type = .joinRoomReq) :
    Handled floats around state id packet
      (runHandler around (handleJoinRoom id packet.payload) { state := state }) := by
  have hrequested := requested_joinRoom htype
  unfold handleJoinRoom
  rw [run_bind]
  cases hparse : parseRoomId packet.payload with
  | error => exact .threw (.inl ⟨htype, hparse⟩)
  | ok =>
    rw [hparse] at hrequested
    apply handled_act hnames hrequested
    · intro result hok
      simp [announce, hok]
    · intro _ _ hok hname
      have hevent : SmallValue (ascii "JOIN_ROOM") :=
        smallValue_ascii (by decide) (by decide)
      have hnotice : SmallValue (ascii "JOIN") :=
        smallValue_ascii (by decide) (by decide)
      obtain ⟨answer, hanswer⟩ := answers_ok hname id .joinRoomRes hevent
      obtain ⟨told, htold⟩ := notifies_room hname (some id) hnotice
      refine ⟨answer :: told, .joined hanswer htold, ?_⟩
      intro _ hturn
      exact run_announce around hturn hok hanswer htold

theorem handled_leaveRoom (htype : packet.type = .leaveRoomReq) :
    Handled floats around state id packet
      (runHandler around (handleLeaveRoom id packet.payload) { state := state }) := by
  have hrequested := requested_leaveRoom htype
  have hping : ¬ (packet.type = .ping ∧ packet.payload = []) := by
    rw [htype]
    exact fun hping => absurd hping.1 (by decide)
  unfold handleLeaveRoom
  cases hempty : packet.payload.isEmpty with
  | false =>
    rw [hempty] at hrequested
    exact handled_malformed (by decide) hrequested hping
  | true =>
    rw [hempty, if_pos rfl] at hrequested
    rw [Bool.not_true, if_neg Bool.false_ne_true]
    apply handled_act hnames hrequested
    · intro result hok
      simp [announce, hok]
    · intro _ _ hok hname
      have hevent : SmallValue (ascii "LEAVE_ROOM") :=
        smallValue_ascii (by decide) (by decide)
      have hnotice : SmallValue (ascii "LEAVE") :=
        smallValue_ascii (by decide) (by decide)
      obtain ⟨answer, hanswer⟩ := answers_ok hname id .leaveRoomRes hevent
      obtain ⟨told, htold⟩ := notifies_room hname (some id) hnotice
      refine ⟨answer :: told, .left hanswer htold, ?_⟩
      intro _ hturn
      exact run_announce around hturn hok hanswer htold

theorem handled_chat (htype : packet.type = .chatReq) :
    Handled floats around state id packet
      (runHandler around (handleChat id packet.payload) { state := state }) := by
  have hrequested := requested_chat htype
  have hping : ¬ (packet.type = .ping ∧ packet.payload = []) := by
    rw [htype]
    exact fun hping => absurd hping.1 (by decide)
  unfold handleChat
  by_cases hlong : packet.payload.length > maxChatMessageBytes
  · rw [if_neg fun hboth => absurd hboth.1 (not_le.mpr hlong)] at hrequested
    rw [if_pos hlong]
    exact handled_malformed (by decide) hrequested hping
  · rw [if_neg hlong]
    cases hvalid : isValidText packet.payload with
    | false =>
      rw [if_neg fun hboth => by simp [hvalid] at hboth] at hrequested
      exact handled_malformed (by decide) hrequested hping
    | true =>
      rw [if_pos ⟨not_lt.mp hlong, hvalid⟩] at hrequested
      rw [Bool.not_true, if_neg Bool.false_ne_true]
      apply handled_act hnames hrequested
      · intro result hok
        simp [hok]
      · intro result _ hok hname
        obtain ⟨payload, hpayload, hlength⟩ :=
          chatPayload_ok hname hvalid (not_lt.mp hlong)
        obtain ⟨bytes, hencode⟩ := encode_fits (hlength.trans (by decide)) .roomBroadcast
        have htold : Notifies none (chatPayload result packet.payload) result
            (notices none bytes result.recipients) :=
          ⟨payload, bytes, hpayload, hencode, rfl⟩
        refine ⟨_, .chatted htold, ?_⟩
        intro turn hturn
        have hnotify := run_notify around turn htold
        simp only [hok, Bool.not_true, Bool.false_eq_true, if_false, hnotify, hturn,
          nil_append, length_nil]

theorem handled_position (htype : packet.type = .positionUpdate) :
    Handled floats around state id packet
      (runHandler around (handlePosition floats id packet.payload) { state := state }) := by
  have hrequested := requested_position htype
  unfold handlePosition
  rw [run_bind]
  cases hdecode : decodePosition packet.payload with
  | error => exact .threw (.inr ⟨htype, hdecode⟩)
  | ok position =>
    rw [hdecode] at hrequested
    apply handled_act hnames hrequested
    · intro result hok
      simp [hok]
    · intro result _ hok hname
      obtain ⟨payload, hpayload, hlength⟩ := positionPayload_ok floats position hname
      obtain ⟨bytes, hencode⟩ := encode_fits hlength .roomBroadcast
      have htold : Notifies none (positionPayload floats result position) result
          (notices none bytes result.recipients) :=
        ⟨payload, bytes, hpayload, hencode, rfl⟩
      refine ⟨_, .moved htold, ?_⟩
      intro turn hturn
      have hnotify := run_notify around turn htold
      simp only [hok, Bool.not_true, Bool.false_eq_true, if_false, hnotify, hturn,
        nil_append, length_nil]

omit hnames in
theorem handled_ping (htype : packet.type = .ping) :
    Handled floats around state id packet
      (runHandler around (handlePing id packet.payload) { state := state }) := by
  have hrequested := requested_ping htype
  unfold handlePing
  cases hempty : packet.payload with
  | nil =>
    have hlength : (ascii "PONG").length ≤ 4092 := by
      rw [ascii_length]
      decide
    obtain ⟨_, hmake⟩ := make_ok id .pong hlength
    simp only [isEmpty_nil, Bool.not_true, Bool.false_eq_true, if_false, hmake, run_bind,
      run_lift_ok, run_emit, run_pure]
    exact handled_single (.ponged htype hempty hmake)
  | cons =>
    apply handled_malformed (by decide) hrequested
    rintro ⟨_, hnil⟩
    simp [hempty] at hnil

/-- The inversion of `handlePacket` for all packets but logins. -/
theorem handled_handlePacket (hlogin : packet.type ≠ .loginReq) :
    Handled floats around state id packet
      (runHandler around (handlePacket floats id packet) { state := state }) := by
  unfold handlePacket
  rw [if_neg hlogin]
  split
  next hcreate => exact handled_createRoom hnames hcreate
  next hcreate =>
    split
    next hjoin => exact handled_joinRoom hnames hjoin
    next hjoin =>
      split
      next hleave => exact handled_leaveRoom hnames hleave
      next hleave =>
        split
        next hchat => exact handled_chat hnames hchat
        next hchat =>
          split
          next hposition => exact handled_position hnames hposition
          next hposition =>
            split
            next hping => exact handled_ping hping
            next hping =>
              apply handled_malformed (by decide)
              · simp [requested, hcreate, hjoin, hleave, hchat, hposition]
              · exact fun hpong => hping hpong.1

theorem packetEffect_serve (around : Surroundings Store) {event : SessionEvent}
    (hlogin : event.packet.type ≠ .loginReq) :
    ∃ after messages, PacketEffect floats around.order state.rooms event.sessionId
        event.packet after messages ∧
      (runHandler around (serve floats event) { state := state }) =
        (.ok (), { state := { state with rooms := after }
                   emitted := transmit around.accepts 0 messages }) := by
  have hhandled : Handled floats around state event.sessionId event.packet
      (runHandler around (handlePacket floats event.sessionId event.packet) { state := state }) :=
    handled_handlePacket hnames hlogin
  unfold serve
  rw [run_tryCatch]
  generalize runHandler around (handlePacket floats event.sessionId event.packet)
    { state := state } = outcome at hhandled
  cases hhandled with
  | returned heffect => exact ⟨_, _, heffect, rfl⟩
  | @threw failure hundecodable =>
    have hlength : (HandlerException.protocolError failure).what.length ≤ 4092 :=
      hundecodable.length_le
    obtain ⟨message, herror, _⟩ := error_ok event.sessionId hlength
    refine ⟨state.rooms, [message], .malformed hundecodable.requested_eq_none ?_ herror, ?_⟩
    · rintro ⟨hping, _⟩
      rcases hundecodable with ⟨htype, _⟩ | ⟨htype, _⟩
      · exact absurd (htype.symm.trans hping) (by decide)
      · exact absurd (htype.symm.trans hping) (by decide)
    · simp only
      rw [run_reject around _ herror]
      rw [transmit_singleton]
      rfl

end Handlers

end SessionServer.MessageRouter
