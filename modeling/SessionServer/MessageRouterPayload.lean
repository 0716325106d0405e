import SessionServer.MessageRouterModel
import SessionServer.StructuredPayloadLoop

/-!
# The payloads the router builds

Users have names of at most 32 bytes of valid text, so what the router says
about them fits into a packet and no builder throws.
-/

namespace SessionServer.MessageRouter

open Protocol PacketCodec StructuredPayloadBuilder List

variable {result : RoomActionResult}

@[simp] theorem ascii_length (text : String) : (ascii text).length = text.length := by
  simp [ascii, String.length_toList]

/-! ## Messages -/

/-- An ERROR packet for the session. -/
def IsError (sessionId : SessionId) (message : OutboundMessage) : Prop :=
  message.sessionId = sessionId ∧ typeOf message.bytes = some .error

theorem make_eq_ok {sessionId : SessionId} {type : PacketType} {payload : Bytes}
    {message : OutboundMessage} (hmake : make sessionId type payload = .ok message) :
    message.sessionId = sessionId ∧ message.kind = .sendBytes ∧
      typeOf message.bytes = some type := by
  unfold make at hmake
  cases hencode : encode type payload with
  | error => simp [hencode, bind, Except.bind] at hmake
  | ok =>
    simp only [hencode, bind, Except.bind, pure, Except.pure, Except.ok.injEq] at hmake
    rw [← hmake]
    exact ⟨rfl, rfl, typeOf_encode hencode⟩

theorem make_ok {payload : Bytes} (sessionId : SessionId) (type : PacketType)
    (hlength : payload.length ≤ 4092) : ∃ message, make sessionId type payload = .ok message := by
  unfold make
  rw [encode_ok (by simp only [packetHeaderSize, maxPacketSize]; omega)]
  exact ⟨_, rfl⟩

theorem error_ok (sessionId : SessionId) {text : String} (hlength : text.length ≤ 4092) :
    ∃ message, error sessionId text = .ok message ∧ IsError sessionId message ∧
      message.kind = .sendBytes := by
  have hshort : (ascii text).length ≤ 4092 := by rwa [ascii_length]
  obtain ⟨message, hmake⟩ := make_ok sessionId .error hshort
  have hmessage := make_eq_ok hmake
  exact ⟨message, hmake, ⟨hmessage.1, hmessage.2.2⟩, hmessage.2.1⟩

/-! ## Users -/

theorem normalizeLoginName_eq_some_iff (input : Bytes) (name : NormalizedLoginName) :
    normalizeLoginName input = some name ↔
      IsName maxUserNameBytes (trimAsciiWhitespace input) ∧
        name = ⟨(trimAsciiWhitespace input).map toLower, trimAsciiWhitespace input⟩ := by
  unfold normalizeLoginName
  dsimp only
  split
  next hrefused => simp [(refused_iff _ _).mp hrefused]
  next haccepted => simp [not_not.mp (mt (refused_iff _ _).mpr haccepted), eq_comm]

theorem decimal_valid (number : ℕ) : isValidText (decimal number) = true :=
  isValidText_of_printable decimal_printable

/-- A value that stays small when it is escaped. -/
def SmallValue (value : Bytes) : Prop :=
  isValidText value = true ∧ value.length ≤ 36

theorem smallValue_of_printable {value : Bytes}
    (hprintable : ∀ byte ∈ value, isPrintable byte = true) (hlength : value.length ≤ 36) :
    SmallValue value :=
  ⟨isValidText_of_printable hprintable, hlength⟩

theorem smallValue_ascii {text : String} (hall : (ascii text).all isPrintable = true)
    (hlength : text.length ≤ 36) : SmallValue (ascii text) := by
  apply smallValue_of_printable
  · exact fun byte hbyte => all_eq_true.mp hall byte hbyte
  · rwa [ascii_length]

theorem smallValue_roomId (roomId : RoomId) : SmallValue (decimal roomId.toNat) := by
  apply smallValue_of_printable decimal_printable
  have hlt := roomId.toNat_lt
  have hlength : (decimal roomId.toNat).length ≤ 10 :=
    decimal_length_le (by omega) (by omega)
  omega

theorem smallValue_sessionId (sessionId : SessionId) : SmallValue (decimal sessionId.toNat) := by
  apply smallValue_of_printable decimal_printable
  have hlt := sessionId.toNat_lt
  have hlength : (decimal sessionId.toNat).length ≤ 20 :=
    decimal_length_le (by omega) (by omega)
  omega

theorem smallValue_userId (id : UserId) : SmallValue id.toText :=
  smallValue_of_printable id.toText_printable id.toText_length.le

theorem smallValue_name {name : Bytes} (hname : IsName maxUserNameBytes name) : SmallValue name :=
  ⟨hname.valid, hname.le.trans (by decide)⟩

theorem smallValue_float (floats : FloatText) (bits : UInt32) : SmallValue (floats.text bits) := by
  apply smallValue_of_printable (floats.printable bits)
  have hlength := floats.length_le bits
  omega

/-! ## Building -/

/-- The keys the router uses, in the order in which it uses them. -/
def routerKeys : List Bytes :=
  [ ascii "event", ascii "room_id", ascii "user_id", ascii "session_id", ascii "name",
    ascii "x", ascii "y", ascii "version" ]

theorem routerKeys_valid : ∀ key ∈ routerKeys, isValidKey key = true ∧ key.length ≤ 16 := by
  decide

theorem routerKeys_nodup : routerKeys.Nodup := by
  decide

/-- Small values under some of the router's keys fit into a packet. -/
theorem build_small {builder : StructuredPayloadBuilder} {fields : List StructuredField}
    (hempty : builder.fields = []) (hnonempty : fields ≠ [])
    (hkeys : (fields.map Prod.fst).Sublist routerKeys)
    (hvalues : ∀ field ∈ fields, SmallValue field.2) :
    ∃ payload, (builder.addFields fields >>= build) = .ok payload ∧ payload.length ≤ 4092 := by
  have hkey (field : StructuredField) (hfield : field ∈ fields) :
      isValidKey field.1 = true ∧ field.1.length ≤ 16 :=
    routerKeys_valid field.1 (hkeys.subset (mem_map_of_mem hfield))
  have hfresh : (builder.fields.map Prod.fst ++ fields.map Prod.fst).Nodup := by
    rw [hempty, map_nil, nil_append]
    exact routerKeys_nodup.sublist hkeys
  have hcount : fields.length ≤ 8 := by
    have hlength := hkeys.length_le
    rwa [length_map] at hlength
  obtain ⟨next, hadd, hfields, _⟩ := addFields_ok
    (fun field hfield => (hkey field hfield).1) hfresh
    (fun field hfield => (hvalues field hfield).1)
  rw [hempty, nil_append] at hfields
  obtain ⟨payload, hbuild, hlength⟩ := next.build_ok (by rwa [hfields])
  refine ⟨payload, ?_, ?_⟩
  · rw [hadd]
    exact hbuild
  · have hstatusLength : (next.status.getD []).length ≤ 2 := by
      cases hnext : next.status with
      | none => simp
      | some status =>
        have hok := next.status_ok status hnext
        rw [hok, Option.getD_some, ascii_length]
        decide
    have hsum : (fields.map fieldBound).sum ≤ (fields.map fieldBound).length * 126 := by
      apply sum_le_card_nsmul
      intro bound hbound
      obtain ⟨field, hfield, rfl⟩ := mem_map.mp hbound
      have hshort := (hkey field hfield).2
      have hvalue := (hvalues field hfield).2
      simp only [fieldBound]
      omega
    rw [length_map] at hsum
    simp only [bound, hfields] at hlength
    omega

theorem withStatus_ok : ∃ builder : StructuredPayloadBuilder,
    withStatus (ascii "OK") = .ok builder ∧ builder.fields = [] := by
  unfold withStatus
  exact ⟨_, rfl, rfl⟩

/-! ## The router's payloads -/

def userFields (user : User) : List StructuredField :=
  [ (ascii "user_id", user.id.toText),
    (ascii "session_id", decimal user.sessionId.toNat),
    (ascii "name", user.name) ]

def roomFields (event : Bytes) (result : RoomActionResult) : List StructuredField :=
  (ascii "event", event) ::
    (if result.roomId ≠ 0 then [(ascii "room_id", decimal result.roomId.toNat)] else []) ++
    userFields result.actor

theorem smallValue_userFields {user : User} (hname : IsName maxUserNameBytes user.name) :
    ∀ field ∈ userFields user, SmallValue field.2 := by
  intro _ hfield
  simp only [userFields, mem_cons, not_mem_nil, or_false] at hfield
  rcases hfield with rfl | rfl | rfl
  · exact smallValue_userId user.id
  · exact smallValue_sessionId user.sessionId
  · exact smallValue_name hname

theorem roomPayload_eq (event : Bytes) (result : RoomActionResult) :
    roomPayload true event result =
      (withStatus (ascii "OK") >>= fun builder =>
        builder.addFields (roomFields event result) >>= build) := by
  by_cases hroom : result.roomId = 0 <;>
    simp [roomPayload, addUserFields, roomFields, userFields, addFields, hroom]

theorem roomPayload_ok {event : Bytes}
    (hevent : SmallValue event) (hname : IsName maxUserNameBytes result.actor.name) :
    ∃ payload, roomPayload true event result = .ok payload ∧ payload.length ≤ 4092 := by
  obtain ⟨_, hstatus, hempty⟩ := withStatus_ok
  rw [roomPayload_eq, hstatus]
  apply build_small hempty
  · simp [roomFields]
  · unfold roomFields
    split
    · change [ascii "event", ascii "room_id", ascii "user_id", ascii "session_id",
        ascii "name"].Sublist routerKeys
      decide
    · change [ascii "event", ascii "user_id", ascii "session_id", ascii "name"].Sublist routerKeys
      decide
  · intro field hfield
    simp only [roomFields, cons_append, mem_cons, mem_append] at hfield
    rcases hfield with rfl | hroom | huser
    · exact hevent
    · split at hroom
      · rw [mem_singleton.mp hroom]
        exact smallValue_roomId result.roomId
      · simp at hroom
    · exact smallValue_userFields hname field huser

theorem positionPayload_ok (floats : FloatText)
    (position : PacketCodec.Position) (hname : IsName maxUserNameBytes result.actor.name) :
    ∃ payload, positionPayload floats result position = .ok payload ∧ payload.length ≤ 4092 := by
  let fields : List StructuredField :=
    (ascii "event", ascii "POSITION") ::
      (ascii "room_id", decimal result.roomId.toNat) ::
      (userFields result.actor ++
        [(ascii "x", floats.text position.x), (ascii "y", floats.text position.y)])
  have heq : positionPayload floats result position = (addFields .empty fields >>= build) := by
    simp [positionPayload, actorFields, addUserFields, fields, userFields, addFields]
  rw [heq]
  apply build_small rfl
  · simp [fields]
  · change [ascii "event", ascii "room_id", ascii "user_id", ascii "session_id",
      ascii "name", ascii "x", ascii "y"].Sublist routerKeys
    decide
  · intro field hfield
    simp only [fields, mem_cons, mem_append, not_mem_nil, or_false] at hfield
    rcases hfield with rfl | rfl | huser | rfl | rfl
    · exact smallValue_ascii (by decide) (by decide)
    · exact smallValue_roomId result.roomId
    · exact smallValue_userFields hname field huser
    · exact smallValue_float floats position.x
    · exact smallValue_float floats position.y

theorem loginPayload_eq (user : User) :
    loginPayload user =
      (withStatus (ascii "OK") >>= fun builder =>
        builder.addFields (userFields user) >>= build) := by
  simp [loginPayload, addUserFields, userFields, addFields]

theorem loginPayload_ok {user : User} (hname : IsName maxUserNameBytes user.name) :
    ∃ payload, loginPayload user = .ok payload ∧ payload.length ≤ 4092 := by
  obtain ⟨_, hstatus, hempty⟩ := withStatus_ok
  rw [loginPayload_eq, hstatus]
  apply build_small hempty
  · simp [userFields]
  · change [ascii "user_id", ascii "session_id", ascii "name"].Sublist routerKeys
    decide
  · exact smallValue_userFields hname

/-! ## Chat messages

A chat message may fill the packet, so its payload is measured to the byte. -/

def chatFields (result : RoomActionResult) (message : Bytes) : List StructuredField :=
  (ascii "event", ascii "CHAT") ::
    (ascii "room_id", decimal result.roomId.toNat) ::
    (userFields result.actor ++ [(ascii "message", message)])

theorem chatPayload_eq (result : RoomActionResult) (message : Bytes) :
    chatPayload result message = (addFields .empty (chatFields result message) >>= build) := by
  simp [chatPayload, actorFields, addUserFields, chatFields, userFields, addFields]

theorem escape_decimal (number : ℕ) :
    (decimal number).flatMap escapeCharacter = decimal number := by
  apply flatMap_escapeCharacter_plain
  intro character hcharacter
  have hdigit := decimal_digits character hcharacter
  simp only [isDigit, Bool.and_eq_true, decide_eq_true_eq, percent, bar, equalsSign, ne_eq,
    ← UInt8.toNat_inj, UInt8.le_iff_toNat_le, UInt8.reduceToNat] at hdigit ⊢
  omega

theorem escape_userId (id : UserId) : id.toText.flatMap escapeCharacter = id.toText := by
  apply flatMap_escapeCharacter_plain
  intro character hcharacter
  have hid := id.toText_isIdCharacter character hcharacter
  simp only [isIdCharacter, isDigit, Bool.or_eq_true, Bool.and_eq_true, decide_eq_true_eq,
    beq_iff_eq, percent, bar, equalsSign, ne_eq, ← UInt8.toNat_inj, UInt8.le_iff_toNat_le,
    UInt8.reduceToNat] at hid ⊢
  omega

theorem chatFields_fieldLength (result : RoomActionResult) (message : Bytes) :
    ((chatFields result message).map fieldLength).sum =
      92 + (decimal result.roomId.toNat).length +
        (decimal result.actor.sessionId.toNat).length +
        (result.actor.name.flatMap escapeCharacter).length +
        (message.flatMap escapeCharacter).length := by
  have hchat : ((ascii "CHAT").flatMap escapeCharacter).length = 4 := by decide
  have hkeys : (ascii "event").length = 5 ∧ (ascii "room_id").length = 7 ∧
      (ascii "user_id").length = 7 ∧ (ascii "session_id").length = 10 ∧
      (ascii "name").length = 4 ∧ (ascii "message").length = 7 := by decide
  obtain ⟨hevent, hroom, huser, hsession, hname, hmessage⟩ := hkeys
  simp only [chatFields, userFields, cons_append, nil_append, map_cons,
    map_nil, sum_cons, sum_nil, fieldLength, hchat,
    hevent, hroom, huser, hsession, hname, hmessage, escape_decimal, escape_userId,
    UserId.toText_length]
  omega

theorem chatPayload_length {message : Bytes}
    (hname : isValidText result.actor.name = true) (hmessage : isValidText message = true) :
    ∃ payload, chatPayload result message = .ok payload ∧
      payload.length = 91 + (decimal result.roomId.toNat).length +
        (decimal result.actor.sessionId.toNat).length +
        (result.actor.name.flatMap escapeCharacter).length +
        (message.flatMap escapeCharacter).length := by
  have hkeys : ∀ field ∈ chatFields result message, isValidKey field.1 = true := by
    intro field hfield
    have hkey : field.1 ∈ [ascii "event", ascii "room_id", ascii "user_id",
        ascii "session_id", ascii "name", ascii "message"] :=
      mem_map_of_mem hfield
    revert hkey
    generalize field.1 = key
    revert key
    decide
  have hnodup : ((chatFields result message).map Prod.fst).Nodup := by
    change [ascii "event", ascii "room_id", ascii "user_id", ascii "session_id",
      ascii "name", ascii "message"].Nodup
    decide
  have hvalues : ∀ field ∈ chatFields result message, isValidText field.2 = true := by
    intro _ hfield
    simp only [chatFields, userFields, cons_append, nil_append, mem_cons,
      not_mem_nil, or_false] at hfield
    rcases hfield with rfl | rfl | rfl | rfl | rfl | rfl
    · decide
    · exact decimal_valid _
    · exact (smallValue_userId _).1
    · exact decimal_valid _
    · exact hname
    · exact hmessage
  have hempty : StructuredPayloadBuilder.empty.fields = [] := rfl
  obtain ⟨builder, hadd, hfields, hstatus⟩ :=
    addFields_ok hkeys (by rwa [hempty]) hvalues
  rw [hempty, nil_append] at hfields
  have hnonempty : builder.fields ≠ [] := by
    rw [hfields]
    exact cons_ne_nil _ _
  obtain ⟨payload, hbuild, hlength⟩ := builder.build_length hnonempty hstatus
  rw [hfields, chatFields_fieldLength] at hlength
  refine ⟨payload, ?_, by omega⟩
  rw [chatPayload_eq, hadd]
  exact hbuild

/-- Every chat message the router lets through fits. -/
theorem chatPayload_ok {message : Bytes}
    (hname : IsName maxUserNameBytes result.actor.name) (hmessage : isValidText message = true)
    (hlength : message.length ≤ maxChatMessageBytes) :
    ∃ payload, chatPayload result message = .ok payload ∧ payload.length ≤ 4090 := by
  obtain ⟨payload, hpayload, _⟩ := chatPayload_length hname.valid hmessage
  refine ⟨payload, hpayload, ?_⟩
  have hroom : (decimal result.roomId.toNat).length ≤ 10 := by
    have hlt := result.roomId.toNat_lt
    exact decimal_length_le (by omega) (by omega)
  have hsession : (decimal result.actor.sessionId.toNat).length ≤ 20 := by
    have hlt := result.actor.sessionId.toNat_lt
    exact decimal_length_le (by omega) (by omega)
  have hnameEscape := escape_length_le result.actor.name
  have hnameLength := hname.le
  have hmessageEscape := escape_length_le message
  simp only [maxUserNameBytes] at hnameLength
  simp only [maxChatMessageBytes] at hlength
  omega

/-! ## The version response -/

theorem encodeVersionResponse_ok {version : UInt16} (hversion : version ≠ 0) :
    ∃ payload, encodeVersionResponse version = .ok payload ∧ payload.length ≤ 4092 := by
  obtain ⟨builder, hstatus, hempty⟩ := withStatus_ok
  have heq : encodeVersionResponse version =
      (builder.addFields [(ascii "version", decimal version.toNat)] >>= build) := by
    simp only [encodeVersionResponse, hversion, if_false, hstatus,
      addFields, foldlM_cons, foldlM_nil, bind_pure]
    rfl
  rw [heq]
  apply build_small hempty
  · simp
  · change [ascii "version"].Sublist routerKeys
    decide
  · intro _ hfield
    rw [mem_singleton.mp hfield]
    apply smallValue_of_printable decimal_printable
    have hlt := version.toNat_lt
    have hlength : (decimal version.toNat).length ≤ 5 :=
      decimal_length_le (by omega) (by omega)
    omega

end SessionServer.MessageRouter
