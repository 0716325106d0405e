import SessionServer.MessageRouterHistory

/-!
# Everything the router builds can be sent

As long as the users have valid names no builder and no encoder throws while an
event is handled or a callback is called.  The limit for chat messages is the
largest one for which this is so.
-/

namespace SessionServer.MessageRouter

open Protocol RouterState List

variable {Store : Type}
variable {id : SessionId}

/-! ## Negotiation -/

/-- The answer to a version request fails only with the request. -/
theorem selectVersion_ok (id : SessionId) (versions : Versions) {payload : Bytes}
    {selected : Option UInt16}
    (hselected : (decodeVersionRequest payload >>= negotiateVersion) = .ok selected) :
    ∃ response, (selectVersion id versions payload).1 = .ok response := by
  cases hdecode : decodeVersionRequest payload with
  | error => simp [hdecode, bind, Except.bind] at hselected
  | ok range =>
    have hvalid := validateRange_of_decode hdecode
    unfold selectVersion
    rw [hdecode]
    by_cases hdisjoint : max range.minVersion minProtocolVersion > agreedVersion range
    · have hlength : "unsupported protocol version".length ≤ 4092 := by decide
      obtain ⟨message, herror, _⟩ := error_ok id hlength
      simp only [bind, Except.bind, negotiateVersion_disjoint hvalid hdisjoint]
      exact ⟨message, herror⟩
    · have hversion := agreedVersion_ne_zero ((agreed_iff range).mp hdisjoint)
      obtain ⟨response, hresponse, _⟩ := versionResponse_ok id hversion
      simp only [bind, Except.bind, negotiateVersion_common hvalid hdisjoint]
      exact ⟨response, hresponse⟩

/-! ## Chat messages -/

/-- With this limit on the message, every chat broadcast fits into a packet. -/
def ChatFits (limit : ℕ) : Prop :=
  ∀ result message, IsName maxUserNameBytes result.actor.name → isValidText message = true →
    message.length ≤ limit →
    ∃ payload bytes, chatPayload result message = .ok payload ∧
      PacketCodec.encode .roomBroadcast payload = .ok bytes ∧ bytes.length ≤ maxPacketSize

theorem length_encode {type : PacketType} {payload bytes : Bytes}
    (hencode : PacketCodec.encode type payload = .ok bytes) :
    bytes.length = payload.length + packetHeaderSize := by
  unfold PacketCodec.encode at hencode
  simp only at hencode
  split at hencode
  next => simp at hencode
  next =>
    cases hencode
    simp [writeU16, packetHeaderSize]

theorem chatFits_limit : ChatFits maxChatMessageBytes := by
  intro _ _ hname hvalid hlength
  obtain ⟨payload, hpayload, hshort⟩ := chatPayload_ok hname hvalid hlength
  obtain ⟨bytes, hencode⟩ := encode_fits (hshort.trans (by decide)) .roomBroadcast
  refine ⟨payload, bytes, hpayload, hencode, ?_⟩
  rw [length_encode hencode]
  simp only [packetHeaderSize, maxPacketSize]
  omega

/-- The longest fields around a chat message: the highest room and session, and
a name of 32 characters that are all escaped. -/
def widestResult : RoomActionResult where
  ok := true
  roomId := 4294967295
  actor := { sessionId := 18446744073709551615, name := replicate 32 percent }

theorem isValidText_percents (count : ℕ) : isValidText (replicate count percent) = true := by
  apply isValidText_of_printable
  intro _ hbyte
  rw [eq_of_mem_replicate hbyte]
  rfl

theorem escape_percents_length (count : ℕ) :
    ((replicate count percent).flatMap escapeCharacter).length = 3 * count := by
  have hthree : (escapeCharacter percent).length = 3 := by decide +kernel
  rw [length_flatMap, map_replicate, sum_replicate, hthree, smul_eq_mul, Nat.mul_comm]

theorem isName_widestResult : IsName maxUserNameBytes widestResult.actor.name := by
  refine ⟨by decide, ?_, isValidText_percents 32⟩
  simp [widestResult, maxUserNameBytes]

/-- One byte more, and the widest message does not fit. -/
theorem not_chatFits {limit : ℕ} (hlimit : maxChatMessageBytes < limit) : ¬ ChatFits limit := by
  intro hfits
  have hvalid := isValidText_percents 1292
  obtain ⟨_, _, hpayload, hencode, hlength⟩ := hfits widestResult
    (replicate 1292 percent) isName_widestResult hvalid
    (by rw [length_replicate]; exact hlimit)
  obtain ⟨_, hmeasured, hexact⟩ :=
    chatPayload_length isName_widestResult.valid hvalid
  rw [hpayload, Except.ok.injEq] at hmeasured
  have hroom : (decimal widestResult.roomId.toNat).length = 10 := by decide +kernel
  have hsession : (decimal widestResult.actor.sessionId.toNat).length = 20 := by
    decide +kernel
  have hname : (widestResult.actor.name.flatMap escapeCharacter).length = 96 :=
    escape_percents_length 32
  rw [← hmeasured, hroom, hsession, hname, escape_percents_length] at hexact
  rw [length_encode hencode, hexact] at hlength
  simp [packetHeaderSize, maxPacketSize] at hlength

/-! ## Events and callbacks -/

/-- What is built while an event is handled can be built and encoded: no
exception leaves the router, the ones that it turns into errors are those of the
decoders, and only a repository that throws makes a login fail. -/
structure Encodes (floats : FloatText) (around : Surroundings Store)
    (state : RouterState Store) (event : SessionEvent) : Prop where
  returns : (runHandler around (handle floats event) { state := state }).1 = .ok ()
  negotiates : ∃ handled, (runHandler around
    (handleNegotiation event.sessionId event.packet) { state := state }).1 = .ok handled
  selects : ∀ selected,
    (decodeVersionRequest event.packet.payload >>= negotiateVersion) = .ok selected →
    ∃ response, (selectVersion event.sessionId state.versions event.packet.payload).1 = .ok response
  throws : ∀ exception, (runHandler around
      (handlePacket floats event.sessionId event.packet) { state := state }).1 = .error exception →
    ∃ failure, exception = .protocolError failure ∧ Undecodable event.packet failure
  completes : ∀ completion ∈ (handleEvent floats around state event).completions,
    completion.failed = true →
    ∃ name, normalizeLoginName event.packet.payload = some name ∧
      (around.repository state.store ⟨name.normalized, name.display⟩).1 = .threw

theorem lookup_attachUser {rooms : RoomRun} {record : UserRecord}
    (hfree : rooms.service.usersBySession.lookup id = none) :
    (rooms.attachUser id record).2.service.usersBySession.lookup id =
      some (attachedUser id record) := by
  simp [RoomRun.attachUser, RoomService.attachUser, hfree, attachedUser]

/-- The event of a login fails only for a name that is not valid. -/
theorem LoginEffect.not_failed {rooms after : RoomRun}
    {result : UserResult} {completion : DeferredCompletionPayload}
    (heffect : LoginEffect rooms id result after completion)
    (hnames : NamesValid after) : completion.failed = false := by
  cases heffect with
  | unknown | refused | attached => rfl
  | unsendable _ hfree hname =>
    exact absurd (hnames id _ (lookup_attachUser hfree)) hname

section Events

variable (floats : FloatText) (around : Surroundings Store) {state : RouterState Store}
  (hnames : NamesValid state.rooms)

include hnames

/-- Only a decoder throws. -/
theorem run_handlePacket_throws {packet : Packet} {exception : HandlerException}
    (hthrew : (runHandler around (handlePacket floats id packet)
      { state := state }).1 = .error exception) :
    ∃ failure, exception = .protocolError failure ∧ Undecodable packet failure := by
  by_cases hlogin : packet.type = .loginReq
  · obtain ⟨after, _, hrun⟩ : ∃ after, Settled id state.rooms after ∧ _ = (Except.ok (), after) :=
      settled_handleLogin around state packet.payload
    unfold handlePacket at hthrew
    rw [if_pos hlogin, hrun] at hthrew
    simp at hthrew
  · have hhandled : Handled floats around state id packet
        (runHandler around (handlePacket floats id packet) { state := state }) :=
      handled_handlePacket hnames hlogin
    generalize runHandler around (handlePacket floats id packet) { state := state } = outcome at *
    cases hhandled with
    | returned => simp at hthrew
    | @threw failure hundecodable =>
      cases hthrew
      exact ⟨failure, rfl, hundecodable⟩

theorem encodes_event {event : SessionEvent}
    (hafter : NamesValid (handleEvent floats around state event).state.rooms) :
    Encodes floats around state event where
  returns := by
    obtain ⟨turn, _, hrun⟩ := run_handle floats around hnames event
    rw [hrun]
  negotiates := by
    rcases run_handleNegotiation_cases around state event.sessionId event.packet with
      ⟨_, hrun⟩ | ⟨versions, emitted, _, hrun⟩
    · exact ⟨false, by rw [hrun]⟩
    · exact ⟨true, by rw [hrun]⟩
  selects selected hselected := selectVersion_ok event.sessionId state.versions hselected
  throws exception hthrew := run_handlePacket_throws floats around hnames hthrew
  completes := by
    have heffect := eventEffect_handleEvent floats around hnames event
    intro _ hcompletion hfailed
    generalize handleEvent floats around state event = turn at *
    cases heffect with
    | parted | dismissed | handled | unnamed | kept => simp [asked] at hcompletion
    | threw _ _ hname hthrew => exact ⟨_, hname, hthrew⟩
    | called _ _ _ _ heffect =>
      rw [mem_singleton.mp hcompletion, heffect.not_failed hafter] at hfailed
      simp at hfailed

end Events

/-- No builder and no encoder throws while an event is handled or a callback is
called, whatever is in the packet, as long as the users have valid names before
and after.  Every chat message within the limit fits, and no higher limit has
this property. -/
theorem everything_encodes (floats : FloatText) :
    (∀ (store : Store) (history : List (Operation Store)),
      NamesValid (after floats store history).rooms →
      (∀ event around,
        NamesValid (handleEvent floats around (after floats store history) event).state.rooms →
        Encodes floats around (after floats store history) event) ∧
      ∀ callback result around,
        NamesValid (callBack around (after floats store history) callback result).state.rooms →
        ∃ message, (callBack around (after floats store history) callback
          result).completions = [⟨false, [message]⟩]) ∧
    ChatFits maxChatMessageBytes ∧
    ∀ limit, maxChatMessageBytes < limit → ¬ ChatFits limit := by
  refine ⟨?_, chatFits_limit, fun limit => not_chatFits⟩
  intro store history hnames
  constructor
  · intro _ around hafter
    exact encodes_event floats around hnames hafter
  · intro callback result around hafter
    have hfirst : ({ state := after floats store history } : Turn Store).completions = [] := rfl
    obtain ⟨_, _, heffect, hrun⟩ :=
      run_invoke around callback result hfirst
    unfold callBack at hafter ⊢
    rw [hrun] at hafter ⊢
    cases heffect with
    | unknown | refused | attached => exact ⟨_, rfl⟩
    | unsendable _ hfree hname =>
      exact absurd (hafter callback.sessionId _ (lookup_attachUser hfree)) hname

theorem everything_encodes_join :
    Encodes default memorySurroundings (after default {} loggedInHistory) joinRequest := by
  have hsane := sane_after default InMemoryUserRepository.namesValid_empty trusted_loggedIn
  have htrusted : memorySurroundings.Trusted InMemoryUserRepository.NamesValid :=
    trusted_inMemory rfl
  have hafter := sane_handleEvent default htrusted hsane joinRequest
  have hstate := (@everything_encodes InMemoryUserRepository default).1 {} loggedInHistory
    hsane.names_valid
  exact hstate.1 joinRequest memorySurroundings hafter.names_valid

end SessionServer.MessageRouter
