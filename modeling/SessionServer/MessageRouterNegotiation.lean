import SessionServer.MessageRouterCalls
import SessionServer.MessageRouterPayload
import SessionServer.MessageRouterTurn

/-!
# Version negotiation

The section of `handleNegotiation` under the negotiation mutex, what the router
does with its outcome, and which calls leave the negotiated versions alone.
-/

namespace SessionServer.MessageRouter

open Protocol

variable {Store : Type}
variable {version : UInt16} {range : VersionRange} {versions : Versions} {other : SessionId}

/-! ## The section under the mutex -/

/-- The range of the request and the range of the server have a version in
common. -/
def VersionRange.Intersects (range : VersionRange) : Prop :=
  ∃ version, range.minVersion ≤ version ∧ version ≤ range.maxVersion ∧
    minProtocolVersion ≤ version ∧ version ≤ maxProtocolVersion

/-- A version request that the server can agree to. -/
def Agreeable (packet : Packet) (range : VersionRange) : Prop :=
  packet.type = .versionReq ∧ decodeVersionRequest packet.payload = .ok range ∧
    VersionRange.Intersects range

/-- The highest version of the server that the range contains. -/
def agreedVersion (range : VersionRange) : UInt16 :=
  min range.maxVersion maxProtocolVersion

def versionResponse (id : SessionId) (version : UInt16) :
    Except ProtocolError OutboundMessage :=
  encodeVersionResponse version >>= make id .versionRes

theorem versionResponse_ok (id : SessionId) (hversion : version ≠ 0) :
    ∃ response, versionResponse id version = .ok response ∧
      response.sessionId = id ∧
      PacketCodec.typeOf response.bytes = some .versionRes := by
  obtain ⟨_, hpayload, hlength⟩ := encodeVersionResponse_ok hversion
  obtain ⟨response, hresponse⟩ := make_ok id .versionRes hlength
  have hmake := make_eq_ok hresponse
  refine ⟨response, ?_, hmake.1, hmake.2.2⟩
  unfold versionResponse
  rw [hpayload]
  exact hresponse

theorem validateRange_of_decode {payload : Bytes}
    (hdecode : decodeVersionRequest payload = .ok range) :
    validateRange range = .ok () := by
  unfold decodeVersionRequest at hdecode
  simp only [bind, Except.bind, pure, Except.pure] at hdecode
  repeat' split at hdecode
  all_goals cases hdecode
  all_goals assumption

theorem negotiateVersion_disjoint (hvalid : validateRange range = .ok ())
    (hdisjoint : max range.minVersion minProtocolVersion > agreedVersion range) :
    negotiateVersion range = .ok none := by
  unfold negotiateVersion
  rw [hvalid]
  exact if_pos hdisjoint

theorem negotiateVersion_common (hvalid : validateRange range = .ok ())
    (hcommon : ¬ max range.minVersion minProtocolVersion > agreedVersion range) :
    negotiateVersion range = .ok (some (agreedVersion range)) := by
  unfold negotiateVersion
  rw [hvalid]
  exact if_neg hcommon

theorem toNat_max (first second : UInt16) :
    (max first second).toNat = max first.toNat second.toNat := by
  change (if first ≤ second then second else first).toNat = _
  split
  next hle => rw [max_eq_right (UInt16.le_iff_toNat_le.mp hle)]
  next hnot =>
    rw [UInt16.le_iff_toNat_le, not_le] at hnot
    rw [max_eq_left hnot.le]

theorem toNat_agreedVersion (range : VersionRange) :
    (agreedVersion range).toNat = min range.maxVersion.toNat maxProtocolVersion.toNat := by
  change (if range.maxVersion ≤ maxProtocolVersion then range.maxVersion
    else maxProtocolVersion).toNat = _
  split
  next hle => rw [min_eq_left (UInt16.le_iff_toNat_le.mp hle)]
  next hnot =>
    rw [UInt16.le_iff_toNat_le, not_le] at hnot
    rw [min_eq_right hnot.le]

theorem agreed_iff (range : VersionRange) :
    ¬ max range.minVersion minProtocolVersion > agreedVersion range ↔
      VersionRange.Intersects range := by
  simp only [gt_iff_lt, UInt16.lt_iff_toNat_lt, toNat_max, toNat_agreedVersion,
    VersionRange.Intersects, UInt16.le_iff_toNat_le]
  constructor
  · intro _
    refine ⟨agreedVersion range, ?_⟩
    rw [toNat_agreedVersion]
    omega
  · rintro ⟨_, _, _, _, _⟩
    omega

theorem agreedVersion_ne_zero
    (hintersects : VersionRange.Intersects range) : agreedVersion range ≠ 0 := by
  obtain ⟨_, _, _, _, _⟩ := hintersects
  have hone : minProtocolVersion.toNat = 1 := rfl
  intro hzero
  have hnat := congrArg UInt16.toNat hzero
  rw [toNat_agreedVersion] at hnat
  simp only [UInt16.le_iff_toNat_le, UInt16.toNat_zero] at *
  omega

/-- The packets that shut the gate: anything but an agreeable request while
the gate is untouched, a version request while it is open. -/
def Shuts (versions : Versions) (id : SessionId) (packet : Packet) : Prop :=
  match versions.lookup id with
  | none => ∀ range, ¬ Agreeable packet range
  | some version => version ≠ 0 ∧ packet.type = .versionReq

theorem closeNegotiation_error (id : SessionId) (versions : Versions)
    {text : String} (hlength : text.length ≤ 4092) :
    ∃ message, IsError id message ∧ message.kind = .sendBytesAndDisconnect ∧
      closeNegotiation id (versions.insert id 0) (error id text) =
        (.ok (.answered message), versions.insert id 0) := by
  obtain ⟨message, herror, hmessage, _⟩ := error_ok id hlength
  refine ⟨{ message with kind := .sendBytesAndDisconnect }, hmessage, rfl, ?_⟩
  rw [herror, closeNegotiation, Finmap.lookup_insert]
  rfl

theorem negotiateLocked_shuts {id : SessionId}
    {packet : Packet} (hshuts : Shuts versions id packet) :
    ∃ message, IsError id message ∧ message.kind = .sendBytesAndDisconnect ∧
      negotiateLocked versions id packet = (.ok (.answered message), versions.insert id 0) := by
  unfold Shuts at hshuts
  unfold negotiateLocked
  cases hlookup : versions.lookup id with
  | some =>
    simp only [hlookup] at hshuts
    simp only [hshuts.1, hshuts.2, if_false, ne_eq, not_true_eq_false]
    exact closeNegotiation_error id versions (by decide)
  | none =>
    simp only [hlookup] at hshuts
    by_cases htype : packet.type = .versionReq
    · simp only [htype, ne_eq, not_true_eq_false, if_false]
      unfold selectVersion
      cases hdecode : decodeVersionRequest packet.payload with
      | error =>
        exact closeNegotiation_error id versions (by decide)
      | ok range =>
        have hdisjoint : max range.minVersion minProtocolVersion > agreedVersion range := by
          by_contra hnot
          exact hshuts range ⟨htype, hdecode, (agreed_iff range).mp hnot⟩
        simp only [bind, Except.bind,
          negotiateVersion_disjoint (validateRange_of_decode hdecode) hdisjoint]
        have hlength : "unsupported protocol version".length ≤ 4092 := by decide
        exact closeNegotiation_error id versions hlength
    · simp only [ne_eq, htype, not_false_eq_true, if_true]
      exact closeNegotiation_error id versions (by decide)

theorem negotiateLocked_ignored {id : SessionId}
    (hlookup : versions.lookup id = some 0) (packet : Packet) :
    negotiateLocked versions id packet = (.ok .ignored, versions) := by
  simp [negotiateLocked, hlookup]

theorem negotiateLocked_passed {id : SessionId} {packet : Packet}
    (hlookup : versions.lookup id = some version) (hversion : version ≠ 0)
    (htype : packet.type ≠ .versionReq) :
    negotiateLocked versions id packet = (.ok .passed, versions) := by
  simp [negotiateLocked, hlookup, hversion, htype]

theorem negotiateLocked_agrees {id : SessionId} {packet : Packet} {response : OutboundMessage}
    (hlookup : versions.lookup id = none) (hagreeable : Agreeable packet range)
    (hresponse : versionResponse id (agreedVersion range) = .ok response) :
    negotiateLocked versions id packet =
      (.ok (.answered response), versions.insert id (agreedVersion range)) := by
  have hversion := agreedVersion_ne_zero hagreeable.2.2
  have hvalid := validateRange_of_decode hagreeable.2.1
  have hcommon := (agreed_iff range).mpr hagreeable.2.2
  have hselect : selectVersion id versions packet.payload =
      (.ok response, versions.insert id (agreedVersion range)) := by
    unfold selectVersion
    rw [hagreeable.2.1]
    simp only [bind, Except.bind, negotiateVersion_common hvalid hcommon]
    rw [← hresponse]
    rfl
  unfold negotiateLocked
  simp only [hlookup, hagreeable.1, ne_eq, not_true_eq_false, if_false, hselect]
  unfold closeNegotiation
  simp [Finmap.lookup_insert, hversion, Except.map]

/-- The gate is open and the packet is not another version request. -/
def Passes (versions : Versions) (id : SessionId) (packet : Packet) : Prop :=
  ∃ version, versions.lookup id = some version ∧ version ≠ 0 ∧ packet.type ≠ .versionReq

theorem negotiateLocked_cases (versions : Versions) (id : SessionId) (packet : Packet) :
    Passes versions id packet ∨
    negotiateLocked versions id packet = (.ok .ignored, versions) ∨
    ∃ response after, response.sessionId = id ∧
      negotiateLocked versions id packet = (.ok (.answered response), after) := by
  by_cases hshuts : Shuts versions id packet
  · obtain ⟨message, hmessage, _, hlocked⟩ := negotiateLocked_shuts hshuts
    exact .inr (.inr ⟨message, _, hmessage.1, hlocked⟩)
  · unfold Shuts at hshuts
    cases hlookup : versions.lookup id with
    | some version =>
      simp only [hlookup, not_and] at hshuts
      by_cases hversion : version = 0
      · rw [hversion] at hlookup
        exact .inr (.inl (negotiateLocked_ignored hlookup packet))
      · exact .inl ⟨version, hlookup, hversion, hshuts hversion⟩
    | none =>
      simp only [hlookup, not_forall, not_not] at hshuts
      obtain ⟨_, hagreeable⟩ := hshuts
      obtain ⟨response, hresponse, hsession, _⟩ :=
        versionResponse_ok id (agreedVersion_ne_zero hagreeable.2.2)
      exact .inr (.inr ⟨response, _, hsession, negotiateLocked_agrees hlookup hagreeable hresponse⟩)

/-! ## Handling a packet -/

section Packet

variable (around : Surroundings Store) (state : RouterState Store)
  (id : SessionId) (packet : Packet)

/-- The packet is let through to `handlePacket`. -/
def ReachesHandlePacket : Prop :=
  (runHandler around (handleNegotiation id packet) { state := state }).1 = .ok false

theorem run_negotiate (turn : Turn Store) {outcome : Negotiation}
    (hlocked : negotiateLocked turn.state.versions id packet = (.ok outcome, versions)) :
    runHandler around (negotiate id packet) turn =
      (.ok outcome, { turn with state := { turn.state with versions := versions } }) := by
  unfold negotiate
  rw [run_bind, run_call]
  simp only [respond, hlocked]
  rfl

variable {around state id packet}

theorem run_handleNegotiation_ignored (around : Surroundings Store)
    (packet : Packet) (hlookup : state.versions.lookup id = some 0) :
    runHandler around (handleNegotiation id packet) { state := state } =
      (.ok true, { state := state }) := by
  unfold handleNegotiation
  rw [run_bind, run_negotiate around id packet _ (negotiateLocked_ignored hlookup packet)]
  rfl

theorem run_handleNegotiation_passed
    (hlookup : state.versions.lookup id = some version) (hversion : version ≠ 0)
    (htype : packet.type ≠ .versionReq) :
    runHandler around (handleNegotiation id packet) { state := state } =
      (.ok false, { state := state }) := by
  unfold handleNegotiation
  rw [run_bind, run_negotiate around id packet _ (negotiateLocked_passed hlookup hversion htype)]
  rfl

/-- An answer that is accepted is the only message; one that is refused is
followed by a disconnect and leaves the gate shut. -/
theorem run_handleNegotiation_answered (around : Surroundings Store) {response : OutboundMessage}
    (hlocked : negotiateLocked state.versions id packet = (.ok (.answered response), versions)) :
    runHandler around (handleNegotiation id packet) { state := state } =
      (.ok true,
        if around.accepts 0 response then
          { state := { state with versions := versions }, emitted := [(response, true)] }
        else
          { state := { state with versions := versions.insert id 0 }
            emitted := [(response, false),
              ({ sessionId := id, bytes := [], kind := .disconnectSession },
                around.accepts 1
                  { sessionId := id, bytes := [], kind := .disconnectSession })] }) := by
  unfold handleNegotiation
  rw [run_bind, run_negotiate around id packet _ hlocked]
  simp only [run_bind, run_emit, List.length_nil, List.nil_append]
  cases haccepts : around.accepts 0 response with
  | true => simp
  | false =>
    rfl

/-- Every packet is let through or dealt with by the negotiation alone. -/
theorem run_handleNegotiation_cases (around : Surroundings Store)
    (state : RouterState Store) (id : SessionId) (packet : Packet) :
    Passes state.versions id packet ∧
      runHandler around (handleNegotiation id packet) { state := state } =
        (.ok false, { state := state }) ∨
    ∃ versions emitted, (∀ entry ∈ emitted, entry.1.sessionId = id) ∧
      runHandler around (handleNegotiation id packet) { state := state } =
        (.ok true, { state := { state with versions := versions }, emitted := emitted }) := by
  rcases negotiateLocked_cases state.versions id packet with
    hpasses | hignored | ⟨response, after, hsession, hlocked⟩
  · obtain ⟨version, hlookup, hversion, htype⟩ := hpasses
    exact .inl ⟨⟨version, hlookup, hversion, htype⟩,
      run_handleNegotiation_passed hlookup hversion htype⟩
  · right
    refine ⟨state.versions, [], by simp, ?_⟩
    unfold handleNegotiation
    rw [run_bind, run_negotiate around id packet _ hignored]
    rfl
  · right
    rw [run_handleNegotiation_answered around hlocked]
    split
    · exact ⟨after, _, by simpa using hsession, rfl⟩
    · exact ⟨_, _, by simpa using hsession, rfl⟩

variable (floats : FloatText) {event : SessionEvent}

theorem run_handle_negotiated (hkind : event.kind ≠ .disconnected) {after : Turn Store}
    (hrun : runHandler around (handleNegotiation event.sessionId event.packet)
      { state := state } = (.ok true, after)) :
    runHandler around (handle floats event) { state := state } = (.ok (), after) := by
  unfold handle
  rw [if_neg hkind, run_tryCatch, run_bind, hrun]
  rfl

theorem handleEvent_negotiated (hkind : event.kind ≠ .disconnected) {after : Turn Store}
    (hrun : runHandler around (handleNegotiation event.sessionId event.packet)
      { state := state } = (.ok true, after)) :
    handleEvent floats around state event = after := by
  unfold handleEvent
  rw [run_handle_negotiated floats hkind hrun]

/-- What is left of `handle` for a packet that is let through. -/
def serve (event : SessionEvent) : Handler Unit :=
  tryCatch (handlePacket floats event.sessionId event.packet)
    fun exception => reject event.sessionId exception.what

theorem run_handle_served (around : Surroundings Store) (hkind : event.kind ≠ .disconnected)
    (hlookup : state.versions.lookup event.sessionId = some version) (hversion : version ≠ 0)
    (htype : event.packet.type ≠ .versionReq) :
    runHandler around (handle floats event) { state := state } =
      runHandler around (serve floats event) { state := state } := by
  unfold handle serve
  rw [if_neg hkind, run_tryCatch, run_bind,
    run_handleNegotiation_passed hlookup hversion htype, run_tryCatch]
  rfl

theorem handleEvent_served (around : Surroundings Store) (hkind : event.kind ≠ .disconnected)
    (hlookup : state.versions.lookup event.sessionId = some version) (hversion : version ≠ 0)
    (htype : event.packet.type ≠ .versionReq) :
    handleEvent floats around state event =
      (runHandler around (serve floats event) { state := state }).2 := by
  unfold handleEvent
  rw [run_handle_served floats around hkind hlookup hversion htype]

end Packet

/-! ## What other calls leave alone -/

section Frame

variable (floats : FloatText) (around : Surroundings Store)

theorem respond_versions_of_serves {id : SessionId} {request : RouterCall}
    (hserves : request.Serves id) (turn : Turn Store) :
    (respond around request turn).2.state.versions = turn.state.versions := by
  cases request with
  | emit | attachUser | act | findOrCreateByNormalizedName => rfl
  | defer | complete =>
    simp only [respond]
    split <;> rfl
  | eraseVersion | negotiate | clearVersion =>
    simp [RouterCall.Serves, RouterCall.negotiates] at hserves

theorem negotiateLocked_lookup_ne (versions : Versions) {id : SessionId}
    (hother : other ≠ id) (packet : Packet) :
    (negotiateLocked versions id packet).2.lookup other = versions.lookup other := by
  have hinsert (version : UInt16) :
      (versions.insert id version).lookup other = versions.lookup other :=
    Finmap.lookup_insert_of_ne _ hother
  have hselect :
      (selectVersion id versions packet.payload).2.lookup other = versions.lookup other := by
    unfold selectVersion
    split
    · exact hinsert 0
    · exact hinsert 0
    · exact hinsert _
  unfold negotiateLocked
  split
  · split
    · rfl
    · split
      · rfl
      · exact hinsert 0
  · split
    · exact hinsert 0
    · rcases hcase : selectVersion id versions packet.payload with ⟨response, _⟩
      rw [hcase] at hselect
      cases response <;> exact hselect

theorem respond_lookup_of_ownedBy {id : SessionId} {request : RouterCall}
    (howned : request.OwnedBy id) (hother : other ≠ id) (turn : Turn Store) :
    (respond around request turn).2.state.versions.lookup other =
      turn.state.versions.lookup other := by
  cases request with
  | emit | attachUser | act | findOrCreateByNormalizedName => rfl
  | defer | complete =>
    simp only [respond]
    split <;> rfl
  | eraseVersion owner =>
    have howner : owner = id := howned owner rfl
    rw [howner]
    exact Finmap.lookup_erase_ne hother
  | negotiate owner packet =>
    have howner : owner = id := howned owner rfl
    rw [howner]
    exact negotiateLocked_lookup_ne _ hother packet
  | clearVersion owner =>
    have howner : owner = id := howned owner rfl
    rw [howner]
    exact Finmap.lookup_insert_of_ne _ hother

theorem handleEvent_lookup_ne (state : RouterState Store) (event : SessionEvent)
    (hother : other ≠ event.sessionId) :
    (handleEvent floats around state event).state.versions.lookup other =
      state.versions.lookup other :=
  (calls_handle floats event).run_keeps
    (fun turn : Turn Store => turn.state.versions.lookup other)
    (fun _ turn howned => respond_lookup_of_ownedBy around howned hother turn) _

theorem callBack_versions (state : RouterState Store) (callback : LoginCallback)
    (result : UserResult) :
    (callBack around state callback result).state.versions = state.versions :=
  (calls_invoke callback.sessionId callback.completion result).run_keeps
    (fun turn : Turn Store => turn.state.versions)
    (fun _ turn hserves => respond_versions_of_serves around hserves turn) _

theorem handleEvent_versions_passed {state : RouterState Store} {event : SessionEvent}
    (hkind : event.kind ≠ .disconnected)
    (hlookup : state.versions.lookup event.sessionId = some version) (hversion : version ≠ 0)
    (htype : event.packet.type ≠ .versionReq) :
    (handleEvent floats around state event).state.versions = state.versions := by
  have hserved := handleEvent_served floats around hkind hlookup hversion htype
  rw [hserved]
  have hcalls : (serve floats event).Calls (RouterCall.Serves event.sessionId) := by
    apply (calls_handlePacket floats event.sessionId event.packet).tryCatch
    intro _
    exact (calls_reject event.sessionId _).mono fun _ hemits =>
      RouterCall.Plays.serves (.inl hemits)
  exact hcalls.run_keeps (fun turn : Turn Store => turn.state.versions)
    (fun _ turn hserves => respond_versions_of_serves around hserves turn) _

end Frame

end SessionServer.MessageRouter
