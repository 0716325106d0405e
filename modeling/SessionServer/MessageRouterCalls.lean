import SessionServer.MessageRouterModel

/-!
# The calls of a handler

Every call of the handler of an event is about the session of the event, and
only the negotiation touches the negotiated versions.
-/

namespace SessionServer.MessageRouter

open Protocol InteractionProgram RouterCall

variable {request : RouterCall}

/-- The session a call is about. -/
def RouterCall.session? : RouterCall → Option SessionId
  | .emit _ => none
  | .defer => none
  | .complete _ _ => none
  | .eraseVersion id => some id
  | .negotiate id _ => some id
  | .clearVersion id => some id
  | .attachUser id _ => some id
  | .act id _ => some id
  | .findOrCreateByNormalizedName _ callback => some callback.sessionId

def RouterCall.OwnedBy (id : SessionId) (request : RouterCall) : Prop :=
  ∀ other ∈ request.session?, other = id

/-- The sections under the negotiation mutex. -/
def RouterCall.negotiates : RouterCall → Bool
  | .eraseVersion _ => true
  | .negotiate _ _ => true
  | .clearVersion _ => true
  | _ => false

/-- The calls of a login. -/
def RouterCall.logsIn : RouterCall → Bool
  | .defer => true
  | .complete _ _ => true
  | .attachUser _ _ => true
  | .findOrCreateByNormalizedName _ _ => true
  | _ => false

/-- The calls of a packet that was let through. -/
def RouterCall.Serves (id : SessionId) (request : RouterCall) : Prop :=
  request.OwnedBy id ∧ request.negotiates = false

def RouterCall.Emits (request : RouterCall) : Prop :=
  ∃ message, request = .emit message

/-- The calls of a packet that is about rooms. -/
def RouterCall.Plays (id : SessionId) (request : RouterCall) : Prop :=
  request.Emits ∨ ∃ action, request = .act id action

/-- The calls of the negotiation. -/
def RouterCall.Agrees (id : SessionId) (request : RouterCall) : Prop :=
  request.Emits ∨ (∃ packet, request = .negotiate id packet) ∨ request = .clearVersion id

/-- The calls of a callback: it attaches the user it is called with, if any. -/
def RouterCall.Welcomes (id : SessionId) (result : UserResult)
    (request : RouterCall) : Prop :=
  (∃ completion payload, request = .complete completion payload) ∨
    ∃ record, result.user = some record ∧ request = .attachUser id record

section Calls

variable (floats : FloatText) (id : SessionId)

theorem RouterCall.Plays.serves {id : SessionId}
    (hplays : request.Plays id) : request.Serves id := by
  rcases hplays with ⟨_, rfl⟩ | ⟨_, rfl⟩
  · exact ⟨by simp [RouterCall.OwnedBy, session?], rfl⟩
  · exact ⟨by simp [RouterCall.OwnedBy, session?], rfl⟩

theorem RouterCall.Agrees.ownedBy {id : SessionId}
    (hagrees : request.Agrees id) : request.OwnedBy id := by
  rcases hagrees with ⟨_, rfl⟩ | ⟨_, rfl⟩ | rfl
  · simp [RouterCall.OwnedBy, session?]
  · simp [RouterCall.OwnedBy, session?]
  · simp [RouterCall.OwnedBy, session?]

theorem RouterCall.Welcomes.serves {id : SessionId} {result : UserResult}
    (hwelcomes : request.Welcomes id result) :
    request.Serves id := by
  rcases hwelcomes with ⟨_, _, rfl⟩ | ⟨_, _, rfl⟩
  · exact ⟨by simp [RouterCall.OwnedBy, session?], rfl⟩
  · exact ⟨by simp [RouterCall.OwnedBy, session?], rfl⟩

theorem calls_lift {α : Type} {allowed : RouterCall → Prop} (computation : Except ProtocolError α) :
    (lift computation).Calls allowed :=
  calls_ofExcept _ computation

theorem calls_emit (message : OutboundMessage) : (emit message).Calls RouterCall.Emits :=
  calls_perform ⟨message, rfl⟩

theorem calls_act (action : RoomAction) : (act id action).Calls (RouterCall.Plays id) :=
  calls_perform (.inr ⟨action, rfl⟩)

/-! ## Messages -/

theorem calls_send (response : Except ProtocolError OutboundMessage) :
    (do
      let response ← lift response
      let _ ← emit response : Handler Unit).Calls RouterCall.Emits := by
  apply (calls_lift _).bind
  intro message
  apply (calls_emit message).bind
  intro _
  exact calls_pure _

theorem calls_reject (message : String) : (reject id message).Calls RouterCall.Emits := by
  exact calls_send _

theorem calls_broadcast (skipped : Option SessionId) (payload : Bytes)
    (recipients : List SessionId) :
    (broadcast skipped payload recipients).Calls RouterCall.Emits := by
  induction recipients with
  | nil => exact calls_pure _
  | cons _ _ ih =>
    unfold broadcast
    split
    · apply (calls_lift _).bind
      intro message
      apply (calls_emit message).bind
      intro _
      split
      · exact ih
      · exact calls_pure _
    · exact ih

theorem calls_announce (type : PacketType) (answer notice : Bytes) (result : RoomActionResult) :
    (announce id type answer notice result).Calls RouterCall.Emits := by
  unfold announce
  split
  · exact calls_reject id _
  · apply (calls_lift _).bind
    intro payload
    apply (calls_lift _).bind
    intro response
    apply (calls_emit response).bind
    intro _
    split
    · apply (calls_lift _).bind
      intro payload
      exact calls_broadcast _ payload _
    · exact calls_pure _

theorem calls_tell (result : RoomActionResult) (payload : Except ProtocolError Bytes) :
    (if !result.ok then reject id result.error
      else do
        let payload ← lift payload
        broadcast none payload result.recipients : Handler Unit).Calls
      RouterCall.Emits := by
  split
  · exact calls_reject id _
  · apply (calls_lift _).bind
    intro payload
    exact calls_broadcast _ payload _

/-! ## Packets about rooms -/

theorem plays_of_emits {α : Type} {handler : Handler α} (hcalls : handler.Calls RouterCall.Emits) :
    handler.Calls (RouterCall.Plays id) :=
  hcalls.mono fun _ hemits => .inl hemits

theorem calls_handleCreateRoom (payload : Bytes) :
    (handleCreateRoom id payload).Calls (RouterCall.Plays id) := by
  unfold handleCreateRoom
  cases normalizeRoomName payload with
  | none => exact plays_of_emits id (calls_reject id _)
  | some =>
    apply (calls_act id _).bind
    intro _
    apply plays_of_emits
    split
    · exact calls_reject id _
    · apply (calls_lift _).bind
      intro _
      exact calls_send _

theorem calls_handleJoinRoom (payload : Bytes) :
    (handleJoinRoom id payload).Calls (RouterCall.Plays id) := by
  apply (calls_lift _).bind
  intro _
  apply (calls_act id _).bind
  intro result
  exact plays_of_emits id (calls_announce id _ _ _ result)

theorem calls_handleLeaveRoom (payload : Bytes) :
    (handleLeaveRoom id payload).Calls (RouterCall.Plays id) := by
  unfold handleLeaveRoom
  split
  · exact plays_of_emits id (calls_reject id _)
  · apply (calls_act id _).bind
    intro result
    exact plays_of_emits id (calls_announce id _ _ _ result)

theorem calls_handleChat (message : Bytes) :
    (handleChat id message).Calls (RouterCall.Plays id) := by
  unfold handleChat
  split
  · exact plays_of_emits id (calls_reject id _)
  · split
    · exact plays_of_emits id (calls_reject id _)
    · apply (calls_act id _).bind
      intro result
      exact plays_of_emits id (calls_tell id result _)

theorem calls_handlePosition (payload : Bytes) :
    (handlePosition floats id payload).Calls (RouterCall.Plays id) := by
  apply (calls_lift _).bind
  intro _
  apply (calls_act id _).bind
  intro result
  exact plays_of_emits id (calls_tell id result _)

theorem calls_handlePing (payload : Bytes) : (handlePing id payload).Calls RouterCall.Emits := by
  unfold handlePing
  split
  · exact calls_reject id _
  · exact calls_send _

theorem calls_handlePacket_plays {packet : Packet} (htype : packet.type ≠ .loginReq) :
    (handlePacket floats id packet).Calls (RouterCall.Plays id) := by
  unfold handlePacket
  rw [if_neg htype]
  split
  · exact calls_handleCreateRoom id _
  split
  · exact calls_handleJoinRoom id _
  split
  · exact calls_handleLeaveRoom id _
  split
  · exact calls_handleChat id _
  split
  · exact calls_handlePosition floats id _
  split
  · exact plays_of_emits id (calls_handlePing id _)
  · exact plays_of_emits id (calls_reject id _)

/-! ## Logins -/

theorem calls_complete (completion : CompletionId) (payload : DeferredCompletionPayload) :
    (call (.complete completion payload)).Calls (RouterCall.Serves id) :=
  calls_perform ⟨by simp [RouterCall.OwnedBy, session?], rfl⟩

theorem calls_findOrCreate (request : FindOrCreateUser) (completion : CompletionId) :
    (findOrCreateByNormalizedName request ⟨id, completion⟩).Calls (RouterCall.Serves id) :=
  calls_perform ⟨by simp [RouterCall.OwnedBy, session?], rfl⟩

theorem calls_defer : defer.Calls (RouterCall.Serves id) := by
  apply Calls.bind
  · exact calls_perform ⟨by simp [RouterCall.OwnedBy, session?], rfl⟩
  · intro answer
    cases answer with
    | none => exact calls_throw _
    | some => exact calls_pure _

theorem calls_invoke_welcomes (completion : CompletionId) (result : UserResult) :
    (LoginCallback.invoke ⟨id, completion⟩ result).Calls (RouterCall.Welcomes id result) := by
  have hcomplete (payload : DeferredCompletionPayload) :
      (call (.complete completion payload)).Calls (RouterCall.Welcomes id result) :=
    calls_perform (.inl ⟨completion, payload, rfl⟩)
  have hsucceed (response : Except ProtocolError OutboundMessage) :
      (do
        let response ← lift response
        let _ ← succeed completion [response] : Handler Unit).Calls
          (RouterCall.Welcomes id result) := by
    apply (calls_lift _).bind
    intro _
    apply (hcomplete _).bind
    intro _
    exact calls_pure _
  apply Calls.tryCatch
  · cases huser : result.user with
    | none => exact hsucceed _
    | some record =>
      have hattach : (attachUser id record).Calls (RouterCall.Welcomes id result) :=
        calls_perform (.inr ⟨record, huser, rfl⟩)
      apply hattach.bind
      intro _
      split
      · exact hsucceed _
      · apply (calls_lift _).bind
        intro _
        exact hsucceed _
  · intro _
    apply (hcomplete _).bind
    intro _
    exact calls_pure _

theorem calls_invoke (completion : CompletionId) (result : UserResult) :
    (LoginCallback.invoke ⟨id, completion⟩ result).Calls (RouterCall.Serves id) :=
  (calls_invoke_welcomes id completion result).mono fun _ hwelcomes =>
    hwelcomes.serves

theorem calls_handleLogin (payload : Bytes) :
    (handleLogin id payload).Calls (RouterCall.Serves id) := by
  unfold handleLogin
  cases normalizeLoginName payload with
  | none =>
    exact (calls_reject id _).mono fun _ hemits =>
      RouterCall.Plays.serves (.inl hemits)
  | some =>
    apply (calls_defer id).bind
    intro completion
    apply Calls.tryCatch
    · apply (calls_findOrCreate id _ completion).bind
      intro answer
      cases answer with
      | called result => exact calls_invoke id completion result
      | kept => exact calls_pure _
      | threw => exact calls_throw _
    · intro _
      apply (calls_complete id completion _).bind
      intro _
      exact calls_pure _

/-! ## Events -/

theorem calls_handlePacket (packet : Packet) :
    (handlePacket floats id packet).Calls (RouterCall.Serves id) := by
  by_cases htype : packet.type = .loginReq
  · unfold handlePacket
    rw [if_pos htype]
    exact calls_handleLogin id _
  · exact (calls_handlePacket_plays floats id htype).mono fun _ hplays => hplays.serves

theorem calls_handleNegotiation (packet : Packet) :
    (handleNegotiation id packet).Calls (RouterCall.Agrees id) := by
  have hemit (message : OutboundMessage) : (emit message).Calls (RouterCall.Agrees id) :=
    (calls_emit message).mono fun _ hemits => .inl hemits
  apply Calls.bind
  · apply Calls.bind (calls_perform (.inr (.inl ⟨packet, rfl⟩)))
    intro outcome
    exact calls_lift outcome
  · intro outcome
    cases outcome with
    | ignored | passed => exact calls_pure _
    | answered response =>
      apply (hemit response).bind
      intro _
      split
      · apply Calls.bind (calls_perform (.inr (.inr rfl)))
        intro _
        apply (hemit _).bind
        intro _
        exact calls_pure _
      · exact calls_pure _

theorem calls_disconnectUser : (disconnectUser id).Calls (RouterCall.Plays id) := by
  apply (calls_act id _).bind
  intro _
  apply plays_of_emits
  split
  · exact calls_pure _
  · apply (calls_lift _).bind
    intro payload
    exact calls_broadcast _ payload _

/-- An event's handler makes calls about its own session only. -/
theorem calls_handle (event : SessionEvent) :
    (handle floats event).Calls (RouterCall.OwnedBy event.sessionId) := by
  unfold handle
  split
  · unfold handleDisconnected
    apply Calls.bind
    · exact calls_perform (by simp [RouterCall.OwnedBy, session?])
    · intro _
      exact (calls_disconnectUser event.sessionId).mono fun _ hplays => hplays.serves.1
  · apply Calls.tryCatch
    · apply Calls.bind ((calls_handleNegotiation event.sessionId event.packet).mono
        fun _ hagrees => hagrees.ownedBy)
      intro _
      split
      · exact (calls_handlePacket floats event.sessionId event.packet).mono
          fun _ hserves => hserves.1
      · exact calls_pure _
    · intro _
      exact (calls_reject event.sessionId _).mono fun _ hemits =>
        (RouterCall.Plays.serves (.inl hemits)).1

end Calls

end SessionServer.MessageRouter
