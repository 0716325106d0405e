import SessionServer.MessageRouterEvent
import SessionServer.MessageRouterLogin

/-!
# A rejected request changes nothing

An ERROR packet also comes from the handler of exceptions around the packet
handlers.  So no branch may throw after the room service has changed: the names
of users are short and valid, hence every payload about them can be built and
sent.
-/

namespace SessionServer.MessageRouter

open Protocol PacketCodec

variable {Store : Type}
variable {message : OutboundMessage} {result : RoomActionResult} {messages : List OutboundMessage}

/-! ## How a packet is settled -/

def NoError (turn : Turn Store) : Prop :=
  ∀ message ∈ turn.messages, typeOf message.bytes ≠ some .error

/-- One error to the requester, and the rooms are as before. -/
structure Rejected (id : SessionId) (rooms : RoomRun) (turn : Turn Store) :
    Prop where
  rooms_eq : turn.state.rooms = rooms
  messages_eq : ∃ message, turn.messages = [message] ∧ IsError id message

def Settled (id : SessionId) (rooms : RoomRun) (turn : Turn Store) : Prop :=
  NoError turn ∨ Rejected id rooms turn

/-- Nothing was said and the rooms are as before. -/
structure Untouched (rooms : RoomRun) (turn : Turn Store) : Prop where
  rooms_eq : turn.state.rooms = rooms
  emitted_eq : turn.emitted = []
  completions_eq : turn.completions = []

section Settle

variable {rooms : RoomRun} {turn : Turn Store}

theorem Untouched.messages_eq (huntouched : Untouched rooms turn) : turn.messages = [] := by
  simp [Turn.messages, huntouched.emitted_eq, huntouched.completions_eq]

theorem Untouched.noError (huntouched : Untouched rooms turn) : NoError turn := by
  intro _ hmessage
  rw [huntouched.messages_eq] at hmessage
  simp at hmessage

/-- Every message went out through the context, and none was an error. -/
theorem noError_emitted (hcompletions : turn.completions = [])
    (htypes : ∀ entry ∈ turn.emitted, typeOf entry.1.bytes ≠ some .error) :
    NoError turn := by
  intro _ hmessage
  simp only [Turn.messages, hcompletions, List.flatMap_nil, List.append_nil] at hmessage
  obtain ⟨entry, hentry, rfl⟩ := List.mem_map.mp hmessage
  exact htypes entry hentry

end Settle

/-! ## Packets -/

theorem isError_of_error {id : SessionId} {text : String}
    (herror : error id text = .ok message) : IsError id message :=
  ⟨(make_eq_ok herror).1, (make_eq_ok herror).2.2⟩

theorem Answers.typeOf_eq {id : SessionId} {type : PacketType} {event : Bytes}
    (hanswers : Answers id type event result message) :
    typeOf message.bytes = some type := by
  obtain ⟨_, _, hmake⟩ := hanswers
  exact (make_eq_ok hmake).2.2

theorem Notifies.typeOf_eq {skipped : Option SessionId}
    {payload : Except ProtocolError Bytes} (hnotifies : Notifies skipped payload result messages) :
    ∀ message ∈ messages, typeOf message.bytes = some .roomBroadcast := by
  obtain ⟨_, _, _, hencode, rfl⟩ := hnotifies
  intro _ hmessage
  obtain ⟨_, _, _, rfl⟩ := mem_notices.mp hmessage
  exact typeOf_encode hencode

/-- Nothing that is said about a served call is an error. -/
theorem Said.typeOf_ne_error {floats : FloatText} {id : SessionId} {content : Bytes}
    {action : RoomAction} (hsaid : Said floats id content result action messages) :
    ∀ message ∈ messages, typeOf message.bytes ≠ some .error := by
  have htold {skipped : Option SessionId} {payload : Except ProtocolError Bytes}
      {told : List OutboundMessage} (hnotifies : Notifies skipped payload result told) :
      ∀ message ∈ told, typeOf message.bytes ≠ some .error := by
    intro message hmessage
    rw [hnotifies.typeOf_eq message hmessage]
    decide
  intro message hmessage
  cases hsaid with
  | created hanswer =>
    rw [List.mem_singleton.mp hmessage, hanswer.typeOf_eq]
    decide
  | joined hanswer hnotifies | left hanswer hnotifies =>
    rcases List.mem_cons.mp hmessage with rfl | hrest
    · rw [hanswer.typeOf_eq]
      decide
    · exact htold hnotifies message hrest
  | chatted hnotifies | moved hnotifies => exact htold hnotifies message hmessage

section Packets

variable {around : Surroundings Store} {state : RouterState Store}
  {id : SessionId}

theorem rejected_single {state : RouterState Store}
    (hmessage : IsError id message) (accepted : Bool) :
    Rejected id state.rooms ({ state := state, emitted := [(message, accepted)] } : Turn Store) :=
  ⟨rfl, message, rfl, hmessage⟩

/-- A packet is served without an error, or it is refused and changes nothing. -/
theorem PacketEffect.settled {floats : FloatText} {packet : Packet} {after : RoomRun}
    (hsound : state.rooms.Sound) (hcreated : state.rooms.created < 2 ^ 32 - 1)
    (heffect : PacketEffect floats around.order state.rooms id packet after messages) :
    Settled id state.rooms
      ({ state := { state with rooms := after }
         emitted := transmit around.accepts 0 messages } : Turn Store) := by
  have hquiet (htypes : ∀ message ∈ messages, typeOf message.bytes ≠ some .error) :
      NoError ({ state := { state with rooms := after }
                 emitted := transmit around.accepts 0 messages } : Turn Store) := by
    apply noError_emitted rfl
    intro entry hentry
    exact htypes entry.1 (mem_of_mem_transmit _ hentry)
  cases heffect with
  | malformed _ _ herror =>
    right
    rw [transmit_singleton]
    exact rejected_single (isError_of_error herror) _
  | refused _ hrefused herror =>
    right
    rw [transmit_singleton, hsound.act_refused hcreated around.order id _ hrefused]
    exact rejected_single (isError_of_error herror) _
  | served _ _ hsaid => exact .inl (hquiet hsaid.typeOf_ne_error)
  | ponged _ _ hmake =>
    left
    apply hquiet
    intro _ hmessage
    rw [List.mem_singleton.mp hmessage, (make_eq_ok hmake).2.2]
    decide

end Packets

/-! ## Logins -/

section Login

variable {around : Surroundings Store} {id : SessionId}
  {rooms : RoomRun} {turn : Turn Store}

theorem settled_failed {changed : RoomRun} (huntouched : Untouched changed turn) :
    Settled id rooms { turn with completions := [⟨true, []⟩] } := by
  left
  intro _ hmessage
  simp [Turn.messages, huntouched.emitted_eq] at hmessage

/-- A callback never throws, and an error it sends is a refused login. -/
theorem run_invoke_settled (around : Surroundings Store) (callback : LoginCallback)
    (result : UserResult) (huntouched : Untouched rooms turn) :
    ∃ after, Settled callback.sessionId rooms after ∧
      runHandler around (callback.invoke result) turn = (.ok (), after) := by
  obtain ⟨after, completion, heffect, hrun⟩ :=
    run_invoke around callback result huntouched.completions_eq
  refine ⟨_, ?_, hrun⟩
  rw [huntouched.rooms_eq] at heffect
  have hmessages : ({ turn with
      state := { turn.state with rooms := after }
      completions := [completion] } : Turn Store).messages = completion.messages := by
    simp [Turn.messages, huntouched.emitted_eq]
  cases heffect with
  | unknown _ herror | refused _ _ herror =>
    right
    exact ⟨rfl, _, hmessages, isError_of_error herror⟩
  | attached _ _ _ hmake =>
    left
    intro message hmessage
    rw [hmessages, List.mem_singleton] at hmessage
    rw [hmessage, (make_eq_ok hmake).2.2]
    decide
  | unsendable =>
    left
    intro _ hmessage
    rw [hmessages] at hmessage
    simp at hmessage

theorem settled_handleLogin (around : Surroundings Store) (state : RouterState Store)
    (payload : Bytes) :
    ∃ after, Settled id state.rooms after ∧
      runHandler around (handleLogin id payload) { state := state } = (.ok (), after) := by
  cases hname : normalizeLoginName payload with
  | none =>
    have hlength : "invalid user name".length ≤ 4092 := by decide
    obtain ⟨_, herror, hmessage, _⟩ := error_ok id hlength
    unfold handleLogin
    simp only [hname]
    rw [run_reject around _ herror]
    exact ⟨_, .inr (rejected_single hmessage _), rfl⟩
  | some name =>
    rw [run_handleLogin around state hname]
    have hasked : Untouched state.rooms
        (asked around state ⟨name.normalized, name.display⟩) := ⟨rfl, rfl, rfl⟩
    refine ⟨_, ?_, rfl⟩
    cases (around.repository state.store ⟨name.normalized, name.display⟩).1 with
    | called result =>
      obtain ⟨_, hsettled, hrun⟩ := run_invoke_settled around ⟨id, 0⟩ result hasked
      simp only [hrun]
      exact hsettled
    | kept => exact .inl hasked.noError
    | threw => exact settled_failed hasked

end Login

/-! ## Events -/

section Events

variable (floats : FloatText) {around : Surroundings Store} {state : RouterState Store}
  {event : SessionEvent}
  (hsound : state.rooms.Sound) (hcreated : state.rooms.created < 2 ^ 32 - 1)
  (hnames : NamesValid state.rooms)

include hsound hcreated hnames

/-- An exception becomes an error, and nothing was touched before it. -/
theorem settled_serve :
    Settled event.sessionId state.rooms
      (runHandler around (serve floats event) { state := state }).2 := by
  by_cases hlogin : event.packet.type = .loginReq
  · obtain ⟨after, hsettled, hrun⟩ :=
      settled_handleLogin around state event.packet.payload
    unfold serve handlePacket
    rw [if_pos hlogin, run_tryCatch, hrun]
    exact hsettled
  · obtain ⟨_, _, heffect, hrun⟩ := packetEffect_serve hnames around hlogin
    rw [hrun]
    exact heffect.settled hsound hcreated

theorem settled_handleEvent (hkind : event.kind ≠ .disconnected) {version : UInt16}
    (hlookup : state.versions.lookup event.sessionId = some version) (hversion : version ≠ 0)
    (haccepts : ∀ position message, typeOf message.bytes = some .error →
      around.accepts position message = true) :
    Settled event.sessionId state.rooms (handleEvent floats around state event) := by
  by_cases htype : event.packet.type = .versionReq
  · have hshuts : Shuts state.versions event.sessionId event.packet := by
      simp only [Shuts, hlookup]
      exact ⟨hversion, htype⟩
    obtain ⟨message, hmessage, _, hlocked⟩ := negotiateLocked_shuts hshuts
    have hrun := run_handleNegotiation_answered around hlocked
    rw [haccepts 0 message hmessage.2, if_pos rfl] at hrun
    rw [handleEvent_negotiated floats hkind hrun]
    right
    exact ⟨rfl, message, rfl, hmessage⟩
  · rw [handleEvent_served floats around hkind hlookup hversion htype]
    exact settled_serve floats hsound hcreated hnames

end Events

end SessionServer.MessageRouter
