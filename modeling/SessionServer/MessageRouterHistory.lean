import SessionServer.MessageRouterRejection

/-!
# Rejected requests over whole histories

Every user got a name that `normalizeLoginName` let through, if the repository
gives back only what it was given.  So after any history a rejected request
changes nothing.
-/

namespace SessionServer.MessageRouter

open Protocol InteractionProgram RouterState

variable {Store : Type}
variable {request : RouterCall} {id : SessionId}

/-! ## Repositories -/

/-- A repository that gives back users with valid names as long as it is asked
for valid names; `good` says which stores it can be in. -/
structure Surroundings.Trusted (good : Store → Prop) (around : Surroundings Store) :
    Prop where
  keeps : ∀ store request, good store → IsName maxUserNameBytes request.displayName →
    good (around.repository store request).2
  records : ∀ store request result record, good store →
    IsName maxUserNameBytes request.displayName →
    (around.repository store request).1 = .called result →
    result.user = some record → IsName maxUserNameBytes record.displayName

def Operation.Trusted (good : Store → Prop) : Operation Store → Prop
  | .handle _ around => around.Trusted good
  | .callBack _ result _ =>
    ∀ record, result.user = some record → IsName maxUserNameBytes record.displayName

def TrustedHistory (good : Store → Prop) (history : List (Operation Store)) : Prop :=
  ∀ operation ∈ history, operation.Trusted good

def InMemoryUserRepository.NamesValid (store : InMemoryUserRepository) : Prop :=
  ∀ name record, store.usersByNormalizedName.lookup name = some record →
    IsName maxUserNameBytes record.displayName

theorem InMemoryUserRepository.NamesValid.findOrCreate {store : InMemoryUserRepository}
    (hstore : InMemoryUserRepository.NamesValid store) {request : FindOrCreateUser}
    (hname : IsName maxUserNameBytes request.displayName) :
    IsName maxUserNameBytes (store.findOrCreate request).1.displayName ∧
      InMemoryUserRepository.NamesValid (store.findOrCreate request).2 := by
  unfold SessionServer.InMemoryUserRepository.findOrCreate
  cases hlookup : store.usersByNormalizedName.lookup request.normalizedName with
  | some existing => exact ⟨hstore _ existing hlookup, hstore⟩
  | none =>
    refine ⟨hname, ?_⟩
    intro name record hrecord
    rcases FiniteMap.of_lookup_insert hrecord with ⟨_, rfl⟩ | ⟨_, hbefore⟩
    · exact hname
    · exact hstore name record hbefore

theorem InMemoryUserRepository.namesValid_empty : InMemoryUserRepository.NamesValid {} := by
  intro _ _ hrecord
  simp at hrecord

theorem trusted_inMemory {around : Surroundings InMemoryUserRepository}
    (hmemory : around.InMemory) :
    around.Trusted InMemoryUserRepository.NamesValid where
  keeps store request hstore hname := by
    rw [hmemory]
    exact (hstore.findOrCreate hname).2
  records store request result record hstore hname hcalled huser := by
    rw [hmemory] at hcalled
    cases hcalled
    cases huser
    exact (hstore.findOrCreate hname).1

/-! ## What holds between two operations -/

structure RouterState.Sane (good : Store → Prop) (state : RouterState Store) : Prop where
  rooms_sound : state.rooms.Sound
  names_valid : NamesValid state.rooms
  store_good : good state.store

section Sane

variable {good : Store → Prop} {around : Surroundings Store} {turn : Turn Store}

theorem sane_respond (hlogsIn : request.logsIn = false)
    (hsane : turn.state.Sane good) : (respond around request turn).2.state.Sane good := by
  cases request with
  | emit | eraseVersion | negotiate | clearVersion =>
    exact ⟨hsane.rooms_sound, hsane.names_valid, hsane.store_good⟩
  | defer | complete | attachUser | findOrCreateByNormalizedName =>
    simp [RouterCall.logsIn] at hlogsIn
  | act id action =>
    refine ⟨hsane.rooms_sound.act _ id action, ?_, hsane.store_good⟩
    intro other user huser
    exact hsane.names_valid other user (RoomService.users_act_subset _ _ id action huser)

theorem sane_run {α : Type} {handler : Handler α}
    (hcalls : handler.Calls fun request => request.logsIn = false) (hsane : turn.state.Sane good) :
    (runHandler around handler turn).2.state.Sane good :=
  hcalls.run_invariant (fun turn : Turn Store => turn.state.Sane good)
    (fun _ _ hlogsIn hbefore => sane_respond hlogsIn hbefore) turn hsane

theorem RouterCall.Plays.not_logsIn (hplays : request.Plays id) : request.logsIn = false := by
  rcases hplays with ⟨_, rfl⟩ | ⟨_, rfl⟩
  · rfl
  · rfl

theorem RouterCall.Emits.not_logsIn (hemits : request.Emits) : request.logsIn = false := by
  obtain ⟨_, rfl⟩ := hemits
  rfl

theorem RouterCall.Agrees.not_logsIn (hagrees : request.Agrees id) : request.logsIn = false := by
  rcases hagrees with ⟨_, rfl⟩ | ⟨_, rfl⟩ | rfl
  · rfl
  · rfl
  · rfl

theorem sane_invoke {callback : LoginCallback} {result : UserResult}
    (hresult : ∀ record, result.user = some record → IsName maxUserNameBytes record.displayName)
    (hsane : turn.state.Sane good) :
    (runHandler around (callback.invoke result) turn).2.state.Sane good := by
  refine (calls_invoke_welcomes callback.sessionId callback.completion result).run_invariant
    (fun turn : Turn Store => turn.state.Sane good) ?_ turn hsane
  rintro _ _ (⟨_, _, rfl⟩ | ⟨record, huser, rfl⟩) hbefore
  · simp only [respond]
    split
    · exact hbefore
    · exact hbefore
  · refine ⟨hbefore.rooms_sound.attachUser _ record, ?_, hbefore.store_good⟩
    intro other user hother
    simp only [respond, RoomRun.attachUser] at hother
    unfold RoomService.attachUser at hother
    split at hother
    · exact hbefore.names_valid other user hother
    · rcases FiniteMap.of_lookup_insert hother with ⟨_, rfl⟩ | ⟨_, hold⟩
      · exact hresult record huser
      · exact hbefore.names_valid other user hold

variable {state : RouterState Store} (floats : FloatText)

theorem sane_handleLogin (htrusted : around.Trusted good) (hsane : state.Sane good)
    {payload : Bytes} {name : NormalizedLoginName}
    (hname : normalizeLoginName payload = some name) :
    (runHandler around (handleLogin id payload) { state := state }).2.state.Sane good := by
  have hvalid : IsName maxUserNameBytes name.display := by
    obtain ⟨hdisplay, rfl⟩ := (normalizeLoginName_eq_some_iff _ _).mp hname
    exact hdisplay
  have hasked : (asked around state ⟨name.normalized, name.display⟩).state.Sane good :=
    ⟨hsane.rooms_sound, hsane.names_valid,
      htrusted.keeps _ ⟨name.normalized, name.display⟩ hsane.store_good hvalid⟩
  rw [run_handleLogin around state hname]
  cases hanswer : (around.repository state.store ⟨name.normalized, name.display⟩).1 with
  | called result =>
    apply sane_invoke _ hasked
    intro record huser
    exact htrusted.records _ ⟨name.normalized, name.display⟩ result record
      hsane.store_good hvalid hanswer huser
  | kept => exact hasked
  | threw => exact ⟨hasked.rooms_sound, hasked.names_valid, hasked.store_good⟩

/-- A packet that does not get past the negotiation leaves rooms and store
alone. -/
theorem handleEvent_dismissed (around : Surroundings Store)
    {event : SessionEvent} (hkind : event.kind ≠ .disconnected)
    (htype : event.packet.type ≠ .versionReq)
    (hshut : ∀ version, state.versions.lookup event.sessionId = some version → version = 0) :
    (handleEvent floats around state event).state.rooms = state.rooms ∧
      (handleEvent floats around state event).state.store = state.store := by
  cases hlookup : state.versions.lookup event.sessionId with
  | some version =>
    rw [hshut version hlookup] at hlookup
    have hrun := run_handleNegotiation_ignored around event.packet hlookup
    rw [handleEvent_negotiated floats hkind hrun]
    exact ⟨rfl, rfl⟩
  | none =>
    have hshuts : Shuts state.versions event.sessionId event.packet := by
      simp only [Shuts, hlookup]
      intro _ hagreeable
      exact htype hagreeable.1
    obtain ⟨_, _, _, hlocked⟩ := negotiateLocked_shuts hshuts
    have hrun := run_handleNegotiation_answered around hlocked
    rw [handleEvent_negotiated floats hkind hrun]
    split
    · exact ⟨rfl, rfl⟩
    · exact ⟨rfl, rfl⟩

theorem sane_login {event : SessionEvent} (hkind : event.kind ≠ .disconnected)
    (hlogin : event.packet.type = .loginReq) (htrusted : around.Trusted good)
    (hsane : state.Sane good) :
    (handleEvent floats around state event).state.Sane good := by
  have htype : event.packet.type ≠ .versionReq := by
    rw [hlogin]
    decide
  by_cases hopen : ∃ version, state.versions.lookup event.sessionId = some version ∧ version ≠ 0
  · obtain ⟨version, hlookup, hversion⟩ := hopen
    rw [handleEvent_served floats around hkind hlookup hversion htype]
    have hpacket : handlePacket floats event.sessionId event.packet =
        handleLogin event.sessionId event.packet.payload := by
      unfold handlePacket
      rw [if_pos hlogin]
    unfold serve
    rw [hpacket]
    cases hname : normalizeLoginName event.packet.payload with
    | none =>
      have hcalls (text : String) : (reject event.sessionId text).Calls
          fun request => request.logsIn = false :=
        (calls_reject event.sessionId text).mono fun _ hemits => hemits.not_logsIn
      have hreject : handleLogin event.sessionId event.packet.payload =
          reject event.sessionId "invalid user name" := by
        unfold handleLogin
        simp only [hname]
      rw [hreject]
      exact sane_run ((hcalls _).tryCatch fun _ => hcalls _) hsane
    | some =>
      have hlogged : (runHandler around
          (handleLogin event.sessionId event.packet.payload)
          { state := state }).2.state.Sane good :=
        sane_handleLogin htrusted hsane hname
      rw [run_handleLogin around state hname] at hlogged
      rw [run_tryCatch, run_handleLogin around state hname]
      exact hlogged
  · have hshut : ∀ version, state.versions.lookup event.sessionId = some version → version = 0 := by
      intro version hlookup
      by_contra hversion
      exact hopen ⟨version, hlookup, hversion⟩
    obtain ⟨hrooms, hstore⟩ := handleEvent_dismissed floats around hkind htype hshut
    constructor
    · rw [hrooms]
      exact hsane.rooms_sound
    · rw [hrooms]
      exact hsane.names_valid
    · rw [hstore]
      exact hsane.store_good

/-- Every event that is not a login makes only calls that no login makes. -/
theorem calls_handle_not_logsIn (event : SessionEvent)
    (hlogin : event.kind ≠ .disconnected → event.packet.type ≠ .loginReq) :
    (handle floats event).Calls fun request => request.logsIn = false := by
  unfold handle
  split
  · unfold handleDisconnected
    apply Calls.bind
    · exact calls_perform rfl
    · intro _
      exact (calls_disconnectUser event.sessionId).mono fun _ hplays => hplays.not_logsIn
  · next hkind =>
    apply Calls.tryCatch
    · apply Calls.bind
      · exact (calls_handleNegotiation event.sessionId event.packet).mono
          fun _ hagrees => hagrees.not_logsIn
      · intro _
        split
        · exact (calls_handlePacket_plays floats event.sessionId (hlogin hkind)).mono
            fun _ hplays => hplays.not_logsIn
        · exact calls_pure _
    · intro _
      exact (calls_reject event.sessionId _).mono fun _ hemits => hemits.not_logsIn

theorem sane_step {operation : Operation Store} (htrusted : operation.Trusted good)
    (hsane : state.Sane good) : (state.step floats operation).Sane good := by
  cases operation with
  | callBack => exact sane_invoke htrusted hsane
  | handle event =>
    by_cases hlogin : event.kind ≠ .disconnected ∧ event.packet.type = .loginReq
    · exact sane_login floats hlogin.1 hlogin.2 htrusted hsane
    · have hcalls := calls_handle_not_logsIn floats event fun hkind htype => hlogin ⟨hkind, htype⟩
      exact sane_run hcalls hsane

theorem sane_handleEvent (htrusted : around.Trusted good) (hsane : state.Sane good)
    (event : SessionEvent) : (handleEvent floats around state event).state.Sane good := by
  have hoperation : (Operation.handle event around).Trusted good := htrusted
  exact sane_step floats hoperation hsane

theorem sane_after {store : Store} (hstore : good store) {history : List (Operation Store)}
    (htrusted : TrustedHistory good history) :
    (after floats store history).Sane good := by
  induction history using List.reverseRecOn with
  | nil =>
    refine ⟨RoomRun.initial_sound, ?_, hstore⟩
    intro _ _ huser
    simp at huser
  | append_singleton _ operation ih =>
    rw [after_append]
    apply sane_step floats (htrusted operation (by simp))
    apply ih
    intro other hother
    exact htrusted other (List.mem_append_left _ hother)

end Sane

/-! ## Rejected requests -/

def RouterState.Negotiated (state : RouterState Store) (id : SessionId) : Prop :=
  ∃ version, state.versions.lookup id = some version ∧ version ≠ 0

def Surroundings.AcceptsErrors (around : Surroundings Store) : Prop :=
  ∀ position message, PacketCodec.typeOf message.bytes = some .error →
    around.accepts position message = true

def Turn.SendsError (turn : Turn Store) : Prop :=
  ∃ message ∈ turn.messages, PacketCodec.typeOf message.bytes = some .error

theorem Settled.rejected {rooms : RoomRun} {turn : Turn Store}
    (hsettled : Settled id rooms turn) (herror : turn.SendsError) :
    Rejected id rooms turn := by
  rcases hsettled with hnone | hrejected
  · obtain ⟨message, hmessage, htype⟩ := herror
    exact absurd htype (hnone message hmessage)
  · exact hrejected

/-- A call of the room service that is refused changes nothing.  A packet of a
negotiated session that is answered with an error changes nothing in the room
service, and the error is the only message; so does a callback called later. -/
theorem rejected_unchanged (floats : FloatText) :
    (∀ run : RoomRun, run.Reached → run.created < 2 ^ 32 - 1 →
      (∀ id record, (run.service.attachUser id record).1.ok = false →
        (run.service.attachUser id record).2 = run.service) ∧
      ∀ order id action, (run.service.act order id action).1.ok = false →
        (run.service.act order id action).2 = run.service) ∧
    ∀ (good : Store → Prop) (store : Store) (history : List (Operation Store)),
      good store → TrustedHistory good history →
      (after floats store history).rooms.created < 2 ^ 32 - 1 →
      (∀ event around, event.kind = .packet →
        (after floats store history).Negotiated event.sessionId →
        around.AcceptsErrors →
        (handleEvent floats around (after floats store history) event).SendsError →
        Rejected event.sessionId (after floats store history).rooms
          (handleEvent floats around (after floats store history) event)) ∧
      ∀ callback result around,
        (callBack around (after floats store history) callback result).SendsError →
        Rejected callback.sessionId (after floats store history).rooms
          (callBack around (after floats store history) callback result) := by
  constructor
  · intro run hreached hcreated
    constructor
    · intro id record hrefused
      exact congrArg RoomRun.service (run.attachUser_refused id record hrefused)
    · intro order id action hrefused
      exact congrArg RoomRun.service (hreached.sound.act_refused hcreated order id action hrefused)
  · intro _ store history hstore htrusted hcreated
    have hsane := sane_after floats hstore htrusted
    constructor
    · rintro event around hkind ⟨_, hlookup, hversion⟩ haccepts herror
      have hpacket : event.kind ≠ .disconnected := by simp [hkind]
      have hsettled := settled_handleEvent floats hsane.rooms_sound hcreated
        hsane.names_valid hpacket hlookup hversion haccepts
      exact hsettled.rejected herror
    · intro callback result around herror
      have hstart : Untouched (after floats store history).rooms
          ({ state := after floats store history } : Turn Store) :=
        ⟨rfl, rfl, rfl⟩
      obtain ⟨_, hsettled, hrun⟩ :=
        run_invoke_settled around callback result hstart
      unfold callBack at herror ⊢
      rw [hrun] at herror ⊢
      exact hsettled.rejected herror

/-- Session 1 is logged in and asks to join a room that does not exist. -/
def joinRequest : SessionEvent where
  kind := .packet
  sessionId := 1
  packet := ⟨.joinRoomReq, ascii "9"⟩
  sequence := 2

theorem trusted_loggedIn : TrustedHistory InMemoryUserRepository.NamesValid loggedInHistory := by
  intro operation hoperation
  obtain ⟨_, _, rfl, hmemory⟩ := inMemoryHistory_loggedIn operation hoperation
  exact trusted_inMemory hmemory

theorem rejected_unchanged_join :
    (handleEvent default memorySurroundings (after default {} loggedInHistory)
      joinRequest).SendsError ∧
    Rejected joinRequest.sessionId (after default {} loggedInHistory).rooms
      (handleEvent default memorySurroundings (after default {} loggedInHistory) joinRequest) := by
  have hcreated : (after default ({} : InMemoryUserRepository)
      loggedInHistory).rooms.created < 2 ^ 32 - 1 := by decide +kernel
  have hlookup : (after default ({} : InMemoryUserRepository)
      loggedInHistory).versions.lookup joinRequest.sessionId = some 1 := by decide +kernel
  have herror : (handleEvent default memorySurroundings
      (after default {} loggedInHistory) joinRequest).messages.any
        (fun message => PacketCodec.typeOf message.bytes == some .error) = true := by
    decide +kernel
  have hsends : (handleEvent default memorySurroundings
      (after default {} loggedInHistory) joinRequest).SendsError := by
    obtain ⟨message, hmessage, htype⟩ := List.any_eq_true.mp herror
    exact ⟨message, hmessage, beq_iff_eq.mp htype⟩
  have hrejected := (rejected_unchanged default).2 InMemoryUserRepository.NamesValid {}
    loggedInHistory InMemoryUserRepository.namesValid_empty trusted_loggedIn hcreated
  exact ⟨hsends, hrejected.1 joinRequest memorySurroundings rfl ⟨1, hlookup, by decide⟩
    (fun _ _ _ => rfl) hsends⟩

end SessionServer.MessageRouter
