import SessionServer.MessageRouterEffect
import SessionServer.MessageRouterGate

/-!
# A second login

The router with the repository in memory.  A session that is logged in and asks
to log in again gets an error, but the repository is asked before the room
service is: a new name is stored although the login is refused.
-/

namespace SessionServer.MessageRouter

open Protocol RoomService RouterState

/-- The repository in memory calls back before it returns. -/
def inMemoryRepository (store : InMemoryUserRepository) (request : FindOrCreateUser) :
    RepositoryAnswer × InMemoryUserRepository :=
  (.called { user := some (store.findOrCreate request).1 }, (store.findOrCreate request).2)

/-- Surroundings with the repository in memory. -/
def Surroundings.InMemory (around : Surroundings InMemoryUserRepository) : Prop :=
  around.repository = inMemoryRepository

/-- Events handled one after another; callbacks are never kept. -/
def InMemoryHistory (history : List (Operation InMemoryUserRepository)) : Prop :=
  ∀ operation ∈ history, ∃ event around, operation = .handle event around ∧ around.InMemory

/-- The state after the history. -/
def inMemoryState (floats : FloatText)
    (history : List (Operation InMemoryUserRepository)) :
    RouterState InMemoryUserRepository :=
  after floats {} history

/-! ## Whoever is logged in has negotiated -/

section LoggedIn

variable {Store : Type} (around : Surroundings Store)

theorem respond_users_of_ownedBy {id other : SessionId} {request : RouterCall}
    (howned : request.OwnedBy id) (hother : other ≠ id) (turn : Turn Store) :
    (respond around request turn).2.state.rooms.service.usersBySession.lookup other =
      turn.state.rooms.service.usersBySession.lookup other := by
  cases request with
  | emit | eraseVersion | negotiate | clearVersion | findOrCreateByNormalizedName => rfl
  | defer | complete =>
    simp only [respond]
    split <;> rfl
  | attachUser owner record =>
    have howner : owner = id := howned owner rfl
    rw [howner]
    exact lookup_users_attachUser _ id record hother
  | act owner action =>
    have howner : owner = id := howned owner rfl
    rw [howner]
    exact lookup_users_act _ _ id action hother

theorem handleEvent_users_ne (floats : FloatText) (state : RouterState Store)
    (event : SessionEvent) {other : SessionId} (hother : other ≠ event.sessionId) :
    (handleEvent floats around state event).state.rooms.service.usersBySession.lookup other =
      state.rooms.service.usersBySession.lookup other :=
  (calls_handle floats event).run_keeps
    (fun turn : Turn Store => turn.state.rooms.service.usersBySession.lookup other)
    (fun _ turn howned => respond_users_of_ownedBy around howned hother turn) _

/-- After the room service forgot the user only messages follow. -/
theorem run_disconnectUser_rooms (id : SessionId) (turn : Turn Store) :
    (runHandler around (disconnectUser id) turn).2.state.rooms =
      (turn.state.rooms.act around.order id .disconnect).2 := by
  unfold disconnectUser
  rw [run_bind, run_act]
  have hcalls (result : RoomActionResult) :
      (if (!result.ok || result.roomId == 0) = true then pure ()
        else do
          let payload ← lift (roomPayload true (ascii "LEAVE") result)
          broadcast (some id) payload result.recipients : Handler Unit).Calls
        RouterCall.Emits := by
    split
    · exact InteractionProgram.calls_pure _
    · apply (calls_lift _).bind
      intro payload
      exact calls_broadcast _ payload _
  refine (hcalls _).run_keeps (fun turn : Turn Store => turn.state.rooms) ?_ _
  rintro _ _ ⟨_, rfl⟩
  rfl

theorem handleEvent_disconnected_users (floats : FloatText) (state : RouterState Store)
    {event : SessionEvent} (hkind : event.kind = .disconnected) :
    (handleEvent floats around state event).state.rooms.service.usersBySession.lookup
      event.sessionId = none := by
  unfold handleEvent handle handleDisconnected
  rw [if_pos hkind, run_bind, run_eraseVersion]
  simp only [run_disconnectUser_rooms]
  exact lookup_users_disconnect _ _ event.sessionId

/-- Whoever is logged in sent a packet since the last Disconnected. -/
theorem users_eq_none_of_silent (floats : FloatText) (store : Store)
    (history : List (Operation Store))
    (hevents : ∀ operation ∈ history, ∃ event around,
      operation = .handle event around) (id : SessionId)
    (hsilent : sinceDisconnected id history = []) :
    (after floats store history).rooms.service.usersBySession.lookup id = none := by
  induction history using List.reverseRecOn with
  | nil => rfl
  | append_singleton history operation ih =>
    obtain ⟨event, around, rfl⟩ := hevents operation (by simp)
    have hbefore (hnone : sinceDisconnected id history = []) :=
      ih (fun other hother => hevents other (List.mem_append_left _ hother)) hnone
    rw [sinceDisconnected_append] at hsilent
    rw [after_append]
    simp only [RouterState.step]
    by_cases hsession : event.sessionId = id
    · subst hsession
      by_cases hkind : event.kind = .disconnected
      · exact handleEvent_disconnected_users around floats _ hkind
      · simp [hkind] at hsilent
    · simp only [ne_eq, hsession, not_false_eq_true, if_true] at hsilent
      rw [handleEvent_users_ne around floats _ event (Ne.symm hsession)]
      exact hbefore hsilent

end LoggedIn

/-! ## Logging in again -/

section Again

variable (floats : FloatText) {around : Surroundings InMemoryUserRepository}
  {state : RouterState InMemoryUserRepository} {event : SessionEvent}

/-- The request is refused with one error, and nothing changes. -/
def RefusedUnchanged (id : SessionId) (state : RouterState InMemoryUserRepository)
    (turn : Turn InMemoryUserRepository) : Prop :=
  (∃ message, turn.messages = [message] ∧ IsError id message) ∧
    turn.state.rooms = state.rooms ∧ turn.state.store = state.store

theorem run_invoke_attached {Store : Type} (around : Surroundings Store)
    (turn : Turn Store) {callback : LoginCallback} {record : UserRecord} {user : User}
    (hfirst : turn.completions = [])
    (huser : turn.state.rooms.service.usersBySession.lookup callback.sessionId = some user)
    {message : OutboundMessage}
    (herror : error callback.sessionId "user is already logged in" = .ok message) :
    runHandler around (callback.invoke { user := some record }) turn =
      (.ok (), { turn with completions := [⟨false, [message]⟩] }) := by
  have hattach : turn.state.rooms.attachUser callback.sessionId record =
      ({ ok := false, error := "user is already logged in", user := user }, turn.state.rooms) := by
    simp [RoomRun.attachUser, RoomService.attachUser, huser]
  have hcomplete : runHandler around (succeed callback.completion [message]) turn =
      (.ok true, { turn with completions := [⟨false, [message]⟩] }) :=
    run_complete around turn hfirst
  unfold LoginCallback.invoke
  rw [run_tryCatch]
  simp only [run_bind, run_attachUser, hattach, Bool.not_false, if_true, herror, run_lift_ok,
    hcomplete, run_pure]

/-- A request with a valid name: the repository is asked first, then the room
service refuses. -/
theorem run_serve_valid (hmemory : around.InMemory) {user : User}
    (htype : event.packet.type = .loginReq) {name : NormalizedLoginName}
    (hname : normalizeLoginName event.packet.payload = some name)
    (huser : state.rooms.service.usersBySession.lookup event.sessionId = some user) :
    ∃ message, IsError event.sessionId message ∧
      (runHandler around (serve floats event) { state := state }).2 =
        { state := { state with
            store := (state.store.findOrCreate ⟨name.normalized, name.display⟩).2 }
          deferred := true
          completions := [⟨false, [message]⟩] } := by
  have hlength : "user is already logged in".length ≤ 4092 := by decide
  obtain ⟨message, herror, hmessage, _⟩ := error_ok event.sessionId hlength
  refine ⟨message, hmessage, ?_⟩
  let callback : LoginCallback := ⟨event.sessionId, 0⟩
  have hinvoke (turn : Turn InMemoryUserRepository) (record : UserRecord)
      (hfirst : turn.completions = []) (hrooms : turn.state.rooms = state.rooms) :
      runHandler around (callback.invoke { user := some record }) turn =
        (.ok (), { turn with completions := [⟨false, [message]⟩] }) :=
    run_invoke_attached around turn hfirst (by rw [hrooms]; exact huser) herror
  unfold serve handlePacket handleLogin
  rw [if_pos htype]
  simp only [hname, run_tryCatch, run_bind,
    run_defer around { state := state } rfl rfl, run_findOrCreate]
  rw [hmemory]
  simp only [inMemoryRepository]
  rw [hinvoke _ _ rfl rfl]

theorem run_serve_invalid (around : Surroundings InMemoryUserRepository)
    (state : RouterState InMemoryUserRepository) (htype : event.packet.type = .loginReq)
    (hname : normalizeLoginName event.packet.payload = none) :
    ∃ message, IsError event.sessionId message ∧
      (runHandler around (serve floats event) { state := state }).2 =
        { state := state, emitted := [(message, around.accepts 0 message)] } := by
  have hlength : "invalid user name".length ≤ 4092 := by decide
  obtain ⟨message, herror, hmessage, _⟩ := error_ok event.sessionId hlength
  refine ⟨message, hmessage, ?_⟩
  unfold serve handlePacket handleLogin
  rw [if_pos htype]
  simp only [hname, run_tryCatch, run_reject around _ herror]
  rfl

/-- The repository stays as it is exactly when it knows the name. -/
theorem findOrCreate_eq_self_iff (store : InMemoryUserRepository) (request : FindOrCreateUser) :
    (store.findOrCreate request).2 = store ↔
      store.usersByNormalizedName.lookup request.normalizedName ≠ none := by
  unfold InMemoryUserRepository.findOrCreate
  cases hlookup : store.usersByNormalizedName.lookup request.normalizedName with
  | some existing => exact iff_of_true rfl (Option.some_ne_none existing)
  | none =>
    apply iff_of_false _ (not_not_intro rfl)
    intro hsame
    apply Finmap.lookup_eq_none.mp hlookup
    rw [← hsame]
    exact Finmap.mem_insert.mpr (.inl rfl)

/-- What the second login of a session needs to leave everything as it was: the
gate is not shut, and a valid name is one that is stored already. -/
def KnownName (state : RouterState InMemoryUserRepository) (event : SessionEvent) : Prop :=
  state.versions.lookup event.sessionId ≠ some 0 ∧
    ∀ name, normalizeLoginName event.packet.payload = some name →
      state.store.usersByNormalizedName.lookup name.normalized ≠ none

theorem refusedUnchanged_iff {history : List (Operation InMemoryUserRepository)}
    (hhistory : InMemoryHistory history) (hmemory : around.InMemory)
    (hkind : event.kind = .packet) (htype : event.packet.type = .loginReq)
    (hlogged : (inMemoryState floats history).rooms.service.usersBySession.lookup
      event.sessionId ≠ none) :
    RefusedUnchanged event.sessionId (inMemoryState floats history)
        (handleEvent floats around (inMemoryState floats history) event) ↔
      KnownName (inMemoryState floats history) event := by
  have hpacket : event.kind ≠ .disconnected := by simp [hkind]
  obtain ⟨_, huser⟩ := Option.ne_none_iff_exists'.mp hlogged
  have hspoke : sinceDisconnected event.sessionId history ≠ [] := by
    intro hsilent
    apply hlogged
    apply users_eq_none_of_silent floats {} history _ event.sessionId hsilent
    intro operation hoperation
    obtain ⟨event, around, hhandle, _⟩ := hhistory operation hoperation
    exact ⟨event, around, hhandle⟩
  have hgate := gateState_after floats ({} : InMemoryUserRepository) history event.sessionId
  by_cases hopen : GateOpen event.sessionId (sinceDisconnected event.sessionId history)
  · obtain ⟨_, hversion, hlookup⟩ := hgate.opened hopen
    have hserved := handleEvent_served floats around hpacket hlookup hversion
      (by rw [htype]; decide)
    have hnotZero : (inMemoryState floats history).versions.lookup event.sessionId ≠ some 0 := by
      rw [inMemoryState, hlookup]
      simpa using hversion
    change RefusedUnchanged event.sessionId (inMemoryState floats history)
      (handleEvent floats around (after floats {} history) event) ↔ _
    rw [hserved]
    cases hname : normalizeLoginName event.packet.payload with
    | none =>
      obtain ⟨message, hmessage, hrun⟩ := run_serve_invalid floats around
        (inMemoryState floats history) htype hname
      apply iff_of_true
      · unfold inMemoryState at hrun ⊢
        rw [hrun]
        exact ⟨⟨message, rfl, hmessage⟩, rfl, rfl⟩
      · exact ⟨hnotZero, by simp [hname]⟩
    | some name =>
      obtain ⟨message, hmessage, hrun⟩ := run_serve_valid floats hmemory htype hname huser
      have hstore := findOrCreate_eq_self_iff (inMemoryState floats history).store
        ⟨name.normalized, name.display⟩
      unfold inMemoryState at hrun hstore hnotZero ⊢
      rw [hrun]
      constructor
      · rintro ⟨_, _, hsame⟩
        refine ⟨hnotZero, ?_⟩
        intro _ hother
        rw [hname, Option.some.injEq] at hother
        rw [← hother]
        exact hstore.mp hsame
      · rintro ⟨_, hknown⟩
        exact ⟨⟨message, rfl, hmessage⟩, rfl, hstore.mpr (hknown name hname)⟩
  · have hshut : GateShut event.sessionId (sinceDisconnected event.sessionId history) :=
      ⟨hspoke, hopen⟩
    have hzero := hgate.shut hshut
    have hignored := (packetOutcome floats around hpacket hgate).ignored hshut
    apply iff_of_false
    · rintro ⟨⟨_, hmessages, _⟩, _⟩
      unfold inMemoryState at hmessages
      rw [hignored] at hmessages
      simp [Turn.messages] at hmessages
    · exact fun hknown => hknown.1 hzero

end Again

/-! ## A new name is stored -/

def loginRequest (name : String) (sequence : ℕ) : SessionEvent where
  kind := .packet
  sessionId := 1
  packet := ⟨.loginReq, ascii name⟩
  sequence := sequence

def memorySurroundings : Surroundings InMemoryUserRepository where
  order := .ascending
  accepts := fun _ _ => true
  repository := inMemoryRepository

/-- Session 1 negotiates and logs in. -/
def loggedInHistory : List (Operation InMemoryUserRepository) :=
  [ .handle versionRequest memorySurroundings, .handle (loginRequest "ann" 1) memorySurroundings ]

theorem inMemoryHistory_loggedIn : InMemoryHistory loggedInHistory := by
  intro _ hoperation
  simp only [loggedInHistory, List.mem_cons, List.not_mem_nil, or_false] at hoperation
  rcases hoperation with rfl | rfl
  · exact ⟨_, _, rfl, rfl⟩
  · exact ⟨_, _, rfl, rfl⟩

theorem loggedIn_user :
    (inMemoryState default loggedInHistory).rooms.service.usersBySession.lookup 1 ≠ none := by
  decide +kernel

theorem loggedIn_stored :
    (inMemoryState default loggedInHistory).store.usersByNormalizedName.lookup
      (ascii "ann") ≠ none := by
  decide +kernel

/-- The session is logged in as ann and asks to log in as bob: the answer is an
error, and bob is a new user of the repository. -/
theorem second_login_stores_name :
    InMemoryHistory loggedInHistory ∧
    (inMemoryState default loggedInHistory).rooms.service.usersBySession.lookup 1 ≠ none ∧
    (handleEvent default memorySurroundings (inMemoryState default loggedInHistory)
      (loginRequest "bob" 2)).state.store.nextId = 3 ∧
    (inMemoryState default loggedInHistory).store.nextId = 2 ∧
    ¬ RefusedUnchanged 1 (inMemoryState default loggedInHistory)
      (handleEvent default memorySurroundings (inMemoryState default loggedInHistory)
        (loginRequest "bob" 2)) := by
  have hafter : (handleEvent default memorySurroundings
      (inMemoryState default loggedInHistory) (loginRequest "bob" 2)).state.store.nextId =
        3 := by decide +kernel
  have hbefore : (inMemoryState default loggedInHistory).store.nextId = 2 := by
    decide +kernel
  refine ⟨inMemoryHistory_loggedIn, loggedIn_user, hafter, hbefore, ?_⟩
  rintro ⟨_, _, hstore⟩
  have hsame := congrArg InMemoryUserRepository.nextId hstore
  rw [hafter, hbefore] at hsame
  exact absurd hsame (by decide)

/-- The same name once more leaves everything as it was. -/
theorem refusedUnchanged_same_name :
    KnownName (inMemoryState default loggedInHistory) (loginRequest "ann" 2) ∧
    RefusedUnchanged (loginRequest "ann" 2).sessionId
      (inMemoryState default loggedInHistory)
      (handleEvent default memorySurroundings (inMemoryState default loggedInHistory)
        (loginRequest "ann" 2)) := by
  have hgate : (inMemoryState default loggedInHistory).versions.lookup
      (loginRequest "ann" 2).sessionId ≠ some 0 := by decide +kernel
  have hlogged : (inMemoryState default loggedInHistory).rooms.service.usersBySession.lookup
      (loginRequest "ann" 2).sessionId ≠ none := by decide +kernel
  have hname : normalizeLoginName (loginRequest "ann" 2).packet.payload =
      some ⟨ascii "ann", ascii "ann"⟩ := by decide +kernel
  have hknown : KnownName (inMemoryState default loggedInHistory) (loginRequest "ann" 2) := by
    refine ⟨hgate, ?_⟩
    intro _ hother
    rw [hname, Option.some.injEq] at hother
    rw [← hother]
    exact loggedIn_stored
  have hmemory : memorySurroundings.InMemory := rfl
  have hkind : (loginRequest "ann" 2).kind = .packet := rfl
  have htype : (loginRequest "ann" 2).packet.type = .loginReq := rfl
  have hiff := refusedUnchanged_iff default inMemoryHistory_loggedIn hmemory hkind htype hlogged
  exact ⟨hknown, hiff.mpr hknown⟩

end SessionServer.MessageRouter
