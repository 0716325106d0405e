import SessionServer.MessageRouterEffect

/-!
# What an event leads to

The callback of a login, called on the spot or later, and the event behind a
session's last packet are the two other ways into the room service.  Together
with the packets they give one inversion lemma for `handle`.
-/

namespace SessionServer.MessageRouter

open Protocol

variable {Store : Type}
variable {turn : Turn Store}

/-! ## Logins -/

/-- The user a login attaches. -/
def attachedUser (id : SessionId) (record : UserRecord) : User :=
  ⟨record.userId, id, record.displayName⟩

/-- Everything a callback can lead to: the rooms behind it and the completion of
the deferred event.  Only a name that is not valid can fail to be sent. -/
inductive LoginEffect (rooms : RoomRun) (id : SessionId) (result : UserResult) :
    RoomRun → DeferredCompletionPayload → Prop
  | unknown {text : String} {message : OutboundMessage} (huser : result.user = none)
      (herror : error id text = .ok message) :
      LoginEffect rooms id result rooms ⟨false, [message]⟩
  | refused {record : UserRecord} {existing : User} {text : String}
      {message : OutboundMessage} (huser : result.user = some record)
      (hexisting : rooms.service.usersBySession.lookup id = some existing)
      (herror : error id text = .ok message) :
      LoginEffect rooms id result rooms ⟨false, [message]⟩
  | attached {record : UserRecord} {payload : Bytes} {message : OutboundMessage}
      (huser : result.user = some record)
      (hfree : rooms.service.usersBySession.lookup id = none)
      (hpayload : loginPayload (attachedUser id record) = .ok payload)
      (hmake : make id .loginRes payload = .ok message) :
      LoginEffect rooms id result (rooms.attachUser id record).2 ⟨false, [message]⟩
  | unsendable {record : UserRecord} (huser : result.user = some record)
      (hfree : rooms.service.usersBySession.lookup id = none)
      (hname : ¬ IsName maxUserNameBytes record.displayName) :
      LoginEffect rooms id result (rooms.attachUser id record).2 ⟨true, []⟩

section Login

variable (around : Surroundings Store)

theorem persistenceErrorText_length (kind : PersistenceErrorKind) :
    (persistenceErrorText kind).length ≤ 4092 := by
  cases kind <;> decide

theorem run_succeed (hfirst : turn.completions = [])
    (completion : CompletionId) {response : Except ProtocolError OutboundMessage}
    {message : OutboundMessage} (hresponse : response = .ok message) :
    runHandler around (do
        let response ← lift response
        let _ ← succeed completion [response]) turn =
      (.ok (), { turn with completions := [⟨false, [message]⟩] }) := by
  have hsucceed : runHandler around (succeed completion [message]) turn =
      (.ok true, { turn with completions := [⟨false, [message]⟩] }) :=
    run_complete around turn hfirst
  rw [hresponse, run_bind, run_lift_ok]
  simp only [run_bind, hsucceed, run_pure]

theorem run_fail (hfirst : turn.completions = []) (completion : CompletionId) :
    runHandler around (do
        let _ ← fail completion) turn =
      (.ok (), { turn with completions := [⟨true, []⟩] }) := by
  have hfail : runHandler around (fail completion) turn =
      (.ok true, { turn with completions := [⟨true, []⟩] }) :=
    run_complete around turn hfirst
  simp only [run_bind, hfail, run_pure]

/-- The response to a login that was granted: it is sent unless the name is not
valid. -/
theorem run_welcome (hfirst : turn.completions = []) (callback : LoginCallback) (user : User) :
    (∃ payload message, loginPayload user = .ok payload ∧
      make callback.sessionId .loginRes payload = .ok message ∧
      runHandler around (do
          let payload ← lift (loginPayload user)
          let response ← lift (make callback.sessionId .loginRes payload)
          let _ ← succeed callback.completion [response]) turn =
        (.ok (), { turn with completions := [⟨false, [message]⟩] })) ∨
    ¬ IsName maxUserNameBytes user.name ∧ ∃ exception,
      runHandler around (do
          let payload ← lift (loginPayload user)
          let response ← lift (make callback.sessionId .loginRes payload)
          let _ ← succeed callback.completion [response]) turn =
        (.error exception, turn) := by
  rw [run_bind]
  cases hpayload : loginPayload user with
  | error =>
    right
    refine ⟨?_, _, rfl⟩
    intro hname
    obtain ⟨payload, hok, _⟩ := loginPayload_ok hname
    simp [hpayload] at hok
  | ok payload =>
    simp only [run_lift_ok]
    cases hmake : make callback.sessionId .loginRes payload with
    | error =>
      right
      refine ⟨?_, _, rfl⟩
      intro hname
      obtain ⟨_, hok, hlength⟩ := loginPayload_ok hname
      rw [hpayload, Except.ok.injEq] at hok
      rw [← hok] at hlength
      obtain ⟨message, hmessage⟩ := make_ok callback.sessionId .loginRes hlength
      simp [hmake] at hmessage
    | ok message =>
      left
      exact ⟨payload, message, rfl, hmake, run_succeed around hfirst callback.completion rfl⟩

theorem run_invoke (callback : LoginCallback) (result : UserResult)
    (hfirst : turn.completions = []) :
    ∃ after completion,
      LoginEffect turn.state.rooms callback.sessionId result after completion ∧
      runHandler around (callback.invoke result) turn =
        (.ok (), { turn with
          state := { turn.state with rooms := after }
          completions := [completion] }) := by
  cases huser : result.user with
  | none =>
    obtain ⟨text, hlength, hinvoke⟩ : ∃ text : String, text.length ≤ 4092 ∧
        callback.invoke result = tryCatch
          (do
            let response ← lift (error callback.sessionId text)
            let _ ← succeed callback.completion [response])
          (fun _ => do
            let _ ← fail callback.completion) := by
      unfold LoginCallback.invoke
      rw [huser]
      cases result.error with
      | none => exact ⟨_, by decide, rfl⟩
      | some kind => exact ⟨_, persistenceErrorText_length kind, rfl⟩
    obtain ⟨message, herror, _⟩ := error_ok callback.sessionId hlength
    refine ⟨turn.state.rooms, _, .unknown huser herror, ?_⟩
    rw [hinvoke, run_tryCatch, run_succeed around hfirst callback.completion herror]
  | some record =>
    unfold LoginCallback.invoke
    rw [huser]
    cases hlookup : turn.state.rooms.service.usersBySession.lookup callback.sessionId with
    | some existing =>
      have hattach : turn.state.rooms.attachUser callback.sessionId record =
          ({ ok := false, error := "user is already logged in", user := existing },
            turn.state.rooms) := by
        simp [RoomRun.attachUser, RoomService.attachUser, hlookup]
      have hlength : "user is already logged in".length ≤ 4092 := by decide
      obtain ⟨message, herror, _⟩ := error_ok callback.sessionId hlength
      refine ⟨turn.state.rooms, _, .refused huser hlookup herror, ?_⟩
      have hsucceed := run_succeed around hfirst callback.completion herror
      simp only [run_tryCatch, run_bind _ _ (attachUser _ _), run_attachUser, hattach,
        Bool.not_false, if_true, hsucceed]
    | none =>
      have hattach : (turn.state.rooms.attachUser callback.sessionId record).1 =
          { ok := true, user := attachedUser callback.sessionId record } := by
        simp [RoomRun.attachUser, RoomService.attachUser, attachedUser, hlookup]
      let attached : Turn Store := { turn with state := { turn.state with
        rooms := (turn.state.rooms.attachUser callback.sessionId record).2 } }
      have hattached : attached.completions = [] := hfirst
      rcases run_welcome around hattached callback (attachedUser callback.sessionId record) with
        ⟨payload, message, hpayload, hmake, hrun⟩ | ⟨hname, exception, hrun⟩
      · refine ⟨_, _, .attached huser hlookup hpayload hmake, ?_⟩
        simp only [run_tryCatch, run_bind _ _ (attachUser _ _), run_attachUser, hattach,
          Bool.not_true, Bool.false_eq_true, if_false]
        rw [hrun]
      · refine ⟨_, _, .unsendable huser hlookup hname, ?_⟩
        simp only [run_tryCatch, run_bind _ _ (attachUser _ _), run_attachUser, hattach,
          Bool.not_true, Bool.false_eq_true, if_false]
        rw [hrun]
        exact run_fail around hattached callback.completion

/-- The event once the repository was asked. -/
def asked (around : Surroundings Store) (state : RouterState Store)
    (request : FindOrCreateUser) : Turn Store where
  state := { state with store := (around.repository state.store request).2 }
  deferred := true

/-- Logging in with a valid name: what follows depends on the repository. -/
theorem run_handleLogin (around : Surroundings Store) (state : RouterState Store)
    {id : SessionId} {payload : Bytes} {name : NormalizedLoginName}
    (hname : normalizeLoginName payload = some name) :
    runHandler around (handleLogin id payload) { state := state } =
      (.ok (),
        match (around.repository state.store ⟨name.normalized, name.display⟩).1 with
        | .called result => (runHandler around
            (LoginCallback.invoke ⟨id, 0⟩ result)
            (asked around state ⟨name.normalized, name.display⟩)).2
        | .kept => asked around state ⟨name.normalized, name.display⟩
        | .threw => { asked around state ⟨name.normalized, name.display⟩ with
            completions := [⟨true, []⟩] }) := by
  unfold handleLogin
  simp only [hname]
  rw [run_bind, run_defer around { state := state } rfl rfl]
  simp only [run_tryCatch, run_bind, run_findOrCreate]
  cases (around.repository state.store ⟨name.normalized, name.display⟩).1 with
  | called result =>
    have hfirst : (asked around state ⟨name.normalized, name.display⟩).completions = [] := rfl
    obtain ⟨_, _, _, hrun⟩ :=
      run_invoke around ⟨id, 0⟩ result hfirst
    unfold asked at hrun ⊢
    simp only [hrun]
  | kept | threw => rfl

end Login

/-! ## Disconnecting -/

/-- What is said when a session is gone. -/
inductive Parting (order : Enumeration) (rooms : RoomRun) (id : SessionId) :
    List OutboundMessage → Prop
  | silent (hsilent : (rooms.act order id .disconnect).1.ok = false ∨
        (rooms.act order id .disconnect).1.roomId = 0) :
      Parting order rooms id []
  | told {messages : List OutboundMessage}
      (hok : (rooms.act order id .disconnect).1.ok = true)
      (hroom : (rooms.act order id .disconnect).1.roomId ≠ 0)
      (htold : Notifies (some id)
        (roomPayload true (ascii "LEAVE") (rooms.act order id .disconnect).1)
        (rooms.act order id .disconnect).1 messages) :
      Parting order rooms id messages

theorem run_handleDisconnected (around : Surroundings Store)
    {state : RouterState Store} (hnames : NamesValid state.rooms) (id : SessionId) :
    ∃ messages, Parting around.order state.rooms id messages ∧
      runHandler around (handleDisconnected id) { state := state } =
        (.ok (), { state := { state with
                     versions := state.versions.erase id
                     rooms := (state.rooms.act around.order id .disconnect).2 }
                   emitted := transmit around.accepts 0 messages }) := by
  unfold handleDisconnected disconnectUser
  rw [run_bind, run_eraseVersion]
  simp only
  rw [run_bind, run_act]
  by_cases hsilent : (state.rooms.act around.order id .disconnect).1.ok = false ∨
      (state.rooms.act around.order id .disconnect).1.roomId = 0
  · refine ⟨[], .silent hsilent, ?_⟩
    have hcond : (!(state.rooms.act around.order id .disconnect).1.ok ||
        (state.rooms.act around.order id .disconnect).1.roomId == 0) = true := by
      simpa using hsilent
    simp only [hcond, if_true]
    rfl
  · have hcond : ¬ (!(state.rooms.act around.order id .disconnect).1.ok ||
        (state.rooms.act around.order id .disconnect).1.roomId == 0) = true := by
      simpa using hsilent
    rw [not_or, Bool.not_eq_false] at hsilent
    have hevent : SmallValue (ascii "LEAVE") :=
      smallValue_ascii (by decide) (by decide)
    obtain ⟨messages, htold⟩ := notifies_room
      (hnames id _ (RoomRun.act_actor hsilent.1)) (some id) hevent
    refine ⟨messages, .told hsilent.1 hsilent.2 htold, ?_⟩
    simp only [hcond, Bool.false_eq_true, if_false]
    rw [run_notify around _ htold]
    rfl

/-! ## Events -/

/-- Everything an event can lead to. -/
inductive EventEffect (floats : FloatText) (around : Surroundings Store)
    (state : RouterState Store) (event : SessionEvent) : Turn Store → Prop
  | parted {messages : List OutboundMessage} (hkind : event.kind = .disconnected)
      (hparting : Parting around.order state.rooms event.sessionId messages) :
      EventEffect floats around state event
        { state := { state with
            versions := state.versions.erase event.sessionId
            rooms := (state.rooms.act around.order event.sessionId .disconnect).2 }
          emitted := transmit around.accepts 0 messages }
  | dismissed {versions : Versions} {emitted : List (OutboundMessage × Bool)}
      (hkind : event.kind ≠ .disconnected)
      (hown : ∀ entry ∈ emitted, entry.1.sessionId = event.sessionId) :
      EventEffect floats around state event
        { state := { state with versions := versions }, emitted := emitted }
  | handled {after : RoomRun} {messages : List OutboundMessage}
      (hkind : event.kind ≠ .disconnected) (hlogin : event.packet.type ≠ .loginReq)
      (heffect : PacketEffect floats around.order state.rooms event.sessionId
        event.packet after messages) :
      EventEffect floats around state event
        { state := { state with rooms := after }
          emitted := transmit around.accepts 0 messages }
  | unnamed {message : OutboundMessage} (hkind : event.kind ≠ .disconnected)
      (hlogin : event.packet.type = .loginReq)
      (hname : normalizeLoginName event.packet.payload = none)
      (herror : error event.sessionId "invalid user name" = .ok message) :
      EventEffect floats around state event
        { state := state, emitted := [(message, around.accepts 0 message)] }
  | kept {name : NormalizedLoginName} (hkind : event.kind ≠ .disconnected)
      (hlogin : event.packet.type = .loginReq)
      (hname : normalizeLoginName event.packet.payload = some name)
      (hkept : (around.repository state.store ⟨name.normalized, name.display⟩).1 = .kept) :
      EventEffect floats around state event (asked around state ⟨name.normalized, name.display⟩)
  | threw {name : NormalizedLoginName} (hkind : event.kind ≠ .disconnected)
      (hlogin : event.packet.type = .loginReq)
      (hname : normalizeLoginName event.packet.payload = some name)
      (hthrew : (around.repository state.store ⟨name.normalized, name.display⟩).1 = .threw) :
      EventEffect floats around state event
        { asked around state ⟨name.normalized, name.display⟩ with
          completions := [⟨true, []⟩] }
  | called {name : NormalizedLoginName} {result : UserResult} {after : RoomRun}
      {completion : DeferredCompletionPayload} (hkind : event.kind ≠ .disconnected)
      (hlogin : event.packet.type = .loginReq)
      (hname : normalizeLoginName event.packet.payload = some name)
      (hcalled : (around.repository state.store ⟨name.normalized, name.display⟩).1 = .called result)
      (heffect : LoginEffect state.rooms event.sessionId result after completion) :
      EventEffect floats around state event
        { state := { state with
            rooms := after
            store := (around.repository state.store
              ⟨name.normalized, name.display⟩).2 }
          deferred := true
          completions := [completion] }

section Event

variable (floats : FloatText) (around : Surroundings Store) {state : RouterState Store}
  {event : SessionEvent}

theorem eventEffect_login (hkind : event.kind ≠ .disconnected)
    (hlogin : event.packet.type = .loginReq) :
    ∃ turn, EventEffect floats around state event turn ∧
      runHandler around (handleLogin event.sessionId event.packet.payload)
        { state := state } = (.ok (), turn) := by
  cases hname : normalizeLoginName event.packet.payload with
  | none =>
    have hlength : "invalid user name".length ≤ 4092 := by decide
    obtain ⟨_, herror, _⟩ := error_ok event.sessionId hlength
    refine ⟨_, .unnamed hkind hlogin hname herror, ?_⟩
    unfold handleLogin
    simp only [hname]
    rw [run_reject around _ herror]
    rfl
  | some name =>
    rw [run_handleLogin around state hname]
    cases hanswer : (around.repository state.store ⟨name.normalized, name.display⟩).1 with
    | kept => exact ⟨_, .kept hkind hlogin hname hanswer, rfl⟩
    | threw => exact ⟨_, .threw hkind hlogin hname hanswer, rfl⟩
    | called result =>
      have hfirst : (asked around state ⟨name.normalized, name.display⟩).completions = [] := rfl
      obtain ⟨_, _, heffect, hrun⟩ :=
        run_invoke around ⟨event.sessionId, 0⟩ result hfirst
      refine ⟨_, .called hkind hlogin hname hanswer heffect, ?_⟩
      simp only [hrun]
      rfl

/-- The inversion of `handle`: no exception leaves it. -/
theorem run_handle (hnames : NamesValid state.rooms) (event : SessionEvent) :
    ∃ turn, EventEffect floats around state event turn ∧
      runHandler around (handle floats event) { state := state } = (.ok (), turn) := by
  by_cases hkind : event.kind = .disconnected
  · obtain ⟨messages, hparting, hrun⟩ :=
      run_handleDisconnected around hnames event.sessionId
    refine ⟨_, .parted hkind hparting, ?_⟩
    unfold handle
    rw [if_pos hkind, hrun]
  · rcases run_handleNegotiation_cases around state event.sessionId event.packet with
      ⟨⟨version, hlookup, hversion, htype⟩, _⟩ | ⟨versions, emitted, hown, hrun⟩
    · rw [run_handle_served floats around hkind hlookup hversion htype]
      by_cases hlogin : event.packet.type = .loginReq
      · obtain ⟨turn, heffect, hrun⟩ := eventEffect_login floats around hkind hlogin
        refine ⟨turn, heffect, ?_⟩
        unfold serve handlePacket
        rw [if_pos hlogin, run_tryCatch, hrun]
      · obtain ⟨_, _, heffect, hrun⟩ :=
          packetEffect_serve hnames around hlogin
        exact ⟨_, .handled hkind hlogin heffect, hrun⟩
    · exact ⟨_, .dismissed hkind hown, run_handle_negotiated floats hkind hrun⟩

theorem eventEffect_handleEvent (hnames : NamesValid state.rooms) (event : SessionEvent) :
    EventEffect floats around state event (handleEvent floats around state event) := by
  obtain ⟨_, heffect, hrun⟩ := run_handle floats around hnames event
  unfold handleEvent
  rw [hrun]
  exact heffect

end Event

end SessionServer.MessageRouter
