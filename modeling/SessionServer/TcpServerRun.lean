import SessionServer.TcpServerLoop

/-!
# Every run of the network thread

What holds in every configuration that a run reaches, whatever the kernel
answers and whatever the other threads do: the streams of the sessions, read
backpressure, the limits, the tables, the output and the shutdown.
-/

namespace SessionServer.TcpServer

open Protocol InteractionProgram ReferenceCodec Option

variable {config : ServerConfig} {state : ServerConfiguration}

/-! ## The start -/

theorem sound_initial (config : ServerConfig) : Sound config {} := by
  have hlookup (fd : Fd) : ({} : IoState).sessionsByFd.lookup fd = none :=
    Finmap.lookup_empty fd
  have hheld (session : Session) : ¬ ({} : IoState).Holds session := by
    rintro (⟨fd, hsome⟩ | hdeferred)
    · rw [hlookup] at hsome
      cases hsome
    · cases hdeferred
  constructor
  · exact .clear {}
  · intro _
    rfl
  · intro fd session _ hsome
    exact (hheld session (.inl ⟨fd, hsome⟩)).elim
  · exact List.nodup_nil
  · exact List.nodup_nil
  · constructor
    · rfl
    · exact List.nodup_nil
    · intro session hin
      cases hin
    · intro session hin
      cases hin
    · exact Nat.zero_le _
    · intro _ hsome
      exact absurd rfl hsome
  · intro id
    exact ⟨[], [], .nil [], .inl rfl⟩
  · intro session hsession
    exact (hheld session hsession).elim
  · intro _
    exact List.prefix_rfl
  · exact List.not_mem_nil

theorem steady_initial (config : ServerConfig) : Steady config none {} := by
  have hlookup (fd : Fd) : ({} : IoState).sessionsByFd.lookup fd = none :=
    Finmap.lookup_empty fd
  refine { sound_initial config with
    opened := nofun
    moved := rfl
    counted := rfl
    ids_lt := ?_
    tokens_lt := ?_
    unborn := fun _ _ => ⟨rfl, rfl, rfl, rfl⟩
    tracks := ?_
    writes := ?_
    quiet := ?_
    control := ⟨fun _ => rfl, fun _ => rfl, fun hstopped => absurd rfl hstopped, nofun⟩
    drained := nofun }
  · intro entry hin
    cases hin
  · intro _ hin
    cases hin
  · rintro session (⟨fd, hsome⟩ | hdeferred)
    · rw [hlookup] at hsome
      cases hsome
    · cases hdeferred
  · intro fd session hsome
    cases hsome
  · constructor
    · intro fd _ hsome
      cases hsome
    · intro fd hin
      cases hin
    · intro _ hin
      cases hin
    · intro _ hsome
      exact absurd rfl hsome

theorem alert_initial (config : ServerConfig) : Alert config .pauses {} (.initial config) where
  capacity := rfl
  isOpen := fun _ => ⟨rfl, rfl⟩
  unforced := fun _ => rfl
  finished := by
    intro hnone
    change max 1 config.workerCount = 0 at hnone
    omega
  resume := nofun

/-! ## Reachable configurations -/

section Reachable

variable (hreach : Reachable config state)
include hreach

theorem Reachable.works :
    Works config (fun _ after _ => Sound config after) state.program state.own state.shared := by
  have hstart : Works config (fun _ after _ => Sound config after) (initial config).program
      (initial config).own (initial config).shared := by
    apply (works_run ⟨steady_initial config, alert_initial config⟩).mono
    intro _ after _ hafter
    exact hafter.1
  apply Environment.Safe.reaches _ hstart hreach
  rintro (_ | _) _ before after hpost hstep
  · obtain ⟨hsound, watch, io, halert⟩ := hpost
    exact ⟨hsound, watch, io, Alert.stable config watch io before after halert hstep⟩
  · exact hpost

theorem Reachable.guarded {request : IoCall}
    {next : IoAnswer request → Io Unit} (hprogram : state.program = .call request next) :
    guard config request state.own state.shared := by
  have hworks := hreach.works
  rw [hprogram] at hworks
  exact Environment.Safe.guarded hworks

theorem Reachable.sound : Sound config state.own := by
  have hcall (request : IoCall) (server : Server) (shared : Shared)
      (hguard : guard config request server shared) : Sound config server := by
    cases request with
    | undefinedBehaviour => exact hguard.elim
    | loopHead => exact hguard.1.toSound
    | modify | enterPhase | accept | recv | feed | send | recordDisconnect | raise =>
      exact hguard.1
    | _ => exact hguard
  have hend (result : Except ServerException Unit) (server : Server) (shared : Shared)
      (hpost : Outcome config (fun _ after _ => Sound config after) result server shared) :
      Sound config server := by
    cases result with
    | ok => exact hpost
    | error => exact hpost.1
  have halways := Environment.Safe.always hreach.works hcall hend
  exact halways

theorem Reachable.settled (hhead : AtLoopHead state) : Settled config state.own state.shared := by
  obtain ⟨_, hprogram⟩ := hhead
  exact hreach.guarded hprogram

end Reachable

/-! ## A run with one session -/

def smallConfig : ServerConfig where
  inboundQueueCapacity := 4
  inboundHighWatermark := 3
  inboundLowWatermark := 1
  outboundQueueCapacity := 4
  workerCount := 1
  maxPendingWriteBytes := 64
  maxSessions := 2
  low_pos := by decide
  low_lt_high := by decide
  high_le_capacity := by decide
  outboundQueueCapacity_pos := by decide
  maxPendingWriteBytes_pos := by decide
  maxSessions_pos := by decide

abbrev unitReply : Move Interference Reply := .reply .unit

abbrev boolReply (yes : Bool) : Move Interference Reply := .reply (.bool yes)

abbrev units (count : ℕ) : List (Move Interference Reply) := .replicate count unitReply

abbrev waitReply (events : List EpollEvent) : Move Interference Reply :=
  .reply (.events (some events))

/-- A connection is about to be accepted. -/
def listeningMoves : List (Move Interference Reply) :=
  .reply (.number 9) :: units 5 ++ waitReply [{ token := 1, readable := true }] :: units 2 ++
    boolReply false :: units 3

/-- The connection is accepted, and the next one is asked for. -/
def acceptingMoves (fd : Fd) : List (Move Interference Reply) :=
  .reply (.accepted (.accepted fd)) :: units 2 ++ boolReply true :: units 1 ++
    boolReply true :: units 2

/-- Two connections are accepted, and a packet without payload is read from one. -/
def receivingMoves : List (Move Interference Reply) :=
  listeningMoves ++ acceptingMoves 5 ++ acceptingMoves 6 ++
    .reply (.accepted .wouldBlock) :: units 4 ++ .reply (.fds []) :: units 6 ++
    waitReply [{ token := 4, readable := true }] :: units 2 ++ boolReply false :: units 4 ++
    .reply (.number 9) :: units 1 ++ .reply (.received (.data [0, 4, 0, 1])) :: units 3 ++
    .reply (.number 9) :: units 7 ++ .reply (.received .wouldBlock) :: units 5 ++
    .reply (.fds []) :: units 1

/-- Three more packets arrive, of which two can be pushed.  The other connection
fails while the inbox is full.  A message of three bytes is published, and the
kernel takes two of them. -/
def busyMoves : List (Move Interference Reply) :=
  receivingMoves ++ .interfere (.workerPublish { sessionId := 1, bytes := [1, 2, 3] }) ::
    units 5 ++
    waitReply [{ token := 4, readable := true }, { token := 5, error := true }] :: units 2 ++
    boolReply false :: units 4 ++ .reply (.number 9) :: units 1 ++
    .reply (.received (.data [0, 4, 0, 1, 0, 4, 0, 1, 0, 4, 0, 1])) :: units 3 ++
    .reply (.number 9) :: units 15 ++ .reply (.fds [5, 6]) :: units 1 ++
    boolReply true :: units 1 ++ boolReply true :: units 4 ++ boolReply false :: units 2 ++
    .interfere (.completionPush
      { kind := .deferredCompletion, sessionId := 2, sequence := 0 }) :: units 16 ++
    boolReply true :: units 3 ++ .reply (.fds []) :: units 6 ++
    waitReply [{ token := 4, writable := true }] :: units 2 ++ boolReply false :: units 5 ++
    .reply (.number 9) :: units 1 ++ .reply (.sent (.sent 2)) :: units 2 ++
    .reply (.sent .wouldBlock) :: units 1 ++ boolReply true :: units 4 ++
    .reply (.fds []) :: units 1

def ServerConfiguration.atLoopHead (state : ServerConfiguration) : Bool :=
  match state.program with
  | .call .loopHead _ => true
  | _ => false

theorem atLoopHead_of_eq_true (hhead : state.atLoopHead = true) : AtLoopHead state := by
  unfold ServerConfiguration.atLoopHead at hhead
  split at hhead
  · next next hprogram => exact ⟨next, hprogram⟩
  · cases hhead

theorem reachable_of_run {moves : List (Move Interference Reply)}
   
    (hrun : TransitionSystem.run (environment config).step moves (initial config) =
      some state) : Reachable config state :=
  .of_run hrun (TransitionSystem.guarded_of_forall fun _ _ _ => trivial)

theorem receivingMoves_reach :
    ∃ state, Reachable smallConfig state ∧ AtLoopHead state ∧
      state.own.io.shutdownPhase = .running ∧
      state.own.registering = false ∧
      state.own.io.sessionsByFd.lookup 5 ≠ none ∧
      eventsFor state.own.pushed 1 = packetEvents 1 [⟨⟨1⟩, []⟩] := by
  have hrun : (TransitionSystem.run (environment smallConfig).step receivingMoves
      (initial smallConfig)).any (fun state : ServerConfiguration =>
        state.atLoopHead && decide (state.own.io.shutdownPhase = .running ∧
          state.own.registering = false ∧
          (state.own.io.sessionsByFd.lookup 5).isSome = true ∧
          eventsFor state.own.pushed 1 = packetEvents 1 [⟨⟨1⟩, []⟩])) = true := by
    decide +kernel
  obtain ⟨state, hstate, hchecked⟩ := (any_eq_true _ _).mp hrun
  rw [Bool.and_eq_true, decide_eq_true_iff] at hchecked
  obtain ⟨hhead, hrunning, hadded, hlive, hpushed⟩ := hchecked
  exact ⟨state, reachable_of_run hstate, atLoopHead_of_eq_true hhead, hrunning,
    hadded, isSome_iff_ne_none.mp hlive, hpushed⟩

theorem busyMoves_reach :
    ∃ state session, Reachable smallConfig state ∧ AtLoopHead state ∧
      state.own.io.shutdownPhase = .running ∧
      state.own.io.readsPaused = true ∧
      state.own.io.deferredDisconnects ≠ [] ∧
      state.own.io.sessionsByFd.lookup 5 = some session ∧ session.id = 1 ∧
      session.codec.peekPacket = .ok (some ⟨⟨1⟩, []⟩) ∧
      state.own.sent 1 = [1, 2] := by
  have hrun : (TransitionSystem.run (environment smallConfig).step busyMoves
      (initial smallConfig)).any (fun state : ServerConfiguration =>
        state.atLoopHead && decide (state.own.io.shutdownPhase = .running ∧
          state.own.io.readsPaused = true ∧
          state.own.io.deferredDisconnects.isEmpty = false ∧
          (state.own.io.sessionsByFd.lookup 5).any (fun session => decide
            (session.id = 1 ∧ session.codec.peekPacket = .ok (some ⟨⟨1⟩, []⟩))) = true ∧
          state.own.sent 1 = [1, 2])) = true := by
    decide +kernel
  obtain ⟨state, hstate, hchecked⟩ := (any_eq_true _ _).mp hrun
  rw [Bool.and_eq_true, decide_eq_true_iff] at hchecked
  obtain ⟨hhead, hrunning, hpaused, hdeferred, hlive, hsent⟩ := hchecked
  obtain ⟨session, hlookup, hsession⟩ := (any_eq_true _ _).mp hlive
  obtain ⟨hid, hpeek⟩ := of_decide_eq_true hsession
  exact ⟨state, session, reachable_of_run hstate, atLoopHead_of_eq_true hhead,
    hrunning, hpaused, by simpa using hdeferred, hlookup, hid, hpeek, hsent⟩

/-! ## Streams -/

/-- The events of a session are its packets in order and at most one
Disconnected, after all packets that the bytes received hold. -/
theorem session_stream (hreach : Reachable config state) (id : ℕ) :
    ∃ packets, packets <+: packetsOf (state.own.received id) ∧
      (eventsFor state.own.pushed id = packetEvents id packets ∨
        eventsFor state.own.pushed id =
            packetEvents id packets ++ [disconnectedEvent id packets.length] ∧
          packets = packetsOf (state.own.received id)) := by
  obtain ⟨packets, _, hdecodes, hevents⟩ := hreach.sound.delivered id
  have hpackets := hdecodes.packetsOf_eq
  refine ⟨packets, ?_, ?_⟩
  · rw [hpackets]
    exact List.prefix_append _ _
  rcases hevents with hopen | ⟨hclosed, hlast⟩
  · exact .inl hopen
  · right
    rw [packetsOf_eq_nil hlast, List.append_nil] at hpackets
    exact ⟨hclosed, hpackets.symm⟩

theorem session_stream_receivingMoves :
    ∃ state, Reachable smallConfig state ∧
      eventsFor state.own.pushed 1 = packetEvents 1 [⟨⟨1⟩, []⟩] ∧
      ∃ packets, packets <+: packetsOf (state.own.received 1) ∧
        (eventsFor state.own.pushed 1 = packetEvents 1 packets ∨
          eventsFor state.own.pushed 1 =
              packetEvents 1 packets ++ [disconnectedEvent 1 packets.length] ∧
            packets = packetsOf (state.own.received 1)) := by
  obtain ⟨state, hreach, _, _, _, _, hpushed⟩ := receivingMoves_reach
  exact ⟨state, hreach, hpushed, session_stream hreach 1⟩

/-! ## Backpressure -/

theorem backpressure_not_stuck (hreach : Reachable config state) (hhead : AtLoopHead state)
    (hrunning : state.own.io.shutdownPhase = .running) :
    state.own.io.readsPaused = state.own.io.readBackpressure.paused ∧
      state.own.io.listenerRegistered = !state.own.io.readsPaused ∧
      (state.own.io.readsPaused = true → state.shared.WillResume config) := by
  obtain ⟨hsteady, halert⟩ := hreach.settled hhead
  exact ⟨hsteady.control.controller hrunning, hsteady.control.listener hrunning,
    halert.resume hrunning⟩

theorem backpressure_not_stuck_busyMoves :
    ∃ state, Reachable smallConfig state ∧ AtLoopHead state ∧
      state.own.io.shutdownPhase = .running ∧
      state.own.io.readsPaused = true ∧
      state.own.io.readBackpressure.paused = true ∧
      state.own.io.listenerRegistered = false ∧
      state.shared.WillResume smallConfig := by
  obtain ⟨state, _, hreach, hhead, hrunning, hpaused, _⟩ := busyMoves_reach
  obtain ⟨hcontroller, hlistener, hresume⟩ := backpressure_not_stuck hreach hhead hrunning
  rw [hpaused] at hcontroller hlistener
  exact ⟨state, hreach, hhead, hrunning, hpaused, hcontroller.symm, hlistener, hresume hpaused⟩

theorem deferred_disconnects_limited (hreach : Reachable config state) :
    state.own.io.sessionCount + state.own.io.deferredDisconnects.length ≤ config.maxSessions ∧
      (state.own.io.shutdownPhase = .running →
        state.own.io.deferredDisconnects ≠ [] →
        state.own.io.readsPaused = true) ∧
      (∀ next, state.program = .call .accept next → state.own.io.deferredDisconnects = []) ∧
      (∀ next, state.program ≠ .call (.raise limitException) next) ∧
      limitException ∉ state.own.raised := by
  have hdeferrals := hreach.sound.deferrals
  refine ⟨hdeferrals.limit, hdeferrals.paused, ?_, ?_, hreach.sound.raised⟩
  · intro next hprogram
    obtain ⟨_, hrunning, hreading, _⟩ := hreach.guarded hprogram
    by_contra hsome
    rw [hdeferrals.paused hrunning hsome] at hreading
    cases hreading
  · intro _ hprogram
    exact (hreach.guarded hprogram).2 rfl

theorem deferred_disconnects_limited_busyMoves :
    ∃ state, Reachable smallConfig state ∧
      state.own.io.sessionsByFd.lookup 5 ≠ none ∧
      state.own.io.deferredDisconnects ≠ [] ∧
      state.own.io.sessionCount + state.own.io.deferredDisconnects.length ≤ 2 ∧
      state.own.io.readsPaused = true ∧
      limitException ∉ state.own.raised := by
  obtain ⟨state, session, hreach, _, hrunning, _, hdeferred, hlookup, _⟩ :=
    busyMoves_reach
  obtain ⟨hlimit, hpaused, _, _, hraised⟩ := deferred_disconnects_limited hreach
  exact ⟨state, hreach, by simp [hlookup], hdeferred, hlimit, hpaused hrunning hdeferred, hraised⟩

theorem frames_not_stranded (hreach : Reachable config state) :
    (AtLoopHead state → state.own.io.shutdownPhase = .running →
        (∀ fd session packet, state.own.io.sessionsByFd.lookup fd = some session →
          session.codec.peekPacket = .ok (some packet) →
          fd ∈ state.own.io.deferredReadFdSet) ∧
        (∀ fd ∈ state.own.io.deferredReadFdSet, fd ∈ state.own.io.deferredReadFds) ∧
        (state.own.io.deferredReadFdSet ≠ ∅ → state.own.io.readsPaused = true)) ∧
      (∀ fd next session packet, state.program = .call (.feed fd) next →
        state.own.io.sessionsByFd.lookup fd = some session →
        session.codec.peekPacket ≠ .ok (some packet)) ∧
      ∀ session, state.own.io.Holds session → session.codec.bufferedByteCount ≤ 8191 := by
  refine ⟨?_, ?_, hreach.sound.bounded⟩
  · intro hhead hrunning
    have hquiet := (hreach.settled hhead).1.quiet
    refine ⟨?_, hquiet.queued, hquiet.paused hrunning⟩
    intro fd session packet hlookup hpeek
    by_contra hout
    rw [hquiet.idle fd session hlookup hout (by simp)] at hpeek
    cases hpeek
  · intro _ _ session _ hprogram hlookup
    rw [(hreach.guarded hprogram).2 session hlookup]
    simp

theorem frames_not_stranded_busyMoves :
    ∃ state session, Reachable smallConfig state ∧ AtLoopHead state ∧
      state.own.io.shutdownPhase = .running ∧
      state.own.io.sessionsByFd.lookup 5 = some session ∧
      session.codec.peekPacket = .ok (some ⟨⟨1⟩, []⟩) ∧
      5 ∈ state.own.io.deferredReadFdSet ∧
      5 ∈ state.own.io.deferredReadFds ∧
      state.own.io.readsPaused = true ∧
      session.codec.bufferedByteCount ≤ 8191 := by
  obtain ⟨state, session, hreach, hhead, hrunning, _, _, hlookup, _, hpeek, _⟩ :=
    busyMoves_reach
  obtain ⟨hkept, _, hbounded⟩ := frames_not_stranded hreach
  obtain ⟨hdeferred, hqueued, hpaused⟩ := hkept hhead hrunning
  have hin := hdeferred 5 session _ hlookup hpeek
  exact ⟨state, session, hreach, hhead, hrunning, hlookup, hpeek, hin, hqueued 5 hin,
    hpaused (Finset.ne_empty_of_mem hin), hbounded session (.inl ⟨5, hlookup⟩)⟩

/-! ## Tables -/

/-- The session that is registered with the token. -/
def tokenScope (io : IoState) (token : ℕ) : Scope where
  fds := {fd | io.registrationTokenByFd.lookup fd = some token}
  ids := {id | ∃ fd session, io.registrationTokenByFd.lookup fd = some token ∧
    io.sessionsByFd.lookup fd = some session ∧ session.id = id}

/-- The session with the id. -/
def idScope (io : IoState) (id : ℕ) : Scope where
  fds := {fd | io.fdBySession.lookup id = some fd}
  ids := {id}

/-- The session of the descriptor. -/
def fdScope (io : IoState) (fd : Fd) : Scope where
  fds := {fd}
  ids := {id | ∃ session, io.sessionsByFd.lookup fd = some session ∧ session.id = id}

section Confined

variable {server : Server}

theorem confined_handleEvent {event : EpollEvent} (houtbound : event.token ≠ outboundWakeupToken)
    (hcapacity : event.token ≠ inputCapacityWakeupToken) (hlistener : event.token ≠ listenerToken) :
    Confined config (tokenScope server.io event.token) server (handleEvent config event) := by
  apply confined_of_safe
  intro _
  have hkeeps : (tokenScope server.io event.token).Keeps server server := by
    apply Scope.keeps_self
    intro fd hfd session hlookup
    exact ⟨fd, session, hfd, hlookup, rfl⟩
  exact safe_handleEvent hkeeps houtbound hcapacity hlistener fun _ htoken => htoken

theorem confined_deliver (hsound : Sound config server) (message : OutputMessage) :
    Confined config (idScope server.io message.sessionId) server (deliver config message) := by
  have htables := hsound.tables
  apply confined_of_safe
  intro _
  apply safe_deliver
  · apply Scope.keeps_self
    intro fd hfd session hlookup
    obtain ⟨_, hsame, hid⟩ := (htables.session_iff message.sessionId fd).mp hfd
    rw [hlookup] at hsame
    rw [Option.some.inj hsame]
    exact hid
  · intro fd hfd
    refine ⟨hfd, ?_⟩
    intro session hlookup
    rw [htables.session_fd fd session hlookup]
    exact hfd

theorem confined_disconnect (fd : Fd) (reason : DisconnectReason) :
    Confined config (fdScope server.io fd) server (disconnect config fd reason) := by
  apply confined_of_safe
  intro shared
  have hkeeps : (fdScope server.io fd).Keeps server server := by
    apply Scope.keeps_self
    rintro _ rfl session hlookup
    exact ⟨session, hlookup, rfl⟩
  exact within_disconnect reason rfl server shared hkeeps

end Confined

/-- The tables agree, nothing is reused, and what carries an old token or an old
id reaches no other session. -/
theorem tables_agree (hreach : Reachable config state) :
    (state.own.io.sessionsByFd.keys = state.own.io.registrationTokenByFd.keys ∧
      (∀ fd token, state.own.io.registrationTokenByFd.lookup fd = some token ↔
        state.own.io.fdByRegistrationToken.lookup token = some fd) ∧
      (∀ id fd, state.own.io.fdBySession.lookup id = some fd ↔
        ∃ session, state.own.io.sessionsByFd.lookup fd = some session ∧ session.id = id)) ∧
    ((state.own.registrations.map Prod.fst).Nodup ∧
      (state.own.registrations.map Prod.snd).Nodup ∧
      (∀ fd session token, state.own.io.sessionsByFd.lookup fd = some session →
        state.own.io.registrationTokenByFd.lookup fd = some token →
        (session.id, token) ∈ state.own.registrations)) ∧
    (state.own.registering = false → state.own.io.currentSessions = state.own.io.sessionCount) ∧
    (AtLoopHead state → state.own.io.currentSessions = state.own.io.sessionsByFd.keys.card ∧
      state.own.io.sessionCount = state.own.io.sessionsByFd.keys.card) ∧
    (∀ event, event.token ≠ outboundWakeupToken → event.token ≠ inputCapacityWakeupToken →
      event.token ≠ listenerToken →
      Confined config (tokenScope state.own.io event.token) state.own (handleEvent config event)) ∧
    (∀ message, Confined config (idScope state.own.io message.sessionId)
      state.own (deliver config message)) := by
  have hsound := hreach.sound
  refine ⟨⟨hsound.tables.keys_eq, hsound.tables.inverse, hsound.tables.session_iff⟩,
    ⟨hsound.ids_nodup, hsound.tokens_nodup, hsound.registered⟩, hsound.current, ?_, ?_, ?_⟩
  · intro hhead
    have hsteady := (hreach.settled hhead).1
    have hlive : state.own.io.sessionCount = state.own.io.sessionsByFd.keys.card := by
      unfold ConnectionTables.sessionCount
      rw [hsteady.moved, Nat.add_zero]
    exact ⟨(hsound.current hsteady.counted).trans hlive, hlive⟩
  · intro _ houtbound hcapacity hlistener
    exact confined_handleEvent houtbound hcapacity hlistener
  · intro message
    exact confined_deliver hsound message

theorem tables_agree_receivingMoves :
    ∃ state, Reachable smallConfig state ∧
      state.own.io.sessionsByFd.lookup 5 ≠ none ∧
      state.own.io.currentSessions = state.own.io.sessionCount ∧
      ∀ message, Confined smallConfig (idScope state.own.io message.sessionId)
        state.own (deliver smallConfig message) := by
  obtain ⟨state, hreach, _, _, hadded, hlive, _⟩ := receivingMoves_reach
  obtain ⟨_, _, hcurrent, _, _, hdeliver⟩ := tables_agree hreach
  exact ⟨state, hreach, hlive, hcurrent hadded, hdeliver⟩

/-- `epoll_ctl` refuses the accepted connection, which is already in the tables
but not counted when the exception is caught. -/
theorem session_not_counted :
    ∃ config state, Reachable config state ∧
      state.own.raised = [.runtimeError "epoll_ctl add failed"] ∧
      state.own.io.currentSessions ≠ state.own.io.sessionCount := by
  have hrun : (TransitionSystem.run (environment smallConfig).step (listeningMoves ++
      .reply (.accepted (.accepted 5)) :: units 2 ++ boolReply true :: units 1 ++
      boolReply false :: units 1)
      (initial smallConfig)).any (fun state : ServerConfiguration =>
        decide (state.own.raised = [.runtimeError "epoll_ctl add failed"] ∧
          state.own.io.currentSessions ≠ state.own.io.sessionCount)) =
      true := by
    decide +kernel
  obtain ⟨state, hstate, hchecked⟩ := (any_eq_true _ _).mp hrun
  obtain ⟨hraised, huncounted⟩ := of_decide_eq_true hchecked
  exact ⟨smallConfig, state, reachable_of_run hstate, hraised, huncounted⟩

/-! ## Output -/

theorem output_in_order (hreach : Reachable config state) :
    (∀ id, state.own.sent id <+: outboundBytes (state.own.addressed id)) ∧
    (∀ fd data next session, state.program = .call (.send fd data) next →
      state.own.io.sessionsByFd.lookup fd = some session →
      state.own.sent session.id ++ data <+: outboundBytes (state.own.addressed session.id)) ∧
    (∀ fd next session,
      state.program = .call (.recordDisconnect fd .closeAfterFlush) next →
      state.own.io.sessionsByFd.lookup fd = some session →
      closesSession (state.own.addressed session.id) = true ∧
        state.own.sent session.id = outboundBytes (state.own.addressed session.id)) ∧
    (AtLoopHead state → ∀ fd session,
      state.own.io.sessionsByFd.lookup fd = some session →
      state.own.sent session.id ++ session.pendingBytes =
        outboundBytes (state.own.addressed session.id)) ∧
    (∀ message, Confined config (idScope state.own.io message.sessionId)
      state.own (deliver config message)) ∧
    (∀ fd reason, Confined config (fdScope state.own.io fd) state.own
      (disconnect config fd reason)) := by
  have hsound := hreach.sound
  refine ⟨hsound.outbound, ?_, ?_, ?_, fun message => confined_deliver hsound message,
    fun fd reason => confined_disconnect fd reason⟩
  · intro fd _ next session hprogram hlookup
    exact (hreach.guarded hprogram).2 session hlookup
  · intro fd _ session hprogram hlookup
    exact (hreach.guarded hprogram).2 rfl session hlookup
  · intro hhead fd session hlookup
    exact ((hreach.settled hhead).1.writes fd session hlookup).bytes

theorem output_in_order_busyMoves :
    ∃ state session, Reachable smallConfig state ∧
      state.own.io.sessionsByFd.lookup 5 = some session ∧
      state.own.sent 1 = [1, 2] ∧
      [1, 2] <+: outboundBytes (state.own.addressed 1) ∧
      [1, 2] ++ session.pendingBytes = outboundBytes (state.own.addressed 1) := by
  obtain ⟨state, session, hreach, hhead, _, _, _, hlookup, hid, _, hsent⟩ :=
    busyMoves_reach
  obtain ⟨hbegun, _, _, howes, _⟩ := output_in_order hreach
  have hbytes := howes hhead 5 session hlookup
  have hbefore := hbegun 1
  rw [hid, hsent] at hbytes
  rw [hsent] at hbefore
  exact ⟨state, session, hreach, hlookup, hsent, hbefore, hbytes⟩

/-! ## Shutdown -/

theorem respond_phase {request : IoCall} {server after : Server} {shared later : Shared}
    {reply : Reply} {answer : IoAnswer request}
    (hupdate : ∀ update, request ≠ .modify update) (hphase : ∀ phase, request ≠ .enterPhase phase)
    (hrespond : respond request server shared reply = some (answer, after, later)) :
    after.io.shutdownPhase = server.io.shutdownPhase ∧
      after.io.forcedShutdown = server.io.forcedShutdown := by
  by_cases hinert : request.inert = true
  · rw [(respond_inert hinert hrespond).1]
    exact ⟨rfl, rfl⟩
  cases request with
  | undefinedBehaviour => cases hrespond
  | modify update => exact absurd rfl (hupdate update)
  | enterPhase phase => exact absurd rfl (hphase phase)
  | accept | recv _ | send _ _ | drainInputCapacity =>
    simp only [respond, map_eq_some_iff, Prod.mk.injEq] at hrespond
    obtain ⟨_, _, _, rfl, _⟩ := hrespond
    simp only [Server.accept_io, Server.receive_io, Server.send_io, and_self]
  | outboxTryPop =>
    cases Reply.unit?_map hrespond
    rw [server.takeMessage_io]
    exact ⟨rfl, rfl⟩
  | inboxTryPush =>
    cases Reply.unit?_map hrespond
    rw [server.push_io]
    exact ⟨rfl, rfl⟩
  | register _ _ | storeCurrentSessions | close _ | raise _ | loopHead | get | feed _
  | recordDisconnect _ _ | notifyInputCapacity | closeOutbox | beginStop | forceStop =>
    cases Reply.unit?_map hrespond
    exact ⟨rfl, rfl⟩
  | _ => exact absurd rfl hinert

section Phases

variable {before after : ServerConfiguration} {move : Move Interference Reply}

/-- A step leaves the phase alone, or it is the call that changes it. -/
theorem Reachable.phase_step (hreach : Reachable config before)
    (hstep : (environment config).step before move = some after) :
    (after.own.io.shutdownPhase = before.own.io.shutdownPhase ∧
        after.own.io.forcedShutdown = before.own.io.forcedShutdown) ∨
      ∃ phase, PhaseChange before.own before.shared phase ∧
        after.own = before.own.update (IoState.enterPhase phase) ∧
        after.shared = before.shared := by
  cases move with
  | interfere =>
    obtain ⟨shared, _, rfl⟩ := Environment.step_interfere hstep
    exact .inl ⟨rfl, rfl⟩
  | reply reply =>
    obtain ⟨request, _, answer, own, shared, hprogram, hrespond, rfl⟩ :=
      Environment.step_reply hstep
    have hguard := hreach.guarded hprogram
    by_cases hupdate : ∃ update, request = .modify update
    · obtain ⟨_, rfl⟩ := hupdate
      cases Reply.unit?_map hrespond
      exact .inl hguard.2
    by_cases hphase : ∃ phase, request = .enterPhase phase
    · obtain ⟨phase, rfl⟩ := hphase
      cases Reply.unit?_map hrespond
      exact .inr ⟨phase, hguard.2, rfl, rfl⟩
    · left
      rw [not_exists] at hupdate hphase
      exact respond_phase hupdate hphase hrespond

theorem Reachable.stays_stopped (hreach : Reachable config before)
    (hstep : (environment config).step before move = some after)
    (hstopped : before.own.io.shutdownPhase ≠ .running) :
    after.own.io.shutdownPhase ≠ .running := by
  rcases hreach.phase_step hstep with ⟨hsame, _⟩ | ⟨phase, hchange, hafter, _⟩
  · rw [hsame]
    exact hstopped
  · rw [hafter]
    rintro rfl
    exact hchange

/-- A run that never was in the phase Forced. -/
def ReachableUnforced (config : ServerConfig) (state : ServerConfiguration) : Prop :=
  TransitionSystem.Reaches (environment config).step
    (fun before _ => decide (before.own.io.shutdownPhase ≠ .forced) = true) (initial config)
    state

theorem ReachableUnforced.reachable (hreach : ReachableUnforced config before) :
    Reachable config before :=
  TransitionSystem.Reaches.mono hreach fun _ _ _ => trivial

/-- The server completes without force only when everything was drained, and
from the begin of the shutdown on it accepts nothing and reads only what closed
peers have left. -/
theorem graceful_completion (hreach : ReachableUnforced config before)
    (hunforced : before.own.io.shutdownPhase ≠ .forced)
    (hopen : before.own.io.shutdownPhase ≠ .complete)
    (hstep : (environment config).step before move = some after)
    (hcomplete : after.own.io.shutdownPhase = .complete) :
    (after.own.io.deferredDisconnects = [] ∧ after.own.io.deferredReadFds = [] ∧
      after.shared.workers = 0 ∧ after.shared.inbox.items = [] ∧
      after.shared.outbox.items = [] ∧
      ∀ fd session, after.own.io.sessionsByFd.lookup fd = some session →
        session.hasPendingWrite = false ∧ ∀ packet, session.codec.peekPacket ≠ .ok (some packet)) ∧
    ∀ middle, Reachable config middle → middle.own.io.shutdownPhase ≠ .running →
      (∀ next, middle.program ≠ .call .accept next) ∧
      (∀ fd next session, middle.program = .call (.recv fd) next →
        middle.own.io.sessionsByFd.lookup fd = some session →
        session.peerReadClosed = true) ∧
      ∀ move later, (environment config).step middle move = some later →
        later.own.io.shutdownPhase ≠ .running := by
  constructor
  · rcases hreach.reachable.phase_step hstep with ⟨hsame, _⟩ | ⟨phase, hchange, hafter, hshared⟩
    · rw [hsame] at hcomplete
      exact absurd hcomplete hopen
    rw [hafter] at hcomplete ⊢
    subst hcomplete
    rcases hchange with ⟨hforced, _⟩ | ⟨_, hfinished⟩
    · exact absurd hforced hunforced
    rw [hshared]
    refine ⟨hfinished.emptied.1, hfinished.emptied.2, hfinished.workers, hfinished.inbox,
      hfinished.outbox, ?_⟩
    intro fd session hlookup
    obtain ⟨hwritten, hidle⟩ := hfinished.idle fd session hlookup
    refine ⟨hwritten, ?_⟩
    rw [hidle]
    simp
  · intro _ hmiddle hstopped
    refine ⟨?_, ?_, ?_⟩
    · intro next hprogram
      exact hstopped (hmiddle.guarded hprogram).2.1
    · intro _ _ session hprogram hlookup
      exact (hmiddle.guarded hprogram).2.resolve_left hstopped session hlookup
    · intro _ _ hlater
      exact hmiddle.stays_stopped hlater hstopped

/-- The server is stopped where `busyMoves` ends: the workers make room, what is
deferred is pushed, and the last byte is sent after the worker has finished. -/
def drainingMoves : List (Move Interference Reply) :=
  busyMoves ++ .interfere .requestStop :: .replicate 4 (.interfere .workerPop) ++ units 7 ++
    .reply (.fds [5]) :: units 1 ++ boolReply true :: units 1 ++ boolReply false :: units 3 ++
    boolReply false :: units 1 ++ .reply (.number 9) :: units 1 ++
    .reply (.number 9) :: units 8 ++ .reply (.number 9) :: units 1 ++
    .reply (.number 9) :: units 14 ++ boolReply false :: units 3 ++
    .replicate 2 (.interfere .workerPop) ++
    [.interfere .closeInbox, .interfere .workerExit] ++ units 4 ++
    .reply (.fds [5]) :: units 2 ++ waitReply [{ token := 4, writable := true }] :: units 3 ++
    boolReply false :: units 5 ++ .reply (.number 9) :: units 1 ++
    .reply (.sent (.sent 1)) :: units 4 ++ boolReply true :: units 5 ++
    boolReply false :: units 3 ++ boolReply false :: units 1 ++ boolReply false :: units 7 ++
    .reply (.fds [5]) :: units 2

theorem graceful_completion_drainingMoves :
    ∃ before after : ServerConfiguration, ReachableUnforced smallConfig before ∧
      (environment smallConfig).step before unitReply = some after ∧
      after.own.io.shutdownPhase = .complete ∧
      (eventsFor after.own.pushed 1).length = 4 ∧
      eventsFor after.own.pushed 2 = [disconnectedEvent 2 0] ∧
      after.own.sent 1 = [1, 2, 3] ∧
      after.own.io.deferredDisconnects = [] ∧ after.own.io.deferredReadFds = [] ∧
      after.shared.workers = 0 ∧ after.shared.inbox.items = [] ∧
      after.shared.outbox.items = [] := by
  have hrun : (TransitionSystem.runWhile (environment smallConfig).step
      (fun state => decide (state.own.io.shutdownPhase ≠ .forced))
      drainingMoves (initial smallConfig)).any (fun before =>
        decide (before.own.io.shutdownPhase = .drainingOutput) &&
          ((environment smallConfig).step before unitReply).any (fun after =>
            decide (after.own.io.shutdownPhase = .complete ∧
              (eventsFor after.own.pushed 1).length = 4 ∧
              eventsFor after.own.pushed 2 = [disconnectedEvent 2 0] ∧
              after.own.sent 1 = [1, 2, 3]))) = true := by
    decide +kernel
  obtain ⟨before, hbefore, hchecked⟩ := (any_eq_true _ _).mp hrun
  rw [Bool.and_eq_true, decide_eq_true_iff] at hchecked
  obtain ⟨hdraining, hlast⟩ := hchecked
  obtain ⟨after, hstep, houtcome⟩ := (any_eq_true _ _).mp hlast
  obtain ⟨hcomplete, hpackets, hdisconnected, hsent⟩ := of_decide_eq_true houtcome
  have hreach : ReachableUnforced smallConfig before :=
    TransitionSystem.Reaches.of_runWhile hbefore
  have hdrained := graceful_completion hreach (by rw [hdraining]; simp)
    (by rw [hdraining]; simp) hstep hcomplete
  obtain ⟨⟨hdeferred, hreads, hworkers, hinbox, houtbox, _⟩, _⟩ := hdrained
  exact ⟨before, after, hreach, hstep, hcomplete, hpackets, hdisconnected, hsent, hdeferred,
    hreads, hworkers, hinbox, houtbox⟩

end Phases

end SessionServer.TcpServer
