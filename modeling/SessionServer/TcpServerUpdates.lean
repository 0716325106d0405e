import SessionServer.TcpServerInvariant

/-!
# The updates of the network thread keep what holds of it
-/

namespace SessionServer.TcpServer

open Protocol ConnectionTables IoState List Server FiniteMap

variable {config : ServerConfig} {server : Server} {feeding : Option Fd}

/-! ## Pausing -/

namespace ReadBackpressureController

variable (controller : ReadBackpressureController)

theorem onInboundSize_of_high {size : ℕ} (hsize : config.inboundHighWatermark ≤ size) :
    (controller.onInboundSize config size).2 = ⟨true⟩ := by
  unfold onInboundSize
  obtain ⟨paused⟩ := controller
  cases paused with
  | false => simp [hsize]
  | true => simp

theorem onInboundSize_of_low {size : ℕ} (hsize : size < config.inboundHighWatermark) :
    controller.onInboundSize config size = (.none, controller) := by
  unfold onInboundSize
  simp [hsize]

end ReadBackpressureController

namespace IoState

/-- What `onInboundFull` does. -/
def noteFull (io : IoState) : IoState :=
  if io.readsPaused then io.setBackpressure ⟨true⟩
  else (io.setBackpressure ⟨true⟩).pause.dropListener

/-- What `onInboundPushed` does. -/
def notePushed (config : ServerConfig) (size : ℕ) (io : IoState) : IoState :=
  if (io.readBackpressure.onInboundSize config size).1 = .pause then io.noteFull
  else io

theorem noteFull_readsPaused (io : IoState) : (io.noteFull).readsPaused = true := by
  unfold noteFull
  split
  · assumption
  · rfl

theorem dropListener_of_dropped {io : IoState} (hdropped : io.listenerRegistered = false) :
    io.dropListener = io := by
  unfold dropListener
  rw [← hdropped]

theorem noteFull_eq (io : IoState) :
    io.noteFull = { io with
      readBackpressure := ⟨true⟩
      readsPaused := true
      listenerRegistered := io.readsPaused && io.listenerRegistered } := by
  obtain ⟨_, _, ⟨_, paused, _⟩, _, _⟩ := io
  cases paused with
  | false | true => rfl

end IoState

theorem Sound.setBackpressure (hsound : Sound config server)
    (controller : ReadBackpressureController) :
    Sound config (server.update (setBackpressure controller)) :=
  hsound.frame rfl rfl rfl hsound.deferrals.paused

theorem Sound.pause (hsound : Sound config server) : Sound config (server.update pause) :=
  hsound.frame rfl rfl rfl fun _ _ => rfl

theorem Sound.dropListener (hsound : Sound config server) :
    Sound config (server.update dropListener) :=
  hsound.frame rfl rfl rfl hsound.deferrals.paused

theorem Sound.noteFull (hsound : Sound config server) :
    Sound config (server.update (noteFull)) := by
  have hnoted := server.io.noteFull_eq
  apply hsound.frame
  · rw [hnoted]
  · rw [hnoted]
  · rw [hnoted]
  · intro _ _
    exact server.io.noteFull_readsPaused

theorem Steady.noteFull (hsteady : Steady config feeding server) :
    Steady config feeding (server.update (noteFull)) := by
  have hnoted := server.io.noteFull_eq
  refine hsteady.frame ?_ ?_ ?_ ?_ ?_ ?_ ?_
  · rw [hnoted]
  · rw [hnoted]
  · rw [hnoted]
  · intro _ _
    exact server.io.noteFull_readsPaused
  · rw [hnoted]
    exact ⟨hsteady.quiet.idle, hsteady.quiet.live, hsteady.quiet.queued, fun _ _ => rfl⟩
  · rw [hnoted]
    refine ⟨fun _ => rfl, ?_, fun _ => rfl, hsteady.control.forced⟩
    intro hrunning
    have hlistener := hsteady.control.listener hrunning
    change (server.io.readsPaused && server.io.listenerRegistered) = false
    rw [hlistener, Bool.and_not_self]
  · rw [hnoted]
    exact hsteady.drained

theorem Server.update_notePushed (config : ServerConfig) (server : Server) (size : ℕ) :
    server.update (notePushed config size) = server ∨
      server.update (notePushed config size) = server.update noteFull := by
  by_cases hpause : (server.io.readBackpressure.onInboundSize config size).1 = .pause
  · right
    unfold update notePushed
    rw [if_pos hpause]
  · left
    unfold update notePushed
    rw [if_neg hpause]

theorem Sound.notePushed (hsound : Sound config server) (size : ℕ) :
    Sound config (server.update (notePushed config size)) := by
  rcases server.update_notePushed config size with hsame | hfull
  · rw [hsame]
    exact hsound
  · rw [hfull]
    exact hsound.noteFull

section Reads

variable (hsteady : Steady config feeding server)
include hsteady

theorem Steady.notePushed (size : ℕ) :
    Steady config feeding (server.update (notePushed config size)) := by
  rcases server.update_notePushed config size with hsame | hfull
  · rw [hsame]
    exact hsteady
  · rw [hfull]
    exact hsteady.noteFull

theorem Steady.notePushed_readsPaused {size : ℕ} (hsize : config.inboundHighWatermark ≤ size) :
    (server.io.notePushed config size).readsPaused = true := by
  unfold IoState.notePushed
  split
  · exact server.io.noteFull_readsPaused
  · next hpause =>
    by_cases hrunning : server.io.shutdownPhase = .running
    · rw [hsteady.control.controller hrunning]
      by_contra hpaused
      rw [Bool.not_eq_true] at hpaused
      apply hpause
      unfold ReadBackpressureController.onInboundSize
      simp [hpaused, hsize]
    · exact hsteady.control.stopped hrunning

/-! ## Deferred reads -/

theorem Steady.deferReads {next : Option Fd} (fds : List Fd) (set : Finset Fd)
    (hidle : ∀ fd session, server.io.sessionsByFd.lookup fd = some session → fd ∉ set →
      some fd ≠ next → session.codec.peekPacket = .ok none)
    (hlive : ∀ fd ∈ set, server.io.sessionsByFd.lookup fd ≠ none) (hqueued : ∀ fd ∈ set, fd ∈ fds)
    (hpaused : server.io.shutdownPhase = .running → set ≠ ∅ → server.io.readsPaused = true)
    (hdrained : server.io.shutdownPhase = .drainingOutput → fds = []) :
    Steady config next (server.update fun io => { io with
      deferredReadFds := fds
      deferredReadFdSet := set }) := by
  have hcontrol := hsteady.control
  apply hsteady.frame rfl rfl rfl hsteady.deferrals.paused ⟨hidle, hlive, hqueued, hpaused⟩
    { hcontrol with }
  intro hphase
  exact ⟨(hsteady.drained hphase).1, hdrained hphase⟩

theorem Steady.deferRead {fd : Fd} (hfeeding : feeding = none ∨ feeding = some fd)
    (hlive : server.io.sessionsByFd.lookup fd ≠ none) (hpaused : server.io.readsPaused = true)
    (hphase : server.io.shutdownPhase ≠ .drainingOutput) :
    Steady config none (server.update (IoState.deferRead fd)) := by
  have hidle : ∀ other session, server.io.sessionsByFd.lookup other = some session →
      other ∉ server.io.deferredReadFdSet → other ≠ fd →
      session.codec.peekPacket = .ok none := by
    intro other session hlookup hout hother
    apply hsteady.quiet.idle other session hlookup hout
    rcases hfeeding with hnone | hsome
    · rw [hnone]
      simp
    · rw [hsome]
      simpa using hother
  by_cases hin : fd ∈ server.io.deferredReadFdSet
  · have hsame : server.update (IoState.deferRead fd) = server := by
      unfold update IoState.deferRead
      rw [if_pos hin]
    rw [hsame]
    apply hsteady.deferReads server.io.deferredReadFds server.io.deferredReadFdSet
    · intro other session hlookup hout _
      apply hidle other session hlookup hout
      intro hother
      rw [hother] at hout
      exact hout hin
    · exact hsteady.quiet.live
    · exact hsteady.quiet.queued
    · exact hsteady.quiet.paused
    · exact fun hdraining => absurd hdraining hphase
  · have hdefer : server.update (IoState.deferRead fd) = server.update fun io => { io with
        deferredReadFds := server.io.deferredReadFds ++ [fd]
        deferredReadFdSet := insert fd server.io.deferredReadFdSet } := by
      unfold update IoState.deferRead
      rw [if_neg hin]
    rw [hdefer]
    apply hsteady.deferReads
    · intro other session hlookup hout _
      rw [Finset.mem_insert, not_or] at hout
      exact hidle other session hlookup hout.2 hout.1
    · intro other hother
      rcases Finset.mem_insert.mp hother with rfl | hbefore
      · exact hlive
      · exact hsteady.quiet.live other hbefore
    · intro other hother
      rcases Finset.mem_insert.mp hother with rfl | hbefore
      · exact mem_append_right _ (mem_singleton_self _)
      · exact mem_append_left _ (hsteady.quiet.queued other hbefore)
    · intro _ _
      exact hpaused
    · exact fun hdraining => absurd hdraining hphase

theorem Steady.popDeferredRead {fd : Fd} {rest : List Fd}
    (hfds : server.io.deferredReadFds = fd :: rest)
    (hstale : fd ∉ server.io.deferredReadFdSet ∨ server.io.sessionsByFd.lookup fd = none) :
    Steady config feeding (server.update popDeferredRead) := by
  have hout : fd ∉ server.io.deferredReadFdSet := by
    rcases hstale with hout | hnone
    · exact hout
    · intro hin
      exact hsteady.quiet.live fd hin hnone
  apply hsteady.deferReads server.io.deferredReadFds.tail server.io.deferredReadFdSet
  · exact hsteady.quiet.idle
  · exact hsteady.quiet.live
  · intro other hother
    have hqueued := hsteady.quiet.queued other hother
    rw [hfds] at hqueued ⊢
    rcases mem_cons.mp hqueued with rfl | hrest
    · exact absurd hother hout
    · exact hrest
  · exact hsteady.quiet.paused
  · intro hphase
    rw [(hsteady.drained hphase).2]
    rfl

end Reads

theorem Steady.takeDeferredRead {fd : Fd} {rest : List Fd}
    (hsteady : Steady config none server) (hfds : server.io.deferredReadFds = fd :: rest) :
    Steady config (some fd) (server.update (takeDeferredRead fd)) := by
  apply hsteady.deferReads server.io.deferredReadFds.tail (server.io.deferredReadFdSet.erase fd)
  · intro other session hlookup hout hother
    apply hsteady.quiet.idle other session hlookup _ (by simp)
    intro hin
    apply hout
    rw [Finset.mem_erase]
    exact ⟨fun hsame => hother (congrArg some hsame), hin⟩
  · intro other hother
    exact hsteady.quiet.live other (Finset.mem_of_mem_erase hother)
  · intro other hother
    rw [Finset.mem_erase] at hother
    have hqueued := hsteady.quiet.queued other hother.2
    rw [hfds] at hqueued ⊢
    rcases mem_cons.mp hqueued with rfl | hrest
    · exact absurd rfl hother.1
    · exact hrest
  · intro hrunning hset
    apply hsteady.quiet.paused hrunning
    intro hempty
    apply hset
    rw [hempty, Finset.erase_empty]
  · intro hphase
    rw [(hsteady.drained hphase).2]
    rfl

theorem Steady.finishRead {fd : Fd} (hsteady : Steady config (some fd) server)
    (hidle : ∀ session, server.io.sessionsByFd.lookup fd = some session →
      session.codec.peekPacket = .ok none) : Steady config none server := by
  apply hsteady.deferReads server.io.deferredReadFds server.io.deferredReadFdSet
  · intro other session hlookup hout _
    by_cases hother : other = fd
    · rw [hother] at hlookup
      exact hidle session hlookup
    · apply hsteady.quiet.idle other session hlookup hout
      simpa using hother
  · exact hsteady.quiet.live
  · exact hsteady.quiet.queued
  · exact hsteady.quiet.paused
  · exact fun hphase => (hsteady.drained hphase).2

/-! ## Resuming and shutting down -/

theorem Steady.resume (hsteady : Steady config none server)
    (hdeferred : server.io.deferredDisconnects = []) (hreads : server.io.deferredReadFds = [])
    (hrunning : server.io.shutdownPhase = .running) :
    Steady config none (server.update fun io => { io with
      readBackpressure := ⟨false⟩
      readsPaused := false
      listenerRegistered := true }) := by
  refine hsteady.frame rfl rfl rfl ?_ ?_ ?_ ?_
  · intro _ hsome
    exact absurd hdeferred hsome
  · refine ⟨hsteady.quiet.idle, hsteady.quiet.live, hsteady.quiet.queued, ?_⟩
    intro _ hset
    obtain ⟨fd, hfd⟩ := Finset.nonempty_iff_ne_empty.mpr hset
    have hqueued := hsteady.quiet.queued fd hfd
    rw [hreads] at hqueued
    cases hqueued
  · exact ⟨fun _ => rfl, fun _ => rfl, fun hnot => absurd hrunning hnot, hsteady.control.forced⟩
  · exact hsteady.drained

theorem Sound.enterPhase (hsound : Sound config server) {phase : ShutdownPhase}
    (hphase : phase ≠ .running) : Sound config (server.update (enterPhase phase)) :=
  hsound.frame rfl rfl rfl fun hrunning => absurd hrunning hphase

theorem Steady.beginShutdown (hsteady : Steady config none server) :
    Steady config none
      (server.update fun io => (io.enterPhase .drainingInput).pause.dropListener) := by
  refine hsteady.frame rfl rfl rfl ?_ ?_ ?_ ?_
  · intro _ _
    rfl
  · exact ⟨hsteady.quiet.idle, hsteady.quiet.live, hsteady.quiet.queued, fun _ _ => rfl⟩
  · exact ⟨fun hrunning => (by cases hrunning), fun hrunning => (by cases hrunning),
      fun _ => rfl, fun hforced => (by cases hforced)⟩
  · intro hphase
    cases hphase

theorem Steady.enterPhase (hsteady : Steady config none server) {phase : ShutdownPhase}
    (hbefore : server.io.shutdownPhase ≠ .running) (hphase : phase ≠ .running)
    (hdrained : phase = .drainingOutput → server.io.Emptied) :
    Steady config none (server.update (enterPhase phase)) := by
  have hpaused := hsteady.control.stopped hbefore
  refine hsteady.frame rfl rfl rfl ?_ ?_ ?_ ?_
  · intro _ _
    exact hpaused
  · exact ⟨hsteady.quiet.idle, hsteady.quiet.live, hsteady.quiet.queued, fun _ _ => hpaused⟩
  · refine ⟨fun hrunning => absurd hrunning hphase, fun hrunning => absurd hrunning hphase,
      fun _ => hpaused, ?_⟩
    rintro rfl
    exact Bool.or_true _
  · exact hdrained

/-! ## History -/

theorem Sound.opens (hsound : Sound config server) (openFds : Finset Fd) :
    Sound config { server with openFds := openFds } :=
  { hsound with }

theorem Steady.close (hsteady : Steady config feeding server) {fd : Fd}
    (hfd : server.io.sessionsByFd.lookup fd = none) :
    Steady config feeding { server with openFds := server.openFds.erase fd } := by
  refine { hsteady with opened := ?_ }
  intro other session hlookup
  rw [Finset.mem_erase]
  refine ⟨?_, hsteady.opened other session hlookup⟩
  rintro rfl
  rw [hfd] at hlookup
  cases hlookup

theorem Sound.raise (hsound : Sound config server) {exception : ServerException}
    (hexception : exception ≠ limitException) :
    Sound config { server with raised := server.raised ++ [exception] } := by
  refine { hsound with raised := ?_ }
  rw [mem_append, mem_singleton, not_or]
  exact ⟨hsound.raised, fun hsame => hexception hsame.symm⟩

theorem Sound.push (hsound : Sound config server) {event : InputEvent}
    (hdelivered : Delivered event.sessionId (server.received event.sessionId)
      (eventsFor server.pushed event.sessionId ++ [event])) :
    Sound config { server with pushed := server.pushed ++ [event] } := by
  refine { hsound with delivered := ?_ }
  intro id
  rw [eventsFor_append]
  split
  · next hid =>
    rw [← hid]
    exact hdelivered
  · exact hsound.delivered id

theorem Steady.push (hsteady : Steady config feeding server) {event : InputEvent}
    (hdelivered : Delivered event.sessionId (server.received event.sessionId)
      (eventsFor server.pushed event.sessionId ++ [event]))
    (hlt : event.sessionId < server.io.nextSessionId)
    (hgone : ∀ session, server.io.Holds session → session.id ≠ event.sessionId) :
    Steady config feeding { server with pushed := server.pushed ++ [event] } := by
  refine { hsteady with
    toSound := hsteady.toSound.push hdelivered
    unborn := ?_
    tracks := ?_ }
  · intro id hid
    rw [eventsFor_append, if_neg]
    · exact hsteady.unborn id hid
    · intro _
      change server.io.nextSessionId ≤ id at hid
      omega
  · intro session hheld
    rw [eventsFor_append, if_neg (hgone session hheld).symm]
    exact hsteady.tracks session hheld

theorem Server.receive_data {fd : Fd} {session : Session}
    (hlookup : server.io.sessionsByFd.lookup fd = some session) (bytes : Bytes) :
    server.receive fd (.data bytes) = { server with
      received := Function.update server.received session.id
        (server.received session.id ++ bytes) } := by
  unfold receive
  rw [hlookup]

theorem Sound.receive (hsound : Sound config server) {fd : Fd} {session : Session}
    (hlookup : server.io.sessionsByFd.lookup fd = some session) (bytes : Bytes)
    (htracks : session.Tracks (server.received session.id) (eventsFor server.pushed session.id)) :
    Sound config (server.receive fd (.data bytes)) := by
  rw [receive_data hlookup]
  refine { hsound with delivered := ?_ }
  intro id
  dsimp only
  by_cases hid : id = session.id
  · rw [hid, Function.update_self]
    exact htracks.delivered_receive bytes
  · rw [Function.update_of_ne hid]
    exact hsound.delivered id

/-! ## Removing a session from the table -/

/-- All that `disconnect` removes. -/
def IoState.unregister (fd : Fd) (session : Session) (io : IoState) : IoState :=
  (io.detach fd session).eraseMoved

theorem IoState.holds_unregister {io : IoState} {fd : Fd} {session other : Session}
    (hheld : (io.unregister fd session).Holds other) : io.Holds other := by
  rcases hheld with ⟨place, hlookup⟩ | hdeferred
  · exact .inl ⟨place, (of_lookup_erase hlookup).2⟩
  · exact .inr hdeferred

theorem IoState.lookup_unregister (io : IoState) (fd other : Fd) (session : Session) :
    (io.unregister fd session).sessionsByFd.lookup other =
      if other = fd then none else io.sessionsByFd.lookup other :=
  lookup_erase_ite _ _ _

section Unregister

variable {fd : Fd} {session : Session}

theorem Sound.unregister_gone (hsound : Sound config server)
    (hlookup : server.io.sessionsByFd.lookup fd = some session) (other : Session)
    (hheld : (server.io.unregister fd session).Holds other) : other.id ≠ session.id := by
  intro hid
  rcases hheld with ⟨_, hplace⟩ | hdeferred
  · obtain ⟨hother, hbefore⟩ := of_lookup_erase hplace
    exact hother (hsound.tables.fd_unique hlookup hbefore hid)
  · exact hsound.live_not_deferred hlookup hdeferred hid.symm

theorem IoState.sessionCount_unregister {io : IoState}
    (hlookup : io.sessionsByFd.lookup fd = some session) :
    (io.unregister fd session).sessionCount + 1 = io.sessionCount :=
  sessionCount_detach hlookup

/-- The session is out of the tables, and its key is not yet erased. -/
theorem Sound.detach (hsound : Sound config server)
    (hlookup : server.io.sessionsByFd.lookup fd = some session) :
    Sound config (server.update (detach fd session)) := by
  have hcount : (server.io.detach fd session).sessionCount = server.io.sessionCount :=
    sessionCount_detach hlookup
  refine { hsound with
    tables := hsound.tables.detach hlookup
    current := fun hcounted => (hsound.current hcounted).trans hcount.symm
    registered := ?_
    deferrals := ?_
    bounded := ?_ }
  · intro other same token hafter htoken
    have hbefore := (of_lookup_erase hafter).2
    exact hsound.registered other same token hbefore (of_lookup_erase htoken).2
  · have hdeferrals := hsound.deferrals
    refine { hdeferrals with
      apart := ?_
      limit := ?_ }
    · intro other hother
      change (server.io.fdBySession.erase session.id).lookup other.id = none
      rw [lookup_erase_ite]
      split
      · rfl
      · exact hdeferrals.apart other hother
    · have hlimit := hdeferrals.limit
      rw [← hcount] at hlimit
      exact hlimit
  · intro other hheld
    change (server.io.unregister fd session).Holds other at hheld
    exact hsound.bounded other (holds_unregister hheld)

theorem Sound.unregister (hsound : Sound config server)
    (hlookup : server.io.sessionsByFd.lookup fd = some session) :
    Sound config (server.update (unregister fd session)) := by
  have hdetached := hsound.detach hlookup
  have hdeferrals := hdetached.deferrals
  refine { hdetached with
    tables := hdetached.tables.eraseMoved
    current := fun _ => rfl
    deferrals := { hdeferrals with limit := ?_ } }
  have hcount := sessionCount_unregister hlookup
  have hlimit := hsound.deferrals.limit
  change (server.io.unregister fd session).sessionCount +
    server.io.deferredDisconnects.length ≤ config.maxSessions
  omega

theorem Steady.unregister (hsteady : Steady config feeding server)
    (hfeeding : feeding = none ∨ feeding = some fd)
    (hlookup : server.io.sessionsByFd.lookup fd = some session) :
    Steady config none (server.update (unregister fd session)) := by
  have hcontrol := hsteady.control
  refine { hsteady with
    toSound := hsteady.toSound.unregister hlookup
    opened := fun other same hafter =>
      hsteady.opened other same (of_lookup_erase hafter).2
    tracks := ?_
    writes := fun other same hafter =>
      hsteady.writes other same (of_lookup_erase hafter).2
    quiet := ?_
    control := { hcontrol with }
    drained := hsteady.drained }
  · intro other hheld
    exact hsteady.tracks other (holds_unregister hheld)
  · constructor
    · intro other same hafter hout _
      obtain ⟨hother, hbefore⟩ := of_lookup_erase hafter
      apply hsteady.quiet.idle other same hbefore
      · intro hin
        exact hout (Finset.mem_erase.mpr ⟨hother, hin⟩)
      · rcases hfeeding with hnone | hsome
        · rw [hnone]
          simp
        · rw [hsome]
          simpa using hother
    · intro other hin
      change other ∈ server.io.deferredReadFdSet.erase fd at hin
      rw [Finset.mem_erase] at hin
      change (server.io.unregister fd session).sessionsByFd.lookup other ≠ none
      rw [lookup_unregister, if_neg hin.1]
      exact hsteady.quiet.live other hin.2
    · intro other hin
      exact hsteady.quiet.queued other (Finset.mem_of_mem_erase hin)
    · intro hrunning hset
      apply hsteady.quiet.paused hrunning
      intro hempty
      apply hset
      change server.io.deferredReadFdSet.erase fd = ∅
      rw [hempty, Finset.erase_empty]

end Unregister

/-! ## Deferred sessions -/

/-- The session is not held and has been given out. -/
structure Detached (server : Server) (session : Session) : Prop where
  lt : session.id < server.io.nextSessionId
  apart : server.io.fdBySession.lookup session.id = none
  gone : ∀ other, server.io.Holds other → other.id ≠ session.id
  bounded : session.codec.bufferedByteCount ≤ 8191

theorem Sound.detached (hsound : Sound config server) {fd : Fd} {session : Session}
    (hlookup : server.io.sessionsByFd.lookup fd = some session) :
    Detached (server.update (IoState.unregister fd session)) session where
  lt := hsound.tables.id_lt fd session hlookup
  apart := Finmap.lookup_erase _ _
  gone := hsound.unregister_gone hlookup
  bounded := hsound.bounded session (.inl ⟨fd, hlookup⟩)

section DeferDisconnect

variable {session : Session}

theorem IoState.holds_deferDisconnect {io : IoState} {other : Session}
    (hheld : (io.deferDisconnect session).Holds other) : io.Holds other ∨ other = session := by
  rcases hheld with hlive | hdeferred
  · exact .inl (.inl hlive)
  · rcases mem_append.mp hdeferred with hbefore | hnew
    · exact .inl (.inr hbefore)
    · exact .inr (mem_singleton.mp hnew)

theorem Detached.not_deferred (hdetached : Detached server session)
    (hdeferrals : Deferrals config server.io) :
    session.id ∉ server.io.deferredDisconnectIds := by
  rw [hdeferrals.ids, mem_toFinset, mem_map]
  rintro ⟨other, hother, hid⟩
  exact hdetached.gone other (.inr hother) hid

theorem Sound.deferDisconnect (hsound : Sound config server) (hdetached : Detached server session)
    (hlimit : server.io.sessionCount + server.io.deferredDisconnects.length < config.maxSessions)
    (hpaused : server.io.shutdownPhase = .running → server.io.readsPaused = true) :
    Sound config (server.update (IoState.deferDisconnect session)) := by
  have hdeferrals := hsound.deferrals
  refine { hsound with
    deferrals := ?_
    bounded := ?_ }
  · constructor
    · change insert session.id server.io.deferredDisconnectIds = _
      rw [hdeferrals.ids]
      simp [update, IoState.deferDisconnect]
    · change ((server.io.deferredDisconnects ++ [session]).map Session.id).Nodup
      rw [map_append, nodup_append]
      refine ⟨hdeferrals.nodup, nodup_singleton _, ?_⟩
      intro _ hid other hother hsame
      obtain ⟨before, hbefore, rfl⟩ := mem_map.mp hid
      rw [map_singleton, mem_singleton] at hother
      exact hdetached.gone before (.inr hbefore) (hsame.trans hother)
    · intro other hother
      rcases mem_append.mp hother with hbefore | hnew
      · exact hdeferrals.apart other hbefore
      · rw [mem_singleton.mp hnew]
        exact hdetached.apart
    · intro other hother
      rcases mem_append.mp hother with hbefore | hnew
      · exact hdeferrals.lt other hbefore
      · rw [mem_singleton.mp hnew]
        exact hdetached.lt
    · change server.io.sessionCount + (server.io.deferredDisconnects ++ [session]).length ≤ _
      rw [length_append, length_singleton]
      omega
    · intro hrunning _
      exact hpaused hrunning
  · intro other hheld
    rcases IoState.holds_deferDisconnect hheld with hbefore | rfl
    · exact hsound.bounded other hbefore
    · exact hdetached.bounded

theorem Steady.deferDisconnect (hsteady : Steady config feeding server)
    (hdetached : Detached server session)
    (hlimit : server.io.sessionCount + server.io.deferredDisconnects.length < config.maxSessions)
    (hpaused : server.io.shutdownPhase = .running → server.io.readsPaused = true)
    (hphase : server.io.shutdownPhase ≠ .drainingOutput)
    (htracks : session.Tracks (server.received session.id) (eventsFor server.pushed session.id)) :
    Steady config feeding (server.update (deferDisconnect session)) := by
  have hquiet := hsteady.quiet
  have hcontrol := hsteady.control
  refine { hsteady with
    toSound := hsteady.toSound.deferDisconnect hdetached hlimit hpaused
    tracks := ?_
    quiet := ⟨hquiet.idle, hquiet.live, hquiet.queued, hquiet.paused⟩
    control := { hcontrol with }
    drained := fun hdraining => absurd hdraining hphase }
  intro other hheld
  rcases holds_deferDisconnect hheld with hbefore | rfl
  · exact hsteady.tracks other hbefore
  · exact htracks

variable {rest : List Session}

theorem Steady.popDeferredDisconnect (hsteady : Steady config feeding server)
    (hdeferred : server.io.deferredDisconnects = session :: rest) :
    Steady config feeding (server.update (popDeferredDisconnect session.id)) ∧
      Detached (server.update (popDeferredDisconnect session.id)) session := by
  have hdeferrals := hsteady.deferrals
  have hquiet := hsteady.quiet
  have hcontrol := hsteady.control
  have hmem : session ∈ server.io.deferredDisconnects := by
    rw [hdeferred]
    exact mem_cons_self
  have htail (other : Session) (hother : other ∈ server.io.deferredDisconnects.tail) :
      other ∈ server.io.deferredDisconnects := mem_of_mem_tail hother
  have hheld (other : Session)
      (hafter : (server.io.popDeferredDisconnect session.id).Holds other) :
      server.io.Holds other := by
    rcases hafter with hlive | htailed
    · exact .inl hlive
    · exact .inr (htail other htailed)
  have hdraining : server.io.shutdownPhase ≠ .drainingOutput := by
    intro hphase
    rw [(hsteady.drained hphase).1] at hdeferred
    cases hdeferred
  have hnodup : session.id ∉ rest.map Session.id := by
    have hall := hdeferrals.nodup
    rw [hdeferred, map_cons, nodup_cons] at hall
    exact hall.1
  constructor
  · refine { hsteady with
      deferrals := ?_
      bounded := fun other hafter => hsteady.bounded other (hheld other hafter)
      tracks := fun other hafter => hsteady.tracks other (hheld other hafter)
      quiet := ⟨hquiet.idle, hquiet.live, hquiet.queued, hquiet.paused⟩
      control := { hcontrol with }
      drained := fun hphase => absurd hphase hdraining }
    constructor
    · change server.io.deferredDisconnectIds.erase session.id =
        (server.io.deferredDisconnects.tail.map Session.id).toFinset
      rw [hdeferrals.ids, hdeferred, tail_cons, map_cons, toFinset_cons, Finset.erase_insert]
      rw [mem_toFinset]
      exact hnodup
    · change (server.io.deferredDisconnects.tail.map Session.id).Nodup
      have hall := hdeferrals.nodup
      rw [hdeferred, map_cons, nodup_cons] at hall
      rw [hdeferred]
      exact hall.2
    · intro other hother
      exact hdeferrals.apart other (htail other hother)
    · intro other hother
      exact hdeferrals.lt other (htail other hother)
    · have hlimit := hdeferrals.limit
      change server.io.sessionCount + server.io.deferredDisconnects.tail.length ≤ _
      rw [length_tail]
      omega
    · intro hrunning _
      apply hdeferrals.paused hrunning
      rw [hdeferred]
      exact cons_ne_nil _ _
  · refine ⟨hdeferrals.lt session hmem, hdeferrals.apart session hmem, ?_,
      hsteady.bounded session (.inr hmem)⟩
    intro other hafter hid
    rcases hafter with ⟨_, hlookup⟩ | htailed
    · exact hsteady.toSound.live_not_deferred hlookup hmem hid
    · change other ∈ server.io.deferredDisconnects.tail at htailed
      rw [hdeferred] at htailed
      exact hnodup (mem_map.mpr ⟨other, htailed, hid⟩)

end DeferDisconnect

/-! ## Changing a session -/

section SetSession

variable {place : SessionPlace} {session after : Session}

/-- Beside the new session those are held that were held, under other ids. -/
theorem Sound.holds_setSession (hsound : Sound config server)
    (hsession : server.io.session? place = some session) {other : Session}
    (hheld : (server.io.setSession place after).Holds other) :
    other = after ∨ server.io.Holds other ∧ other.id ≠ session.id := by
  cases place with
  | live fd =>
    rcases hheld with ⟨otherFd, hlookup⟩ | hdeferred
    · rcases of_lookup_insert hlookup with ⟨_, hnew⟩ | ⟨hfd, hbefore⟩
      · exact .inl hnew
      · refine .inr ⟨.inl ⟨otherFd, hbefore⟩, ?_⟩
        intro hid
        exact hfd (hsound.tables.fd_unique hsession hbefore hid)
    · exact .inr ⟨.inr hdeferred, (hsound.live_not_deferred hsession hdeferred).symm⟩
  | deferred =>
    obtain ⟨rest, hrest⟩ : ∃ rest, server.io.deferredDisconnects = session :: rest := by
      exact head?_eq_some_iff.mp hsession
    rcases hheld with ⟨fd, hlookup⟩ | hdeferred
    · refine .inr ⟨.inl ⟨fd, hlookup⟩, ?_⟩
      apply hsound.live_not_deferred hlookup
      rw [hrest]
      exact mem_cons_self
    · change other ∈ after :: server.io.deferredDisconnects.tail at hdeferred
      rcases mem_cons.mp hdeferred with hsame | htail
      · exact .inl hsame
      · refine .inr ⟨.inr (mem_of_mem_tail htail), ?_⟩
        have hall := hsound.deferrals.nodup
        rw [hrest, map_cons, nodup_cons] at hall
        rw [hrest] at htail
        intro hid
        exact hall.1 (mem_map.mpr ⟨other, htail, hid⟩)

theorem Sound.held (hsession : server.io.session? place = some session) :
    server.io.Holds session := by
  cases place with
  | live fd => exact .inl ⟨fd, hsession⟩
  | deferred => exact .inr (mem_of_mem_head? hsession)

theorem Sound.setSession (hsound : Sound config server)
    (hsession : server.io.session? place = some session) (hid : after.id = session.id)
    (hfd : after.fd = session.fd) (hbound : after.codec.bufferedByteCount ≤ 8191) :
    Sound config (server.update (setSession place after)) := by
  have hbounded (other : Session) (hheld : (server.io.setSession place after).Holds other) :
      other.codec.bufferedByteCount ≤ 8191 := by
    rcases hsound.holds_setSession hsession hheld with rfl | hbefore
    · exact hbound
    · exact hsound.bounded other hbefore.1
  have hdeferrals := hsound.deferrals
  cases place with
  | live fd =>
    have hkeys : (server.io.sessionsByFd.insert fd after).keys =
        server.io.sessionsByFd.keys := keys_replace hsession
    have hcount : (server.io.setSession (.live fd) after).sessionCount =
        server.io.sessionCount := congrArg (·.card + server.io.movedSessions) hkeys
    refine { hsound with
      tables := hsound.tables.replace hsession hid hfd
      current := fun hfailed => (hsound.current hfailed).trans hcount.symm
      registered := ?_
      deferrals := ?_
      bounded := hbounded }
    · intro other same token hlookup htoken
      rcases of_lookup_insert hlookup with ⟨rfl, rfl⟩ | ⟨_, hbefore⟩
      · rw [hid]
        exact hsound.registered other session token hsession htoken
      · exact hsound.registered other same token hbefore htoken
    · refine { hdeferrals with limit := ?_ }
      have hlimit := hdeferrals.limit
      rw [← hcount] at hlimit
      exact hlimit
  | deferred =>
    obtain ⟨rest, hrest⟩ : ∃ rest, server.io.deferredDisconnects = session :: rest := by
      exact head?_eq_some_iff.mp hsession
    have hset : (server.io.setSession .deferred after).deferredDisconnects = after :: rest := by
      change after :: server.io.deferredDisconnects.tail = after :: rest
      rw [hrest, tail_cons]
    have hids : (server.io.setSession .deferred after).deferredDisconnects.map Session.id =
        server.io.deferredDisconnects.map Session.id := by
      rw [hset, hrest, map_cons, map_cons, hid]
    have hother (other : Session)
        (hin : other ∈ (server.io.setSession .deferred after).deferredDisconnects) :
        ∃ before ∈ server.io.deferredDisconnects, before.id = other.id := by
      have himage : other.id ∈ server.io.deferredDisconnects.map Session.id := by
        rw [← hids]
        exact mem_map.mpr ⟨other, hin, rfl⟩
      exact mem_map.mp himage
    refine { hsound with
      deferrals := ?_
      bounded := hbounded }
    constructor
    · change server.io.deferredDisconnectIds = _
      rw [hdeferrals.ids]
      exact congrArg toFinset hids.symm
    · change ((server.io.setSession .deferred after).deferredDisconnects.map Session.id).Nodup
      rw [hids]
      exact hdeferrals.nodup
    · intro other hin
      obtain ⟨before, hbefore, hsame⟩ := hother other hin
      rw [← hsame]
      exact hdeferrals.apart before hbefore
    · intro other hin
      obtain ⟨before, hbefore, hsame⟩ := hother other hin
      rw [← hsame]
      exact hdeferrals.lt before hbefore
    · have hlimit := hdeferrals.limit
      have hlength := congrArg length hids
      rw [length_map, length_map] at hlength
      change server.io.sessionCount +
        (server.io.setSession .deferred after).deferredDisconnects.length ≤ _
      omega
    · intro hrunning _
      apply hdeferrals.paused hrunning
      rw [hrest]
      exact cons_ne_nil _ _

theorem Steady.setSession (hsteady : Steady config feeding server) {next : Option Fd}
    (hsession : server.io.session? place = some session) (hid : after.id = session.id)
    (hfd : after.fd = session.fd) (hbound : after.codec.bufferedByteCount ≤ 8191)
    {received sent : ℕ → Bytes} {pushed : List InputEvent} {addressed : ℕ → List OutputMessage}
    (hothers : ∀ id, id ≠ session.id → received id = server.received id ∧
      eventsFor pushed id = eventsFor server.pushed id ∧ sent id = server.sent id ∧
      addressed id = server.addressed id)
    (htracks : after.Tracks (received session.id) (eventsFor pushed session.id))
    (hoffset : sent session.id <+: outboundBytes (addressed session.id))
    (hwrites : ∀ fd, place = .live fd → after.Owes (sent session.id) (addressed session.id))
    (hidle : ∀ fd, place = .live fd → fd ∉ server.io.deferredReadFdSet → some fd ≠ next →
      after.codec.peekPacket = .ok none)
    (hnext : ∀ fd, some fd ≠ next → some fd ≠ feeding) :
    Steady config next { server.update (setSession place after) with
      received := received
      pushed := pushed
      sent := sent
      addressed := addressed } := by
  have hsound := hsteady.toSound.setSession hsession hid hfd hbound
  have hquiet := hsteady.quiet
  have hcontrol := hsteady.control
  have hlt := hsteady.toSound.held_lt (Sound.held hsession)
  have htables (id : ℕ) (hle : (server.io.setSession place after).nextSessionId ≤ id) :
      server.io.nextSessionId ≤ id := by
    cases place with
    | live | deferred => exact hle
  refine {
    toSound := { hsound with
      delivered := ?_
      outbound := ?_ }
    opened := ?_
    moved := ?_
    counted := hsteady.counted
    ids_lt := ?_
    tokens_lt := ?_
    unborn := ?_
    tracks := ?_
    writes := ?_
    quiet := ?_
    control := ?_
    drained := ?_ }
  · intro id
    dsimp only
    by_cases hsame : id = session.id
    · rw [hsame, ← hid]
      rw [← hid] at htracks
      exact htracks.delivered
    · obtain ⟨hreceived, hpushed, _, _⟩ := hothers id hsame
      rw [hreceived, hpushed]
      exact hsteady.delivered id
  · intro id
    dsimp only
    by_cases hsame : id = session.id
    · rw [hsame]
      exact hoffset
    · obtain ⟨_, _, hsent, haddressed⟩ := hothers id hsame
      rw [hsent, haddressed]
      exact hsteady.outbound id
  · cases place with
    | live fd =>
      intro other same hlookup
      rcases of_lookup_insert hlookup with ⟨rfl, _⟩ | ⟨_, hbefore⟩
      · exact hsteady.opened other session hsession
      · exact hsteady.opened other same hbefore
    | deferred => exact hsteady.opened
  · cases place with
    | live | deferred => exact hsteady.moved
  · cases place with
    | live | deferred => exact hsteady.ids_lt
  · cases place with
    | live | deferred => exact hsteady.tokens_lt
  · intro id hle
    have hbefore := htables id hle
    have hother : id ≠ session.id := by omega
    obtain ⟨hreceived, hpushed, hsent, haddressed⟩ := hothers id hother
    dsimp only
    rw [hreceived, hpushed, hsent, haddressed]
    exact hsteady.unborn id hbefore
  · intro other hheld
    dsimp only
    rcases hsteady.toSound.holds_setSession hsession hheld with rfl | ⟨hbefore, hother⟩
    · rw [hid]
      exact htracks
    · obtain ⟨hreceived, hpushed, _, _⟩ := hothers other.id hother
      rw [hreceived, hpushed]
      exact hsteady.tracks other hbefore
  · intro otherFd other hlookup
    have hbefore : ∀ same, server.io.sessionsByFd.lookup otherFd = some same →
        same.id ≠ session.id → same.Owes (sent same.id) (addressed same.id) := by
      intro same hsame hother
      obtain ⟨_, _, hsent, haddressed⟩ := hothers same.id hother
      rw [hsent, haddressed]
      exact hsteady.writes otherFd same hsame
    cases place with
    | live fd =>
      rcases of_lookup_insert hlookup with ⟨_, rfl⟩ | ⟨hfd, hlive⟩
      · rw [hid]
        exact hwrites fd rfl
      · apply hbefore other hlive
        intro hsame
        exact hfd (hsteady.tables.fd_unique hsession hlive hsame)
    | deferred =>
      apply hbefore other hlookup
      exact hsteady.toSound.live_not_deferred hlookup (mem_of_mem_head? hsession)
  · cases place with
    | live fd =>
      constructor
      · intro other same hlookup hout hother
        rcases of_lookup_insert hlookup with ⟨rfl, rfl⟩ | ⟨_, hbefore⟩
        · exact hidle other rfl hout hother
        · exact hquiet.idle other same hbefore hout (hnext other hother)
      · intro other hin
        change (server.io.sessionsByFd.insert fd after).lookup other ≠ none
        rw [lookup_insert_ite]
        split
        · simp
        · exact hquiet.live other hin
      · exact hquiet.queued
      · exact hquiet.paused
    | deferred =>
      refine ⟨?_, hquiet.live, hquiet.queued, hquiet.paused⟩
      intro other same hlookup hout hother
      exact hquiet.idle other same hlookup hout (hnext other hother)
  · cases place with
    | live | deferred => exact { hcontrol with }
  · intro hphase
    cases place with
    | live => exact hsteady.drained hphase
    | deferred =>
      have hempty := (hsteady.drained hphase).1
      change server.io.deferredDisconnects.head? = some session at hsession
      rw [hempty] at hsession
      cases hsession

theorem Steady.setSession_stream (hsteady : Steady config none server)
    (hsession : server.io.session? place = some session) (hid : after.id = session.id)
    (hfd : after.fd = session.fd) (hcodec : after.codec = session.codec)
    (hsequence : after.nextEventSequence = session.nextEventSequence)
    {sent : ℕ → Bytes} {addressed : ℕ → List OutputMessage}
    (hothers : ∀ id, id ≠ session.id → sent id = server.sent id ∧
      addressed id = server.addressed id)
    (howes : after.Owes (sent session.id) (addressed session.id)) :
    Steady config none { server.update (IoState.setSession place after) with
      sent := sent
      addressed := addressed } := by
  have hheld := Sound.held hsession
  have hbound : after.codec.bufferedByteCount ≤ 8191 := by
    rw [hcodec]
    exact hsteady.bounded session hheld
  have htracks := (hsteady.tracks session hheld).congr hid hcodec hsequence
  apply hsteady.setSession hsession hid hfd hbound
    (fun id hother => ⟨rfl, rfl, hothers id hother⟩) htracks howes.sent_prefix_bytes
    (fun _ _ => howes)
  · intro fd hplace hout hother
    rw [hplace] at hsession
    rw [hcodec]
    exact hsteady.quiet.idle fd session hsession hout hother
  · intro _ hother
    exact hother

end SetSession

/-! ## New connections -/

section Register

variable {fd : Fd}

theorem IoState.lookup_register (io : IoState) (fd other : Fd) :
    (io.register config fd).sessionsByFd.lookup other =
      if other = fd then some {
        fd
        id := io.nextSessionId
        maxPendingWriteBytes := config.maxPendingWriteBytes }
      else io.sessionsByFd.lookup other :=
  lookup_insert_ite _ _ _ _

theorem Steady.accept (hsteady : Steady config feeding server) (fd : Fd) :
    Steady config feeding { server with openFds := insert fd server.openFds } := by
  refine { hsteady with opened := ?_ }
  intro other session hlookup
  exact Finset.mem_insert_of_mem (hsteady.opened other session hlookup)

theorem IoState.holds_register {io : IoState} {session : Session}
    (hheld : (io.register config fd).Holds session) :
    io.Holds session ∨ session = {
      fd
      id := io.nextSessionId
      maxPendingWriteBytes := config.maxPendingWriteBytes } := by
  rcases hheld with ⟨other, hlookup⟩ | hdeferred
  · rcases of_lookup_insert hlookup with ⟨_, hnew⟩ | ⟨_, hbefore⟩
    · exact .inr hnew
    · exact .inl (.inl ⟨other, hbefore⟩)
  · exact .inl (.inr hdeferred)

/-- The connection is in the tables, the counter is not stored yet. -/
theorem Steady.register_sound (hsteady : Steady config none server)
    (hfd : server.io.sessionsByFd.lookup fd = none)
    (hcount : server.io.sessionCount < config.maxSessions)
    (hdeferred : server.io.deferredDisconnects = []) :
    Sound config (server.register config fd) := by
  refine { hsteady.toSound with
    tables := hsteady.tables.register config hfd
    current := nofun
    registered := ?_
    ids_nodup := ?_
    tokens_nodup := ?_
    deferrals := ?_
    bounded := ?_ }
  · intro other session token hlookup htoken
    rcases of_lookup_insert hlookup with ⟨hsame, rfl⟩ | ⟨hother, hbefore⟩
    · rcases of_lookup_insert htoken with ⟨_, rfl⟩ | ⟨hother, _⟩
      · exact mem_append_right _ (mem_singleton_self _)
      · exact absurd hsame hother
    · rcases of_lookup_insert htoken with ⟨hsame, _⟩ | ⟨_, hold⟩
      · exact absurd hsame hother
      · exact mem_append_left _ (hsteady.registered other session token hbefore hold)
  · change ((server.registrations ++ [_]).map Prod.fst).Nodup
    rw [map_append, nodup_append]
    refine ⟨hsteady.ids_nodup, nodup_singleton _, ?_⟩
    intro _ hid other hother hsame
    obtain ⟨entry, hentry, rfl⟩ := mem_map.mp hid
    rw [map_singleton, mem_singleton] at hother
    have hlt := hsteady.ids_lt entry hentry
    omega
  · change ((server.registrations ++ [_]).map Prod.snd).Nodup
    rw [map_append, nodup_append]
    refine ⟨hsteady.tokens_nodup, nodup_singleton _, ?_⟩
    intro _ htoken _ hother _
    obtain ⟨entry, hentry, rfl⟩ := mem_map.mp htoken
    rw [map_singleton, mem_singleton] at hother
    have hlt := hsteady.tokens_lt entry hentry
    omega
  · have hdeferrals := hsteady.deferrals
    have hnone (session : Session) (hin : session ∈ server.io.deferredDisconnects) : False := by
      rw [hdeferred] at hin
      cases hin
    refine ⟨hdeferrals.ids, hdeferrals.nodup, fun session hin => (hnone session hin).elim,
      fun session hin => (hnone session hin).elim, ?_, hdeferrals.paused⟩
    have hregister : (server.io.register config fd).sessionCount = server.io.sessionCount + 1 :=
      sessionCount_register config hfd
    change (server.io.register config fd).sessionCount +
      server.io.deferredDisconnects.length ≤ config.maxSessions
    rw [hregister, hdeferred]
    exact hcount
  · intro session hheld
    rcases holds_register hheld with hbefore | rfl
    · exact hsteady.bounded session hbefore
    · exact Nat.zero_le _

theorem Steady.register (hsteady : Steady config none server)
    (hfd : server.io.sessionsByFd.lookup fd = none) (hopen : fd ∈ server.openFds)
    (hcount : server.io.sessionCount < config.maxSessions)
    (hdeferred : server.io.deferredDisconnects = []) :
    Steady config none (server.register config fd).storeCurrentSessions := by
  have hsound := hsteady.register_sound hfd hcount hdeferred
  have hquiet := hsteady.quiet
  have hcontrol := hsteady.control
  have hdeferrals := hsound.deferrals
  refine {
    toSound := { hsound with
      tables := hsound.tables.storeCurrentSessions
      current := fun _ => rfl
      deferrals := { hdeferrals with } }
    opened := ?_
    moved := hsteady.moved
    counted := rfl
    ids_lt := ?_
    tokens_lt := ?_
    unborn := ?_
    tracks := ?_
    writes := ?_
    quiet := ?_
    control := { hcontrol with }
    drained := hsteady.drained }
  · intro other session hlookup
    rcases of_lookup_insert hlookup with ⟨rfl, _⟩ | ⟨_, hbefore⟩
    · exact hopen
    · exact hsteady.opened other session hbefore
  · intro entry hentry
    change entry.1 < server.io.nextSessionId + 1
    rcases mem_append.mp hentry with hbefore | hnew
    · have hlt := hsteady.ids_lt entry hbefore
      omega
    · rw [mem_singleton.mp hnew]
      exact Nat.lt_succ_self _
  · intro entry hentry
    change entry.2 < server.io.nextRegistrationToken + 1
    rcases mem_append.mp hentry with hbefore | hnew
    · have hlt := hsteady.tokens_lt entry hbefore
      omega
    · rw [mem_singleton.mp hnew]
      exact Nat.lt_succ_self _
  · intro id hid
    change server.io.nextSessionId + 1 ≤ id at hid
    exact hsteady.unborn id (by omega)
  · intro session hheld
    rcases holds_register hheld with hbefore | rfl
    · exact hsteady.tracks session hbefore
    · obtain ⟨hreceived, hevents, _, _⟩ :=
        hsteady.unborn server.io.nextSessionId (Nat.le_refl _)
      change Session.Tracks _ (server.received server.io.nextSessionId)
        (eventsFor server.pushed server.io.nextSessionId)
      rw [hreceived, hevents]
      exact ⟨[], .nil _, rfl, rfl⟩
  · intro other session hlookup
    rcases of_lookup_insert hlookup with ⟨_, rfl⟩ | ⟨_, hbefore⟩
    · obtain ⟨_, _, hsent, haddressed⟩ :=
        hsteady.unborn server.io.nextSessionId (Nat.le_refl _)
      change Session.Owes _ (server.sent server.io.nextSessionId)
        (server.addressed server.io.nextSessionId)
      rw [hsent, haddressed]
      exact ⟨rfl, rfl⟩
    · exact hsteady.writes other session hbefore
  · refine ⟨?_, ?_, hquiet.queued, hquiet.paused⟩
    · intro other session hlookup hout hother
      rcases of_lookup_insert hlookup with ⟨_, rfl⟩ | ⟨_, hbefore⟩
      · rfl
      · exact hquiet.idle other session hbefore hout hother
    · intro other hin
      change (server.io.register config fd).sessionsByFd.lookup other ≠ none
      rw [lookup_register]
      split
      · simp
      · exact hquiet.live other hin

end Register

/-! ## Closing everything -/

theorem Sound.clear (hsound : Sound config server) : Sound config (server.update clear) := by
  have hlookup (fd : Fd) : (server.io.clear).sessionsByFd.lookup fd = none :=
    Finmap.lookup_empty fd
  have hheld (session : Session) : ¬ server.io.clear.Holds session := by
    rintro (⟨fd, hsome⟩ | hdeferred)
    · rw [hlookup] at hsome
      cases hsome
    · cases hdeferred
  refine { hsound with
    tables := .clear server.io.toConnectionTables
    current := fun _ => rfl
    registered := ?_
    deferrals := ?_
    bounded := fun session hafter => (hheld session hafter).elim }
  · intro fd session _ hsome
    exact (hheld session (.inl ⟨fd, hsome⟩)).elim
  · constructor
    · rfl
    · exact nodup_nil
    · intro session hin
      cases hin
    · intro _ hin
      cases hin
    · exact Nat.zero_le _
    · intro _ hsome
      exact absurd rfl hsome

end SessionServer.TcpServer
