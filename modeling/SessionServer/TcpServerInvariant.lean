import SessionServer.TcpServerMachine
import SessionServer.TcpServerStreams
import SessionServer.TcpServerTables
import SessionServer.TcpServerWrites

/-!
# What holds of the network thread

`Sound` holds at every call of the thread, also while an exception is on its
way out.  `Steady` holds between the functions: every session accounts for its
stream and for what it is to be sent, no complete frame is forgotten, and the
pause flags agree.  Each update of the state has one lemma for each.
-/

namespace SessionServer.TcpServer

open Protocol

variable {session : Session}

/-- The session is in the table or waits to be announced as disconnected. -/
def IoState.Holds (io : IoState) (session : Session) : Prop :=
  (∃ fd, io.sessionsByFd.lookup fd = some session) ∨ session ∈ io.deferredDisconnects

/-- The events pushed for a session. -/
def eventsFor (pushed : List InputEvent) (id : ℕ) : List InputEvent :=
  pushed.filter fun event => event.sessionId == id

theorem eventsFor_append (pushed : List InputEvent) (event : InputEvent) (id : ℕ) :
    eventsFor (pushed ++ [event]) id =
      if event.sessionId = id then eventsFor pushed id ++ [event] else eventsFor pushed id := by
  unfold eventsFor
  by_cases hid : event.sessionId = id
  · simp [hid]
  · simp [hid]

def limitException : ServerException :=
  .logicError "deferred disconnect limit exceeded"

def Server.update (server : Server) (update : IoState → IoState) : Server :=
  { server with io := update server.io }

structure Deferrals (config : ServerConfig) (io : IoState) : Prop where
  ids : io.deferredDisconnectIds = (io.deferredDisconnects.map Session.id).toFinset
  nodup : (io.deferredDisconnects.map Session.id).Nodup
  apart : ∀ session ∈ io.deferredDisconnects, io.fdBySession.lookup session.id = none
  lt : ∀ session ∈ io.deferredDisconnects, session.id < io.nextSessionId
  limit : io.sessionCount + io.deferredDisconnects.length ≤ config.maxSessions
  paused : io.shutdownPhase = .running → io.deferredDisconnects ≠ [] → io.readsPaused = true

structure Sound (config : ServerConfig) (server : Server) : Prop where
  tables : server.io.toConnectionTables.Consistent
  current : server.registering = false → server.io.currentSessions = server.io.sessionCount
  registered : ∀ fd session token, server.io.sessionsByFd.lookup fd = some session →
    server.io.registrationTokenByFd.lookup fd = some token →
    (session.id, token) ∈ server.registrations
  ids_nodup : (server.registrations.map Prod.fst).Nodup
  tokens_nodup : (server.registrations.map Prod.snd).Nodup
  deferrals : Deferrals config server.io
  delivered : ∀ id, Delivered id (server.received id) (eventsFor server.pushed id)
  bounded : ∀ session, server.io.Holds session → session.codec.bufferedByteCount ≤ 8191
  outbound : ∀ id, server.sent id <+: outboundBytes (server.addressed id)
  raised : limitException ∉ server.raised

/-- No complete frame is forgotten; the session of `feeding` is being read. -/
structure Quiet (feeding : Option Fd) (io : IoState) : Prop where
  idle : ∀ fd session, io.sessionsByFd.lookup fd = some session →
    fd ∉ io.deferredReadFdSet → some fd ≠ feeding → session.codec.peekPacket = .ok none
  live : ∀ fd ∈ io.deferredReadFdSet, io.sessionsByFd.lookup fd ≠ none
  queued : ∀ fd ∈ io.deferredReadFdSet, fd ∈ io.deferredReadFds
  paused : io.shutdownPhase = .running → io.deferredReadFdSet ≠ ∅ → io.readsPaused = true

structure Control (io : IoState) : Prop where
  controller : io.shutdownPhase = .running → io.readsPaused = io.readBackpressure.paused
  listener : io.shutdownPhase = .running → io.listenerRegistered = !io.readsPaused
  stopped : io.shutdownPhase ≠ .running → io.readsPaused = true
  forced : io.shutdownPhase = .forced → io.forcedShutdown = true

/-- Nothing is deferred any more. -/
def IoState.Emptied (io : IoState) : Prop :=
  io.deferredDisconnects = [] ∧ io.deferredReadFds = []

structure Steady (config : ServerConfig) (feeding : Option Fd) (server : Server) : Prop
    extends Sound config server where
  opened : ∀ fd session, server.io.sessionsByFd.lookup fd = some session → fd ∈ server.openFds
  moved : server.io.movedSessions = 0
  counted : server.registering = false
  ids_lt : ∀ entry ∈ server.registrations, entry.1 < server.io.nextSessionId
  tokens_lt : ∀ entry ∈ server.registrations, entry.2 < server.io.nextRegistrationToken
  unborn : ∀ id, server.io.nextSessionId ≤ id → server.received id = [] ∧
    eventsFor server.pushed id = [] ∧ server.sent id = [] ∧ server.addressed id = []
  tracks : ∀ session, server.io.Holds session →
    session.Tracks (server.received session.id) (eventsFor server.pushed session.id)
  writes : ∀ fd session, server.io.sessionsByFd.lookup fd = some session →
    session.Owes (server.sent session.id) (server.addressed session.id)
  quiet : Quiet feeding server.io
  control : Control server.io
  drained : server.io.shutdownPhase = .drainingOutput → server.io.Emptied

variable {config : ServerConfig} {server : Server} {feeding : Option Fd}

/-! ## Sessions that are held -/

theorem Sound.held_lt (hsound : Sound config server)
    (hheld : server.io.Holds session) : session.id < server.io.nextSessionId := by
  rcases hheld with ⟨fd, hlookup⟩ | hdeferred
  · exact hsound.tables.id_lt fd session hlookup
  · exact hsound.deferrals.lt session hdeferred

theorem Sound.live_not_deferred (hsound : Sound config server) {fd : Fd}
    {other : Session} (hlookup : server.io.sessionsByFd.lookup fd = some session)
    (hdeferred : other ∈ server.io.deferredDisconnects) : session.id ≠ other.id := by
  intro hid
  have hfd := (hsound.tables.session_iff session.id fd).mpr ⟨session, hlookup, rfl⟩
  have hnone := hsound.deferrals.apart other hdeferred
  rw [← hid, hfd] at hnone
  cases hnone

/-! ## Updates of flags -/

theorem Deferrals.frame {before after : IoState} (hdeferrals : Deferrals config before)
    (htables : after.toConnectionTables = before.toConnectionTables)
    (hdeferred : after.deferredDisconnects = before.deferredDisconnects)
    (hids : after.deferredDisconnectIds = before.deferredDisconnectIds)
    (hpaused : after.shutdownPhase = .running → after.deferredDisconnects ≠ [] →
      after.readsPaused = true) : Deferrals config after where
  ids := by rw [hids, hdeferred, hdeferrals.ids]
  nodup := by rw [hdeferred]; exact hdeferrals.nodup
  apart := by rw [hdeferred, htables]; exact hdeferrals.apart
  lt := by rw [hdeferred, htables]; exact hdeferrals.lt
  limit := by rw [hdeferred, htables]; exact hdeferrals.limit
  paused := hpaused

theorem IoState.holds_frame {before after : IoState}
    (htables : after.toConnectionTables = before.toConnectionTables)
    (hdeferred : after.deferredDisconnects = before.deferredDisconnects) (session : Session) :
    after.Holds session ↔ before.Holds session := by
  unfold IoState.Holds
  rw [htables, hdeferred]

section Frame

variable {update : IoState → IoState}
    (htables : (update server.io).toConnectionTables = server.io.toConnectionTables)
    (hdeferred : (update server.io).deferredDisconnects = server.io.deferredDisconnects)
    (hids : (update server.io).deferredDisconnectIds = server.io.deferredDisconnectIds)
    (hpaused : (update server.io).shutdownPhase = .running →
      server.io.deferredDisconnects ≠ [] → (update server.io).readsPaused = true)
include htables hdeferred hids hpaused

theorem Sound.frame (hsound : Sound config server) : Sound config (server.update update) where
  tables := by
    change (update server.io).toConnectionTables.Consistent
    rw [htables]
    exact hsound.tables
  current := by
    change _ → (update server.io).toConnectionTables.currentSessions =
      (update server.io).toConnectionTables.sessionCount
    rw [htables]
    exact hsound.current
  registered := by
    change ∀ fd session token, (update server.io).toConnectionTables.sessionsByFd.lookup fd =
      some session → (update server.io).toConnectionTables.registrationTokenByFd.lookup fd =
      some token → _
    rw [htables]
    exact hsound.registered
  ids_nodup := hsound.ids_nodup
  tokens_nodup := hsound.tokens_nodup
  deferrals := by
    apply hsound.deferrals.frame htables hdeferred hids
    rw [hdeferred]
    exact hpaused
  delivered := hsound.delivered
  bounded := by
    intro session hheld
    exact hsound.bounded session ((IoState.holds_frame htables hdeferred session).mp hheld)
  outbound := hsound.outbound
  raised := hsound.raised

theorem Steady.frame (hsteady : Steady config feeding server) {next : Option Fd}
    (hquiet : Quiet next (update server.io)) (hcontrol : Control (update server.io))
    (hdrained : (update server.io).shutdownPhase = .drainingOutput →
      (update server.io).Emptied) : Steady config next (server.update update) where
  toSound := hsteady.toSound.frame htables hdeferred hids hpaused
  opened := by
    change ∀ fd session, (update server.io).toConnectionTables.sessionsByFd.lookup fd =
      some session → _
    rw [htables]
    exact hsteady.opened
  moved := by
    change (update server.io).toConnectionTables.movedSessions = 0
    rw [htables]
    exact hsteady.moved
  counted := hsteady.counted
  ids_lt := by
    change ∀ entry ∈ server.registrations,
      entry.1 < (update server.io).toConnectionTables.nextSessionId
    rw [htables]
    exact hsteady.ids_lt
  tokens_lt := by
    change ∀ entry ∈ server.registrations,
      entry.2 < (update server.io).toConnectionTables.nextRegistrationToken
    rw [htables]
    exact hsteady.tokens_lt
  unborn := by
    change ∀ id, (update server.io).toConnectionTables.nextSessionId ≤ id → _
    rw [htables]
    exact hsteady.unborn
  tracks := by
    intro session hheld
    exact hsteady.tracks session ((IoState.holds_frame htables hdeferred session).mp hheld)
  writes := by
    change ∀ fd session, (update server.io).toConnectionTables.sessionsByFd.lookup fd =
      some session → _
    rw [htables]
    exact hsteady.writes
  quiet := hquiet
  control := hcontrol
  drained := hdrained

end Frame

end SessionServer.TcpServer
