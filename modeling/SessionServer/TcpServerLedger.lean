import SessionServer.InteractionRecording
import SessionServer.TcpServerRun

/-!
# What the event loop watches and what is counted

The calls of the network thread are recorded in a ledger: the events that are
registered for each descriptor and for the listener, and the
counters of removed sessions.  `Tuned` says that the registrations are those
of the sessions, `Booked` that every session is live or counted once.  `Records`
is partial correctness with respect to both.
-/

namespace SessionServer.TcpServer

open Protocol InteractionProgram IoState Environment Function Option Finmap FiniteMap

def DisconnectReason.all : List DisconnectReason :=
  [.peerClosed, .socketError, .protocolError, .idleTimeout, .workerRequested,
    .pendingWriteLimit, .closeAfterFlush, .shutdown]

structure Ledger where
  /-- What was registered by `epoll_ctl` for a connection. -/
  interests : Fd → Option EventMask := fun _ => none
  /-- What was registered for the listener, first by `openListener`. -/
  listening : Option EventMask := some epollIn
  /-- The counters `disconnect_*`. -/
  disconnects : DisconnectReason → ℕ := fun _ => 0
  slowClientDisconnects : ℕ := 0
  /-- What the outbox gave last. -/
  taken : Option OutputMessage := none

namespace Ledger

variable {request : IoCall}

def watch (fd : Fd) (events : Option EventMask) (ledger : Ledger) : Ledger :=
  { ledger with interests := update ledger.interests fd events }

def listen (listening : Option EventMask) (ledger : Ledger) : Ledger :=
  { ledger with listening }

def recordDisconnect (reason : DisconnectReason) (ledger : Ledger) : Ledger :=
  { ledger with
    disconnects := update ledger.disconnects reason (ledger.disconnects reason + 1) }

def recordSlowClientDisconnect (ledger : Ledger) : Ledger :=
  { ledger with slowClientDisconnects := ledger.slowClientDisconnects + 1 }

def take (popped : Option OutputMessage) (ledger : Ledger) : Ledger :=
  { ledger with taken := popped }

/-- Closing a descriptor removes its registration. -/
def note : (request : IoCall) → IoAnswer request → Ledger → Ledger
  | .epollAdd fd events _ | .epollModify fd events _ => fun (succeeded : Bool) ledger =>
    if succeeded then ledger.watch fd (some events) else ledger
  | .epollRemove fd | .close fd => fun _ ledger => ledger.watch fd none
  | .epollAddListener events _ => fun (added : Bool) ledger =>
    if added then ledger.listen (some events) else ledger
  | .epollRemoveListener => fun _ ledger => ledger.listen none
  | .recordDisconnect _ reason => fun _ ledger => ledger.recordDisconnect reason
  | .recordSlowClientDisconnect => fun _ ledger => ledger.recordSlowClientDisconnect
  | .outboxTryPop => fun popped ledger => ledger.take popped
  | _ => fun _ ledger => ledger

/-- The sum of the eight counters. -/
def removed (ledger : Ledger) : ℕ := (DisconnectReason.all.map ledger.disconnects).sum

theorem recordDisconnect_self (reason : DisconnectReason) (ledger : Ledger) :
    (ledger.recordDisconnect reason).disconnects reason = ledger.disconnects reason + 1 :=
  update_self ..

theorem recordDisconnect_of_ne {reason other : DisconnectReason} (hne : other ≠ reason)
    (ledger : Ledger) :
    (ledger.recordDisconnect reason).disconnects other = ledger.disconnects other :=
  update_of_ne hne ..

theorem removed_recordDisconnect (reason : DisconnectReason) (ledger : Ledger) :
    (ledger.recordDisconnect reason).removed = ledger.removed + 1 := by
  unfold removed recordDisconnect DisconnectReason.all
  cases reason <;> simp [update] <;> omega

end Ledger

/-! ## What holds between the functions -/

variable {config : ServerConfig} {io after : IoState} {ledger : Ledger} {broken : Set Fd}
  {fd : Fd} {session : Session}

/-- What is registered is what the sessions ask for, outside of some descriptors. -/
structure Tuned (config : ServerConfig) (broken : Set Fd) (io : IoState) (ledger : Ledger) :
    Prop where
  interests : ∀ fd session, io.sessionsByFd.lookup fd = some session → fd ∉ broken →
    ledger.interests fd = some (io.interest session)
  limits : ∀ fd session, io.sessionsByFd.lookup fd = some session →
    session.maxPendingWriteBytes = config.maxPendingWriteBytes
  listening : ledger.listening = if io.listenerRegistered then some epollIn else none
  listener : io.listenerRegistered = (io.shutdownPhase == .running && !io.readsPaused)

structure Booked (io : IoState) (ledger : Ledger) : Prop where
  balance : io.nextSessionId = 1 + io.sessionCount + ledger.removed
  slow : ledger.slowClientDisconnects = ledger.disconnects .pendingWriteLimit
  moved : io.movedSessions = 0

structure Kept (config : ServerConfig) (io : IoState) (ledger : Ledger) : Prop where
  tuned : Tuned config ∅ io ledger
  booked : Booked io ledger

/-- The descriptor's session has no room for the message popped last. -/
def Overflows (config : ServerConfig) (fd : Fd) (io : IoState) (ledger : Ledger) : Prop :=
  ∃ session message, io.sessionsByFd.lookup fd = some session ∧ ledger.taken = some message ∧
    message.sessionId = session.id ∧ message.kind ≠ .disconnectSession ∧
    (message.bytes = [] ∨
      config.maxPendingWriteBytes < session.pendingWriteBytes + message.bytes.length)

namespace Tuned

section Kept

variable (htuned : Tuned config broken io ledger)
include htuned

theorem watch_absent (events : Option EventMask) (hnone : io.sessionsByFd.lookup fd = none) :
    Tuned config broken io (ledger.watch fd events) := by
  refine { htuned with interests := ?_ }
  intro other session hlookup hin
  have hne : other ≠ fd := by
    rintro rfl
    rw [hnone] at hlookup
    cases hlookup
  change update ledger.interests fd events other = _
  rw [update_of_ne hne]
  exact htuned.interests other session hlookup hin

theorem watch_interest (hlookup : io.sessionsByFd.lookup fd = some session) :
    Tuned config (broken \ {fd}) io (ledger.watch fd (some (io.interest session))) := by
  refine { htuned with interests := ?_ }
  intro other present hpresent hin
  change update ledger.interests fd _ other = _
  by_cases hfd : other = fd
  · subst hfd
    rw [hlookup] at hpresent
    cases hpresent
    rw [update_self]
  · rw [update_of_ne hfd]
    apply htuned.interests other present hpresent
    intro hbroken
    exact hin ⟨hbroken, hfd⟩

theorem narrow {fewer : Set Fd}
    (hfewer : ∀ fd ∈ broken, fd ∉ fewer → io.sessionsByFd.lookup fd = none) :
    Tuned config fewer io ledger := by
  refine { htuned with interests := ?_ }
  intro fd session hlookup hin
  apply htuned.interests fd session hlookup
  intro hbroken
  have hnone := hfewer fd hbroken hin
  rw [hlookup] at hnone
  cases hnone

theorem widen {more : Set Fd} (hmore : broken ⊆ more) : Tuned config more io ledger := by
  refine { htuned with interests := ?_ }
  intro fd session hlookup hin
  exact htuned.interests fd session hlookup fun hbroken => hin (hmore hbroken)

theorem setLive (hlimit : session.maxPendingWriteBytes = config.maxPendingWriteBytes)
    (hinterest : fd ∉ broken → ledger.interests fd = some (io.interest session)) :
    Tuned config broken (io.setSession (.live fd) session) ledger where
  interests := by
    intro other present hpresent hin
    rcases of_lookup_insert hpresent with ⟨rfl, rfl⟩ | ⟨_, hbefore⟩
    · exact hinterest hin
    · exact htuned.interests other present hbefore hin
  limits := by
    intro other present hpresent
    rcases of_lookup_insert hpresent with ⟨_, rfl⟩ | ⟨_, hbefore⟩
    · exact hlimit
    · exact htuned.limits other present hbefore
  listening := htuned.listening
  listener := htuned.listener

theorem unregister (fd : Fd) (session : Session) :
    Tuned config (broken \ {fd}) (io.unregister fd session) ledger where
  interests := by
    intro other present hpresent hin
    obtain ⟨hne, hbefore⟩ := of_lookup_erase hpresent
    exact htuned.interests other present hbefore fun hbroken => hin ⟨hbroken, hne⟩
  limits := by
    intro other present hpresent
    exact htuned.limits other present (of_lookup_erase hpresent).2
  listening := htuned.listening
  listener := htuned.listener

end Kept

theorem register (htuned : Tuned config ∅ io ledger) (fd : Fd) :
    Tuned config {fd} (io.register config fd) ledger where
  interests := by
    intro other present hpresent hfd
    change (io.sessionsByFd.insert fd _).lookup other = _ at hpresent
    rw [lookup_insert_of_ne _ hfd] at hpresent
    exact htuned.interests other present hpresent id
  limits := by
    intro other present hpresent
    rcases of_lookup_insert hpresent with ⟨_, rfl⟩ | ⟨_, hbefore⟩
    · rfl
    · exact htuned.limits other present hbefore
  listening := htuned.listening
  listener := htuned.listener

theorem enterPhase (htuned : Tuned config broken io ledger) {phase : ShutdownPhase}
    (hstopped : io.shutdownPhase ≠ .running) (hphase : phase ≠ .running) :
    Tuned config broken (io.enterPhase phase) ledger where
  interests := by
    intro fd session hlookup hin
    rw [htuned.interests fd session hlookup hin]
    simp only [interest, IoState.enterPhase, hstopped, hphase, false_and]
  limits := htuned.limits
  listening := htuned.listening
  listener := by
    have hout := htuned.listener
    rw [beq_false_of_ne hstopped] at hout
    unfold IoState.enterPhase
    rw [beq_false_of_ne hphase]
    exact hout

end Tuned

namespace Booked

theorem congr (hbooked : Booked io ledger) (hnext : after.nextSessionId = io.nextSessionId)
    (hsessions : after.sessionsByFd.keys = io.sessionsByFd.keys)
    (hmoved : after.movedSessions = io.movedSessions) : Booked after ledger where
  balance := by
    unfold ConnectionTables.sessionCount
    rw [hnext, hsessions, hmoved]
    exact hbooked.balance
  slow := hbooked.slow
  moved := hmoved.trans hbooked.moved

theorem setLive (hbooked : Booked io ledger) {present : Session}
    (hlookup : io.sessionsByFd.lookup fd = some present) (session : Session) :
    Booked (io.setSession (.live fd) session) ledger := by
  have hkeys : (io.setSession (.live fd) session).sessionsByFd.keys = io.sessionsByFd.keys := by
    change (io.sessionsByFd.insert fd session).keys = _
    rw [keys_insert, Finset.insert_eq_self, mem_keys_iff, hlookup]
    simp
  exact hbooked.congr rfl hkeys rfl

theorem register (hbooked : Booked io ledger) (hnone : io.sessionsByFd.lookup fd = none) :
    Booked (io.register config fd) ledger where
  balance := by
    have hcount := ConnectionTables.sessionCount_register config hnone
    change io.nextSessionId + 1 = 1 + (io.toConnectionTables.register config fd).sessionCount + _
    rw [hcount, hbooked.balance]
    omega
  slow := hbooked.slow
  moved := hbooked.moved

end Booked

/-! ## Updates that neither see -/

/-- The update is about deferred input or backpressure. -/
class Unseen (update : IoState → IoState) : Prop where
  tables : ∀ io, (update io).toConnectionTables = io.toConnectionTables
  phase : ∀ io, (update io).shutdownPhase = io.shutdownPhase
  reads : ∀ io, (update io).readsPaused = io.readsPaused
  listener : ∀ io, (update io).listenerRegistered = io.listenerRegistered

section Unseen

variable (fd : Fd) (session : Session) (id : ℕ)

instance (controller : ReadBackpressureController) :
    Unseen (setBackpressure controller) :=
  ⟨fun _ => rfl, fun _ => rfl, fun _ => rfl, fun _ => rfl⟩

instance : Unseen (deferDisconnect session) :=
  ⟨fun _ => rfl, fun _ => rfl, fun _ => rfl, fun _ => rfl⟩

instance : Unseen (popDeferredDisconnect id) :=
  ⟨fun _ => rfl, fun _ => rfl, fun _ => rfl, fun _ => rfl⟩

instance : Unseen popDeferredRead :=
  ⟨fun _ => rfl, fun _ => rfl, fun _ => rfl, fun _ => rfl⟩

instance : Unseen (takeDeferredRead fd) :=
  ⟨fun _ => rfl, fun _ => rfl, fun _ => rfl, fun _ => rfl⟩

instance : Unseen (setSession .deferred session) :=
  ⟨fun _ => rfl, fun _ => rfl, fun _ => rfl, fun _ => rfl⟩

instance : Unseen (IoState.deferRead fd) := by
  constructor <;> intro io <;> unfold IoState.deferRead <;> split <;> rfl

end Unseen

theorem Kept.unseen (hkept : Kept config io ledger) (update : IoState → IoState)
    [hunseen : Unseen update] : Kept config (update io) ledger where
  tuned := by
    constructor
    · rw [hunseen.tables io]
      intro fd session hlookup hin
      rw [hkept.tuned.interests fd session hlookup hin]
      unfold interest
      rw [hunseen.phase, hunseen.reads]
    · rw [hunseen.tables io]
      exact hkept.tuned.limits
    · rw [hunseen.listener io]
      exact hkept.tuned.listening
    · rw [hunseen.phase io, hunseen.reads io, hunseen.listener io]
      exact hkept.tuned.listener
  booked := by
    apply hkept.booked.congr
    · rw [hunseen.tables io]
    · rw [hunseen.tables io]
    · rw [hunseen.tables io]

/-- The session changes in what is neither registered nor counted. -/
theorem Kept.setSession (hkept : Kept config io ledger) {place : SessionPlace}
    {present : Session} (hpresent : io.session? place = some present)
    (hwrites : session.pendingWrites = present.pendingWrites)
    (hclosing : session.closingAfterFlush = present.closingAfterFlush)
    (hlimit : session.maxPendingWriteBytes = present.maxPendingWriteBytes) :
    Kept config (io.setSession place session) ledger := by
  cases place with
  | deferred => exact hkept.unseen (IoState.setSession .deferred session)
  | live fd =>
    refine ⟨hkept.tuned.setLive ?_ ?_, hkept.booked.setLive hpresent session⟩
    · rw [hlimit]
      exact hkept.tuned.limits fd present hpresent
    · intro hin
      rw [hkept.tuned.interests fd present hpresent hin]
      unfold interest Session.hasPendingWrite
      rw [hwrites, hclosing]

/-! ## Records -/

/-- What is shown at a call. -/
def check (config : ServerConfig) : IoCall → Server × Ledger → Shared → Prop
  | .loopHead, own, _ | .wait, own, _ => Kept config own.1.io own.2
  | .recordDisconnect fd reason, own, _ =>
    reason = .pendingWriteLimit → Overflows config fd own.1.io own.2
  | .get, _, _ | .modify _, _, _ | .epollRemove _, _, _ | .close _, _, _ => True
  | _, own, _ => Booked own.1.io own.2

/-- The network thread with its ledger. -/
def recorded (config : ServerConfig) :
    Environment IoAnswer (Server × Ledger) Shared Interference Reply :=
  (environment config).recording Ledger.note

def Ends {α : Type} (good : α → IoState → Ledger → Prop) :
    Except ServerException α → Server × Ledger → Shared → Prop
  | .ok result, own, _ => good result own.1.io own.2
  | .error _, own, _ => Booked own.1.io own.2

/-- From a server with this state, as far as its run is known to go. -/
def Records {α : Type} (config : ServerConfig) (good : α → IoState → Ledger → Prop)
    (program : Io α) (io : IoState) (ledger : Ledger) : Prop :=
  ∀ server shared, server.io = io →
    ((recorded config).restrict fun request own => guard config request own.1).Safe
      (check config) (Ends good) program (server, ledger) shared

/-- What is registered and counted stays right. -/
def Keeps {α : Type} (config : ServerConfig) (program : Io α) : Prop :=
  ∀ io ledger, Kept config io ledger → Records config (fun _ => Kept config) program io ledger

section Rules

variable {α β σ : Type} {good : α → IoState → Ledger → Prop}

theorem records_pure {result : α} (hgood : good result io ledger) :
    Records config good (pure result) io ledger := by
  rintro _ _ rfl
  exact safe_pure hgood

theorem Records.mono {program : Io α} {weaker : α → IoState → Ledger → Prop}
    (hrecords : Records config good program io ledger)
    (hweaker : ∀ result io ledger, good result io ledger → weaker result io ledger) :
    Records config weaker program io ledger := by
  intro server shared hio
  apply (hrecords server shared hio).mono
  intro result own _ hpost
  cases result with
  | ok result => exact hweaker result own.1.io own.2 hpost
  | error => exact hpost

theorem Records.bind {program : Io β} {rest : β → Io α} {middle : β → IoState → Ledger → Prop}
    (hrecords : Records config middle program io ledger)
    (hrest : ∀ result io ledger, middle result io ledger →
      Records config good (rest result) io ledger) :
    Records config good (program >>= rest) io ledger := by
  intro server shared hio
  apply (hrecords server shared hio).bind
  · intro result own shared hpost
    exact hrest result own.1.io own.2 hpost own.1 shared rfl
  · intro _ _ _ hpost
    exact hpost

/-- A call, with what is known of it. -/
theorem records_invoke {rest : IoAnswer request → Io α}
    (hcheck : ∀ server shared, server.io = io → check config request (server, ledger) shared)
    (hrest : ∀ server shared reply answer after later, server.io = io →
      guard config request server shared →
      respond request server shared reply = some (answer, after, later) →
      Records config good (rest answer) after.io (ledger.note request answer)) :
    Records config good (invoke request >>= rest) io ledger := by
  intro server shared hio
  apply safe_perform
  · intro now _
    exact hcheck server now hio
  · rintro now reply answer ⟨after, _⟩ shared _ hrespond
    obtain ⟨hguard, hrespond⟩ := restrict_respond.mp hrespond
    obtain ⟨hrespond, rfl⟩ := recording_respond.mp hrespond
    exact hrest server now reply answer after shared hio hguard hrespond after shared rfl

theorem records_get {rest : IoState → Io α}
    (hrest : io.toConnectionTables.Consistent → Records config good (rest io) io ledger) :
    Records config good (get >>= rest) io ledger := by
  apply records_invoke
  · intro _ _ _
    trivial
  · rintro server _ _ _ _ _ rfl hguard hrespond
    have hsound : Sound config server := hguard
    cases Reply.unit?_map hrespond
    exact hrest hsound.tables

theorem records_modify {update : IoState → IoState} {rest : Unit → Io α}
    (hrest : Records config good (rest ()) (update io) ledger) :
    Records config good (modify update >>= rest) io ledger := by
  apply records_invoke
  · intro _ _ _
    trivial
  · rintro _ _ _ _ _ _ rfl _ hrespond
    cases Reply.unit?_map hrespond
    exact hrest

/-- Calls that change neither the state nor the ledger. -/
def IoCall.unnoted : IoCall → Bool
  | .stopRequested | .deadlineReached | .accept | .configureSocket _ | .recv _ | .feed _
  | .send _ _ | .sessionOrder | .expiredSessions | .inboxTryPush _ | .inboxSize
  | .notifyInputCapacity | .drainInputCapacity | .outboxSize | .notifyOutbound
  | .drainOutboundWakeup | .closeOutbox | .beginStop | .forceStop | .workersFinished
  | .joinWorkers | .raise _ | .rounds | .halt | .undefinedBehaviour => true
  | _ => false

theorem respond_unnoted (hunnoted : request.unnoted = true)
    {server after : Server} {now later : Shared} {reply : Reply} {answer : IoAnswer request}
    (hrespond : respond request server now reply = some (answer, after, later)) :
    after.io = server.io ∧ ledger.note request answer = ledger := by
  by_cases hinert : request.inert = true
  · have hsame := (respond_inert hinert hrespond).1
    refine ⟨by rw [hsame], ?_⟩
    cases request with
    | _ => first | rfl | cases hunnoted
  cases request with
  | accept =>
    simp only [respond, map_eq_some_iff, Prod.mk.injEq] at hrespond
    obtain ⟨accepted, _, _, rfl, _⟩ := hrespond
    exact ⟨server.accept_io accepted, rfl⟩
  | recv fd =>
    simp only [respond, map_eq_some_iff, Prod.mk.injEq] at hrespond
    obtain ⟨received, _, _, rfl, _⟩ := hrespond
    exact ⟨server.receive_io fd received, rfl⟩
  | send fd data =>
    simp only [respond, map_eq_some_iff, Prod.mk.injEq] at hrespond
    obtain ⟨sent, _, _, rfl, _⟩ := hrespond
    exact ⟨server.send_io fd data sent, rfl⟩
  | inboxTryPush event =>
    cases Reply.unit?_map hrespond
    exact ⟨server.push_io event _, rfl⟩
  | drainInputCapacity =>
    simp only [respond, map_eq_some_iff, Prod.mk.injEq] at hrespond
    obtain ⟨_, _, _, rfl, _⟩ := hrespond
    exact ⟨rfl, rfl⟩
  | feed _ | notifyInputCapacity | closeOutbox | beginStop | forceStop | raise _ =>
    cases Reply.unit?_map hrespond
    exact ⟨rfl, rfl⟩
  | halt | undefinedBehaviour => cases hrespond
  | _ => first | exact absurd rfl hinert | cases hunnoted

theorem Booked.check (hbooked : Booked io ledger)
    (hunnoted : request.unnoted = true) (server : Server) (shared : Shared)
    (hio : server.io = io) : check config request (server, ledger) shared := by
  subst hio
  cases request <;> first | exact hbooked | cases hunnoted

theorem records_ask (hunnoted : request.unnoted = true)
    {rest : IoAnswer request → Io α} (hbooked : Booked io ledger)
    (hrest : ∀ answer, Records config good (rest answer) io ledger) :
    Records config good (invoke request >>= rest) io ledger := by
  apply records_invoke (hbooked.check hunnoted)
  rintro server _ _ answer after _ rfl _ hrespond
  have hsame : after.io = server.io ∧ ledger.note request answer = ledger :=
    respond_unnoted hunnoted hrespond
  rw [hsame.1, hsame.2]
  exact hrest answer

theorem records_raise {exception : ServerException} (hbooked : Booked io ledger) :
    Records config good (raise exception) io ledger := by
  apply records_ask rfl hbooked
  rintro _ _ _ rfl
  exact safe_throw hbooked

theorem records_undefinedBehaviour (hbooked : Booked io ledger) :
    Records config good undefinedBehaviour io ledger :=
  records_ask rfl hbooked fun answer => answer.elim

theorem records_sessionOrder {rest : List Fd → Io α} (hbooked : Booked io ledger)
    (hrest : ∀ fds, fds.Nodup → fds.toFinset = io.sessionsByFd.keys →
      Records config good (rest fds) io ledger) :
    Records config good (invoke .sessionOrder >>= rest) io ledger := by
  apply records_invoke (hbooked.check rfl)
  rintro _ _ _ _ _ _ rfl _ hrespond
  simp only [respond, bind_eq_bind, bind_eq_some_iff] at hrespond
  obtain ⟨fds, _, hfds⟩ := hrespond
  split at hfds
  · next horder =>
    simp only [pure_def, Option.some.injEq, Prod.mk.injEq] at hfds
    obtain ⟨rfl, rfl, rfl⟩ := hfds
    exact hrest fds horder.1 horder.2
  · cases hfds

theorem records_epollModify {events : EventMask} {token : ℕ} {rest : Bool → Io α}
    (hbooked : Booked io ledger)
    (hmodified : Records config good (rest true) io (ledger.watch fd (some events)))
    (hrefused : Records config good (rest false) io ledger) :
    Records config good (invoke (.epollModify fd events token) >>= rest) io ledger := by
  apply records_invoke
  · rintro server _ rfl
    exact hbooked
  rintro _ _ _ answer _ _ rfl _ hrespond
  obtain ⟨rfl, _⟩ := respond_inert rfl hrespond
  cases answer with
  | true => exact hmodified
  | false => exact hrefused

theorem records_epollRemove {rest : Unit → Io α}
    (hrest : Records config good (rest ()) io (ledger.watch fd none)) :
    Records config good (invoke (.epollRemove fd) >>= rest) io ledger := by
  apply records_invoke
  · intro _ _ _
    trivial
  rintro _ _ _ _ _ _ rfl _ hrespond
  obtain ⟨rfl, _⟩ := respond_inert rfl hrespond
  exact hrest

theorem records_close {rest : Unit → Io α}
    (hrest : Records config good (rest ()) io (ledger.watch fd none)) :
    Records config good (invoke (.close fd) >>= rest) io ledger := by
  apply records_invoke
  · intro _ _ _
    trivial
  rintro _ _ _ _ _ _ rfl _ hrespond
  cases Reply.unit?_map hrespond
  exact hrest

theorem records_recordDisconnect {reason : DisconnectReason} {rest : Unit → Io α}
    (hreason : reason = .pendingWriteLimit → Overflows config fd io ledger)
    (hrest : Records config good (rest ()) io (ledger.recordDisconnect reason)) :
    Records config good (invoke (.recordDisconnect fd reason) >>= rest) io ledger := by
  apply records_invoke
  · rintro server _ rfl
    exact hreason
  rintro _ _ _ _ _ _ rfl _ hrespond
  cases Reply.unit?_map hrespond
  exact hrest

theorem records_epollAddListener {events : EventMask} {token : ℕ} {rest : Bool → Io α}
    (hbooked : Booked io ledger)
    (hadded : Records config good (rest true) io (ledger.listen (some events)))
    (hrefused : Records config good (rest false) io ledger) :
    Records config good (invoke (.epollAddListener events token) >>= rest) io ledger := by
  apply records_invoke
  · rintro server _ rfl
    exact hbooked
  rintro _ _ _ answer _ _ rfl _ hrespond
  obtain ⟨rfl, _⟩ := respond_inert rfl hrespond
  cases answer with
  | true => exact hadded
  | false => exact hrefused

theorem records_epollAdd {events : EventMask} {token : ℕ} {rest : Bool → Io α}
    (hbooked : Booked io ledger)
    (hadded : Records config good (rest true) io (ledger.watch fd (some events)))
    (hrefused : Records config good (rest false) io ledger) :
    Records config good (invoke (.epollAdd fd events token) >>= rest) io ledger := by
  apply records_invoke
  · rintro server _ rfl
    exact hbooked
  rintro _ _ _ answer _ _ rfl _ hrespond
  obtain ⟨rfl, _⟩ := respond_inert rfl hrespond
  cases answer with
  | true => exact hadded
  | false => exact hrefused

theorem records_register {rest : Unit → Io α} (hbooked : Booked io ledger)
    (hrest : Records config good (rest ()) (io.register config fd) ledger) :
    Records config good (invoke (.register config fd) >>= rest) io ledger := by
  apply records_invoke
  · rintro server _ rfl
    exact hbooked
  rintro _ _ _ _ _ _ rfl _ hrespond
  cases Reply.unit?_map hrespond
  exact hrest

theorem records_storeCurrentSessions {good : Unit → IoState → Ledger → Prop}
    (hbooked : Booked io ledger) (hgood : good () io.storeCurrentSessions ledger) :
    Records config good (invoke .storeCurrentSessions) io ledger := by
  apply records_invoke
  · rintro server _ rfl
    exact hbooked
  rintro _ _ _ _ _ _ rfl _ hrespond
  cases Reply.unit?_map hrespond
  exact records_pure hgood

theorem Records.loop {body : σ → Io (σ ⊕ α)} {state : σ} (inv : σ → IoState → Ledger → Prop)
    (hbooked : ∀ state io ledger, inv state io ledger → Booked io ledger)
    (hbody : ∀ state io ledger, inv state io ledger →
      Records config (fun result => match result with
        | .inl next => inv next
        | .inr result => good result) (body state) io ledger)
    (hinv : inv state io ledger) : Records config good (loop body state) io ledger := by
  apply records_ask rfl (hbooked state io ledger hinv)
  rintro _ _ shared rfl
  apply safe_iterate fun state own _ => inv state own.1.io own.2
  · intro state own shared hstate
    have hstuck : Records config good (invoke .halt >>= Empty.elim) own.1.io own.2 :=
      records_ask rfl (hbooked state _ _ hstate) fun answer => answer.elim
    exact hstuck own.1 shared rfl
  · intro state own shared hstate
    apply (hbody state own.1.io own.2 hstate own.1 shared rfl).mono
    intro result _ _ hpost
    cases result with
    | ok result =>
      cases result with
      | inl | inr => exact hpost
    | error => exact hpost
  · exact hinv

theorem Records.tryCatch {program : Io α} {handler : ServerException → Io α}
    (hrecords : Records config good program io ledger)
    (hhandler : ∀ exception io ledger, Booked io ledger →
      Records config good (handler exception) io ledger) :
    Records config good (tryCatch program handler) io ledger := by
  intro server shared hio
  apply (hrecords server shared hio).tryCatch
  · intro _ own shared hpost
    exact hpost
  · intro exception own shared hpost
    exact hhandler exception own.1.io own.2 hpost own.1 shared rfl

/-! ## Keeps -/

theorem keeps_pure (result : α) : Keeps config (pure result) := by
  intro _ _ hkept
  exact records_pure hkept

theorem Keeps.bind {program : Io β} {rest : β → Io α} (hkeeps : Keeps config program)
    (hrest : ∀ result, Keeps config (rest result)) : Keeps config (program >>= rest) := by
  intro io ledger hkept
  apply (hkeeps io ledger hkept).bind
  intro result io ledger hkept
  exact hrest result io ledger hkept

theorem keeps_get {rest : IoState → Io α} (hrest : ∀ io, Keeps config (rest io)) :
    Keeps config (get >>= rest) := by
  intro io ledger hkept
  apply records_get
  intro _
  exact hrest io io ledger hkept

theorem keeps_modify (update : IoState → IoState) [Unseen update] :
    Keeps config (modify update) := by
  intro _ _ hkept
  exact records_modify (records_pure (hkept.unseen update))

theorem keeps_ask (hunnoted : request.unnoted = true)
    {rest : IoAnswer request → Io α} (hrest : ∀ answer, Keeps config (rest answer)) :
    Keeps config (invoke request >>= rest) := by
  intro io ledger hkept
  apply records_ask hunnoted hkept.booked
  intro answer
  exact hrest answer io ledger hkept

theorem keeps_call (hunnoted : request.unnoted = true) : Keeps config (invoke request) := by
  exact keeps_ask hunnoted keeps_pure

theorem keeps_raise (exception : ServerException) : Keeps config (raise exception : Io α) :=
  fun _ _ hkept => records_raise hkept.booked

theorem keeps_undefinedBehaviour : Keeps config (undefinedBehaviour : Io α) :=
  fun _ _ hkept => records_undefinedBehaviour hkept.booked

theorem keeps_loop {body : σ → Io (σ ⊕ α)} (state : σ)
    (hbody : ∀ state, Keeps config (body state)) : Keeps config (loop body state) := by
  intro io ledger hkept
  apply Records.loop fun _ => Kept config
  · intro _ _ _ hkept
    exact hkept.booked
  · intro state io ledger hkept
    apply (hbody state io ledger hkept).mono
    intro result _ _ hkept
    cases result with
    | inl | inr => exact hkept
  · exact hkept

theorem keeps_forEach {body : σ → Io Unit} (items : List σ)
    (hbody : ∀ item, Keeps config (body item)) : Keeps config (forEach body items) := by
  induction items with
  | nil => exact keeps_pure ()
  | cons item _ ih => exact (hbody item).bind fun _ => ih

theorem keeps_onlyIf {condition : Prop} [Decidable condition] {program : Io Unit}
    (hkeeps : Keeps config program) : Keeps config (onlyIf condition program) := by
  unfold onlyIf
  split
  · exact hkeeps
  · exact keeps_pure ()

end Rules

end SessionServer.TcpServer
