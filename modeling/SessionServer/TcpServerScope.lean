import SessionServer.TcpServerCalls

/-!
# What a part of the program leaves alone

A scope is a set of descriptors and a set of session ids.  A part of the program
stays within it when it changes no other session, calls the kernel for no other
descriptor and pushes no event for another id.  The phase of the shutdown stays
as it is.
-/

namespace SessionServer.TcpServer

open Protocol InteractionProgram IoState Environment Reply FiniteMap

structure Scope where
  fds : Set Fd
  ids : Set ℕ

namespace Scope

/-- Only the phase is left alone. -/
def all : Scope := ⟨Set.univ, Set.univ⟩

structure KeepsIo (scope : Scope) (before after : IoState) : Prop where
  phase : after.shutdownPhase = before.shutdownPhase
  sessions : ∀ fd ∉ scope.fds, after.sessionsByFd.lookup fd = before.sessionsByFd.lookup fd
  tokens : ∀ fd ∉ scope.fds,
    after.registrationTokenByFd.lookup fd = before.registrationTokenByFd.lookup fd
  deferred : ∀ session : Session, session.id ∉ scope.ids →
    (session ∈ after.deferredDisconnects ↔ session ∈ before.deferredDisconnects)
  inside : ∀ fd ∈ scope.fds, ∀ session, after.sessionsByFd.lookup fd = some session →
    session.id ∈ scope.ids

structure Keeps (scope : Scope) (before after : Server) : Prop where
  io : scope.KeepsIo before.io after.io
  opened : ∀ fd ∉ scope.fds, (fd ∈ after.openFds ↔ fd ∈ before.openFds)
  received : ∀ id ∉ scope.ids, after.received id = before.received id
  pushed : ∀ id ∉ scope.ids, eventsFor after.pushed id = eventsFor before.pushed id
  sent : ∀ id ∉ scope.ids, after.sent id = before.sent id

def Allows (scope : Scope) : IoCall → Prop
  | .recv fd | .feed fd | .send fd _ | .close fd | .recordDisconnect fd _ => fd ∈ scope.fds
  | .inboxTryPush event => event.sessionId ∈ scope.ids
  | .outboxTryPop => scope = .all
  | .accept | .register _ _ | .storeCurrentSessions | .epollAdd _ _ _ | .configureSocket _
  | .enterPhase _ => False
  | _ => True

variable {scope : Scope} {before server after : Server} {shared later : Shared}
variable {fd : Fd} {request : IoCall} {session : Session} {place : SessionPlace}

theorem keeps_self (hinside : ∀ fd ∈ scope.fds, ∀ session,
      server.io.sessionsByFd.lookup fd = some session → session.id ∈ scope.ids) :
    scope.Keeps server server :=
  ⟨⟨rfl, fun _ _ => rfl, fun _ _ => rfl, fun _ _ => .rfl, hinside⟩, fun _ _ => .rfl,
    fun _ _ => rfl, fun _ _ => rfl, fun _ _ => rfl⟩

theorem all_keeps_self (server : Server) : all.Keeps server server :=
  keeps_self fun _ _ _ _ => trivial

namespace Keeps

section Kernel

variable (hkeeps : scope.Keeps before server)
include hkeeps

theorem receive (hfd : fd ∈ scope.fds)
    (received : RecvResult) : scope.Keeps before (server.receive fd received) := by
  unfold Server.receive
  cases received with
  | data =>
    cases hlookup : server.io.sessionsByFd.lookup fd with
    | none => exact hkeeps
    | some session =>
      have hid := hkeeps.io.inside fd hfd session hlookup
      refine { hkeeps with received := ?_ }
      intro id hout
      have hother : id ≠ session.id := fun hsame => hout (hsame ▸ hid)
      exact (Function.update_of_ne hother _ _).trans (hkeeps.received id hout)
  | _ => exact hkeeps

theorem send (hfd : fd ∈ scope.fds)
    (data : Bytes) (sent : SendResult) : scope.Keeps before (server.send fd data sent) := by
  unfold Server.send
  cases sent with
  | sent =>
    cases hlookup : server.io.sessionsByFd.lookup fd with
    | none => exact hkeeps
    | some session =>
      have hid := hkeeps.io.inside fd hfd session hlookup
      refine { hkeeps with sent := ?_ }
      intro id hout
      have hother : id ≠ session.id := fun hsame => hout (hsame ▸ hid)
      exact (Function.update_of_ne hother _ _).trans (hkeeps.sent id hout)
  | _ => exact hkeeps

theorem close (hfd : fd ∈ scope.fds) :
    scope.Keeps before { server with openFds := server.openFds.erase fd } := by
  refine { hkeeps with opened := ?_ }
  intro other hout
  have hother : other ≠ fd := fun hsame => hout (hsame ▸ hfd)
  rw [Finset.mem_erase]
  exact ⟨fun hin => (hkeeps.opened other hout).mp hin.2,
    fun hin => ⟨hother, (hkeeps.opened other hout).mpr hin⟩⟩

theorem push {event : InputEvent} (hevent : event.sessionId ∈ scope.ids) (succeeded : Bool) :
    scope.Keeps before (server.push event succeeded) := by
  unfold Server.push
  split
  · refine { hkeeps with pushed := ?_ }
    intro id hout
    have hother : event.sessionId ≠ id := fun hsame => hout (hsame ▸ hevent)
    rw [eventsFor_append, if_neg hother]
    exact hkeeps.pushed id hout
  · exact hkeeps

theorem takeMessage (message : Option OutputMessage) :
    scope.Keeps before (server.takeMessage message) := by
  unfold Server.takeMessage
  cases message with
  | none => exact hkeeps
  | some =>
    dsimp only
    split
    · exact { hkeeps with }
    · exact hkeeps

end Kernel

/-- An allowed call keeps what is outside of the scope. -/
theorem respond {reply : Reply} {answer : IoAnswer request}
    (hkeeps : scope.Keeps before server) (hallows : scope.Allows request)
    (hplain : ∀ update, request ≠ .modify update)
    (hrespond : TcpServer.respond request server shared reply = some (answer, after, later)) :
    scope.Keeps before after := by
  by_cases hinert : request.inert = true
  · rw [(respond_inert hinert hrespond).1]
    exact hkeeps
  cases request with
  | modify update => exact absurd rfl (hplain update)
  | accept | register | storeCurrentSessions | enterPhase => exact hallows.elim
  | undefinedBehaviour => cases hrespond
  | recv =>
    simp only [TcpServer.respond, Option.map_eq_some_iff, Prod.mk.injEq] at hrespond
    obtain ⟨received, _, _, rfl, _⟩ := hrespond
    exact hkeeps.receive hallows received
  | send _ data =>
    simp only [TcpServer.respond, Option.map_eq_some_iff, Prod.mk.injEq] at hrespond
    obtain ⟨sent, _, _, rfl, _⟩ := hrespond
    exact hkeeps.send hallows data sent
  | drainInputCapacity =>
    simp only [TcpServer.respond, Option.map_eq_some_iff, Prod.mk.injEq] at hrespond
    obtain ⟨_, _, _, rfl, _⟩ := hrespond
    exact hkeeps
  | close =>
    cases unit?_map hrespond
    exact hkeeps.close hallows
  | inboxTryPush =>
    cases unit?_map hrespond
    exact hkeeps.push hallows _
  | outboxTryPop =>
    cases unit?_map hrespond
    exact hkeeps.takeMessage _
  | raise =>
    cases unit?_map hrespond
    exact { hkeeps with }
  | loopHead | get | feed _ | recordDisconnect _ _ | notifyInputCapacity | closeOutbox
  | beginStop | forceStop =>
    cases unit?_map hrespond
    exact hkeeps
  | _ => exact absurd rfl hinert

end Keeps

/-! ## Updates -/

structure Respects (scope : Scope) (update : IoState → IoState) : Prop where
  phase : ∀ io, (update io).shutdownPhase = io.shutdownPhase
  sessions : ∀ io, ∀ fd ∉ scope.fds, (update io).sessionsByFd.lookup fd = io.sessionsByFd.lookup fd
  tokens : ∀ io, ∀ fd ∉ scope.fds,
    (update io).registrationTokenByFd.lookup fd = io.registrationTokenByFd.lookup fd
  deferred : ∀ io, ∀ session : Session, session.id ∉ scope.ids →
    (session ∈ (update io).deferredDisconnects ↔ session ∈ io.deferredDisconnects)
  inside : ∀ io fd session, (update io).sessionsByFd.lookup fd = some session →
    io.sessionsByFd.lookup fd = some session ∨ session.id ∈ scope.ids

theorem Respects.keeps {update : IoState → IoState} (hrespects : scope.Respects update)
    (hkeeps : scope.Keeps before server) :
    scope.Keeps before { server with io := update server.io } := by
  have hio := hkeeps.io
  refine { hkeeps with io := ?_ }
  constructor
  · exact (hrespects.phase _).trans hio.phase
  · intro fd hout
    exact (hrespects.sessions _ fd hout).trans (hio.sessions fd hout)
  · intro fd hout
    exact (hrespects.tokens _ fd hout).trans (hio.tokens fd hout)
  · intro session hout
    exact (hrespects.deferred _ session hout).trans (hio.deferred session hout)
  · intro fd hfd session hlookup
    rcases hrespects.inside _ fd session hlookup with hbefore | hin
    · exact hio.inside fd hfd session hbefore
    · exact hin

theorem respects_all {update : IoState → IoState} [hphase : KeepsPhase update] :
    all.Respects update :=
  ⟨hphase.phase, fun _ _ hout => absurd trivial hout, fun _ _ hout => absurd trivial hout,
    fun _ _ hout => absurd trivial hout, fun _ _ _ _ => .inr trivial⟩

theorem respects_flags {update : IoState → IoState} [hphase : KeepsPhase update]
    (htables : ∀ io, (update io).toConnectionTables = io.toConnectionTables)
    (hdeferred : ∀ io, (update io).deferredDisconnects = io.deferredDisconnects) :
    scope.Respects update where
  phase := hphase.phase
  sessions := by
    intro io fd _
    rw [htables]
  tokens := by
    intro io fd _
    rw [htables]
  deferred := by
    intro io session _
    rw [hdeferred]
  inside := by
    intro _ _ _ hlookup
    rw [htables] at hlookup
    exact .inl hlookup

theorem respects_setBackpressure (controller : ReadBackpressureController) :
    scope.Respects (setBackpressure controller) :=
  respects_flags (fun _ => rfl) fun _ => rfl

theorem respects_pause : scope.Respects pause :=
  respects_flags (fun _ => rfl) fun _ => rfl

theorem respects_dropListener : scope.Respects dropListener :=
  respects_flags (fun _ => rfl) fun _ => rfl

theorem respects_deferRead (fd : Fd) : scope.Respects (IoState.deferRead fd) := by
  apply respects_flags
  · intro io
    unfold IoState.deferRead
    split <;> rfl
  · intro _
    unfold IoState.deferRead
    split <;> rfl

theorem respects_deferDisconnect (hid : session.id ∈ scope.ids) :
    scope.Respects (deferDisconnect session) := by
  refine ⟨fun _ => rfl, fun _ _ _ => rfl, fun _ _ _ => rfl, ?_, fun _ _ _ hlookup => .inl hlookup⟩
  intro _ other hout
  have hother : other ≠ session := fun hsame => hout (hsame ▸ hid)
  simp [deferDisconnect, hother]

theorem respects_eraseMoved : scope.Respects eraseMoved :=
  ⟨fun _ => rfl, fun _ _ _ => rfl, fun _ _ _ => rfl, fun _ _ _ => .rfl,
    fun _ _ _ hlookup => .inl hlookup⟩

theorem respects_detach (hfd : fd ∈ scope.fds) : scope.Respects (detach fd session) := by
  refine ⟨fun _ => rfl, ?_, ?_, fun _ _ _ => .rfl, ?_⟩
  · intro io other hout
    exact Finmap.lookup_erase_ne fun hsame => hout (hsame ▸ hfd)
  · intro io other hout
    exact Finmap.lookup_erase_ne fun hsame => hout (hsame ▸ hfd)
  · intro io other same hlookup
    exact .inl (of_lookup_erase hlookup).2

/-- The session at this place may be changed. -/
def Covers (scope : Scope) : SessionPlace → Prop
  | .live fd => fd ∈ scope.fds
  | .deferred => scope = all

theorem Covers.inside {before io : IoState}
    (hcovers : scope.Covers place) (hkeeps : scope.KeepsIo before io)
    (hsession : io.session? place = some session) : session.id ∈ scope.ids := by
  cases place with
  | live fd => exact hkeeps.inside fd hcovers session hsession
  | deferred =>
    rw [show scope = all from hcovers]
    trivial

theorem respects_setSession (hcovers : scope.Covers place) (hid : session.id ∈ scope.ids) :
    scope.Respects (setSession place session) := by
  cases place with
  | live fd =>
    refine ⟨fun _ => rfl, ?_, fun _ _ _ => rfl, fun _ _ _ => .rfl, ?_⟩
    · intro io other hout
      exact Finmap.lookup_insert_of_ne _ fun hsame => hout (hsame ▸ hcovers)
    · intro io other same hlookup
      rcases of_lookup_insert hlookup with ⟨_, rfl⟩ | ⟨_, hbefore⟩
      · exact .inr hid
      · exact .inl hbefore
  | deferred =>
    rw [show scope = all from hcovers]
    exact respects_all

end Scope

/-! ## Within a scope -/

/-- From where the scope was kept up to now, the program keeps it. -/
def Within {α : Type} (config : ServerConfig) (scope : Scope) (before : Server)
    (program : Io α) : Prop :=
  ∀ server shared, scope.Keeps before server →
    (environment config).Safe
      (fun request server _ => scope.Allows request ∧ scope.Keeps before server)
      (fun _ server _ => scope.Keeps before server) program server shared

section Rules

variable {config : ServerConfig} {scope : Scope} {before : Server} {α β : Type}

theorem within_pure (result : α) : Within config scope before (pure result) := by
  intro _ _ hkeeps
  exact safe_pure hkeeps

theorem Within.bind {program : Io β} {rest : β → Io α}
    (hwithin : Within config scope before program)
    (hrest : ∀ result, Within config scope before (rest result)) :
    Within config scope before (program >>= rest) := by
  intro server shared hkeeps
  apply (hwithin server shared hkeeps).bind
  · intro result server shared hkept
    exact hrest result server shared hkept
  · intro _ _ _ hkept
    exact hkept

theorem within_invoke {rest : IoAnswer request → Io α}
    (hallows : scope.Allows request) (hplain : ∀ update, request ≠ .modify update)
    (hrest : ∀ answer, Within config scope before (rest answer)) :
    Within config scope before (invoke request >>= rest) := by
  intro _ _ hkeeps
  apply safe_perform
  · intro now _
    exact ⟨hallows, hkeeps⟩
  · intro _ _ answer after later _ hrespond
    exact hrest answer after later (hkeeps.respond hallows hplain hrespond)

theorem within_call (hallows : scope.Allows request) (hplain : ∀ update, request ≠ .modify update) :
    Within config scope before (invoke request) := by
  exact within_invoke hallows hplain within_pure

theorem within_get {rest : IoState → Io α}
    (hrest : ∀ io, scope.KeepsIo before.io io → Within config scope before (rest io)) :
    Within config scope before (get >>= rest) := by
  intro server _ hkeeps
  apply safe_perform
  · intro now _
    exact ⟨trivial, hkeeps⟩
  · intro now _ _ _ _ _ hrespond
    cases unit?_map hrespond
    exact hrest server.io hkeeps.io server now hkeeps

theorem within_modify {update : IoState → IoState} (hrespects : scope.Respects update) :
    Within config scope before (modify update) := by
  intro _ _ hkeeps
  apply Environment.Safe.call
  · intro now _
    exact ⟨trivial, hkeeps⟩
  · intro _ _ _ _ _ _ hrespond
    cases unit?_map hrespond
    exact safe_pure (hrespects.keeps hkeeps)

theorem within_raise (exception : ServerException) :
    Within config scope before (raise exception : Io α) := by
  refine within_invoke trivial (by simp) ?_
  intro _ _ _ hkeeps
  exact safe_throw hkeeps

theorem within_undefinedBehaviour : Within config scope before (undefinedBehaviour : Io α) :=
  within_invoke trivial (by simp) fun answer => answer.elim

theorem within_loop {σ : Type} {body : σ → Io (σ ⊕ α)} (state : σ)
    (hbody : ∀ state, Within config scope before (body state)) :
    Within config scope before (loop body state) := by
  refine within_invoke trivial (by simp) ?_
  intro _ server shared hkeeps
  apply safe_iterate fun _ server _ => scope.Keeps before server
  · intro state server shared hkept
    apply safe_perform
    · intro now _
      exact ⟨trivial, hkept⟩
    · intro _ _ answer
      exact answer.elim
  · intro state server shared hkept
    apply (hbody state server shared hkept).mono
    intro result _ _ hpost
    cases result with
    | ok result =>
      cases result with
      | inl | inr => exact hpost
    | error => exact hpost
  · exact hkeeps

theorem within_forEach {σ : Type} {body : σ → Io Unit} (items : List σ)
    (hbody : ∀ item, Within config scope before (body item)) :
    Within config scope before (forEach body items) := by
  induction items with
  | nil => exact within_pure ()
  | cons item _ ih => exact (hbody item).bind fun _ => ih

theorem within_onlyIf {condition : Prop} [Decidable condition] {program : Io Unit}
    (hwithin : Within config scope before program) :
    Within config scope before (onlyIf condition program) := by
  unfold onlyIf
  split
  · exact hwithin
  · exact within_pure ()

/-- What works and leaves the phase alone works with the phase it started with. -/
theorem Works.keepsPhase {program : Io α} {good : α → Server → Shared → Prop} {server : Server}
    {shared : Shared} (hworks : Works config good program server shared)
    (hwithin : Within config .all server program) :
    Works config (fun result after now =>
        good result after now ∧ after.io.shutdownPhase = server.io.shutdownPhase)
      program server shared := by
  apply (hworks.and (hwithin server shared (Scope.all_keeps_self server))).mono
  intro result _ _ hpost
  cases result with
  | ok => exact ⟨hpost.1, hpost.2.io.phase⟩
  | error => exact hpost.1

end Rules

/-! ## The functions -/

section Functions

variable {config : ServerConfig} {scope : Scope} {before : Server}

theorem within_updateInterest (fd : Fd) : Within config scope before (updateInterest fd) := by
  apply within_get
  intro _ _
  split
  · exact within_pure ()
  split
  · exact within_pure ()
  · refine within_invoke trivial (by simp) ?_
    intro _
    split
    · exact within_pure ()
    · exact within_raise _

theorem within_updateInterests : Within config scope before updateInterests := by
  refine within_invoke trivial (by simp) ?_
  intro fds
  exact within_forEach fds within_updateInterest

theorem within_removeListener : Within config scope before removeListener := by
  apply within_get
  intro _ _
  apply within_onlyIf
  refine within_invoke trivial (by simp) ?_
  intro _
  exact within_modify Scope.respects_dropListener

theorem within_pauseReads : Within config scope before pauseReads := by
  apply within_get
  intro _ _
  split
  · exact within_pure ()
  · apply (within_modify Scope.respects_pause).bind
    intro _
    exact within_removeListener.bind fun _ => within_updateInterests

theorem within_onInboundSize (size : ℕ) :
    Within config scope before (onInboundSize config size) := by
  apply within_get
  intro _ _
  exact (within_modify (Scope.respects_setBackpressure _)).bind fun _ => within_pure _

theorem within_onInboundFull : Within config scope before (onInboundFull config) := by
  exact (within_onInboundSize _).bind fun _ => within_pauseReads

theorem within_onInboundPushed (size : ℕ) :
    Within config scope before (onInboundPushed config size) := by
  apply (within_onInboundSize size).bind
  intro _
  split
  · exact within_pauseReads
  · exact within_pure ()

theorem within_enqueueDisconnected (hid : session.id ∈ scope.ids) :
    Within config scope before (enqueueDisconnected config session) := by
  refine within_invoke hid (by simp) ?_
  intro _
  split
  · exact within_onInboundFull.bind fun _ => within_pure _
  · exact (within_onInboundPushed _).bind fun _ => within_pure _

theorem within_deferDisconnected (hid : session.id ∈ scope.ids) :
    Within config scope before (deferDisconnected config session) := by
  apply within_get
  intro _ _
  split
  · exact within_pure ()
  split
  · exact within_raise _
  · exact within_modify (Scope.respects_deferDisconnect hid)

theorem within_announceDisconnected (hid : session.id ∈ scope.ids) :
    Within config scope before (announceDisconnected config session) := by
  unfold announceDisconnected
  split
  · exact within_deferDisconnected hid
  · apply (within_enqueueDisconnected hid).bind
    intro _
    split
    · exact within_deferDisconnected hid
    · exact within_pure ()

theorem within_disconnect (reason : DisconnectReason) (hfd : fd ∈ scope.fds) :
    Within config scope before (disconnect config fd reason) := by
  apply within_get
  intro io hio
  cases hlookup : io.sessionsByFd.lookup fd with
  | none => exact within_pure ()
  | some session =>
    have hid := hio.inside fd hfd session hlookup
    refine within_invoke hfd (by simp) ?_
    intro _
    apply (within_modify (Scope.respects_detach hfd)).bind
    intro _
    refine within_invoke trivial (by simp) ?_
    intro _
    refine within_invoke hfd (by simp) ?_
    intro _
    apply (within_modify Scope.respects_eraseMoved).bind
    intro _
    split
    · exact within_deferDisconnected hid
    split
    · exact within_pure ()
    · exact within_announceDisconnected hid

theorem within_enqueueDecodedPackets (hcovers : scope.Covers place) (budget : WorkBudget) :
    Within config scope before (enqueueDecodedPackets config place budget) := by
  apply within_loop
  intro _
  apply within_get
  intro io hio
  cases hsession : io.session? place with
  | none => exact within_undefinedBehaviour
  | some =>
    have hid := hcovers.inside hio hsession
    dsimp only
    split
    · exact within_pure _
    · exact within_pure _
    split
    · exact within_pure _
    refine within_invoke hid (by simp) ?_
    intro _
    split
    · exact within_onInboundFull.bind fun _ => within_pure _
    split
    · exact within_raise _
    apply Within.bind
    · exact within_modify (Scope.respects_setSession hcovers hid)
    intro _
    apply (within_onInboundPushed _).bind
    intro _
    split
    · exact within_pure _
    · exact within_pure _

theorem within_deferRead (fd : Fd) : Within config scope before (deferRead fd) :=
  within_modify (Scope.respects_deferRead fd)

theorem within_receive (drain : Bool) (budget : WorkBudget) (hfd : fd ∈ scope.fds) :
    Within config scope before (receive config fd drain budget) := by
  refine within_invoke trivial (by simp) ?_
  intro _
  split
  · exact within_pure _
  refine within_invoke hfd (by simp) ?_
  intro received
  cases received with
  | closed | failed => exact (within_disconnect _ hfd).bind fun _ => within_pure _
  | wouldBlock => exact within_pure _
  | data =>
    apply within_get
    intro io hio
    cases hlookup : io.sessionsByFd.lookup fd with
    | none => exact within_undefinedBehaviour
    | some session =>
      have hid := hio.inside fd hfd session hlookup
      have hcovers : scope.Covers (.live fd) := hfd
      refine within_invoke hfd (by simp) ?_
      intro _
      split
      · exact (within_disconnect _ hfd).bind fun _ => within_pure _
      apply Within.bind
      · exact within_modify (Scope.respects_setSession hcovers hid)
      intro _
      apply (within_enqueueDecodedPackets hcovers budget).bind
      rintro ⟨decoded, _⟩
      cases decoded with
      | all => exact within_pure _
      | stopped => exact (within_deferRead fd).bind fun _ => within_pure _
      | malformed =>
        exact (within_disconnect _ hfd).bind fun _ => within_pure _

theorem within_readSession (drain : Bool) (budget : WorkBudget) (hfd : fd ∈ scope.fds) :
    Within config scope before (readSession config fd drain budget) := by
  apply within_get
  intro _ _
  split
  · exact within_pure _
  split
  · exact within_pure _
  split
  · exact within_pure _
  · apply within_loop
    intro remaining
    exact within_receive drain remaining hfd

theorem within_flushSession (hfd : fd ∈ scope.fds) :
    Within config scope before (flushSession config fd) := by
  have hflush (sentBytes : ℕ) : Within config scope before (flushWrite config fd sentBytes) := by
    apply within_get
    intro io hio
    cases hlookup : io.sessionsByFd.lookup fd with
    | none => exact within_undefinedBehaviour
    | some session =>
      have hid := hio.inside fd hfd session hlookup
      dsimp only
      split
      · exact within_pure _
      split
      · exact within_pure _
      refine within_invoke hfd (by simp) ?_
      intro sent
      cases sent with
      | zero | failed => exact (within_disconnect _ hfd).bind fun _ => within_pure _
      | wouldBlock => exact (within_updateInterest fd).bind fun _ => within_pure _
      | sent byteCount =>
        dsimp only
        cases hconsume : session.consumeWrite byteCount with
        | error => exact within_raise _
        | ok written =>
          have hcovers : scope.Covers (.live fd) := hfd
          have hwritten : written.id ∈ scope.ids := by
            rw [(Session.consumeWrite_ok hconsume).1]
            exact hid
          exact (within_modify (Scope.respects_setSession hcovers hwritten)).bind
            fun _ => within_pure _
  apply within_get
  intro io _
  split
  · exact within_pure _
  apply (within_loop 0 hflush).bind
  intro _
  split
  · exact within_pure _
  apply within_get
  intro _ _
  split
  · exact within_undefinedBehaviour
  split
  · exact within_disconnect _ hfd
  · exact within_updateInterest fd

theorem within_handleSessionEvent (event : EpollEvent) (hfd : fd ∈ scope.fds) :
    Within config scope before (handleSessionEvent config fd event) := by
  unfold handleSessionEvent
  split
  · exact within_disconnect _ hfd
  apply within_get
  intro io hio
  cases hlookup : io.sessionsByFd.lookup fd with
  | none => exact within_pure ()
  | some session =>
    have hcovers : scope.Covers (.live fd) := hfd
    have hmark : scope.Respects (setSession (.live fd) session.markPeerReadClosed) :=
      Scope.respects_setSession hcovers (hio.inside fd hfd session hlookup)
    apply (within_onlyIf (within_modify hmark)).bind
    intro _
    have hread : Within config scope before (readOrDefer config fd event) := by
      apply within_get
      intro io _
      split
      · exact (within_readSession false none hfd).bind fun _ => within_pure ()
      split
      · exact within_deferRead fd
      · exact within_pure ()
    apply hread.bind
    intro _
    apply within_get
    intro _ _
    split
    · exact within_flushSession hfd
    · exact within_pure ()

/-- An event is handled within a scope that has the descriptor of its token. -/
theorem safe_handleEvent {event : EpollEvent} {server : Server} {shared : Shared}
    (hkeeps : scope.Keeps before server) (houtbound : event.token ≠ outboundWakeupToken)
    (hcapacity : event.token ≠ inputCapacityWakeupToken) (hlistener : event.token ≠ listenerToken)
    (hfds : ∀ fd, server.io.registrationTokenByFd.lookup fd = some event.token → fd ∈ scope.fds) :
    (environment config).Safe
      (fun request server _ => scope.Allows request ∧ scope.Keeps before server)
      (fun _ server _ => scope.Keeps before server) (handleEvent config event) server
      shared := by
  unfold handleEvent
  rw [if_neg houtbound, if_neg hcapacity, if_neg hlistener]
  apply safe_perform
  · intro now _
    exact ⟨trivial, hkeeps⟩
  intro now _ _ _ _ _ hrespond
  cases unit?_map hrespond
  have hpure : Within config scope before (pure ()) := within_pure ()
  cases server.io.fdByRegistrationToken.lookup event.token with
  | none => exact hpure server now hkeeps
  | some fd =>
    dsimp only
    split
    · next htoken =>
      exact within_handleSessionEvent event (hfds fd htoken) server now hkeeps
    · exact hpure server now hkeeps

/-- A message is delivered within a scope that has its addressee. -/
theorem safe_deliver {message : OutputMessage} {server : Server} {shared : Shared}
    (hkeeps : scope.Keeps before server)
    (hfds : ∀ fd, server.io.fdBySession.lookup message.sessionId = some fd →
      fd ∈ scope.fds ∧ ∀ session, server.io.sessionsByFd.lookup fd = some session →
        session.fd ∈ scope.fds) :
    (environment config).Safe
      (fun request server _ => scope.Allows request ∧ scope.Keeps before server)
      (fun _ server _ => scope.Keeps before server) (deliver config message) server shared := by
  apply safe_perform
  · intro now _
    exact ⟨trivial, hkeeps⟩
  intro now _ _ _ _ _ hrespond
  cases unit?_map hrespond
  have hpure : Within config scope before (pure ()) := within_pure ()
  cases hfd : server.io.fdBySession.lookup message.sessionId with
  | none => exact hpure server now hkeeps
  | some fd =>
    obtain ⟨hin, hsame⟩ := hfds fd hfd
    dsimp only
    split
    · exact within_disconnect _ hin server now hkeeps
    cases hlookup : server.io.sessionsByFd.lookup fd with
    | none => exact hpure server now hkeeps
    | some session =>
      have hid := hkeeps.io.inside fd hin session hlookup
      dsimp only
      split
      · exact hpure server now hkeeps
      cases henqueue : session.tryEnqueue message.bytes with
      | none =>
        have hslow : Within config scope before (invoke .recordSlowClientDisconnect >>=
            fun _ => disconnect config session.fd .pendingWriteLimit) := by
          refine within_invoke trivial (by simp) ?_
          intro _
          exact within_disconnect _ (hsame session hlookup)
        exact hslow server now hkeeps
      | some enqueued =>
        have hcovers : scope.Covers (.live fd) := hin
        have hset : scope.Respects (setSession (.live fd)
            (if message.kind = .sendBytesAndDisconnect then enqueued.closeAfterFlush
              else enqueued)) := by
          apply Scope.respects_setSession hcovers
          have hsame := (Session.tryEnqueue_some henqueue).1
          split
          · exact hsame ▸ hid
          · exact hsame ▸ hid
        exact ((within_modify hset).bind fun _ => within_updateInterest _) server now hkeeps

end Functions

/-! ## Runs within a scope -/

/-- From this state, every run of the program changes nothing outside of the
scope and makes no call for what is outside of it. -/
def Confined (config : ServerConfig) (scope : Scope) (server : Server) (program : Io Unit) :
    Prop :=
  ∀ shared after, TransitionSystem.Reaches (environment config).step (fun _ _ => True)
    ⟨program, server, shared⟩ after →
    scope.Keeps server after.own ∧
      ∀ request next, after.program = .call request next → scope.Allows request

theorem confined_of_safe {config : ServerConfig} {scope : Scope} {server : Server}
    {program : Io Unit}
    (hsafe : ∀ shared, (environment config).Safe
      (fun request after _ => scope.Allows request ∧ scope.Keeps server after)
      (fun _ after _ => scope.Keeps server after) program server shared) :
    Confined config scope server program := by
  intro shared _ hreach
  have hstable : ∀ (result : Except ServerException Unit) (own : Server),
      (environment config).Stable fun _ => scope.Keeps server own := by
    intro _ _ _ _ hkeeps _
    exact hkeeps
  have hafter := Environment.Safe.reaches hstable (hsafe shared) hreach
  constructor
  · have halways := Environment.Safe.always hafter (fun _ _ _ hguard => hguard.2)
      fun _ _ _ hkeeps => hkeeps
    exact halways
  · intro _ _ hprogram
    rw [hprogram] at hafter
    exact (Environment.Safe.guarded hafter).1

/-! ## Functions that leave the phase alone -/

section Phase

variable {config : ServerConfig} {before : Server}

theorem within_modify_all {update : IoState → IoState} [KeepsPhase update] :
    Within config .all before (modify update) :=
  within_modify Scope.respects_all

theorem within_drainOutbound : Within config .all before (drainOutbound config) := by
  have hdeliver (message : OutputMessage) : Within config .all before (deliver config message) := by
    intro _ _ hkeeps
    exact safe_deliver hkeeps fun _ _ => ⟨trivial, fun _ _ => trivial⟩
  have hmessages (limit : ℕ) : Within config .all before (drainMessages config limit) := by
    induction limit with
    | zero => exact within_pure ()
    | succ _ ih =>
      refine within_invoke rfl (by simp) ?_
      intro popped
      cases popped with
      | none => exact within_pure ()
      | some message => exact (hdeliver message).bind fun _ => ih
  apply (hmessages _).bind
  intro _
  refine within_invoke trivial (by simp) ?_
  intro _
  split
  · exact within_call trivial (by simp)
  · exact within_pure ()

theorem within_readPeerClosed (fds : List Fd) :
    Within config .all before (readPeerClosed config fds) := by
  induction fds with
  | nil => exact within_pure ()
  | cons fd _ ih =>
    have hfd : fd ∈ Scope.all.fds := trivial
    apply within_get
    intro _ _
    split
    · exact within_pure ()
    · exact (within_readSession _ _ hfd).bind fun _ => ih

theorem within_resumeReads : Within config .all before (resumeReads config) := by
  have hlistener : Within config .all before resumeListener := by
    refine within_invoke trivial (by simp) ?_
    intro _
    split
    · exact within_modify_all
    · exact within_raise _
  apply within_get
  intro io _
  split
  · exact within_pure ()
  apply within_modify_all.bind
  intro _
  apply (within_onlyIf hlistener).bind
  intro _
  refine within_invoke trivial (by simp) ?_
  intro fds
  apply (within_forEach fds within_updateInterest).bind
  intro _
  apply within_get
  intro _ _
  exact within_readPeerClosed _

theorem within_yieldForWorkBudget (budget : WorkBudget) :
    Within config .all before (yieldForWorkBudget budget) := by
  apply within_get
  intro _ _
  split
  · exact within_call trivial (by simp)
  · exact within_pure ()

theorem within_announceDeferred (budget : WorkBudget) :
    Within config .all before (announceDeferred config budget) := by
  unfold announceDeferred
  split
  · exact (within_yieldForWorkBudget _).bind fun _ => within_pure _
  apply within_get
  intro _ _
  split
  · exact within_undefinedBehaviour
  next session _ =>
  have hid : session.id ∈ Scope.all.ids := trivial
  apply (within_enqueueDisconnected hid).bind
  intro _
  split
  · exact within_pure _
  apply within_modify_all.bind
  intro _
  refine within_invoke trivial (by simp) ?_
  intro _
  split
  · exact within_pure _
  · exact within_pure _

theorem within_drainDeferredDisconnect (budget : WorkBudget) :
    Within config .all before (drainDeferredDisconnect config budget) := by
  have hcovers : Scope.all.Covers .deferred := rfl
  apply within_get
  intro _ _
  split
  · exact within_pure _
  split
  · exact (within_yieldForWorkBudget _).bind fun _ => within_pure _
  apply (within_enqueueDecodedPackets hcovers budget).bind
  rintro ⟨decoded, remaining⟩
  cases decoded with
  | stopped => exact (within_yieldForWorkBudget _).bind fun _ => within_pure _
  | all | malformed => exact within_announceDeferred remaining

theorem within_drainDeferredRead (budget : WorkBudget) :
    Within config .all before (drainDeferredRead config budget) := by
  apply within_get
  intro io _
  split
  · exact within_pure _
  next fd _ _ =>
  have hfd : fd ∈ Scope.all.fds := trivial
  have hcovers : Scope.all.Covers (.live fd) := hfd
  split
  · exact (within_yieldForWorkBudget _).bind fun _ => within_pure _
  split
  · exact within_modify_all.bind fun _ => within_pure _
  apply (within_enqueueDecodedPackets hcovers budget).bind
  rintro ⟨decoded, _⟩
  cases decoded with
  | stopped => exact (within_yieldForWorkBudget _).bind fun _ => within_pure _
  | malformed =>
    apply within_modify_all.bind
    intro _
    apply (within_disconnect _ hfd).bind
    intro _
    refine within_invoke trivial (by simp) ?_
    intro _
    split
    · exact within_pure _
    · exact within_pure _
  | all =>
    apply within_modify_all.bind
    intro _
    apply within_get
    intro _ _
    split
    · exact (within_readSession _ _ hfd).bind fun _ => within_pure _
    · exact within_pure _

theorem within_drainDeferredInput : Within config .all before (drainDeferredInput config) := by
  have hresume : Within config .all before (resumeIfDrained config) := by
    refine within_invoke trivial (by simp) ?_
    intro _
    apply within_get
    intro io _
    split
    · apply within_modify_all.bind
      intro _
      split
      · exact within_resumeReads
      · exact within_pure _
    · exact within_pure _
  apply (within_loop _ within_drainDeferredDisconnect).bind
  intro afterDisconnects
  cases afterDisconnects with
  | none => exact within_pure _
  | some remaining =>
    apply (within_loop _ within_drainDeferredRead).bind
    intro afterReads
    cases afterReads with
    | none => exact within_pure _
    | some =>
      apply within_get
      intro _ _
      split
      · exact within_pure _
      · exact hresume.bind fun _ => within_pure _

end Phase

end SessionServer.TcpServer
