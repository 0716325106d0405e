import SessionServer.TcpServerUpdates

/-!
# Rules for the calls of the network thread

`Works` says that a part of the program is safe: at each of its calls `Sound`
holds, and it ends as stated or with an exception and `Sound`.  The facts about
the shared state that survive the other threads are in `Alert`: above all, when
reads must not stay paused for ever, something will resume them.
-/

namespace SessionServer.TcpServer

open Protocol InteractionProgram IoState BoundedBlockingQueue Environment Reply Option

/-! ## What other threads keep -/

/-- When it must be known that the deferred input is looked at again. -/
inductive Watch
  | nothing
  | deferrals
  | pauses
  | always

def Watch.Needs : Watch → IoState → Prop
  | .nothing, _ => False
  | .deferrals, io => io.deferredDisconnects ≠ []
  | .pauses, io => io.readsPaused = true
  | .always, _ => True

/-- The low watermark is still to be crossed, or the descriptor is signalled,
or a worker is about to signal it. -/
def Shared.WillResume (config : ServerConfig) (shared : Shared) : Prop :=
  config.inboundLowWatermark < shared.inbox.size ∨ shared.inputCapacitySignalled = true ∨
    0 < shared.pendingNotifications

structure Alert (config : ServerConfig) (watch : Watch) (io : IoState) (shared : Shared) :
    Prop where
  capacity : shared.inbox.capacity = config.inboundQueueCapacity
  isOpen : io.shutdownPhase = .running ∨ io.shutdownPhase = .drainingInput →
    shared.inbox.closed = false ∧ shared.stopping = false
  unforced : io.shutdownPhase = .running ∨ io.shutdownPhase = .drainingInput ∨
    io.shutdownPhase = .drainingOutput → shared.forceStopRequested = false
  /-- The workers finish only when the closed inbox is empty, or by force. -/
  finished : shared.workers = 0 → shared.forceStopRequested = false →
    shared.inbox.closed = true ∧ shared.inbox.items = []
  resume : io.shutdownPhase = .running → watch.Needs io → shared.WillResume config

variable {config : ServerConfig} {watch : Watch} {io : IoState} {shared : Shared}
variable {request : IoCall} {reply : Reply}

/-- One step of another thread. -/
inductive Disturbs (config : ServerConfig) (shared : Shared) : Shared → Prop
  | popped {event : InputEvent} {rest : List InputEvent}
      (hitems : shared.inbox.items = event :: rest) :
      Disturbs config shared { shared with
        inbox := { shared.inbox with items := rest }
        pendingNotifications :=
          if rest.length = config.inboundLowWatermark then shared.pendingNotifications + 1
          else shared.pendingNotifications }
  | notified : Disturbs config shared { shared with
      pendingNotifications := shared.pendingNotifications - 1
      inputCapacitySignalled := true }
  | published (message : OutputMessage) (hworkers : shared.workers ≠ 0) :
      Disturbs config shared { shared with outbox := shared.outbox.enqueue message }
  | finished (hfinished : shared.forceStopRequested = true ∨
        shared.inbox.closed = true ∧ shared.inbox.items = []) :
      Disturbs config shared { shared with workers := shared.workers - 1 }
  | pushed (event : InputEvent) (hopen : shared.inbox.closed = false) :
      Disturbs config shared { shared with inbox := shared.inbox.enqueue event }
  | refused : Disturbs config shared shared
  | closed (hstopping : shared.stopping = true) :
      Disturbs config shared { shared with inbox := shared.inbox.close }
  | requested : Disturbs config shared { shared with stopRequested := true }

theorem disturbs_of_interfere {after : Shared} {interference : Interference}
    (hstep : interfere config shared interference = some after) :
    Disturbs config shared after := by
  cases interference with
  | workerPop =>
    simp only [interfere, pop] at hstep
    cases hitems : shared.inbox.items with
    | nil =>
      rw [hitems] at hstep
      cases hclosed : shared.inbox.closed with
      | false | true => simp [hclosed] at hstep
    | cons =>
      rw [hitems] at hstep
      simp only [Option.some.injEq] at hstep
      subst hstep
      exact .popped hitems
  | workerNotify =>
    simp only [interfere] at hstep
    split at hstep
    · cases hstep
    · simp only [Option.some.injEq] at hstep
      subst hstep
      exact .notified
  | workerPublish message =>
    simp only [interfere, push] at hstep
    split at hstep
    · cases hstep
    · next hworkers =>
      rw [map_eq_some_iff] at hstep
      obtain ⟨⟨result, _⟩, hpush, rfl⟩ := hstep
      split at hpush
      · cases hpush
        exact .refused
      split at hpush
      · cases hpush
      · cases hpush
        exact .published message hworkers
  | workerExit =>
    simp only [interfere] at hstep
    split at hstep
    · cases hstep
    split at hstep
    · next hfinished =>
      simp only [Option.some.injEq] at hstep
      subst hstep
      rw [Bool.or_eq_true, Bool.and_eq_true, List.isEmpty_iff] at hfinished
      exact .finished hfinished
    · cases hstep
  | completionPush event =>
    simp only [interfere] at hstep
    split at hstep
    · simp only [push, map_eq_some_iff] at hstep
      obtain ⟨⟨_, _⟩, hpush, rfl⟩ := hstep
      split at hpush
      · cases hpush
        exact .refused
      · next hopen =>
        split at hpush
        · cases hpush
        · cases hpush
          exact .pushed event (Bool.not_eq_true _ ▸ hopen)
    · cases hstep
  | closeInbox =>
    simp only [interfere] at hstep
    split at hstep
    · next hstopping =>
      simp only [Option.some.injEq] at hstep
      subst hstep
      exact .closed hstopping
    · cases hstep
  | requestStop =>
    simp only [interfere, Option.some.injEq] at hstep
    subst hstep
    exact .requested

/-- The watermark is crossed downwards only by the worker that notifies. -/
theorem Shared.WillResume.disturbed {after : Shared} (hresume : shared.WillResume config)
    (hstep : Disturbs config shared after) : after.WillResume config := by
  unfold WillResume at hresume ⊢
  cases hstep with
  | popped hitems =>
    simp only [size, hitems, List.length_cons] at hresume ⊢
    split
    · exact .inr (.inr (Nat.succ_pos _))
    · rcases hresume with hsize | hrest
      · left
        omega
      · exact .inr hrest
  | notified => exact .inr (.inl rfl)
  | pushed =>
    rcases hresume with hsize | hrest
    · left
      simp only [size, enqueue_items, List.length_append] at hsize ⊢
      omega
    · exact .inr hrest
  | published | finished | refused | closed | requested => exact hresume

namespace Alert

theorem stable (config : ServerConfig) (watch : Watch) (io : IoState) :
    (environment config).Stable (Alert config watch io) := by
  rintro shared _ halert ⟨_, hstep⟩
  have hdisturbs := disturbs_of_interfere hstep
  have hresume (hrunning : io.shutdownPhase = .running) (hneeds : watch.Needs io) :=
    (halert.resume hrunning hneeds).disturbed hdisturbs
  have hfinished := halert.finished
  cases hdisturbs with
  | popped hitems =>
    refine { halert with
      finished := ?_
      resume := hresume }
    intro hnone hunforced
    have hempty := (hfinished hnone hunforced).2
    rw [hitems] at hempty
    cases hempty
  | notified | published | requested => exact { halert with resume := hresume }
  | finished hreason =>
    refine { halert with
      finished := ?_
      resume := hresume }
    intro _ hunforced
    rcases hreason with hforced | hempty
    · change shared.forceStopRequested = false at hunforced
      rw [hforced] at hunforced
      cases hunforced
    · exact hempty
  | pushed _ hopen =>
    refine { halert with
      finished := ?_
      resume := hresume }
    intro hnone hunforced
    have hclosed := (hfinished hnone hunforced).1
    rw [hopen] at hclosed
    cases hclosed
  | refused => exact halert
  | closed hstopping =>
    refine { halert with
      isOpen := ?_
      finished := fun hnone hunforced => ⟨rfl, (hfinished hnone hunforced).2⟩
      resume := hresume }
    intro hphase
    have hnot := (halert.isOpen hphase).2
    rw [hstopping] at hnot
    cases hnot

/-- A watch is weakened, and the state of the thread changes in what the watch
does not see. -/
theorem weaken (halert : Alert config watch io shared) {weaker : Watch} {after : IoState}
    (hphase : after.shutdownPhase = io.shutdownPhase)
    (hneeds : io.shutdownPhase = .running → weaker.Needs after → watch.Needs io) :
    Alert config weaker after shared where
  capacity := halert.capacity
  isOpen := by
    rw [hphase]
    exact halert.isOpen
  unforced := by
    rw [hphase]
    exact halert.unforced
  finished := halert.finished
  resume := by
    intro hrunning hafter
    rw [hphase] at hrunning
    exact halert.resume hrunning (hneeds hrunning hafter)

theorem of_always (halert : Alert config .always io shared) (watch : Watch) {after : IoState}
    (hphase : after.shutdownPhase = io.shutdownPhase) : Alert config watch after shared :=
  halert.weaken hphase fun _ _ => trivial

theorem of_willResume (halert : Alert config watch io shared)
    (hresume : shared.WillResume config) : Alert config .always io shared :=
  { halert with resume := fun _ _ => hresume }

theorem of_stopped (halert : Alert config watch io shared)
    (hphase : io.shutdownPhase ≠ .running) : Alert config .always io shared :=
  { halert with resume := fun hrunning => absurd hrunning hphase }

end Alert

/-! ## Works -/

/-- All input was pushed and handled, and all output was sent. -/
structure Finished (server : Server) (shared : Shared) : Prop where
  emptied : server.io.Emptied
  workers : shared.workers = 0
  inbox : shared.inbox.items = []
  outbox : shared.outbox.items = []
  idle : ∀ fd session, server.io.sessionsByFd.lookup fd = some session →
    session.hasPendingWrite = false ∧ session.codec.peekPacket = .ok none

/-- When the server goes into a phase. -/
def PhaseChange (server : Server) (shared : Shared) : ShutdownPhase → Prop
  | .running => False
  | .drainingInput => server.io.shutdownPhase = .running
  | .drainingOutput => server.io.shutdownPhase = .drainingInput
  | .forced => server.io.shutdownPhase ≠ .running ∧ server.io.shutdownPhase ≠ .complete
  | .complete => server.io.shutdownPhase = .forced ∧ server.io.forcedShutdown = true ∨
      server.io.shutdownPhase = .drainingOutput ∧ Finished server shared

/-- An update that leaves the phase alone. -/
class KeepsPhase (update : IoState → IoState) : Prop where
  phase : ∀ io, (update io).shutdownPhase = io.shutdownPhase
  forced : ∀ io, (update io).forcedShutdown = io.forcedShutdown

section KeepsPhase

variable (config : ServerConfig) (fd : Fd) (session : Session) (id : ℕ)

instance (controller : ReadBackpressureController) :
    KeepsPhase (setBackpressure controller) := ⟨fun _ => rfl, fun _ => rfl⟩

instance : KeepsPhase pause := ⟨fun _ => rfl, fun _ => rfl⟩

instance : KeepsPhase dropListener := ⟨fun _ => rfl, fun _ => rfl⟩

instance : KeepsPhase unpause := ⟨fun _ => rfl, fun _ => rfl⟩

instance : KeepsPhase addListener := ⟨fun _ => rfl, fun _ => rfl⟩

instance : KeepsPhase (detach fd session) := ⟨fun _ => rfl, fun _ => rfl⟩

instance : KeepsPhase eraseMoved := ⟨fun _ => rfl, fun _ => rfl⟩

instance : KeepsPhase (deferDisconnect session) := ⟨fun _ => rfl, fun _ => rfl⟩

instance : KeepsPhase (popDeferredDisconnect id) := ⟨fun _ => rfl, fun _ => rfl⟩

instance : KeepsPhase popDeferredRead := ⟨fun _ => rfl, fun _ => rfl⟩

instance : KeepsPhase (takeDeferredRead fd) := ⟨fun _ => rfl, fun _ => rfl⟩

instance : KeepsPhase clear := ⟨fun _ => rfl, fun _ => rfl⟩

instance : KeepsPhase (IoState.deferRead fd) where
  phase io := by
    unfold IoState.deferRead
    split <;> rfl
  forced io := by
    unfold IoState.deferRead
    split <;> rfl

instance (place : SessionPlace) : KeepsPhase (setSession place session) where
  phase io := by cases place <;> rfl
  forced io := by cases place <;> rfl

end KeepsPhase

/-- The session is to be closed and all its bytes were sent. -/
def Flushed (server : Server) (id : ℕ) : Prop :=
  closesSession (server.addressed id) = true ∧ server.sent id = outboundBytes (server.addressed id)

/-- What is known at a call. -/
def guard (config : ServerConfig) : IoCall → Server → Shared → Prop
  | .loopHead, server, shared =>
    Steady config none server ∧ Alert config .pauses server.io shared
  | .modify update, server, _ => Sound config server ∧
      (update server.io).shutdownPhase = server.io.shutdownPhase ∧
      (update server.io).forcedShutdown = server.io.forcedShutdown
  | .enterPhase phase, server, shared =>
    Sound config server ∧ PhaseChange server shared phase
  | .accept, server, _ =>
    Sound config server ∧ server.io.shutdownPhase = .running ∧
      server.io.readsPaused = false ∧
      ∀ fd session, server.io.sessionsByFd.lookup fd = some session → fd ∈ server.openFds
  | .recv fd, server, _ =>
    Sound config server ∧ (server.io.shutdownPhase = .running ∨
      ∀ session, server.io.sessionsByFd.lookup fd = some session → session.peerReadClosed = true)
  | .feed fd, server, _ =>
    Sound config server ∧ ∀ session, server.io.sessionsByFd.lookup fd = some session →
      session.codec.peekPacket = .ok none
  | .send fd data, server, _ =>
    Sound config server ∧ ∀ session, server.io.sessionsByFd.lookup fd = some session →
      server.sent session.id ++ data <+: outboundBytes (server.addressed session.id)
  | .recordDisconnect fd reason, server, _ =>
    Sound config server ∧ (reason = .closeAfterFlush → ∀ session,
      server.io.sessionsByFd.lookup fd = some session → Flushed server session.id)
  | .raise exception, server, _ => Sound config server ∧ exception ≠ limitException
  | .undefinedBehaviour, _, _ => False
  | _, server, _ => Sound config server

def Outcome {α : Type} (config : ServerConfig) (good : α → Server → Shared → Prop) :
    Except ServerException α → Server → Shared → Prop
  | .ok result, server, shared => good result server shared
  | .error _, server, shared =>
    Sound config server ∧ ∃ watch io, Alert config watch io shared

def Works {α : Type} (config : ServerConfig) (good : α → Server → Shared → Prop)
    (program : Io α) (server : Server) (shared : Shared) : Prop :=
  (environment config).Safe (guard config) (Outcome config good) program server shared

variable {α β : Type} {good : α → Server → Shared → Prop} {server : Server}

theorem works_pure {result : α} (hgood : good result server shared) :
    Works config good (pure result) server shared :=
  safe_pure hgood

theorem Works.bind {program : Io β} {rest : β → Io α} {middle : β → Server → Shared → Prop}
    (hworks : Works config middle program server shared)
    (hrest : ∀ result server shared, middle result server shared →
      Works config good (rest result) server shared) :
    Works config good (program >>= rest) server shared :=
  Environment.Safe.bind hworks hrest fun _ _ _ herror => herror

theorem Works.mono {program : Io α} {weaker : α → Server → Shared → Prop}
    (hworks : Works config good program server shared)
    (hweaker : ∀ result server shared, good result server shared →
      weaker result server shared) : Works config weaker program server shared := by
  apply Environment.Safe.mono hworks
  intro result server shared hpost
  cases result with
  | ok result => exact hweaker result server shared hpost
  | error => exact hpost

/-- A call, with what other threads cannot falsify. -/
theorem works_invoke_of_stable {rest : IoAnswer request → Io α}
    {holds : Shared → Prop} (hstable : (environment config).Stable holds)
    (hguard : ∀ now, holds now → guard config request server now) (hholds : holds shared)
    (hrest : ∀ now reply answer after later, holds now →
      respond request server now reply = some (answer, after, later) →
      Works config good (rest answer) after later) :
    Works config good (invoke request >>= rest) server shared := by
  apply safe_perform
  · intro now hdrifts
    exact hguard now (hstable.drifts hdrifts hholds)
  · intro now reply answer after later hdrifts hrespond
    exact hrest now reply answer after later (hstable.drifts hdrifts hholds) hrespond

theorem works_invoke {rest : IoAnswer request → Io α}
    (hguard : ∀ now, Alert config watch io now → guard config request server now)
    (halert : Alert config watch io shared)
    (hrest : ∀ now reply answer after later, Alert config watch io now →
      respond request server now reply = some (answer, after, later) →
      Works config good (rest answer) after later) :
    Works config good (invoke request >>= rest) server shared :=
  works_invoke_of_stable (Alert.stable config watch io) hguard halert hrest

/-- A round of a loop ends with the invariant, or leaves the loop. -/
def Round {σ : Type} (inv : σ → Server → Shared → Prop) (good : α → Server → Shared → Prop) :
    σ ⊕ α → Server → Shared → Prop
  | .inl next => inv next
  | .inr result => good result

/-! ## Replies -/

theorem Reply.unit?_map {γ : Type} {answer : Unit → γ} {result : γ}
    (hreply : reply.unit?.map answer = some result) : result = answer () := by
  cases reply with
  | unit => exact (Option.some.inj hreply).symm
  | _ => cases hreply

theorem Reply.accepted_not_open {openFds : Finset Fd} {fd : Fd}
    (haccepted : reply.accepted? openFds = some (.accepted fd)) : fd ∉ openFds := by
  cases reply with
  | accepted answer =>
    cases answer with
    | accepted =>
      simp only [accepted?] at haccepted
      split at haccepted
      · cases haccepted
      · next hout =>
        cases haccepted
        exact hout
    | _ => cases haccepted
  | _ => cases haccepted

/-- Calls that change nothing. -/
def IoCall.inert : IoCall → Bool
  | .stopRequested | .deadlineReached | .wait | .configureSocket _ | .epollAdd _ _ _
  | .epollAddListener _ _ | .epollRemoveListener | .epollModify _ _ _ | .epollRemove _
  | .recordSlowClientDisconnect | .sessionOrder | .expiredSessions | .inboxSize | .outboxSize
  | .notifyOutbound | .drainOutboundWakeup | .workersFinished | .joinWorkers | .rounds
  | .halt => true
  | _ => false

theorem respond_inert (hinert : request.inert = true) {now later : Shared}
    {answer : IoAnswer request} {after : Server}
    (hrespond : respond request server now reply = some (answer, after, later)) :
    after = server ∧ later = now := by
  cases request <;> simp only [IoCall.inert, Bool.false_eq_true] at hinert <;>
    simp only [respond, map_eq_some_iff, bind_eq_bind, bind_eq_some_iff, Prod.mk.injEq] at hrespond
  case sessionOrder =>
    obtain ⟨fds, _, hfds⟩ := hrespond
    split at hfds
    · simp only [pure_def, Option.some.injEq, Prod.mk.injEq] at hfds
      exact ⟨hfds.2.1.symm, hfds.2.2.symm⟩
    · cases hfds
  case expiredSessions =>
    obtain ⟨_, _, hfds⟩ := hrespond
    split at hfds
    · simp only [pure_def, Option.some.injEq, Prod.mk.injEq] at hfds
      exact ⟨hfds.2.1.symm, hfds.2.2.symm⟩
    · cases hfds
  case halt => cases hrespond
  all_goals
    obtain ⟨_, _, _, hafter, hlater⟩ := hrespond
    exact ⟨hafter.symm, hlater.symm⟩

/-! ## Rules -/

section Rules

variable (hsound : Sound config server) (halert : Alert config watch io shared)
include hsound halert

theorem works_get {rest : IoState → Io α}
    (hrest : ∀ now, Alert config watch io now → Works config good (rest server.io) server now) :
    Works config good (get >>= rest) server shared := by
  have hguard (now : Shared) (_ : Alert config watch io now) :
      guard config .get server now := hsound
  apply works_invoke hguard halert
  intro now _ _ _ _ hnow hrespond
  cases unit?_map hrespond
  exact hrest now hnow

theorem works_modify {update : IoState → IoState} [hkeeps : KeepsPhase update] {rest : Unit → Io α}
    (hrest : ∀ now, Alert config watch io now →
      Works config good (rest ()) (server.update update) now) :
    Works config good (modify update >>= rest) server shared := by
  have hguard (now : Shared) (_ : Alert config watch io now) :
      guard config (.modify update) server now :=
    ⟨hsound, hkeeps.phase server.io, hkeeps.forced server.io⟩
  apply works_invoke hguard halert
  intro now _ _ _ _ hnow hrespond
  cases unit?_map hrespond
  exact hrest now hnow

theorem works_ask (hinert : request.inert = true) {rest : IoAnswer request → Io α}
    (hrest : ∀ answer now, Alert config watch io now → Works config good (rest answer) server now) :
    Works config good (invoke request >>= rest) server shared := by
  have hguard (now : Shared) (_ : Alert config watch io now) : guard config request server now := by
    cases request <;> first | exact hsound | cases hinert
  apply works_invoke hguard halert
  intro _ _ answer _ later hnow hrespond
  obtain ⟨rfl, rfl⟩ := respond_inert hinert hrespond
  exact hrest answer later hnow

theorem works_inboxSize {rest : ℕ → Io α}
    (hrest : ∀ now, Alert config watch io now →
      Works config good (rest now.inbox.size) server now) :
    Works config good (invoke .inboxSize >>= rest) server shared := by
  have hguard (now : Shared) (_ : Alert config watch io now) :
      guard config .inboxSize server now := hsound
  apply works_invoke hguard halert
  intro now _ _ _ _ hnow hrespond
  cases unit?_map hrespond
  exact hrest now hnow

theorem works_close {fd : Fd} {rest : Unit → Io α}
    (hrest : ∀ now, Alert config watch io now → Works config good (rest ())
      { server with openFds := server.openFds.erase fd } now) :
    Works config good (invoke (.close fd) >>= rest) server shared := by
  have hguard (now : Shared) (_ : Alert config watch io now) :
      guard config (.close fd) server now := hsound
  apply works_invoke hguard halert
  intro now _ _ _ _ hnow hrespond
  cases unit?_map hrespond
  exact hrest now hnow

theorem works_recordDisconnect {fd : Fd} {reason : DisconnectReason} {rest : Unit → Io α}
    (hreason : reason = .closeAfterFlush → ∀ session,
      server.io.sessionsByFd.lookup fd = some session → Flushed server session.id)
    (hrest : ∀ now, Alert config watch io now → Works config good (rest ()) server now) :
    Works config good (invoke (.recordDisconnect fd reason) >>= rest) server shared := by
  have hguard (now : Shared) (_ : Alert config watch io now) :
      guard config (.recordDisconnect fd reason) server now := ⟨hsound, hreason⟩
  apply works_invoke hguard halert
  intro now _ _ _ _ hnow hrespond
  cases unit?_map hrespond
  exact hrest now hnow

theorem works_raise {exception : ServerException} (hexception : exception ≠ limitException) :
    Works config good (raise exception) server shared := by
  have hguard (now : Shared) (_ : Alert config watch io now) :
      guard config (.raise exception) server now := ⟨hsound, hexception⟩
  apply works_invoke hguard halert
  intro _ _ _ _ _ hnow hrespond
  cases unit?_map hrespond
  exact safe_throw ⟨hsound.raise hexception, watch, io, hnow⟩

theorem works_loop {σ : Type} {body : σ → Io (σ ⊕ α)} {state : σ} (inv : σ → Server → Shared → Prop)
    (hkeeps : ∀ state server shared, inv state server shared → Sound config server)
    (hbody : ∀ state server shared, inv state server shared →
      Works config (Round inv good) (body state) server shared)
    (hinv : ∀ now, Alert config watch io now → inv state server now) :
    Works config good (loop body state) server shared := by
  apply works_ask hsound halert rfl
  intro _ now hnow
  apply safe_iterate inv
  · intro state server shared hstate
    apply safe_perform
    · intro now _
      exact hkeeps state server shared hstate
    · intro now _ answer
      exact answer.elim
  · intro state server shared hstate
    apply Environment.Safe.mono (hbody state server shared hstate)
    intro result _ _ hpost
    cases result with
    | ok result =>
      cases result with
      | inl | inr => exact hpost
    | error => exact hpost
  · exact hinv now hnow

end Rules

theorem works_onlyIf {condition : Prop} [Decidable condition] {program : Io Unit}
    {good : Unit → Server → Shared → Prop}
    (hthen : condition → Works config good program server shared)
    (helse : ¬ condition → good () server shared) :
    Works config good (onlyIf condition program) server shared := by
  unfold onlyIf
  split
  · next hcondition => exact hthen hcondition
  · next hcondition => exact works_pure (helse hcondition)

theorem works_forEach {σ : Type} {body : σ → Io Unit} {good : Unit → Server → Shared → Prop}
    (hbody : ∀ item server shared, good () server shared →
      Works config good (body item) server shared)
    (items : List σ) (hgood : good () server shared) :
    Works config good (forEach body items) server shared := by
  apply safe_forEach _ items hgood
  intro item server shared hpost
  exact hbody item server shared hpost

/-! ## The inbox -/

theorem tryPush_cases (inbox : BoundedBlockingQueue InputEvent) (event : InputEvent) :
    ((inbox.tryPush event).1 = ⟨true, inbox.size + 1⟩ ∧
        (inbox.tryPush event).2 = inbox.enqueue event ∧ inbox.closed = false) ∨
      ((inbox.tryPush event).1 = ⟨false, inbox.size⟩ ∧ (inbox.tryPush event).2 = inbox ∧
        (inbox.closed = true ∨ inbox.size = inbox.capacity)) := by
  unfold tryPush
  split
  · next hfull =>
    simpa using hfull
  · next hopen =>
    left
    rw [Bool.or_eq_true, not_or, Bool.not_eq_true] at hopen
    exact ⟨rfl, rfl, hopen.1⟩

theorem Alert.tryPush (halert : Alert config watch io shared) (event : InputEvent) :
    Alert config watch io { shared with inbox := (shared.inbox.tryPush event).2 } ∧
      ((shared.inbox.tryPush event).1.succeeded = false →
        Alert config .always io { shared with inbox := (shared.inbox.tryPush event).2 }) ∧
      (config.inboundHighWatermark ≤ (shared.inbox.tryPush event).1.size →
        Alert config .always io { shared with inbox := (shared.inbox.tryPush event).2 }) := by
  have hlow := config.low_lt_high
  have hhigh := config.high_le_capacity
  rcases tryPush_cases shared.inbox event with ⟨hresult, hinbox, hopen⟩ | ⟨hresult, hinbox, hfull⟩
  · rw [hresult, hinbox]
    have hafter : Alert config watch io { shared with inbox := shared.inbox.enqueue event } := by
      refine { halert with
        finished := ?_
        resume := ?_ }
      · intro hnone hunforced
        have hclosed := (halert.finished hnone hunforced).1
        rw [hopen] at hclosed
        cases hclosed
      intro hrunning hneeds
      rcases halert.resume hrunning hneeds with hsize | hrest
      · left
        simp only [size, enqueue_items, List.length_append] at hsize ⊢
        omega
      · exact .inr hrest
    refine ⟨hafter, fun hfailed => (by cases hfailed), ?_⟩
    intro hsize
    apply hafter.of_willResume
    left
    simp only [size, enqueue_items, List.length_append, List.length_singleton] at hsize ⊢
    omega
  · rw [hresult, hinbox]
    have halways (hsize : config.inboundHighWatermark ≤ shared.inbox.size) :
        Alert config .always io shared := by
      apply halert.of_willResume
      left
      omega
    refine ⟨halert, fun _ => ?_, halways⟩
    -- a push fails in a closed inbox only after the server has stopped running
    by_cases hrunning : io.shutdownPhase = .running
    · apply halways
      have hopen := (halert.isOpen (.inl hrunning)).1
      rcases hfull with hclosed | hsize
      · rw [hopen] at hclosed
        cases hclosed
      · rw [hsize, halert.capacity]
        exact hhigh
    · exact halert.of_stopped hrunning

theorem works_tryPush (hsound : Sound config server)
    (halert : Alert config watch io shared) {event : InputEvent}
    {rest : BoundedBlockingQueue.OperationResult → Io α}
    (hfull : ∀ size now, Alert config .always io now →
      Works config good (rest ⟨false, size⟩) server now)
    (hpushed : ∀ size now, Alert config watch io now →
      (config.inboundHighWatermark ≤ size → Alert config .always io now) →
      Works config good (rest ⟨true, size⟩)
        { server with pushed := server.pushed ++ [event] } now) :
    Works config good (invoke (.inboxTryPush event) >>= rest) server shared := by
  have hguard (now : Shared) (_ : Alert config watch io now) :
      guard config (.inboxTryPush event) server now := hsound
  apply works_invoke hguard halert
  intro now _ _ _ _ hnow hrespond
  cases unit?_map hrespond
  obtain ⟨hkept, hfailed, hhigh⟩ := hnow.tryPush event
  rcases hresult : (now.inbox.tryPush event).1 with ⟨succeeded, size⟩
  rw [hresult] at hfailed hhigh
  cases succeeded with
  | false => exact hfull size _ (hfailed rfl)
  | true => exact hpushed size _ hkept hhigh

end SessionServer.TcpServer
