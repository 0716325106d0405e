import SessionServer.TcpServerOutput

/-!
# Shutting down

The phases follow one another: once the server has stopped running, reads stay
paused; it drains its output only with nothing deferred; and without force it is
complete only when the workers have finished and everything was handled and sent.
-/

namespace SessionServer.TcpServer

open Protocol InteractionProgram IoState Reply

variable {config : ServerConfig} {watch : Watch} {io : IoState} {shared : Shared}
  {server : Server}
variable {stopped : IoState} {phase : ShutdownPhase}

/-! ## Phases and the shared state -/

/-- Nothing has to be resumed in the next phase. -/
theorem Alert.stop (halert : Alert config watch io shared)
    (hstopped : stopped.shutdownPhase ≠ .running)
    (hopen : stopped.shutdownPhase = .drainingInput →
      io.shutdownPhase = .running ∨ io.shutdownPhase = .drainingInput)
    (hunforced : stopped.shutdownPhase = .drainingOutput →
      io.shutdownPhase = .running ∨ io.shutdownPhase = .drainingInput ∨
        io.shutdownPhase = .drainingOutput) :
    Alert config .always stopped shared where
  capacity := halert.capacity
  isOpen := by
    rintro (hrunning | hdraining)
    · exact absurd hrunning hstopped
    · exact halert.isOpen (hopen hdraining)
  unforced := by
    rintro (hrunning | hdraining | hdraining)
    · exact absurd hrunning hstopped
    · apply halert.unforced
      rcases hopen hdraining with hbefore | hbefore
      · exact .inl hbefore
      · exact .inr (.inl hbefore)
    · exact halert.unforced (hunforced hdraining)
  finished := halert.finished
  resume := fun hrunning => absurd hrunning hstopped

section Rules

variable {α : Type} {good : α → Server → Shared → Prop} (hsound : Sound config server)
  (halert : Alert config watch io shared)
include hsound halert

theorem works_enterPhase {rest : Unit → Io α}
    (hchange : ∀ now, Alert config watch io now → PhaseChange server now phase)
    (hrest : ∀ now, Alert config watch io now →
      Works config good (rest ()) (server.update (enterPhase phase)) now) :
    Works config good (invoke (.enterPhase phase) >>= rest) server shared := by
  have hguard (now : Shared) (hnow : Alert config watch io now) :
      guard config (.enterPhase phase) server now := ⟨hsound, hchange now hnow⟩
  apply works_invoke hguard halert
  intro now _ _ _ _ hnow hrespond
  cases unit?_map hrespond
  exact hrest now hnow

theorem works_enterPhase_last {good : Unit → Server → Shared → Prop}
    (hchange : ∀ now, Alert config watch io now → PhaseChange server now phase)
    (hgood : ∀ now, Alert config watch io now → good () (server.update (enterPhase phase)) now) :
    Works config good (invoke (.enterPhase phase)) server shared := by
  apply works_enterPhase hsound halert hchange
  intro now hnow
  exact works_pure (hgood now hnow)

theorem works_beginStop {rest : Unit → Io α}
    (hstopped : stopped.shutdownPhase ≠ .running ∧ stopped.shutdownPhase ≠ .drainingInput)
    (hunforced : stopped.shutdownPhase = .drainingOutput →
      io.shutdownPhase = .running ∨ io.shutdownPhase = .drainingInput ∨
        io.shutdownPhase = .drainingOutput)
    (hrest : ∀ now, Alert config .always stopped now → Works config good (rest ()) server now) :
    Works config good (invoke .beginStop >>= rest) server shared := by
  have hguard (now : Shared) (_ : Alert config watch io now) :
      guard config .beginStop server now := hsound
  apply works_invoke hguard halert
  intro _ _ _ _ _ hnow hrespond
  cases unit?_map hrespond
  apply hrest
  have hstop := hnow.stop hstopped.1 (fun hdraining => absurd hdraining hstopped.2) hunforced
  refine { hstop with isOpen := ?_ }
  rintro (hrunning | hdraining)
  · exact absurd hrunning hstopped.1
  · exact absurd hdraining hstopped.2

theorem works_forceStop {rest : Unit → Io α} (hstopped : stopped.shutdownPhase = .forced)
    (hrest : ∀ now, Alert config .always stopped now → Works config good (rest ()) server now) :
    Works config good (invoke .forceStop >>= rest) server shared := by
  have hguard (now : Shared) (_ : Alert config watch io now) :
      guard config .forceStop server now := hsound
  apply works_invoke hguard halert
  intro _ _ _ _ _ hnow hrespond
  cases unit?_map hrespond
  apply hrest
  refine ⟨hnow.capacity, ?_, ?_, fun _ hunforced => (by cases hunforced), ?_⟩
  · rw [hstopped]
    simp
  · rw [hstopped]
    simp
  · rw [hstopped]
    simp

theorem works_closeOutbox {rest : Unit → Io α}
    (hrest : ∀ now, Alert config watch io now → Works config good (rest ()) server now) :
    Works config good (invoke .closeOutbox >>= rest) server shared := by
  have hguard (now : Shared) (_ : Alert config watch io now) :
      guard config .closeOutbox server now := hsound
  apply works_invoke hguard halert
  intro _ _ _ _ _ hnow hrespond
  cases unit?_map hrespond
  exact hrest _ { hnow with }

theorem works_drainInputCapacity {rest : Bool → Io α}
    (hrest : ∀ drained now, Alert config .nothing io now →
      Works config good (rest drained) server now) :
    Works config good (invoke .drainInputCapacity >>= rest) server shared := by
  have hguard (now : Shared) (_ : Alert config watch io now) :
      guard config .drainInputCapacity server now := hsound
  apply works_invoke hguard halert
  intro _ _ _ _ _ hnow hrespond
  simp only [respond, Option.map_eq_some_iff, Prod.mk.injEq] at hrespond
  obtain ⟨_, _, rfl, rfl, rfl⟩ := hrespond
  apply hrest
  exact { hnow with resume := fun _ hneeds => hneeds.elim }

theorem works_workersFinished {rest : Bool → Io α}
    (hrest : ∀ now, Alert config watch io now →
      Works config good (rest (now.workers == 0)) server now) :
    Works config good (invoke .workersFinished >>= rest) server shared := by
  have hguard (now : Shared) (_ : Alert config watch io now) :
      guard config .workersFinished server now := hsound
  apply works_invoke hguard halert
  intro now _ _ _ _ hnow hrespond
  cases unit?_map hrespond
  exact hrest now hnow

end Rules

/-! ## Finished workers -/

theorem Disturbs.workers {after : Shared} (hdisturbs : Disturbs config shared after)
    (hnone : shared.workers = 0) : after.workers = 0 := by
  cases hdisturbs with
  | finished =>
    rw [hnone]
  | popped | notified | published | pushed | refused | closed | requested => exact hnone

theorem workers_stable (config : ServerConfig) :
    (environment config).Stable fun shared => shared.workers = 0 := by
  rintro _ _ hnone ⟨_, hstep⟩
  exact (disturbs_of_interfere hstep).workers hnone

theorem respond_workers {request : IoCall} {reply : Reply} {answer : IoAnswer request}
    {after : Server} {later : Shared}
    (hrespond : respond request server shared reply = some (answer, after, later)) :
    later.workers = shared.workers := by
  by_cases hinert : request.inert = true
  · rw [(respond_inert hinert hrespond).2]
  cases request with
  | undefinedBehaviour => cases hrespond
  | accept | recv _ | send _ _ | drainInputCapacity =>
    simp only [respond, Option.map_eq_some_iff, Prod.mk.injEq] at hrespond
    obtain ⟨_, _, _, _, rfl⟩ := hrespond
    rfl
  | modify _ | register _ _ | storeCurrentSessions | enterPhase _ | close _ | inboxTryPush _
  | outboxTryPop | raise _ | loopHead | get | feed _ | recordDisconnect _ _ | notifyInputCapacity
  | closeOutbox | beginStop | forceStop =>
    cases unit?_map hrespond
    rfl
  | _ => exact absurd rfl hinert

theorem Works.keepsFinished {α : Type} {program : Io α} {good : α → Server → Shared → Prop}
    (hworks : Works config good program server shared) (hnone : shared.workers = 0) :
    Works config (fun result after now => good result after now ∧ now.workers = 0)
      program server shared := by
  have hkept : ∀ (request : IoCall) server shared reply answer after later,
      shared.workers = 0 → respond request server shared reply = some (answer, after, later) →
      later.workers = 0 := by
    intro _ _ _ _ _ after _ hbefore hrespond
    exact (respond_workers hrespond).trans hbefore
  apply (Environment.Safe.keeps (workers_stable config) hkept hworks hnone).mono
  intro result _ _ hpost
  cases result with
  | ok => exact hpost
  | error => exact hpost.1

/-- The workers have finished; the size of the outbox is not below what it was. -/
structure Spent (config : ServerConfig) (io : IoState) (size : ℕ) (shared : Shared) : Prop where
  alert : Alert config .pauses io shared
  workers : shared.workers = 0
  popped : size = 0 → shared.outbox.items = []

theorem Spent.stable (config : ServerConfig) (io : IoState) (size : ℕ) :
    (environment config).Stable (Spent config io size) := by
  rintro shared after hspent ⟨interference, hstep⟩
  have halert := Alert.stable config .pauses io shared after hspent.alert ⟨interference, hstep⟩
  have hworkers := workers_stable config shared after hspent.workers ⟨interference, hstep⟩
  refine ⟨halert, hworkers, ?_⟩
  cases disturbs_of_interfere hstep with
  | published _ hsome => exact absurd hspent.workers hsome
  | popped | notified | finished | pushed | refused | closed | requested => exact hspent.popped

theorem sessionOrder_keys {reply : Reply} {fds : List Fd} {after : Server} {later : Shared}
    (hrespond : respond .sessionOrder server shared reply = some (fds, after, later)) :
    fds.toFinset = server.io.sessionsByFd.keys := by
  simp only [respond, Option.bind_eq_bind, Option.bind_eq_some_iff] at hrespond
  obtain ⟨_, _, hreturn⟩ := hrespond
  split at hreturn
  · next horder =>
    simp only [Option.pure_def, Option.some.injEq, Prod.mk.injEq] at hreturn
    rw [← hreturn.1]
    exact horder.2
  · cases hreturn

/-! ## The phases -/

theorem works_beginShutdown (hsettled : Settled config server shared) :
    Works config (fun _ => Settled config) beginShutdown server shared := by
  apply works_get hsettled.sound hsettled.2
  intro now hnow
  split
  · exact works_pure ⟨hsettled.1, hnow⟩
  · next hrunning =>
    rw [not_not] at hrunning
    have hstop : Alert config .always (server.io.enterPhase .drainingInput).pause now :=
      hnow.stop (by simp [enterPhase, pause]) (fun _ => .inl hrunning) fun _ => .inl hrunning
    have hentered : Sound config (server.update (enterPhase .drainingInput)) :=
      hsettled.sound.enterPhase (by simp)
    have hpaused := hsettled.1.beginShutdown
    have hchange (now : Shared)
        (_ : Alert config .always (server.io.enterPhase .drainingInput).pause now) :
        PhaseChange server now .drainingInput := hrunning
    apply works_enterPhase hsettled.sound hstop hchange
    intro now hnow
    apply works_modify hentered hnow
    intro now hnow
    apply (works_removeListener hentered.pause hnow).bind
    rintro _ _ now ⟨rfl, hnow⟩
    apply (works_updateInterests hpaused.toSound hnow).mono
    rintro _ _ _ ⟨rfl, hnow⟩
    exact ⟨hpaused, hnow.of_always .pauses rfl⟩

/-- The server has stopped running. -/
abbrev Stopped (config : ServerConfig) (server : Server) (shared : Shared) : Prop :=
  Settled config server shared ∧ server.io.shutdownPhase ≠ .running

theorem Stopped.enterPhase (hstopped : Stopped config server shared)
    (hphase : phase ≠ .running) (hdrained : phase = .drainingOutput → server.io.Emptied)
    {now : Shared} (hnow : Alert config .always (server.io.enterPhase phase) now) :
    Stopped config (server.update (enterPhase phase)) now :=
  ⟨⟨hstopped.1.1.enterPhase hstopped.2 hphase hdrained, hnow.of_always .pauses rfl⟩, hphase⟩

theorem works_forceShutdown (hstopped : Stopped config server shared) :
    Works config (fun _ => Stopped config) forceShutdown server shared := by
  obtain ⟨hsettled, hphase⟩ := hstopped
  apply works_get hsettled.sound hsettled.2
  intro now hnow
  split
  · exact works_pure ⟨⟨hsettled.1, hnow⟩, hphase⟩
  · next hgo =>
    rw [not_or] at hgo
    have hforced : (server.io.enterPhase .forced).shutdownPhase = .forced := rfl
    apply works_forceStop hsettled.sound hnow hforced
    intro now hnow
    apply works_enterPhase_last hsettled.sound hnow
    · intro _ _
      exact ⟨hphase, hgo.2⟩
    · intro _ hnow
      exact Stopped.enterPhase ⟨hsettled, hphase⟩ (by simp) (by simp) hnow

theorem works_drainOutbound_stopped (hstopped : Stopped config server shared) :
    Works config (fun _ => Stopped config) (drainOutbound config) server shared := by
  apply ((works_drainOutbound hstopped.1).keepsPhase within_drainOutbound).mono
  rintro _ _ _ ⟨hafter, hphase⟩
  refine ⟨hafter, ?_⟩
  rw [hphase]
  exact hstopped.2

theorem works_advanceInput (hstopped : Stopped config server shared) :
    Works config (fun _ => Stopped config) (advanceInput config) server shared := by
  obtain ⟨hsettled, hphase⟩ := hstopped
  apply works_get hsettled.sound hsettled.2
  intro now hnow
  split
  · exact works_pure ⟨⟨hsettled.1, hnow⟩, hphase⟩
  next hdraining =>
  rw [not_not] at hdraining
  have hnothing : Alert config .nothing server.io now := by
    refine hnow.weaken ?_ ?_
    · rfl
    · intro _ hneeds
      exact hneeds.elim
  apply ((works_drainDeferredInput hsettled.1 hnothing).keepsPhase
    within_drainDeferredInput).bind
  rintro drained after now ⟨⟨hafter, hdrained⟩, hsame⟩
  have hafter : Settled config after now := hafter
  have hinput : after.io.shutdownPhase = .drainingInput := hsame.trans hdraining
  have hstopped : after.io.shutdownPhase ≠ .running := by
    rw [hinput]
    simp
  cases drained with
  | false => exact works_pure ⟨hafter, hstopped⟩
  | true =>
    have hemptied : after.io.Emptied := (hdrained rfl).resolve_left hstopped
    have hnext : (after.io.enterPhase .drainingOutput).shutdownPhase ≠ .running ∧
        (after.io.enterPhase .drainingOutput).shutdownPhase ≠ .drainingInput := by
      simp [enterPhase]
    apply works_beginStop hafter.sound hafter.2 hnext fun _ => .inr (.inl hinput)
    intro now hnow
    have hchange (now : Shared)
        (_ : Alert config .always (after.io.enterPhase .drainingOutput) now) :
        PhaseChange after now .drainingOutput := hinput
    apply works_enterPhase_last hafter.sound hnow hchange
    intro _ hnow
    exact Stopped.enterPhase ⟨hafter, hstopped⟩ (by simp) (fun _ => hemptied) hnow

theorem Steady.idle_of_emptied (hsteady : Steady config none server)
    (hemptied : server.io.Emptied) (fd : Fd) (session : Session)
    (hlookup : server.io.sessionsByFd.lookup fd = some session) :
    session.codec.peekPacket = .ok none := by
  apply hsteady.quiet.idle fd session hlookup _ (by simp)
  intro hin
  have hqueued := hsteady.quiet.queued fd hin
  rw [hemptied.2] at hqueued
  cases hqueued

theorem Steady.finished {fds : List Fd} (hsteady : Steady config none server)
    (hdraining : server.io.shutdownPhase = .drainingOutput)
    (hfds : fds.toFinset = server.io.sessionsByFd.keys)
    (hwritten : allSessionWritesDrained fds server.io = true)
    (hspent : Spent config server.io 0 shared) : Finished server shared := by
  have hemptied := hsteady.drained hdraining
  have hunforced := hspent.alert.unforced (.inr (.inr hdraining))
  refine ⟨hemptied, hspent.workers, (hspent.alert.finished hspent.workers hunforced).2,
    hspent.popped rfl, ?_⟩
  intro fd session hlookup
  refine ⟨?_, hsteady.idle_of_emptied hemptied fd session hlookup⟩
  have hin : fd ∈ fds := by
    rw [← List.mem_toFinset, hfds, FiniteMap.mem_keys_iff, hlookup]
    simp
  have hdrained := List.all_eq_true.mp hwritten fd hin
  rw [hlookup] at hdrained
  simpa using hdrained

theorem works_completeSpent (hsettled : Settled config server shared)
    (hdraining : server.io.shutdownPhase = .drainingOutput) {size : ℕ}
    (hspent : Spent config server.io size shared) :
    Works config (fun _ => Stopped config) (do
      let fds : List Fd ← invoke .sessionOrder
      let io ← get
      if size = 0 ∧ allSessionWritesDrained fds io then
        invoke .closeOutbox
        invoke (.enterPhase .complete) >>= pure
      else return ()) server shared := by
  have hphase : server.io.shutdownPhase ≠ .running := by
    rw [hdraining]
    simp
  have hstable := Spent.stable config server.io size
  have horder (now : Shared) (_ : Spent config server.io size now) :
      guard config .sessionOrder server now := hsettled.sound
  apply works_invoke_of_stable hstable horder hspent
  intro now reply _ after later hnow hrespond
  have hfds := sessionOrder_keys hrespond
  obtain ⟨rfl, rfl⟩ := respond_inert rfl hrespond
  have hget (now : Shared) (_ : Spent config after.io size now) :
      guard config .get after now := hsettled.sound
  apply works_invoke_of_stable hstable hget hnow
  intro now reply io server later hnow hrespond
  cases unit?_map hrespond
  split
  · next hdone =>
    have hclose (now : Shared) (_ : Spent config after.io size now) :
        guard config .closeOutbox after now := hsettled.sound
    apply works_invoke_of_stable hstable hclose hnow
    intro now reply answer server later hnow hrespond
    cases unit?_map hrespond
    have hclosed : Spent config after.io size { now with outbox := now.outbox.close } :=
      ⟨{ hnow.alert with }, hnow.workers, hnow.popped⟩
    have hcomplete (now : Shared) (hnow : Spent config after.io size now) :
        guard config (.enterPhase .complete) after now := by
      refine ⟨hsettled.sound, .inr ⟨hdraining, ?_⟩⟩
      rw [hdone.1] at hnow
      exact hsettled.1.finished hdraining hfds hdone.2 hnow
    apply works_invoke_of_stable hstable hcomplete hclosed
    intro _ _ _ _ _ hnow hrespond
    cases unit?_map hrespond
    apply works_pure
    apply Stopped.enterPhase ⟨⟨hsettled.1, hnow.alert⟩, hphase⟩ (by simp) (by simp)
    apply hnow.alert.stop
    · simp [enterPhase]
    · simp [enterPhase]
    · simp [enterPhase]
  · exact works_pure ⟨⟨hsettled.1, hnow.alert⟩, hphase⟩

theorem works_completeShutdown (hstopped : Stopped config server shared) :
    Works config (fun _ => Stopped config) (completeShutdown config) server shared := by
  apply (works_drainOutbound_stopped hstopped).bind
  intro _ server now hstopped
  obtain ⟨hsettled, hphase⟩ := hstopped
  apply works_get hsettled.sound hsettled.2
  intro now hnow
  split
  · exact works_pure ⟨⟨hsettled.1, hnow⟩, hphase⟩
  next hdraining =>
  rw [not_not] at hdraining
  apply works_workersFinished hsettled.sound hnow
  intro now hnow
  cases hfinished : now.workers == 0 with
  | false => exact works_pure ⟨⟨hsettled.1, hnow⟩, hphase⟩
  | true =>
    rw [beq_iff_eq] at hfinished
    have hdrain : Works config (fun _ => Settled config) (drainOutbound config) server now :=
      works_drainOutbound ⟨hsettled.1, hnow⟩
    apply ((hdrain.keepsPhase within_drainOutbound).keepsFinished hfinished).bind
    rintro _ server now ⟨⟨hsettled, hsame⟩, hnone⟩
    have hspent : Spent config server.io 1 now := ⟨hsettled.2, hnone, by simp⟩
    have hsize (now : Shared) (_ : Spent config server.io 1 now) :
        guard config .outboxSize server now := hsettled.sound
    apply works_invoke_of_stable (Spent.stable config server.io 1) hsize hspent
    intro _ _ _ _ _ hnow hrespond
    cases unit?_map hrespond
    apply works_completeSpent ⟨hsettled.1, hnow.alert⟩ (hsame.trans hdraining)
    exact { hnow with popped := List.eq_nil_of_length_eq_zero }

theorem works_advanceDraining (hstopped : Stopped config server shared) :
    Works config (fun _ => Stopped config) (advanceDraining config) server shared := by
  apply (works_drainOutbound_stopped hstopped).bind
  intro _ server now hstopped
  apply works_ask hstopped.1.sound hstopped.1.2 rfl
  intro late now hnow
  split
  · exact works_forceShutdown ⟨⟨hstopped.1.1, hnow⟩, hstopped.2⟩
  apply (works_advanceInput ⟨⟨hstopped.1.1, hnow⟩, hstopped.2⟩).bind
  intro _ _ now hstopped
  apply works_ask hstopped.1.sound hstopped.1.2 rfl
  intro _ _ hnow
  split
  · exact works_forceShutdown ⟨⟨hstopped.1.1, hnow⟩, hstopped.2⟩
  · exact works_completeShutdown ⟨⟨hstopped.1.1, hnow⟩, hstopped.2⟩

theorem works_advanceShutdown (hsettled : Settled config server shared) :
    Works config (fun _ => Settled config) (advanceShutdown config) server shared := by
  apply works_get hsettled.sound hsettled.2
  intro now hnow
  split
  · exact works_pure ⟨hsettled.1, hnow⟩
  next hgo =>
  rw [not_or] at hgo
  apply works_ask hsettled.sound hnow rfl
  intro late now hnow
  have hstopped : Stopped config server now := ⟨⟨hsettled.1, hnow⟩, hgo.1⟩
  have hforce : Works config (fun _ => Stopped config) (onlyIf (late = true) forceShutdown)
      server now := works_onlyIf (fun _ => works_forceShutdown hstopped) fun _ => hstopped
  apply hforce.bind
  intro _ server now hstopped
  apply works_get hstopped.1.sound hstopped.1.2
  intro now hnow
  split
  · next hforced =>
    apply works_workersFinished hstopped.1.sound hnow
    intro now hnow
    split
    · have hcomplete : Alert config .always (server.io.enterPhase .complete) now := by
        apply hnow.stop
        · simp [enterPhase]
        · simp [enterPhase]
        · simp [enterPhase]
      apply works_enterPhase_last hstopped.1.sound hcomplete
      · intro _ _
        exact .inl ⟨hforced, hstopped.1.1.control.forced hforced⟩
      · intro now hnow
        exact (Stopped.enterPhase hstopped (by simp) (by simp) hnow).1
    · exact works_pure ⟨hstopped.1.1, hnow⟩
  · apply (works_advanceDraining ⟨⟨hstopped.1.1, hnow⟩, hstopped.2⟩).mono
    intro _ _ _ hafter
    exact hafter.1

theorem works_closeNetworkResources (hsound : Sound config server)
    (halert : Alert config watch io shared) :
    Works config (fun _ after now => Sound config after ∧ Alert config watch io now)
      closeNetworkResources server shared := by
  apply (works_removeListener hsound halert).bind
  rintro _ _ now ⟨rfl, hnow⟩
  apply works_ask hsound.dropListener hnow rfl
  intro fds now hnow
  have hclosing : Works config
      (fun _ after now => Sound config after ∧ Alert config watch io now)
      (InteractionProgram.forEach closeConnection fds) (server.update dropListener) now := by
    apply works_forEach
    · rintro fd _ now ⟨hsound, hnow⟩
      apply works_recordDisconnect hsound hnow (by simp)
      intro now hnow
      apply works_ask hsound hnow rfl
      intro _ now hnow
      apply works_close_last hsound hnow
      intro now hnow
      exact ⟨hsound.opens _, hnow⟩
    · exact ⟨hsound.dropListener, hnow⟩
  apply hclosing.bind
  rintro _ _ _ ⟨hclosed, hnow⟩
  apply works_modify_last hclosed hnow
  intro now hnow
  exact ⟨hclosed.clear, hnow⟩

end SessionServer.TcpServer
