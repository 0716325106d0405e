import SessionServer.TcpServerShutdown

/-!
# The event loop

Every handler keeps the server settled, so every round of the loop does.  An
exception ends the loop; from there the thread only closes what it holds.
-/

namespace SessionServer.TcpServer

open Protocol InteractionProgram IoState

variable {config : ServerConfig} {watch : Watch} {io : IoState} {shared : Shared}
  {server : Server}

/-! ## The events of a session -/

theorem Session.Owes.markPeerReadClosed {session : Session} {sent : Bytes}
    {addressed : List OutputMessage} (howes : session.Owes sent addressed) :
    session.markPeerReadClosed.Owes sent addressed :=
  howes.congr rfl rfl

section Settled

variable (hsettled : Settled config server shared)
include hsettled

theorem Settled.markPeerReadClosed {fd : Fd}
    {session : Session} (hlookup : server.io.sessionsByFd.lookup fd = some session) :
    Settled config (server.update (setSession (.live fd) session.markPeerReadClosed)) shared := by
  have hsession : server.io.session? (.live fd) = some session := hlookup
  have hid : session.markPeerReadClosed.id = session.id := rfl
  refine ⟨?_, hsettled.2.setLive hlookup _⟩
  exact hsettled.1.setSession_stream hsession hid rfl rfl rfl (fun _ _ => ⟨rfl, rfl⟩)
    (hsettled.1.writes fd session hlookup).markPeerReadClosed

theorem works_readOrDefer {fd : Fd}
    (hlive : server.io.sessionsByFd.lookup fd ≠ none) (event : EpollEvent) :
    Works config (fun _ => Settled config) (readOrDefer config fd event) server shared := by
  obtain ⟨hsteady, halert⟩ := hsettled
  apply works_get hsteady.toSound halert
  intro now hnow
  split
  · next hread =>
    obtain ⟨hrunning, hreading, _⟩ := hread
    have hdraining : server.io.shutdownPhase ≠ .drainingOutput := by
      rw [hrunning]
      simp
    apply (works_readSession hsteady hnow false none
      (fun _ => hsteady.idle_of_reading hreading fd) (by simp) hdraining (.inl hrunning)).bind
    intro _ _ now hafter
    exact works_pure hafter
  next hnot =>
  split
  · next hdefer =>
    obtain ⟨hclose, hphase⟩ := hdefer
    have hpaused : server.io.readsPaused = true := by
      by_contra hreading
      rw [Bool.not_eq_true] at hreading
      exact hnot ⟨hsteady.running_of_reading hreading, hreading, .inr hclose⟩
    have hdraining : server.io.shutdownPhase ≠ .drainingOutput := by
      rcases hphase with hrunning | hinput
      · rw [hrunning]
        simp
      · rw [hinput]
        simp
    apply works_modify hsteady.toSound hnow
    intro _ hnow
    exact works_pure ⟨hsteady.deferRead (.inl rfl) hlive hpaused hdraining, hnow.deferRead fd⟩
  · exact works_pure ⟨hsteady, hnow⟩

theorem works_handleSessionEvent (fd : Fd) (event : EpollEvent) :
    Works config (fun _ => Settled config) (handleSessionEvent config fd event) server shared := by
  unfold handleSessionEvent
  split
  · exact hsettled.works_disconnect fd (by simp)
  apply works_get hsettled.sound hsettled.2
  intro now hnow
  have hsettled : Settled config server now := ⟨hsettled.1, hnow⟩
  cases hlookup : server.io.sessionsByFd.lookup fd with
  | none => exact works_pure hsettled
  | some session =>
    have hmark : Works config (fun _ after now => Settled config after now ∧
        after.io.sessionsByFd.lookup fd ≠ none)
        (onlyIf (event.peerClose = true)
          (modify (setSession (.live fd) session.markPeerReadClosed)))
        server now := by
      apply works_onlyIf
      · intro _
        apply works_modify hsettled.sound hsettled.2
        intro now hnow
        apply works_pure
        refine ⟨Settled.markPeerReadClosed ⟨hsettled.1, hnow⟩ hlookup, ?_⟩
        change (server.io.sessionsByFd.insert fd session.markPeerReadClosed).lookup fd ≠ none
        simp
      · intro _
        refine ⟨hsettled, ?_⟩
        rw [hlookup]
        simp
    apply hmark.bind
    rintro _ server now ⟨hsettled, hlive⟩
    apply (works_readOrDefer hsettled hlive event).bind
    intro _ _ now hsettled
    apply works_get hsettled.sound hsettled.2
    intro _ hnow
    split
    · exact works_flushSession ⟨hsettled.1, hnow⟩ fd
    · exact works_pure ⟨hsettled.1, hnow⟩

/-! ## The other events -/

theorem works_handleOutboundWakeup :
    Works config (fun _ => Settled config) (handleOutboundWakeup config) server shared := by
  apply works_ask hsettled.sound hsettled.2 rfl
  intro _ now hnow
  split
  · exact works_raise hsettled.sound hnow (by simp [limitException])
  apply works_get hsettled.sound hnow
  intro _ hnow
  split
  · exact works_drainOutbound ⟨hsettled.1, hnow⟩
  · exact works_pure ⟨hsettled.1, hnow⟩

/-- The signal is taken, so the deferred input has to be looked at now. -/
theorem works_handleInputCapacityWakeup :
    Works config (fun _ => Settled config) (handleInputCapacityWakeup config) server shared := by
  apply works_drainInputCapacity hsettled.sound hsettled.2
  intro _ now hnow
  split
  · exact works_raise hsettled.sound hnow (by simp [limitException])
  apply works_get hsettled.sound hnow
  intro now hnow
  split
  · apply (works_drainDeferredInput hsettled.1 hnow).bind
    intro _ _ _ hafter
    exact works_pure hafter.1
  · next hstopped =>
    rw [not_or] at hstopped
    have hpauses := (hnow.of_stopped hstopped.1).of_always .pauses rfl
    exact works_pure ⟨hsettled.1, hpauses⟩

theorem works_handleListener :
    Works config (fun _ => Settled config) (handleListener config) server shared := by
  apply works_get hsettled.sound hsettled.2
  intro _ hnow
  split
  · exact works_acceptLoop ⟨hsettled.1, hnow⟩
  · exact works_pure ⟨hsettled.1, hnow⟩

theorem works_handleEvent (event : EpollEvent) :
    Works config (fun _ => Settled config) (handleEvent config event) server shared := by
  unfold handleEvent
  split
  · exact works_handleOutboundWakeup hsettled
  split
  · exact works_handleInputCapacityWakeup hsettled
  split
  · exact works_handleListener hsettled
  apply works_get hsettled.sound hsettled.2
  intro now hnow
  have hsettled : Settled config server now := ⟨hsettled.1, hnow⟩
  cases server.io.fdByRegistrationToken.lookup event.token with
  | none => exact works_pure hsettled
  | some fd =>
    dsimp only
    split
    · exact works_handleSessionEvent hsettled fd event
    · exact works_pure hsettled

/-! ## Rounds -/

theorem works_beginIfRequested (requested : Bool) :
    Works config (fun _ => Settled config) (onlyIf (requested = true) beginShutdown) server
      shared :=
  works_onlyIf (fun _ => works_beginShutdown hsettled) fun _ => hsettled

end Settled

theorem works_handleEvents (events : List EpollEvent) (hsettled : Settled config server shared) :
    Works config (fun _ => Settled config) (handleEvents config events) server shared := by
  induction events generalizing server shared with
  | nil => exact works_pure hsettled
  | cons event _ ih =>
    apply works_ask hsettled.sound hsettled.2 rfl
    intro requested now hnow
    apply (works_beginIfRequested ⟨hsettled.1, hnow⟩ requested).bind
    intro _ server now hsettled
    apply works_get hsettled.sound hsettled.2
    intro now hnow
    apply works_ask hsettled.sound hnow rfl
    intro _ now hnow
    have hsettled : Settled config server now := ⟨hsettled.1, hnow⟩
    split
    · next hforce =>
      apply (works_forceShutdown ⟨hsettled, hforce.1⟩).mono
      intro _ _ now hafter
      exact hafter.1
    · apply (works_handleEvent hsettled event).bind
      intro _ _ _ hsettled
      exact ih hsettled

theorem works_handleBatch (hsettled : Settled config server shared) (events : List EpollEvent) :
    Works config (fun _ => Settled config) (handleBatch config events) server shared := by
  apply (works_handleEvents events hsettled).bind
  intro _ server now hsettled
  apply works_get hsettled.sound hsettled.2
  intro now hnow
  have hsettled : Settled config server now := ⟨hsettled.1, hnow⟩
  have hdrain : Works config (fun _ => Settled config)
      (onlyIf (server.io.shutdownPhase ≠ .forced) (drainOutbound config)) server now :=
    works_onlyIf (fun _ => works_drainOutbound hsettled) fun _ => hsettled
  apply hdrain.bind
  intro _ server now hsettled
  apply works_get hsettled.sound hsettled.2
  intro now hnow
  have hsettled : Settled config server now := ⟨hsettled.1, hnow⟩
  have hexpire : Works config (fun _ => Settled config)
      (onlyIf (server.io.shutdownPhase = .running) (expireIdleSessions config)) server now :=
    works_onlyIf (fun _ => works_expireIdleSessions hsettled) fun _ => hsettled
  apply hexpire.bind
  intro _ _ _ hsettled
  exact works_advanceShutdown hsettled

theorem works_loopHead {α : Type} {good : α → Server → Shared → Prop} {rest : Unit → Io α}
    (hsettled : Settled config server shared)
    (hrest : ∀ now, Settled config server now → Works config good (rest ()) server now) :
    Works config good (invoke .loopHead >>= rest) server shared := by
  have hguard (now : Shared) (hnow : Alert config .pauses server.io now) :
      guard config .loopHead server now := ⟨hsettled.1, hnow⟩
  apply works_invoke hguard hsettled.2
  intro now _ _ _ _ hnow hrespond
  cases Reply.unit?_map hrespond
  exact hrest now ⟨hsettled.1, hnow⟩

theorem works_serveOnce (hsettled : Settled config server shared) :
    Works config (Round (fun _ => Settled config) fun _ => Settled config)
      (serveOnce config ()) server shared := by
  apply works_loopHead hsettled
  intro now hsettled
  apply works_get hsettled.sound hsettled.2
  intro now hnow
  split
  · exact works_pure ⟨hsettled.1, hnow⟩
  apply works_ask hsettled.sound hnow rfl
  intro requested now hnow
  apply (works_beginIfRequested ⟨hsettled.1, hnow⟩ requested).bind
  intro _ server now hsettled
  apply (works_advanceShutdown hsettled).bind
  intro _ server now hsettled
  apply works_get hsettled.sound hsettled.2
  intro now hnow
  split
  · exact works_pure ⟨hsettled.1, hnow⟩
  apply works_ask hsettled.sound hnow rfl
  intro events now hnow
  cases events with
  | none => exact works_raise hsettled.sound hnow (by simp [limitException])
  | some events =>
    apply (works_handleBatch ⟨hsettled.1, hnow⟩ events).bind
    intro _ _ _ hsettled
    exact works_pure hsettled

/-! ## The whole run -/

theorem works_abandon (hsound : Sound config server) (halert : Alert config watch io shared)
    (exception : ServerException) :
    Works config (fun _ after now => Settled config after now) (abandon exception) server
      shared := by
  have hforced : (io.enterPhase .forced).shutdownPhase ≠ .running ∧
      (io.enterPhase .forced).shutdownPhase ≠ .drainingInput := by
    simp [enterPhase]
  apply works_beginStop hsound halert hforced (by simp [enterPhase])
  intro now hnow
  apply works_closeOutbox hsound hnow
  intro now hnow
  apply works_ask hsound hnow rfl
  intro _ now hnow
  apply (works_closeNetworkResources hsound hnow).bind
  rintro _ _ _ ⟨hafter, hnow⟩
  exact Environment.safe_throw ⟨hafter, _, _, hnow⟩

theorem works_run (hsettled : Settled config server shared) :
    Works config (fun _ after now => Sound config after ∧ ∃ watch io, Alert config watch io now)
      (run config) server shared := by
  have hloop : Works config (fun _ => Settled config) (loop (serveOnce config) ()) server
      shared := by
    apply works_loop hsettled.sound hsettled.2 (fun _ => Settled config)
    · intro _ server shared hsettled
      exact hsettled.sound
    · intro _ server shared hsettled
      exact works_serveOnce hsettled
    · intro now hnow
      exact ⟨hsettled.1, hnow⟩
  have hcaught : Works config (fun _ => Settled config)
      (tryCatch (loop (serveOnce config) ()) abandon) server shared := by
    apply Environment.Safe.tryCatch hloop
    · intro _ _ _ hsettled
      exact hsettled
    · rintro exception server _ ⟨hsound, _, io, halert⟩
      exact works_abandon hsound halert exception
  apply hcaught.bind
  intro _ server now hsettled
  apply works_ask hsettled.sound hsettled.2 rfl
  intro _ now hnow
  apply works_get hsettled.sound hnow
  intro now hnow
  have hsettled : Settled config server now := ⟨hsettled.1, hnow⟩
  have hlast : Works config (fun _ => Settled config)
      (onlyIf (server.io.forcedShutdown = false) do
        drainOutbound config
        flushAllSessions config) server now := by
    apply works_onlyIf
    · intro _
      apply (works_drainOutbound hsettled).bind
      intro _ server now hsettled
      exact works_flushAllSessions hsettled
    · intro _
      exact hsettled
  apply hlast.bind
  intro _ _ now hsettled
  apply (works_closeNetworkResources hsettled.sound hsettled.2).mono
  intro _ _ _ hafter
  exact ⟨hafter.1, _, _, hafter.2⟩

end SessionServer.TcpServer
