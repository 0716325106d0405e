import SessionServer.TcpServerReading
import SessionServer.TcpServerScope

/-!
# Draining deferred input and resuming

Every way out of `drainDeferredInput` leaves either reads resumed, or something
that will make the thread look at the deferred input again.
-/

namespace SessionServer.TcpServer

open Protocol InteractionProgram IoState

variable {config : ServerConfig} {watch : Watch} {io : IoState} {shared : Shared}
  {server : Server}
variable {budget : WorkBudget}

/-! ## Resuming -/

theorem Steady.running_of_reading (hsteady : Steady config none server)
    (hreading : server.io.readsPaused = false) : server.io.shutdownPhase = .running := by
  by_contra hstopped
  rw [hsteady.control.stopped hstopped] at hreading
  cases hreading

/-- While reads are not paused no codec holds a complete frame. -/
theorem Steady.idle_of_reading (hsteady : Steady config none server)
    (hreading : server.io.readsPaused = false) (fd : Fd) (session : Session)
    (hlookup : server.io.sessionsByFd.lookup fd = some session) :
    session.codec.peekPacket = .ok none := by
  have hrunning := hsteady.running_of_reading hreading
  apply hsteady.quiet.idle fd session hlookup _ (by simp)
  intro hin
  have hpaused := hsteady.quiet.paused hrunning (Finset.ne_empty_of_mem hin)
  rw [hreading] at hpaused
  cases hpaused

theorem works_readPeerClosed (fds : List Fd) (hsteady : Steady config none server)
    (halert : Alert config .pauses server.io shared) :
    Works config (fun _ after now =>
        Steady config none after ∧ Alert config .pauses after.io now)
      (readPeerClosed config fds) server shared := by
  induction fds generalizing server shared with
  | nil => exact works_pure ⟨hsteady, halert⟩
  | cons fd _ ih =>
    apply works_get hsteady.toSound halert
    intro now hnow
    split
    · exact works_pure ⟨hsteady, hnow⟩
    · next hreading =>
      rw [Bool.not_eq_true] at hreading
      have hrunning := hsteady.running_of_reading hreading
      have hdraining : server.io.shutdownPhase ≠ .drainingOutput := by
        rw [hrunning]
        simp
      have hread := works_readSession hsteady hnow false none
        (fun _ => hsteady.idle_of_reading hreading fd) (by simp) hdraining (.inl hrunning)
      apply hread.bind
      rintro _ _ _ ⟨hafter, hnow⟩
      exact ih hafter hnow

/-- The state between the decision to resume and the resumed state. -/
structure Resuming (config : ServerConfig) (server : Server) : Prop where
  steady : Steady config none server
  running : server.io.shutdownPhase = .running
  paused : server.io.readsPaused = true
  disconnects : server.io.deferredDisconnects = []
  reads : server.io.deferredReadFds = []

theorem Resuming.works_resumeReads (hresuming : Resuming config server)
    (halert : Alert config watch server.io shared) :
    Works config (fun _ after now =>
        Steady config none after ∧ Alert config .pauses after.io now)
      (resumeReads config) (server.update (setBackpressure ⟨false⟩)) shared := by
  have hsteady := hresuming.steady
  have hlistener : server.io.listenerRegistered = false := by
    rw [hsteady.control.listener hresuming.running, hresuming.paused]
    rfl
  have hresumed := hsteady.resume hresuming.disconnects hresuming.reads hresuming.running
  have hbefore := hsteady.toSound.setBackpressure ⟨false⟩
  have hreading : Sound config ((server.update (setBackpressure ⟨false⟩)).update unpause) := by
    apply hbefore.frame rfl rfl rfl
    intro _ hsome
    exact absurd hresuming.disconnects hsome
  apply works_get hbefore halert
  intro now hnow
  have hgo : ¬ (server.io.readsPaused = false ∨ server.io.shutdownPhase ≠ .running) := by
    simp [hresuming.paused, hresuming.running]
  split
  · next hstop => exact absurd hstop hgo
  apply works_modify hbefore hnow
  intro now hnow
  have hlisten : Works config (fun _ after now =>
      after = server.update (fun io => { io with
          readBackpressure := ⟨false⟩
          readsPaused := false
          listenerRegistered := true }) ∧ Alert config watch server.io now)
      (onlyIf (server.io.listenerRegistered = false) resumeListener)
      ((server.update (setBackpressure ⟨false⟩)).update unpause) now := by
    apply works_onlyIf _ (absurd hlistener)
    intro _
    apply works_ask hreading hnow rfl
    intro _ now hnow
    split
    · apply works_modify_last hreading hnow
      intro now hnow
      exact ⟨rfl, hnow⟩
    · exact works_raise hreading hnow (by simp [limitException])
  apply hlisten.bind
  rintro _ after now ⟨rfl, hnow⟩
  apply works_ask hresumed.toSound hnow rfl
  intro fds now hnow
  apply (works_forEach_updateInterest hresumed.toSound hnow fds).bind
  rintro _ _ now ⟨rfl, hnow⟩
  apply works_get hresumed.toSound hnow
  intro _ hnow
  apply works_readPeerClosed _ hresumed
  refine hnow.weaken ?_ ?_
  · rfl
  · intro _ hneeds
    cases hneeds

/-! ## Leaving the loops -/

theorem works_notifyInputCapacity_last {good : Unit → Server → Shared → Prop}
    (hsound : Sound config server) (halert : Alert config watch io shared)
    (hgood : ∀ now, Alert config .always io now → good () server now) :
    Works config good (invoke .notifyInputCapacity) server shared := by
  have hguard (now : Shared) (_ : Alert config watch io now) :
      guard config .notifyInputCapacity server now := hsound
  apply works_invoke hguard halert
  intro _ _ _ _ _ hnow hrespond
  cases Reply.unit?_map hrespond
  apply works_pure
  apply hgood
  exact { hnow with resume := fun _ _ => .inr (.inl rfl) }

/-- A loop is left with its budget spent, and then the thread wakes itself, or
with the inbox above the low watermark. -/
theorem works_yieldForWorkBudget (hsound : Sound config server)
    (halert : Alert config watch server.io shared)
    (hreason : budget = some 0 ∨ Alert config .always server.io shared) :
    Works config (fun _ after now => after = server ∧ Alert config .always server.io now)
      (yieldForWorkBudget budget) server shared := by
  rcases hreason with hspent | halways
  · apply works_get hsound halert
    intro now hnow
    split
    · apply works_notifyInputCapacity_last hsound hnow
      intro now hnow
      exact ⟨rfl, hnow⟩
    · next hphase =>
      apply works_pure
      refine ⟨rfl, hnow.of_stopped ?_⟩
      intro hrunning
      apply hphase
      rw [hrunning]
      exact ⟨hspent, by simp, by simp⟩
  · apply works_get hsound halways
    intro now hnow
    split
    · apply works_notifyInputCapacity_last hsound hnow
      intro _ hnow
      exact ⟨rfl, hnow⟩
    · exact works_pure ⟨rfl, hnow⟩

/-- What holds when a loop of `drainDeferredInput` is left: with `none` the
input is looked at again. -/
def Drained (config : ServerConfig) (watch : Watch) (emptied : IoState → Prop) :
    Option WorkBudget → Server → Shared → Prop
  | none, server, shared => Steady config none server ∧ Alert config .pauses server.io shared
  | some _, server, shared =>
    Steady config none server ∧ Alert config watch server.io shared ∧ emptied server.io

theorem works_yield_none {emptied : IoState → Prop}
    {inv : WorkBudget → Server → Shared → Prop} (hsteady : Steady config none server)
    (halert : Alert config watch server.io shared)
    (hreason : budget = some 0 ∨ Alert config .always server.io shared) (result : Watch) :
    Works config (Round inv (Drained config result emptied))
      (yieldForWorkBudget budget >>= fun _ => pure (.inr none)) server shared := by
  apply (works_yieldForWorkBudget hsteady.toSound halert hreason).bind
  rintro _ _ _ ⟨rfl, hnow⟩
  apply works_pure
  exact ⟨hsteady, hnow.of_always .pauses rfl⟩

/-- After a push the inbox is looked at: above the high watermark the loop is
left. -/
theorem works_inboxCheck {emptied : IoState → Prop}
    {inv : WorkBudget → Server → Shared → Prop} (hsteady : Steady config none server)
    (halert : Alert config watch server.io shared) (budget : WorkBudget)
    (hinv : ∀ now, Alert config watch server.io now → inv budget server now) (result : Watch) :
    Works config (Round inv (Drained config result emptied))
      (invoke .inboxSize >>= fun (size : ℕ) =>
        if size ≥ config.inboundHighWatermark then pure (.inr none)
        else pure (.inl budget)) server shared := by
  apply works_inboxSize hsteady.toSound halert
  intro now hnow
  split
  · next _ =>
    apply works_pure
    refine ⟨hsteady, ?_⟩
    have hresume : now.WillResume config := by
      have hlow := config.low_lt_high
      exact .inl (by omega)
    exact (hnow.of_willResume hresume).of_always .pauses rfl
  · exact works_pure (hinv now hnow)

/-! ## Deferred disconnects -/

theorem IoState.notePushed_popDeferredDisconnect (config : ServerConfig) (size id : ℕ)
    (io : IoState) :
    (io.popDeferredDisconnect id).notePushed config size =
      (io.notePushed config size).popDeferredDisconnect id := by
  unfold notePushed
  by_cases hpause : (io.readBackpressure.onInboundSize config size).1 = .pause
  · rw [if_pos hpause, if_pos, noteFull_eq, noteFull_eq]
    · rfl
    · exact hpause
  · rw [if_neg hpause, if_neg]
    exact hpause

theorem Steady.announceDeferred {session : Session} (hsteady : Steady config none server)
    (hsession : server.io.session? .deferred = some session)
    (hpeek : ∀ packet, session.codec.peekPacket ≠ .ok (some packet)) (size : ℕ) :
    Sound config (Server.update { server with pushed := server.pushed ++
          [disconnectedEvent session.id session.nextEventSequence] }
        (IoState.notePushed config size)) ∧
      Steady config none ((Server.update { server with pushed := server.pushed ++
            [disconnectedEvent session.id session.nextEventSequence] }
          (IoState.notePushed config size)).update
        (IoState.popDeferredDisconnect session.id)) := by
  have hheld := Sound.held hsession
  have hdelivered := (hsteady.tracks session hheld).disconnect hpeek
  have hpushed : Sound config { server with pushed := server.pushed ++
      [disconnectedEvent session.id session.nextEventSequence] } :=
    hsteady.toSound.push hdelivered
  refine ⟨hpushed.notePushed size, ?_⟩
  obtain ⟨_, hrest⟩ := List.head?_eq_some_iff.mp hsession
  obtain ⟨hpopped, hdetached⟩ := hsteady.popDeferredDisconnect hrest
  have hannounced : Steady config none
      { server.update (IoState.popDeferredDisconnect session.id) with
        pushed := server.pushed ++ [disconnectedEvent session.id session.nextEventSequence] } :=
    hpopped.push hdelivered hdetached.lt hdetached.gone
  have hnoted := hannounced.notePushed size
  have hsame := IoState.notePushed_popDeferredDisconnect config size session.id server.io
  unfold Server.update at hnoted ⊢
  rw [hsame] at hnoted
  exact hnoted

theorem works_announceDeferred {session : Session} (budget : WorkBudget)
    (hsteady : Steady config none server) (halert : Alert config .nothing server.io shared)
    (hsession : server.io.session? .deferred = some session)
    (hpeek : ∀ packet, session.codec.peekPacket ≠ .ok (some packet)) :
    Works config (Round
        (fun _ after now => Steady config none after ∧ Alert config .nothing after.io now)
        (Drained config .nothing fun io => io.deferredDisconnects = []))
      (announceDeferred config budget) server shared := by
  unfold announceDeferred
  split
  · next hspent => exact works_yield_none hsteady halert (.inl hspent) .nothing
  apply works_get hsteady.toSound halert
  intro now hnow
  rw [hsession]
  have hdelivered := (hsteady.tracks session (Sound.held hsession)).disconnect hpeek
  apply (works_enqueueDisconnected hsteady.toSound hnow hdelivered).bind
  intro enqueued _ now hpost
  cases enqueued with
  | none =>
    obtain ⟨rfl, hnow⟩ := hpost
    exact works_pure ⟨hsteady.noteFull, hnow.noteFull .pauses⟩
  | some =>
    obtain ⟨size, rfl, hnow, _⟩ := hpost
    obtain ⟨hsound, hpopped⟩ := hsteady.announceDeferred hsession hpeek size
    apply works_modify hsound hnow
    intro now hnow
    have hkept : Alert config .nothing ((server.io.notePushed config size
        ).popDeferredDisconnect session.id) now := by
      refine hnow.weaken ?_ fun _ hneeds => hneeds.elim
      exact server.io.notePushed_shutdownPhase config size
    exact works_inboxCheck hpopped hkept _ (fun now hnow => ⟨hpopped, hnow⟩) .nothing

theorem works_drainDeferredDisconnect
    (hsteady : Steady config none server) (halert : Alert config .nothing server.io shared) :
    Works config (Round
        (fun _ after now => Steady config none after ∧ Alert config .nothing after.io now)
        (Drained config .nothing fun io => io.deferredDisconnects = []))
      (drainDeferredDisconnect config budget) server shared := by
  apply works_get hsteady.toSound halert
  intro now hnow
  split
  · next hempty =>
    apply works_pure
    exact ⟨hsteady, hnow, List.isEmpty_iff.mp hempty⟩
  next hsome =>
  split
  · next hspent => exact works_yield_none hsteady hnow (.inl hspent) .nothing
  have hreading : Reading none .deferred server.io := by
    constructor
    · change server.io.deferredDisconnects.head? ≠ none
      rw [ne_eq, List.head?_eq_none_iff]
      intro hnone
      rw [hnone] at hsome
      exact hsome rfl
    · intro _ hplace
      cases hplace
  apply (works_enqueueDecodedPackets hsteady hnow hreading budget).bind
  rintro ⟨decoded, remaining⟩ _ _ ⟨⟨hafter, hnow, _, _, _⟩, hleaves⟩
  cases decoded with
  | stopped =>
    apply works_yield_none hafter hnow _ .nothing
    exact hleaves.imp id fun hfull => hfull.2
  | all =>
    obtain ⟨session, hsession, hpeek⟩ := hleaves
    apply works_announceDeferred remaining hafter hnow hsession
    intro packet hcomplete
    rw [hpeek] at hcomplete
    cases hcomplete
  | malformed =>
    obtain ⟨_, hsession, hpeek⟩ := hleaves
    apply works_announceDeferred remaining hafter hnow hsession
    intro _ hcomplete
    rw [hpeek] at hcomplete
    cases hcomplete

/-! ## Deferred reads -/

theorem Alert.deferReads (halert : Alert config watch io shared) (fds : List Fd) (set : Finset Fd) :
    Alert config watch { io with deferredReadFds := fds, deferredReadFdSet := set } shared := by
  refine halert.weaken ?_ ?_
  · rfl
  · intro _ hneeds
    cases watch with
    | nothing | deferrals | pauses | always => exact hneeds

theorem Steady.paused_of_deferred {fd : Fd} (hsteady : Steady config none server)
    (hin : fd ∈ server.io.deferredReadFdSet) : server.io.readsPaused = true := by
  by_cases hrunning : server.io.shutdownPhase = .running
  · exact hsteady.quiet.paused hrunning (Finset.ne_empty_of_mem hin)
  · exact hsteady.control.stopped hrunning

theorem works_drainDeferredRead
    (hsteady : Steady config none server) (halert : Alert config .deferrals server.io shared) :
    Works config (Round
        (fun _ after now => Steady config none after ∧ Alert config .deferrals after.io now)
        (Drained config .deferrals fun io => io.deferredReadFds = []))
      (drainDeferredRead config budget) server shared := by
  apply works_get hsteady.toSound halert
  intro now hnow
  cases hfds : server.io.deferredReadFds with
  | nil => exact works_pure ⟨hsteady, hnow, hfds⟩
  | cons fd =>
    dsimp only
    split
    · next hspent => exact works_yield_none hsteady hnow (.inl hspent) .deferrals
    split
    · next hstale =>
      rw [Option.isNone_iff_eq_none] at hstale
      apply works_modify hsteady.toSound hnow
      intro now hnow
      apply works_pure
      exact ⟨hsteady.popDeferredRead hfds hstale, hnow.deferReads _ _⟩
    next hfresh =>
    rw [not_or, not_not, Option.isNone_iff_eq_none] at hfresh
    obtain ⟨hin, hpresent⟩ := hfresh
    have hreading : Reading none (.live fd) server.io := by
      refine ⟨hpresent, ?_⟩
      intro other hplace
      cases hplace
      exact .inl hin
    apply (works_enqueueDecodedPackets hsteady hnow hreading budget).bind
    rintro ⟨decoded, remaining⟩ after now ⟨⟨hafter, hnow, _, honward, _⟩, hleaves⟩
    have htaken := hafter.takeDeferredRead (honward.reads.trans hfds)
    have hdraining : after.io.shutdownPhase ≠ .drainingOutput := by
      intro hphase
      have hempty := (hafter.drained hphase).2
      rw [honward.reads, hfds] at hempty
      cases hempty
    cases decoded with
    | stopped =>
      apply works_yield_none hafter hnow _ .deferrals
      exact hleaves.imp id fun hfull => hfull.2
    | malformed =>
      obtain ⟨session, hsession, hpeek⟩ := hleaves
      apply works_modify hafter.toSound hnow
      intro now hnow
      have hdisconnect : Works config (fun _ after now =>
          Steady config none after ∧ Alert config .deferrals after.io now)
          (disconnect config fd .protocolError)
          (after.update (takeDeferredRead fd)) now := by
        apply works_disconnect htaken (.inr rfl) (hnow.deferReads _ _) (by simp)
        intro other _ hother hcomplete
        change after.io.sessionsByFd.lookup fd = some other at hother
        change after.io.sessionsByFd.lookup fd = some session at hsession
        rw [hsession, Option.some.injEq] at hother
        rw [← hother, hpeek] at hcomplete
        cases hcomplete
      apply hdisconnect.bind
      rintro _ after now ⟨hafter, hnow⟩
      exact works_inboxCheck hafter hnow remaining (fun now hnow => ⟨hafter, hnow⟩) .deferrals
    | all =>
      obtain ⟨session, hsession, hpeek⟩ := hleaves
      have hidle (other : Session)
          (hother : after.io.sessionsByFd.lookup fd = some other) :
          other.codec.peekPacket = .ok none := by
        change after.io.sessionsByFd.lookup fd = some session at hsession
        rw [hsession, Option.some.injEq] at hother
        rw [← hother]
        exact hpeek
      have hread := htaken.finishRead hidle
      apply works_modify hafter.toSound hnow
      intro now hnow
      apply works_get hread.toSound (hnow.deferReads _ _)
      intro now hnow
      split
      · next hpeer =>
        have hpaused : remaining ≠ none → after.io.readsPaused = true := by
          intro _
          exact honward.paused (hsteady.paused_of_deferred hin)
        have hentitled (other : Session)
            (hother : after.io.sessionsByFd.lookup fd = some other) :
            other.peerReadClosed = true := by
          change (after.io.sessionsByFd.lookup fd).any Session.peerReadClosed = true at hpeer
          rw [hother] at hpeer
          exact hpeer
        apply (works_readSession hread hnow true remaining (fun _ => hidle) hpaused hdraining
          (.inr hentitled)).bind
        rintro _ _ _ hpost
        exact works_pure hpost
      · exact works_pure ⟨hread, hnow⟩

/-! ## All deferred input -/

namespace ReadBackpressureController

variable {controller : ReadBackpressureController} {size : ℕ}

theorem onCapacityAvailable_of_paused (hpaused : controller.paused = true)
    (hsize : size ≤ config.inboundLowWatermark) :
    controller.onCapacityAvailable config size = (.resume, ⟨false⟩) := by
  unfold onCapacityAvailable
  simp [hpaused, hsize]

theorem onCapacityAvailable_of_reading (hpaused : controller.paused = false) :
    controller.onCapacityAvailable config size = (.none, controller) := by
  unfold onCapacityAvailable
  simp [hpaused]

theorem onCapacityAvailable_of_high (hsize : config.inboundLowWatermark < size) :
    controller.onCapacityAvailable config size = (.none, controller) := by
  unfold onCapacityAvailable
  simp [hsize]

end ReadBackpressureController

theorem works_resumeIfDrained (hsteady : Steady config none server)
    (halert : Alert config .deferrals server.io shared)
    (hdisconnects : server.io.deferredDisconnects = []) (hreads : server.io.deferredReadFds = []) :
    Works config (fun _ after now =>
        (Steady config none after ∧ Alert config .pauses after.io now) ∧
          (after.io.shutdownPhase = .running ∨ after.io.Emptied))
      (resumeIfDrained config) server shared := by
  have hsound := hsteady.toSound
  have hemptied : server.io.Emptied := ⟨hdisconnects, hreads⟩
  apply works_inboxSize hsound halert
  intro now hnow
  -- the size that was read counts only as long as it decides that reads stay paused
  by_cases hlow : now.inbox.size ≤ config.inboundLowWatermark
  · apply works_get hsound hnow
    intro now hnow
    split
    · next hrunning =>
      apply works_modify hsound hnow
      intro now hnow
      cases hpaused : server.io.readBackpressure.paused with
      | true =>
        rw [ReadBackpressureController.onCapacityAvailable_of_paused hpaused hlow]
        have hresuming : Resuming config server := by
          refine ⟨hsteady, hrunning, ?_, hdisconnects, hreads⟩
          rw [hsteady.control.controller hrunning, hpaused]
        apply ((hresuming.works_resumeReads hnow).keepsPhase within_resumeReads).mono
        rintro _ _ now ⟨hafter, hphase⟩
        exact ⟨hafter, .inl (hphase.trans hrunning)⟩
      | false =>
        rw [ReadBackpressureController.onCapacityAvailable_of_reading hpaused]
        apply works_pure
        refine ⟨⟨hsteady, hnow.weaken rfl ?_⟩, .inr hemptied⟩
        intro _ hneeds
        change server.io.readsPaused = true at hneeds
        rw [hsteady.control.controller hrunning, hpaused] at hneeds
        cases hneeds
    · next hstopped =>
      apply works_pure
      exact ⟨⟨hsteady, (hnow.of_stopped hstopped).of_always .pauses rfl⟩, .inr hemptied⟩
  · have halways := hnow.of_willResume (.inl (not_le.mp hlow))
    apply works_get hsound halways
    intro now hnow
    split
    · apply works_modify hsound hnow
      intro _ hnow
      rw [ReadBackpressureController.onCapacityAvailable_of_high (not_le.mp hlow)]
      exact works_pure ⟨⟨hsteady, hnow.of_always .pauses rfl⟩, .inr hemptied⟩
    · exact works_pure ⟨⟨hsteady, hnow.of_always .pauses rfl⟩, .inr hemptied⟩

theorem works_drainDeferredInput (hsteady : Steady config none server)
    (halert : Alert config .nothing server.io shared) :
    Works config (fun drained after now =>
        (Steady config none after ∧ Alert config .pauses after.io now) ∧
          (drained = true → after.io.shutdownPhase = .running ∨ after.io.Emptied))
      (drainDeferredInput config) server shared := by
  have hdisconnects : Works config
      (Drained config .nothing fun io => io.deferredDisconnects = [])
      (loop (drainDeferredDisconnect config) (some deferredInputWorkLimit)) server shared := by
    apply works_loop hsteady.toSound halert
      (fun _ after now => Steady config none after ∧ Alert config .nothing after.io now)
    · intro _ after now hinv
      exact hinv.1.toSound
    · intro _ after now hinv
      exact works_drainDeferredDisconnect hinv.1 hinv.2
    · intro now hnow
      exact ⟨hsteady, hnow⟩
  apply hdisconnects.bind
  intro afterDisconnects after now hpost
  cases afterDisconnects with
  | none => exact works_pure ⟨hpost, by simp⟩
  | some remaining =>
    obtain ⟨hafter, hnow, hempty⟩ := hpost
    have hwatch : Alert config .deferrals after.io now := by
      refine hnow.weaken ?_ ?_
      · rfl
      · intro _ hneeds
        exact absurd hempty hneeds
    have hreads : Works config
        (Drained config .deferrals fun io => io.deferredReadFds = [])
        (loop (drainDeferredRead config) remaining) after now := by
      apply works_loop hafter.toSound hwatch
        (fun _ after now => Steady config none after ∧ Alert config .deferrals after.io now)
      · intro _ after now hinv
        exact hinv.1.toSound
      · intro _ after now hinv
        exact works_drainDeferredRead hinv.1 hinv.2
      · intro now hnow
        exact ⟨hafter, hnow⟩
    apply hreads.bind
    intro afterReads after now hpost
    cases afterReads with
    | none => exact works_pure ⟨hpost, by simp⟩
    | some =>
      obtain ⟨hafter, hnow, hread⟩ := hpost
      apply works_get hafter.toSound hnow
      intro now hnow
      split
      · next hsome =>
        apply works_pure
        refine ⟨⟨hafter, hnow.weaken rfl ?_⟩, by simp⟩
        intro _ _ hempty
        rw [hempty] at hsome
        cases hsome
      · next hsome =>
        have hempty : after.io.deferredDisconnects = [] := by
          simpa using hsome
        apply (works_resumeIfDrained hafter hnow hempty hread).bind
        rintro _ _ _ ⟨hafter, hemptied⟩
        exact works_pure ⟨hafter, fun _ => hemptied⟩

end SessionServer.TcpServer
