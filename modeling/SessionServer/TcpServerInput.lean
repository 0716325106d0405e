import SessionServer.TcpServerCalls

/-!
# Reading and disconnecting
-/

namespace SessionServer.TcpServer

open Protocol InteractionProgram IoState

variable {config : ServerConfig} {watch : Watch} {io : IoState} {shared : Shared}
  {server : Server} {feeding : Option Fd} {α : Type} {good : α → Server → Shared → Prop}
variable {fd : Fd} {session : Session}

/-! ## Calls at the end -/

section Last

variable {good : Unit → Server → Shared → Prop} (hsound : Sound config server)
  (halert : Alert config watch io shared)
include hsound halert

theorem works_modify_last {update : IoState → IoState} [KeepsPhase update]
    (hgood : ∀ now, Alert config watch io now → good () (server.update update) now) :
    Works config good (modify update) server shared := by
  apply works_modify hsound halert
  intro now hnow
  exact works_pure (hgood now hnow)

theorem works_close_last
    (hgood : ∀ now, Alert config watch io now →
      good () { server with openFds := server.openFds.erase fd } now) :
    Works config good (invoke (.close fd)) server shared := by
  apply works_close hsound halert
  intro now hnow
  exact works_pure (hgood now hnow)

end Last

/-! ## Pausing -/

section Pausing

variable (hsound : Sound config server) (halert : Alert config watch io shared)
include hsound halert

theorem works_updateInterest (fd : Fd) :
    Works config (fun _ after now => after = server ∧ Alert config watch io now)
      (updateInterest fd) server shared := by
  apply works_get hsound halert
  intro now hnow
  split
  · exact works_pure ⟨rfl, hnow⟩
  split
  · exact works_pure ⟨rfl, hnow⟩
  · apply works_ask hsound hnow rfl
    intro _ _ hnow
    split
    · exact works_pure ⟨rfl, hnow⟩
    · exact works_raise hsound hnow (by simp [limitException])

theorem works_forEach_updateInterest (fds : List Fd) :
    Works config (fun _ after now => after = server ∧ Alert config watch io now)
      (forEach updateInterest fds) server shared := by
  apply works_forEach _ fds ⟨rfl, halert⟩
  rintro fd _ _ ⟨rfl, hnow⟩
  exact works_updateInterest hsound hnow fd

theorem works_updateInterests :
    Works config (fun _ after now => after = server ∧ Alert config watch io now)
      updateInterests server shared := by
  apply works_ask hsound halert rfl
  intro fds _ hnow
  exact works_forEach_updateInterest hsound hnow fds

theorem works_removeListener :
    Works config
      (fun _ after now => after = server.update dropListener ∧ Alert config watch io now)
      removeListener server shared := by
  apply works_get hsound halert
  intro now hnow
  apply works_onlyIf
  · intro _
    apply works_ask hsound hnow rfl
    intro _ _ hnow
    apply works_modify_last hsound hnow
    intro _ hnow
    exact ⟨rfl, hnow⟩
  · intro hdropped
    refine ⟨?_, hnow⟩
    unfold Server.update
    rw [dropListener_of_dropped (Bool.not_eq_true _ ▸ hdropped)]

theorem works_pauseReads :
    Works config (fun _ after now =>
        after = server.update
            (fun io => if io.readsPaused then io else io.pause.dropListener) ∧
          Alert config watch io now)
      pauseReads server shared := by
  apply works_get hsound halert
  intro now hnow
  split
  · next hpaused =>
    apply works_pure
    refine ⟨?_, hnow⟩
    simp [Server.update, hpaused]
  · next hpaused =>
    apply works_modify hsound hnow
    intro now hnow
    apply (works_removeListener hsound.pause hnow).bind
    rintro _ after now ⟨rfl, hnow⟩
    apply (works_updateInterests hsound.pause.dropListener hnow).mono
    rintro _ _ _ ⟨rfl, hnow⟩
    refine ⟨?_, hnow⟩
    simp [Server.update, hpaused]

theorem works_onInboundSize (size : ℕ) :
    Works config (fun transition after now =>
        transition = (server.io.readBackpressure.onInboundSize config size).1 ∧
          after = server.update (setBackpressure
            (server.io.readBackpressure.onInboundSize config size).2) ∧
          Alert config watch io now)
      (onInboundSize config size) server shared := by
  apply works_get hsound halert
  intro now hnow
  apply works_modify hsound hnow
  intro _ hnow
  exact works_pure ⟨rfl, rfl, hnow⟩

theorem works_onInboundFull :
    Works config (fun _ after now =>
        after = server.update noteFull ∧ Alert config watch io now)
      (onInboundFull config) server shared := by
  apply (works_onInboundSize hsound halert _).bind
  rintro _ after now ⟨_, rfl, hnow⟩
  rw [ReadBackpressureController.onInboundSize_of_high _ config.high_le_capacity]
  apply (works_pauseReads (hsound.setBackpressure _) hnow).mono
  rintro _ _ _ ⟨rfl, hnow⟩
  exact ⟨rfl, hnow⟩

theorem works_onInboundPushed (size : ℕ) :
    Works config (fun _ after now =>
        after = server.update (notePushed config size) ∧ Alert config watch io now)
      (onInboundPushed config size) server shared := by
  apply (works_onInboundSize hsound halert size).bind
  rintro _ after now ⟨rfl, rfl, hnow⟩
  by_cases hpause : (server.io.readBackpressure.onInboundSize config size).1 = .pause
  · rw [if_pos hpause]
    have htrue : (server.io.readBackpressure.onInboundSize config size).2 = ⟨true⟩ := by
      by_cases hsize : config.inboundHighWatermark ≤ size
      · exact ReadBackpressureController.onInboundSize_of_high _ hsize
      · rw [ReadBackpressureController.onInboundSize_of_low _ (not_le.mp hsize)] at hpause
        cases hpause
    rw [htrue]
    apply (works_pauseReads (hsound.setBackpressure _) hnow).mono
    rintro _ _ _ ⟨rfl, hnow⟩
    refine ⟨?_, hnow⟩
    unfold Server.update notePushed
    rw [if_pos hpause]
    rfl
  · rw [if_neg hpause]
    apply works_pure
    refine ⟨?_, hnow⟩
    have hsame : (server.io.readBackpressure.onInboundSize config size).2 =
        server.io.readBackpressure := by
      unfold ReadBackpressureController.onInboundSize at hpause ⊢
      split
      · next hhigh =>
        rw [if_pos hhigh] at hpause
        exact absurd rfl hpause
      · rfl
    rw [hsame]
    unfold Server.update notePushed
    rw [if_neg hpause]
    rfl

end Pausing

/-! ## What the updates mean for the watch -/

theorem Alert.noteFull (halert : Alert config .always io shared) (watch : Watch) :
    Alert config watch io.noteFull shared := by
  apply halert.of_always watch
  rw [io.noteFull_eq]

theorem IoState.notePushed_of_low {size : ℕ} (hsize : size < config.inboundHighWatermark)
    (io : IoState) : io.notePushed config size = io := by
  unfold notePushed
  rw [ReadBackpressureController.onInboundSize_of_low _ hsize]
  rfl

theorem IoState.notePushed_shutdownPhase (config : ServerConfig) (size : ℕ) (io : IoState) :
    (io.notePushed config size).shutdownPhase = io.shutdownPhase := by
  unfold notePushed
  split
  · rw [io.noteFull_eq]
  · rfl

theorem Alert.notePushed {size : ℕ} (halert : Alert config watch io shared)
    (hhigh : config.inboundHighWatermark ≤ size → Alert config .always io shared) :
    Alert config watch (io.notePushed config size) shared := by
  by_cases hsize : config.inboundHighWatermark ≤ size
  · exact (hhigh hsize).of_always watch (io.notePushed_shutdownPhase config size)
  · rw [io.notePushed_of_low (not_le.mp hsize)]
    exact halert

/-! ## Disconnecting -/

theorem works_enqueueDisconnected (hsound : Sound config server)
    (halert : Alert config watch io shared)
    (hdelivered : Delivered session.id (server.received session.id)
      (eventsFor server.pushed session.id ++
        [disconnectedEvent session.id session.nextEventSequence])) :
    Works config (fun enqueued after now =>
        match enqueued with
        | none => after = server.update noteFull ∧ Alert config .always io now
        | some _ => ∃ size,
            after = Server.update { server with
              pushed := server.pushed ++
                [disconnectedEvent session.id session.nextEventSequence] }
              (notePushed config size) ∧
            Alert config watch io now ∧
            (config.inboundHighWatermark ≤ size → Alert config .always io now))
      (enqueueDisconnected config session) server shared := by
  apply works_tryPush hsound halert
  · intro size now hnow
    apply (works_onInboundFull hsound hnow).bind
    rintro _ after now ⟨rfl, hnow⟩
    exact works_pure ⟨rfl, hnow⟩
  · intro size now hnow hhigh
    have hpushed : Sound config { server with pushed := server.pushed ++
        [disconnectedEvent session.id session.nextEventSequence] } := hsound.push hdelivered
    by_cases hsize : config.inboundHighWatermark ≤ size
    · apply (works_onInboundPushed hpushed (hhigh hsize) size).bind
      rintro _ after now ⟨rfl, hnow⟩
      exact works_pure ⟨size, rfl, hnow.of_always watch rfl, fun _ => hnow⟩
    · apply (works_onInboundPushed hpushed hnow size).bind
      rintro _ after now ⟨rfl, hnow⟩
      exact works_pure ⟨size, rfl, hnow, fun hhigh => absurd hhigh hsize⟩

theorem works_deferDisconnected (hsound : Sound config server)
    (halert : Alert config watch io shared) (hdetached : Detached server session)
    (hlimit : server.io.deferredDisconnects.length < config.maxSessions) :
    Works config (fun _ after now =>
        after = server.update (deferDisconnect session) ∧ Alert config watch io now)
      (deferDisconnected config session) server shared := by
  apply works_get hsound halert
  intro now hnow
  rw [if_neg (hdetached.not_deferred hsound.deferrals), if_neg (not_le.mpr hlimit)]
  apply works_modify_last hsound hnow
  intro _ hnow
  exact ⟨rfl, hnow⟩

theorem Detached.noteFull (hdetached : Detached server session) :
    Detached (server.update noteFull) session := by
  have hnoted := server.io.noteFull_eq
  constructor
  · change session.id < server.io.noteFull.nextSessionId
    rw [hnoted]
    exact hdetached.lt
  · change server.io.noteFull.fdBySession.lookup session.id = none
    rw [hnoted]
    exact hdetached.apart
  · intro other hheld
    change server.io.noteFull.Holds other at hheld
    rw [hnoted] at hheld
    exact hdetached.gone other hheld
  · exact hdetached.bounded

/-- What `disconnect` does with a session that is out of the tables. -/
structure Closing (config : ServerConfig) (server : Server) (session : Session) : Prop where
  steady : Steady config none server
  detached : Detached server session
  tracks : session.Tracks (server.received session.id) (eventsFor server.pushed session.id)
  limit : server.io.sessionCount + server.io.deferredDisconnects.length < config.maxSessions

theorem Closing.length_lt (hclosing : Closing config server session) :
    server.io.deferredDisconnects.length < config.maxSessions := by
  have hlimit := hclosing.limit
  omega

theorem Closing.noteFull (hclosing : Closing config server session) :
    Closing config (server.update noteFull) session where
  steady := hclosing.steady.noteFull
  detached := hclosing.detached.noteFull
  tracks := hclosing.tracks
  limit := by
    change server.io.noteFull.sessionCount + server.io.noteFull.deferredDisconnects.length < _
    rw [server.io.noteFull_eq]
    exact hclosing.limit

theorem Closing.works_defer (hclosing : Closing config server session)
    (halert : Alert config watch io shared)
    (hpaused : server.io.shutdownPhase = .running → server.io.readsPaused = true)
    (hphase : server.io.shutdownPhase ≠ .drainingOutput) :
    Works config (fun _ after now =>
        Steady config none after ∧ after.io = server.io.deferDisconnect session ∧
          Alert config watch io now)
      (deferDisconnected config session) server shared := by
  apply (works_deferDisconnected hclosing.steady.toSound halert hclosing.detached
    hclosing.length_lt).mono
  rintro _ _ _ ⟨rfl, hnow⟩
  exact ⟨hclosing.steady.deferDisconnect hclosing.detached hclosing.limit hpaused hphase
    hclosing.tracks, rfl, hnow⟩

theorem Closing.works_announce
    (hclosing : Closing config server session) (halert : Alert config watch server.io shared)
    (hphase : server.io.shutdownPhase ≠ .drainingOutput)
    (hcomplete : ∀ packet, session.codec.peekPacket = .ok (some packet) →
      server.io.readsPaused = true ∧ watch ≠ .deferrals) :
    Works config (fun _ after now =>
        Steady config none after ∧ Alert config watch after.io now)
      (announceDisconnected config session) server shared := by
  unfold announceDisconnected
  split
  · next hcompleted =>
    obtain ⟨packet, hpeek⟩ := Session.hasCompletedPacket_iff.mp hcompleted
    obtain ⟨hpaused, hwatch⟩ := hcomplete packet hpeek
    apply (hclosing.works_defer halert (fun _ => hpaused) hphase).mono
    rintro _ after now ⟨hsteady, hafter, hnow⟩
    refine ⟨hsteady, ?_⟩
    rw [hafter]
    refine hnow.weaken ?_ ?_
    · rfl
    · intro _ hneeds
      cases watch with
      | deferrals => exact absurd rfl hwatch
      | nothing | pauses | always => exact hneeds
  · next hcompleted =>
    have hpeek (packet : Packet) : session.codec.peekPacket ≠ .ok (some packet) := by
      intro hpeek
      exact hcompleted (Session.hasCompletedPacket_iff.mpr ⟨packet, hpeek⟩)
    have hdelivered := hclosing.tracks.disconnect hpeek
    apply (works_enqueueDisconnected hclosing.steady.toSound halert hdelivered).bind
    intro enqueued after now hpost
    cases enqueued with
    | none =>
      obtain ⟨rfl, hnow⟩ := hpost
      have hstill : server.io.noteFull.shutdownPhase ≠ .drainingOutput := by
        rw [server.io.noteFull_eq]
        exact hphase
      apply (hclosing.noteFull.works_defer hnow
        (fun _ => server.io.noteFull_readsPaused) hstill).mono
      rintro _ _ _ ⟨hsteady, hafter, hnow⟩
      refine ⟨hsteady, ?_⟩
      rw [hafter]
      exact (hnow.noteFull .always).of_always watch rfl
    | some =>
      obtain ⟨size, rfl, hnow, hhigh⟩ := hpost
      apply works_pure
      have hpushed : Steady config none { server with pushed := server.pushed ++
          [disconnectedEvent session.id session.nextEventSequence] } :=
        hclosing.steady.push hdelivered hclosing.detached.lt hclosing.detached.gone
      exact ⟨hpushed.notePushed size, hnow.notePushed hhigh⟩

/-- A session is taken out of the tables and announced; without it the thread is
steady. -/
theorem works_disconnectSession {reason : DisconnectReason}
    (hsound : Sound config server) (hlookup : server.io.sessionsByFd.lookup fd = some session)
    (hremoved : Steady config none (server.update (unregister fd session)))
    (htracks : session.Tracks (server.received session.id) (eventsFor server.pushed session.id))
    (halert : Alert config watch server.io shared)
    (hreason : reason = .closeAfterFlush → Flushed server session.id)
    (hcomplete : ∀ packet, session.codec.peekPacket = .ok (some packet) →
      server.io.shutdownPhase = .running → server.io.readsPaused = true ∧ watch ≠ .deferrals) :
    Works config (fun _ after now =>
        Steady config none after ∧ Alert config watch after.io now)
      (disconnect config fd reason) server shared := by
  have hgone : (server.io.unregister fd session).sessionsByFd.lookup fd = none := by
    rw [lookup_unregister, if_pos rfl]
  have hcount := sessionCount_unregister hlookup
  have hlimit := hsound.deferrals.limit
  have hdetached := hsound.detached hlookup
  have hclosing : Closing config { server.update (unregister fd session) with
      openFds := server.openFds.erase fd } session := by
    refine ⟨hremoved.close hgone,
      ⟨hdetached.lt, hdetached.apart, hdetached.gone, hdetached.bounded⟩, htracks, ?_⟩
    change (server.io.unregister fd session).sessionCount +
      server.io.deferredDisconnects.length < config.maxSessions
    omega
  apply works_get hsound halert
  intro now hnow
  rw [hlookup]
  apply works_recordDisconnect hsound hnow
  · intro hflush _ hother
    rw [hlookup, Option.some.injEq] at hother
    rw [← hother]
    exact hreason hflush
  intro now hnow
  apply works_modify hsound hnow
  intro now hnow
  apply works_ask (hsound.detach hlookup) hnow rfl
  intro _ now hnow
  apply works_close (hsound.detach hlookup) hnow
  intro now hnow
  apply works_modify ((hsound.detach hlookup).opens _) hnow
  intro now hnow
  have hkept : Alert config watch (server.io.unregister fd session) now := by
    refine hnow.weaken ?_ ?_
    · rfl
    · intro _ hneeds
      cases watch with
      | nothing | deferrals | pauses | always => exact hneeds
  split
  · next hphase =>
    have hstopped : server.io.shutdownPhase ≠ .running := by
      rw [hphase]
      simp
    have hdraining : server.io.shutdownPhase ≠ .drainingOutput := by
      rw [hphase]
      simp
    apply (hclosing.works_defer hkept (fun hrunning => absurd hrunning hstopped) hdraining).mono
    rintro _ _ _ ⟨hafter, hio, hnow⟩
    refine ⟨hafter, ?_⟩
    rw [hio]
    refine hnow.weaken ?_ ?_
    · rfl
    · intro hrunning
      exact absurd hrunning hstopped
  split
  · exact works_pure ⟨hclosing.steady, hkept⟩
  · next hphase =>
    rw [not_not] at hphase
    have hdraining : server.io.shutdownPhase ≠ .drainingOutput := by
      rw [hphase]
      simp
    apply hclosing.works_announce hkept hdraining
    intro packet hpeek
    exact hcomplete packet hpeek hphase

/-- Disconnecting keeps the thread steady.  A session with a complete frame may
be disconnected only while reads are paused. -/
theorem works_disconnect {reason : DisconnectReason}
    (hsteady : Steady config feeding server) (hfeeding : feeding = none ∨ feeding = some fd)
    (halert : Alert config watch server.io shared)
    (hreason : reason = .closeAfterFlush → ∀ session,
      server.io.sessionsByFd.lookup fd = some session → Flushed server session.id)
    (hcomplete : ∀ session packet, server.io.sessionsByFd.lookup fd = some session →
      session.codec.peekPacket = .ok (some packet) → feeding = none ∧ watch ≠ .deferrals) :
    Works config (fun _ after now =>
        Steady config none after ∧ Alert config watch after.io now)
      (disconnect config fd reason) server shared := by
  cases hlookup : server.io.sessionsByFd.lookup fd with
  | none =>
    apply works_get hsteady.toSound halert
    intro _ hnow
    rw [hlookup]
    apply works_pure
    refine ⟨?_, hnow⟩
    rcases hfeeding with rfl | rfl
    · exact hsteady
    · apply hsteady.finishRead
      intro session hsession
      rw [hlookup] at hsession
      cases hsession
  | some session =>
    apply works_disconnectSession hsteady.toSound hlookup
      (hsteady.unregister hfeeding hlookup) (hsteady.tracks session (.inl ⟨fd, hlookup⟩)) halert
      fun hflush => hreason hflush session hlookup
    intro packet hpeek hrunning
    obtain ⟨hnone, hwatch⟩ := hcomplete session packet hlookup hpeek
    refine ⟨?_, hwatch⟩
    -- a complete frame is in the codec only of a deferred descriptor
    apply hsteady.quiet.paused hrunning
    intro hempty
    have hidle := hsteady.quiet.idle fd session hlookup
    rw [hempty, hnone, hpeek] at hidle
    simp at hidle

end SessionServer.TcpServer
