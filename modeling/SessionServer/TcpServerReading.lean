import SessionServer.TcpServerInput

/-!
# Decoding and receiving

A packet is pushed before it is consumed, so that the codec of a session always
holds what was received and not pushed.  When the loop stops early, either its
budget is spent or reads are paused with the inbox above the low watermark.
-/

namespace SessionServer.TcpServer

open Protocol InteractionProgram FiniteMap

variable {config : ServerConfig} {watch : Watch} {shared : Shared} {server : Server}
  {feeding : Option Fd}
variable {io : IoState} {place : SessionPlace} {session : Session} {fd : Fd}

/-! ## The session that is read -/

namespace IoState

theorem session?_setSession (session : Session) :
    (io.setSession place session).session? place = some session := by
  cases place with
  | live => exact Finmap.lookup_insert _
  | deferred => rfl

end IoState

/-- The session is there, and if it is live it may hold complete frames. -/
structure Reading (feeding : Option Fd) (place : SessionPlace) (io : IoState) : Prop where
  present : io.session? place ≠ none
  excused : ∀ fd, place = .live fd → fd ∈ io.deferredReadFdSet ∨ feeding = some fd

/-- What the updates of the loop leave alone. -/
structure Onward (before after : IoState) : Prop where
  reads : after.deferredReadFds = before.deferredReadFds
  paused : before.readsPaused = true → after.readsPaused = true
  phase : after.shutdownPhase = before.shutdownPhase
  peers : ∀ fd session, before.sessionsByFd.lookup fd = some session →
    ∃ still, after.sessionsByFd.lookup fd = some still ∧
      still.peerReadClosed = session.peerReadClosed

theorem Onward.refl (io : IoState) : Onward io io :=
  ⟨rfl, id, rfl, fun _ session hlookup => ⟨session, hlookup, rfl⟩⟩

theorem Onward.trans {before middle after : IoState} (hfirst : Onward before middle)
    (hsecond : Onward middle after) : Onward before after where
  reads := hsecond.reads.trans hfirst.reads
  paused := hsecond.paused ∘ hfirst.paused
  phase := hsecond.phase.trans hfirst.phase
  peers := by
    intro fd session hlookup
    obtain ⟨there, hthere, hpeer⟩ := hfirst.peers fd session hlookup
    obtain ⟨still, hstill, hsame⟩ := hsecond.peers fd there hthere
    exact ⟨still, hstill, hsame.trans hpeer⟩

theorem Onward.noteFull (io : IoState) : Onward io io.noteFull := by
  rw [io.noteFull_eq]
  exact ⟨rfl, fun _ => rfl, rfl, fun _ session hlookup => ⟨session, hlookup, rfl⟩⟩

theorem Onward.notePushed (config : ServerConfig) (size : ℕ) (io : IoState) :
    Onward io (io.notePushed config size) := by
  unfold IoState.notePushed
  split
  · exact .noteFull io
  · exact .refl io

theorem Onward.setSession {after : Session} (hsession : io.session? place = some session)
    (hpeer : after.peerReadClosed = session.peerReadClosed) :
    Onward io (io.setSession place after) := by
  cases place with
  | live fd =>
    refine ⟨rfl, id, rfl, ?_⟩
    intro other same hlookup
    change ∃ still, (io.sessionsByFd.insert fd after).lookup other = some still ∧ _
    rw [lookup_insert_ite]
    split
    · next hother =>
      rw [hother] at hlookup
      cases hsession.symm.trans hlookup
      exact ⟨after, rfl, hpeer⟩
    · exact ⟨same, hlookup, rfl⟩
  | deferred => exact ⟨rfl, id, rfl, fun _ same hlookup => ⟨same, hlookup, rfl⟩⟩

theorem Reading.noteFull
    (hreading : Reading feeding place io) : Reading feeding place io.noteFull := by
  rw [io.noteFull_eq]
  constructor
  · have hpresent := hreading.present
    cases place with
    | live | deferred => exact hpresent
  · exact hreading.excused

theorem Reading.notePushed
    (hreading : Reading feeding place io) (config : ServerConfig) (size : ℕ) :
    Reading feeding place (io.notePushed config size) := by
  unfold IoState.notePushed
  split
  · exact hreading.noteFull
  · exact hreading

theorem Reading.setSession (hreading : Reading feeding place io) (session : Session) :
    Reading feeding place (io.setSession place session) := by
  constructor
  · rw [IoState.session?_setSession]
    simp
  · cases place with
    | live | deferred => exact hreading.excused

theorem Alert.setSession
    (halert : Alert config watch io shared) (hpresent : io.session? place ≠ none)
    (session : Session) : Alert config watch (io.setSession place session) shared := by
  cases place with
  | live =>
    refine halert.weaken ?_ ?_
    · rfl
    · intro _ hneeds
      cases watch with
      | nothing | deferrals | pauses | always => exact hneeds
  | deferred =>
    refine halert.weaken ?_ ?_
    · rfl
    · intro _ hneeds
      cases watch with
      | deferrals =>
        intro hempty
        apply hpresent
        change io.deferredDisconnects.head? = none
        rw [hempty]
        rfl
      | nothing | pauses | always => exact hneeds

theorem Alert.deferRead (halert : Alert config watch io shared) (fd : Fd) :
    Alert config watch (io.deferRead fd) shared := by
  unfold IoState.deferRead
  split
  · exact halert
  · refine halert.weaken ?_ ?_
    · rfl
    · intro _ hneeds
      cases watch with
      | nothing | deferrals | pauses | always => exact hneeds

/-! ## Decoding -/

/-- How `enqueueDecodedPackets` leaves a session. -/
def Decoded.Leaves (config : ServerConfig) (place : SessionPlace) (server : Server)
    (shared : Shared) : Decoded → WorkBudget → Prop
  | .all, _ => ∃ session, server.io.session? place = some session ∧
      session.codec.peekPacket = .ok none
  | .stopped, budget => budget = some 0 ∨
      server.io.readsPaused = true ∧ Alert config .always server.io shared
  | .malformed error, _ => ∃ session, server.io.session? place = some session ∧
      session.codec.peekPacket = .error error

/-- The invariant of the loop of `enqueueDecodedPackets`. -/
structure Decoding (config : ServerConfig) (feeding : Option Fd) (watch : Watch)
    (place : SessionPlace) (before : IoState) (budget : WorkBudget) (remaining : WorkBudget)
    (server : Server) (shared : Shared) : Prop where
  steady : Steady config feeding server
  alert : Alert config watch server.io shared
  reading : Reading feeding place server.io
  onward : Onward before server.io
  budget_none : budget = none → remaining = none

theorem Steady.commitPacket {packet : Packet}
    {codec : PacketCodec} (hsteady : Steady config feeding server)
    (hreading : Reading feeding place server.io)
    (hsession : server.io.session? place = some session)
    (hpeek : session.codec.peekPacket = .ok (some packet))
    (hconsume : session.codec.consumePacket = .ok codec) :
    Sound config { server with pushed := server.pushed ++
        [packetEvent session.id packet session.nextEventSequence] } ∧
      Steady config feeding (Server.update { server with pushed := server.pushed ++
          [packetEvent session.id packet session.nextEventSequence] }
        (IoState.setSession place { session with codec }.commitEventSequence)) := by
  have hheld := Sound.held hsession
  have htracks := (hsteady.tracks session hheld).push hpeek hconsume
  have hbound := (Session.bufferedByteCount_consume hpeek hconsume).trans
    (hsteady.bounded session hheld)
  have hevents : eventsFor (server.pushed ++
      [packetEvent session.id packet session.nextEventSequence]) session.id =
      eventsFor server.pushed session.id ++
        [packetEvent session.id packet session.nextEventSequence] := by
    rw [eventsFor_append]
    exact if_pos rfl
  refine ⟨hsteady.toSound.push htracks.delivered, ?_⟩
  have hid : ({ session with codec } : Session).commitEventSequence.id = session.id := rfl
  apply hsteady.setSession hsession hid rfl hbound
  · intro id hid
    refine ⟨rfl, ?_, rfl, rfl⟩
    rw [eventsFor_append, if_neg]
    exact fun hsame => hid hsame.symm
  · rw [hevents]
    exact htracks
  · exact hsteady.outbound session.id
  · intro fd hplace
    rw [hplace] at hsession
    exact (hsteady.writes fd session hsession).congr rfl rfl
  · intro fd hplace hout hother
    rcases hreading.excused fd hplace with hin | hfeeding
    · exact absurd hin hout
    · exact absurd hfeeding.symm hother
  · intro _ hother
    exact hother

theorem works_enqueueDecodedPacket {before : IoState} {budget remaining : WorkBudget}
    (hdecoding : Decoding config feeding watch place before budget remaining server shared) :
    Works config (Round (Decoding config feeding watch place before budget)
        fun result after now =>
          Decoding config feeding watch place before budget result.2 after now ∧
            result.1.Leaves config place after now result.2)
      (enqueueDecodedPacket config place remaining) server shared := by
  obtain ⟨hsteady, halert, hreading, honward, hbudget⟩ := hdecoding
  have hsound := hsteady.toSound
  apply works_get hsound halert
  intro now hnow
  cases hsession : server.io.session? place with
  | none => exact absurd hsession hreading.present
  | some session =>
    dsimp only
    cases hpeek : session.codec.peekPacket with
    | error =>
      apply works_pure
      exact ⟨⟨hsteady, hnow, hreading, honward, hbudget⟩, session, hsession, hpeek⟩
    | ok peeked =>
      cases peeked with
      | none =>
        apply works_pure
        exact ⟨⟨hsteady, hnow, hreading, honward, hbudget⟩, session, hsession, hpeek⟩
      | some =>
        dsimp only
        split
        · next hspent =>
          apply works_pure
          exact ⟨⟨hsteady, hnow, hreading, honward, hbudget⟩, .inl hspent⟩
        · apply works_tryPush hsound hnow
          · intro size now hnow
            apply (works_onInboundFull hsound hnow).bind
            rintro _ after now ⟨rfl, hnow⟩
            apply works_pure
            exact ⟨⟨hsteady.noteFull, hnow.noteFull watch, hreading.noteFull,
              honward.trans (.noteFull _), hbudget⟩,
              .inr ⟨server.io.noteFull_readsPaused, hnow.noteFull .always⟩⟩
          · intro size now hnow hhigh
            obtain ⟨codec, hconsume, _⟩ := Session.consume_of_peek hpeek
            obtain ⟨hpushed, hcommitted⟩ :=
              hsteady.commitPacket hreading hsession hpeek hconsume
            have hset := hreading.setSession ({ session with codec } : Session).commitEventSequence
            have hpeer : ({ session with codec } : Session
                ).commitEventSequence.peerReadClosed = session.peerReadClosed := rfl
            have hafter : Onward before _ := honward.trans
              ((Onward.setSession hsession hpeer).trans (.notePushed config size _))
            have hspend : budget = none → remaining.spend = none := by
              intro hnone
              rw [hbudget hnone]
              rfl
            rw [hconsume]
            by_cases hsize : config.inboundHighWatermark ≤ size
            · apply works_modify hpushed (hhigh hsize)
              intro now hnow
              apply (works_onInboundPushed hcommitted.toSound hnow size).bind
              rintro _ after now ⟨rfl, hnow⟩
              rw [if_pos hsize]
              have halways : Alert config .always ((server.io.setSession place
                  ({ session with codec } : Session).commitEventSequence).notePushed
                  config size) now :=
                (hnow.setSession hreading.present _).notePushed
                  fun _ => hnow.setSession hreading.present _
              apply works_pure
              exact ⟨⟨hcommitted.notePushed size, halways.of_always watch rfl,
                hset.notePushed config size, hafter, hspend⟩,
                .inr ⟨hcommitted.notePushed_readsPaused hsize, halways⟩⟩
            · apply works_modify hpushed hnow
              intro now hnow
              apply (works_onInboundPushed hcommitted.toSound hnow size).bind
              rintro _ _ _ ⟨rfl, hnow⟩
              rw [if_neg hsize]
              apply works_pure
              exact ⟨hcommitted.notePushed size,
                (hnow.setSession hreading.present _).notePushed fun hhigh => absurd hhigh hsize,
                hset.notePushed config size, hafter, hspend⟩

/-- Decoding leaves the thread steady, with the session at its place. -/
theorem works_enqueueDecodedPackets (hsteady : Steady config feeding server)
    (halert : Alert config watch server.io shared)
    (hreading : Reading feeding place server.io) (budget : WorkBudget) :
    Works config (fun result after now =>
        Decoding config feeding watch place server.io budget result.2 after now ∧
          result.1.Leaves config place after now result.2)
      (enqueueDecodedPackets config place budget) server shared := by
  apply works_loop hsteady.toSound halert (Decoding config feeding watch place server.io budget)
  · intro remaining after now hdecoding
    exact hdecoding.steady.toSound
  · intro _ _ now hdecoding
    exact works_enqueueDecodedPacket hdecoding
  · intro _ hnow
    exact ⟨hsteady, hnow, hreading, .refl _, id⟩

/-! ## Receiving -/

theorem works_recv {α : Type} {good : α → Server → Shared → Prop}
    {rest : RecvResult → Io α} (hsound : Sound config server)
    (halert : Alert config watch io shared)
    (hentitled : server.io.shutdownPhase = .running ∨
      ∀ session, server.io.sessionsByFd.lookup fd = some session → session.peerReadClosed = true)
    (hrest : ∀ received now, (∀ bytes, received = .data bytes → bytes.length ≤ 4096) →
      Alert config watch io now →
      Works config good (rest received) (server.receive fd received) now) :
    Works config good (invoke (.recv fd) >>= rest) server shared := by
  have hguard (now : Shared) (_ : Alert config watch io now) :
      guard config (.recv fd) server now := ⟨hsound, hentitled⟩
  apply works_invoke hguard halert
  intro _ reply answer _ _ hnow hrespond
  simp only [respond, Option.map_eq_some_iff, Prod.mk.injEq] at hrespond
  obtain ⟨received, hreceived, rfl, rfl, rfl⟩ := hrespond
  apply hrest received _ _ hnow
  rintro _ rfl
  cases reply with
  | received answer =>
    cases answer with
    | data data =>
      simp only [Reply.received?] at hreceived
      split at hreceived
      · cases hreceived
      · next hsize =>
        simp only [Option.some.injEq, RecvResult.data.injEq] at hreceived
        subst hreceived
        simp only [Bool.or_eq_true, decide_eq_true_eq, not_or, not_lt] at hsize
        exact hsize.2
    | _ => cases hreceived
  | _ => cases hreceived

theorem works_feed {α : Type} {good : α → Server → Shared → Prop}
    {rest : Unit → Io α} (hsound : Sound config server) (halert : Alert config watch io shared)
    (hidle : ∀ session, server.io.sessionsByFd.lookup fd = some session →
      session.codec.peekPacket = .ok none)
    (hrest : ∀ now, Alert config watch io now → Works config good (rest ()) server now) :
    Works config good (invoke (.feed fd) >>= rest) server shared := by
  have hguard (now : Shared) (_ : Alert config watch io now) :
      guard config (.feed fd) server now := ⟨hsound, hidle⟩
  apply works_invoke hguard halert
  intro now _ _ _ _ hnow hrespond
  cases Reply.unit?_map hrespond
  exact hrest now hnow

/-- The invariant of the loop of `readSession`. -/
structure Receiving (config : ServerConfig) (watch : Watch) (fd : Fd) (budget : WorkBudget)
    (server : Server) (shared : Shared) : Prop where
  steady : Steady config none server
  alert : Alert config watch server.io shared
  idle : ∃ session, server.io.sessionsByFd.lookup fd = some session ∧
    session.codec.peekPacket = .ok none
  paused : budget ≠ none → server.io.readsPaused = true
  phase : server.io.shutdownPhase ≠ .drainingOutput
  /-- After the shutdown has begun, only what a closed peer has left is read. -/
  entitled : server.io.shutdownPhase = .running ∨
    ∀ session, server.io.sessionsByFd.lookup fd = some session → session.peerReadClosed = true

/-- Received bytes go to the codec. -/
theorem Steady.feed {bytes : Bytes} {codec : PacketCodec} (hsteady : Steady config none server)
    (hlookup : server.io.sessionsByFd.lookup fd = some session)
    (hidle : session.codec.peekPacket = .ok none) (hbytes : bytes.length ≤ 4096)
    (hfeed : session.codec.feed (.bytes bytes) = .ok codec) :
    Steady config (some fd) ((server.receive fd (.data bytes)).update
      (IoState.setSession (.live fd) { session with codec })) := by
  have hheld : server.io.Holds session := .inl ⟨fd, hlookup⟩
  have hbound : ({ session with codec } : Session).codec.bufferedByteCount ≤ 8191 := by
    have hbuffered := Session.bufferedByteCount_of_peek hidle
    have hfed := Session.bufferedByteCount_feed hfeed
    change codec.bufferedByteCount ≤ 8191
    omega
  have htracks := (hsteady.tracks session hheld).feed hfeed
  have hid : ({ session with codec } : Session).id = session.id := rfl
  have hsession : server.io.session? (.live fd) = some session := hlookup
  rw [Server.receive_data hlookup]
  apply hsteady.setSession hsession hid rfl hbound
  · intro id hother
    exact ⟨Function.update_of_ne hother _ _, rfl, rfl, rfl⟩
  · dsimp only
    rw [Function.update_self]
    exact htracks
  · exact hsteady.outbound session.id
  · intro _ _
    exact (hsteady.writes fd session hlookup).congr rfl rfl
  · intro other hplace _ hother
    cases hplace
    exact absurd rfl hother
  · intro _ _
    simp

theorem works_receive {budget : WorkBudget} (drain : Bool)
    (hreceiving : Receiving config watch fd budget server shared) :
    Works config (Round (Receiving config watch fd)
        fun _ after now => Steady config none after ∧ Alert config watch after.io now)
      (receive config fd drain budget) server shared := by
  obtain ⟨hsteady, halert, ⟨session, hlookup, hidle⟩, hpaused, hphase, hentitled⟩ := hreceiving
  have hsound := hsteady.toSound
  have hallIdle (other : Session) (hother : server.io.sessionsByFd.lookup fd = some other) :
      other.codec.peekPacket = .ok none := by
    rw [hlookup, Option.some.injEq] at hother
    rw [← hother]
    exact hidle
  apply works_ask hsound halert rfl
  intro _ now hnow
  split
  · exact works_pure ⟨hsteady, hnow⟩
  · apply works_recv hsound hnow hentitled
    intro received now hbytes hnow
    have hdisconnect (reason : DisconnectReason) (hreason : reason ≠ .closeAfterFlush) :
        Works config (fun _ after now =>
          Steady config none after ∧ Alert config watch after.io now)
        (disconnect config fd reason) server now := by
      apply works_disconnect hsteady (.inl rfl) hnow (fun hflush => absurd hflush hreason)
      intro other packet hother hpeek
      rw [hallIdle other hother] at hpeek
      cases hpeek
    cases received with
    | closed =>
      apply (hdisconnect .peerClosed (by simp)).bind
      intro _ after now hpost
      exact works_pure hpost
    | failed =>
      apply (hdisconnect .socketError (by simp)).bind
      intro _ after now hpost
      exact works_pure hpost
    | wouldBlock => exact works_pure ⟨hsteady, hnow⟩
    | data bytes =>
      have hlogged := hsound.receive hlookup bytes (hsteady.tracks session (.inl ⟨fd, hlookup⟩))
      have hio : (server.receive fd (.data bytes)).io = server.io := by
        rw [Server.receive_data hlookup]
      obtain ⟨codec, hfeed, _⟩ := session.codec.feed_bytes bytes
      have hfed := hsteady.feed hlookup hidle (hbytes bytes rfl) hfeed
      apply works_get hlogged hnow
      intro now hnow
      rw [hio, hlookup]
      apply works_feed hlogged hnow
      · rw [hio]
        exact hallIdle
      intro now hnow
      rw [hfeed]
      apply works_modify hlogged hnow
      intro now hnow
      have hpresent : server.io.session? (.live fd) ≠ none := by
        change server.io.sessionsByFd.lookup fd ≠ none
        rw [hlookup]
        simp
      have hset : Alert config watch ((server.receive fd (.data bytes)).io.setSession
          (.live fd) { session with codec }) now := by
        rw [hio]
        exact hnow.setSession hpresent _
      have hreading : Reading (some fd) (.live fd)
          ((server.receive fd (.data bytes)).io.setSession (.live fd) { session with codec }) := by
        constructor
        · rw [IoState.session?_setSession]
          simp
        · intro other hplace
          cases hplace
          exact .inr rfl
      apply (works_enqueueDecodedPackets hfed hset hreading budget).bind
      rintro ⟨decoded, remaining⟩ after now ⟨⟨hafter, hnow, hpresent, honward, hbudget⟩, hleaves⟩
      have hback : Onward server.io after.io := by
        change Onward ((server.receive fd (.data bytes)).io.setSession (.live fd)
          { session with codec }) after.io at honward
        rw [hio] at honward
        have hpeer : ({ session with codec } : Session).peerReadClosed =
            session.peerReadClosed := rfl
        have hsession : server.io.session? (.live fd) = some session := hlookup
        exact (Onward.setSession hsession hpeer).trans honward
      have hstill : remaining ≠ none → after.io.readsPaused = true := by
        intro hsome
        exact hback.paused (hpaused fun hnone => hsome (hbudget hnone))
      have hdraining : after.io.shutdownPhase ≠ .drainingOutput := by
        rw [hback.phase]
        exact hphase
      cases decoded with
      | all =>
        obtain ⟨other, hother, hpeek⟩ := hleaves
        apply works_pure
        refine ⟨?_, hnow, ⟨other, hother, hpeek⟩, hstill, hdraining, ?_⟩
        · apply hafter.finishRead
          intro same hsame
          change after.io.sessionsByFd.lookup fd = some other at hother
          rw [hother, Option.some.injEq] at hsame
          rw [← hsame]
          exact hpeek
        · rcases hentitled with hrunning | hpeer
          · left
            rw [hback.phase]
            exact hrunning
          · right
            intro same hsame
            obtain ⟨_, hthere, hclosed⟩ := hback.peers fd session hlookup
            cases hthere.symm.trans hsame
            rw [hclosed]
            exact hpeer session hlookup
      | stopped =>
        have hreads : after.io.readsPaused = true := by
          rcases hleaves with hspent | hfull
          · change remaining = some 0 at hspent
            apply hstill
            rw [hspent]
            simp
          · exact hfull.1
        apply works_modify hafter.toSound hnow
        intro now hnow
        apply works_pure
        refine ⟨hafter.deferRead (.inr rfl) hpresent.present hreads hdraining, ?_⟩
        exact hnow.deferRead fd
      | malformed =>
        obtain ⟨other, hother, hpeek⟩ := hleaves
        have hmalformed : Works config (fun _ after now =>
            Steady config none after ∧ Alert config watch after.io now)
            (disconnect config fd .protocolError) after now := by
          apply works_disconnect hafter (.inr rfl) hnow (by simp)
          intro _ _ hsame hcomplete
          change after.io.sessionsByFd.lookup fd = some other at hother
          rw [hother, Option.some.injEq] at hsame
          rw [← hsame, hpeek] at hcomplete
          cases hcomplete
        apply hmalformed.bind
        intro _ _ _ hpost
        exact works_pure hpost

/-- A session is read when nothing is left in its codec; with a budget, only
while reads are paused. -/
theorem works_readSession (hsteady : Steady config none server)
    (halert : Alert config watch server.io shared) (drain : Bool) (budget : WorkBudget)
    (hidle : (server.io.readsPaused && !drain) = false → ∀ session,
      server.io.sessionsByFd.lookup fd = some session → session.codec.peekPacket = .ok none)
    (hpaused : budget ≠ none → server.io.readsPaused = true)
    (hphase : server.io.shutdownPhase ≠ .drainingOutput)
    (hentitled : server.io.shutdownPhase = .running ∨
      ∀ session, server.io.sessionsByFd.lookup fd = some session → session.peerReadClosed = true) :
    Works config (fun _ after now =>
        Steady config none after ∧ Alert config watch after.io now)
      (readSession config fd drain budget) server shared := by
  have hsound := hsteady.toSound
  apply works_get hsound halert
  intro now hnow
  split
  · exact works_pure ⟨hsteady, hnow⟩
  · next hreads =>
    rw [Bool.not_eq_true] at hreads
    cases hlookup : server.io.sessionsByFd.lookup fd with
    | none => exact works_pure ⟨hsteady, hnow⟩
    | some session =>
      dsimp only
      split
      · exact works_pure ⟨hsteady, hnow⟩
      · apply works_loop hsound hnow (Receiving config watch fd)
        · intro remaining after now hreceiving
          exact hreceiving.steady.toSound
        · intro _ _ now hreceiving
          exact works_receive drain hreceiving
        · intro _ hnow
          exact ⟨hsteady, hnow, ⟨session, hlookup, hidle hreads session hlookup⟩, hpaused,
            hphase, hentitled⟩

end SessionServer.TcpServer
