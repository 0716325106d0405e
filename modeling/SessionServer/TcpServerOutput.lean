import SessionServer.TcpServerDrain

/-!
# Writing, accepting and expiring

None of these functions touches what a session has received or pushed, except
by disconnecting it.  New connections are accepted only while reads are not
paused, and then no disconnect is deferred.
-/

namespace SessionServer.TcpServer

open Protocol InteractionProgram IoState Server Session Function Option

variable {config : ServerConfig} {watch : Watch} {io : IoState} {shared : Shared}
  {server : Server} {fd : Fd}
variable {session : Session}

/-- What holds between the steps of the event loop. -/
abbrev Settled (config : ServerConfig) (server : Server) (shared : Shared) : Prop :=
  Steady config none server ∧ Alert config .pauses server.io shared

theorem Settled.sound (hsettled : Settled config server shared) : Sound config server :=
  hsettled.1.toSound

theorem Settled.works_disconnect (hsettled : Settled config server shared) (fd : Fd)
    {reason : DisconnectReason} (hreason : reason = .closeAfterFlush → ∀ session,
      server.io.sessionsByFd.lookup fd = some session → Flushed server session.id) :
    Works config (fun _ => Settled config) (disconnect config fd reason) server shared := by
  apply TcpServer.works_disconnect hsettled.1 (.inl rfl) hsettled.2 hreason
  intro _ _ _ _
  exact ⟨rfl, by simp⟩

theorem Settled.works_updateInterest (hsettled : Settled config server shared) (fd : Fd) :
    Works config (fun _ => Settled config) (updateInterest fd) server shared := by
  apply (TcpServer.works_updateInterest hsettled.sound hsettled.2 fd).mono
  rintro _ _ _ ⟨rfl, hnow⟩
  exact ⟨hsettled.1, hnow⟩

theorem Alert.setLive (halert : Alert config watch io shared)
    (hlookup : io.sessionsByFd.lookup fd = some session) (after : Session) :
    Alert config watch (io.setSession (.live fd) after) shared := by
  apply halert.setSession
  change io.sessionsByFd.lookup fd ≠ none
  rw [hlookup]
  simp

/-! ## Sending -/

theorem Server.send_sent
    (hlookup : server.io.sessionsByFd.lookup fd = some session) (data : Bytes) (byteCount : ℕ) :
    server.send fd data (.sent byteCount) = { server with
      sent := Function.update server.sent session.id
        (server.sent session.id ++ data.take byteCount) } := by
  unfold send
  rw [hlookup]

theorem Sound.send {data : Bytes} (hsound : Sound config server)
    (hlookup : server.io.sessionsByFd.lookup fd = some session)
    (hdata : server.sent session.id ++ data <+: outboundBytes (server.addressed session.id))
    (byteCount : ℕ) : Sound config (server.send fd data (.sent byteCount)) := by
  rw [send_sent hlookup]
  refine { hsound with outbound := ?_ }
  intro id
  dsimp only
  by_cases hid : id = session.id
  · rw [hid, Function.update_self]
    have htaken : server.sent session.id ++ data.take byteCount <+:
        server.sent session.id ++ data :=
      List.prefix_append_right_inj _ |>.mpr (List.take_prefix _ _)
    exact htaken.trans hdata
  · rw [Function.update_of_ne hid]
    exact hsound.outbound id

theorem works_send {α : Type} {good : α → Server → Shared → Prop} {data : Bytes}
    {rest : SendResult → Io α} (hsound : Sound config server)
    (halert : Alert config watch io shared)
    (hdata : ∀ session, server.io.sessionsByFd.lookup fd = some session →
      server.sent session.id ++ data <+: outboundBytes (server.addressed session.id))
    (hrest : ∀ sent now, (∀ byteCount, sent = .sent byteCount → byteCount ≤ data.length) →
      Alert config watch io now →
      Works config good (rest sent) (server.send fd data sent) now) :
    Works config good (invoke (.send fd data) >>= rest) server shared := by
  have hguard (now : Shared) (_ : Alert config watch io now) :
      guard config (.send fd data) server now := ⟨hsound, hdata⟩
  apply works_invoke hguard halert
  intro _ reply answer _ _ hnow hrespond
  simp only [respond, map_eq_some_iff, Prod.mk.injEq] at hrespond
  obtain ⟨sent, hsent, rfl, rfl, rfl⟩ := hrespond
  apply hrest sent _ _ hnow
  rintro _ rfl
  cases reply with
  | sent answer =>
    cases answer with
    | sent =>
      simp only [Reply.sent?] at hsent
      split at hsent
      · cases hsent
      · next hcount =>
        cases hsent
        rw [not_or, not_lt] at hcount
        exact hcount.2
    | _ => cases hsent
  | _ => cases hsent

theorem Session.consumeWrite_error {byteCount : ℕ}
    {exception : ServerException} (hconsume : session.consumeWrite byteCount = .error exception) :
    exception ≠ limitException := by
  unfold consumeWrite at hconsume
  split at hconsume
  · cases hconsume
    simp [limitException]
  · split at hconsume
    · cases hconsume
      simp [limitException]
    · cases hconsume

theorem Steady.sendWrite {written : Session} {write : PendingWrite}
    {rest : List PendingWrite} {size byteCount : ℕ} (hsteady : Steady config none server)
    (hlookup : server.io.sessionsByFd.lookup fd = some session)
    (hwrites : session.pendingWrites = write :: rest)
    (hcount : byteCount ≤ ((write.bytes.drop write.offset).take size).length)
    (hconsume : session.consumeWrite byteCount = .ok written) :
    Steady config none ((server.send fd ((write.bytes.drop write.offset).take size)
      (.sent byteCount)).update (IoState.setSession (.live fd) written)) := by
  have hsession : server.io.session? (.live fd) = some session := hlookup
  obtain ⟨hid, hfd, hcodec, hsequence, _⟩ := Session.consumeWrite_ok hconsume
  have howes := (hsteady.writes fd session hlookup).consume hwrites hcount hconsume
  rw [send_sent hlookup]
  apply hsteady.setSession_stream hsession hid hfd hcodec hsequence
  · intro _ hother
    exact ⟨Function.update_of_ne hother _ _, rfl⟩
  · dsimp only
    rw [Function.update_self]
    exact howes

theorem Steady.offset {write : PendingWrite} {rest : List PendingWrite}
    (hsteady : Steady config none server)
    (hlookup : server.io.sessionsByFd.lookup fd = some session)
    (hwrites : session.pendingWrites = write :: rest) (size : ℕ) :
    server.sent session.id ++ (write.bytes.drop write.offset).take size <+:
      outboundBytes (server.addressed session.id) := by
  have howes := hsteady.writes fd session hlookup
  rw [← howes.bytes]
  apply (List.prefix_append_right_inj _).mpr
  unfold pendingBytes
  rw [hwrites, List.flatMap_cons]
  exact (List.take_prefix _ _).trans (List.prefix_append _ _)

theorem works_flushWrite {sentBytes : ℕ} (hsettled : Settled config server shared)
    (hpresent : server.io.sessionsByFd.lookup fd ≠ none) :
    Works config (Round
        (fun _ after now =>
          Settled config after now ∧ after.io.sessionsByFd.lookup fd ≠ none)
        (fun flushed after now => Settled config after now ∧
          (flushed = true → after.io.sessionsByFd.lookup fd ≠ none)))
      (flushWrite config fd sentBytes) server shared := by
  apply works_get hsettled.sound hsettled.2
  intro now hnow
  have hsteady := hsettled.1
  cases hlookup : server.io.sessionsByFd.lookup fd with
  | none => exact absurd hlookup hpresent
  | some session =>
    dsimp only
    cases hwrites : session.pendingWrites with
    | nil => exact works_pure ⟨⟨hsteady, hnow⟩, fun _ => hpresent⟩
    | cons write =>
      dsimp only
      split
      · exact works_pure ⟨⟨hsteady, hnow⟩, fun _ => hpresent⟩
      have hoffset := hsteady.offset hlookup hwrites
        (min (write.bytes.length - write.offset) (sessionFlushByteLimit - sentBytes))
      apply works_send hsteady.toSound hnow
      · intro _ hother
        rw [hlookup, Option.some.injEq] at hother
        rw [← hother]
        exact hoffset
      intro sent now hcount hnow
      have hdisconnect : Works config (Round
          (fun _ after now =>
            Settled config after now ∧ after.io.sessionsByFd.lookup fd ≠ none)
          (fun flushed after now => Settled config after now ∧
            (flushed = true → after.io.sessionsByFd.lookup fd ≠ none)))
          (disconnect config fd .socketError >>= fun _ => pure (.inr false : ℕ ⊕ Bool))
          server now := by
        apply (Settled.works_disconnect ⟨hsteady, hnow⟩ fd (by simp)).bind
        intro _ after now hafter
        exact works_pure ⟨hafter, by simp⟩
      cases sent with
      | zero | failed => exact hdisconnect
      | wouldBlock =>
        apply (Settled.works_updateInterest ⟨hsteady, hnow⟩ fd).bind
        intro _ _ now hafter
        exact works_pure ⟨hafter, by simp⟩
      | sent byteCount =>
        have hsent := hsteady.toSound.send hlookup hoffset byteCount
        dsimp only
        cases hconsume : session.consumeWrite byteCount with
        | error =>
          exact works_raise hsent hnow (consumeWrite_error hconsume)
        | ok written =>
          apply works_modify hsent hnow
          intro _ hnow
          apply works_pure
          have hwritten := hsteady.sendWrite hlookup hwrites (hcount byteCount rfl) hconsume
          rw [send_sent hlookup] at hwritten ⊢
          refine ⟨⟨hwritten, hnow.setLive hlookup written⟩, ?_⟩
          change (server.io.sessionsByFd.insert fd written).lookup fd ≠ none
          simp

theorem works_flushSession (hsettled : Settled config server shared) (fd : Fd) :
    Works config (fun _ => Settled config) (flushSession config fd) server shared := by
  apply works_get hsettled.sound hsettled.2
  intro now hnow
  split
  · exact works_pure ⟨hsettled.1, hnow⟩
  · next hpresent =>
    rw [isNone_iff_eq_none] at hpresent
    have hflush : Works config (fun flushed after now => Settled config after now ∧
        (flushed = true → after.io.sessionsByFd.lookup fd ≠ none))
        (loop (flushWrite config fd) 0) server now := by
      apply works_loop hsettled.sound hnow (fun _ after now =>
        Settled config after now ∧ after.io.sessionsByFd.lookup fd ≠ none)
      · intro _ after now hinv
        exact hinv.1.sound
      · intro _ after now hinv
        exact works_flushWrite hinv.1 hinv.2
      · intro now hnow
        exact ⟨⟨hsettled.1, hnow⟩, hpresent⟩
    apply hflush.bind
    rintro flushed after now ⟨hafter, hpresent⟩
    cases flushed with
    | false => exact works_pure hafter
    | true =>
      apply works_get hafter.sound hafter.2
      intro _ hnow
      cases hlookup : after.io.sessionsByFd.lookup fd with
      | none => exact absurd hlookup (hpresent rfl)
      | some session =>
        dsimp only
        split
        · next hclosing =>
          rw [Bool.and_eq_true, Bool.not_eq_true'] at hclosing
          apply Settled.works_disconnect ⟨hafter.1, hnow⟩ fd
          intro _ _ hother
          have howes := hafter.1.writes fd session hlookup
          rw [hlookup, Option.some.injEq] at hother
          rw [← hother]
          exact ⟨howes.closing ▸ hclosing.1, howes.flushed hclosing.2⟩
        · exact Settled.works_updateInterest ⟨hafter.1, hnow⟩ fd

theorem works_flushAllSessions (hsettled : Settled config server shared) :
    Works config (fun _ => Settled config) (flushAllSessions config) server shared := by
  apply works_ask hsettled.sound hsettled.2 rfl
  intro fds now hnow
  apply works_forEach _ fds ⟨hsettled.1, hnow⟩
  intro fd _ _ hafter
  exact works_flushSession hafter fd

/-! ## Delivering -/

section Delivering

variable {message : OutputMessage}

theorem Server.takeMessage_some (hid : message.sessionId < server.io.nextSessionId) :
    server.takeMessage (some message) = { server with
      addressed := Function.update server.addressed message.sessionId
        (server.addressed message.sessionId ++ [message]) } :=
  if_pos hid

theorem Sound.takeMessage (hsound : Sound config server) (popped : Option OutputMessage) :
    Sound config (server.takeMessage popped) := by
  cases popped with
  | none => exact hsound
  | some message =>
    unfold Server.takeMessage
    dsimp only
    split
    · refine { hsound with outbound := ?_ }
      intro id
      dsimp only
      by_cases hid : id = message.sessionId
      · rw [hid, update_self]
        exact (hsound.outbound _).trans (outboundBytes_prefix_append _ message)
      · rw [update_of_ne hid]
        exact hsound.outbound id
    · exact hsound

theorem Steady.takeMessage (hsteady : Steady config none server)
    (hignored : ∀ fd session, server.io.sessionsByFd.lookup fd = some session →
      session.id = message.sessionId →
      message.kind = .disconnectSession ∨ session.closingAfterFlush = true) :
    Steady config none (server.takeMessage (some message)) := by
  have hsound := hsteady.toSound.takeMessage (some message)
  unfold Server.takeMessage at hsound ⊢
  dsimp only at hsound ⊢
  split
  · next hlt =>
    rw [if_pos hlt] at hsound
    refine { hsteady with
      toSound := hsound
      unborn := ?_
      writes := ?_ }
    · intro id hid
      obtain ⟨hreceived, hpushed, hsent, haddressed⟩ := hsteady.unborn id hid
      refine ⟨hreceived, hpushed, hsent, ?_⟩
      dsimp only at hid ⊢
      rw [update_of_ne (by omega)]
      exact haddressed
    · intro fd session hlookup
      dsimp only
      have howes := hsteady.writes fd session hlookup
      by_cases hid : session.id = message.sessionId
      · rw [hid, update_self]
        rw [hid] at howes
        exact howes.ignore (hignored fd session hlookup hid)
      · rw [update_of_ne hid]
        exact howes
  · exact hsteady

theorem Steady.enqueueMessage {enqueued : Session} (hsteady : Steady config none server)
    (hlookup : server.io.sessionsByFd.lookup fd = some session)
    (hid : session.id = message.sessionId) (hkind : message.kind ≠ .disconnectSession)
    (hopen : session.closingAfterFlush = false)
    (henqueue : session.tryEnqueue message.bytes = some enqueued) :
    Steady config none ((server.takeMessage (some message)).update (IoState.setSession (.live fd)
      (if message.kind = .sendBytesAndDisconnect then enqueued.closeAfterFlush
        else enqueued))) := by
  have hsession : server.io.session? (.live fd) = some session := hlookup
  have hlt : message.sessionId < server.io.nextSessionId := by
    rw [← hid]
    exact hsteady.tables.id_lt fd session hlookup
  have howes := (hsteady.writes fd session hlookup).enqueue hkind hopen henqueue
  obtain ⟨hsame, hfd, hcodec, hsequence, _⟩ := tryEnqueue_some henqueue
  rw [takeMessage_some hlt]
  apply hsteady.setSession_stream hsession
  · split
    · exact hsame
    · exact hsame
  · split
    · exact hfd
    · exact hfd
  · split
    · exact hcodec
    · exact hcodec
  · split
    · exact hsequence
    · exact hsequence
  · intro _ hother
    rw [hid] at hother
    exact ⟨rfl, Function.update_of_ne hother _ _⟩
  · dsimp only
    rw [hid, Function.update_self]
    rw [hid] at howes
    exact howes

/-- A session that refuses the message goes, and the others are as before. -/
theorem Steady.dropMessage (hsteady : Steady config none server)
    (hlookup : server.io.sessionsByFd.lookup fd = some session)
    (hid : session.id = message.sessionId) :
    Steady config none
      ((server.takeMessage (some message)).update (IoState.unregister fd session)) := by
  have hremoved := hsteady.unregister (.inl rfl) hlookup
  have hlt : message.sessionId < server.io.nextSessionId := by
    rw [← hid]
    exact hsteady.tables.id_lt fd session hlookup
  have htaken : Steady config none
      ((server.update (IoState.unregister fd session)).takeMessage (some message)) := by
    apply hremoved.takeMessage
    intro other same hsame hother
    refine absurd (hother.trans hid.symm) ?_
    exact hsteady.toSound.unregister_gone hlookup same (.inl ⟨other, hsame⟩)
  have hstill : message.sessionId <
      (server.update (IoState.unregister fd session)).io.nextSessionId := hlt
  rw [Server.takeMessage_some hstill] at htaken
  rw [Server.takeMessage_some hlt]
  exact htaken

theorem works_deliver (hsettled : Settled config server shared) (message : OutputMessage) :
    Works config (fun _ => Settled config) (deliver config message)
      (server.takeMessage (some message)) shared := by
  have hsteady := hsettled.1
  have hsound := hsteady.toSound.takeMessage (some message)
  have hio : (server.takeMessage (some message)).io = server.io := by
    unfold takeMessage
    dsimp only
    split <;> rfl
  have hignored (hquiet : ∀ fd session, server.io.sessionsByFd.lookup fd = some session →
      session.id = message.sessionId →
      message.kind = .disconnectSession ∨ session.closingAfterFlush = true) (now : Shared)
      (hnow : Alert config .pauses server.io now) :
      Settled config (server.takeMessage (some message)) now :=
    ⟨hsteady.takeMessage hquiet, hio.symm ▸ hnow⟩
  apply works_get hsound hsettled.2
  intro now hnow
  rw [hio]
  cases hfd : server.io.fdBySession.lookup message.sessionId with
  | none =>
    apply works_pure
    apply hignored _ now hnow
    intro fd session hlookup hid
    have hsome := (hsteady.tables.session_iff session.id fd).mpr ⟨session, hlookup, rfl⟩
    rw [hid, hfd] at hsome
    cases hsome
  | some fd =>
    obtain ⟨session, hlookup, hid⟩ := (hsteady.tables.session_iff _ fd).mp hfd
    have honly (other : Fd) (same : Session)
        (hother : server.io.sessionsByFd.lookup other = some same)
        (hsame : same.id = message.sessionId) : same = session := by
      have hat := hsteady.tables.fd_unique hlookup hother (hsame.trans hid.symm)
      rw [hat, hlookup, Option.some.injEq] at hother
      exact hother.symm
    dsimp only
    split
    · next hkind =>
      apply Settled.works_disconnect (hignored (fun _ _ _ _ => .inl hkind) now hnow) fd
      simp
    next hkind =>
    rw [hlookup]
    dsimp only
    split
    · next hclosing =>
      apply works_pure
      apply hignored _ now hnow
      intro other same hother hsame
      rw [honly other same hother hsame]
      exact .inr hclosing
    next hopen =>
    rw [Bool.not_eq_true] at hopen
    cases henqueue : session.tryEnqueue message.bytes with
    | none =>
      rw [hsteady.tables.session_fd fd session hlookup]
      have hhere : (server.takeMessage (some message)).io.sessionsByFd.lookup fd =
          some session := hio.symm ▸ hlookup
      have htracks : session.Tracks ((server.takeMessage (some message)).received session.id)
          (eventsFor (server.takeMessage (some message)).pushed session.id) := by
        have hbefore := hsteady.tracks session (.inl ⟨fd, hlookup⟩)
        unfold takeMessage
        dsimp only
        split
        · exact hbefore
        · exact hbefore
      apply works_ask hsound hnow rfl
      intro _ now hnow
      apply works_disconnectSession hsound hhere (hsteady.dropMessage hlookup hid) htracks
        (hio.symm ▸ hnow) (by simp)
      intro _ hpeek hrunning
      rw [hio] at hrunning ⊢
      refine ⟨?_, by simp⟩
      apply hsteady.quiet.paused hrunning
      intro hempty
      have hidle := hsteady.quiet.idle fd session hlookup
      rw [hempty, hpeek] at hidle
      simp at hidle
    | some enqueued =>
      apply works_modify hsound hnow
      intro now hnow
      have hset : Settled config ((server.takeMessage (some message)).update
          (setSession (.live fd)
            (if message.kind = .sendBytesAndDisconnect then enqueued.closeAfterFlush
              else enqueued))) now := by
        refine ⟨hsteady.enqueueMessage hlookup hid hkind hopen henqueue, ?_⟩
        unfold Server.update
        rw [hio]
        exact hnow.setLive hlookup _
      exact hset.works_updateInterest enqueued.fd

end Delivering

theorem works_outboxTryPop {α : Type} {good : α → Server → Shared → Prop}
    {rest : Option OutputMessage → Io α} (hsound : Sound config server)
    (halert : Alert config watch io shared)
    (hrest : ∀ popped now, Alert config watch io now →
      Works config good (rest popped) (server.takeMessage popped) now) :
    Works config good (invoke .outboxTryPop >>= rest) server shared := by
  have hguard (now : Shared) (_ : Alert config watch io now) :
      guard config .outboxTryPop server now := hsound
  apply works_invoke hguard halert
  intro _ _ _ _ _ hnow hrespond
  cases Reply.unit?_map hrespond
  exact hrest _ _ { hnow with }

theorem works_drainMessages (limit : ℕ) (hsettled : Settled config server shared) :
    Works config (fun _ => Settled config) (drainMessages config limit) server shared := by
  induction limit generalizing server shared with
  | zero => exact works_pure hsettled
  | succ _ ih =>
    apply works_outboxTryPop hsettled.sound hsettled.2
    intro popped now hnow
    cases popped with
    | none => exact works_pure ⟨hsettled.1, hnow⟩
    | some message =>
      apply (works_deliver ⟨hsettled.1, hnow⟩ message).bind
      intro _ _ _ hafter
      exact ih hafter

theorem works_drainOutbound (hsettled : Settled config server shared) :
    Works config (fun _ => Settled config) (drainOutbound config) server shared := by
  apply (works_drainMessages outboundDrainMessageLimit hsettled).bind
  intro _ after now hafter
  apply works_ask hafter.sound hafter.2 rfl
  intro _ now hnow
  split
  · change Works config _ (invoke .notifyOutbound >>= pure) after now
    apply works_ask hafter.sound hnow rfl
    intro _ _ hnow
    exact works_pure ⟨hafter.1, hnow⟩
  · exact works_pure ⟨hafter.1, hnow⟩

/-! ## Accepting -/

section Accepting

variable {α : Type} {good : α → Server → Shared → Prop}

theorem works_accept {rest : AcceptResult → Io α} (hsteady : Steady config none server)
    (halert : Alert config watch io shared) (hrunning : server.io.shutdownPhase = .running)
    (hreading : server.io.readsPaused = false)
    (hrest : ∀ accepted now, (∀ fd, accepted = .accepted fd → fd ∉ server.openFds) →
      Alert config watch io now →
      Works config good (rest accepted) (server.accept accepted) now) :
    Works config good (invoke .accept >>= rest) server shared := by
  have hguard (now : Shared) (_ : Alert config watch io now) : guard config .accept server now :=
    ⟨hsteady.toSound, hrunning, hreading, hsteady.opened⟩
  apply works_invoke hguard halert
  intro _ _ _ _ _ hnow hrespond
  simp only [respond, map_eq_some_iff, Prod.mk.injEq] at hrespond
  obtain ⟨accepted, haccepted, rfl, rfl, rfl⟩ := hrespond
  apply hrest accepted _ _ hnow
  rintro _ rfl
  exact Reply.accepted_not_open haccepted

theorem works_register {rest : Unit → Io α} (hsound : Sound config server)
    (halert : Alert config watch io shared)
    (hrest : ∀ now, Alert config watch io now →
      Works config good (rest ()) (server.register config fd) now) :
    Works config good (invoke (.register config fd) >>= rest) server shared := by
  have hguard (now : Shared) (_ : Alert config watch io now) :
      guard config (.register config fd) server now := hsound
  apply works_invoke hguard halert
  intro now _ _ _ _ hnow hrespond
  cases Reply.unit?_map hrespond
  exact hrest now hnow

theorem works_storeCurrentSessions {good : Unit → Server → Shared → Prop}
    (hsound : Sound config server) (halert : Alert config watch io shared)
    (hgood : ∀ now, Alert config watch io now → good () server.storeCurrentSessions now) :
    Works config good (invoke .storeCurrentSessions) server shared := by
  have hguard (now : Shared) (_ : Alert config watch io now) :
      guard config .storeCurrentSessions server now := hsound
  apply works_invoke hguard halert
  intro now _ _ _ _ hnow hrespond
  cases Reply.unit?_map hrespond
  exact works_pure (hgood now hnow)

end Accepting

/-- While reads are not paused the server runs and no disconnect is deferred. -/
theorem Steady.no_deferrals (hsteady : Steady config none server)
    (hreading : server.io.readsPaused = false) : server.io.deferredDisconnects = [] := by
  by_contra hsome
  have hpaused : server.io.readsPaused = true := by
    by_cases hrunning : server.io.shutdownPhase = .running
    · exact hsteady.deferrals.paused hrunning hsome
    · exact hsteady.control.stopped hrunning
  rw [hreading] at hpaused
  cases hpaused

theorem works_acceptConnection (hsettled : Settled config server shared)
    (hreading : server.io.readsPaused = false)
    (hfd : server.io.sessionsByFd.lookup fd = none) (hopen : fd ∈ server.openFds) :
    Works config (fun _ after now =>
        Settled config after now ∧ after.io.readsPaused = false)
      (acceptConnection config fd) server shared := by
  have hsteady := hsettled.1
  have hsound := hsettled.sound
  have hclose (now : Shared) (hnow : Alert config .pauses server.io now) :
      Works config (fun _ after now =>
        Settled config after now ∧ after.io.readsPaused = false)
      (invoke (.close fd)) server now := by
    apply works_close_last hsound hnow
    intro now hnow
    exact ⟨⟨hsteady.close hfd, hnow⟩, hreading⟩
  apply works_get hsound hsettled.2
  intro now hnow
  split
  · exact hclose now hnow
  next hcount =>
  rw [not_le] at hcount
  apply works_ask hsound hnow rfl
  intro _ now hnow
  split
  · exact hclose now hnow
  have hdeferred := hsteady.no_deferrals hreading
  have hregistered := hsteady.register_sound hfd hcount hdeferred
  apply works_register hsound hnow
  intro now hnow
  apply works_ask hregistered hnow rfl
  intro _ now hnow
  split
  · apply works_storeCurrentSessions hregistered hnow
    intro now hnow
    refine ⟨⟨hsteady.register hfd hopen hcount hdeferred, ?_⟩, hreading⟩
    refine hnow.weaken ?_ ?_
    · rfl
    · intro _ hneeds
      exact hneeds
  · exact works_raise hregistered hnow (by simp [limitException])

theorem works_acceptBatch (limit : ℕ) (hsettled : Settled config server shared)
    (hreading : server.io.readsPaused = false) :
    Works config (fun _ => Settled config) (acceptBatch config limit) server shared := by
  induction limit generalizing server shared with
  | zero => exact works_pure hsettled
  | succ _ ih =>
    have hsteady := hsettled.1
    apply works_ask hsteady.toSound hsettled.2 rfl
    intro stop now hnow
    split
    · exact works_pure ⟨hsteady, hnow⟩
    apply works_accept hsteady hnow (hsteady.running_of_reading hreading) hreading
    intro accepted now hfresh hnow
    cases accepted with
    | wouldBlock => exact works_pure ⟨hsteady, hnow⟩
    | failed => exact works_raise hsteady.toSound hnow (by simp [limitException])
    | accepted fd =>
      have hfd : server.io.sessionsByFd.lookup fd = none := by
        by_contra hsome
        obtain ⟨session, hlookup⟩ := ne_none_iff_exists'.mp hsome
        exact hfresh fd rfl (hsteady.opened fd session hlookup)
      have haccepted := hsteady.accept fd
      apply works_ask haccepted.toSound hnow rfl
      intro _ now hnow
      split
      · apply works_close_last haccepted.toSound hnow
        intro now hnow
        exact ⟨haccepted.close hfd, hnow⟩
      · have hconnect := works_acceptConnection ⟨haccepted, hnow⟩ hreading hfd
          (Finset.mem_insert_self fd server.openFds)
        apply hconnect.bind
        rintro _ _ _ ⟨hafter, hstill⟩
        exact ih hafter hstill

theorem works_acceptLoop (hsettled : Settled config server shared) :
    Works config (fun _ => Settled config) (acceptLoop config) server shared := by
  apply works_get hsettled.sound hsettled.2
  intro _ hnow
  split
  · exact works_pure ⟨hsettled.1, hnow⟩
  · next hlistening =>
    apply works_acceptBatch acceptBatchLimit ⟨hsettled.1, hnow⟩
    rw [Bool.or_eq_true, not_or, Bool.not_eq_true, Bool.not_eq_true] at hlistening
    exact hlistening.2

theorem works_expireIdleSessions (hsettled : Settled config server shared) :
    Works config (fun _ => Settled config) (expireIdleSessions config) server shared := by
  apply works_ask hsettled.sound hsettled.2 rfl
  intro expired now hnow
  apply works_forEach _ expired ⟨hsettled.1, hnow⟩
  intro fd _ _ hafter
  exact hafter.works_disconnect fd (by simp)

end SessionServer.TcpServer
