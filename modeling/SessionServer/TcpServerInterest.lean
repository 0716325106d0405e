import SessionServer.TcpServerLedger

/-!
# The registrations follow the sessions

Every function of the network thread keeps the registrations and the counters
right.  Where it changes what a session asks for, `updateInterest` comes before
the function returns; until then the descriptors that wait for it are named.
-/

namespace SessionServer.TcpServer

open Protocol InteractionProgram IoState

variable {config : ServerConfig} {io : IoState} {ledger : Ledger} {broken : Set Fd} {fd : Fd}
  {session : Session}
variable {reason : DisconnectReason}

theorem Kept.of_empty (htuned : Tuned config broken io ledger) (hbooked : Booked io ledger)
    (hempty : broken = ∅) : Kept config io ledger :=
  ⟨hempty ▸ htuned, hbooked⟩

/-! ## Pausing -/

theorem records_updateInterest (htuned : Tuned config broken io ledger)
    (hbooked : Booked io ledger) (fd : Fd) :
    Records config
      (fun _ after later => after = io ∧ Tuned config (broken \ {fd}) io later ∧ Booked io later)
      (updateInterest fd) io ledger := by
  apply records_get
  intro hconsistent
  cases hlookup : io.sessionsByFd.lookup fd with
  | none =>
    apply records_pure
    refine ⟨rfl, htuned.narrow ?_, hbooked⟩
    intro other hbroken hkept
    have hfd : other = fd := by
      by_contra hne
      exact hkept ⟨hbroken, hne⟩
    rw [hfd]
    exact hlookup
  | some =>
    cases htoken : io.registrationTokenByFd.lookup fd with
    | none =>
      rw [hconsistent.token_none, hlookup] at htoken
      cases htoken
    | some =>
      apply records_epollModify hbooked
      · exact records_pure ⟨rfl, htuned.watch_interest hlookup, { hbooked with }⟩
      · exact records_raise hbooked

theorem records_forEach_updateInterest {fds : List Fd}
    (htuned : Tuned config {fd | fd ∈ fds} io ledger) (hbooked : Booked io ledger) :
    Records config (fun _ after later => after = io ∧ Kept config io later)
      (forEach updateInterest fds) io ledger := by
  induction fds generalizing ledger with
  | nil =>
    apply records_pure
    exact ⟨rfl, Kept.of_empty htuned hbooked (by simp)⟩
  | cons fd _ ih =>
    apply (records_updateInterest htuned hbooked fd).bind
    rintro _ _ _ ⟨rfl, htuned, hbooked⟩
    apply ih (htuned.widen ?_) hbooked
    rintro _ ⟨hin, hne⟩
    exact (List.mem_cons.mp hin).resolve_left hne

theorem records_updateInterests (htuned : Tuned config Set.univ io ledger)
    (hbooked : Booked io ledger) :
    Records config (fun _ after later => after = io ∧ Kept config io later) updateInterests io
      ledger := by
  apply records_sessionOrder hbooked
  intro _ _ hkeys
  apply records_forEach_updateInterest (htuned.narrow ?_) hbooked
  intro _ _ hout
  by_contra hlive
  rw [← ne_eq, ← FiniteMap.mem_keys_iff, ← hkeys, List.mem_toFinset] at hlive
  exact hout hlive

theorem records_removeListener {α : Type} {good : α → IoState → Ledger → Prop}
    {rest : Unit → Io α} (hbooked : Booked io ledger)
    (hrest : ∀ later, Booked io.dropListener later →
      (ledger.listening = (if io.listenerRegistered then some epollIn else none) →
        later = ledger.listen none) →
      Records config good (rest ()) io.dropListener later) :
    Records config good (removeListener >>= rest) io ledger := by
  have hremove : Records config
      (fun _ after later => after = io.dropListener ∧ Booked io.dropListener later ∧
        (ledger.listening = (if io.listenerRegistered then some epollIn else none) →
          later = ledger.listen none))
      removeListener io ledger := by
    apply records_get
    intro _
    unfold onlyIf
    split
    · apply records_invoke
      · rintro server _ rfl
        exact hbooked
      rintro _ _ _ _ after later rfl _ hrespond
      obtain ⟨rfl, _⟩ := respond_inert rfl hrespond
      apply records_modify
      exact records_pure ⟨rfl, { hbooked with }, fun _ => rfl⟩
    · next hdropped =>
      apply records_pure
      refine ⟨(dropListener_of_dropped (Bool.not_eq_true _ ▸ hdropped)).symm, { hbooked with }, ?_⟩
      intro hlistening
      unfold Ledger.listen
      rw [← hlistening]
  apply hremove.bind
  rintro _ _ later ⟨rfl, hbooked, hlisten⟩
  exact hrest later hbooked hlisten

theorem Tuned.pause (htuned : Tuned config broken io ledger) :
    Tuned config Set.univ io.pause.dropListener (ledger.listen none) where
  interests := fun _ _ _ hin => absurd trivial hin
  limits := htuned.limits
  listening := rfl
  listener := by simp [IoState.pause, dropListener]

theorem keeps_pauseReads : Keeps config pauseReads := by
  intro io ledger hkept
  apply records_get
  intro _
  split
  · exact records_pure hkept
  have hpaused : Booked io.pause ledger := { hkept.booked with }
  apply records_modify
  apply records_removeListener hpaused
  intro later hbooked hlisten
  rw [hlisten hkept.tuned.listening] at hbooked ⊢
  apply (records_updateInterests hkept.tuned.pause hbooked).mono
  rintro _ _ _ ⟨rfl, hkept⟩
  exact hkept

theorem keeps_onInboundSize (size : ℕ) : Keeps config (onInboundSize config size) := by
  apply keeps_get
  intro _
  exact (keeps_modify _).bind fun _ => keeps_pure _

theorem keeps_onInboundFull : Keeps config (onInboundFull config) := by
  exact (keeps_onInboundSize _).bind fun _ => keeps_pauseReads

theorem keeps_onInboundPushed (size : ℕ) : Keeps config (onInboundPushed config size) := by
  apply (keeps_onInboundSize size).bind
  intro _
  split
  · exact keeps_pauseReads
  · exact keeps_pure ()

/-! ## Disconnecting -/

theorem keeps_enqueueDisconnected (session : Session) :
    Keeps config (enqueueDisconnected config session) := by
  apply keeps_ask rfl
  intro _
  split
  · exact keeps_onInboundFull.bind fun _ => keeps_pure _
  · exact (keeps_onInboundPushed _).bind fun _ => keeps_pure _

theorem keeps_deferDisconnected (session : Session) :
    Keeps config (deferDisconnected config session) := by
  apply keeps_get
  intro _
  split
  · exact keeps_pure ()
  split
  · exact keeps_raise _
  · exact keeps_modify _

theorem keeps_announceDisconnected (session : Session) :
    Keeps config (announceDisconnected config session) := by
  unfold announceDisconnected
  split
  · exact keeps_deferDisconnected session
  · apply (keeps_enqueueDisconnected session).bind
    intro _
    split
    · exact keeps_deferDisconnected session
    · exact keeps_pure ()

/-- A live session is removed; the removal is counted once. -/
theorem records_removal
    (hlookup : io.sessionsByFd.lookup fd = some session) (htuned : Tuned config {fd} io ledger)
    (hbalance : io.nextSessionId = 1 + io.sessionCount + ledger.removed)
    (hslow : ledger.slowClientDisconnects =
      (ledger.recordDisconnect reason).disconnects .pendingWriteLimit)
    (hmoved : io.movedSessions = 0)
    (hreason : reason = .pendingWriteLimit → Overflows config fd io ledger) :
    Records config (fun _ => Kept config) (disconnect config fd reason) io ledger := by
  apply records_get
  intro _
  rw [hlookup]
  apply records_recordDisconnect hreason
  apply records_modify
  apply records_epollRemove
  apply records_close
  apply records_modify
  have hnone : (io.unregister fd session).sessionsByFd.lookup fd = none :=
    Finmap.lookup_erase fd io.sessionsByFd
  have hbooked : Booked (io.unregister fd session) (ledger.recordDisconnect reason) := by
    refine ⟨?_, hslow, hmoved⟩
    have hcount := sessionCount_unregister hlookup
    change io.nextSessionId = 1 + (io.unregister fd session).sessionCount + _
    rw [Ledger.removed_recordDisconnect, hbalance, ← hcount]
    omega
  have hrecord : Tuned config {fd} io (ledger.recordDisconnect reason) := { htuned with }
  have hremoved : Tuned config ∅ (io.unregister fd session) (ledger.recordDisconnect reason) := by
    have hunregistered := hrecord.unregister fd session
    rw [Set.sdiff_self] at hunregistered
    exact hunregistered
  have hkept : Kept config (io.unregister fd session)
      (((ledger.recordDisconnect reason).watch fd none).watch fd none) :=
    ⟨(hremoved.watch_absent none hnone).watch_absent none hnone, { hbooked with }⟩
  split
  · exact keeps_deferDisconnected session _ _ hkept
  split
  · exact records_pure hkept
  · exact keeps_announceDisconnected session _ _ hkept

theorem records_disconnect (hreason : reason ≠ .pendingWriteLimit)
    (htuned : Tuned config {fd} io ledger) (hbooked : Booked io ledger) :
    Records config (fun _ => Kept config) (disconnect config fd reason) io ledger := by
  cases hlookup : io.sessionsByFd.lookup fd with
  | none =>
    apply records_get
    intro _
    rw [hlookup]
    apply records_pure
    refine ⟨htuned.narrow ?_, hbooked⟩
    rintro _ rfl _
    exact hlookup
  | some =>
    apply records_removal hlookup htuned hbooked.balance
    · rw [hbooked.slow]
      exact (ledger.recordDisconnect_of_ne hreason.symm).symm
    · exact hbooked.moved
    · intro hlimit
      exact absurd hlimit hreason

theorem keeps_disconnect (hreason : reason ≠ .pendingWriteLimit) :
    Keeps config (disconnect config fd reason) := by
  intro _ _ hkept
  exact records_disconnect hreason (hkept.tuned.widen (Set.empty_subset _)) hkept.booked

/-! ## Reading -/

theorem keeps_enqueueDecodedPacket (place : SessionPlace) (budget : WorkBudget) :
    Keeps config (enqueueDecodedPacket config place budget) := by
  intro io ledger hkept
  apply records_get
  intro _
  cases hsession : io.session? place with
  | none => exact keeps_undefinedBehaviour io ledger hkept
  | some session =>
    dsimp only
    split
    · exact records_pure hkept
    · exact records_pure hkept
    split
    · exact records_pure hkept
    apply records_ask rfl hkept.booked
    intro pushResult
    split
    · exact (keeps_onInboundFull.bind fun _ => keeps_pure _) io ledger hkept
    cases session.codec.consumePacket with
    | error failure => exact records_raise hkept.booked
    | ok codec =>
    apply records_modify
    have hset : Kept config
        (io.setSession place { session with codec }.commitEventSequence) ledger :=
      hkept.setSession hsession rfl rfl rfl
    apply (keeps_onInboundPushed pushResult.size _ _ hset).bind
    intro _ io ledger hkept
    split
    · exact records_pure hkept
    · exact records_pure hkept

theorem keeps_enqueueDecodedPackets (place : SessionPlace) (budget : WorkBudget) :
    Keeps config (enqueueDecodedPackets config place budget) :=
  keeps_loop budget (keeps_enqueueDecodedPacket place)

theorem keeps_receive (fd : Fd) (drainAfterPeerClose : Bool) (budget : WorkBudget) :
    Keeps config (receive config fd drainAfterPeerClose budget) := by
  apply keeps_ask rfl
  intro stop
  split
  · exact keeps_pure _
  apply keeps_ask rfl
  intro received
  cases received with
  | closed | failed => exact (keeps_disconnect (by simp)).bind fun _ => keeps_pure _
  | wouldBlock => exact keeps_pure _
  | data bytes =>
    intro io ledger hkept
    apply records_get
    intro _
    cases hlookup : io.sessionsByFd.lookup fd with
    | none => exact keeps_undefinedBehaviour io ledger hkept
    | some session =>
      apply records_ask rfl hkept.booked
      intro _
      cases session.codec.feed (.bytes bytes) with
      | error failure =>
        exact ((keeps_disconnect (by simp)).bind fun _ => keeps_pure _) io ledger hkept
      | ok codec =>
      apply records_modify
      have hsession : io.session? (.live fd) = some session := hlookup
      have hset : Kept config (io.setSession (.live fd) { session with codec }) ledger :=
        hkept.setSession hsession rfl rfl rfl
      apply (keeps_enqueueDecodedPackets (.live fd) budget _ _ hset).bind
      rintro ⟨decoded, remaining⟩ io ledger hkept
      cases decoded with
      | all => exact records_pure hkept
      | stopped => exact ((keeps_modify _).bind fun _ => keeps_pure _) io ledger hkept
      | malformed failure =>
        exact ((keeps_disconnect (by simp)).bind fun _ => keeps_pure _) io ledger hkept

theorem keeps_readSession (fd : Fd) (drainAfterPeerClose : Bool) (budget : WorkBudget) :
    Keeps config (readSession config fd drainAfterPeerClose budget) := by
  apply keeps_get
  intro _
  split
  · exact keeps_pure _
  split
  · exact keeps_pure _
  split
  · exact keeps_pure _
  · exact keeps_loop budget (keeps_receive fd drainAfterPeerClose)

/-! ## Resuming -/

theorem keeps_readPeerClosed (fds : List Fd) : Keeps config (readPeerClosed config fds) := by
  induction fds with
  | nil => exact keeps_pure ()
  | cons fd _ ih =>
    apply keeps_get
    intro _
    split
    · exact keeps_pure ()
    · exact (keeps_readSession fd false none).bind fun _ => ih

theorem records_resumeListener (hbooked : Booked io ledger)
    (hrunning : io.shutdownPhase = .running) (hreading : io.readsPaused = false)
    (hlimits : ∀ fd session, io.sessionsByFd.lookup fd = some session →
      session.maxPendingWriteBytes = config.maxPendingWriteBytes) :
    Records config (fun _ after later => Tuned config Set.univ after later ∧ Booked after later)
      resumeListener io ledger := by
  apply records_epollAddListener hbooked
  · change Records _ _ (modify addListener >>= pure) _ _
    apply records_modify
    apply records_pure
    refine ⟨⟨?_, hlimits, rfl, ?_⟩, { hbooked with }⟩
    · intro _ _ _ hout
      exact absurd trivial hout
    · simp [addListener, hrunning, hreading]
  · exact records_raise hbooked

theorem keeps_resumeReads : Keeps config (resumeReads config) := by
  intro io ledger hkept
  apply records_get
  intro _
  split
  · exact records_pure hkept
  next hpaused =>
  rw [not_or, not_not, Bool.not_eq_false] at hpaused
  have hout : io.listenerRegistered = false := by
    rw [hkept.tuned.listener, hpaused.1]
    simp
  have hbooked : Booked io.unpause ledger := { hkept.booked with }
  apply records_modify
  unfold onlyIf
  rw [if_pos hout]
  apply (records_resumeListener hbooked hpaused.2 rfl hkept.tuned.limits).bind
  rintro _ _ _ ⟨htuned, hbooked⟩
  apply records_sessionOrder hbooked
  intro _ _ hkeys
  apply (records_forEach_updateInterest (htuned.narrow ?_) hbooked).bind
  · rintro _ _ _ ⟨rfl, hkept⟩
    apply records_get
    intro _
    exact keeps_readPeerClosed _ _ _ hkept
  · intro _ _ hout
    by_contra hlive
    rw [← ne_eq, ← FiniteMap.mem_keys_iff, ← hkeys, List.mem_toFinset] at hlive
    exact hout hlive

theorem keeps_yieldForWorkBudget (budget : WorkBudget) :
    Keeps config (yieldForWorkBudget budget) := by
  apply keeps_get
  intro _
  split
  · exact keeps_call rfl
  · exact keeps_pure ()

theorem keeps_announceDeferred (budget : WorkBudget) :
    Keeps config (announceDeferred config budget) := by
  unfold announceDeferred
  split
  · exact (keeps_yieldForWorkBudget _).bind fun _ => keeps_pure _
  apply keeps_get
  intro _
  split
  · exact keeps_undefinedBehaviour
  apply (keeps_enqueueDisconnected _).bind
  intro _
  split
  · exact keeps_pure _
  apply (keeps_modify _).bind
  intro _
  apply keeps_ask rfl
  intro _
  split
  · exact keeps_pure _
  · exact keeps_pure _

theorem keeps_drainDeferredDisconnect (budget : WorkBudget) :
    Keeps config (drainDeferredDisconnect config budget) := by
  apply keeps_get
  intro _
  split
  · exact keeps_pure _
  split
  · exact (keeps_yieldForWorkBudget _).bind fun _ => keeps_pure _
  apply (keeps_enqueueDecodedPackets .deferred budget).bind
  rintro ⟨decoded, remaining⟩
  cases decoded with
  | stopped => exact (keeps_yieldForWorkBudget _).bind fun _ => keeps_pure _
  | all | malformed => exact keeps_announceDeferred remaining

theorem keeps_drainDeferredRead (budget : WorkBudget) :
    Keeps config (drainDeferredRead config budget) := by
  apply keeps_get
  intro io
  split
  · exact keeps_pure _
  next fd _ _ =>
  split
  · exact (keeps_yieldForWorkBudget _).bind fun _ => keeps_pure _
  split
  · exact (keeps_modify _).bind fun _ => keeps_pure _
  apply (keeps_enqueueDecodedPackets (.live fd) budget).bind
  rintro ⟨decoded, remaining⟩
  cases decoded with
  | stopped => exact (keeps_yieldForWorkBudget _).bind fun _ => keeps_pure _
  | malformed =>
    apply (keeps_modify _).bind
    intro _
    apply (keeps_disconnect (by simp)).bind
    intro _
    apply keeps_ask rfl
    intro _
    split
    · exact keeps_pure _
    · exact keeps_pure _
  | all =>
    apply (keeps_modify _).bind
    intro _
    apply keeps_get
    intro _
    split
    · exact (keeps_readSession fd true remaining).bind fun _ => keeps_pure _
    · exact keeps_pure _

theorem keeps_resumeIfDrained : Keeps config (resumeIfDrained config) := by
  apply keeps_ask rfl
  intro _
  apply keeps_get
  intro _
  split
  · apply (keeps_modify _).bind
    intro _
    split
    · exact keeps_resumeReads
    · exact keeps_pure ()
  · exact keeps_pure ()

theorem keeps_drainDeferredInput : Keeps config (drainDeferredInput config) := by
  apply (keeps_loop _ keeps_drainDeferredDisconnect).bind
  intro _
  split
  · exact keeps_pure _
  next budget =>
  apply (keeps_loop budget keeps_drainDeferredRead).bind
  intro _
  split
  · exact keeps_pure _
  apply keeps_get
  intro _
  split
  · exact keeps_pure _
  · exact keeps_resumeIfDrained.bind fun _ => keeps_pure _

/-! ## Writing -/

/-- While the loop goes on, the descriptor waits for `updateInterest`. -/
theorem records_flushWrite (htuned : Tuned config {fd} io ledger) (hbooked : Booked io ledger)
    (sentBytes : ℕ) :
    Records config (fun result => match result with
        | .inl _ | .inr true => fun after later =>
          Tuned config {fd} after later ∧ Booked after later
        | .inr false => Kept config) (flushWrite config fd sentBytes) io ledger := by
  apply records_get
  intro _
  cases hlookup : io.sessionsByFd.lookup fd with
  | none => exact records_undefinedBehaviour hbooked
  | some session =>
    dsimp only
    split
    · exact records_pure ⟨htuned, hbooked⟩
    split
    · exact records_pure ⟨htuned, hbooked⟩
    apply records_ask rfl hbooked
    intro sent
    cases sent with
    | zero | failed =>
      apply (records_disconnect (by simp) htuned hbooked).bind
      intro _ _ _ hkept
      exact records_pure hkept
    | wouldBlock =>
      apply (records_updateInterest htuned hbooked fd).bind
      rintro _ _ _ ⟨rfl, htuned, hbooked⟩
      exact records_pure (Kept.of_empty htuned hbooked (Set.sdiff_self))
    | sent byteCount =>
      dsimp only
      cases hconsume : session.consumeWrite byteCount with
      | error exception => exact records_raise hbooked
      | ok written =>
        apply records_modify
        apply records_pure
        refine ⟨htuned.setLive ?_ fun hout => absurd rfl hout, hbooked.setLive hlookup _⟩
        rw [(Session.consumeWrite_ok hconsume).2.2.2.2.1]
        exact htuned.limits fd session hlookup

theorem keeps_flushSession (fd : Fd) : Keeps config (flushSession config fd) := by
  intro io ledger hkept
  apply records_get
  intro _
  split
  · exact records_pure hkept
  have hflush : Records config (fun flushed => match flushed with
      | true => fun after later => Tuned config {fd} after later ∧ Booked after later
      | false => Kept config) (loop (flushWrite config fd) 0) io ledger := by
    apply Records.loop fun _ io ledger => Tuned config {fd} io ledger ∧ Booked io ledger
    · intro _ _ _ hinv
      exact hinv.2
    · rintro sentBytes io ledger ⟨htuned, hbooked⟩
      apply (records_flushWrite htuned hbooked sentBytes).mono
      intro result io ledger hpost
      cases result with
      | inl => exact hpost
      | inr flushed =>
        cases flushed with
        | true | false => exact hpost
    · exact ⟨hkept.tuned.widen (Set.empty_subset _), hkept.booked⟩
  apply hflush.bind
  intro flushed _ _ hpost
  cases flushed with
  | false => exact records_pure hpost
  | true =>
    obtain ⟨htuned, hbooked⟩ := hpost
    apply records_get
    intro _
    split
    · exact records_undefinedBehaviour hbooked
    split
    · exact records_disconnect (by simp) htuned hbooked
    · apply (records_updateInterest htuned hbooked fd).mono
      rintro _ _ _ ⟨rfl, htuned, hbooked⟩
      exact Kept.of_empty htuned hbooked Set.sdiff_self

theorem keeps_flushAllSessions : Keeps config (flushAllSessions config) := by
  apply keeps_ask rfl
  intro fds
  exact keeps_forEach fds keeps_flushSession

theorem records_deliver {message : OutputMessage} (htaken : ledger.taken = some message)
    (hkept : Kept config io ledger) :
    Records config (fun _ => Kept config) (deliver config message) io ledger := by
  apply records_get
  intro hconsistent
  cases hfd : io.fdBySession.lookup message.sessionId with
  | none => exact records_pure hkept
  | some fd =>
    dsimp only
    split
    · exact keeps_disconnect (by simp) io ledger hkept
    next hkind =>
    cases hlookup : io.sessionsByFd.lookup fd with
    | none => exact records_pure hkept
    | some session =>
      dsimp only
      split
      · exact records_pure hkept
      have hsame : session.fd = fd := hconsistent.session_fd fd session hlookup
      cases henqueue : session.tryEnqueue message.bytes with
      | none =>
        rw [hsame]
        apply records_invoke
        · rintro server _ rfl
          exact hkept.booked
        rintro _ _ _ _ _ _ rfl _ hrespond
        obtain ⟨rfl, _⟩ := respond_inert rfl hrespond
        apply records_removal hlookup
        · exact { hkept.tuned.widen (Set.empty_subset _) with }
        · exact hkept.booked.balance
        · rw [Ledger.recordDisconnect_self]
          exact congrArg (· + 1) hkept.booked.slow
        · exact hkept.booked.moved
        · intro _
          obtain ⟨_, hpresent, hid⟩ :=
            (hconsistent.session_iff message.sessionId fd).mp hfd
          rw [hlookup, Option.some.injEq] at hpresent
          subst hpresent
          refine ⟨session, message, hlookup, htaken, hid.symm, hkind, ?_⟩
          rw [← hkept.tuned.limits fd session hlookup]
          exact Session.tryEnqueue_none henqueue
      | some enqueued =>
        have hfd : enqueued.fd = fd := by
          rw [(Session.tryEnqueue_some henqueue).2.1]
          exact hsame
        have hlimit : enqueued.maxPendingWriteBytes = config.maxPendingWriteBytes := by
          rw [(Session.tryEnqueue_some henqueue).2.2.2.2.1]
          exact hkept.tuned.limits fd session hlookup
        have htuned : Tuned config {fd} io ledger :=
          hkept.tuned.widen (Set.empty_subset _)
        dsimp only
        rw [hfd]
        apply records_modify
        have hset : Tuned config {fd} (io.setSession (.live fd)
            (if message.kind = .sendBytesAndDisconnect then enqueued.closeAfterFlush
              else enqueued)) ledger := by
          apply htuned.setLive _ fun hout => absurd rfl hout
          split
          · exact hlimit
          · exact hlimit
        apply (records_updateInterest hset (hkept.booked.setLive hlookup _) fd).mono
        rintro _ _ _ ⟨rfl, htuned, hbooked⟩
        exact Kept.of_empty htuned hbooked Set.sdiff_self

theorem keeps_drainMessages (remaining : ℕ) : Keeps config (drainMessages config remaining) := by
  induction remaining with
  | zero => exact keeps_pure ()
  | succ _ ih =>
    intro io ledger hkept
    apply records_invoke
    · rintro server _ rfl
      exact hkept.booked
    rintro server now _ _ _ _ rfl _ hrespond
    cases Reply.unit?_map hrespond
    rw [Server.takeMessage_io]
    have htake : Kept config server.io (ledger.take now.outbox.tryPop.1.value) :=
      ⟨{ hkept.tuned with }, { hkept.booked with }⟩
    cases hpopped : now.outbox.tryPop.1.value with
    | none => exact records_pure (hpopped ▸ htake)
    | some =>
      rw [hpopped] at htake
      apply (records_deliver rfl htake).bind
      intro _ io ledger hkept
      exact ih io ledger hkept

theorem keeps_drainOutbound : Keeps config (drainOutbound config) := by
  apply (keeps_drainMessages _).bind
  intro _
  apply keeps_ask rfl
  intro _
  split
  · exact keeps_call rfl
  · exact keeps_pure ()

/-! ## Accepting and expiring -/

theorem records_close_absent (hnone : io.sessionsByFd.lookup fd = none)
    (hkept : Kept config io ledger) :
    Records config (fun _ => Kept config) (invoke (.close fd)) io ledger := by
  apply records_close
  apply records_pure
  exact ⟨hkept.tuned.watch_absent none hnone, { hkept.booked with }⟩

/-- What `acceptLoop` registers is what a new session asks for. -/
theorem interest_new (hrunning : io.shutdownPhase = .running)
    (hreading : io.readsPaused = false) {id limit : ℕ} :
    (io.register config fd).interest { fd, id, maxPendingWriteBytes := limit } =
      epollIn ||| epollRdhup := by
  simp [interest, IoState.register, hrunning, hreading, Session.hasPendingWrite, UInt32.or_comm]

theorem records_acceptConnection (hnone : io.sessionsByFd.lookup fd = none)
    (hrunning : io.shutdownPhase = .running) (hreading : io.readsPaused = false)
    (hkept : Kept config io ledger) :
    Records config (fun _ => Kept config) (acceptConnection config fd) io ledger := by
  apply records_get
  intro _
  split
  · exact records_close_absent hnone hkept
  apply records_ask rfl hkept.booked
  intro _
  split
  · exact records_close_absent hnone hkept
  have hbooked : Booked (io.register config fd) ledger := hkept.booked.register hnone
  apply records_register hkept.booked
  apply records_epollAdd hbooked
  · have htuned := (hkept.tuned.register fd).watch_interest (Finmap.lookup_insert io.sessionsByFd)
    rw [interest_new hrunning hreading, Set.sdiff_self] at htuned
    have hcounted : Booked (io.register config fd)
        (ledger.watch fd (some (epollIn ||| epollRdhup))) := { hbooked with }
    exact records_storeCurrentSessions hcounted ⟨{ htuned with }, { hcounted with }⟩
  · exact records_raise hbooked

theorem keeps_acceptBatch (remaining : ℕ) : Keeps config (acceptBatch config remaining) := by
  induction remaining with
  | zero => exact keeps_pure ()
  | succ _ ih =>
    apply keeps_ask rfl
    intro stop
    split
    · exact keeps_pure ()
    intro io ledger hkept
    apply records_invoke (hkept.booked.check rfl)
    rintro server _ _ accepted _ _ rfl ⟨_, hrunning, hreading, hopened⟩ hrespond
    simp only [respond, Option.map_eq_some_iff, Prod.mk.injEq] at hrespond
    obtain ⟨answer, hanswer, rfl, rfl, _⟩ := hrespond
    cases answer with
    | wouldBlock => exact records_pure hkept
    | failed => exact records_raise hkept.booked
    | accepted fd =>
      have hnone : server.io.sessionsByFd.lookup fd = none := by
        by_contra hlive
        obtain ⟨session, hlookup⟩ := Option.ne_none_iff_exists'.mp hlive
        exact Reply.accepted_not_open hanswer (hopened fd session hlookup)
      apply records_ask rfl hkept.booked
      intro _
      split
      · exact records_close_absent hnone hkept
      apply (records_acceptConnection hnone hrunning hreading hkept).bind
      intro _ io ledger hkept
      exact ih io ledger hkept

theorem keeps_acceptLoop : Keeps config (acceptLoop config) := by
  apply keeps_get
  intro _
  split
  · exact keeps_pure ()
  · exact keeps_acceptBatch _

theorem keeps_expireIdleSessions : Keeps config (expireIdleSessions config) := by
  apply keeps_ask rfl
  intro expired
  apply keeps_forEach expired
  intro _
  exact keeps_disconnect (by simp)

/-! ## Shutting down -/

theorem records_enterPhase {phase : ShutdownPhase}
    (hphase : phase ≠ .running ∧ phase ≠ .drainingInput) (hkept : Kept config io ledger) :
    Records config (fun _ => Kept config) (invoke (.enterPhase phase)) io ledger := by
  apply records_invoke
  · rintro server _ rfl
    exact hkept.booked
  rintro server _ _ _ _ _ rfl ⟨_, hchange⟩ hrespond
  cases Reply.unit?_map hrespond
  have hstopped : server.io.shutdownPhase ≠ .running := by
    intro hrunning
    cases phase with
    | running => exact hphase.1 rfl
    | drainingInput => exact hphase.2 rfl
    | drainingOutput | forced | complete => simp [PhaseChange, hrunning] at hchange
  exact records_pure ⟨hkept.tuned.enterPhase hstopped hphase.1, { hkept.booked with }⟩

theorem keeps_enterPhase {phase : ShutdownPhase}
    (hphase : phase ≠ .running ∧ phase ≠ .drainingInput) :
    Keeps config (invoke (.enterPhase phase)) :=
  fun _ _ => records_enterPhase hphase

theorem keeps_beginShutdown : Keeps config beginShutdown := by
  intro io ledger hkept
  apply records_get
  intro _
  split
  · exact records_pure hkept
  apply records_invoke
  · rintro server _ rfl
    exact hkept.booked
  rintro server _ _ _ _ later rfl _ hrespond
  cases Reply.unit?_map hrespond
  have hbooked : Booked (server.io.enterPhase .drainingInput).pause ledger :=
    { hkept.booked with }
  have htuned : Tuned config Set.univ (server.io.enterPhase .drainingInput).pause.dropListener
      (ledger.listen none) := { hkept.tuned.pause with
    interests := fun _ _ _ hin => absurd trivial hin
    listener := by simp [pause, dropListener] }
  apply records_modify
  apply records_removeListener hbooked
  intro later hbooked hlisten
  have hlater : later = ledger.listen none := hlisten hkept.tuned.listening
  subst hlater
  apply (records_updateInterests htuned hbooked).mono
  rintro _ _ _ ⟨rfl, hkept⟩
  exact hkept

theorem keeps_forceShutdown : Keeps config forceShutdown := by
  apply keeps_get
  intro _
  split
  · exact keeps_pure ()
  · apply keeps_ask rfl
    intro _
    exact keeps_enterPhase (by simp)

theorem keeps_completeShutdown : Keeps config (completeShutdown config) := by
  apply keeps_drainOutbound.bind
  intro _
  apply keeps_get
  intro io
  split
  · exact keeps_pure ()
  apply keeps_ask rfl
  intro _
  split
  · exact keeps_pure ()
  apply keeps_drainOutbound.bind
  intro _
  apply keeps_ask rfl
  intro _
  apply keeps_ask rfl
  intro _
  apply keeps_get
  intro _
  split
  · apply keeps_ask rfl
    intro _
    exact keeps_enterPhase (by simp)
  · exact keeps_pure ()

theorem keeps_advanceInput : Keeps config (advanceInput config) := by
  apply keeps_get
  intro _
  split
  · exact keeps_pure ()
  apply keeps_drainDeferredInput.bind
  intro _
  split
  · apply keeps_ask rfl
    intro _
    exact keeps_enterPhase (by simp)
  · exact keeps_pure ()

theorem keeps_advanceDraining : Keeps config (advanceDraining config) := by
  apply keeps_drainOutbound.bind
  intro _
  apply keeps_ask rfl
  intro late
  split
  · exact keeps_forceShutdown
  apply keeps_advanceInput.bind
  intro _
  apply keeps_ask rfl
  intro _
  split
  · exact keeps_forceShutdown
  · exact keeps_completeShutdown

theorem keeps_advanceShutdown : Keeps config (advanceShutdown config) := by
  apply keeps_get
  intro io
  split
  · exact keeps_pure ()
  apply keeps_ask rfl
  intro _
  apply (keeps_onlyIf keeps_forceShutdown).bind
  intro _
  apply keeps_get
  intro _
  split
  · apply keeps_ask rfl
    intro _
    split
    · exact keeps_enterPhase (by simp)
    · exact keeps_pure ()
  · exact keeps_advanceDraining

/-! ## Closing -/

theorem records_forEach_closeConnection {fds : List Fd}
    (hbalance : io.nextSessionId = 1 + fds.length + ledger.removed)
    (hslow : ledger.slowClientDisconnects = ledger.disconnects .pendingWriteLimit) :
    Records config (fun _ => fun after later => Booked after.clear later)
      (forEach closeConnection fds) io ledger := by
  induction fds generalizing ledger with
  | nil => exact records_pure ⟨hbalance, hslow, rfl⟩
  | cons fd _ ih =>
    have hclose : Records config (fun _ after later => after = io ∧
        later.removed = ledger.removed + 1 ∧
        later.slowClientDisconnects = later.disconnects .pendingWriteLimit)
        (closeConnection fd) io ledger := by
      apply records_recordDisconnect (by simp)
      apply records_epollRemove
      apply records_close
      apply records_pure
      refine ⟨rfl, ledger.removed_recordDisconnect .shutdown, ?_⟩
      have hother : DisconnectReason.pendingWriteLimit ≠ .shutdown := by simp
      exact hslow.trans (ledger.recordDisconnect_of_ne hother).symm
    apply hclose.bind
    rintro _ _ _ ⟨rfl, hremoved, hslow⟩
    apply ih _ hslow
    rw [hremoved, hbalance, List.length_cons]
    omega

theorem records_closeNetworkResources (hbooked : Booked io ledger) :
    Records config (fun _ => Booked) closeNetworkResources io ledger := by
  apply records_removeListener hbooked
  intro _ hbooked _
  apply records_sessionOrder hbooked
  intro fds hnodup hkeys
  have hbalance := hbooked.balance
  unfold ConnectionTables.sessionCount at hbalance
  rw [hbooked.moved, ← hkeys, List.toFinset_card_of_nodup hnodup] at hbalance
  apply (records_forEach_closeConnection hbalance hbooked.slow).bind
  intro _ _ _ hcleared
  apply records_modify
  exact records_pure hcleared

/-! ## The event loop -/

theorem keeps_handleSessionEvent (fd : Fd) (event : EpollEvent) :
    Keeps config (handleSessionEvent config fd event) := by
  have hread : Keeps config (readOrDefer config fd event) := by
    apply keeps_get
    intro io
    split
    · exact (keeps_readSession fd false none).bind fun _ => keeps_pure ()
    split
    · exact keeps_modify _
    · exact keeps_pure ()
  unfold handleSessionEvent
  split
  · exact keeps_disconnect (by simp)
  intro io ledger hkept
  apply records_get
  intro _
  cases hlookup : io.sessionsByFd.lookup fd with
  | none => exact records_pure hkept
  | some session =>
    have hmark : Records config (fun _ => Kept config) (onlyIf event.peerClose
        (modify (setSession (.live fd) session.markPeerReadClosed))) io ledger := by
      have hsession : io.session? (.live fd) = some session := hlookup
      unfold onlyIf
      split
      · change Records _ _ (modify _ >>= pure) _ _
        apply records_modify
        exact records_pure (hkept.setSession hsession rfl rfl rfl)
      · exact records_pure hkept
    apply hmark.bind
    intro _ io ledger hkept
    apply (hread io ledger hkept).bind
    intro _ io ledger hkept
    apply records_get
    intro _
    split
    · exact keeps_flushSession fd io ledger hkept
    · exact records_pure hkept

theorem keeps_handleEvent (event : EpollEvent) : Keeps config (handleEvent config event) := by
  unfold handleEvent
  split
  · unfold handleOutboundWakeup
    apply keeps_ask rfl
    intro drained
    split
    · exact keeps_raise _
    apply keeps_get
    intro io
    split
    · exact keeps_drainOutbound
    · exact keeps_pure ()
  split
  · unfold handleInputCapacityWakeup
    apply keeps_ask rfl
    intro _
    split
    · exact keeps_raise _
    apply keeps_get
    intro io
    split
    · exact keeps_drainDeferredInput.bind fun _ => keeps_pure ()
    · exact keeps_pure ()
  split
  · unfold handleListener
    apply keeps_get
    intro io
    split
    · exact keeps_acceptLoop
    · exact keeps_pure ()
  apply keeps_get
  intro _
  split
  · exact keeps_pure ()
  split
  · exact keeps_handleSessionEvent _ event
  · exact keeps_pure ()

theorem keeps_handleEvents (events : List EpollEvent) :
    Keeps config (handleEvents config events) := by
  induction events with
  | nil => exact keeps_pure ()
  | cons event _ ih =>
    apply keeps_ask rfl
    intro _
    apply (keeps_onlyIf keeps_beginShutdown).bind
    intro _
    apply keeps_get
    intro _
    apply keeps_ask rfl
    intro _
    split
    · exact keeps_forceShutdown
    · exact (keeps_handleEvent event).bind fun _ => ih

theorem keeps_handleBatch (events : List EpollEvent) :
    Keeps config (handleBatch config events) := by
  apply (keeps_handleEvents events).bind
  intro _
  apply keeps_get
  intro io
  apply (keeps_onlyIf keeps_drainOutbound).bind
  intro _
  apply keeps_get
  intro _
  apply (keeps_onlyIf keeps_expireIdleSessions).bind
  intro _
  exact keeps_advanceShutdown

/-- What is checked where the loop starts a round and where it waits. -/
theorem keeps_boundary {α : Type} {request : IoCall} {rest : IoAnswer request → Io α}
    (hrequest : request = .loopHead ∨ request = .wait)
    (hrest : ∀ answer, Keeps config (rest answer)) :
    Keeps config (invoke request >>= rest) := by
  intro _ _ hkept
  rcases hrequest with rfl | rfl
  · apply records_invoke
    · rintro server _ rfl
      exact hkept
    rintro server now reply answer after later rfl _ hrespond
    cases Reply.unit?_map hrespond
    exact hrest _ _ _ hkept
  · apply records_invoke
    · rintro server _ rfl
      exact hkept
    rintro _ _ _ _ _ _ rfl _ hrespond
    obtain ⟨rfl, _⟩ := respond_inert rfl hrespond
    exact hrest _ _ _ hkept

theorem keeps_serveOnce : Keeps config (serveOnce config ()) := by
  apply keeps_boundary (.inl rfl)
  intro _
  apply keeps_get
  intro io
  split
  · exact keeps_pure _
  apply keeps_ask rfl
  intro _
  apply (keeps_onlyIf keeps_beginShutdown).bind
  intro _
  apply keeps_advanceShutdown.bind
  intro _
  apply keeps_get
  intro _
  split
  · exact keeps_pure _
  apply keeps_boundary (.inr rfl)
  intro events
  cases events with
  | none => exact keeps_raise _
  | some events => exact (keeps_handleBatch events).bind fun _ => keeps_pure _

theorem records_abandon (hbooked : Booked io ledger) (exception : ServerException) :
    Records config (fun _ => Kept config) (abandon exception) io ledger := by
  apply records_ask rfl hbooked
  intro _
  apply records_ask rfl hbooked
  intro _
  apply records_ask rfl hbooked
  intro _
  apply (records_closeNetworkResources hbooked).bind
  rintro _ _ _ hbooked _ _ rfl
  exact Environment.safe_throw hbooked

theorem records_run (hkept : Kept config io ledger) :
    Records config (fun _ => Booked) (run config) io ledger := by
  have hloop : Keeps config (loop (serveOnce config) ()) :=
    keeps_loop () fun _ => keeps_serveOnce
  have hcaught : Records config (fun _ => Kept config)
      (tryCatch (loop (serveOnce config) ()) abandon) io ledger := by
    apply (hloop io ledger hkept).tryCatch
    intro exception io ledger hbooked
    exact records_abandon hbooked exception
  apply hcaught.bind
  intro _ io ledger hkept
  apply records_ask rfl hkept.booked
  intro _
  apply records_get
  intro _
  have hlast : Keeps config (onlyIf (io.forcedShutdown = false) do
      drainOutbound config
      flushAllSessions config) := by
    apply keeps_onlyIf
    apply keeps_drainOutbound.bind
    intro _
    exact keeps_flushAllSessions
  apply (hlast io ledger hkept).bind
  intro _ _ _ hkept
  exact records_closeNetworkResources hkept.booked

end SessionServer.TcpServer
