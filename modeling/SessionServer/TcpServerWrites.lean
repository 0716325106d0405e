import SessionServer.TcpServerState

/-!
# What a session is to be sent

The bytes of the messages addressed to a session, in the order of the outbox,
up to the message that closes it.  A session accounts for them: what `send` has
taken, followed by what is still pending, is exactly those bytes.
-/

namespace SessionServer.TcpServer

open Protocol List

variable {byteCount : ℕ} {bytes : Bytes}

/-! ## The bytes of the messages -/

def outboundBytes : List OutputMessage → Bytes
  | [] => []
  | message :: rest =>
    match message.kind with
    | .sendBytes => message.bytes ++ outboundBytes rest
    | .sendBytesAndDisconnect => message.bytes
    | .disconnectSession => outboundBytes rest

/-- One of the messages closes the session. -/
def closesSession (messages : List OutputMessage) : Bool :=
  messages.any fun message => message.kind = .sendBytesAndDisconnect

theorem closesSession_append (messages : List OutputMessage) (message : OutputMessage) :
    closesSession (messages ++ [message]) =
      (closesSession messages || message.kind = .sendBytesAndDisconnect) := by
  unfold closesSession
  simp

/-- Nothing counts after the message that closes the session. -/
theorem outboundBytes_append_of_closed {messages : List OutputMessage}
    (hclosed : closesSession messages = true) (message : OutputMessage) :
    outboundBytes (messages ++ [message]) = outboundBytes messages := by
  induction messages with
  | nil => cases hclosed
  | cons first _ ih =>
    rw [cons_append]
    unfold outboundBytes
    cases hkind : first.kind with
    | sendBytesAndDisconnect => rfl
    | sendBytes =>
      rw [ih]
      simpa [closesSession, hkind] using hclosed
    | disconnectSession =>
      apply ih
      simpa [closesSession, hkind] using hclosed

theorem outboundBytes_append_of_open {messages : List OutputMessage}
    (hopen : closesSession messages = false) (message : OutputMessage) :
    outboundBytes (messages ++ [message]) =
      outboundBytes messages ++
        (if message.kind = .disconnectSession then [] else message.bytes) := by
  induction messages with
  | nil =>
    cases hkind : message.kind with
    | sendBytes | sendBytesAndDisconnect | disconnectSession => simp [outboundBytes, hkind]
  | cons first rest ih =>
    have hrest : closesSession rest = false := by
      unfold closesSession at hopen ⊢
      rw [any_cons, Bool.or_eq_false_iff] at hopen
      exact hopen.2
    rw [cons_append]
    cases hkind : first.kind with
    | sendBytes =>
      simp only [outboundBytes, hkind]
      rw [ih hrest, append_assoc]
    | sendBytesAndDisconnect => simp [closesSession, hkind] at hopen
    | disconnectSession =>
      simp only [outboundBytes, hkind]
      exact ih hrest

theorem outboundBytes_prefix_append (messages : List OutputMessage) (message : OutputMessage) :
    outboundBytes messages <+: outboundBytes (messages ++ [message]) := by
  cases hclosed : closesSession messages with
  | true => rw [outboundBytes_append_of_closed hclosed]
  | false =>
    rw [outboundBytes_append_of_open hclosed]
    exact prefix_append _ _

/-! ## Sessions -/

namespace Session

def pendingBytes (session : Session) : Bytes :=
  session.pendingWrites.flatMap fun write => write.bytes.drop write.offset

/-- What was sent and what is pending are the bytes of the messages. -/
structure Owes (session : Session) (sent : Bytes) (messages : List OutputMessage) : Prop where
  bytes : sent ++ session.pendingBytes = outboundBytes messages
  closing : session.closingAfterFlush = closesSession messages

variable {session after : Session} {sent : Bytes} {messages : List OutputMessage}

theorem Owes.sent_prefix_bytes (howes : session.Owes sent messages) :
    sent <+: outboundBytes messages := by
  rw [← howes.bytes]
  exact prefix_append _ _

theorem Owes.congr (howes : session.Owes sent messages)
    (hwrites : after.pendingWrites = session.pendingWrites)
    (hclosing : after.closingAfterFlush = session.closingAfterFlush) :
    after.Owes sent messages := by
  constructor
  · unfold pendingBytes
    rw [hwrites]
    exact howes.bytes
  · rw [hclosing]
    exact howes.closing

/-- A message that is no bytes, or that comes too late, changes nothing. -/
theorem Owes.ignore (howes : session.Owes sent messages) {message : OutputMessage}
    (hignored : message.kind = .disconnectSession ∨ session.closingAfterFlush = true) :
    session.Owes sent (messages ++ [message]) := by
  have hclosing := howes.closing
  by_cases hclosed : closesSession messages = true
  · constructor
    · rw [outboundBytes_append_of_closed hclosed]
      exact howes.bytes
    · rw [closesSession_append, hclosing, hclosed, Bool.true_or]
  · have hkind : message.kind = .disconnectSession := by
      rcases hignored with hkind | hflag
      · exact hkind
      · rw [hclosing] at hflag
        exact absurd hflag hclosed
    rw [Bool.not_eq_true] at hclosed
    constructor
    · rw [outboundBytes_append_of_open hclosed, if_pos hkind, append_nil]
      exact howes.bytes
    · rw [closesSession_append, hclosing, hkind]
      simp

theorem Owes.enqueue {message : OutputMessage} (howes : session.Owes sent messages)
    (hkind : message.kind ≠ .disconnectSession) (hopen : session.closingAfterFlush = false)
    (henqueue : session.tryEnqueue message.bytes = some after) :
    (if message.kind = .sendBytesAndDisconnect then after.closeAfterFlush else after).Owes
      sent (messages ++ [message]) := by
  have hclosed : closesSession messages = false := by
    rw [← howes.closing]
    exact hopen
  unfold tryEnqueue at henqueue
  split at henqueue
  · cases henqueue
  split at henqueue
  · cases henqueue
  cases henqueue
  have hbytes : sent ++ (session.pendingBytes ++ message.bytes) =
      outboundBytes (messages ++ [message]) := by
    rw [outboundBytes_append_of_open hclosed, if_neg hkind, ← howes.bytes, append_assoc]
  have hpending : (session.pendingWrites ++ [(⟨message.bytes, 0⟩ : PendingWrite)]).flatMap
      (fun write => write.bytes.drop write.offset) =
      session.pendingBytes ++ message.bytes := by
    rw [flatMap_append, flatMap_singleton]
    rfl
  rw [← hpending] at hbytes
  by_cases hlast : message.kind = .sendBytesAndDisconnect
  · rw [if_pos hlast]
    refine ⟨hbytes, ?_⟩
    rw [closesSession_append, hlast]
    simp [closeAfterFlush]
  · rw [if_neg hlast]
    refine ⟨hbytes, ?_⟩
    rw [closesSession_append, hclosed]
    simp [hlast, hopen]

/-- A write that is consumed changes nothing but the pending writes. -/
theorem consumeWrite_ok (hconsume : session.consumeWrite byteCount = .ok after) :
    after.id = session.id ∧ after.fd = session.fd ∧ after.codec = session.codec ∧
      after.nextEventSequence = session.nextEventSequence ∧
      after.maxPendingWriteBytes = session.maxPendingWriteBytes ∧
      after.closingAfterFlush = session.closingAfterFlush := by
  unfold consumeWrite at hconsume
  split at hconsume
  · cases hconsume
  · split at hconsume
    · cases hconsume
    · cases hconsume
      exact ⟨rfl, rfl, rfl, rfl, rfl, rfl⟩

theorem tryEnqueue_some (henqueue : session.tryEnqueue bytes = some after) :
    after.id = session.id ∧ after.fd = session.fd ∧ after.codec = session.codec ∧
      after.nextEventSequence = session.nextEventSequence ∧
      after.maxPendingWriteBytes = session.maxPendingWriteBytes ∧
      after.closingAfterFlush = session.closingAfterFlush := by
  unfold tryEnqueue at henqueue
  split at henqueue
  · cases henqueue
  · split at henqueue
    · cases henqueue
    · cases henqueue
      exact ⟨rfl, rfl, rfl, rfl, rfl, rfl⟩

/-- What is consumed comes first among what was pending. -/
theorem pendingBytes_consumeWrite {write : PendingWrite} {rest : List PendingWrite}
    (hwrites : session.pendingWrites = write :: rest)
    (hconsume : session.consumeWrite byteCount = .ok after) :
    (write.bytes.drop write.offset).take byteCount ++ after.pendingBytes =
      session.pendingBytes := by
  have hpending : session.pendingBytes = (write.bytes.drop write.offset).take byteCount ++
      (write.bytes.drop (write.offset + byteCount) ++
        rest.flatMap fun write => write.bytes.drop write.offset) := by
    unfold pendingBytes
    rw [hwrites, flatMap_cons, ← append_assoc, ← drop_drop, take_append_drop]
  unfold consumeWrite at hconsume
  rw [hwrites] at hconsume
  dsimp only at hconsume
  split at hconsume
  · cases hconsume
  cases hconsume
  rw [hpending, append_cancel_left_eq]
  unfold pendingBytes
  split
  · next hend => rw [hend, drop_length, nil_append]
  · rw [flatMap_cons]

theorem Owes.consume {write : PendingWrite} {rest : List PendingWrite} {size : ℕ}
    (howes : session.Owes sent messages) (hwrites : session.pendingWrites = write :: rest)
    (hcount : byteCount ≤ ((write.bytes.drop write.offset).take size).length)
    (hconsume : session.consumeWrite byteCount = .ok after) :
    after.Owes (sent ++ ((write.bytes.drop write.offset).take size).take byteCount) messages := by
  have htake : ((write.bytes.drop write.offset).take size).take byteCount =
      (write.bytes.drop write.offset).take byteCount := by
    rw [length_take] at hcount
    rw [take_take, Nat.min_eq_left (hcount.trans (Nat.min_le_left _ _))]
  constructor
  · rw [htake, append_assoc, pendingBytes_consumeWrite hwrites hconsume]
    exact howes.bytes
  · rw [(consumeWrite_ok hconsume).2.2.2.2.2]
    exact howes.closing

theorem Owes.flushed (howes : session.Owes sent messages)
    (hnone : session.hasPendingWrite = false) : sent = outboundBytes messages := by
  have hwrites : session.pendingWrites = [] := by
    simpa [hasPendingWrite] using hnone
  have hbytes := howes.bytes
  unfold pendingBytes at hbytes
  rw [hwrites, flatMap_nil, append_nil] at hbytes
  exact hbytes

/-- Bytes are refused when there are none, or when they do not fit. -/
theorem tryEnqueue_none (hrefused : session.tryEnqueue bytes = none) :
    bytes = [] ∨ session.maxPendingWriteBytes < session.pendingWriteBytes + bytes.length := by
  unfold tryEnqueue at hrefused
  split at hrefused
  · next hempty => exact .inl (isEmpty_iff.mp hempty)
  · split at hrefused
    · right
      omega
    · cases hrefused

end Session

end SessionServer.TcpServer
