import SessionServer.TcpServerWrites

/-!
# The write queue of a session

A session counts the bytes that are still to be sent.  Over every sequence of
calls the count is right, it stays within the limit, and no byte is lost,
repeated or reordered.
-/

namespace SessionServer.TcpServer.Session

open Protocol List

/-! ## The calls, with the session they leave behind -/

/-- `tryEnqueue` as it changes the session, statement by statement. -/
def runTryEnqueue (session : Session) (bytes : Bytes) : Bool × Session :=
  if bytes.isEmpty then (false, session)
  else if bytes.length > session.maxPendingWriteBytes - session.pendingWriteBytes then
    (false, session)
  else
    let session : Session := { session with
      pendingWrites := session.pendingWrites ++ [{ bytes }] }
    let session := { session with
      pendingWriteBytes := session.pendingWriteBytes + bytes.length }
    (true, session)

/-- `consumeWrite` likewise: the offset moves, the count goes down, and a write
that is finished is popped. -/
def runConsumeWrite (session : Session) (byteCount : ℕ) :
    Except ServerException Unit × Session :=
  match session.pendingWrites with
  | [] => (.error (.logicError "no pending write to consume"), session)
  | write :: rest =>
    let remaining := write.bytes.length - write.offset
    if byteCount > remaining then
      (.error (.logicError "consume exceeds pending write"), session)
    else
      let write := { write with offset := write.offset + byteCount }
      let session := { session with pendingWrites := write :: rest }
      let session := { session with pendingWriteBytes := session.pendingWriteBytes - byteCount }
      if write.offset = write.bytes.length then
        (.ok (), { session with pendingWrites := rest })
      else (.ok (), session)

variable {session after : Session} {bytes : Bytes} {byteCount : ℕ}

theorem runTryEnqueue_eq (session : Session) (bytes : Bytes) :
    session.runTryEnqueue bytes =
      match session.tryEnqueue bytes with
      | some after => (true, after)
      | none => (false, session) := by
  unfold runTryEnqueue tryEnqueue
  by_cases hempty : bytes.isEmpty = true
  · rw [if_pos hempty, if_pos hempty]
  · rw [if_neg hempty, if_neg hempty]
    split <;> rfl

theorem runConsumeWrite_eq (session : Session) (byteCount : ℕ) :
    session.runConsumeWrite byteCount =
      match session.consumeWrite byteCount with
      | .ok after => (.ok (), after)
      | .error failure => (.error failure, session) := by
  unfold runConsumeWrite consumeWrite
  cases session.pendingWrites with
  | nil => rfl
  | cons =>
    dsimp only
    split
    · rfl
    · dsimp only
      split <;> rfl

/-! ## Histories -/

inductive WriteCall
  | tryEnqueue (bytes : Bytes)
  | consumeWrite (byteCount : ℕ)

/-- What `send` is offered first. -/
def currentBytes (session : Session) : Bytes :=
  (session.pendingWrites.head?.map fun write => write.bytes.drop write.offset).getD []

/-- A session with the messages it accepted and the bytes it let go. -/
structure WriteHistory where
  session : Session
  accepted : List Bytes := []
  consumed : Bytes := []

namespace WriteHistory

def call (history : WriteHistory) : WriteCall → WriteHistory
  | .tryEnqueue bytes =>
    match history.session.runTryEnqueue bytes with
    | (true, session) => { history with session, accepted := history.accepted ++ [bytes] }
    | (false, session) => { history with session }
  | .consumeWrite byteCount =>
    match history.session.runConsumeWrite byteCount with
    | (.ok _, session) => { history with
        session
        consumed := history.consumed ++ history.session.currentBytes.take byteCount }
    | (.error _, session) => { history with session }

/-- The accounts of the write queue are in order. -/
structure Balanced (history : WriteHistory) (limit : ℕ) : Prop where
  limit_eq : history.session.maxPendingWriteBytes = limit
  pending_eq : history.session.pendingWriteBytes =
    (history.session.pendingWrites.map fun write => write.bytes.length - write.offset).sum
  pending_le : history.session.pendingWriteBytes ≤ history.session.maxPendingWriteBytes
  offset_lt : ∀ write ∈ history.session.pendingWrites, write.offset < write.bytes.length
  bytes_eq : history.consumed ++ history.session.pendingBytes = history.accepted.flatten

variable {history : WriteHistory} {limit : ℕ}

theorem Balanced.tryEnqueue (hbalanced : history.Balanced limit)
    (henqueue : history.session.tryEnqueue bytes = some after) :
    Balanced { history with session := after, accepted := history.accepted ++ [bytes] } limit := by
  obtain ⟨hlimit, hpending, _, hoffset, hbytes⟩ := hbalanced
  unfold Session.tryEnqueue at henqueue
  split at henqueue
  · cases henqueue
  next hempty =>
  have hpositive : 0 < bytes.length := length_pos_of_ne_nil (by simpa using hempty)
  split at henqueue
  · cases henqueue
  cases henqueue
  constructor
  · exact hlimit
  · simp [hpending]
  · dsimp only
    omega
  · rw [forall_mem_append, forall_mem_singleton]
    exact ⟨hoffset, hpositive⟩
  · simp only [pendingBytes] at hbytes ⊢
    simp [← hbytes]

theorem Balanced.consumeWrite (hbalanced : history.Balanced limit)
    (hconsume : history.session.consumeWrite byteCount = .ok after) :
    byteCount ≤ history.session.pendingWriteBytes ∧
      Balanced { history with
        session := after
        consumed := history.consumed ++ history.session.currentBytes.take byteCount } limit := by
  obtain ⟨hlimit, hpending, hle, hoffset, hbytes⟩ := hbalanced
  cases hwrites : history.session.pendingWrites with
  | nil => simp [Session.consumeWrite, hwrites] at hconsume
  | cons write rest =>
  have hmoved : history.session.currentBytes.take byteCount ++ after.pendingBytes =
      history.session.pendingBytes := by
    simpa [currentBytes, hwrites] using pendingBytes_consumeWrite hwrites hconsume
  simp only [Session.consumeWrite, hwrites] at hconsume
  rw [hwrites] at hpending hoffset
  have hfirst := hoffset write mem_cons_self
  rw [map_cons, sum_cons] at hpending
  split at hconsume
  · cases hconsume
  next hcount =>
  cases hconsume
  refine ⟨by omega, hlimit, ?_, ?_, ?_, ?_⟩
  · dsimp only
    split
    · omega
    · simp only [map_cons, sum_cons]
      omega
  · dsimp only
    omega
  · intro other hother
    split at hother
    · exact hoffset other (mem_cons_of_mem _ hother)
    · rcases mem_cons.mp hother with rfl | hrest
      · dsimp only
        omega
      · exact hoffset other (mem_cons_of_mem _ hrest)
  · rw [append_assoc, ← hbytes, ← hmoved]

theorem Balanced.call (hbalanced : history.Balanced limit) (next : WriteCall) :
    (history.call next).Balanced limit := by
  cases next with
  | tryEnqueue bytes =>
    rw [WriteHistory.call, runTryEnqueue_eq]
    cases henqueue : history.session.tryEnqueue bytes with
    | none => exact hbalanced
    | some => exact hbalanced.tryEnqueue henqueue
  | consumeWrite byteCount =>
    rw [WriteHistory.call, runConsumeWrite_eq]
    cases hconsume : history.session.consumeWrite byteCount with
    | error => exact hbalanced
    | ok => exact (hbalanced.consumeWrite hconsume).2

theorem Balanced.calls (hbalanced : history.Balanced limit) (calls : List WriteCall) :
    (calls.foldl WriteHistory.call history).Balanced limit := by
  induction calls generalizing history with
  | nil => exact hbalanced
  | cons next _ ih => exact ih (hbalanced.call next)

end WriteHistory

/-- The write queue after any calls: its accounts are in order, so that the
subtraction of `tryEnqueue` and those of `consumeWrite` do not wrap around, and
a call that fails leaves the session as it was. -/
theorem writeQueue_balanced (fd : Fd) (id limit : ℕ) (calls : List WriteCall) :
    let history := calls.foldl WriteHistory.call
      { session := { fd, id, maxPendingWriteBytes := limit } }
    history.Balanced limit ∧
      (∀ byteCount, (history.session.runConsumeWrite byteCount).1 = .ok () →
        byteCount ≤ history.session.pendingWriteBytes) ∧
      (∀ bytes, (history.session.runTryEnqueue bytes).1 = false →
        (history.session.runTryEnqueue bytes).2 = history.session) ∧
      ∀ byteCount failure, (history.session.runConsumeWrite byteCount).1 = .error failure →
        (history.session.runConsumeWrite byteCount).2 = history.session := by
  intro history
  have hfresh : WriteHistory.Balanced
      { session := { fd, id, maxPendingWriteBytes := limit } } limit :=
    ⟨rfl, rfl, Nat.zero_le _, by simp, rfl⟩
  have hbalanced : history.Balanced limit := hfresh.calls calls
  refine ⟨hbalanced, ?_, ?_, ?_⟩
  · intro byteCount hreply
    rw [runConsumeWrite_eq] at hreply
    cases hconsume : history.session.consumeWrite byteCount with
    | error =>
      rw [hconsume] at hreply
      cases hreply
    | ok => exact (hbalanced.consumeWrite hconsume).1
  · intro bytes hreply
    rw [runTryEnqueue_eq] at hreply ⊢
    cases henqueue : history.session.tryEnqueue bytes with
    | none => rfl
    | some =>
      rw [henqueue] at hreply
      cases hreply
  · intro byteCount _ hreply
    rw [runConsumeWrite_eq] at hreply ⊢
    cases hconsume : history.session.consumeWrite byteCount with
    | error => rfl
    | ok =>
      rw [hconsume] at hreply
      cases hreply

end SessionServer.TcpServer.Session
