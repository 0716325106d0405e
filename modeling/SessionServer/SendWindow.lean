import Mathlib.Algebra.Ring.Nat
import Mathlib.Data.List.OfFn
import SessionServer.TransitionSystem

/-!
# The send window of the load runner

The senders of a room take their turns by ticket, and no ticket is given out
while too many messages are under way to the slowest receiver.  A sender waits
on a condition variable and may look at its condition at any time; it may also
give up.
-/

namespace SessionServer.SendWindow

open List TransitionSystem

variable {count : ℕ}

/-- The exceptions of `acquireSendPermit`. -/
inductive Failure
  | overflowError (message : String)
  | runtimeError (message : String)
  deriving DecidableEq, Repr

structure ReceiveProgress (count : ℕ) where
  receivedByClient : Fin count → ℕ := fun _ => 0
  nextTicket : ℕ := 0
  maxOutstandingMessages : ℕ
  failed : Bool := false

def minimumReceived (progress : ReceiveProgress count) : Option ℕ :=
  (List.ofFn progress.receivedByClient).min?

def checkedProduct (left right : ℕ) : Except Failure ℕ :=
  if right ≠ 0 ∧ left > (2 ^ 64 - 1) / right then
    .error (.overflowError "scenario receiver count overflow")
  else .ok (left * right)

/-- The condition a sender waits for. -/
def mayProceed (progress : ReceiveProgress count) (ticket : ℕ) : Bool :=
  progress.failed ||
    match minimumReceived progress with
    | none => false
    | some minimum =>
      ticket == progress.nextTicket &&
        (progress.nextTicket ≤ minimum ||
          progress.nextTicket - minimum < progress.maxOutstandingMessages)

/-- One look at the condition, under the lock; `none` if the sender waits on. -/
def acquireSendPermit (progress : ReceiveProgress count) (sender sequence senderCount : ℕ) :
    Except Failure (Option (ReceiveProgress count)) :=
  match checkedProduct sequence senderCount with
  | .error failure => .error failure
  | .ok ticketBase =>
    if sender > 2 ^ 64 - 1 - ticketBase then
      .error (.overflowError "scenario send ticket overflow")
    else if !mayProceed progress (ticketBase + sender) then .ok none
    else if progress.failed then .error (.runtimeError "scenario progress failed")
    else .ok (some { progress with nextTicket := (progress.nextTicket + 1) % 2 ^ 64 })

/-! ## A room -/

structure Room (count : ℕ) where
  progress : ReceiveProgress count
  sequence : Fin count → ℕ := fun _ => 0
  stopped : Fin count → Bool := fun _ => false
  granted : List (ℕ × ℕ) := []

inductive Action (count : ℕ)
  | acquire (sender : Fin count)
  | giveUp (sender : Fin count)
  | report (receiver : Fin count) (received : ℕ)
  | recordFailure

def step (messagesPerSender : ℕ) (room : Room count) : Action count → Option (Room count)
  | .acquire sender =>
    if room.stopped sender ∨ messagesPerSender ≤ room.sequence sender then none
    else
      match acquireSendPermit room.progress sender (room.sequence sender) count with
      | .error _ => some { room with stopped := Function.update room.stopped sender true }
      | .ok none => some room
      | .ok (some progress) => some { room with
          progress
          sequence := Function.update room.sequence sender (room.sequence sender + 1)
          granted := room.granted ++ [(sender.val, room.sequence sender)] }
  | .giveUp sender => some { room with stopped := Function.update room.stopped sender true }
  | .report receiver received =>
    if room.progress.receivedByClient receiver ≤ received ∧ received < 2 ^ 64 then
      some { room with progress.receivedByClient :=
        Function.update room.progress.receivedByClient receiver received }
    else none
  | .recordFailure => some { room with progress.failed := true }

structure Invariant (window : ℕ) (room : Room count) : Prop where
  next_eq : room.progress.nextTicket = room.granted.length % 2 ^ 64
  window_eq : room.progress.maxOutstandingMessages = window
  granted_eq : room.granted =
    (range room.granted.length).map fun ticket => (ticket % count, ticket / count)
  ahead : ∀ sender : Fin count, room.granted.length ≤ room.sequence sender * count + sender
  within : ∀ receiver, room.granted.length ≤ window + room.progress.receivedByClient receiver

/-- What a granted permit says about the ticket. -/
structure Permit (progress after : ReceiveProgress count) (ticket : ℕ) : Prop where
  after_eq : after = { progress with nextTicket := (progress.nextTicket + 1) % 2 ^ 64 }
  ticket_lt : ticket < 2 ^ 64
  ticket_eq : ticket = progress.nextTicket
  within : ∀ receiver, progress.nextTicket < progress.receivedByClient receiver +
    max 1 progress.maxOutstandingMessages

theorem permit_of_acquireSendPermit {progress after : ReceiveProgress count}
    {sender sequence senderCount : ℕ}
    (hacquire : acquireSendPermit progress sender sequence senderCount = .ok (some after)) :
    Permit progress after (sequence * senderCount + sender) := by
  unfold acquireSendPermit checkedProduct at hacquire
  split at hacquire
  · cases hacquire
  next ticketBase hproduct =>
  split at hproduct
  · cases hproduct
  next hbase =>
  cases hproduct
  split at hacquire
  · cases hacquire
  next hticket =>
  split at hacquire
  · cases hacquire
  next hproceed =>
  split at hacquire
  · cases hacquire
  next hfailed =>
  cases hacquire
  have hlt : sequence * senderCount < 2 ^ 64 := by
    by_cases hzero : senderCount = 0
    · simp [hzero]
    · have hle : sequence ≤ (2 ^ 64 - 1) / senderCount := by
        by_contra hlarge
        exact hbase ⟨hzero, not_le.mp hlarge⟩
      have hmul := (Nat.le_div_iff_mul_le (Nat.pos_of_ne_zero hzero)).mp hle
      omega
  simp only [mayProceed, Bool.not_eq_true, Bool.not_eq_false', Bool.or_eq_true, hfailed,
    Bool.false_eq_true, false_or] at hproceed
  split at hproceed
  · cases hproceed
  next minimum hminimum =>
  simp only [Bool.and_eq_true, beq_iff_eq, Bool.or_eq_true, decide_eq_true_eq] at hproceed
  refine ⟨rfl, by omega, hproceed.1, ?_⟩
  intro receiver
  have hle : minimum ≤ progress.receivedByClient receiver :=
    (min?_eq_some_iff.mp hminimum).2 _ (mem_ofFn.mpr ⟨receiver, rfl⟩)
  omega

theorem Invariant.step {window messages : ℕ} {room after : Room count} {action : Action count}
    (hinv : Invariant window room) (hwindow : 1 ≤ window)
    (hstep : step messages room action = some after) : Invariant window after := by
  cases action with
  | acquire sender =>
    simp only [SendWindow.step] at hstep
    split at hstep
    · cases hstep
    split at hstep
    · cases hstep
      exact ⟨hinv.next_eq, hinv.window_eq, hinv.granted_eq, hinv.ahead, hinv.within⟩
    · cases hstep
      exact hinv
    · next progress hacquire =>
      cases hstep
      obtain ⟨rfl, hlt, hticket, hwithin⟩ := permit_of_acquireSendPermit hacquire
      have hahead := hinv.ahead sender
      have hnext : room.progress.nextTicket = room.granted.length := by
        rw [hinv.next_eq]
        exact Nat.mod_eq_of_lt (by omega)
      rw [hnext] at hticket
      refine ⟨?_, hinv.window_eq, ?_, ?_, ?_⟩
      · simp only [length_append, length_singleton, hnext]
      · have hpair : (sender.val, room.sequence sender) =
            (room.granted.length % count, room.granted.length / count) := by
          rw [← hticket, Nat.mul_add_mod', Nat.mod_eq_of_lt sender.isLt, Nat.mul_comm,
            Nat.mul_add_div sender.pos, Nat.div_eq_of_lt sender.isLt, Nat.add_zero]
        rw [length_append, length_singleton, range_succ, map_append, ← hinv.granted_eq, hpair]
        rfl
      · intro other
        have hother := hinv.ahead other
        simp only [length_append, length_singleton]
        by_cases hsame : other = sender
        · rw [hsame, Function.update_self, Nat.add_mul]
          have hpositive := sender.pos
          omega
        · rw [Function.update_of_ne hsame]
          have hne : room.sequence other * count + other ≠
              room.sequence sender * count + sender := by
            intro hequal
            have hmod := congrArg (· % count) hequal
            simp only [Nat.mul_add_mod', Nat.mod_eq_of_lt other.isLt,
              Nat.mod_eq_of_lt sender.isLt] at hmod
            exact hsame (Fin.ext hmod)
          omega
      · intro receiver
        have hreceiver := hwithin receiver
        simp only [length_append, length_singleton, hinv.window_eq, hnext] at hreceiver ⊢
        omega
  | report receiver received =>
    simp only [SendWindow.step] at hstep
    split at hstep
    · next hgrows =>
      cases hstep
      refine ⟨hinv.next_eq, hinv.window_eq, hinv.granted_eq, hinv.ahead, ?_⟩
      intro other
      have hold := hinv.within other
      by_cases hother : other = receiver
      · rw [hother] at hold ⊢
        simp only [Function.update_self]
        omega
      · simpa only [Function.update_of_ne hother] using hold
    · cases hstep
  | giveUp | recordFailure =>
    cases hstep
    exact ⟨hinv.next_eq, hinv.window_eq, hinv.granted_eq, hinv.ahead, hinv.within⟩

def initial (count window : ℕ) : Room count where
  progress := { maxOutstandingMessages := window }

/-- Permits are granted in the order of the tickets, each once, and never too
many of them ahead of the slowest receiver. -/
theorem permits_in_window {count window messagesPerSender : ℕ} (hcount : 1 ≤ count)
    (hwindow : 1 ≤ window) {room : Room count}
    (hreach : Reaches (step messagesPerSender) (fun _ _ => True) (initial count window) room) :
    room.granted =
      (range room.granted.length).map (fun ticket => (ticket % count, ticket / count)) ∧
    ∃ minimum, minimumReceived room.progress = some minimum ∧
      room.granted.length ≤ window + minimum := by
  have hinv : Invariant window room := by
    apply hreach.invariant
    · exact ⟨rfl, rfl, rfl, fun _ => Nat.zero_le _, fun _ => Nat.zero_le _⟩
    · intro _ _ _ hbefore _ hstep
      exact hbefore.step hwindow hstep
  refine ⟨hinv.granted_eq, ?_⟩
  cases hminimum : minimumReceived room.progress with
  | none =>
    have hlength := congrArg length (min?_eq_none_iff.mp hminimum)
    rw [length_ofFn, length_nil] at hlength
    omega
  | some minimum =>
    refine ⟨minimum, rfl, ?_⟩
    obtain ⟨receiver, hreceiver⟩ := mem_ofFn.mp (min?_eq_some_iff.mp hminimum).1
    rw [← hreceiver]
    exact hinv.within receiver

theorem permits_in_window_slowReceiver :
    ∃ room, Reaches (step 2) (fun _ _ => True) (initial 2 1) room ∧
      room.granted = [(0, 0), (1, 0)] ∧ ∃ minimum, minimumReceived room.progress = some minimum ∧
        room.granted.length ≤ 1 + minimum := by
  have hrun : (run (step 2) [.acquire 0, .acquire 1, .report 0 1, .report 1 1, .acquire 1,
      .acquire 0] (initial 2 1)).any (fun room => room.granted = [(0, 0), (1, 0)]) = true := by
    decide +kernel
  obtain ⟨room, hroom, hgranted⟩ := (Option.any_eq_true _ _).mp hrun
  have hreach : Reaches (step 2) (fun _ _ => True) (initial 2 1) room :=
    .of_run hroom (guarded_of_forall fun _ _ _ => trivial)
  exact ⟨room, hreach, of_decide_eq_true hgranted, (permits_in_window (by decide) le_rfl hreach).2⟩

end SessionServer.SendWindow
