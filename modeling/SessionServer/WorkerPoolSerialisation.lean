import SessionServer.SessionSound
import SessionServer.WorkerPoolInvariant

/-!
# The pool serialises each session

Whatever the workers, the handlers and the threads around the pool do, the
handlers of one session are called one after the other, in the order of the
sequence numbers, and each turn is carried through before the next handler is
called.
-/

namespace SessionServer.WorkerPool

open Transcript Pool SessionEvent

variable {n : ℕ}
variable {pool : Pool n}

/-- The pool was started with an empty, open inbox and brought into this state
by steps that meet the guard. -/
def Pool.ReachedBy (config : WorkerPoolConfig) (guard : Pool n → Action n → Prop)
    (pool : Pool n) : Prop :=
  ∃ inbox outbox, inbox.items = [] ∧ inbox.closed = false ∧
    TransitionSystem.Reaches (step config) guard (initial n inbox outbox) pool

def Pool.Reachable (config : WorkerPoolConfig) (pool : Pool n) : Prop :=
  pool.ReachedBy config fun _ _ => True

structure Pool.Sound (pool : Pool n) : Prop where
  invariant : pool.Invariant
  sessions : ∀ sessionId, (pool.view sessionId).Sound

theorem Pool.initial_sound {inbox : BoundedBlockingQueue SessionEvent}
    (outbox : BoundedBlockingQueue OutboundMessage) (hempty : inbox.items = []) :
    (initial n inbox outbox).Sound := by
  constructor
  · exact initial_invariant outbox hempty
  · intro sessionId
    rw [initial_view inbox outbox hempty]
    exact SessionView.initial_sound n sessionId

theorem Pool.Sound.step {config : WorkerPoolConfig} {after : Pool n} {action : Action n}
    (hsound : pool.Sound) (hstep : StepOutcome config pool after action) : after.Sound := by
  constructor
  · exact hsound.invariant.step hstep
  · intro sessionId
    rcases hsound.invariant.simulates hstep sessionId with hsame | hsession
    · rw [hsame]
      exact hsound.sessions sessionId
    · exact (hsound.sessions sessionId).step hsession

theorem Pool.ReachedBy.sound {config : WorkerPoolConfig} {guard : Pool n → Action n → Prop}
    (hreach : pool.ReachedBy config guard) : pool.Sound := by
  obtain ⟨_, outbox, hempty, _, hreaches⟩ := hreach
  apply hreaches.invariant (initial_sound outbox hempty)
  intro _ _ _ hsound _ hstep
  exact hsound.step (outcome hstep)

/-! ## A small pool for concrete runs -/

def smallConfig : WorkerPoolConfig where
  inboundLowWatermark := 1
  maxOutboundMessagesPerEvent := 4
  maxOutboundBytesPerEvent := 64
  maxParkedEventsPerSession := 1
  limits_pos := by decide

/-- The worker of a pool of one. -/
def sole : Fin 1 := 0

def works {n : ℕ} (w : Fin n) (sections : ℕ) : List (Action n) :=
  List.replicate sections (.work w)

def smallPool (n : ℕ) : Pool n :=
  initial n (.create 8 (by decide)) (.create 8 (by decide))

def packetEvent (sessionId : SessionId) (sequence : ℕ) : SessionEvent :=
  { kind := .packet, sessionId := sessionId, sequence := sequence }

def disconnectedEvent (sessionId : SessionId) (sequence : ℕ) : SessionEvent :=
  { kind := .disconnected, sessionId := sessionId, sequence := sequence }

theorem smallPool_reachedBy (guard : Pool n → Action n → Prop)
    (actions : List (Action n)) (outcome : Pool n → Bool)
    (hguard : ∀ pool, ∀ action ∈ actions, guard pool action)
    (hrun : (TransitionSystem.run (step smallConfig) actions (smallPool n)).any outcome = true) :
    ∃ pool : Pool n, pool.ReachedBy smallConfig guard ∧ outcome pool = true := by
  cases hresult : TransitionSystem.run (step smallConfig) actions (smallPool n) with
  | none => simp [hresult] at hrun
  | some pool =>
    rw [hresult] at hrun
    have hreaches := TransitionSystem.Reaches.of_run hresult
      (TransitionSystem.guarded_of_forall hguard)
    exact ⟨pool, ⟨_, _, rfl, rfl, hreaches⟩, hrun⟩

/-! ## Reading the log of a session back into the transcript -/

theorem Transcript.of_invoked_cons (rest : Transcript) {event : SessionEvent}
    {sessionId : SessionId} (hsession : event.sessionId = sessionId) :
    Transcript.of (.invoked event :: rest) sessionId =
      .invoked event :: Transcript.of rest sessionId := by
  unfold Transcript.of
  rw [List.filter_cons_of_pos]
  simp [Observation.sessionId, hsession]

theorem Transcript.failed_mem_of {transcript : Transcript} {sessionId : SessionId} :
    Observation.failed sessionId ∈ Transcript.of transcript sessionId ↔
      Observation.failed sessionId ∈ transcript := by
  simp [Transcript.of, Observation.sessionId]

/-- Between two calls for one session the turn of the first is carried
through. -/
theorem Pool.Sound.turnClosed (hsound : pool.Sound)
    {before between rest : Transcript} {first second : SessionEvent}
    (htranscript : pool.transcript = before ++ .invoked first :: between ++ .invoked second :: rest)
    (hsession : second.sessionId = first.sessionId) :
    TurnClosed (Transcript.of between first.sessionId) first := by
  have hview := hsound.sessions first.sessionId
  have hbroken := hview.phases.notBroken hview.turns
  have hlog : (pool.view first.sessionId).log =
      Transcript.of before first.sessionId ++
        .invoked first :: Transcript.of between first.sessionId ++
          .invoked second :: Transcript.of rest first.sessionId := by
    change Transcript.of pool.transcript first.sessionId = _
    rw [htranscript, of_append, of_append,
      of_invoked_cons between rfl, of_invoked_cons rest hsession]
  unfold SessionView.phase at hbroken
  rw [hlog] at hbroken
  exact TurnPhase.closed_between hbroken

/-! ## The result -/

/-- What serialising a session means, for the calls the pool has made. -/
structure Pool.Serialises (pool : Pool n) (sessionId : SessionId) : Prop where
  /-- Handlers are called in the order of the sequence numbers, each once. -/
  increasing : ((invoked (pool.transcript.of sessionId)).map sequence).Pairwise (· < ·)
  /-- No two workers are inside handlers of the session. -/
  exclusive : ∀ {w v : Fin n} {first second : SessionEvent}
    {firstRef secondRef : StateRef}
    {firstContext secondContext : WorkerSessionEventContext},
    pool.workers w = .turn first firstRef (.handling firstContext) →
    pool.workers v = .turn second secondRef (.handling secondContext) →
    first.sessionId = sessionId → second.sessionId = sessionId → w = v
  /-- A later call comes after the end of the earlier turn. -/
  carriedThrough : ∀ {before between rest : Transcript} {first second : SessionEvent},
    pool.transcript = before ++ .invoked first :: between ++ .invoked second :: rest →
    first.sessionId = sessionId → second.sessionId = sessionId →
      TurnClosed (Transcript.of between sessionId) first
  /-- Until the session is marked failed no number is left out. -/
  noGap : Observation.failed sessionId ∉ pool.transcript →
    (invoked (pool.transcript.of sessionId)).map sequence =
      List.range (invoked (pool.transcript.of sessionId)).length

theorem Pool.serialises_of_reachable {config : WorkerPoolConfig} {pool : Pool n}
    {sessionId : SessionId} (hreach : pool.Reachable config)
    (hhistory : Transcript.Contiguous (pool.transcript.of sessionId)) :
    pool.Serialises sessionId := by
  have hsound := hreach.sound
  have hview := hsound.sessions sessionId
  constructor
  · have hsublist := hview.service.invoked.map sequence
    exact (hview.order hhistory).ordered.sublist hsublist
  · intro w v first second _ _ _ _ hw hv hfirst hsecond
    exact hsound.invariant.turn_unique hv hw (hfirst.trans hsecond.symm)
  · intro _ _ _ _ _ htranscript hfirst hsecond
    have hclosed := hsound.turnClosed htranscript (hsecond.trans hfirst.symm)
    rwa [hfirst] at hclosed
  · intro hunfailed
    apply (hview.gapFree hhistory _).invoked_eq_range
    intro hmem
    exact hunfailed (failed_mem_of.mp hmem)

/-- Two workers pop two packets; the second waits for the first. -/
theorem serialises_two_packets :
    ∃ pool : Pool 2, pool.Reachable smallConfig ∧
      invoked (pool.transcript.of 1) = [packetEvent 1 0, packetEvent 1 1] ∧
      pool.Serialises 1 := by
  obtain ⟨pool, hreach, houtcome⟩ := smallPool_reachedBy (n := 2) (fun _ _ => True)
    ([.push (packetEvent 1 0), .push (packetEvent 1 1)] ++ works 0 2 ++ works 1 5 ++
      works 0 4 ++ [.handlerReturn 0] ++ works 0 6)
    (fun pool =>
      invoked (pool.transcript.of 1) == [packetEvent 1 0, packetEvent 1 1] &&
        (accepted (pool.transcript.of 1)).map sequence == [0, 1])
    (by simp) (by decide)
  simp only [Bool.and_eq_true, beq_iff_eq] at houtcome
  refine ⟨pool, hreach, houtcome.1, serialises_of_reachable hreach ?_⟩
  unfold Transcript.Contiguous
  rw [← List.length_map sequence, houtcome.2]
  rfl

end SessionServer.WorkerPool
