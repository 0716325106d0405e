import SessionServer.SessionQuiescence
import SessionServer.WorkerPoolDrainCheck
import SessionServer.WorkerPoolOutstanding
import SessionServer.WorkerPoolSerialisation

/-!
# The pool at rest

A pool that nobody stops loses nothing.  When its inbox is empty, all workers
wait for work and no deferral is outstanding, every event of a session without
a failure has been handled, and a failed session whose Disconnected came in
has been cleaned up.
-/

namespace SessionServer.WorkerPool

open Transcript SessionView Pool Observation List

variable {n : ℕ} {config : WorkerPoolConfig}
variable {pool : Pool n} {event : SessionEvent}

def Action.isStop : Action n → Bool
  | .beginStop => true
  | .requestForceStop => true
  | .closeInbox => true
  | _ => false

/-- Nobody stops the pool. -/
def WithoutStop (_ : Pool n) (action : Action n) : Prop :=
  action.isStop = false

/-- No event is left in the inbox or on its way out of it, every worker waits in
`pop`, and `outstanding_deferred_` is 0. -/
structure Pool.Quiescent (pool : Pool n) : Prop where
  empty : pool.queued = []
  popping : ∀ w, pool.workers w = .popping
  settled : pool.outstandingDeferred = 0

/-! ## Runs without a stop -/

structure Pool.Kept (pool : Pool n) : Prop where
  sound : pool.Sound
  counts : pool.CountsAwaiting
  notDraining : pool.drainRequested = false
  notForced : pool.forceStopRequested = false
  notClosing : ¬ pool.Closing
  sessions : ∀ sessionId, (pool.view sessionId).Kept

theorem Pool.initial_kept {inbox : BoundedBlockingQueue SessionEvent}
    (outbox : BoundedBlockingQueue OutboundMessage) (hempty : inbox.items = [])
    (hopen : inbox.closed = false) : (Pool.initial n inbox outbox).Kept := by
  constructor
  · exact initial_sound outbox hempty
  · exact initial_countsAwaiting inbox outbox
  · rfl
  · rfl
  · simp [Closing, Pool.initial, hopen]
  · intro sessionId
    rw [Pool.initial_view inbox outbox hempty]
    exact SessionView.initial_kept n sessionId

theorem Pool.not_passesDrainCheck (hdrain : pool.drainRequested = false)
    {action : Action n} (haction : action.isStop = false) :
    ¬ pool.PassesDrainCheck action := by
  cases action with
  | beginStop => simp [Action.isStop] at haction
  | work =>
    simp only [PassesDrainCheck]
    split
    next => simp [Pool.DrainReady, hdrain]
    next =>
      intro hlast
      have hrequested := hlast.drain
      simp [hdrain] at hrequested
    next => exact id
  | _ => exact id

theorem Pool.Kept.step {after : Pool n} (hkept : pool.Kept) {action : Action n}
    (haction : action.isStop = false) (hstep : pool.step config action = some after) :
    after.Kept := by
  have hcases := outcome hstep
  have hstops := stops_step hstep
  have hlossless : pool.lossy = false := by
    have hopen := (not_or.mp hkept.notClosing).2
    simp [lossy, hkept.notForced, hopen]
  constructor
  · exact hkept.sound.step hcases
  · exact hkept.counts.step hkept.sound.invariant hcases
  · rw [hstops.drain, hkept.notDraining]
    rintro rfl
    simp [Action.isStop] at haction
  · rw [hstops.forced, hkept.notForced]
    rintro rfl
    simp [Action.isStop] at haction
  · rw [hstops.closing hkept.sound.invariant.refs hkept.notForced]
    exact not_or.mpr ⟨hkept.notClosing, not_passesDrainCheck hkept.notDraining haction⟩
  · intro sessionId
    rcases hkept.sound.invariant.simulates hcases sessionId with hsame | hsession
    · rw [hsame]
      exact hkept.sessions sessionId
    · rw [hlossless] at hsession
      exact (hkept.sessions sessionId).step hsession

theorem Pool.ReachedBy.kept (hreach : pool.ReachedBy config WithoutStop) : pool.Kept := by
  obtain ⟨_, outbox, hempty, hopen, hreaches⟩ := hreach
  apply hreaches.invariant (initial_kept outbox hempty hopen)
  intro _ _ _ hkept haction hstep
  exact hkept.step haction hstep

theorem Pool.Kept.atRest (hkept : pool.Kept) (hquiescent : pool.Quiescent) (sessionId : SessionId) :
    (pool.view sessionId).AtRest := by
  have hinv := hkept.sound.invariant
  have htasks : ∀ w, (pool.view sessionId).tasks w = .idle := by
    intro w
    rw [view_tasks, hquiescent.popping w]
    rfl
  constructor
  · simp [Pool.view, hquiescent.empty]
  · exact htasks
  · have hawaiting := hkept.counts.not_awaiting hinv hquiescent.settled sessionId
    have hturns : (pool.view sessionId).weigh Task.turns = 0 := by
      unfold weigh
      apply Finset.sum_eq_zero
      intro w _
      rw [htasks w, Task.turns_idle]
    cases hactive : (pool.view sessionId).state.active with
    | false => rfl
    | true =>
      have hone := ((hinv.turns sessionId).running hactive hawaiting).1
      omega

/-! ## Parking loses nothing -/

structure Pool.Handles (pool : Pool n) (sessionId : SessionId) : Prop where
  /-- Without a failure every accepted event was handled to the end. -/
  handled : failed sessionId ∉ pool.transcript →
    ∀ event ∈ accepted (pool.transcript.of sessionId),
      ∃ before rest, pool.transcript = before ++ .invoked event :: rest ∧
        TurnClosed (Transcript.of rest sessionId) event
  /-- A state that is left in the map holds nothing back. -/
  drained : ∀ ref, pool.sequenceBySession.lookup sessionId = some ref →
    (pool.states ref).active = false ∧ (pool.states ref).parked.entries = [] ∧
      (pool.states ref).earlyCompletion = none ∧
      (pool.states ref).pendingDisconnected = none
  /-- Without a failure its next number counts the handled events. -/
  counted : failed sessionId ∉ pool.transcript →
    ∀ ref, pool.sequenceBySession.lookup sessionId = some ref →
      (pool.states ref).nextSequence = (invoked (pool.transcript.of sessionId)).length

theorem Transcript.mem_invoked_of {transcript : Transcript} {sessionId : SessionId}
    (hmem : event ∈ invoked (transcript.of sessionId)) :
    .invoked event ∈ transcript ∧ event.sessionId = sessionId := by
  obtain ⟨observation, hobservation, hinvoked⟩ := mem_filterMap.mp hmem
  cases observation with
  | invoked =>
    rw [Observation.invoked?, Option.some.injEq] at hinvoked
    rw [hinvoked, Transcript.of, mem_filter] at hobservation
    exact ⟨hobservation.1, by simpa [Observation.sessionId] using hobservation.2⟩
  | _ => simp [Observation.invoked?] at hinvoked

theorem Pool.handles_of_quiescent {pool : Pool n} {sessionId : SessionId}
    (hreach : pool.ReachedBy config WithoutStop) (hquiescent : pool.Quiescent)
    (hcontiguous : Transcript.Contiguous (pool.transcript.of sessionId))
    (hlast : Transcript.DisconnectedLast (pool.transcript.of sessionId)) :
    pool.Handles sessionId := by
  have hkept := hreach.kept
  have hview := hkept.sessions sessionId
  have hrest := hkept.atRest hquiescent sessionId
  have hlogged : failed sessionId ∉ pool.transcript →
      failed sessionId ∉ (pool.view sessionId).log := by
    intro hunfailed hmem
    exact hunfailed (failed_mem_of.mp hmem)
  constructor
  · intro hunfailed event haccepted
    have hinvoked := hview.invoked_of_accepted hrest hcontiguous hlast (hlogged hunfailed) haccepted
    obtain ⟨hmem, hsession⟩ := mem_invoked_of hinvoked
    obtain ⟨before, rest, hsplit⟩ := append_of_mem hmem
    have hlog : (pool.view sessionId).log = Transcript.of before sessionId ++
        .invoked event :: Transcript.of rest sessionId := by
      change Transcript.of pool.transcript sessionId = _
      rw [hsplit, of_append, of_invoked_cons rest hsession]
    exact ⟨before, rest, hsplit, hview.sound.closed_of_invoked hrest hlog⟩
  · intro ref hcurrent
    have hdrained := hview.isDrained hrest hcontiguous hlast
    rw [show (pool.view sessionId).state = pool.states ref from
      stateOf_of_current hcurrent] at hdrained
    exact SessionSequenceState.isDrained_iff.mp hdrained
  · intro hunfailed ref hcurrent
    have hnext := hview.next_eq_invoked hrest hcontiguous hlast (hlogged hunfailed)
      (by simp [Pool.view, Pool.current, hcurrent])
    rw [show (pool.view sessionId).state = pool.states ref from
      stateOf_of_current hcurrent] at hnext
    exact hnext

/-! ### Two runs that end at rest -/

def Worker.isPopping : Worker → Bool
  | .popping => true
  | _ => false

def Pool.isQuiescent (pool : Pool n) : Bool :=
  pool.queued.isEmpty && (finRange n).all (fun w => (pool.workers w).isPopping) &&
    pool.outstandingDeferred == 0

theorem Pool.quiescent_of_isQuiescent (hquiescent : pool.isQuiescent = true) : pool.Quiescent := by
  simp only [isQuiescent, Bool.and_eq_true, List.isEmpty_iff, List.all_eq_true,
    List.mem_finRange, forall_const, beq_iff_eq] at hquiescent
  constructor
  · exact hquiescent.1.1
  · intro w
    have hpopping := hquiescent.1.2 w
    cases hworker : pool.workers w with
    | popping => rfl
    | _ => simp [hworker, Worker.isPopping] at hpopping
  · exact hquiescent.2

/-- The second packet is parked while the first is handled. -/
def parkedPacketRun : List (Action 2) :=
  [.push (packetEvent 1 0), .push (packetEvent 1 1)] ++ works 0 2 ++ works 1 5 ++ works 0 4 ++
    [.handlerReturn 0] ++ works 0 6 ++ [.handlerReturn 0] ++ works 0 3

theorem handles_parkedPacketRun :
    ∃ pool : Pool 2, pool.ReachedBy smallConfig WithoutStop ∧ pool.Quiescent ∧
      accepted (pool.transcript.of 1) = [packetEvent 1 0, packetEvent 1 1] ∧
      pool.Handles 1 := by
  obtain ⟨pool, hreach, houtcome⟩ := smallPool_reachedBy WithoutStop parkedPacketRun
    (fun pool => pool.isQuiescent && accepted (pool.transcript.of 1) ==
      [packetEvent 1 0, packetEvent 1 1])
    (by simp [parkedPacketRun, works, WithoutStop, Action.isStop]) (by decide)
  simp only [Bool.and_eq_true, beq_iff_eq] at houtcome
  have hquiescent := quiescent_of_isQuiescent houtcome.1
  refine ⟨pool, hreach, hquiescent, houtcome.2, handles_of_quiescent hreach hquiescent ?_ ?_⟩
  · rw [Transcript.Contiguous, houtcome.2]
    rfl
  · rw [Transcript.DisconnectedLast, houtcome.2]
    decide

/-- A packet that follows the Disconnected finds a fresh state and waits for a
number that never comes. -/
def afterDisconnectedRun : List (Action 1) :=
  [.push (disconnectedEvent 1 0), .push (packetEvent 1 1)] ++ works sole 6 ++
    [.handlerReturn sole] ++ works sole 8

/-- A third packet breaks the parking limit between the start of the first turn
and the call of its handler. -/
def skippedPacketRun : List (Action 2) :=
  [.push (packetEvent 1 0), .push (packetEvent 1 1), .push (packetEvent 1 2)] ++
    works 0 5 ++ works 1 13 ++ works 0 2

/-- Contiguous numbers alone are not enough: a packet after the Disconnected
stays parked, and in a failed session the next number runs ahead of the handled
events. -/
theorem contiguous_events_left_behind :
    (∃ pool : Pool 1, pool.ReachedBy smallConfig WithoutStop ∧ pool.Quiescent ∧
      Transcript.Contiguous (pool.transcript.of 1) ∧
      failed 1 ∉ pool.transcript ∧
      packetEvent 1 1 ∈ accepted (pool.transcript.of 1) ∧
      packetEvent 1 1 ∉ invoked (pool.transcript.of 1) ∧
      ∃ ref, pool.sequenceBySession.lookup 1 = some ref ∧
        (pool.states ref).parked.entries = [(1, packetEvent 1 1)]) ∧
    ∃ pool : Pool 2, pool.ReachedBy smallConfig WithoutStop ∧ pool.Quiescent ∧
      Transcript.Contiguous (pool.transcript.of 1) ∧
      ∃ ref, pool.sequenceBySession.lookup 1 = some ref ∧
        (pool.states ref).nextSequence = 1 ∧
        invoked (pool.transcript.of 1) = [] := by
  constructor
  · obtain ⟨pool, hreach, houtcome⟩ := smallPool_reachedBy WithoutStop afterDisconnectedRun
      (fun pool => pool.isQuiescent &&
        accepted (pool.transcript.of 1) == [disconnectedEvent 1 0, packetEvent 1 1] &&
        !pool.transcript.contains (.failed 1) &&
        invoked (pool.transcript.of 1) == [disconnectedEvent 1 0] &&
        pool.sequenceBySession.lookup 1 == some 1 &&
        (pool.states 1).parked.entries == [(1, packetEvent 1 1)])
      (by simp [afterDisconnectedRun, works, WithoutStop, Action.isStop]) (by decide)
    simp only [Bool.and_eq_true, beq_iff_eq, Bool.not_eq_true', List.contains_eq_mem,
      decide_eq_false_iff_not] at houtcome
    obtain ⟨⟨⟨⟨⟨hquiescent, haccepted⟩, hunfailed⟩, hinvoked⟩, hlookup⟩, hparked⟩ := houtcome
    refine ⟨pool, hreach, quiescent_of_isQuiescent hquiescent, ?_, hunfailed, ?_, ?_,
      1, hlookup, hparked⟩
    · rw [Transcript.Contiguous, haccepted]
      rfl
    · rw [haccepted]
      decide
    · rw [hinvoked]
      decide
  · obtain ⟨pool, hreach, houtcome⟩ := smallPool_reachedBy WithoutStop skippedPacketRun
      (fun pool => pool.isQuiescent &&
        (accepted (pool.transcript.of 1)).map SessionEvent.sequence == [0, 1, 2] &&
        pool.sequenceBySession.lookup 1 == some 0 &&
        (pool.states 0).nextSequence == 1 &&
        (invoked (pool.transcript.of 1)).isEmpty)
      (by simp [skippedPacketRun, works, WithoutStop, Action.isStop]) (by decide)
    simp only [Bool.and_eq_true, beq_iff_eq, List.isEmpty_iff] at houtcome
    obtain ⟨⟨⟨⟨hquiescent, haccepted⟩, hlookup⟩, hnext⟩, hinvoked⟩ := houtcome
    refine ⟨pool, hreach, quiescent_of_isQuiescent hquiescent, ?_, 0, hlookup, hnext, hinvoked⟩
    rw [Transcript.Contiguous, ← List.length_map SessionEvent.sequence, haccepted]
    rfl

/-! ## Failed sessions are cleaned up -/

structure Pool.CleanedUp (pool : Pool n) (sessionId : SessionId)
    (event : SessionEvent) : Prop where
  /-- The handler was called with the Disconnected event, once. -/
  once : (invoked (pool.transcript.of sessionId)).filter SessionEvent.isDisconnected = [event]
  /-- Every other turn had ended by then. -/
  othersOver : ∀ {before between rest : Transcript} {other : SessionEvent},
    pool.transcript = before ++ .started other :: between ++ .invoked event :: rest →
    other.sessionId = sessionId → other ≠ event → TurnOver (Transcript.of between sessionId) other
  /-- None has started since. -/
  last : ∀ {before rest : Transcript} {other : SessionEvent},
    pool.transcript = before ++ .invoked event :: rest →
    .started other ∈ rest → other.sessionId ≠ sessionId
  removed : pool.sequenceBySession.lookup sessionId = none

theorem Transcript.of_started_cons (rest : Transcript)
    {sessionId : SessionId} (hsession : event.sessionId = sessionId) :
    Transcript.of (.started event :: rest) sessionId =
      .started event :: Transcript.of rest sessionId := by
  unfold Transcript.of
  rw [filter_cons_of_pos]
  simp [Observation.sessionId, hsession]

/-- Once the Disconnected handler is called no other turn starts. -/
theorem SessionView.LastTurn.not_started_after {view : SessionView n}
    (hturn : view.LastTurn) (hsound : view.Sound) {before rest : Transcript}
    {other : SessionEvent} (hlog : view.log = before ++ .invoked event :: rest)
    (hkind : event.kind = .disconnected) : .started other ∉ rest := by
  intro hmem
  have hbroken := hsound.phases.notBroken hsound.turns
  unfold phase at hbroken
  rw [hlog] at hbroken
  have hbefore := TurnPhase.started_before_invoked hbroken
  have hlast := hturn.last
  have hselect : ∀ {started : SessionEvent} {transcript : Transcript},
      .started started ∈ transcript → started ∈ Transcript.started transcript := by
    intro _ _ hstarted
    exact mem_filterMap.mpr ⟨_, hstarted, rfl⟩
  rw [hlog, started_append, pairwise_append] at hlast
  exact hlast.2.2 event (hselect hbefore) other (hselect (mem_cons_of_mem _ hmem)) hkind

theorem Pool.cleanedUp_of_quiescent {pool : Pool n} {sessionId : SessionId}
    {event : SessionEvent} (hreach : pool.ReachedBy config WithoutStop)
    (hquiescent : pool.Quiescent)
    (hlast : Transcript.DisconnectedLast (pool.transcript.of sessionId))
    (haccepted : event ∈ accepted (pool.transcript.of sessionId))
    (hkind : event.kind = .disconnected)
    (hfailed : Observation.failed sessionId ∈ pool.transcript) :
    pool.CleanedUp sessionId event := by
  have hkept := hreach.kept
  have hview := hkept.sessions sessionId
  have hrest := hkept.atRest hquiescent sessionId
  have hlogged : Observation.failed sessionId ∈ (pool.view sessionId).log :=
    failed_mem_of.mpr hfailed
  have hturn := hview.lastTurn hlast
  have honce := hview.disconnected_invoked hrest hlast hlogged haccepted hkind
  have hsession : event.sessionId = sessionId := by
    have hmem : event ∈ invoked (pool.transcript.of sessionId) := by
      apply mem_of_mem_filter
      rw [show (invoked (pool.transcript.of sessionId)).filter
        SessionEvent.isDisconnected = [event] from honce]
      simp
    exact (mem_invoked_of hmem).2
  constructor
  · exact honce
  · intro before between rest other htranscript hother hne
    have hbroken := hview.sound.phases.notBroken hview.sound.turns
    have hlog : (pool.view sessionId).log = Transcript.of before sessionId ++
        .started other :: Transcript.of between sessionId ++
          .invoked event :: Transcript.of rest sessionId := by
      change Transcript.of pool.transcript sessionId = _
      rw [htranscript, of_append, of_append,
        of_started_cons between hother, of_invoked_cons rest hsession]
    unfold phase at hbroken
    rw [hlog] at hbroken
    exact TurnPhase.over_before_invoked hbroken hne
  · intro before rest _ htranscript hmem hother
    have hlog : (pool.view sessionId).log = Transcript.of before sessionId ++
        .invoked event :: Transcript.of rest sessionId := by
      change Transcript.of pool.transcript sessionId = _
      rw [htranscript, of_append, of_invoked_cons rest hsession]
    apply hturn.not_started_after hview.sound hlog hkind
    exact mem_filter.mpr ⟨hmem, by simp [Observation.sessionId, hother]⟩
  · obtain ⟨_, hmem, hstarted⟩ :=
      hview.disconnected_started hrest hlast hlogged haccepted hkind
    have hgone := hrest.gone_of_started hturn hmem hstarted
    simpa [Pool.view, Pool.current] using hgone

/-- The handler of the first packet throws; the Disconnected follows. -/
def thrownPacketRun : List (Action 1) :=
  [.push (packetEvent 1 0), .push (disconnectedEvent 1 1)] ++ works sole 6 ++
    [.handlerThrow sole] ++ works sole 9 ++ [.handlerReturn sole] ++ works sole 3

theorem cleanedUp_thrownPacketRun :
    ∃ pool : Pool 1, pool.ReachedBy smallConfig WithoutStop ∧ pool.Quiescent ∧
      failed 1 ∈ pool.transcript ∧
      pool.CleanedUp 1 (disconnectedEvent 1 1) := by
  obtain ⟨pool, hreach, houtcome⟩ := smallPool_reachedBy WithoutStop thrownPacketRun
    (fun pool => pool.isQuiescent && accepted (pool.transcript.of 1) ==
      [packetEvent 1 0, disconnectedEvent 1 1] && pool.transcript.contains (.failed 1))
    (by simp [thrownPacketRun, works, WithoutStop, Action.isStop]) (by decide)
  simp only [Bool.and_eq_true, beq_iff_eq, contains_eq_mem, decide_eq_true_eq] at houtcome
  obtain ⟨⟨hquiescent, haccepted⟩, hfailed⟩ := houtcome
  have hrest := quiescent_of_isQuiescent hquiescent
  refine ⟨pool, hreach, hrest, hfailed, cleanedUp_of_quiescent hreach hrest ?_ ?_ rfl hfailed⟩
  · rw [Transcript.DisconnectedLast, haccepted]
    decide
  · rw [haccepted]
    decide

end SessionServer.WorkerPool
