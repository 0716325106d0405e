import SessionServer.WorkerPoolDrain

/-!
# The end of a graceful stop

When the last piece of work disappears the drain check has to run once more,
or the workers wait for ever.  It runs when a turn ends and when an event is
discarded.  A worker that rejects an event and finds no Disconnected to take
up goes back to the inbox without it, and the failure it has marked may have
cleared the parked events that kept the inbox open.
-/

namespace SessionServer.WorkerPool

open SessionSequenceState BoundedBlockingQueue Pool Function

variable {n : ℕ}
variable {ref : StateRef} {event : SessionEvent} {action : Action n}

/-- The check would pass, no event is popped and no worker holds one. -/
structure Pool.AllDone (pool : Pool n) : Prop where
  ready : pool.DrainReady
  intake : pool.intake = none
  free : ∀ w, (pool.workers w).holdsEvent = false

/-- A worker is through with a rejected event and finds nothing to take up. -/
def Pool.leavesRejection (pool : Pool n) : Action n → Bool
  | .work w =>
    match pool.workers w with
    | .hand _ ref .takingPending => (takePendingDisconnected (pool.states ref)).1.isNone
    | _ => false
  | _ => false

/-- A rejection is not the last piece of work while the inbox is open. -/
def Pool.RejectsBeforeEnd (pool : Pool n) (action : Action n) : Prop :=
  pool.leavesRejection action = true → pool.inbox.closed = false → pool.DrainReady →
    pool.intake.isSome = true ∨ ∃ w, action ≠ .work w ∧ (pool.workers w).holdsEvent = true

/-- A finished drain has closed the inbox, or its last thread is about to close
it; then the workers leave their loop. -/
def Pool.DrainFinishes (config : WorkerPoolConfig) (pool : Pool n) : Prop :=
  pool.AllDone → pool.Closing ∧ (pool.closer = none → ∀ w, pool.workers w = .popping →
    pool.step config (.work w) = some (pool.setWorker w .exited))

section Done

variable {config : WorkerPoolConfig} {pool after : Pool n} {w : Fin n}

theorem Pool.AllDone.not_busy {worker : Worker} (hdone : after.AllDone)
    (hworker : after.workers w = worker) (hbusy : worker.holdsEvent = true) : False := by
  have hfree := hdone.free w
  rw [hworker, hbusy] at hfree
  simp at hfree

theorem Pool.AllDone.drained_state (hdone : after.AllDone) {sessionId : SessionId}
    (hcurrent : after.current sessionId = some ref) :
    (after.states ref).isDrained = true :=
  (drainReady_iff.mp hdone.ready).2.2.2 _ _ hcurrent

theorem Pool.setWorker_self (pool : Pool n) (w : Fin n) (worker : Worker) :
    (pool.setWorker w worker).workers w = worker := by
  simp [setWorker]

theorem Pool.setState_self (pool : Pool n) (ref : StateRef) :
    pool.setState ref (pool.states ref) = pool := by
  simp [setState]

theorem takePendingDisconnected_none {state : SessionSequenceState}
    (htake : (takePendingDisconnected state).1 = none) :
    (takePendingDisconnected state).2 = state := by
  rcases takePendingDisconnected_cases state with ⟨hcase, _⟩ | ⟨hcase, _⟩
  · rw [hcase]
  · rw [hcase] at htake ⊢
    rw [← htake]

theorem parked_not_drained {state next : SessionSequenceState}
    (hstart : tryStartSessionTurn config event state = (.parked, next)) :
    next.isDrained = false := by
  rw [Bool.eq_false_iff]
  intro hdrained
  obtain ⟨_, hparked, hearly, hpending⟩ :=
    isDrained_iff.mp hdrained
  cases turnStart_tryStartSessionTurn hstart with
  | early => simp at hearly
  | pending => simp at hpending
  | park _ _ _ _ habsent =>
    have hempty : (state.parked.emplace event.sequence event).1.entries = [] := hparked
    have hmem := (OrderedMap.mem_emplace habsent (event.sequence, event)).mpr (.inl rfl)
    rw [hempty] at hmem
    simp at hmem

theorem Pool.AllDone.perform {worker : Worker} {effect : Effect n} (hinv : pool.Invariant)
    (hunforced : pool.forceStopRequested = false) (hworker : pool.workers w = worker)
    (hsection : pool.Section config w ref action worker effect)
    (hdone : (pool.perform w ref effect).AllDone) :
    pool.PassesDrainCheck action ∨
      (pool.leavesRejection action = true ∧ pool.DrainReady ∧ pool.intake = none ∧
        ∀ v, action ≠ .work v → (pool.workers v).holdsEvent = false) := by
  have hself : (pool.perform w ref effect).workers w = effect.worker :=
    update_self ..
  have hbusy {P : Prop} (hbusy : effect.worker.holdsEvent = true) : P :=
    (hdone.not_busy hself hbusy).elim
  cases hsection with
  | lose _ _ _ _ hforced => simp [hunforced] at hforced
  | tryStart event disposition _ hstart =>
    cases disposition with
    | parked =>
      obtain ⟨_, _, hcurrent | hclosed⟩ := hinv.refs.hand w event ref .trying hworker
      · have hdrained := hdone.drained_state hcurrent
        simp [perform, parked_not_drained hstart] at hdrained
      · simp [tryStartSessionTurn, hclosed] at hstart
    | process =>
      apply hbusy
      by_cases hkind : event.kind = .deferredCompletion <;>
        simp [goes, tryTask, hkind, Task.worker, Worker.holdsEvent]
    | _ => exact hbusy rfl
  | discard =>
    left
    simp only [PassesDrainCheck, hworker]
    exact hdone.ready.congr rfl rfl rfl rfl (update_eq_self _ _).symm
  | takePending =>
    right
    cases htake : (takePendingDisconnected (pool.states ref)).1 with
    | some =>
      apply hbusy
      rw [htake]
      rfl
    | none =>
      have hstates : pool.states =
          update pool.states ref (takePendingDisconnected (pool.states ref)).2 := by
        rw [takePendingDisconnected_none htake, update_eq_self]
      refine ⟨?_, hdone.ready.congr rfl rfl rfl rfl hstates, hdone.intake, ?_⟩
      · simp [leavesRejection, hworker, htake]
      · intro v hne
        have hvw : v ≠ w := by
          rintro rfl
          exact hne rfl
        have hfree := hdone.free v
        unfold perform at hfree
        dsimp only at hfree
        rwa [update_of_ne hvw] at hfree
  | disconnectHand _ _ hpublish | disconnectTurn _ _ hpublish =>
    apply hbusy
    obtain ⟨⟨published, hnext⟩, _⟩ := hpublish.publishes
    rw [hnext]
    rfl
  | publish _ _ _ _ _ _ hpublish =>
    apply hbusy
    obtain ⟨⟨_, hnext⟩, _⟩ := hpublish.publishes
    rw [hnext]
    rfl
  | _ => exact hbusy rfl

theorem Pool.AllDone.not_deferred {inlineCompletion earlyCompletion : Option SessionEvent}
    {state : SessionSequenceState} (hdone : after.AllDone) (hinv : pool.Invariant)
    (hworker : pool.workers w = .turn event ref (.deferring inlineCompletion))
    (hdefer : markSessionDeferred event (pool.states ref) = some (earlyCompletion, state))
    (hmap : after.sequenceBySession = pool.sequenceBySession)
    (hafterState : after.states ref = state) : False := by
  have hcurrent := hinv.refs.turn w event ref _ hworker
  have htask := view_of_turn hworker hcurrent
  have hactive := ((hinv.turns event.sessionId).turnOpen htask).active
  obtain ⟨_, hstate⟩ := markSessionDeferred_some hdefer
  have hafterCurrent : after.current event.sessionId = some ref := by
    unfold Pool.current
    rw [hmap]
    exact hcurrent
  have hdrained := hdone.drained_state hafterCurrent
  rw [hafterState, hstate] at hdrained
  have hinactive := (isDrained_iff.mp hdrained).1
  have hsame : (pool.view event.sessionId).state = pool.states ref :=
    stateOf_of_current hcurrent
  rw [hsame] at hactive
  simp [hactive] at hinactive

end Done

/-! ## Every step -/

/-- A step that leads to the end checks the drain, or starts from the end, or
leaves a rejection as the last piece of work. -/
theorem Pool.AllDone.step {config : WorkerPoolConfig} {pool after : Pool n}
    (hinv : pool.Invariant) (hunforced : pool.forceStopRequested = false)
    (hstep : pool.step config action = some after) (hdone : after.AllDone) :
    pool.AllDone ∨ pool.Closing ∨ pool.PassesDrainCheck action ∨
      (pool.leavesRejection action = true ∧ pool.DrainReady ∧ pool.intake = none ∧
        ∀ v, action ≠ .work v → (pool.workers v).holdsEvent = false) := by
  have hempty := (drainReady_iff.mp hdone.ready).2.2.1
  have hsame : ∀ (hdrain : pool.drainRequested = after.drainRequested)
      (houtstanding : pool.outstandingDeferred = after.outstandingDeferred)
      (hinbox : pool.inbox.items = after.inbox.items) (hintake : pool.intake = after.intake)
      (hmap : pool.sequenceBySession = after.sequenceBySession)
      (hstates : pool.states = after.states)
      (hworkers : pool.workers = after.workers), pool.AllDone := by
    intro hdrain houtstanding hinbox hintake hmap hstates hworkers
    constructor
    · exact hdone.ready.congr hdrain houtstanding hinbox hmap hstates
    · exact hintake.trans hdone.intake
    · rw [hworkers]
      exact hdone.free
  cases outcome hstep with
  | push _ _ _ hafter | pushCompletion _ _ _ _ _ hafter =>
    subst hafter
    simp [Pool.log] at hempty
  | lookup w _ _ _ _ hafter | finish w _ _ _ _ _ _ hafter | defer w _ _ _ _ hafter =>
    subst hafter
    exact (hdone.not_busy (setWorker_self _ w _) rfl).elim
  | exit _ _ _ hclosed | refuseCompletion _ _ _ _ hclosed => exact .inr (.inl (.inr hclosed))
  | move _ _ _ _ hsection hafter =>
    subst hafter
    exact .inr (.inr (hdone.perform hinv hunforced rfl hsection))
  | markDeferred _ _ _ _ _ _ hworker hdefer hafter =>
    refine (hdone.not_deferred hinv hworker hdefer ?_ ?_).elim
    · rw [hafter]
      rfl
    · rw [hafter]
      exact update_self ..
  | crash _ _ _ _ hworker hdefer =>
    exact absurd hdefer (hinv.markSessionDeferred_ne_none hworker)
  | ending w event ref hworker hafter =>
    subst hafter
    cases hnext : (pool.completeSessionTurn w event ref).1 with
    | some =>
      rw [hnext] at hdone
      exact (hdone.not_busy (setWorker_self _ w _) rfl).elim
    | none =>
      right; right; left
      simp only [PassesDrainCheck, hworker]
      exact (hinv.refs.endsLast_iff hworker).mpr ⟨hnext, hdone.ready.congr rfl rfl rfl rfl rfl⟩
  | complete _ _ _ _ _ hafter | completeInline _ _ _ _ _ hafter | answer _ _ _ _ hafter =>
    subst hafter
    exact .inl (hsame rfl rfl rfl rfl rfl rfl rfl)
  | outside _ houtside =>
    cases houtside with
    | pop =>
      have hintake := hdone.intake
      simp at hintake
    | beginStop =>
      right; right; left
      exact (maybeCloseInboxForDrainLocked_ready _).mp hdone.ready
    | closeDrained hcloser => exact .inr (.inl (.inl hcloser))
    | closeInbox hforced => simp [hunforced] at hforced
    | _ => exact .inl (hsame rfl rfl rfl rfl rfl rfl rfl)

/-! ## The result -/

structure Pool.EndInvariant (pool : Pool n) : Prop where
  sound : pool.Sound
  unforced : pool.forceStopRequested = false
  closing : pool.AllDone → pool.Closing

theorem Pool.EndInvariant.step {config : WorkerPoolConfig} {pool after : Pool n}
    (hend : pool.EndInvariant)
    (hunforced : action ≠ .requestForceStop) (hrejects : pool.RejectsBeforeEnd action)
    (hstep : pool.step config action = some after) : after.EndInvariant := by
  have hinv := hend.sound.invariant
  have hstops := stops_step hstep
  constructor
  · exact hend.sound.step (outcome hstep)
  · rw [hstops.forced hunforced]
    exact hend.unforced
  · intro hdone
    rw [hstops.closing hinv.refs hend.unforced]
    rcases hdone.step hinv hend.unforced hstep with
      hold | hclosing | hpasses | ⟨hleaves, hready, hintake, hothers⟩
    · exact .inl (hend.closing hold)
    · exact .inl hclosing
    · exact .inr hpasses
    · left; right
      by_contra hopen
      rcases hrejects hleaves (Bool.eq_false_of_not_eq_true hopen) hready with
        hpopped | ⟨v, hne, hbusy⟩
      · simp [hintake] at hpopped
      · simp [hothers v hne] at hbusy

/-- An exit from a rejection as the last piece of work leaves the inbox open. -/
theorem Pool.allDone_of_leavesRejection {config : WorkerPoolConfig} {pool after : Pool n}
    (hstep : pool.step config action = some after)
    (hleaves : pool.leavesRejection action = true) (hready : pool.DrainReady)
    (hintake : pool.intake = none)
    (hothers : ∀ v, action ≠ .work v → (pool.workers v).holdsEvent = false) :
    after.AllDone ∧ after.closer = none ∧ after.inbox.closed = pool.inbox.closed := by
  cases action with
  | work w =>
    simp only [leavesRejection] at hleaves
    split at hleaves
    next _ _ hworker =>
      rw [Option.isNone_iff_eq_none] at hleaves
      simp only [Pool.step, runStep, hworker, handStep, hleaves,
        takePendingDisconnected_none hleaves, setState_self,
        Option.ite_none_left_eq_some, Option.some.injEq] at hstep
      obtain ⟨hunblocked, rfl⟩ := hstep
      have hcloser : pool.closer = none := by
        by_contra hheld
        obtain ⟨closer, hsome⟩ := Option.ne_none_iff_exists'.mp hheld
        simp [isBlocked, hsome, locksSequence, hworker] at hunblocked
      refine ⟨⟨hready.congr rfl rfl rfl rfl rfl, hintake, ?_⟩, hcloser, rfl⟩
      intro v
      by_cases hvw : v = w
      · rw [hvw, setWorker_self]
        rfl
      · unfold setWorker
        dsimp only
        rw [update_of_ne hvw]
        apply hothers
        intro heq
        exact hvw (Action.work.inj heq).symm
    next => simp at hleaves
  | _ => simp [leavesRejection] at hleaves

theorem Pool.EndInvariant.drainFinishes {config : WorkerPoolConfig} {pool : Pool n}
    (hend : pool.EndInvariant) : pool.DrainFinishes config := by
  intro hdone
  have hclosing := hend.closing hdone
  have hempty := (drainReady_iff.mp hdone.ready).2.2.1
  apply And.intro hclosing
  intro hcloser w hworker
  have hclosed : pool.inbox.closed = true := by
    simpa [Closing, hcloser] using hclosing
  simp [Pool.step, runStep, isBlocked, hcloser, hworker, popStep, hdone.intake, pop, hempty,
    hclosed]

theorem Pool.DrainFinishes.rejectsBeforeEnd {config : WorkerPoolConfig}
    {pool after : Pool n} (hfinishes : after.DrainFinishes config)
    (hstep : pool.step config action = some after) : pool.RejectsBeforeEnd action := by
  intro hleaves hopen hready
  by_contra hnone
  push Not at hnone
  have hintake : pool.intake = none := by
    simpa using hnone.1
  have hothers : ∀ v, action ≠ .work v → (pool.workers v).holdsEvent = false := by
    intro v hne
    exact Bool.eq_false_iff.mpr (hnone.2 v hne)
  obtain ⟨hdone, hcloser, hsame⟩ :=
    allDone_of_leavesRejection hstep hleaves hready hintake hothers
  have hclosing := (hfinishes hdone).1
  simp [Closing, hcloser, hsame, hopen] at hclosing

/-- A drain without a forced stop finishes in every state of a run exactly when
no rejection is the last piece of work of the run while the inbox is open. -/
theorem Pool.drainFinishes_iff {config : WorkerPoolConfig}
    {inbox : BoundedBlockingQueue SessionEvent}
    (outbox : BoundedBlockingQueue OutboundMessage) {actions : List (Action n)}
    (hempty : inbox.items = []) (hunforced : ∀ action ∈ actions, action ≠ .requestForceStop) :
    TransitionSystem.Throughout (Pool.step config) (Pool.DrainFinishes config) actions
        (Pool.initial n inbox outbox) ↔
      TransitionSystem.Guarded (Pool.step config) Pool.RejectsBeforeEnd actions
        (Pool.initial n inbox outbox) := by
  have hinitial : (Pool.initial n inbox outbox).EndInvariant := by
    constructor
    · exact initial_sound outbox hempty
    · rfl
    · intro hdone
      have hdrain := hdone.ready.1
      simp [Pool.initial] at hdrain
  apply TransitionSystem.throughout_iff_guarded _ _ _ hunforced hinitial
  · intro before action next hend haction hrejects hstep
    exact hend.step haction hrejects hstep
  · intro _ hend
    exact hend.drainFinishes
  · intro _ _ _ _ _ hstep hfinishes
    exact hfinishes.rejectsBeforeEnd hstep

/-- A packet waits parked for a missing number; its duplicate is popped, the
stop is requested, and the duplicate is rejected. -/
def rejectedLastRun : List (Action 1) :=
  [.push (packetEvent 1 1)] ++ works sole 5 ++
    [.push (packetEvent 1 1), .work sole, .beginStop] ++ works sole 7

theorem drainFinishes_iff_rejectedLastRun :
    (∀ action ∈ rejectedLastRun, action ≠ .requestForceStop) ∧
      (TransitionSystem.Throughout (Pool.step smallConfig)
          (Pool.DrainFinishes smallConfig) rejectedLastRun (smallPool 1) ↔
        TransitionSystem.Guarded (Pool.step smallConfig) Pool.RejectsBeforeEnd
          rejectedLastRun (smallPool 1)) := by
  have hunforced : ∀ action ∈ rejectedLastRun, action ≠ .requestForceStop := by
    simp [rejectedLastRun, works]
  exact ⟨hunforced, drainFinishes_iff _ rfl hunforced⟩

theorem drain_stuck_after_rejection :
    ∃ pool : Pool 1,
      pool.ReachedBy smallConfig (fun _ action => action ≠ .requestForceStop) ∧
        pool.AllDone ∧ pool.workers 0 = .popping ∧ ¬ pool.Closing := by
  obtain ⟨pool, hreach, houtcome⟩ := smallPool_reachedBy (n := 1)
    (fun _ action => action ≠ .requestForceStop) rejectedLastRun
    (fun pool => decide pool.DrainReady && pool.intake.isNone && pool.closer.isNone &&
      !pool.inbox.closed && match pool.workers 0 with
      | .popping => true
      | _ => false)
    (by simp [rejectedLastRun, works]) (by decide)
  simp only [Bool.and_eq_true, decide_eq_true_eq, Bool.not_eq_true',
    Option.isNone_iff_eq_none] at houtcome
  obtain ⟨⟨⟨⟨hready, hintake⟩, hcloser⟩, hopen⟩, hcase⟩ := houtcome
  have hworker : pool.workers 0 = .popping := by
    split at hcase
    next hpopping => exact hpopping
    next => simp at hcase
  refine ⟨pool, hreach, ⟨hready, hintake, ?_⟩, hworker, by simp [Closing, hcloser, hopen]⟩
  intro w
  rw [Subsingleton.elim w 0, hworker]
  rfl

end SessionServer.WorkerPool
