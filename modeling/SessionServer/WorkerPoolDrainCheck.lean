import SessionServer.WorkerPoolSimulation

/-!
# When the inbox is closed

Without a forced stop only the drain check closes the inbox.  It runs in
`beginStop`, when an event is discarded, and when a turn ends and hands
nothing back to the worker.  Between the check and the close its thread holds
the sequence mutex; pushes and pops go on meanwhile.
-/

namespace SessionServer.WorkerPool

open BoundedBlockingQueue Pool SessionSequenceState

variable {n : ℕ}
variable {pool after : Pool n} {event : SessionEvent} {config : WorkerPoolConfig} {w : Fin n}
    {ref : StateRef} {action : Action n}

/-- The inbox is closed, or a thread has passed the drain check and is about to
close it. -/
def Pool.Closing (pool : Pool n) : Prop :=
  pool.closer.isSome = true ∨ pool.inbox.closed = true

/-- When this turn ends nothing is left that keeps a draining inbox open: no
other session waits for anything, and its own is either closed by the turn or
has no event in its slots. -/
structure Pool.EndsLast (pool : Pool n) (event : SessionEvent) (ref : StateRef) : Prop where
  drain : pool.drainRequested = true
  empty : pool.inbox.items = []
  outstanding : pool.outstandingDeferred ≤ if event.kind = .deferredCompletion then 1 else 0
  others : ∀ sessionId other, sessionId ≠ event.sessionId →
    pool.current sessionId = some other → (pool.states other).isDrained = true
  slots : (pool.states ref).activeDisconnect = true ∨
    (pool.states ref).parked.entries = [] ∧ (pool.states ref).earlyCompletion = none ∧
      (pool.states ref).pendingDisconnected = none

/-- The step makes the drain check, and the check will pass. -/
def Pool.PassesDrainCheck (pool : Pool n) : Action n → Prop
  | .beginStop => Pool.DrainReady { pool with drainRequested := true }
  | .work w =>
    match pool.workers w with
    | .hand _ _ .discarding => pool.DrainReady
    | .turn event ref .ending => pool.EndsLast event ref
    | _ => False
  | _ => False

/-- The check looks neither at the workers nor at whether the inbox is closed. -/
theorem Pool.DrainReady.congr (hready : pool.DrainReady)
    (hdrain : after.drainRequested = pool.drainRequested)
    (houtstanding : after.outstandingDeferred = pool.outstandingDeferred)
    (hitems : after.inbox.items = pool.inbox.items)
    (hmap : after.sequenceBySession = pool.sequenceBySession)
    (hstates : after.states = pool.states) : after.DrainReady := by
  unfold Pool.DrainReady size at hready ⊢
  rw [hdrain, houtstanding, hitems, hmap, hstates]
  exact hready

theorem Pool.drainReady_iff :
    pool.DrainReady ↔ pool.drainRequested = true ∧ pool.outstandingDeferred = 0 ∧
      pool.inbox.items = [] ∧ ∀ sessionId ref, pool.current sessionId = some ref →
        (pool.states ref).isDrained = true := by
  unfold Pool.DrainReady Pool.current size
  rw [List.length_eq_zero_iff]
  simp only [Finmap.lookup_eq_some_iff, Sigma.forall]

theorem Pool.maybeCloseInboxForDrainLocked_ready (closer : Closer n) :
    (pool.maybeCloseInboxForDrainLocked closer).DrainReady ↔ pool.DrainReady := by
  rw [pool.maybeCloseInboxForDrainLocked_eq]
  rfl

theorem Pool.maybeCloseInboxForDrainLocked_closing (closer : Closer n) :
    (pool.maybeCloseInboxForDrainLocked closer).Closing ↔ pool.Closing ∨ pool.DrainReady := by
  rw [pool.maybeCloseInboxForDrainLocked_eq]
  unfold Closing
  by_cases hready : pool.DrainReady <;> simp [hready]

/-! ## The check at the end of a turn -/

theorem endSessionTurn_drained (state : SessionSequenceState) :
    ((endSessionTurn state).1 = none ∧
        (state.activeDisconnect = true ∨ (endSessionTurn state).2.isDrained = true)) ↔
      (state.activeDisconnect = true ∨ state.parked.entries = [] ∧
        state.earlyCompletion = none ∧ state.pendingDisconnected = none) := by
  cases hdisconnect : state.activeDisconnect with
  | true => simp [endSessionTurn, hdisconnect]
  | false =>
    cases hfailed : state.failed with
    | true =>
      simp [endSessionTurn, hdisconnect, hfailed, isDrained_iff]
      tauto
    | false =>
      cases hfind : state.parked.find? (state.nextSequence + 1) with
      | none => simp [endSessionTurn, hdisconnect, hfailed, hfind, isDrained_iff]
      | some next =>
        have hmem := OrderedMap.find?_some_mem hfind
        have hparked : state.parked.entries ≠ [] := List.ne_nil_of_mem hmem
        simp [endSessionTurn, hdisconnect, hfailed, hfind, hparked]

theorem Pool.RefInvariant.endsLast_iff (hrefs : pool.RefInvariant)
    (hworker : pool.workers w = .turn event ref .ending) :
    pool.EndsLast event ref ↔ (pool.completeSessionTurn w event ref).1 = none ∧
      (pool.completeSessionTurn w event ref).2.DrainReady := by
  have hcurrent := hrefs.turn w event ref _ hworker
  have hended := pool.turnEnded_completeSessionTurn w event ref
  have hslots := endSessionTurn_drained (pool.states ref)
  have hnext : (pool.completeSessionTurn w event ref).1 = (endSessionTurn (pool.states ref)).1 :=
    rfl
  generalize (pool.completeSessionTurn w event ref).2 = ended at hended ⊢
  have hstates : ∀ sessionId other, sessionId ≠ event.sessionId →
      pool.current sessionId = some other → ended.states other = pool.states other := by
    intro sessionId other hne hsome
    have hstale := hrefs.current_ne (hrefs.current _ _ hcurrent).2 hne
    rw [hended.states, Function.update_of_ne]
    rintro rfl
    exact hstale hsome
  have hown : (∀ other, ended.current event.sessionId = some other →
      (ended.states other).isDrained = true) ↔ ((pool.states ref).activeDisconnect = true ∨
        (endSessionTurn (pool.states ref)).2.isDrained = true) := by
    unfold Pool.current at hcurrent ⊢
    rw [hended.sequenceBySession, hended.states]
    cases hdisconnect : (pool.states ref).activeDisconnect with
    | true => simp
    | false => simp [hcurrent]
  have hcount : (if event.kind = .deferredCompletion then pool.outstandingDeferred - 1
      else pool.outstandingDeferred) = 0 ↔
        pool.outstandingDeferred ≤ if event.kind = .deferredCompletion then 1 else 0 := by
    split <;> omega
  rw [hnext, drainReady_iff, hended.drainRequested, hended.outstandingDeferred, hended.inbox,
    hcount]
  constructor
  · intro hlast
    obtain ⟨hnone, hdrained⟩ := hslots.mpr hlast.slots
    refine ⟨hnone, hlast.drain, hlast.outstanding, hlast.empty, ?_⟩
    intro sessionId other hsome
    by_cases hne : sessionId = event.sessionId
    · subst hne
      exact hown.mpr hdrained other hsome
    · rw [hended.current_of_ne hne] at hsome
      rw [hstates sessionId other hne hsome]
      exact hlast.others sessionId other hne hsome
  · rintro ⟨hnone, hdrain, houtstanding, hempty, hall⟩
    constructor
    · exact hdrain
    · exact hempty
    · exact houtstanding
    · intro sessionId other hne hsome
      rw [← hstates sessionId other hne hsome]
      exact hall sessionId other ((hended.current_of_ne hne).trans hsome)
    · exact hslots.mp ⟨hnone, hown.mp (hall event.sessionId)⟩

theorem Pool.completeSessionTurn_closing :
    (pool.completeSessionTurn w event ref).2.Closing ↔ pool.Closing ∨
      (pool.completeSessionTurn w event ref).1 = none ∧
        (pool.completeSessionTurn w event ref).2.DrainReady := by
  simp only [completeSessionTurn]
  split
  next hnone =>
    rw [maybeCloseInboxForDrainLocked_closing, maybeCloseInboxForDrainLocked_ready]
    simp only [Option.isNone_iff_eq_none.mp hnone, true_and]
    rfl
  next hsome =>
    have hnext : (endSessionTurn (pool.states ref)).1 ≠ none := by
      simpa using hsome
    simp only [hnext, false_and, or_false]
    rfl

/-! ## What a step does about stopping -/

/-- The other sections have nothing to do with stopping. -/
structure Pool.KeepsStop (pool after : Pool n) : Prop where
  closer : after.closer = pool.closer
  closed : after.inbox.closed = pool.inbox.closed
  drainRequested : after.drainRequested = pool.drainRequested
  forceStopRequested : after.forceStopRequested = pool.forceStopRequested

structure Pool.Stops (pool after : Pool n) (action : Action n) : Prop where
  forced : action ≠ .requestForceStop → after.forceStopRequested = pool.forceStopRequested
  drain : action ≠ .beginStop → after.drainRequested = pool.drainRequested
  closed : pool.inbox.closed = true → after.inbox.closed = true
  closing : pool.RefInvariant → pool.forceStopRequested = false →
    (after.Closing ↔ pool.Closing ∨ pool.PassesDrainCheck action)

theorem Pool.KeepsStop.stops
    (hkeeps : pool.KeepsStop after) (hcheck : ¬ pool.PassesDrainCheck action) :
    pool.Stops after action := by
  constructor
  · intro _
    exact hkeeps.forceStopRequested
  · intro _
    exact hkeeps.drainRequested
  · intro hclosed
    rw [hkeeps.closed, hclosed]
  · intro _ _
    unfold Closing
    rw [hkeeps.closer, hkeeps.closed]
    simp only [hcheck, or_false]

theorem Pool.Publication.closer {message : OutboundMessage} {next : Bool → Worker}
    {effect : Effect n} (hpublish : pool.Publication ref event message next effect) :
    effect.closer = pool.closer := by
  cases hpublish <;> rfl

theorem Pool.Section.stops {worker : Worker} {effect : Effect n} (hworker : pool.workers w = worker)
    (hsection : pool.Section config w ref action worker effect) :
    pool.Stops (pool.perform w ref effect) action := by
  have hkeeps (hcloser : effect.closer = pool.closer)
      (hcheck : ¬ pool.PassesDrainCheck action) :
      pool.Stops (pool.perform w ref effect) action :=
    Pool.KeepsStop.stops ⟨hcloser, rfl, rfl, rfl⟩ hcheck
  cases hsection with
  | lose _ _ _ hstage =>
    apply hkeeps rfl
    rcases hstage with rfl | ⟨_, rfl⟩ <;> simp [PassesDrainCheck, hworker]
  | discard =>
    have hcheck : pool.PassesDrainCheck (.work w) ↔ pool.DrainReady := by
      simp only [PassesDrainCheck, hworker]
    refine ⟨fun _ => rfl, fun _ => rfl, id, ?_⟩
    intro _ _
    rw [hcheck, ← maybeCloseInboxForDrainLocked_closing (.worker w),
      maybeCloseInboxForDrainLocked_eq]
    rfl
  | disconnectHand _ _ hpublish | disconnectTurn _ _ hpublish | publish _ _ _ _ _ _ hpublish =>
    apply hkeeps hpublish.closer
    simp [PassesDrainCheck, hworker]
  | _ =>
    apply hkeeps rfl
    simp [PassesDrainCheck, hworker]

theorem Pool.Outside.stops (houtside : pool.Outside action after) : pool.Stops after action := by
  cases houtside with
  | popOutbound | closeOutbox => exact Pool.KeepsStop.stops ⟨rfl, rfl, rfl, rfl⟩ id
  | pop _ _ _ hworker =>
    exact Pool.KeepsStop.stops ⟨rfl, rfl, rfl, rfl⟩ (by simp [PassesDrainCheck, hworker])
  | beginStop =>
    have hsame := maybeCloseInboxForDrainLocked_eq { pool with drainRequested := true } .stopper
    constructor
    · intro _
      rw [Pool.beginStop, hsame]
    · intro hne
      exact absurd rfl hne
    · intro hclosed
      rw [Pool.beginStop, hsame]
      exact hclosed
    · intro _ _
      exact maybeCloseInboxForDrainLocked_closing .stopper
  | closeDrained hcloser =>
    refine ⟨fun _ => rfl, fun _ => rfl, fun _ => rfl, ?_⟩
    simp [Closing, hcloser]
  | requestForceStop =>
    refine ⟨fun hne => absurd rfl hne, fun _ => rfl, id, ?_⟩
    intro _ _
    exact (or_iff_left id).symm
  | closeInbox hforced =>
    refine ⟨fun _ => rfl, fun _ => rfl, fun _ => rfl, ?_⟩
    intro _ hnot
    simp [hforced] at hnot

theorem StepOutcome.stops (houtcome : StepOutcome config pool after action) :
    pool.Stops after action := by
  cases houtcome with
  | push _ _ _ hafter | complete _ _ _ _ _ hafter | completeInline _ _ _ _ _ hafter
  | answer _ _ _ _ hafter | pushCompletion _ _ _ _ _ hafter | refuseCompletion _ _ _ _ _ hafter
  | defer _ _ _ _ _ hafter =>
    subst hafter
    exact Pool.KeepsStop.stops ⟨rfl, rfl, rfl, rfl⟩ id
  | lookup _ event _ hworker _ hafter =>
    subst hafter
    apply Pool.KeepsStop.stops
    · unfold lookupOrCreate
      split <;> exact ⟨rfl, rfl, rfl, rfl⟩
    · simp [PassesDrainCheck, hworker]
  | move _ _ _ _ hsection hafter =>
    subst hafter
    exact hsection.stops rfl
  | ending w event ref hworker hafter =>
    have hended := pool.turnEnded_completeSessionTurn w event ref
    subst hafter
    constructor
    · intro _
      exact hended.forceStopRequested
    · intro _
      exact hended.drainRequested
    · intro hclosed
      exact (congrArg BoundedBlockingQueue.closed hended.inbox).trans hclosed
    · intro hrefs _
      simp only [PassesDrainCheck, hworker]
      rw [hrefs.endsLast_iff hworker]
      exact completeSessionTurn_closing
  | outside _ houtside => exact houtside.stops
  | exit _ hworker _ _ hafter | finish _ _ _ _ _ hworker _ hafter
  | markDeferred _ _ _ _ _ _ hworker _ hafter | crash _ _ _ _ hworker _ hafter =>
    subst hafter
    exact Pool.KeepsStop.stops ⟨rfl, rfl, rfl, rfl⟩ (by simp [PassesDrainCheck, hworker])

theorem Pool.stops_step (hstep : pool.step config action = some after) : pool.Stops after action :=
  (outcome hstep).stops

theorem Pool.unforced_before (hstep : pool.step config action = some after)
    (hunforced : after.forceStopRequested = false) : pool.forceStopRequested = false := by
  by_cases haction : action = .requestForceStop
  · subst haction
    simp only [Pool.step, Option.some.injEq] at hstep
    subst hstep
    simp at hunforced
  · rw [← (stops_step hstep).forced haction]
    exact hunforced

/-! ## Events in the workers' hands -/

/-- A worker in the turn of an event, or with an event in its hand. -/
def Worker.holdsEvent : Worker → Bool
  | .hand _ _ _ => true
  | .turn _ _ _ => true
  | _ => false

/-- The event will be tried, for the first time or once more. -/
def HandStage.isUnstarted (event : SessionEvent) : HandStage → Bool
  | .popped _ => true
  | .starting => true
  | .trying => true
  | .failing _ => event.isDisconnected
  | .disconnecting => event.isDisconnected
  | .discarding => false
  | .takingPending => false

/-- The worker holds an event whose turn it has not started. -/
def Worker.holdsUnstarted : Worker → Bool
  | .hand event _ stage => stage.isUnstarted event
  | _ => false

end SessionServer.WorkerPool
