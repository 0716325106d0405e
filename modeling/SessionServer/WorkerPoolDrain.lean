import SessionServer.SessionCompletion
import SessionServer.WorkerPoolDrainCheck
import SessionServer.WorkerPoolSerialisation

/-!
# A graceful stop and the completions

Once the inbox is closed no completion can be pushed any more.  The drain
check looks at the inbox, the sequence states and the count of deferrals, but
not at the events workers have in their hands, and an event may still be
pushed between the check and the close.  Such an event is left behind by the
close: it may still be deferred, and its completion is then refused.

If no check passes while a worker holds an event it has not started, and no
event is pushed between a check and its close, closing is final: nothing is
left that could run, defer or complete.
-/

namespace SessionServer.WorkerPool

open SessionSequenceState Pool Worker HandStage

variable {n : ℕ} {action : Action n}
variable {state : SessionSequenceState} {w : Fin n} {ref : StateRef} {config : WorkerPoolConfig}
    {id : DeferralId}

theorem markSessionFailed_isDrained (hdrained : state.isDrained = true) :
    (markSessionFailed state).2.isDrained = true := by
  obtain ⟨hactive, hparked, hearly, hpending⟩ :=
    isDrained_iff.mp hdrained
  apply isDrained_iff.mpr
  unfold markSessionFailed
  split
  next => exact ⟨hactive, hparked, hearly, hpending⟩
  next =>
    have hfirst : state.parked.firstValue? (fun event => event.kind == .disconnected) = none := by
      simp [OrderedMap.firstValue?, hparked]
    simp [hactive, hearly, hpending, hfirst]

theorem takePendingDisconnected_of_drained (hdrained : state.isDrained = true) :
    (takePendingDisconnected state).1 = none ∧
      (takePendingDisconnected state).2.isDrained = true := by
  obtain ⟨hactive, hparked, hearly, hpending⟩ :=
    isDrained_iff.mp hdrained
  unfold takePendingDisconnected
  split
  next => exact ⟨rfl, hdrained⟩
  next =>
    exact ⟨hpending, isDrained_iff.mpr ⟨hactive, hparked, hearly, rfl⟩⟩

/-! ## Nothing is left to do -/

structure Pool.Drained (pool : Pool n) : Prop where
  empty : pool.queued = []
  unstarted : ∀ w, (pool.workers w).holdsUnstarted = false
  states : ∀ sessionId ref, pool.current sessionId = some ref → (pool.states ref).isDrained = true
  outstanding : pool.outstandingDeferred = 0

theorem Pool.DrainReady.drained {pool : Pool n} (hready : pool.DrainReady)
    (hintake : pool.intake = none)
    (hunstarted : ∀ w, (pool.workers w).holdsUnstarted = false) : pool.Drained := by
  obtain ⟨_, houtstanding, hempty, hstates⟩ := drainReady_iff.mp hready
  refine ⟨?_, hunstarted, hstates, houtstanding⟩
  simp [queued, hintake, hempty]

section Drained

variable {pool after : Pool n}

variable (hdrained : pool.Drained)
include hdrained

theorem Pool.Drained.inactive (sessionId : SessionId) :
    (pool.view sessionId).state.active = false := by
  cases hcurrent : pool.current sessionId with
  | none =>
    change (pool.stateOf sessionId).active = false
    simp [stateOf, hcurrent]
  | some ref =>
    change (pool.stateOf sessionId).active = false
    rw [stateOf_of_current hcurrent]
    exact (isDrained_iff.mp (hdrained.states sessionId ref hcurrent)).1

theorem Pool.Drained.not_turn (hinv : pool.Invariant) {event : SessionEvent} {stage : TurnStage} :
    pool.workers w ≠ .turn event ref stage := by
  intro hworker
  have htask := view_of_turn hworker (hinv.refs.turn w event ref stage hworker)
  have hactive := ((hinv.turns event.sessionId).turnOpen htask).active
  simp [hdrained.inactive event.sessionId] at hactive

theorem Pool.Drained.callable (hinv : pool.Invariant)
    (sessionId : SessionId) : (pool.view sessionId).callable = 0 :=
  SessionView.callable_of_tokens ((hinv.turns sessionId).inactive (hdrained.inactive sessionId)).2.2

theorem Pool.Drained.congr (hqueued : after.queued = pool.queued)
    (hmap : after.sequenceBySession = pool.sequenceBySession)
    (houtstanding : after.outstandingDeferred = pool.outstandingDeferred)
    (hworkers : ∀ w, (after.workers w).holdsUnstarted = false)
    (hstates : ∀ sessionId ref, pool.current sessionId = some ref →
      (after.states ref).isDrained = true) : after.Drained where
  empty := hqueued.trans hdrained.empty
  unstarted := hworkers
  states := by
    intro sessionId ref hcurrent
    unfold Pool.current at hcurrent
    rw [hmap] at hcurrent
    exact hstates sessionId ref hcurrent
  outstanding := houtstanding.trans hdrained.outstanding

/-- A worker that is free of unstarted events stays so, and its state too. -/
theorem Pool.Drained.workerMove {lossy : Bool} (hinv : pool.Invariant)
    {worker : Worker} {observations : List Observation}
    (hmove : WorkerMove config lossy (pool.states ref) ref (pool.workers w) worker
      state observations) :
    worker.holdsUnstarted = false ∧
      ∀ sessionId, pool.current sessionId = some ref → state.isDrained = true := by
  have hstate : ∀ sessionId, pool.current sessionId = some ref →
      (pool.states ref).isDrained = true :=
    fun sessionId hcurrent => hdrained.states sessionId ref hcurrent
  have hnot := hdrained.unstarted w
  have hturn : ∀ event stage, pool.workers w ≠ .turn event ref stage :=
    fun event stage => hdrained.not_turn hinv
  generalize hold : pool.workers w = old at hmove hnot hturn
  cases hmove with
  | hand event _ _ _ hmove =>
    apply And.intro _ hstate
    cases hmove with
    | notify | enter => simp [holdsUnstarted, isUnstarted] at hnot
    | alreadyFailed | disconnected =>
      have hkind : event.kind ≠ .disconnected := by
        simpa [holdsUnstarted, isUnstarted, SessionEvent.isDisconnected] using hnot
      simp [afterRejection, hkind, holdsUnstarted, isUnstarted]
  | tryStart =>
    simp [holdsUnstarted, isUnstarted] at hnot
  | discard | lose => exact ⟨rfl, hstate⟩
  | failHand =>
    constructor
    · simpa [holdsUnstarted, isUnstarted] using hnot
    · intro sessionId hcurrent
      exact markSessionFailed_isDrained (hstate sessionId hcurrent)
  | takePending event =>
    obtain ⟨_, _, hcase⟩ := hinv.refs.hand w event ref _ hold
    rcases hcase with hcurrent | hclosed
    · obtain ⟨hnone, hafter⟩ := takePendingDisconnected_of_drained (hstate event.sessionId hcurrent)
      rw [hnone]
      exact ⟨rfl, fun _ _ => hafter⟩
    · have htake : takePendingDisconnected (pool.states ref) = (none, pool.states ref) := by
        simp [takePendingDisconnected, hclosed]
      rw [htake]
      exact ⟨rfl, hstate⟩
  | turn event stage => exact absurd rfl (hturn event stage)
  | failTurn event | invoke event | handlerReturn event | handlerThrow event =>
    exact absurd rfl (hturn event _)

theorem Pool.Drained.update_unstarted {worker : Worker} (hworker : worker.holdsUnstarted = false)
    (hworkers : after.workers = Function.update pool.workers w worker) :
    ∀ v, (after.workers v).holdsUnstarted = false := by
  intro v
  rw [hworkers]
  by_cases hvw : v = w
  · rw [hvw, Function.update_self]
    exact hworker
  · rw [Function.update_of_ne hvw]
    exact hdrained.unstarted v

theorem Pool.Drained.not_pushing (hinv : pool.Invariant) {payload : DeferredCompletionPayload}
    (hid : id < pool.nextDeferral) :
    (pool.deferrals id).pushing ≠ some payload := by
  intro hpushing
  have hcallable : (pool.deferrals id).isCallable = true := by
    simp [Deferral.isCallable, hpushing]
  have hzero : pool.callableOf (pool.deferrals id).sessionId = 0 :=
    hdrained.callable hinv (pool.deferrals id).sessionId
  have hterm := Finset.sum_eq_zero_iff.mp hzero id (Finset.mem_range.mpr hid)
  rw [Deferral.callable_self hcallable] at hterm
  simp at hterm

/-- With nothing left and no push, nothing comes back. -/
theorem Pool.Drained.step (hinv : pool.Invariant) (hnoPush : ∀ event, action ≠ .push event)
    (hstep : StepOutcome config pool after action) : after.Drained := by
  have hstates : ∀ sessionId ref, pool.current sessionId = some ref →
      (pool.states ref).isDrained = true := hdrained.states
  cases hstep with
  | push event => exact absurd rfl (hnoPush event)
  | pushCompletion _ _ hid hpushing => exact absurd hpushing (hdrained.not_pushing hinv hid)
  | lookup _ _ _ _ hintake =>
    have hempty := hdrained.empty
    simp [queued, hintake] at hempty
  | exit _ _ _ _ hafter =>
    subst hafter
    exact hdrained.congr rfl rfl rfl (hdrained.update_unstarted rfl rfl) hstates
  | move _ ref _ _ hsection hafter =>
    obtain ⟨_, _, _, hmove, hacts⟩ := hsection.moved hafter
    obtain ⟨hworker, hstate⟩ := hdrained.workerMove hinv hmove
    apply hdrained.congr (queued_congr hacts.inbox hacts.intake) hacts.sequenceBySession
      hacts.outstandingDeferred (hdrained.update_unstarted hworker hacts.workers)
    intro sessionId other hcurrent
    rw [hacts.states]
    by_cases hother : other = ref
    · subst hother
      rw [Function.update_self]
      exact hstate sessionId hcurrent
    · rw [Function.update_of_ne hother]
      exact hstates sessionId other hcurrent
  | finish _ _ _ _ _ hworker | markDeferred _ _ _ _ _ _ hworker | crash _ _ _ _ hworker
  | ending _ _ _ hworker | defer _ _ _ _ hworker => exact absurd hworker (hdrained.not_turn hinv)
  | complete _ _ _ _ _ hafter | completeInline _ _ _ _ _ hafter | answer _ _ _ _ hafter
  | refuseCompletion _ _ _ _ _ hafter =>
    subst hafter
    exact hdrained.congr rfl rfl rfl hdrained.unstarted hstates
  | outside _ houtside =>
    have hunmoved := houtside.unmoved
    apply hdrained.congr hunmoved.queued hunmoved.sequenceBySession hunmoved.outstandingDeferred
    · rw [hunmoved.workers]
      exact hdrained.unstarted
    · rw [hunmoved.states]
      exact hstates

end Drained

/-! ## Refused completions -/

/-- The first call on a deferral came back refused. -/
def Pool.HasRefused (pool : Pool n) : Prop :=
  ∃ sessionId id, Observation.answered sessionId id true false ∈ pool.transcript

theorem tryLog_not_answered {event : SessionEvent} {disposition : SessionTurnDisposition}
    {sessionId : SessionId} :
    Observation.answered sessionId id true false ∉ tryLog event disposition := by
  intro hmem
  cases disposition with
  | process =>
    by_cases hkind : event.kind = .deferredCompletion <;> simp [tryLog, hkind] at hmem
  | _ => simp [tryLog] at hmem

theorem WorkerMove.not_answered {lossy : Bool} {before : SessionSequenceState} {old new : Worker}
    {observations : List Observation}
    (hmove : WorkerMove config lossy before ref old new state observations)
    {sessionId : SessionId} :
    Observation.answered sessionId id true false ∉ observations := by
  intro hmem
  cases hmove with
  | hand _ _ _ _ _ hpublishes =>
    obtain ⟨message, hmessage⟩ := hpublishes _ hmem
    simp at hmessage
  | tryStart => exact tryLog_not_answered hmem
  | turn _ _ _ _ _ _ hpublishes =>
    obtain ⟨_, hmessage⟩ := hpublishes _ hmem
    simp at hmessage
  | _ => simp at hmem

theorem StepOutcome.refused {pool after : Pool n}
    (hstep : StepOutcome config pool after action) (hrefused : after.HasRefused) :
    pool.HasRefused ∨ pool.forceStopRequested = true ∨
      (pool.inbox.closed = true ∧ ∃ id payload, id < pool.nextDeferral ∧
        (pool.deferrals id).pushing = some payload) := by
  obtain ⟨sessionId, id, hmem⟩ := hrefused
  have hkeep : ∀ observations, after.transcript = pool.transcript ++ observations →
      Observation.answered sessionId id true false ∉ observations → pool.HasRefused := by
    intro observations htranscript hnot
    rw [htranscript] at hmem
    exact ⟨sessionId, id, (List.mem_append.mp hmem).resolve_right hnot⟩
  cases hstep with
  | push event _ _ hafter =>
    exact .inl (hkeep [.accepted event] (by rw [hafter]; rfl) (by simp))
  | lookup _ event _ _ _ hafter =>
    have htranscript : after.transcript = pool.transcript ++ [.popped event] := by
      rw [hafter]
      unfold lookupOrCreate
      dsimp only
      split <;> rfl
    exact .inl (hkeep [.popped event] htranscript (by simp))
  | exit _ _ _ _ hafter | finish _ _ _ _ _ _ _ hafter
  | markDeferred w event ref inlineCompletion earlyCompletion state hworker hdefer
      hafter =>
      exact .inl (hkeep [] (by rw [hafter, List.append_nil]; rfl) (by simp))
  | crash _ _ _ _ _ _ hafter | defer _ _ _ _ _ hafter =>
    exact .inl (hkeep [] (by rw [hafter, List.append_nil]; rfl) (by simp))
  | move _ _ _ _ hsection hafter =>
    obtain ⟨_, state, observations, hmove, hacts⟩ := hsection.moved hafter
    exact .inl (hkeep observations hacts.transcript hmove.not_answered)
  | ending w event ref _ hafter =>
    apply Or.inl
    apply hkeep [.ended event (pool.states ref).activeDisconnect] _ (by simp)
    rw [hafter]
    exact (pool.turnEnded_completeSessionTurn w event ref).transcript
  | complete _ _ _ _ _ hafter =>
    exact .inl (hkeep [] (by rw [hafter, List.append_nil]) (by simp))
  | completeInline other _ _ _ _ hafter | pushCompletion other _ _ _ _ hafter =>
    exact .inl (hkeep [.answered (pool.deferrals other).sessionId other true true]
      (by rw [hafter]; rfl) (by simp))
  | answer other _ _ hrefused hafter =>
    rcases hrefused with hforced | hcompleted
    · exact .inr (.inl hforced)
    · exact .inl (hkeep [.answered (pool.deferrals other).sessionId other
        (!(pool.deferrals other).completed) false] (by rw [hafter]; rfl)
        (by simp [hcompleted]))
  | refuseCompletion other payload hid hpushing hclosed =>
    exact .inr (.inr ⟨hclosed, other, payload, hid, hpushing⟩)
  | outside _ houtside =>
    have hunmoved := houtside.unmoved
    exact .inl (hkeep [] (by rw [hunmoved.transcript, List.append_nil]) (by simp))

/-! ## A drain that leaves no event behind loses nothing -/

/-- A drain leaves no event behind: a check that will pass finds no event popped
and not started, and none is pushed between the check and the close. -/
structure Pool.LeavesNoEvent (pool : Pool n) (action : Action n) : Prop where
  hands : pool.PassesDrainCheck action →
    pool.intake = none ∧ ∀ w, (pool.workers w).holdsUnstarted = false
  pushes : ∀ event, action = .push event → pool.closer = none

/-- The step of a check that passes leaves the pool ready, and its worker is
free. -/
theorem Pool.step_of_passes {pool after : Pool n} {action : Action n}
    (hrefs : pool.RefInvariant) (hstep : pool.step config action = some after)
    (hpasses : pool.PassesDrainCheck action) :
    after.DrainReady ∧ after.intake = pool.intake ∧
      ∀ w, (after.workers w).holdsUnstarted = (pool.workers w).holdsUnstarted := by
  have hfree : ∀ (middle : Pool n) (w : Fin n), middle.workers = pool.workers →
      (pool.workers w).holdsUnstarted = false → ∀ v,
        ((middle.setWorker w .popping).workers v).holdsUnstarted =
          (pool.workers v).holdsUnstarted := by
    intro _ w hworkers hnot v
    unfold setWorker
    dsimp only
    rw [hworkers]
    by_cases hvw : v = w
    · rw [hvw, Function.update_self, hnot]
      rfl
    · rw [Function.update_of_ne hvw]
  cases action with
  | beginStop =>
    simp only [Pool.step, Option.ite_none_left_eq_some, Option.some.injEq] at hstep
    have hready := (maybeCloseInboxForDrainLocked_ready .stopper).mpr hpasses
    rw [← hstep.2]
    refine ⟨hready, ?_⟩
    unfold beginStop
    rw [maybeCloseInboxForDrainLocked_eq]
    exact ⟨rfl, fun _ => rfl⟩
  | work w =>
    simp only [Pool.step, runStep, Option.ite_none_left_eq_some] at hstep
    have hmoves := hstep.2
    simp only [PassesDrainCheck] at hpasses
    split at hpasses
    next hworker =>
      simp only [hworker, handStep, Option.some.injEq] at hmoves
      subst hmoves
      have hready := (maybeCloseInboxForDrainLocked_ready (.worker w)).mpr hpasses
      refine ⟨hready.congr rfl rfl rfl rfl rfl, ?_, ?_⟩
      · rw [maybeCloseInboxForDrainLocked_eq]
        rfl
      · apply hfree
        · rw [maybeCloseInboxForDrainLocked_eq]
        · rw [hworker]
          rfl
    next event ref hworker =>
      have hended := pool.turnEnded_completeSessionTurn w event ref
      obtain ⟨hnone, hready⟩ := (hrefs.endsLast_iff hworker).mp hpasses
      simp only [hworker, turnStep, hnone, Option.some.injEq] at hmoves
      subst hmoves
      refine ⟨hready.congr rfl rfl rfl rfl rfl, hended.intake, ?_⟩
      apply hfree _ _ hended.workers
      rw [hworker]
      rfl
    next => exact hpasses.elim
  | _ => exact hpasses.elim

/-- What a graceful stop owes to the deferred events. -/
structure Pool.KeepsCompletions (pool : Pool n) : Prop where
  /-- The first call of every completion was accepted. -/
  accepted : ¬ pool.HasRefused
  /-- A turn that waits for its completion has exactly one: still to be called,
  in the inbox, in a worker's hand or being processed. -/
  kept : ∀ sessionId, (pool.view sessionId).state.active = true →
    (pool.view sessionId).state.awaitingCompletion = true →
      (pool.view sessionId).weigh Task.turns + (pool.view sessionId).tokens = 1
  /-- The inbox is not closed while an accepted event is not started or a
  completion is outstanding. -/
  closing : pool.Closing → pool.queued = [] ∧
    (∀ w, (pool.workers w).holdsUnstarted = false) ∧ pool.outstandingDeferred = 0 ∧
      ∀ sessionId, (pool.view sessionId).callable = 0

structure Pool.DrainInvariant (pool : Pool n) : Prop where
  sound : pool.Sound
  unforced : pool.forceStopRequested = false
  accepted : ¬ pool.HasRefused
  kept : pool.inbox.closed = false → ∀ sessionId, (pool.view sessionId).CompletionsKept
  drained : pool.Closing → pool.Drained

theorem Pool.DrainInvariant.keepsCompletions {pool : Pool n}
    (hdrain : pool.DrainInvariant) : pool.KeepsCompletions := by
  have hinv := hdrain.sound.invariant
  constructor
  · exact hdrain.accepted
  · intro sessionId hactive hawaiting
    have hatMost := (hinv.turns sessionId).awaiting hactive hawaiting
    cases hclosed : pool.inbox.closed with
    | false =>
      have hatLeast := (hdrain.kept hclosed sessionId).awaiting hactive hawaiting
      omega
    | true => simp [(hdrain.drained (.inr hclosed)).inactive sessionId] at hactive
  · intro hclosing
    have hdrained := hdrain.drained hclosing
    exact ⟨hdrained.empty, hdrained.unstarted, hdrained.outstanding, hdrained.callable hinv⟩

theorem Pool.initial_drainInvariant {inbox : BoundedBlockingQueue SessionEvent}
    (outbox : BoundedBlockingQueue OutboundMessage) (hempty : inbox.items = []) :
    (Pool.initial n inbox outbox).DrainInvariant := by
  constructor
  · exact initial_sound outbox hempty
  · rfl
  · rintro ⟨sessionId, _, hmem⟩
    simp [Pool.initial] at hmem
  · intro _ sessionId
    rw [initial_view inbox outbox hempty]
    exact SessionView.initial_completionsKept n sessionId
  · intro _
    constructor
    · simp [queued, Pool.initial, hempty]
    · intro w
      rfl
    · intro _ _ hcurrent
      simp [Pool.current, Pool.initial] at hcurrent
    · rfl

theorem Pool.DrainInvariant.step {pool after : Pool n}
    {action : Action n} (hdrain : pool.DrainInvariant)
    (hunforced : action ≠ .requestForceStop) (hleaves : pool.LeavesNoEvent action)
    (hstep : pool.step config action = some after) : after.DrainInvariant := by
  have hinv := hdrain.sound.invariant
  have hcases := outcome hstep
  have hstops := stops_step hstep
  constructor
  · exact hdrain.sound.step hcases
  · rw [hstops.forced hunforced]
    exact hdrain.unforced
  · intro hrefused
    rcases hcases.refused hrefused with hold | hforced | ⟨hclosed, _, _, hid, hpushing⟩
    · exact hdrain.accepted hold
    · simp [hdrain.unforced] at hforced
    · exact (hdrain.drained (.inr hclosed)).not_pushing hinv hid hpushing
  · intro hopen sessionId
    have hbefore : pool.inbox.closed = false := by
      by_contra hclosed
      have hstill := hstops.closed (Bool.eq_true_of_not_eq_false hclosed)
      simp [hopen] at hstill
    have hlossless : pool.lossy = false := by
      simp [lossy, hdrain.unforced, hbefore]
    rcases hinv.simulates hcases sessionId with hsame | hsession
    · rw [hsame]
      exact hdrain.kept hbefore sessionId
    · rw [hlossless] at hsession
      exact (hdrain.kept hbefore sessionId).step (hinv.turns sessionId) hsession
  · rw [hstops.closing hinv.refs hdrain.unforced]
    rintro (hclosing | hpasses)
    · apply (hdrain.drained hclosing).step hinv _ hcases
      rintro event rfl
      cases hcases with
      | push _ _ hopen => simp [Closing, hleaves.pushes event rfl, hopen] at hclosing
      | outside _ houtside => cases houtside
      | move _ _ _ _ hsection => cases hsection
    · obtain ⟨hready, hintake, hsame⟩ := step_of_passes hinv.refs hstep hpasses
      obtain ⟨hnone, hfree⟩ := hleaves.hands hpasses
      apply hready.drained (hintake.trans hnone)
      intro w
      rw [hsame]
      exact hfree w

/-- A state in which deferred events are safe is not reached by a check that
overlooks a worker's hand, nor by a push that the check has not seen. -/
theorem Pool.KeepsCompletions.leavesNoEvent
    {pool after : Pool n} {action : Action n} (hkeeps : after.KeepsCompletions)
    (hrefs : pool.RefInvariant) (hunforced : pool.forceStopRequested = false)
    (hstep : pool.step config action = some after) : pool.LeavesNoEvent action := by
  have hclosing := (stops_step hstep).closing hrefs hunforced
  constructor
  · intro hpasses
    obtain ⟨_, hintake, hsame⟩ := step_of_passes hrefs hstep hpasses
    obtain ⟨hempty, hfree, _⟩ := hkeeps.closing (hclosing.mpr (.inr hpasses))
    constructor
    · have hnone := (List.append_eq_nil_iff.mp hempty).1
      rw [hintake] at hnone
      cases hpopped : pool.intake with
      | none => rfl
      | some => simp [hpopped] at hnone
    · intro w
      rw [← hsame w]
      exact hfree w
  · rintro event rfl
    by_contra hcloser
    have hqueued := (hkeeps.closing (hclosing.mpr
      (.inl (.inl (Option.isSome_iff_ne_none.mpr hcloser))))).1
    cases outcome hstep with
    | push _ _ _ hafter =>
      subst hafter
      simp [queued, Pool.log] at hqueued
    | outside _ houtside => cases houtside
    | move _ _ _ _ hsection => cases hsection

/-- A run without a forced stop keeps every completion exactly when every drain
check that passes finds no event popped and not started, and no event is
pushed between such a check and its close. -/
theorem Pool.keepsCompletions_iff {config : WorkerPoolConfig}
    {inbox : BoundedBlockingQueue SessionEvent}
    (outbox : BoundedBlockingQueue OutboundMessage) {actions : List (Action n)}
    (hempty : inbox.items = []) (hunforced : ∀ action ∈ actions, action ≠ .requestForceStop) :
    TransitionSystem.Throughout (Pool.step config) Pool.KeepsCompletions actions
        (Pool.initial n inbox outbox) ↔
      TransitionSystem.Guarded (Pool.step config) Pool.LeavesNoEvent actions
        (Pool.initial n inbox outbox) := by
  apply TransitionSystem.throughout_iff_guarded _ _ _ hunforced
    (initial_drainInvariant outbox hempty)
  · intro before action next hdrain haction hleaves hstep
    exact hdrain.step haction hleaves hstep
  · intro _ hdrain
    exact hdrain.keepsCompletions
  · intro _ _ _ hdrain _ hstep hkeeps
    exact hkeeps.leavesNoEvent hdrain.sound.invariant.refs hdrain.unforced hstep

/-- The event is deferred, and its completion is called after the handler has
returned. -/
def lateDeferral (sections : ℕ) : List (Action 1) :=
  works sole sections ++ [.defer sole, .handlerReturn sole] ++ works sole 3 ++
    [.complete 0 { failed := false, messages := [] }, .pushCompletion 0]

/-- The stop comes while the only worker holds the packet it has popped. -/
def heldPacketRun : List (Action 1) :=
  [.push (packetEvent 1 0), .work sole, .beginStop, .closeDrained] ++ lateDeferral 5

/-- The packet comes between the drain check and the close. -/
def latePacketRun : List (Action 1) :=
  [.beginStop, .push (packetEvent 1 0), .closeDrained] ++ lateDeferral 6

theorem keepsCompletions_iff_latePacketRun :
    (∀ action ∈ latePacketRun, action ≠ .requestForceStop) ∧
      (TransitionSystem.Throughout (Pool.step smallConfig) Pool.KeepsCompletions
          latePacketRun (smallPool 1) ↔
        TransitionSystem.Guarded (Pool.step smallConfig) Pool.LeavesNoEvent
          latePacketRun (smallPool 1)) := by
  have hunforced : ∀ action ∈ latePacketRun, action ≠ .requestForceStop := by
    simp [latePacketRun, lateDeferral, works]
  exact ⟨hunforced, keepsCompletions_iff _ rfl hunforced⟩

/-- Without a forced stop the run ends with a first completion call that was
refused. -/
def RefusesCompletion (run : List (Action 1)) : Prop :=
  (∀ action ∈ run, action ≠ .requestForceStop) ∧
    ∃ pool, TransitionSystem.run (Pool.step smallConfig) run (smallPool 1) = some pool ∧
      pool.HasRefused ∧ pool.inbox.closed = true ∧ pool.outstandingDeferred = 1

theorem completion_refused_after_beginStop :
    RefusesCompletion heldPacketRun ∧ RefusesCompletion latePacketRun := by
  have hrefuses (run : List (Action 1)) (hrun : run = heldPacketRun ∨ run = latePacketRun) :
      RefusesCompletion run := by
    constructor
    · rcases hrun with rfl | rfl <;> simp [heldPacketRun, latePacketRun, lateDeferral, works]
    · have houtcome : (TransitionSystem.run (Pool.step smallConfig) run (smallPool 1)).any
          (fun pool => pool.transcript.contains (.answered 1 0 true false) &&
            pool.inbox.closed && pool.outstandingDeferred == 1) = true := by
        rcases hrun with rfl | rfl <;> decide
      obtain ⟨pool, hpool, hrefused⟩ := (Option.any_eq_true _ _).mp houtcome
      simp only [Bool.and_eq_true, List.contains_eq_mem, decide_eq_true_eq, beq_iff_eq] at hrefused
      exact ⟨pool, hpool, ⟨1, 0, hrefused.1.1⟩, hrefused.1.2, hrefused.2⟩
  exact ⟨hrefuses _ (.inl rfl), hrefuses _ (.inr rfl)⟩

end SessionServer.WorkerPool
