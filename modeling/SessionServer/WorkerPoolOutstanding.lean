import SessionServer.WorkerPoolInvariant

/-!
# The counter of outstanding deferrals

`outstanding_deferred_` counts the turns that wait for their completion.
-/

namespace SessionServer.WorkerPool

open SessionSequenceState Finset Pool

variable {n : ℕ} {config : WorkerPoolConfig} {pool after : Pool n} {action : Action n}
variable {ref : StateRef} {state : SessionSequenceState}

def SessionSequenceState.awaits (state : SessionSequenceState) : ℕ :=
  state.awaitingCompletion.toNat

def Pool.CountsAwaiting (pool : Pool n) : Prop :=
  pool.outstandingDeferred = ∑ ref ∈ range pool.nextRef, (pool.states ref).awaits

theorem Pool.initial_countsAwaiting (inbox : BoundedBlockingQueue SessionEvent)
    (outbox : BoundedBlockingQueue OutboundMessage) :
    (initial n inbox outbox).CountsAwaiting := rfl

theorem Pool.CountsAwaiting.congr (hcounts : pool.CountsAwaiting)
    (hstates : after.states = pool.states) (hnextRef : after.nextRef = pool.nextRef)
    (houtstanding : after.outstandingDeferred = pool.outstandingDeferred) :
    after.CountsAwaiting := by
  unfold Pool.CountsAwaiting at hcounts ⊢
  rw [houtstanding, hstates, hnextRef, hcounts]

theorem Pool.CountsAwaiting.update (hcounts : pool.CountsAwaiting) (hlt : ref < pool.nextRef)
    (hstates : after.states = Function.update pool.states ref state)
    (hnextRef : after.nextRef = pool.nextRef)
    (hbooks : after.outstandingDeferred + (pool.states ref).awaits =
      pool.outstandingDeferred + state.awaits) : after.CountsAwaiting := by
  have hsum := Accounting.sum_update_add (range pool.nextRef)
    awaits pool.states (mem_range.mpr hlt) state
  unfold Pool.CountsAwaiting at hcounts ⊢
  rw [hstates, hnextRef]
  omega

theorem Pool.CountsAwaiting.lookupOrCreate (hcounts : pool.CountsAwaiting)
    (sessionId : SessionId) : (pool.lookupOrCreate sessionId).2.CountsAwaiting := by
  unfold Pool.lookupOrCreate
  cases pool.sequenceBySession.lookup sessionId with
  | some => exact hcounts
  | none =>
    have hold : ∑ ref ∈ range pool.nextRef,
        (Function.update pool.states pool.nextRef {} ref).awaits =
          ∑ ref ∈ range pool.nextRef, (pool.states ref).awaits := by
      apply sum_congr rfl
      intro _ href
      rw [Function.update_of_ne (mem_range.mp href).ne]
    unfold Pool.CountsAwaiting at hcounts ⊢
    simp only [sum_range_succ, hold, Function.update_self]
    exact hcounts

theorem WorkerMove.awaits {lossy : Bool} {next : SessionSequenceState} {worker moved : Worker}
    {observations : List Observation}
    (hmove : WorkerMove config lossy state ref worker moved next observations) :
    next.awaits = state.awaits := by
  cases hmove with
  | tryStart _ _ _ hstart =>
    cases turnStart_tryStartSessionTurn hstart <;> rfl
  | failHand _ _ hmark | failTurn _ _ hmark => rw [(markSessionFailed_true hmark).2]; rfl
  | takePending =>
    rcases takePendingDisconnected_cases state with ⟨htake, _⟩ | ⟨htake, _⟩
    · rw [htake]
    · rw [htake]
      rfl
  | _ => rfl

/-- The end of a turn settles the counter: the turn was waiting exactly when a
completion ends it. -/
theorem Pool.CountsAwaiting.ending (hcounts : pool.CountsAwaiting)
    (hinv : pool.Invariant) {w : Fin n} {event : SessionEvent}
    (hworker : pool.workers w = .turn event ref .ending)
    (hended : pool.TurnEnded after event ref) : after.CountsAwaiting := by
  have hcurrent := hinv.refs.turn w event ref _ hworker
  have hlt := (hinv.refs.current _ _ hcurrent).1
  have hopen := (hinv.turns event.sessionId).turnOpen (view_of_turn hworker hcurrent)
  have hstate : (pool.view event.sessionId).state = pool.states ref :=
    stateOf_of_current hcurrent
  have hawaiting := hopen.awaiting
  rw [hstate] at hawaiting
  apply hcounts.update hlt hended.states hended.nextRef
  have hafter : (endSessionTurn (pool.states ref)).2.awaits = 0 :=
    congrArg Bool.toNat (turnEnds_endSessionTurn _).awaitingCompletion
  rw [hafter, hended.outstandingDeferred]
  cases hcase : (pool.states ref).awaitingCompletion with
  | false =>
    have hkind : event.kind ≠ .deferredCompletion := by
      intro hkind
      simp [hawaiting.mp hkind] at hcase
    simp [hkind, awaits, hcase]
  | true =>
    have hle : (pool.states ref).awaits ≤ pool.outstandingDeferred := by
      rw [hcounts]
      exact single_le_sum (f := fun ref => (pool.states ref).awaits)
        (fun _ _ => Nat.zero_le _) (mem_range.mpr hlt)
    have hone : (pool.states ref).awaits = 1 := by
      simp [awaits, hcase]
    rw [if_pos (hawaiting.mpr hcase)]
    omega

theorem Pool.CountsAwaiting.markDeferred (hcounts : pool.CountsAwaiting)
    (hinv : pool.Invariant) {w : Fin n} {event : SessionEvent}
    {inlineCompletion earlyCompletion : Option SessionEvent}
    (hworker : pool.workers w = .turn event ref (.deferring inlineCompletion))
    (hdefer : markSessionDeferred event (pool.states ref) = some (earlyCompletion, state))
    (hstates : after.states = Function.update pool.states ref state)
    (hnextRef : after.nextRef = pool.nextRef)
    (houtstanding : after.outstandingDeferred = pool.outstandingDeferred + 1) :
    after.CountsAwaiting := by
  have hcurrent := hinv.refs.turn w event ref _ hworker
  have hopen := (hinv.turns event.sessionId).turnOpen (view_of_turn hworker hcurrent)
  have hstate : (pool.view event.sessionId).state = pool.states ref :=
    stateOf_of_current hcurrent
  have hnot : (pool.states ref).awaitingCompletion = false := by
    have hkind : event.kind ≠ .deferredCompletion := hopen.fits
    cases hcase : (pool.states ref).awaitingCompletion with
    | false => rfl
    | true =>
      rw [← hstate] at hcase
      exact absurd (hopen.awaiting.mpr hcase) hkind
  obtain ⟨_, rfl⟩ := markSessionDeferred_some hdefer
  apply hcounts.update (hinv.refs.current _ _ hcurrent).1 hstates hnextRef
  simp [houtstanding, awaits, hnot]

theorem Pool.CountsAwaiting.step (hcounts : pool.CountsAwaiting)
    (hinv : pool.Invariant) (hstep : StepOutcome config pool after action) :
    after.CountsAwaiting := by
  cases hstep with
  | lookup _ event _ _ _ hafter =>
    have hpopped : { pool with intake := none }.CountsAwaiting := hcounts
    subst hafter
    exact (hpopped.lookupOrCreate event.sessionId).congr rfl rfl rfl
  | move w ref _ _ hsection hafter =>
    obtain ⟨_, _, _, hmove, hacts⟩ := hsection.moved hafter
    have hlt : ref < pool.nextRef := by
      rcases hmove.serves with ⟨event, stage, hworker⟩ | ⟨event, stage, hworker⟩
      · exact (hinv.refs.hand w event ref stage hworker).1
      · exact (hinv.refs.current _ _ (hinv.refs.turn w event ref stage hworker)).1
    apply hcounts.update hlt hacts.states hacts.nextRef
    rw [hacts.outstandingDeferred, hmove.awaits]
  | markDeferred _ _ _ _ _ _ hworker hdefer hafter =>
    subst hafter
    exact hcounts.markDeferred hinv hworker hdefer rfl rfl rfl
  | ending w event ref hworker hafter =>
    have hended := pool.turnEnded_completeSessionTurn w event ref
    have hsettled := hcounts.ending hinv hworker hended
    subst hafter
    exact hsettled.congr rfl rfl rfl
  | outside _ houtside =>
    have hunmoved := houtside.unmoved
    exact hcounts.congr hunmoved.states hunmoved.nextRef hunmoved.outstandingDeferred
  | push _ _ _ hafter | exit _ _ _ _ hafter | finish _ _ _ _ _ _ _ hafter
  | crash _ _ _ _ _ _ hafter | defer _ _ _ _ _ hafter | complete _ _ _ _ _ hafter
  | completeInline _ _ _ _ _ hafter | answer _ _ _ _ hafter | pushCompletion _ _ _ _ _ hafter
  | refuseCompletion _ _ _ _ _ hafter => subst hafter; exact hcounts

theorem Pool.CountsAwaiting.not_awaiting (hcounts : pool.CountsAwaiting)
    (hinv : pool.Invariant) (hnone : pool.outstandingDeferred = 0) (sessionId : SessionId) :
    (pool.view sessionId).state.awaitingCompletion = false := by
  cases hcurrent : pool.current sessionId with
  | none =>
    have hstate : (pool.view sessionId).state = {} := by
      simp [view, stateOf, hcurrent]
    rw [hstate]
  | some ref =>
    have hstate : (pool.view sessionId).state = pool.states ref :=
      stateOf_of_current hcurrent
    have hmem := mem_range.mpr (hinv.refs.current _ _ hcurrent).1
    unfold Pool.CountsAwaiting at hcounts
    rw [hnone] at hcounts
    have hzero := sum_eq_zero_iff.mp hcounts.symm ref hmem
    rw [hstate]
    simpa [awaits] using hzero

end SessionServer.WorkerPool
