import SessionServer.WorkerPoolSimulation

/-!
# The invariants of the pool along a run

References, deferrals, the count of outstanding deferrals and the turn
invariant of every session are kept together: a step is simulated in every
session because the references are right, and they stay right because no
session ever has two turns.
-/

namespace SessionServer.WorkerPool

open Pool Worker Function TurnStage

variable {n : ℕ}
variable {pool after : Pool n} {w : Fin n} {worker : Worker} {ref : StateRef}
    {state : SessionSequenceState} {event : SessionEvent} {config : WorkerPoolConfig}
    {id : DeferralId} {action : Action n}

/-! ## References -/

theorem Pool.RefInvariant.advance (hrefs : pool.RefInvariant) {sessionId : SessionId}
    (hworkers : after.workers = update pool.workers w worker)
    (hstates : after.states = update pool.states ref state)
    (howners : after.owner = pool.owner) (hnextRef : after.nextRef = pool.nextRef)
    (hmap : after.sequenceBySession = pool.sequenceBySession)
    (hlt : ref < pool.nextRef) (howner : pool.owner ref = sessionId)
    (hserves : worker.Serves sessionId ref)
    (hclosed : (pool.states ref).closed = true → state.closed = true)
    (hvalid : pool.current sessionId = some ref ∨ (state.closed = true ∧
      ∀ event held stage, worker ≠ .turn event held stage)) :
    after.RefInvariant := by
  have hcurrent : ∀ other, after.current other = pool.current other := by
    intro other
    unfold Pool.current
    rw [hmap]
  constructor
  · intro other held hother
    rw [hcurrent] at hother
    rw [hnextRef, howners]
    exact hrefs.current other held hother
  · intro v event held stage hv
    rw [hnextRef, howners, hcurrent, hstates]
    rw [hworkers] at hv
    by_cases hvw : v = w
    · subst hvw
      rw [update_self] at hv
      subst hv
      obtain ⟨hsession, rfl⟩ := hserves
      refine ⟨hlt, howner.trans hsession.symm, ?_⟩
      rw [update_self, hsession]
      rcases hvalid with hcase | ⟨hcase, _⟩
      · exact .inl hcase
      · exact .inr hcase
    · rw [update_of_ne hvw] at hv
      obtain ⟨hheldLt, hheldOwner, hcase⟩ := hrefs.hand v event held stage hv
      refine ⟨hheldLt, hheldOwner, ?_⟩
      rcases hcase with hcase | hcase
      · exact .inl hcase
      · right
        by_cases hheld : held = ref
        · subst hheld
          rw [update_self]
          exact hclosed hcase
        · rw [update_of_ne hheld]
          exact hcase
  · intro v event held stage hv
    rw [hcurrent]
    rw [hworkers] at hv
    by_cases hvw : v = w
    · subst hvw
      rw [update_self] at hv
      subst hv
      obtain ⟨hsession, rfl⟩ := hserves
      rcases hvalid with hcase | ⟨_, hcase⟩
      · rw [hsession]
        exact hcase
      · exact absurd rfl (hcase event held stage)
    · rw [update_of_ne hvw] at hv
      exact hrefs.turn v event held stage hv

theorem Pool.RefInvariant.congr (hrefs : pool.RefInvariant)
    (hworkers : after.workers = pool.workers) (hstates : after.states = pool.states)
    (howners : after.owner = pool.owner) (hnextRef : after.nextRef = pool.nextRef)
    (hmap : after.sequenceBySession = pool.sequenceBySession) :
    after.RefInvariant := by
  constructor
  · intro sessionId ref hcurrent
    unfold Pool.current at hcurrent
    rw [hmap] at hcurrent
    rw [hnextRef, howners]
    exact hrefs.current sessionId ref hcurrent
  · intro w event ref stage hworker
    rw [hworkers] at hworker
    unfold Pool.current
    rw [hnextRef, howners, hmap, hstates]
    exact hrefs.hand w event ref stage hworker
  · intro w event ref stage hworker
    rw [hworkers] at hworker
    unfold Pool.current
    rw [hmap]
    exact hrefs.turn w event ref stage hworker

theorem Pool.Invariant.notClosed (hinv : pool.Invariant) {sessionId : SessionId}
    (hcurrent : pool.current sessionId = some ref) :
    (pool.states ref).closed = false := by
  have hview := (hinv.turns sessionId).notClosed
  rwa [show (pool.view sessionId).state = pool.states ref from stateOf_of_current hcurrent] at hview

theorem Pool.Invariant.turn_unique (hinv : pool.Invariant)
    {other : Fin n} {otherEvent : SessionEvent} {otherRef : StateRef} {stage otherStage : TurnStage}
    (hworker : pool.workers w = .turn event ref stage)
    (hother : pool.workers other = .turn otherEvent otherRef otherStage)
    (hsession : otherEvent.sessionId = event.sessionId) : other = w := by
  by_contra hne
  have htask := view_of_turn hworker (hinv.refs.turn w event ref stage hworker)
  have hotherTask := view_of_turn hother
    (hinv.refs.turn other otherEvent otherRef otherStage hother)
  rw [hsession] at hotherTask
  have hzero := (hinv.turns event.sessionId).turns_of_ne htask hne
  simp [hotherTask] at hzero

theorem Pool.Invariant.refs_move (hinv : pool.Invariant) {observations : List Observation}
    (hmove : WorkerMove config pool.forceStopRequested (pool.states ref) ref
      (pool.workers w) worker state observations)
    (hacts : pool.Acts after w worker ref state observations) :
    after.RefInvariant := by
  have hlive : ∀ sessionId, pool.current sessionId = some ref →
      (pool.workers w).Serves sessionId ref → after.RefInvariant := by
    intro sessionId hcurrent hserves
    have hstate : (pool.view sessionId).state = pool.states ref :=
      stateOf_of_current hcurrent
    have htask : (pool.view sessionId).tasks w = (pool.workers w).task sessionId (some ref) := by
      rw [view_tasks, hcurrent]
    rw [← hstate] at hmove
    have hnew := (hmove.sessionStep id (hinv.own sessionId) hserves htask).2.1
    apply hinv.refs.advance hacts.workers hacts.states hacts.owner hacts.nextRef
      hacts.sequenceBySession (hinv.refs.current _ _ hcurrent).1
      (hinv.refs.current _ _ hcurrent).2 hnew _ (.inl hcurrent)
    intro hclosed
    simp [hinv.notClosed hcurrent] at hclosed
  rcases hmove.serves with ⟨event, stage, hworker⟩ | ⟨event, stage, hworker⟩
  · obtain ⟨hlt, howner, hcase⟩ := hinv.refs.hand w event ref stage hworker
    rcases hcase with hcurrent | hclosed
    · exact hlive event.sessionId hcurrent (by rw [hworker]; exact ⟨rfl, rfl⟩)
    · rw [hworker] at hmove
      obtain ⟨rfl, hnew, hnotTurn, _⟩ := hmove.ofClosed hclosed
      exact hinv.refs.advance hacts.workers hacts.states hacts.owner hacts.nextRef
        hacts.sequenceBySession hlt howner hnew id (.inr ⟨hclosed, hnotTurn⟩)
  · exact hlive event.sessionId (hinv.refs.turn w event ref stage hworker)
      (by rw [hworker]; exact ⟨rfl, rfl⟩)

theorem Pool.Invariant.refs_ending (hinv : pool.Invariant)
    (hworker : pool.workers w = .turn event ref .ending)
    (hafter : after = (pool.completeSessionTurn w event ref).2.setWorker w
      ((restart (pool.completeSessionTurn w event ref).1).worker ref)) :
    after.RefInvariant := by
  have hcurrent := hinv.refs.turn w event ref _ hworker
  obtain ⟨hlt, howner⟩ := hinv.refs.current _ _ hcurrent
  have hstate : (pool.view event.sessionId).state = pool.states ref :=
    stateOf_of_current hcurrent
  have hended := pool.turnEnded_completeSessionTurn w event ref
  have hworkers : after.workers = update pool.workers w
      ((restart (endSessionTurn (pool.states ref)).1).worker ref) := by
    rw [hafter]
    simp only [setWorker, hended.workers]
    rfl
  have hstates : after.states = update pool.states ref (endSessionTurn (pool.states ref)).2 := by
    rw [hafter]
    exact hended.states
  have howners : after.owner = pool.owner := by
    rw [hafter]
    exact hended.owner
  have hnextRef : after.nextRef = pool.nextRef := by
    rw [hafter]
    exact hended.nextRef
  have hmap : after.sequenceBySession =
      if (pool.states ref).activeDisconnect then
        pool.sequenceBySession.erase event.sessionId
      else pool.sequenceBySession := by
    rw [hafter]
    exact hended.sequenceBySession
  have hserves : ((restart (endSessionTurn (pool.states ref)).1).worker ref).Serves
      event.sessionId ref := by
    apply restart_worker_serves
    intro next hsome
    have hown := hinv.own event.sessionId
    apply hown.state next
    rw [hstate]
    exact (endSessionTurn_events (pool.states ref)).1 (mem_restart_events.mpr hsome)
  cases hdisconnect : (pool.states ref).activeDisconnect with
  | false =>
    rw [hdisconnect] at hmap
    apply hinv.refs.advance hworkers hstates howners hnextRef hmap hlt howner hserves
      _ (.inl hcurrent)
    intro hclosed
    simp [hinv.notClosed hcurrent] at hclosed
  | true =>
    rw [hdisconnect, if_pos rfl] at hmap
    have hend : endSessionTurn (pool.states ref) =
        (none, { pool.states ref with
          active := false
          awaitingCompletion := false
          nextSequence := (pool.states ref).nextSequence + 1
          closed := true }) := by
      simp [endSessionTurn, hdisconnect]
    have hself : after.current event.sessionId = none := by
      unfold Pool.current
      rw [hmap]
      exact Finmap.lookup_erase _ _
    have hothers : ∀ other, other ≠ event.sessionId → after.current other = pool.current other := by
      intro other hne
      rw [hafter]
      exact hended.current_of_ne hne
    rw [hend] at hworkers hstates
    constructor
    · intro other held hother
      rw [hnextRef, howners]
      by_cases hsession : other = event.sessionId
      · rw [hsession, hself] at hother
        simp at hother
      · rw [hothers other hsession] at hother
        exact hinv.refs.current other held hother
    · intro v held heldRef stage hv
      rw [hworkers] at hv
      by_cases hvw : v = w
      · subst hvw
        simp [restart, Task.worker] at hv
      · rw [update_of_ne hvw] at hv
        obtain ⟨hheldLt, hheldOwner, hcase⟩ := hinv.refs.hand v held heldRef stage hv
        rw [hnextRef, howners, hstates]
        refine ⟨hheldLt, hheldOwner, ?_⟩
        by_cases hheld : heldRef = ref
        · right
          rw [hheld, update_self]
        · rw [update_of_ne hheld]
          rcases hcase with hcase | hcase
          · left
            have hsession : held.sessionId ≠ event.sessionId := by
              intro heq
              rw [heq, hcurrent] at hcase
              exact hheld (Option.some.inj hcase).symm
            rw [hothers _ hsession]
            exact hcase
          · exact .inr hcase
    · intro v held heldRef stage hv
      rw [hworkers] at hv
      by_cases hvw : v = w
      · subst hvw
        simp [restart, Task.worker] at hv
      · rw [update_of_ne hvw] at hv
        have hsession : held.sessionId ≠ event.sessionId := by
          intro heq
          exact hvw (hinv.turn_unique hworker hv heq)
        rw [hothers _ hsession]
        exact hinv.refs.turn v held heldRef stage hv

theorem Pool.Invariant.refs_step
    (hinv : pool.Invariant) (hstep : StepOutcome config pool after action) :
    after.RefInvariant := by
  have hrefs := hinv.refs
  -- Inside a turn the state is the current one, and it is open.
  have hturn : ∀ w event ref stage worker state,
      pool.workers w = .turn event ref stage →
      after.workers = update pool.workers w worker →
      after.states = update pool.states ref state →
      after.owner = pool.owner → after.nextRef = pool.nextRef →
      after.sequenceBySession = pool.sequenceBySession →
      worker.Serves event.sessionId ref → after.RefInvariant := by
    intro w event ref stage worker state hworker hworkers hstates howners hnextRef hmap hserves
    have hcurrent := hrefs.turn w event ref stage hworker
    obtain ⟨hlt, howner⟩ := hrefs.current _ _ hcurrent
    apply hrefs.advance hworkers hstates howners hnextRef hmap hlt howner hserves _ (.inl hcurrent)
    intro hclosed
    simp [hinv.notClosed hcurrent] at hclosed
  cases hstep with
  | push _ _ _ hafter | complete _ _ _ _ _ hafter | completeInline _ _ _ _ _ hafter
  | answer _ _ _ _ hafter | pushCompletion _ _ _ _ _ hafter | refuseCompletion _ _ _ _ _ hafter =>
    subst hafter
    exact hrefs.congr rfl rfl rfl rfl rfl
  | lookup _ event _ _ _ hafter =>
    have hpopped : Pool.RefInvariant { pool with intake := none } :=
      hrefs.congr rfl rfl rfl rfl rfl
    have hcreated := hpopped.lookupOrCreate event.sessionId
    have hcurrent := lookupOrCreate_current { pool with intake := none } event.sessionId
    obtain ⟨hlt, howner⟩ := hcreated.current _ _ hcurrent
    subst hafter
    exact hcreated.advance rfl (update_eq_self _ _).symm rfl rfl rfl hlt
      howner ⟨rfl, rfl⟩ id (.inl hcurrent)
  | exit w _ _ _ hafter =>
    subst hafter
    constructor
    · exact hrefs.current
    · intro v event ref stage hv
      by_cases hvw : v = w
      · subst hvw
        simp [setWorker] at hv
      · simp only [setWorker, update_of_ne hvw] at hv
        exact hrefs.hand v event ref stage hv
    · intro v event ref stage hv
      by_cases hvw : v = w
      · subst hvw
        simp [setWorker] at hv
      · simp only [setWorker, update_of_ne hvw] at hv
        exact hrefs.turn v event ref stage hv
  | move _ _ _ _ hsection hafter =>
    obtain ⟨_, state, _, hmove, hacts⟩ := hsection.moved hafter
    exact hinv.refs_move hmove hacts
  | finish w event ref _ _ hworker _ hafter | defer w event ref _ hworker hafter =>
    subst hafter
    exact hturn w event ref _ _ _ hworker rfl (update_eq_self ref _).symm rfl rfl rfl ⟨rfl, rfl⟩
  | markDeferred w event ref inlineCompletion earlyCompletion state hworker hdefer
      hafter =>
      have hcurrent := hrefs.turn w event ref _ hworker
      have hstate : (pool.view event.sessionId).state = pool.states ref :=
        stateOf_of_current hcurrent
      have htask := view_of_turn hworker hcurrent
      subst hafter
      apply hturn w event ref _ _ _ hworker rfl rfl rfl rfl rfl
      apply restart_worker_serves
      intro next hnext
      have hown := hinv.own event.sessionId
      rcases Option.or_eq_some_iff.mp hnext with hinline | ⟨_, hearly⟩
      · apply hown.tasks w next
        rw [htask]
        simp [Task.events, TurnStage.inlineCompletion, hinline]
      · rw [(markSessionDeferred_some hdefer).1, ← hstate] at hearly
        exact hown.state next (SessionSequenceState.mem_events.mpr (.inr (.inl hearly)))
  | crash _ _ _ _ hworker hdefer =>
    exact absurd hdefer (hinv.markSessionDeferred_ne_none hworker)
  | ending _ _ _ hworker hafter => exact hinv.refs_ending hworker hafter
  | outside _ houtside =>
    have hunmoved := houtside.unmoved
    exact hrefs.congr hunmoved.workers hunmoved.states hunmoved.owner hunmoved.nextRef
      hunmoved.sequenceBySession

/-! ## Deferrals -/

theorem WorkerMove.deferral {lossy : Bool}
    {before : SessionSequenceState} {held : StateRef} {old : Worker}
    {observations : List Observation} {stage : TurnStage}
    (hmove : WorkerMove config lossy before ref old (.turn event held stage) state observations)
    (hid : stage.deferral = some id) :
    ∃ oldStage, old = .turn event held oldStage ∧ oldStage.deferral = some id := by
  generalize hnew : Worker.turn event held stage = new at hmove
  cases hmove with
  | turn _ oldStage _ _ _ hdeferral =>
    obtain ⟨rfl, rfl, rfl⟩ := Worker.turn.inj hnew
    rcases hdeferral with hnone | hkept
    · simp [hnone] at hid
    · exact ⟨oldStage, rfl, hkept ▸ hid⟩
  | handlerReturn =>
    obtain ⟨rfl, rfl, rfl⟩ := Worker.turn.inj hnew
    exact ⟨_, rfl, hid⟩
  | tryStart other disposition =>
    cases disposition with
    | process =>
      by_cases hkind : other.kind = .deferredCompletion
      · simp only [tryTask, hkind, if_true, Task.worker, turn.injEq] at hnew
        obtain ⟨rfl, rfl, rfl⟩ := hnew
        rcases completionStage_cases event with hstage | ⟨_, hstage⟩ <;>
          simp [hstage, deferral] at hid
      · simp only [tryTask, hkind, if_false, Task.worker, turn.injEq] at hnew
        obtain ⟨rfl, rfl, rfl⟩ := hnew
        simp [deferral] at hid
    | _ => simp [tryTask, Task.worker] at hnew
  | takePending =>
    cases hnext : (takePendingDisconnected before).1 <;> simp [hnext, restart, Task.worker] at hnew
  | failTurn | invoke | handlerThrow =>
    obtain ⟨rfl, rfl, rfl⟩ := turn.inj hnew
    simp [deferral] at hid
  | hand | discard | failHand | lose => simp at hnew

theorem Pool.DeferralInvariant.workers
    (hdeferrals : pool.DeferralInvariant) (hsame : after.deferrals = pool.deferrals)
    (hnext : after.nextDeferral = pool.nextDeferral)
    (hworkers : ∀ w event ref stage id, after.workers w = .turn event ref stage →
      stage.deferral = some id → ∃ v oldRef oldStage,
        pool.workers v = .turn event oldRef oldStage ∧ oldStage.deferral = some id) :
    after.DeferralInvariant := by
  constructor
  · rw [hsame]
    exact hdeferrals.pushing
  · intro w event ref stage id hworker hid
    obtain ⟨v, oldRef, oldStage, hold, holdId⟩ := hworkers w event ref stage id hworker hid
    rw [hsame, hnext]
    exact hdeferrals.handling v event oldRef oldStage id hold holdId

theorem Pool.DeferralInvariant.setWorker
    (hdeferrals : pool.DeferralInvariant) (hsame : after.deferrals = pool.deferrals)
    (hnext : after.nextDeferral = pool.nextDeferral)
    (hworkers : after.workers = update pool.workers w worker)
    (hworker : ∀ event ref stage, worker ≠ .turn event ref stage) :
    after.DeferralInvariant := by
  apply hdeferrals.workers hsame hnext
  intro v event ref stage _ hv hid
  rw [hworkers] at hv
  by_cases hvw : v = w
  · subst hvw
    rw [update_self] at hv
    exact absurd hv (hworker event ref stage)
  · rw [update_of_ne hvw] at hv
    exact ⟨v, ref, stage, hv, hid⟩

/-- One deferral changes that no running handler owns, or in a way its
handler's worker does not see. -/
theorem Pool.DeferralInvariant.update (hdeferrals : pool.DeferralInvariant) {deferral : Deferral}
    (hafter : after.deferrals = update pool.deferrals id deferral)
    (hnext : after.nextDeferral = pool.nextDeferral)
    (hpushing : ∀ payload, deferral.pushing = some payload →
      deferral.completed = true ∧ deferral.handlerReturned = true)
    (hworkers : after.workers = pool.workers)
    (hhandling : (pool.deferrals id).handlerReturned = false →
      deferral.sessionId = (pool.deferrals id).sessionId ∧
      deferral.sequence = (pool.deferrals id).sequence ∧
      deferral.handlerReturned = false ∧
      deferral.inlinePayload.isSome = deferral.completed) :
    after.DeferralInvariant := by
  constructor
  · intro other payload hother
    rw [hafter] at hother ⊢
    by_cases hid : other = id
    · subst hid
      rw [update_self] at hother ⊢
      exact hpushing payload hother
    · rw [update_of_ne hid] at hother ⊢
      exact hdeferrals.pushing other payload hother
  · intro w event ref stage other hworker hother
    rw [hworkers] at hworker
    obtain ⟨hlt, hsession, hsequence, hrunning, hinline⟩ :=
      hdeferrals.handling w event ref stage other hworker hother
    rw [hafter, hnext]
    by_cases hid : other = id
    · subst hid
      rw [update_self]
      obtain ⟨hsession', hsequence', hrunning', hinline'⟩ := hhandling hrunning
      exact ⟨hlt, hsession'.trans hsession, hsequence'.trans hsequence, hrunning', hinline'⟩
    · rw [update_of_ne hid]
      exact ⟨hlt, hsession, hsequence, hrunning, hinline⟩

theorem Pool.Invariant.deferrals_finish (hinv : pool.Invariant)
    {context : WorkerSessionEventContext}
    (hworker : pool.workers w = .turn event ref (.finishing context))
    (hid : context.deferral = some id)
    (hafter : after = { pool with
      deferrals := update pool.deferrals id
        { pool.deferrals id with handlerReturned := true, inlinePayload := none }
      }.setWorker w (.turn event ref (.publishing context.messages true
        ((pool.deferrals id).inlinePayload.map (pool.deferrals id).completionEvent)))) :
    after.DeferralInvariant := by
  obtain ⟨_, hsession, _, _, _⟩ :=
    hinv.deferrals.handling w event ref _ id hworker hid
  subst hafter
  constructor
  · intro other payload hother
    by_cases heq : other = id
    · subst heq
      simp only [setWorker, update_self] at hother ⊢
      exact ⟨(hinv.deferrals.pushing other payload hother).1, trivial⟩
    · simp only [setWorker, update_of_ne heq] at hother ⊢
      exact hinv.deferrals.pushing other payload hother
  · intro v held heldRef stage other hv hother
    by_cases hvw : v = w
    · subst hvw
      simp only [setWorker, update_self, turn.injEq] at hv
      obtain ⟨rfl, rfl, rfl⟩ := hv
      simp [deferral] at hother
    · simp only [setWorker, update_of_ne hvw] at hv
      have hold := hinv.deferrals.handling v held heldRef stage other hv hother
      -- The deferral belongs to one session, and that session to one turn.
      have hne : other ≠ id := by
        intro heq
        subst heq
        exact hvw (hinv.turn_unique hworker hv (hold.2.1.symm.trans hsession))
      simpa only [setWorker, update_of_ne hne] using hold

theorem Pool.Invariant.deferrals_defer (hinv : pool.Invariant) {context : WorkerSessionEventContext}
    (hafter : after = { pool with
      deferrals := update pool.deferrals pool.nextDeferral
        { sessionId := event.sessionId, sequence := event.sequence }
      nextDeferral := pool.nextDeferral + 1 }.setWorker w
        (.turn event ref (.handling { context with deferral := some pool.nextDeferral }))) :
    after.DeferralInvariant := by
  subst hafter
  constructor
  · intro other payload hother
    by_cases heq : other = pool.nextDeferral
    · subst heq
      simp [setWorker] at hother
    · simp only [setWorker, update_of_ne heq] at hother ⊢
      exact hinv.deferrals.pushing other payload hother
  · intro v held heldRef stage other hv hother
    by_cases hvw : v = w
    · subst hvw
      simp only [setWorker, update_self, turn.injEq] at hv
      obtain ⟨rfl, rfl, rfl⟩ := hv
      obtain rfl : pool.nextDeferral = other := Option.some.inj hother
      simp [setWorker]
    · simp only [setWorker, update_of_ne hvw] at hv
      obtain ⟨hlt, hrest⟩ := hinv.deferrals.handling v held heldRef stage other hv hother
      have hne : other ≠ pool.nextDeferral := Nat.ne_of_lt hlt
      simp only [setWorker, update_of_ne hne]
      exact ⟨Nat.lt_succ_of_lt hlt, hrest⟩

theorem restart_worker_ne_turn (next : Option SessionEvent) (ref : StateRef)
    (event : SessionEvent) (held : StateRef) (stage : TurnStage) :
    (restart next).worker ref ≠ .turn event held stage := by
  cases next <;> simp [restart, Task.worker]

theorem Pool.Invariant.deferrals_step (hinv : pool.Invariant)
    (hstep : StepOutcome config pool after action) : after.DeferralInvariant := by
  have hdeferrals := hinv.deferrals
  cases hstep with
  | push _ _ _ hafter | answer _ _ _ _ hafter =>
    subst hafter
    exact ⟨hdeferrals.pushing, hdeferrals.handling⟩
  | lookup w event _ _ _ hafter =>
    have hcreated : ∀ (other : Pool n) sessionId,
        (other.lookupOrCreate sessionId).2.deferrals = other.deferrals ∧
          (other.lookupOrCreate sessionId).2.nextDeferral = other.nextDeferral := by
      intro other sessionId
      unfold lookupOrCreate
      split <;> exact ⟨rfl, rfl⟩
    have hsame := hcreated { pool with intake := none } event.sessionId
    have hworkers := lookupOrCreate_workers { pool with intake := none } event.sessionId
    apply hdeferrals.setWorker (by rw [hafter]; exact hsame.1)
      (by rw [hafter]; exact hsame.2) (w := w)
    · rw [hafter]
      simp only [Pool.log, setWorker, hworkers]
      rfl
    · simp
  | exit w _ _ _ hafter =>
    subst hafter
    exact hdeferrals.setWorker (w := w) rfl rfl rfl (by simp)
  | move w _ _ _ hsection hafter =>
    obtain ⟨_, state, _, hmove, hacts⟩ := hsection.moved hafter
    apply hdeferrals.workers hacts.deferrals hacts.nextDeferral
    intro v event held stage id hv hid
    rw [hacts.workers] at hv
    by_cases hvw : v = w
    · subst hvw
      rw [update_self] at hv
      rw [hv] at hmove
      obtain ⟨oldStage, hold, holdId⟩ := hmove.deferral hid
      exact ⟨v, held, oldStage, hold, holdId⟩
    · rw [update_of_ne hvw] at hv
      exact ⟨v, held, stage, hv, hid⟩
  | finish _ _ _ _ _ hworker hid hafter =>
    exact hinv.deferrals_finish hworker hid hafter
  | markDeferred w event ref inlineCompletion earlyCompletion state hworker hdefer
      hafter =>
      subst hafter
      exact hdeferrals.setWorker (w := w) rfl rfl rfl (restart_worker_ne_turn _ _)
  | crash _ _ _ _ hworker hdefer =>
    exact absurd hdefer (hinv.markSessionDeferred_ne_none hworker)
  | ending w event ref _ hafter =>
    have hended := pool.turnEnded_completeSessionTurn w event ref
    apply hdeferrals.setWorker (by rw [hafter]; exact hended.deferrals)
      (by rw [hafter]; exact hended.nextDeferral) (w := w)
    · rw [hafter]
      simp only [setWorker, hended.workers]
      rfl
    · exact restart_worker_ne_turn _ _
  | defer _ _ _ _ _ hafter => exact hinv.deferrals_defer hafter
  | complete _ _ _ _ hreturned hafter =>
    apply hdeferrals.update (by rw [hafter]) (by rw [hafter]) _ (by rw [hafter])
    · simp [hreturned]
    · simp [hreturned]
  | completeInline id _ _ _ hrunning hafter =>
    apply hdeferrals.update (by rw [hafter]; rfl) (by rw [hafter]; rfl) _ (by rw [hafter]; rfl)
    · simp [hrunning]
    · intro other hother
      exact ⟨rfl, (hdeferrals.pushing id other hother).2⟩
  | pushCompletion id payload _ hpushing _ hafter
  | refuseCompletion id payload _ hpushing _ hafter =>
    have hreturned := (hdeferrals.pushing id payload hpushing).2
    apply hdeferrals.update (by rw [hafter]; rfl) (by rw [hafter]; rfl) _ (by rw [hafter]; rfl)
    · simp [hreturned]
    · simp
  | outside _ houtside =>
    have hunmoved := houtside.unmoved
    apply hdeferrals.workers hunmoved.deferrals hunmoved.nextDeferral
    intro w _ ref stage _ hworker hid
    rw [hunmoved.workers] at hworker
    exact ⟨w, ref, stage, hworker, hid⟩

/-! ## The whole invariant -/

theorem Pool.Invariant.step (hinv : pool.Invariant) (hstep : StepOutcome config pool after action) :
    after.Invariant where
  refs := hinv.refs_step hstep
  deferrals := hinv.deferrals_step hstep
  turns := by
    intro sessionId
    rcases hinv.simulates hstep sessionId with hsame | hsession
    · rw [hsame]
      exact hinv.turns sessionId
    · exact (hinv.turns sessionId).step hsession
  own := by
    intro sessionId
    rcases hinv.simulates hstep sessionId with hsame | hsession
    · rw [hsame]
      exact hinv.own sessionId
    · exact (hinv.own sessionId).step hsession

theorem Pool.initial_invariant {inbox : BoundedBlockingQueue SessionEvent}
    (outbox : BoundedBlockingQueue OutboundMessage) (hempty : inbox.items = []) :
    (Pool.initial n inbox outbox).Invariant := by
  constructor
  · constructor <;> simp [Pool.initial, Pool.current]
  · constructor <;> simp [Pool.initial]
  · intro sessionId
    rw [initial_view inbox outbox hempty]
    exact SessionView.initial_turnInvariant n sessionId
  · intro sessionId
    rw [initial_view inbox outbox hempty]
    exact SessionView.initial_everywhere _ n sessionId

end SessionServer.WorkerPool
