import SessionServer.WorkerPoolView

/-!
# Every session of the pool runs the session machine

Every step of the pool is a step of the session machine for at most one
session and leaves the views of all others alone.  The simulation and the
invariants need each other, so they are carried along a run together.
-/

namespace SessionServer.WorkerPool

open Transcript SessionView Pool Deferral Worker Function List

variable {n : ℕ}
variable {event : SessionEvent} {ref : StateRef} {config : WorkerPoolConfig} {lossy : Bool}
    {new : Worker} {state : SessionSequenceState} {observations : List Observation} {w : Fin n}
    {pool after : Pool n} {action : Action n} {id : DeferralId} {deferral : Deferral}
    {payload : DeferredCompletionPayload}

/-! ## Moves of a worker -/

theorem tryTask_worker_serves {sessionId : SessionId}
    (hsession : event.sessionId = sessionId) (ref : StateRef)
    (disposition : SessionTurnDisposition) :
    ((tryTask event disposition).worker ref).Serves sessionId ref := by
  cases disposition with
  | process =>
    by_cases hkind : event.kind = .deferredCompletion
    · simp [tryTask, hkind, Task.worker, Worker.Serves, hsession]
    · simp [tryTask, hkind, Task.worker, Worker.Serves, hsession]
  | parked => trivial
  | _ => exact ⟨hsession, rfl⟩

theorem restart_worker_serves {next : Option SessionEvent} {sessionId : SessionId}
    (hsession : ∀ event, next = some event → event.sessionId = sessionId)
    (ref : StateRef) : ((restart next).worker ref).Serves sessionId ref := by
  cases next with
  | none => trivial
  | some event => exact ⟨hsession event rfl, rfl⟩

theorem Worker.Serves.worker_task {task : Task} {sessionId : SessionId}
    (hserves : (task.worker ref).Serves sessionId ref) :
    (task.worker ref).task sessionId (some ref) = task := by
  cases task with
  | idle => rfl
  | hand | turn => simp [Task.worker, Worker.task, hserves.1]

theorem tryLog_sessionId {disposition : SessionTurnDisposition} {observation : Observation}
    (hobservation : observation ∈ tryLog event disposition) :
    observation.sessionId = event.sessionId := by
  cases disposition with
  | process =>
    by_cases hkind : event.kind = .deferredCompletion
    · simp only [tryLog, hkind, if_true, mem_singleton] at hobservation
      rw [hobservation]
      rfl
    · simp only [tryLog, hkind, if_false, mem_singleton] at hobservation
      rw [hobservation]
      rfl
  | _ => simp [tryLog] at hobservation

/-- Seen from its session, a move of a worker is a step of the machine. -/
theorem WorkerMove.sessionStep {forced : Bool} {view : SessionView n} {old : Worker}
    (hlossy : forced = true → lossy = true)
    (hmove : WorkerMove config forced view.state ref old new state observations)
    (hown : view.OwnEvents) (hserves : old.Serves view.sessionId ref)
    (htask : view.tasks w = old.task view.sessionId (some ref)) :
    SessionStep config lossy view ({ view with state := state }.advance w
        (new.task view.sessionId (some ref)) observations) ∧
      new.Serves view.sessionId ref ∧
        ∀ observation ∈ observations, observation.sessionId = view.sessionId := by
  cases hmove with
  | hand event stage next _ hmove hpublishes =>
    rw [task_hand hserves.1] at htask ⊢
    exact ⟨.handMove w event stage next observations htask hmove
      (fun observation hmem => (hpublishes observation hmem).isQuiet), ⟨hserves.1, rfl⟩,
      fun observation hmem => (hpublishes observation hmem).sessionId.trans hserves.1⟩
  | tryStart event disposition _ hstart =>
    have hnew := tryTask_worker_serves hserves.1 ref disposition
    rw [hnew.worker_task]
    rw [task_hand hserves.1] at htask
    exact ⟨.tryStart w event disposition state htask hstart, hnew,
      fun observation hmem => (tryLog_sessionId hmem).trans hserves.1⟩
  | discard event =>
    rw [task_hand hserves.1] at htask
    exact ⟨.discard w event htask, trivial, by simp⟩
  | failHand event rejection hmark =>
    rw [task_hand hserves.1] at htask ⊢
    refine ⟨.failHand w event rejection htask hmark, ⟨hserves.1, rfl⟩, ?_⟩
    exact forall_mem_singleton.mpr hserves.1
  | takePending event =>
    have hnew : ((restart (takePendingDisconnected view.state).1).worker
        ref).Serves view.sessionId ref := by
      apply restart_worker_serves
      intro next hnext
      exact hown.state next ((takePendingDisconnected_events view.state).1
        (mem_restart_events.mpr hnext))
    rw [hnew.worker_task]
    rw [task_hand hserves.1] at htask
    exact ⟨.takePending w event htask, hnew, by simp⟩
  | turn event stage next _ hmove _ hpublishes =>
    rw [task_turn hserves.1] at htask ⊢
    exact ⟨.turnMove w event stage next observations htask hmove
      (fun observation hmem => (hpublishes observation hmem).isQuiet), ⟨hserves.1, rfl⟩,
      fun observation hmem => (hpublishes observation hmem).sessionId.trans hserves.1⟩
  | failTurn event failure hmark =>
    rw [task_turn hserves.1] at htask ⊢
    refine ⟨.failTurn w event failure htask hmark, ⟨hserves.1, rfl⟩, ?_⟩
    exact forall_mem_singleton.mpr hserves.1
  | invoke event hskip =>
    rw [task_turn hserves.1] at htask ⊢
    refine ⟨.invoke w event htask hskip, ⟨hserves.1, rfl⟩, ?_⟩
    exact forall_mem_singleton.mpr hserves.1
  | handlerReturn event context =>
    rw [task_turn hserves.1] at htask ⊢
    refine ⟨.handlerReturn w event context htask, ⟨hserves.1, rfl⟩, ?_⟩
    exact forall_mem_singleton.mpr hserves.1
  | handlerThrow event context =>
    rw [task_turn hserves.1] at htask ⊢
    refine ⟨.handlerThrow w event context htask, ⟨hserves.1, rfl⟩, ?_⟩
    exact forall_mem_singleton.mpr hserves.1
  | lose event stage hforced =>
    rw [task_hand hserves.1] at htask
    exact ⟨.lose w event stage htask (hlossy hforced), trivial, by simp⟩

/-- A worker that refers to a closed state can only get rid of its event. -/
theorem WorkerMove.ofClosed {before : SessionSequenceState} {held : StateRef} {stage : HandStage}
    (hmove : WorkerMove config lossy before ref (.hand event held stage) new state observations)
    (hclosed : before.closed = true) :
    state = before ∧ new.Serves event.sessionId ref ∧
      (∀ other held stage, new ≠ .turn other held stage) ∧
      ∀ observation ∈ observations, observation.Publishes event := by
  have hnotMarked : (markSessionFailed before).1 = false := by
    simp [markSessionFailed, hclosed]
  cases hmove with
  | hand _ _ _ _ _ hpublishes => exact ⟨rfl, ⟨rfl, rfl⟩, by simp, hpublishes⟩
  | tryStart _ _ _ hstart =>
    have hdiscard : tryStartSessionTurn config event before = (.discarded, before) := by
      simp [tryStartSessionTurn, hclosed]
    rw [hdiscard] at hstart
    obtain ⟨rfl, rfl⟩ := Prod.mk.inj hstart
    exact ⟨rfl, ⟨rfl, rfl⟩, by simp [tryTask, Task.worker], by simp [tryLog]⟩
  | discard | lose => exact ⟨rfl, trivial, by simp, by simp⟩
  | failHand _ _ hmark => simp [hnotMarked] at hmark
  | takePending =>
    have htake : takePendingDisconnected before = (none, before) := by
      simp [takePendingDisconnected, hclosed]
    rw [htake]
    exact ⟨rfl, trivial, by simp [restart, Task.worker], by simp⟩

theorem WorkerMove.serves {before : SessionSequenceState} {old : Worker}
    (hmove : WorkerMove config lossy before ref old new state observations) :
    (∃ event stage, old = .hand event ref stage) ∨
      (∃ event stage, old = .turn event ref stage) := by
  cases hmove <;> simp

/-! ## The simulation -/

theorem Pool.RefInvariant.current_ne (hrefs : pool.RefInvariant) {sessionId other : SessionId}
    (howner : pool.owner ref = sessionId) (hne : other ≠ sessionId) :
    pool.current other ≠ some ref := by
  intro hcurrent
  have hother := (hrefs.current other ref hcurrent).2
  exact hne (hother.symm.trans howner)

theorem SessionView.observed (view : SessionView n)
    (hquiet : ∀ observation ∈ observations, observation.isQuiet = true) :
    SessionStep config lossy view { view with log := view.log ++ observations } :=
  .observe observations hquiet

def Pool.Simulates (config : WorkerPoolConfig) (pool after : Pool n) : Prop :=
  ∀ sessionId, after.view sessionId = pool.view sessionId ∨
    SessionStep config pool.lossy (pool.view sessionId) (after.view sessionId)

/-- A worker moves with the current state of its session, and the step of that
session is one of the machine. -/
theorem Pool.RefInvariant.simulates (hrefs : pool.RefInvariant) {worker : Worker}
    {owner : SessionId} (hcurrent : pool.current owner = some ref)
    (hmoves : pool.Moves after w worker ref state observations)
    (hbefore : (pool.workers w).Serves owner ref) (hserves : worker.Serves owner ref)
    (hobserved : ∀ observation ∈ observations, observation.sessionId = owner)
    (hcallable : ∀ other, other ≠ owner → after.callableOf other = pool.callableOf other)
    (hstep : SessionStep config pool.lossy (pool.view owner)
      { { pool.view owner with state := state }.advance w
          (worker.task owner (some ref)) observations with
        callable := after.callableOf owner }) :
    pool.Simulates config after := by
  intro sessionId
  by_cases hsession : sessionId = owner
  · subst hsession
    right
    rw [hmoves.view_self hcurrent hobserved]
    exact hstep
  · left
    exact hmoves.view_other hbefore hserves hsession
      (hrefs.current_ne (hrefs.current _ _ hcurrent).2 hsession) (hcallable _ hsession)
      hobserved

theorem Pool.Invariant.simulates_turn (hinv : pool.Invariant) {worker : Worker}
    {stage : TurnStage} (hworker : pool.workers w = .turn event ref stage)
    (hmoves : pool.Moves after w worker ref state observations)
    (hserves : worker.Serves event.sessionId ref)
    (hobserved : ∀ observation ∈ observations, observation.sessionId = event.sessionId)
    (hcallable : ∀ other, other ≠ event.sessionId → after.callableOf other = pool.callableOf other)
    (hstep : (pool.view event.sessionId).tasks w = .turn event stage →
      (pool.view event.sessionId).state = pool.states ref →
      SessionStep config pool.lossy (pool.view event.sessionId)
        { { pool.view event.sessionId with state := state }.advance w
            (worker.task event.sessionId (some ref)) observations with
          callable := after.callableOf event.sessionId }) :
    pool.Simulates config after := by
  have hcurrent := hinv.refs.turn w event ref _ hworker
  apply hinv.refs.simulates hcurrent hmoves _ hserves hobserved hcallable
  · exact hstep (view_of_turn hworker hcurrent) (stateOf_of_current hcurrent)
  · rw [hworker]
    exact ⟨rfl, rfl⟩

theorem Pool.Invariant.simulates_move (hinv : pool.Invariant) {worker : Worker}
    (hmove : WorkerMove config pool.forceStopRequested (pool.states ref) ref
      (pool.workers w) worker state observations)
    (hacts : pool.Acts after w worker ref state observations) :
    pool.Simulates config after := by
  have hmoves := hacts.moves
  -- The worker serves the session of the event it holds, with a state that is
  -- current or closed.
  have hcases : ∃ owner, (pool.workers w).Serves owner ref ∧ pool.owner ref = owner ∧
      (pool.current owner = some ref ∨
        ∃ event stage, pool.workers w = .hand event ref stage ∧
          event.sessionId = owner ∧ (pool.states ref).closed = true) := by
    rcases hmove.serves with ⟨event, stage, hworker⟩ | ⟨event, stage, hworker⟩
    · obtain ⟨_, howner, hcase⟩ := hinv.refs.hand w event ref stage hworker
      refine ⟨event.sessionId, by rw [hworker]; exact ⟨rfl, rfl⟩, howner, ?_⟩
      rcases hcase with hcurrent | hclosed
      · exact .inl hcurrent
      · exact .inr ⟨event, stage, hworker, rfl, hclosed⟩
    · have hcurrent := hinv.refs.turn w event ref stage hworker
      exact ⟨event.sessionId, by rw [hworker]; exact ⟨rfl, rfl⟩,
        (hinv.refs.current _ _ hcurrent).2, .inl hcurrent⟩
  obtain ⟨owner, hserves, howner, hcase⟩ := hcases
  by_cases hcurrent : pool.current owner = some ref
  · have hstate : (pool.view owner).state = pool.states ref :=
      stateOf_of_current hcurrent
    rw [← hstate] at hmove
    have htask : (pool.view owner).tasks w = (pool.workers w).task owner (some ref) := by
      rw [view_tasks, hcurrent]
    have hlossy : pool.forceStopRequested = true → pool.lossy = true := by
      intro hforced
      simp [lossy, hforced]
    obtain ⟨hstep, hnew, hobservations⟩ :=
      hmove.sessionStep hlossy (hinv.own owner) hserves htask
    apply hinv.refs.simulates hcurrent hmoves hserves hnew hobservations
    · exact fun other _ => hacts.callableOf other
    · rw [hacts.callableOf]
      exact hstep
  · obtain ⟨_, _, hworker, hevent, hclosed⟩ := hcase.resolve_left hcurrent
    rw [hworker] at hmove
    obtain ⟨rfl, hnew, _, hpublishes⟩ := hmove.ofClosed hclosed
    rw [hevent] at hnew
    intro sessionId
    have hhidden : pool.current sessionId ≠ some ref := by
      by_cases hsession : sessionId = owner
      · rw [hsession]
        exact hcurrent
      · exact hinv.refs.current_ne howner hsession
    right
    rw [hmoves.view_hidden (hserves.task_of_stale _ hhidden)
      (hnew.task_of_stale _ hhidden) (.inl hhidden), hacts.callableOf]
    apply observed
    intro observation hmem
    exact (hpublishes observation (mem_of_mem_filter hmem)).isQuiet

theorem Pool.callableOf_update (hid : id < pool.nextDeferral)
    (hdeferrals : after.deferrals = update pool.deferrals id deferral)
    (hnext : after.nextDeferral = pool.nextDeferral) (sessionId : SessionId) :
    after.callableOf sessionId + (pool.deferrals id).callable sessionId =
      pool.callableOf sessionId + deferral.callable sessionId := by
  unfold callableOf
  rw [hdeferrals, hnext]
  exact Accounting.sum_update_add _ (Deferral.callable sessionId) _
    (Finset.mem_range.mpr hid) deferral

theorem Deferral.callable_eq_zero (sessionId : SessionId)
    (hnot : deferral.isCallable = false) : deferral.callable sessionId = 0 := by
  simp [Deferral.callable, hnot]

theorem Deferral.callable_of_ne {sessionId : SessionId}
    (hne : deferral.sessionId ≠ sessionId) : deferral.callable sessionId = 0 := by
  simp [Deferral.callable, hne]

theorem Deferral.callable_self (hcallable : deferral.isCallable = true) :
    deferral.callable deferral.sessionId = {deferral.sequence} := by
  simp [Deferral.callable, hcallable]

theorem Pool.view_of_deferrals
    (hworkers : after.workers = pool.workers) (hstates : after.states = pool.states)
    (hmap : after.sequenceBySession = pool.sequenceBySession) (hqueued : after.queued = pool.queued)
    (htranscript : after.transcript = pool.transcript ++ observations) (sessionId : SessionId) :
    after.view sessionId = { pool.view sessionId with
      callable := after.callableOf sessionId
      log := (pool.view sessionId).log ++ Transcript.of observations sessionId } := by
  simp only [Pool.view, stateOf, Pool.current, hworkers, hstates, hmap, hqueued,
    htranscript, of_append]

theorem Pool.Invariant.simulates_push (hexternal : event.isExternal = true)
    (hafter : after = { pool with inbox := pool.inbox.enqueue event }.log
      [.accepted event]) : pool.Simulates config after := by
  subst hafter
  intro sessionId
  by_cases hsession : event.sessionId = sessionId
  · right
    have hview : ({ pool with inbox := pool.inbox.enqueue event }.log
        [.accepted event]).view sessionId = { pool.view sessionId with
          queue := (pool.view sessionId).queue ++ [event]
          log := (pool.view sessionId).log ++ [.accepted event] } := by
      simp [Pool.view, Pool.log, stateOf, Pool.current, callableOf, queued,
        Transcript.of, Observation.sessionId, hsession, filter_append]
    rw [hview]
    exact .push event hexternal hsession
  · left
    simp [Pool.view, Pool.log, stateOf, Pool.current, callableOf, queued,
      Transcript.of, Observation.sessionId, hsession, filter_append]

/-! ### Pop and lookup -/

section LookupOrCreate

variable (pool) (sessionId : SessionId)

theorem Pool.lookupOrCreate_current :
    (pool.lookupOrCreate sessionId).2.current sessionId =
      some (pool.lookupOrCreate sessionId).1 := by
  unfold lookupOrCreate
  split
  next _ hlookup => exact hlookup
  next _ => exact Finmap.lookup_insert _

theorem Pool.lookupOrCreate_workers : (pool.lookupOrCreate sessionId).2.workers = pool.workers := by
  unfold lookupOrCreate
  split <;> rfl

variable {pool}

theorem Pool.RefInvariant.lookupOrCreate (hrefs : pool.RefInvariant) :
    (pool.lookupOrCreate sessionId).2.RefInvariant := by
  unfold Pool.lookupOrCreate
  split
  next => exact hrefs
  next hlookup =>
    have hnone : pool.current sessionId = none := hlookup
    have hcurrent : ∀ other, other ≠ sessionId →
        (pool.sequenceBySession.insert sessionId pool.nextRef).lookup other =
          pool.current other := by
      intro other hne
      exact Finmap.lookup_insert_of_ne _ hne
    constructor
    · intro other ref hother
      by_cases hsession : other = sessionId
      · subst hsession
        have href : ref = pool.nextRef := by
          have hself : some pool.nextRef = some ref :=
            (Finmap.lookup_insert _).symm.trans hother
          exact (Option.some.inj hself).symm
        subst href
        exact ⟨Nat.lt_succ_self _, by simp⟩
      · have hold := hrefs.current other ref ((hcurrent other hsession).symm.trans hother)
        have hne : ref ≠ pool.nextRef := Nat.ne_of_lt hold.1
        exact ⟨Nat.lt_succ_of_lt hold.1, by simp [hne, hold.2]⟩
    · intro w event ref stage hworker
      obtain ⟨hlt, howner, hcase⟩ := hrefs.hand w event ref stage hworker
      have hne : ref ≠ pool.nextRef := Nat.ne_of_lt hlt
      refine ⟨Nat.lt_succ_of_lt hlt, by simp [hne, howner], ?_⟩
      rcases hcase with hold | hclosed
      · left
        have hsession : event.sessionId ≠ sessionId := by
          intro heq
          rw [heq, hnone] at hold
          simp at hold
        exact (hcurrent _ hsession).trans hold
      · right
        simpa [hne] using hclosed
    · intro w event ref stage hworker
      have hold := hrefs.turn w event ref stage hworker
      have hsession : event.sessionId ≠ sessionId := by
        intro heq
        rw [heq, hnone] at hold
        simp at hold
      exact (hcurrent _ hsession).trans hold

/-- Registration shows only in its flag: a fresh state is the default one, and
no worker refers to it. -/
theorem Pool.RefInvariant.lookupOrCreate_view (hrefs : pool.RefInvariant) (other : SessionId) :
    (pool.lookupOrCreate sessionId).2.view other = { pool.view other with
      registered := (pool.view other).registered || (other == sessionId) } := by
  unfold Pool.lookupOrCreate
  split
  next ref hlookup =>
    by_cases hsession : other = sessionId
    · subst hsession
      have hcurrent : pool.current other = some ref := hlookup
      simp [Pool.view, hcurrent]
    · simp [Pool.view, hsession]
  next hlookup =>
    have hstale : ∀ current v, current = some pool.nextRef →
        (pool.workers v).task other current = .idle := by
      intro current v hcurrent
      subst hcurrent
      cases hworker : pool.workers v with
      | hand event ref stage =>
        have hlt := (hrefs.hand v event ref stage hworker).1
        have hne : pool.nextRef ≠ ref := (Nat.ne_of_lt hlt).symm
        simp [Worker.task, hne]
      | turn event ref stage =>
        have hlt := (hrefs.current _ _ (hrefs.turn v event ref stage hworker)).1
        have hne : pool.nextRef ≠ ref := (Nat.ne_of_lt hlt).symm
        simp [Worker.task, hne]
      | _ => rfl
    by_cases hsession : other = sessionId
    · subst hsession
      have hnone : pool.current other = none := hlookup
      have hidle : ∀ v, (pool.workers v).task other none = .idle := by
        intro v
        cases pool.workers v <;> simp [Worker.task]
      simp only [Pool.view, stateOf, Pool.current, Finmap.lookup_insert]
      simp only [Pool.current] at hnone
      simp only [hnone, hidle, fun v => hstale _ v rfl]
      simp [callableOf, queued]
    · have hcurrent : (pool.sequenceBySession.insert sessionId
          pool.nextRef).lookup other = pool.sequenceBySession.lookup other :=
        Finmap.lookup_insert_of_ne _ hsession
      have hstate : ∀ ref, pool.sequenceBySession.lookup other = some ref →
          update pool.states pool.nextRef {} ref = pool.states ref := by
        intro ref hother
        have hlt := (hrefs.current other ref hother).1
        simp [Nat.ne_of_lt hlt]
      simp only [Pool.view, stateOf, Pool.current, hcurrent,
        beq_eq_false_iff_ne.mpr hsession, Bool.or_false]
      cases hother : pool.sequenceBySession.lookup other with
      | none => simp [callableOf, queued]
      | some ref => simp [callableOf, queued, hstate ref hother]

end LookupOrCreate

theorem Pool.Invariant.simulates_lookup
    (hinv : pool.Invariant) {remaining : ℕ} (hworker : pool.workers w = .popping)
    (hintake : pool.intake = some ⟨w, event, remaining⟩)
    (hafter : after =
      ((({ pool with intake := none }.lookupOrCreate event.sessionId).2.setWorker w
        (.hand event ({ pool with intake := none }.lookupOrCreate event.sessionId).1
          (.popped remaining))).log [.popped event])) :
    pool.Simulates config after := by
  have hrefs : Pool.RefInvariant { pool with intake := none } :=
    ⟨hinv.refs.current, hinv.refs.hand, hinv.refs.turn⟩
  have hqueued : pool.queued = event :: pool.inbox.items := by
    simp [queued, hintake]
  have hrest : Pool.queued { pool with intake := none } = pool.inbox.items := rfl
  have hview := hrefs.lookupOrCreate_view event.sessionId
  have hcreated := hrefs.lookupOrCreate event.sessionId
  have hcurrent := lookupOrCreate_current { pool with intake := none } event.sessionId
  have hworkers := lookupOrCreate_workers { pool with intake := none } event.sessionId
  generalize { pool with intake := none }.lookupOrCreate event.sessionId = created
    at hafter hview hcreated hcurrent hworkers
  obtain ⟨ref, registered⟩ := created
  simp only at hafter hview hcreated hcurrent hworkers
  have hmoves : registered.Moves after w (.hand event ref (.popped remaining)) ref
      (registered.states ref) [.popped event] := by
    subst hafter
    constructor <;> first | rfl | exact (update_eq_self ref _).symm
  have hcallable : ∀ other, after.callableOf other = registered.callableOf other := by
    intro other
    rw [hafter]
    rfl
  have hsame : ∀ other, registered.callableOf other = pool.callableOf other := by
    intro other
    exact congrArg SessionView.callable (hview other)
  intro sessionId
  by_cases hsession : sessionId = event.sessionId
  · subst hsession
    right
    have hqueue : (pool.view event.sessionId).queue =
        event :: pool.inbox.items.filter fun other => other.sessionId == event.sessionId := by
      simp [Pool.view, hqueued]
    have htask : (pool.view event.sessionId).tasks w = .idle := by
      simp [view_tasks, hworker, Worker.task]
    have hstate : (registered.view event.sessionId).state = registered.states ref :=
      stateOf_of_current hcurrent
    have hobserved : ∀ observation ∈ [Observation.popped event],
        observation.sessionId = event.sessionId := by
      exact forall_mem_singleton.mpr rfl
    have hstep : SessionStep config pool.lossy (pool.view event.sessionId) _ :=
      .pop w event _ remaining htask hqueue
    rw [hmoves.view_self hcurrent hobserved, task_hand rfl, ← hstate, hcallable, hsame, hview]
    simpa [Pool.view, stateOf, Pool.current, advance, hrest] using hstep
  · left
    have hbefore : (registered.workers w).Serves event.sessionId ref := by
      rw [hworkers, hworker]
      trivial
    have howner := (hcreated.current _ _ hcurrent).2
    have hskip : (pool.inbox.items.filter fun other => other.sessionId == sessionId) =
        (event :: pool.inbox.items).filter fun other => other.sessionId == sessionId := by
      have hne : event.sessionId ≠ sessionId := fun heq => hsession heq.symm
      simp [hne]
    rw [hmoves.view_other hbefore ⟨rfl, rfl⟩ hsession
      (hcreated.current_ne howner hsession) (hcallable sessionId) (by
        intro _ hmem
        rw [mem_singleton.mp hmem]
        rfl), hview]
    simp [Pool.view, stateOf, Pool.current, callableOf, hsession, hskip, hqueued, hrest]

/-! ### Deferrals -/

theorem Pool.DeferralInvariant.notCallable (hdeferrals : pool.DeferralInvariant)
    (hrunning : (pool.deferrals id).handlerReturned = false) :
    (pool.deferrals id).isCallable = false := by
  cases hpushing : (pool.deferrals id).pushing with
  | none => simp [isCallable, hrunning, hpushing]
  | some payload =>
    have hreturned := (hdeferrals.pushing id payload hpushing).2
    simp [hrunning] at hreturned

theorem Pool.Invariant.simulates_finish
    (hinv : pool.Invariant) {context : WorkerSessionEventContext}
    (hworker : pool.workers w = .turn event ref (.finishing context))
    (hid : context.deferral = some id)
    (hafter : after = { pool with
      deferrals := update pool.deferrals id
        { pool.deferrals id with handlerReturned := true, inlinePayload := none }
      }.setWorker w (.turn event ref (.publishing context.messages true
        ((pool.deferrals id).inlinePayload.map (pool.deferrals id).completionEvent)))) :
    pool.Simulates config after := by
  obtain ⟨hlt, hsession, hsequence, hrunning, hinline⟩ :=
    hinv.deferrals.handling w event ref _ id hworker hid
  have hmoves : pool.Moves after w (.turn event ref (.publishing context.messages true
      ((pool.deferrals id).inlinePayload.map (pool.deferrals id).completionEvent))) ref
      (pool.states ref) [] := by
    subst hafter
    apply Pool.Moves.of_worker <;> rfl
  have hcount : ∀ other,
      after.callableOf other + (pool.deferrals id).callable other =
        pool.callableOf other + Deferral.callable other { pool.deferrals id with
          handlerReturned := true
          inlinePayload := none } :=
    callableOf_update hlt (by rw [hafter]; rfl) (by rw [hafter]; rfl)
  have hzero := fun other => callable_eq_zero other (hinv.deferrals.notCallable hrunning)
  have hpushing : (pool.deferrals id).pushing = none := by
    have hnot := hinv.deferrals.notCallable hrunning
    simpa [isCallable, hrunning] using hnot
  apply hinv.simulates_turn hworker hmoves ⟨rfl, rfl⟩ (by simp)
  · intro other hother
    have hcallable := hcount other
    rw [hzero other, callable_of_ne, add_zero, add_zero] at hcallable
    · exact hcallable
    · simp only
      rw [hsession]
      exact fun heq => hother heq.symm
  · intro htask hstate
    have hdeferred : context.deferred = true := by
      simp [WorkerSessionEventContext.deferred, hid]
    have hcallable := hcount event.sessionId
    rw [hzero event.sessionId, add_zero] at hcallable
    rw [task_turn rfl, ← hstate, hcallable]
    cases hpayload : (pool.deferrals id).inlinePayload with
    | some payload =>
      have hcompleted : (pool.deferrals id).completed = true := by
        rw [← hinline, hpayload]
        rfl
      rw [callable_eq_zero _ (by simp [isCallable, hcompleted, hpushing]), add_zero]
      exact .finishInline w event ((pool.deferrals id).completionEvent payload)
        context htask rfl hsequence hsession hdeferred
    | none =>
      have hopen : (pool.deferrals id).completed = false := by
        rw [← hinline, hpayload]
        rfl
      have hsingle : Deferral.callable event.sessionId { pool.deferrals id with
          handlerReturned := true
          inlinePayload := none } = {event.sequence} := by
        simp [Deferral.callable, isCallable, hsession, hopen, hsequence]
      rw [hsingle]
      have hadd : pool.callableOf event.sessionId + {event.sequence} =
          event.sequence ::ₘ (pool.view event.sessionId).callable := by
        rw [add_comm, Multiset.singleton_add]
        rfl
      rw [hadd]
      exact .finishOpen w event context htask hdeferred

theorem Pool.Invariant.simulates_defer (hinv : pool.Invariant) {context : WorkerSessionEventContext}
    (hworker : pool.workers w = .turn event ref (.handling context))
    (hafter : after = { pool with
      deferrals := update pool.deferrals pool.nextDeferral
        { sessionId := event.sessionId, sequence := event.sequence }
      nextDeferral := pool.nextDeferral + 1 }.setWorker w
        (.turn event ref (.handling { context with deferral := some pool.nextDeferral }))) :
    pool.Simulates config after := by
  have hmoves : pool.Moves after w (.turn event ref (.handling
      { context with deferral := some pool.nextDeferral })) ref
      (pool.states ref) [] := by
    subst hafter
    apply Pool.Moves.of_worker <;> rfl
  -- The new deferral is not callable while its handler runs.
  have hcallable : ∀ other, after.callableOf other = pool.callableOf other := by
    intro other
    subst hafter
    have hnew : Deferral.callable other
        { sessionId := event.sessionId, sequence := event.sequence } = 0 :=
      callable_eq_zero other rfl
    have hold : ∀ id ∈ Finset.range pool.nextDeferral,
        (update pool.deferrals pool.nextDeferral
          { sessionId := event.sessionId, sequence := event.sequence } id).callable
            other = (pool.deferrals id).callable other := by
      intro id hid
      have hne : id ≠ pool.nextDeferral := Nat.ne_of_lt (Finset.mem_range.mp hid)
      simp [hne]
    simp only [callableOf, setWorker, Finset.sum_range_succ, update_self, hnew, add_zero]
    exact Finset.sum_congr rfl hold
  apply hinv.simulates_turn hworker hmoves ⟨rfl, rfl⟩ (by simp) fun other _ => hcallable other
  intro htask hstate
  rw [task_turn rfl, ← hstate, hcallable]
  exact .turnMove w event _ _ [] htask (.handle _ _) (by simp)

theorem Pool.Invariant.simulates_markDeferred
    (hinv : pool.Invariant) {inlineCompletion earlyCompletion : Option SessionEvent}
    (hworker : pool.workers w = .turn event ref (.deferring inlineCompletion))
    (hdefer : markSessionDeferred event (pool.states ref) = some (earlyCompletion, state))
    (hafter : after = ({ pool with
      outstandingDeferred := pool.outstandingDeferred + 1 }.setState ref
        state).setWorker w ((restart (inlineCompletion.or earlyCompletion)).worker ref)) :
    pool.Simulates config after := by
  have hcurrent := hinv.refs.turn w event ref _ hworker
  have htask := view_of_turn hworker hcurrent
  have hstate : (pool.view event.sessionId).state = pool.states ref :=
    stateOf_of_current hcurrent
  have hmoves : pool.Moves after w
      ((restart (inlineCompletion.or earlyCompletion)).worker ref) ref state [] := by
    subst hafter
    constructor
    case transcript => exact (append_nil _).symm
    all_goals rfl
  have hcallable : ∀ other, after.callableOf other = pool.callableOf other := by
    intro other
    rw [hafter]
    rfl
  have hserves : ((restart (inlineCompletion.or earlyCompletion)).worker ref).Serves
      event.sessionId ref := by
    apply restart_worker_serves
    intro next hnext
    have hown := hinv.own event.sessionId
    rcases Option.or_eq_some_iff.mp hnext with hinline | ⟨_, hearly⟩
    · apply hown.tasks w next
      rw [htask]
      simp [Task.events, TurnStage.inlineCompletion, hinline]
    · rw [(markSessionDeferred_some hdefer).1, ← hstate] at hearly
      exact hown.state next (SessionSequenceState.mem_events.mpr (.inr (.inl hearly)))
  apply hinv.simulates_turn hworker hmoves hserves (by simp) fun other _ => hcallable other
  intro _ _
  rw [hserves.worker_task, hcallable]
  rw [← hstate] at hdefer
  exact .markDeferred w event inlineCompletion earlyCompletion state htask hdefer

/-- `markSessionDeferred` never throws: the turn it marks is the current one. -/
theorem Pool.Invariant.markSessionDeferred_ne_none (hinv : pool.Invariant)
    {stage : TurnStage} (hworker : pool.workers w = .turn event ref stage) :
    markSessionDeferred event (pool.states ref) ≠ none := by
  have hcurrent := hinv.refs.turn w event ref _ hworker
  have hopen := (hinv.turns event.sessionId).turnOpen (view_of_turn hworker hcurrent)
  have hstate : (pool.view event.sessionId).state = pool.states ref :=
    stateOf_of_current hcurrent
  rw [hstate] at hopen
  simp [markSessionDeferred, hopen.active, hopen.sequence]

/-! ### Calls from outside -/

theorem Pool.Invariant.simulates_complete (hid : id < pool.nextDeferral)
    (hopen : (pool.deferrals id).completed = false)
    (hreturned : (pool.deferrals id).handlerReturned = true)
    (hafter : after = { pool with
      deferrals := update pool.deferrals id
        { pool.deferrals id with completed := true, pushing := some payload } }) :
    pool.Simulates config after := by
  intro sessionId
  left
  have hcount : after.callableOf sessionId + (pool.deferrals id).callable sessionId =
      pool.callableOf sessionId + Deferral.callable sessionId { pool.deferrals id with
        completed := true
        pushing := some payload } :=
    callableOf_update hid (by rw [hafter]) (by rw [hafter]) sessionId
  have hsame : Deferral.callable sessionId { pool.deferrals id with
      completed := true
      pushing := some payload } = (pool.deferrals id).callable sessionId := by
    simp [Deferral.callable, isCallable, hopen, hreturned]
  rw [hsame] at hcount
  have hcallable := add_right_cancel hcount
  subst hafter
  simp only [Pool.view, stateOf, Pool.current, queued]
  rw [hcallable]

theorem Pool.simulates_answer {owner : SessionId} {first accepted : Bool}
    (hworkers : after.workers = pool.workers) (hstates : after.states = pool.states)
    (hmap : after.sequenceBySession = pool.sequenceBySession) (hqueued : after.queued = pool.queued)
    (htranscript : after.transcript = pool.transcript ++ [.answered owner id first accepted])
    (hcallable : ∀ sessionId, after.callableOf sessionId = pool.callableOf sessionId) :
    pool.Simulates config after := by
  intro _
  right
  rw [view_of_deferrals hworkers hstates hmap hqueued htranscript, hcallable]
  apply observed
  intro _ hmem
  rw [mem_singleton.mp (mem_of_mem_filter hmem)]
  rfl

theorem Pool.Invariant.simulates_completeInline
    (hinv : pool.Invariant) (hid : id < pool.nextDeferral)
    (hrunning : (pool.deferrals id).handlerReturned = false)
    (hafter : after = { pool with
      deferrals := update pool.deferrals id
        { pool.deferrals id with completed := true, inlinePayload := some payload }
      }.log [.answered (pool.deferrals id).sessionId id true true]) :
    pool.Simulates config after := by
  have hnot := hinv.deferrals.notCallable hrunning
  have hnew : isCallable { pool.deferrals id with
      completed := true
      inlinePayload := some payload } = false := by
    simp only [isCallable, hrunning, Bool.false_and, Bool.false_or] at hnot ⊢
    exact hnot
  have hcallable : ∀ sessionId, after.callableOf sessionId = pool.callableOf sessionId := by
    intro sessionId
    have hcount : after.callableOf sessionId + (pool.deferrals id).callable sessionId = _ :=
      callableOf_update hid (by rw [hafter]; rfl) (by rw [hafter]; rfl) sessionId
    rwa [callable_eq_zero _ hnot, callable_eq_zero _ hnew, add_zero, add_zero] at hcount
  subst hafter
  apply simulates_answer
  case hcallable => exact hcallable
  all_goals rfl

theorem Pool.DeferralInvariant.callable_pushing
    (hdeferrals : pool.DeferralInvariant) (hid : id < pool.nextDeferral)
    (hpushing : (pool.deferrals id).pushing = some payload)
    (hafter : after.deferrals = update pool.deferrals id { pool.deferrals id with pushing := none })
    (hnext : after.nextDeferral = pool.nextDeferral) :
    (pool.deferrals id).sequence ∈ pool.callableOf (pool.deferrals id).sessionId ∧
      after.callableOf (pool.deferrals id).sessionId =
        (pool.callableOf (pool.deferrals id).sessionId).erase (pool.deferrals id).sequence ∧
      ∀ other, other ≠ (pool.deferrals id).sessionId →
        after.callableOf other = pool.callableOf other := by
  have hcompleted := (hdeferrals.pushing id payload hpushing).1
  have hcount := callableOf_update hid hafter hnext
  have hnew : isCallable { pool.deferrals id with pushing := none } = false := by
    simp [isCallable, hcompleted]
  have hold : (pool.deferrals id).isCallable = true := by
    simp [isCallable, hpushing]
  have hself := hcount (pool.deferrals id).sessionId
  rw [callable_self hold, callable_eq_zero _ hnew, add_zero,
    add_comm, Multiset.singleton_add] at hself
  refine ⟨?_, ?_, ?_⟩
  · rw [← hself]
    exact Multiset.mem_cons_self _ _
  · rw [← hself, Multiset.erase_cons_head]
  · intro other hne
    have hother := hcount other
    rwa [callable_of_ne hne.symm, callable_eq_zero _ hnew, add_zero, add_zero] at hother

theorem Pool.Invariant.simulates_pushCompletion
    (hinv : pool.Invariant) (hid : id < pool.nextDeferral)
    (hpushing : (pool.deferrals id).pushing = some payload)
    (hafter : after = { pool with
      inbox := pool.inbox.enqueue ((pool.deferrals id).completionEvent payload)
      deferrals := update pool.deferrals id { pool.deferrals id with pushing := none }
      }.log [.answered (pool.deferrals id).sessionId id true true]) :
    pool.Simulates config after := by
  obtain ⟨hmem, herase, hothers⟩ := hinv.deferrals.callable_pushing hid hpushing
    (show after.deferrals = _ by rw [hafter]; rfl) (by rw [hafter]; rfl)
  intro sessionId
  have hview : after.view sessionId = { pool.view sessionId with
      queue := (pool.view sessionId).queue ++
        [(pool.deferrals id).completionEvent payload].filter
          fun event => event.sessionId == sessionId
      callable := after.callableOf sessionId
      log := (pool.view sessionId).log ++
        Transcript.of [.answered (pool.deferrals id).sessionId id true true] sessionId } := by
    subst hafter
    simp only [Pool.view, Pool.log, stateOf, Pool.current, queued,
      BoundedBlockingQueue.enqueue_items, filter_append, of_append, append_assoc]
  by_cases hsession : sessionId = (pool.deferrals id).sessionId
  · right
    rw [hview, hsession, herase]
    have hfilter : ([(pool.deferrals id).completionEvent payload].filter
        fun event => event.sessionId == (pool.deferrals id).sessionId) =
          [(pool.deferrals id).completionEvent payload] := by
      simp [completionEvent]
    rw [hfilter]
    apply SessionStep.pushCompletion ((pool.deferrals id).completionEvent payload)
    · rfl
    · rfl
    · exact hmem
    · intro _ hobservation
      rw [mem_singleton.mp (mem_of_mem_filter hobservation)]
      rfl
  · left
    have hne : (pool.deferrals id).sessionId ≠ sessionId := fun heq => hsession heq.symm
    rw [hview, hothers sessionId hsession]
    simp [completionEvent, Transcript.of, Observation.sessionId, hne, Pool.view]

theorem Pool.Invariant.simulates_refuseCompletion
    (hinv : pool.Invariant) (hid : id < pool.nextDeferral)
    (hpushing : (pool.deferrals id).pushing = some payload) (hclosed : pool.inbox.closed = true)
    (hafter : after = { pool with
      deferrals := update pool.deferrals id { pool.deferrals id with pushing := none }
      }.log [.answered (pool.deferrals id).sessionId id true false]) :
    pool.Simulates config after := by
  obtain ⟨hmem, herase, hothers⟩ := hinv.deferrals.callable_pushing hid hpushing
    (show after.deferrals = _ by rw [hafter]; rfl) (by rw [hafter]; rfl)
  intro sessionId
  have hview : after.view sessionId = { pool.view sessionId with
      callable := after.callableOf sessionId
      log := (pool.view sessionId).log ++
        Transcript.of [.answered (pool.deferrals id).sessionId id true false] sessionId } := by
    subst hafter
    apply view_of_deferrals <;> rfl
  by_cases hsession : sessionId = (pool.deferrals id).sessionId
  · right
    rw [hview, hsession, herase]
    apply SessionStep.refuseCompletion
    · exact hmem
    · intro _ hobservation
      rw [mem_singleton.mp (mem_of_mem_filter hobservation)]
      rfl
    · simp [lossy, hclosed]
  · left
    have hne : (pool.deferrals id).sessionId ≠ sessionId := fun heq => hsession heq.symm
    rw [hview, hothers sessionId hsession]
    simp [Transcript.of, Observation.sessionId, hne, Pool.view]

/-! ### The end of a turn -/

theorem Pool.Invariant.simulates_ending
    (hinv : pool.Invariant) (hworker : pool.workers w = .turn event ref .ending)
    (hafter : after = (pool.completeSessionTurn w event ref).2.setWorker w
      ((restart (pool.completeSessionTurn w event ref).1).worker ref)) :
    pool.Simulates config after := by
  have hcurrent := hinv.refs.turn w event ref _ hworker
  have howner := (hinv.refs.current _ _ hcurrent).2
  have htask := view_of_turn hworker hcurrent
  have hstate : (pool.view event.sessionId).state = pool.states ref :=
    stateOf_of_current hcurrent
  have hended := pool.turnEnded_completeSessionTurn w event ref
  have hnext : (pool.completeSessionTurn w event ref).1 =
      (endSessionTurn (pool.states ref)).1 := rfl
  have hcallable : ∀ other, after.callableOf other = pool.callableOf other := by
    intro other
    rw [hafter]
    simp only [callableOf, setWorker, hended.deferrals, hended.nextDeferral]
  have hbefore : (pool.workers w).Serves event.sessionId ref := by
    rw [hworker]
    exact ⟨rfl, rfl⟩
  have hserves : ((restart (endSessionTurn (pool.states ref)).1).worker ref).Serves
      event.sessionId ref := by
    apply restart_worker_serves
    intro next hsome
    have hown := hinv.own event.sessionId
    apply hown.state next
    rw [hstate]
    exact (endSessionTurn_events (pool.states ref)).1 (mem_restart_events.mpr hsome)
  have hobserved : ∀ observation ∈ [Observation.ended event
      (pool.states ref).activeDisconnect], observation.sessionId = event.sessionId := by
    exact forall_mem_singleton.mpr rfl
  cases hdisconnect : (pool.states ref).activeDisconnect with
  | false =>
    have hmoves : pool.Moves after w
        ((restart (endSessionTurn (pool.states ref)).1).worker ref) ref
        (endSessionTurn (pool.states ref)).2 [.ended event false] := by
      rw [hafter, hnext]
      constructor
      · simp only [setWorker, hended.workers]
      · exact hended.states
      · rw [← hdisconnect]
        exact hended.transcript
      · exact queued_congr hended.inbox hended.intake
      · have hmap := hended.sequenceBySession
        rw [hdisconnect] at hmap
        exact hmap
    rw [hdisconnect] at hobserved
    apply hinv.simulates_turn hworker hmoves hserves hobserved fun other _ => hcallable other
    intro _ _
    rw [hserves.worker_task, hcallable]
    rw [← hstate] at hdisconnect ⊢
    exact .endOpen w event htask hdisconnect
  | true =>
    have hmap := hended.sequenceBySession
    rw [hdisconnect, if_pos rfl] at hmap
    have htranscript := hended.transcript
    rw [hdisconnect] at htranscript
    rw [hdisconnect] at hobserved
    intro sessionId
    by_cases hother : sessionId = event.sessionId
    · subst hother
      right
      have hnone : after.current event.sessionId = none := by
        rw [hafter]
        simp only [Pool.current, setWorker, hmap, Finmap.lookup_erase]
      have hidle : ∀ worker : Worker, worker.task event.sessionId none = .idle := by
        intro worker
        cases worker <;> simp [Worker.task]
      have hview : after.view event.sessionId = (pool.view event.sessionId).close event := by
        have hqueued : after.queued = pool.queued := by
          rw [hafter]
          exact queued_congr hended.inbox hended.intake
        have htranscript' : after.transcript = pool.transcript ++ [.ended event true] := by
          rw [hafter]
          exact htranscript
        simp only [Pool.view, stateOf, hnone, close, hidle, hqueued,
          htranscript', hcallable, of_append, of_self hobserved]
        rfl
      rw [hview]
      rw [← hstate] at hdisconnect
      exact .endClosed w event htask hdisconnect
    · left
      -- The erased entry and the worker belong to another session.
      have hmoves : { pool with
          sequenceBySession := pool.sequenceBySession.erase event.sessionId }.Moves
            after w ((restart (endSessionTurn (pool.states ref)).1).worker ref) ref
            (endSessionTurn (pool.states ref)).2 [.ended event true] := by
        rw [hafter, hnext]
        constructor
        · simp only [setWorker, hended.workers]
        · exact hended.states
        · exact htranscript
        · exact queued_congr hended.inbox hended.intake
        · exact hmap
      have hlookup : (pool.sequenceBySession.erase event.sessionId).lookup sessionId =
          pool.sequenceBySession.lookup sessionId :=
        Finmap.lookup_erase_ne hother
      have hsame : Pool.view { pool with
          sequenceBySession := pool.sequenceBySession.erase event.sessionId }
            sessionId = pool.view sessionId := by
        simp only [Pool.view, stateOf, Pool.current, hlookup]
        rfl
      rw [← hsame]
      apply hmoves.view_other hbefore hserves hother
      · simp only [Pool.current, hlookup]
        exact hinv.refs.current_ne howner hother
      · exact hcallable sessionId
      · exact hobserved

/-! ### All steps -/

theorem Pool.Unmoved.view (hunmoved : pool.Unmoved after)
    (sessionId : SessionId) : after.view sessionId = pool.view sessionId := by
  simp only [Pool.view, stateOf, Pool.current, callableOf, hunmoved.workers,
    hunmoved.states, hunmoved.transcript, hunmoved.queued, hunmoved.sequenceBySession,
    hunmoved.deferrals, hunmoved.nextDeferral]

theorem Pool.Invariant.simulates
    (hinv : pool.Invariant) (hstep : StepOutcome config pool after action) :
    pool.Simulates config after := by
  cases hstep with
  | push _ hexternal _ hafter =>
    exact Pool.Invariant.simulates_push hexternal hafter
  | lookup _ _ _ hworker hintake hafter =>
    exact hinv.simulates_lookup hworker hintake hafter
  | exit w hworker _ _ hafter =>
    intro sessionId
    left
    have hmoves : pool.Moves after w .exited 0 (pool.states 0) [] := by
      subst hafter
      apply Pool.Moves.of_worker <;> rfl
    rw [hmoves.view_hidden (by simp [hworker, Worker.task]) rfl (.inr rfl)]
    subst hafter
    simp [Pool.view, Transcript.of, callableOf, setWorker]
  | move _ _ _ _ hsection hafter =>
    obtain ⟨_, state, _, hmove, hacts⟩ := hsection.moved hafter
    exact hinv.simulates_move hmove hacts
  | finish _ _ _ _ _ hworker hid hafter =>
    exact hinv.simulates_finish hworker hid hafter
  | markDeferred w event ref inlineCompletion earlyCompletion state hworker hdefer
      hafter =>
      exact hinv.simulates_markDeferred hworker hdefer hafter
  | crash _ _ _ _ hworker hdefer =>
    exact absurd hdefer (hinv.markSessionDeferred_ne_none hworker)
  | ending _ _ _ hworker hafter =>
    exact hinv.simulates_ending hworker hafter
  | defer _ _ _ _ hworker hafter =>
    exact hinv.simulates_defer hworker hafter
  | complete _ _ hid hopen hreturned hafter =>
    exact Pool.Invariant.simulates_complete hid hopen hreturned hafter
  | completeInline _ _ hid _ hrunning hafter =>
    exact hinv.simulates_completeInline hid hrunning hafter
  | answer _ _ _ _ hafter =>
    subst hafter
    apply simulates_answer <;> intros <;> rfl
  | pushCompletion _ _ hid hpushing _ hafter =>
    exact hinv.simulates_pushCompletion hid hpushing hafter
  | refuseCompletion _ _ hid hpushing hclosed hafter =>
    exact hinv.simulates_refuseCompletion hid hpushing hclosed hafter
  | outside _ houtside =>
    have hunmoved := houtside.unmoved
    exact fun sessionId => .inl (hunmoved.view sessionId)

end SessionServer.WorkerPool
