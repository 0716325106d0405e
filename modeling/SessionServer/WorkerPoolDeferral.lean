import SessionServer.SessionDeferral
import SessionServer.SessionLastTurn
import SessionServer.WorkerPoolDrainCheck
import SessionServer.WorkerPoolOutstanding
import SessionServer.WorkerPoolSerialisation

/-!
# Each deferral is completed once

A handler that defers leaves a completion that anybody may call, as often as
they like, before the handler returns or later.  One call is accepted, and one
completion is processed in the turn of the handler, whichever way it takes
through the pool.  `outstanding_deferred_` counts the turns that wait.
-/

namespace SessionServer.WorkerPool

open Transcript SessionView Observation SessionEvent Pool Deferral Worker Function Finset Finmap

variable {n : ℕ} {config : WorkerPoolConfig} {pool after : Pool n} {action : Action n}
variable {id : DeferralId} {deferral : Deferral} {state : SessionSequenceState} {ref : StateRef}
    {event : SessionEvent}

/-! ## Calls and their answers -/

/-- A call of `succeed` or `fail` on this deferral that returned true. -/
def Observation.isAcceptedCall (id : DeferralId) : Observation → Bool
  | .answered _ deferral _ granted => deferral == id && granted
  | _ => false

/-- A deferral with an accepted call is completed, and while the first caller
pushes there is none. -/
structure Pool.AnswersOnce (pool : Pool n) : Prop where
  fresh : ∀ id, pool.nextDeferral ≤ id → (pool.deferrals id).completed = false
  answers : ∀ id, pool.transcript.countP (isAcceptedCall id) +
    (pool.deferrals id).pushing.isSome.toNat ≤ (pool.deferrals id).completed.toNat

theorem Pool.initial_answersOnce (inbox : BoundedBlockingQueue SessionEvent)
    (outbox : BoundedBlockingQueue OutboundMessage) :
    (Pool.initial n inbox outbox).AnswersOnce := by
  constructor <;> simp [Pool.initial]

theorem Pool.AnswersOnce.congr (hanswers : pool.AnswersOnce) {observations : List Observation}
    (hdeferrals : after.deferrals = pool.deferrals) (hnext : after.nextDeferral = pool.nextDeferral)
    (htranscript : after.transcript = pool.transcript ++ observations)
    (hnone : ∀ id, observations.countP (isAcceptedCall id) = 0) :
    after.AnswersOnce := by
  constructor
  · rw [hdeferrals, hnext]
    exact hanswers.fresh
  · intro id
    rw [hdeferrals, htranscript, List.countP_append, hnone id, add_zero]
    exact hanswers.answers id

theorem Pool.AnswersOnce.update (hanswers : pool.AnswersOnce) {observations : List Observation}
    (hid : id < pool.nextDeferral)
    (hdeferrals : after.deferrals = update pool.deferrals id deferral)
    (hnext : after.nextDeferral = pool.nextDeferral)
    (htranscript : after.transcript = pool.transcript ++ observations)
    (hnone : ∀ other, other ≠ id → observations.countP (isAcceptedCall other) = 0)
    (hself : pool.transcript.countP (isAcceptedCall id) +
        observations.countP (isAcceptedCall id) +
        deferral.pushing.isSome.toNat ≤ deferral.completed.toNat) :
    after.AnswersOnce := by
  constructor
  · intro other hother
    rw [hnext] at hother
    have hne : other ≠ id := (hid.trans_le hother).ne'
    rw [hdeferrals, update_of_ne hne]
    exact hanswers.fresh other hother
  · intro other
    rw [hdeferrals, htranscript, List.countP_append]
    by_cases hother : other = id
    · rw [hother, update_self]
      exact hself
    · rw [update_of_ne hother, hnone other hother, add_zero]
      exact hanswers.answers other

theorem Pool.lookupOrCreate_keeps (pool : Pool n) (sessionId : SessionId) :
    (pool.lookupOrCreate sessionId).2.deferrals = pool.deferrals ∧
      (pool.lookupOrCreate sessionId).2.nextDeferral = pool.nextDeferral ∧
      (pool.lookupOrCreate sessionId).2.transcript = pool.transcript := by
  unfold lookupOrCreate
  split <;> exact ⟨rfl, rfl, rfl⟩

theorem WorkerMove.no_answer {lossy : Bool} {before : SessionSequenceState} {old new : Worker}
    {observations : List Observation}
    (hmove : WorkerMove config lossy before ref old new state observations) (id : DeferralId) :
    observations.countP (isAcceptedCall id) = 0 := by
  have hpublished : ∀ event, (∀ observation ∈ observations,
      observation.Publishes event) → observations.countP (isAcceptedCall id) = 0 := by
    intro event hpublishes
    apply List.countP_eq_zero.mpr
    intro observation hmem
    obtain ⟨_, rfl⟩ := hpublishes observation hmem
    simp [isAcceptedCall]
  cases hmove with
  | hand event _ _ _ _ hpublishes | turn event _ _ _ _ _ hpublishes =>
    exact hpublished event hpublishes
  | tryStart event disposition =>
    cases disposition with
    | process =>
      by_cases hkind : event.kind = .deferredCompletion <;> simp [tryLog, hkind, isAcceptedCall]
    | _ => rfl
  | _ => rfl

theorem Pool.AnswersOnce.step (hanswers : pool.AnswersOnce) (hinv : pool.Invariant)
    (hstep : StepOutcome config pool after action) : after.AnswersOnce := by
  cases hstep with
  | push _ _ _ hafter =>
    subst hafter
    exact hanswers.congr rfl rfl rfl fun _ => rfl
  | lookup _ event _ _ _ hafter =>
    obtain ⟨hdeferrals, hnext, htranscript⟩ := lookupOrCreate_keeps
      { pool with intake := none } event.sessionId
    subst hafter
    exact hanswers.congr hdeferrals hnext
      (congrArg (· ++ [Observation.popped event]) htranscript) fun _ => rfl
  | exit _ _ _ _ hafter | markDeferred _ _ _ _ _ _ _ _ hafter | crash _ _ _ _ _ _ hafter =>
    subst hafter
    exact hanswers.congr rfl rfl (List.append_nil _).symm fun _ => rfl
  | move _ _ _ _ hsection hafter =>
    obtain ⟨_, _, _, hmove, hacts⟩ := hsection.moved hafter
    exact hanswers.congr hacts.deferrals hacts.nextDeferral hacts.transcript hmove.no_answer
  | finish w event ref _ id hworker hid hafter =>
    obtain ⟨hlt, _⟩ := hinv.deferrals.handling w event ref _ id hworker hid
    subst hafter
    exact hanswers.update hlt rfl rfl (List.append_nil _).symm (fun _ _ => rfl)
      (hanswers.answers id)
  | ending w event ref _ hafter =>
    have hended := pool.turnEnded_completeSessionTurn w event ref
    subst hafter
    exact hanswers.congr hended.deferrals hended.nextDeferral hended.transcript fun _ => rfl
  | defer _ _ _ _ _ hafter =>
    subst hafter
    have hfresh := hanswers.fresh pool.nextDeferral le_rfl
    constructor
    · intro id hid
      have hne : id ≠ pool.nextDeferral := (Nat.lt_of_succ_le hid).ne'
      change (Function.update pool.deferrals pool.nextDeferral _ id).completed = false
      rw [Function.update_of_ne hne]
      exact hanswers.fresh id (Nat.le_of_succ_le hid)
    · intro id
      change pool.transcript.countP (isAcceptedCall id) +
        (Function.update pool.deferrals pool.nextDeferral _ id).pushing.isSome.toNat ≤
          (Function.update pool.deferrals pool.nextDeferral _ id).completed.toNat
      by_cases hid : id = pool.nextDeferral
      · have hbefore := hanswers.answers pool.nextDeferral
        rw [hfresh, Bool.toNat_false] at hbefore
        rw [hid, Function.update_self]
        change _ + 0 ≤ 0
        omega
      · rw [Function.update_of_ne hid]
        exact hanswers.answers id
  | complete id _ hid hopen _ hafter =>
    subst hafter
    refine hanswers.update hid rfl rfl (List.append_nil _).symm (fun _ _ => rfl) ?_
    have hbefore := hanswers.answers id
    rw [hopen, Bool.toNat_false] at hbefore
    change _ + 0 + 1 ≤ 1
    omega
  | completeInline id _ hid hopen _ hafter =>
    subst hafter
    refine hanswers.update hid rfl rfl rfl ?_ ?_
    · intro other hother
      simp [isAcceptedCall, Ne.symm hother]
    · have hbefore := hanswers.answers id
      rw [hopen] at hbefore
      simp only [Bool.toNat_false] at hbefore
      simp [isAcceptedCall]
      omega
  | answer _ _ _ _ hafter =>
    subst hafter
    exact hanswers.congr rfl rfl rfl fun other => by simp [isAcceptedCall]
  | pushCompletion id _ hid hpushing _ hafter =>
    subst hafter
    refine hanswers.update hid rfl rfl rfl ?_ ?_
    · intro other hother
      simp [isAcceptedCall, Ne.symm hother]
    · have hbefore := hanswers.answers id
      rw [hpushing] at hbefore
      simpa [isAcceptedCall] using hbefore
  | refuseCompletion id _ hid hpushing _ hafter =>
    subst hafter
    refine hanswers.update hid rfl rfl rfl ?_ ?_
    · intro _ _
      simp [isAcceptedCall]
    · have hbefore := hanswers.answers id
      simp [isAcceptedCall] at hbefore ⊢
      omega
  | outside _ houtside =>
    have hunmoved := houtside.unmoved
    exact hanswers.congr hunmoved.deferrals hunmoved.nextDeferral
      (by rw [hunmoved.transcript, List.append_nil]) fun _ => rfl

/-! ## Deferrals whose handlers have returned -/

/-- A handler for this event of the session returned with a deferral. -/
def Observation.isDeferral (sessionId : SessionId) (sequence : ℕ) : Observation → Bool
  | .returned event .deferred => event.sessionId == sessionId && event.sequence == sequence
  | _ => false

def Deferral.concerns (sessionId : SessionId) (sequence : ℕ) (deferral : Deferral) : Bool :=
  deferral.sessionId == sessionId && deferral.sequence == sequence

def Deferral.returned (sessionId : SessionId) (sequence : ℕ) (deferral : Deferral) : ℕ :=
  (deferral.handlerReturned && deferral.concerns sessionId sequence).toNat

/-- The worker is about to tell the deferral that its handler has returned. -/
def Worker.claims (sessionId : SessionId) (sequence : ℕ) : Worker → ℕ
  | .turn event _ (.finishing context) =>
    (context.deferred && event.sessionId == sessionId && event.sequence == sequence).toNat
  | _ => 0

def Pool.returnedDeferrals (pool : Pool n) (sessionId : SessionId) (sequence : ℕ) : ℕ :=
  ∑ id ∈ range pool.nextDeferral, (pool.deferrals id).returned sessionId sequence

def Pool.ClaimsReturned (pool : Pool n) (sessionId : SessionId) (sequence : ℕ) : Prop :=
  pool.returnedDeferrals sessionId sequence + ∑ w, (pool.workers w).claims sessionId sequence =
    pool.transcript.countP (isDeferral sessionId sequence)

section ClaimsReturned

variable {sessionId : SessionId} {sequence : ℕ} {w : Fin n} {worker : Worker}
  {observations : List Observation}

theorem Pool.initial_claimsReturned (inbox : BoundedBlockingQueue SessionEvent)
    (outbox : BoundedBlockingQueue OutboundMessage) :
    (Pool.initial n inbox outbox).ClaimsReturned sessionId sequence := by
  simp [Pool.ClaimsReturned, returnedDeferrals, Pool.initial, claims]

theorem Pool.ClaimsReturned.exchange (hclaims : pool.ClaimsReturned sessionId sequence)
    (hworkers : after.workers = update pool.workers w worker)
    (htranscript : after.transcript = pool.transcript ++ observations)
    (hbooks : after.returnedDeferrals sessionId sequence + worker.claims sessionId sequence =
      pool.returnedDeferrals sessionId sequence +
        (pool.workers w).claims sessionId sequence +
        observations.countP (isDeferral sessionId sequence)) :
    after.ClaimsReturned sessionId sequence := by
  have hsum := Accounting.sum_univ_update_add (claims sessionId sequence) pool.workers w worker
  unfold Pool.ClaimsReturned at hclaims ⊢
  rw [hworkers, htranscript, List.countP_append]
  omega

theorem Pool.ClaimsReturned.move (hclaims : pool.ClaimsReturned sessionId sequence)
    (hworkers : after.workers = update pool.workers w worker)
    (htranscript : after.transcript = pool.transcript ++ observations)
    (hdeferrals : after.deferrals = pool.deferrals) (hnext : after.nextDeferral = pool.nextDeferral)
    (hbooks : worker.claims sessionId sequence =
      (pool.workers w).claims sessionId sequence +
        observations.countP (isDeferral sessionId sequence)) :
    after.ClaimsReturned sessionId sequence := by
  apply hclaims.exchange hworkers htranscript
  unfold returnedDeferrals
  rw [hdeferrals, hnext, hbooks, add_assoc]

theorem Pool.ClaimsReturned.congr (hclaims : pool.ClaimsReturned sessionId sequence)
    (hworkers : after.workers = pool.workers)
    (htranscript : after.transcript = pool.transcript ++ observations)
    (hreturned : after.returnedDeferrals sessionId sequence =
      pool.returnedDeferrals sessionId sequence)
    (hnone : observations.countP (isDeferral sessionId sequence) = 0) :
    after.ClaimsReturned sessionId sequence := by
  unfold Pool.ClaimsReturned at hclaims ⊢
  rw [hworkers, htranscript, List.countP_append, hnone, hreturned, add_zero]
  exact hclaims

theorem Pool.returnedDeferrals_congr (hdeferrals : after.deferrals = pool.deferrals)
    (hnext : after.nextDeferral = pool.nextDeferral) :
    after.returnedDeferrals sessionId sequence = pool.returnedDeferrals sessionId sequence := by
  unfold returnedDeferrals
  rw [hdeferrals, hnext]

theorem Pool.returnedDeferrals_update (hid : id < pool.nextDeferral)
    (hdeferrals : after.deferrals = update pool.deferrals id deferral)
    (hnext : after.nextDeferral = pool.nextDeferral) :
    after.returnedDeferrals sessionId sequence + (pool.deferrals id).returned sessionId sequence =
      pool.returnedDeferrals sessionId sequence + deferral.returned sessionId sequence := by
  unfold returnedDeferrals
  rw [hdeferrals, hnext]
  exact Accounting.sum_update_add _ (returned sessionId sequence) _ (mem_range.mpr hid) deferral

theorem Pool.returnedDeferrals_call (hid : id < pool.nextDeferral)
    (hdeferrals : after.deferrals = update pool.deferrals id deferral)
    (hnext : after.nextDeferral = pool.nextDeferral)
    (hsame : deferral.returned sessionId sequence =
      (pool.deferrals id).returned sessionId sequence) :
    after.returnedDeferrals sessionId sequence = pool.returnedDeferrals sessionId sequence := by
  have hupdate : after.returnedDeferrals sessionId sequence +
        (pool.deferrals id).returned sessionId sequence =
      pool.returnedDeferrals sessionId sequence + deferral.returned sessionId sequence :=
    returnedDeferrals_update hid hdeferrals hnext
  omega

theorem completionStage_claims (event : SessionEvent) (ref : StateRef) :
    (turn event ref (completionStage event)).claims sessionId sequence = 0 := by
  rcases completionStage_cases event with hstage | ⟨_, hstage⟩ <;> rw [hstage] <;> rfl

theorem restart_claims (next : Option SessionEvent) (ref : StateRef) :
    ((restart next).worker ref).claims sessionId sequence = 0 := by
  cases next <;> rfl

theorem TurnMove.claims
    {stage next : TurnStage} (hmove : TurnMove state event stage next) (ref : StateRef) :
    (turn event ref next).claims sessionId sequence =
      (turn event ref stage).claims sessionId sequence := by
  cases hmove with
  | finish _ hplain =>
    simp [Worker.claims, WorkerSessionEventContext.deferred, hplain]
  | _ => rfl

theorem WorkerMove.claims {lossy : Bool} {before : SessionSequenceState} {old new : Worker}
    (hmove : WorkerMove config lossy before ref old new state observations) :
    new.claims sessionId sequence = old.claims sessionId sequence +
      observations.countP (isDeferral sessionId sequence) := by
  have hpublished : ∀ event, (∀ observation ∈ observations,
      observation.Publishes event) → observations.countP (isDeferral sessionId sequence) = 0 := by
    intro event hpublishes
    apply List.countP_eq_zero.mpr
    intro observation hmem
    obtain ⟨_, rfl⟩ := hpublishes observation hmem
    simp [isDeferral]
  cases hmove with
  | hand event _ _ _ _ hpublishes =>
    rw [hpublished event hpublishes]
    rfl
  | turn event _ _ _ hmove _ hpublishes =>
    rw [hpublished event hpublishes, hmove.claims, add_zero]
  | tryStart event disposition =>
    cases disposition with
    | process =>
      by_cases hkind : event.kind = .deferredCompletion
      · simp only [tryTask, tryLog, hkind, if_true, Task.worker]
        rw [completionStage_claims]
        rfl
      · simp only [tryTask, tryLog, hkind, if_false, Task.worker]
        rfl
    | _ => rfl
  | takePending => rw [restart_claims]; rfl
  | handlerReturn _ context =>
    cases hdeferred : context.deferred with
    | false => simp [claims, isDeferral, hdeferred]
    | true =>
      rw [if_pos rfl, Accounting.countP_singleton]
      simp [claims, isDeferral, hdeferred]
  | _ => rfl

theorem Pool.ClaimsReturned.finish (hclaims : pool.ClaimsReturned sessionId sequence)
    (hinv : pool.Invariant) {context : WorkerSessionEventContext}
    {inlineCompletion : Option SessionEvent}
    (hworker : pool.workers w = .turn event ref (.finishing context))
    (hid : context.deferral = some id) :
    ({ pool with
      deferrals := update pool.deferrals id
        { pool.deferrals id with handlerReturned := true, inlinePayload := none }
      }.setWorker w (.turn event ref (.publishing context.messages true
        inlineCompletion))).ClaimsReturned sessionId sequence := by
  obtain ⟨hlt, hsession, hsequence, hrunning, _⟩ :=
    hinv.deferrals.handling w event ref _ id hworker hid
  refine hclaims.exchange rfl (List.append_nil _).symm ?_
  have hupdate : ({ pool with
      deferrals := update pool.deferrals id
        { pool.deferrals id with handlerReturned := true, inlinePayload := none }
      }.setWorker w (.turn event ref (.publishing context.messages true
        inlineCompletion))).returnedDeferrals sessionId sequence + _ = _ :=
    returnedDeferrals_update hlt rfl rfl
  have hold : (pool.deferrals id).returned sessionId sequence = 0 := by
    simp [Deferral.returned, hrunning]
  have hdeferred : context.deferred = true := by
    simp [WorkerSessionEventContext.deferred, hid]
  have hnew : returned sessionId sequence
      { pool.deferrals id with handlerReturned := true, inlinePayload := none } =
        (Worker.turn event ref (.finishing context)).claims sessionId sequence := by
    simp [Deferral.returned, Deferral.concerns, Worker.claims, hsession, hsequence, hdeferred]
  rw [hworker, ← hnew]
  rw [hold] at hupdate
  exact hupdate

theorem Pool.ClaimsReturned.step (hclaims : pool.ClaimsReturned sessionId sequence)
    (hinv : pool.Invariant) (hstep : StepOutcome config pool after action) :
    after.ClaimsReturned sessionId sequence := by
  cases hstep with
  | push _ _ _ hafter | answer _ _ _ _ hafter =>
    subst hafter
    exact hclaims.congr rfl rfl rfl rfl
  | lookup w event _ hworker _ hafter =>
    obtain ⟨hdeferrals, hnext, htranscript⟩ := lookupOrCreate_keeps
      { pool with intake := none } event.sessionId
    have hworkers := lookupOrCreate_workers { pool with intake := none } event.sessionId
    subst hafter
    refine hclaims.move (congrArg (fun workers => update workers w _)
      hworkers) (congrArg (· ++ [Observation.popped event]) htranscript) hdeferrals
      hnext ?_
    rw [hworker]
    rfl
  | exit _ hworker _ _ hafter | crash _ _ _ _ hworker _ hafter =>
    subst hafter
    refine hclaims.move rfl (List.append_nil _).symm rfl rfl ?_
    rw [hworker]
    rfl
  | move _ _ _ _ hsection hafter =>
    obtain ⟨_, _, _, hmove, hacts⟩ := hsection.moved hafter
    exact hclaims.move hacts.workers hacts.transcript hacts.deferrals
      hacts.nextDeferral hmove.claims
  | finish _ _ _ _ _ hworker hid hafter =>
    subst hafter
    exact hclaims.finish hinv hworker hid
  | markDeferred _ _ _ _ _ _ hworker _ hafter =>
    subst hafter
    refine hclaims.move rfl (List.append_nil _).symm rfl rfl ?_
    rw [hworker, restart_claims]
    rfl
  | ending w event ref hworker hafter =>
    have hended := pool.turnEnded_completeSessionTurn w event ref
    subst hafter
    refine hclaims.move (congrArg (fun workers => update workers w _)
      hended.workers) hended.transcript hended.deferrals hended.nextDeferral ?_
    rw [hworker, restart_claims]
    rfl
  | defer _ event _ _ hworker hafter =>
    subst hafter
    refine hclaims.exchange rfl (List.append_nil _).symm ?_
    have hold : ∑ id ∈ range pool.nextDeferral,
        (update pool.deferrals pool.nextDeferral
          { sessionId := event.sessionId, sequence := event.sequence } id).returned
            sessionId sequence =
          pool.returnedDeferrals sessionId sequence := by
      apply sum_congr rfl
      intro _ hid
      rw [update_of_ne (mem_range.mp hid).ne]
    rw [hworker]
    unfold returnedDeferrals
    simp only [setWorker, sum_range_succ, hold, update_self]
    rfl
  | complete _ _ hid _ _ hafter =>
    subst hafter
    exact hclaims.congr rfl (List.append_nil _).symm (returnedDeferrals_call hid rfl rfl rfl) rfl
  | completeInline _ _ hid _ _ hafter | pushCompletion _ _ hid _ _ hafter
  | refuseCompletion _ _ hid _ _ hafter =>
    subst hafter
    exact hclaims.congr rfl rfl (returnedDeferrals_call hid rfl rfl rfl) rfl
  | outside _ houtside =>
    have hunmoved := houtside.unmoved
    exact hclaims.congr hunmoved.workers
      (by rw [hunmoved.transcript, List.append_nil])
      (returnedDeferrals_congr hunmoved.deferrals hunmoved.nextDeferral) rfl

end ClaimsReturned

/-! ## The counter and the sessions that wait -/

/-- A state that the map has dropped is closed and waits for nothing. -/
def Pool.StaleSettled (pool : Pool n) : Prop :=
  ∀ ref, ref < pool.nextRef → pool.current (pool.owner ref) ≠ some ref →
    (pool.states ref).closed = true ∧ (pool.states ref).awaitingCompletion = false

theorem Pool.initial_staleSettled (inbox : BoundedBlockingQueue SessionEvent)
    (outbox : BoundedBlockingQueue OutboundMessage) :
    (Pool.initial n inbox outbox).StaleSettled := by
  intro _ hlt
  simp [Pool.initial] at hlt

theorem Pool.StaleSettled.congr (hstale : pool.StaleSettled)
    (hstates : after.states = pool.states) (howner : after.owner = pool.owner)
    (hnext : after.nextRef = pool.nextRef)
    (hmap : after.sequenceBySession = pool.sequenceBySession) : after.StaleSettled := by
  unfold Pool.StaleSettled Pool.current at hstale ⊢
  rw [hstates, howner, hnext, hmap]
  exact hstale

theorem Pool.StaleSettled.update (hstale : pool.StaleSettled)
    (hcurrent : pool.current (pool.owner ref) = some ref)
    (hstates : after.states = update pool.states ref state)
    (howner : after.owner = pool.owner) (hnext : after.nextRef = pool.nextRef)
    (hmap : after.sequenceBySession = pool.sequenceBySession) : after.StaleSettled := by
  intro other hlt hgone
  have hne : other ≠ ref := by
    rintro rfl
    apply hgone
    unfold Pool.current
    rw [hmap, howner]
    exact hcurrent
  rw [hstates, update_of_ne hne]
  apply hstale other (hnext ▸ hlt)
  unfold Pool.current at hgone ⊢
  rwa [hmap, howner] at hgone

theorem Pool.StaleSettled.lookupOrCreate (hstale : pool.StaleSettled)
    (sessionId : SessionId) : (pool.lookupOrCreate sessionId).2.StaleSettled := by
  unfold Pool.lookupOrCreate
  cases hlookup : pool.sequenceBySession.lookup sessionId with
  | some => exact hstale
  | none =>
    intro ref hlt hgone
    unfold Pool.current at hgone
    simp only at hlt hgone ⊢
    by_cases href : ref = pool.nextRef
    · rw [href, update_self, lookup_insert] at hgone
      exact absurd rfl hgone
    · rw [update_of_ne href] at hgone ⊢
      apply hstale ref (by omega)
      unfold Pool.current
      by_cases howner : pool.owner ref = sessionId
      · rw [howner, hlookup]
        simp
      · rwa [lookup_insert_of_ne _ howner] at hgone

theorem Pool.StaleSettled.ending (hstale : pool.StaleSettled) (hinv : pool.Invariant) {w : Fin n}
    (hworker : pool.workers w = .turn event ref .ending)
    (hended : pool.TurnEnded after event ref) : after.StaleSettled := by
  have hcurrent := hinv.refs.turn w event ref _ hworker
  have howner := (hinv.refs.current _ _ hcurrent).2
  cases hdisconnect : (pool.states ref).activeDisconnect with
  | false =>
    have hmap := hended.sequenceBySession
    rw [hdisconnect] at hmap
    exact hstale.update (howner ▸ hcurrent) hended.states hended.owner hended.nextRef hmap
  | true =>
    intro other hlt hgone
    rw [hended.states]
    by_cases hother : other = ref
    · rw [hother, update_self]
      have hend := turnEnd_endSessionTurn (pool.states ref)
      generalize (endSessionTurn (pool.states ref)).1 = next at hend
      generalize (endSessionTurn (pool.states ref)).2 = state at hend ⊢
      cases hend with
      | disconnected => exact ⟨rfl, rfl⟩
      | failed hopen | nothingParked hopen | unparked _ hopen => simp [hdisconnect] at hopen
    · rw [update_of_ne hother]
      apply hstale other (hended.nextRef ▸ hlt)
      intro hstill
      by_cases hsession : pool.owner other = event.sessionId
      · rw [hsession, hcurrent] at hstill
        exact hother (Option.some.inj hstill).symm
      · apply hgone
        rw [hended.owner, hended.current_of_ne hsession]
        exact hstill

theorem Pool.StaleSettled.step (hstale : pool.StaleSettled) (hinv : pool.Invariant)
    (hstep : StepOutcome config pool after action) : after.StaleSettled := by
  cases hstep with
  | lookup _ event _ _ _ hafter =>
    have hpopped : { pool with intake := none }.StaleSettled := hstale
    subst hafter
    exact (hpopped.lookupOrCreate event.sessionId).congr rfl rfl rfl rfl
  | move w ref _ _ hsection hafter =>
    obtain ⟨worker, state, _, hmove, hacts⟩ := hsection.moved hafter
    by_cases hcurrent : pool.current (pool.owner ref) = some ref
    · exact hstale.update hcurrent hacts.states hacts.owner hacts.nextRef hacts.sequenceBySession
    · -- A worker that refers to a dropped state leaves it as it is.
      rcases hmove.serves with ⟨event, stage, hworker⟩ | ⟨event, stage, hworker⟩
      · have hlt := (hinv.refs.hand w event ref stage hworker).1
        rw [hworker] at hmove
        have hsame := (hmove.ofClosed (hstale ref hlt hcurrent).1).1
        apply hstale.congr _ hacts.owner hacts.nextRef hacts.sequenceBySession
        rw [hacts.states, hsame, update_eq_self]
      · have hturn := hinv.refs.turn w event ref stage hworker
        rw [← (hinv.refs.current _ _ hturn).2] at hturn
        exact absurd hturn hcurrent
  | markDeferred w event ref _ _ _ hworker _ hafter =>
    have hcurrent := hinv.refs.turn w event ref _ hworker
    rw [← (hinv.refs.current _ _ hcurrent).2] at hcurrent
    subst hafter
    exact hstale.update hcurrent rfl rfl rfl rfl
  | ending w event ref hworker hafter =>
    have hended := pool.turnEnded_completeSessionTurn w event ref
    have hsettled := hstale.ending hinv hworker hended
    subst hafter
    exact hsettled.congr rfl rfl rfl rfl
  | outside _ houtside =>
    have hunmoved := houtside.unmoved
    exact hstale.congr hunmoved.states hunmoved.owner hunmoved.nextRef hunmoved.sequenceBySession
  | push _ _ _ hafter | exit _ _ _ _ hafter | finish _ _ _ _ _ _ _ hafter
  | crash _ _ _ _ _ _ hafter | defer _ _ _ _ _ hafter | complete _ _ _ _ _ hafter
  | completeInline _ _ _ _ _ hafter | answer _ _ _ _ hafter | pushCompletion _ _ _ _ _ hafter
  | refuseCompletion _ _ _ _ _ hafter => subst hafter; exact hstale

/-- The sessions in the map whose turn waits for its completion. -/
def Pool.awaitingSessions (pool : Pool n) : Finset SessionId :=
  pool.sequenceBySession.keys.filter fun sessionId =>
    (pool.stateOf sessionId).awaitingCompletion = true

theorem Pool.CountsAwaiting.eq_card (hcounts : pool.CountsAwaiting)
    (hstale : pool.StaleSettled) (hinv : pool.Invariant) :
    pool.outstandingDeferred = pool.awaitingSessions.card := by
  have hcurrent : ∀ ref, ref < pool.nextRef →
      (pool.states ref).awaitingCompletion = true → pool.current (pool.owner ref) = some ref := by
    intro ref hlt hawaits
    by_contra hgone
    have hnot := (hstale ref hlt hgone).2
    simp [hawaits] at hnot
  have hrefs : pool.outstandingDeferred =
      ((range pool.nextRef).filter fun ref =>
        (pool.states ref).awaitingCompletion = true).card := by
    rw [hcounts, card_filter]
    apply sum_congr rfl
    intro ref _
    unfold SessionSequenceState.awaits
    cases (pool.states ref).awaitingCompletion <;> rfl
  rw [hrefs]
  apply card_bij fun ref _ => pool.owner ref
  · intro ref hmem
    obtain ⟨hlt, hawaits⟩ := mem_filter.mp hmem
    have hthis := hcurrent ref (mem_range.mp hlt) hawaits
    apply mem_filter.mpr
    constructor
    · rw [mem_keys, mem_iff]
      exact ⟨ref, hthis⟩
    · rw [stateOf_of_current hthis]
      exact hawaits
  · intro first hfirst second hsecond howner
    obtain ⟨hlt, hawaits⟩ := mem_filter.mp hfirst
    obtain ⟨hlt', hawaits'⟩ := mem_filter.mp hsecond
    have hthis := hcurrent first (mem_range.mp hlt) hawaits
    have hthat := hcurrent second (mem_range.mp hlt') hawaits'
    rw [howner, hthat] at hthis
    exact (Option.some.inj hthis).symm
  · intro sessionId hmem
    obtain ⟨hkey, hawaits⟩ := mem_filter.mp hmem
    rw [mem_keys, mem_iff] at hkey
    obtain ⟨ref, hlookup⟩ := hkey
    obtain ⟨hlt, howner⟩ := hinv.refs.current sessionId ref hlookup
    rw [stateOf_of_current hlookup] at hawaits
    exact ⟨ref, mem_filter.mpr ⟨mem_range.mpr hlt, hawaits⟩, howner⟩

/-! ## Whole runs -/

/-- What a run keeps as long as the inbox is open and nobody forces a stop. -/
structure SessionView.DeferralsKept (view : SessionView n) : Prop where
  kept : view.CompletionsKept
  early : view.state.EarlyFits
  ledger : ∀ sequence, view.DeferralLedger sequence

structure Pool.TracksDeferrals (pool : Pool n) : Prop where
  sound : pool.Sound
  counts : pool.CountsAwaiting
  stale : pool.StaleSettled
  answers : pool.AnswersOnce
  claims : ∀ sessionId sequence, pool.ClaimsReturned sessionId sequence
  sessions : pool.lossy = false → ∀ sessionId, (pool.view sessionId).DeferralsKept

theorem Pool.initial_tracksDeferrals {inbox : BoundedBlockingQueue SessionEvent}
    (outbox : BoundedBlockingQueue OutboundMessage) (hempty : inbox.items = []) :
    (Pool.initial n inbox outbox).TracksDeferrals := by
  constructor
  · exact initial_sound outbox hempty
  · exact initial_countsAwaiting inbox outbox
  · exact initial_staleSettled inbox outbox
  · exact initial_answersOnce inbox outbox
  · intro sessionId _
    exact initial_claimsReturned inbox outbox
  · intro _ sessionId
    rw [initial_view inbox outbox hempty]
    constructor
    · exact initial_completionsKept n sessionId
    · intro _
      rfl
    · exact initial_deferralLedger n sessionId

/-- The flags of a stop are never taken back. -/
theorem Pool.lossless_before {action : Action n}
    (hstep : pool.step config action = some after) (hlossless : after.lossy = false) :
    pool.lossy = false := by
  simp only [lossy, Bool.or_eq_false_iff] at hlossless ⊢
  have hforced := unforced_before hstep hlossless.1
  apply And.intro hforced
  by_contra hclosed
  have hstill := (stops_step hstep).closed (Bool.eq_true_of_not_eq_false hclosed)
  simp [hlossless.2] at hstill

theorem Pool.TracksDeferrals.step (htracks : pool.TracksDeferrals) {action : Action n}
    (hstep : pool.step config action = some after) : after.TracksDeferrals := by
  have hcases := outcome hstep
  have hinv := htracks.sound.invariant
  constructor
  · exact htracks.sound.step hcases
  · exact htracks.counts.step hinv hcases
  · exact htracks.stale.step hinv hcases
  · exact htracks.answers.step hinv hcases
  · intro sessionId sequence
    exact (htracks.claims sessionId sequence).step hinv hcases
  · intro hlossless sessionId
    have hbefore := lossless_before hstep hlossless
    have hkept := htracks.sessions hbefore sessionId
    rcases hinv.simulates hcases sessionId with hsame | hsession
    · rw [hsame]
      exact hkept
    · rw [hbefore] at hsession
      have hturns := hinv.turns sessionId
      constructor
      · exact hkept.kept.step hturns hsession
      · exact hsession.earlyFits hkept.early
      · intro sequence
        exact (hkept.ledger sequence).step hkept.kept hturns hsession

theorem Pool.Reachable.tracksDeferrals (hreach : pool.Reachable config) : pool.TracksDeferrals := by
  obtain ⟨_, outbox, hempty, _, hreaches⟩ := hreach
  apply hreaches.invariant (initial_tracksDeferrals outbox hempty)
  intro _ _ _ htracks _ hstep
  exact htracks.step hstep

/-! ## Nothing under way -/

/-- No event is queued, all workers wait for work and no call of a completion is
under way. -/
structure Pool.Still (pool : Pool n) : Prop where
  empty : pool.queued = []
  popping : ∀ w, pool.workers w = .popping
  calls : ∀ id, (pool.deferrals id).pushing = none

def Pool.processedCompletions (pool : Pool n) (sessionId : SessionId)
    (sequence : ℕ) : ℕ :=
  (processed (pool.transcript.of sessionId)).countP (hasNumber sequence)

/-- The deferrals for this event whose handler returned and on which a call
was made. -/
def Pool.calledDeferrals (pool : Pool n) (sessionId : SessionId) (sequence : ℕ) : ℕ :=
  ∑ id ∈ range pool.nextDeferral,
    ((pool.deferrals id).completed && (pool.deferrals id).handlerReturned &&
      (pool.deferrals id).concerns sessionId sequence).toNat

theorem Transcript.countP_isDeferral (transcript : Transcript) (sessionId : SessionId)
    (sequence : ℕ) :
    transcript.countP (isDeferral sessionId sequence) =
      (Transcript.deferred (transcript.of sessionId)).countP (hasNumber sequence) := by
  unfold Transcript.deferred Transcript.of
  rw [List.countP_filterMap, List.countP_filter]
  apply List.countP_congr
  intro observation _
  cases observation with
  | returned _ outcome =>
    cases outcome <;>
      simp [isDeferral, Observation.deferred?, Observation.sessionId, hasNumber, and_comm]
  | _ => simp [isDeferral, Observation.deferred?]

theorem Pool.count_callableOf (hstill : pool.Still) (sessionId : SessionId) (sequence : ℕ) :
    pool.calledDeferrals sessionId sequence + (pool.callableOf sessionId).count sequence =
      pool.returnedDeferrals sessionId sequence := by
  unfold calledDeferrals callableOf returnedDeferrals
  rw [Multiset.count_sum', ← sum_add_distrib]
  apply sum_congr rfl
  intro id _
  have hpushing := hstill.calls id
  unfold Deferral.callable Deferral.isCallable Deferral.returned Deferral.concerns
  rw [hpushing]
  by_cases hsession : (pool.deferrals id).sessionId = sessionId
  · by_cases hsequence : (pool.deferrals id).sequence = sequence
    · cases (pool.deferrals id).completed <;> cases (pool.deferrals id).handlerReturned <;>
        simp [hsession, hsequence]
    · cases (pool.deferrals id).completed <;> cases (pool.deferrals id).handlerReturned <;>
        simp [hsession, beq_false_of_ne hsequence, Ne.symm hsequence]
  · simp [hsession, beq_false_of_ne hsession]

theorem Pool.TracksDeferrals.settled (htracks : pool.TracksDeferrals)
    (hlossless : pool.lossy = false) (hstill : pool.Still) (sessionId : SessionId) (sequence : ℕ) :
    pool.processedCompletions sessionId sequence = pool.calledDeferrals sessionId sequence := by
  have hkept := htracks.sessions hlossless sessionId
  have hinv := htracks.sound.invariant.turns sessionId
  have hidle : ∀ w, (pool.view sessionId).tasks w = .idle := by
    intro w
    rw [view_tasks, hstill.popping w]
    rfl
  have hweigh : ∀ weight : Task → ℕ, weight .idle = 0 → (pool.view sessionId).weigh weight = 0 := by
    intro _ hzero
    apply sum_eq_zero
    intro w _
    rw [hidle w, hzero]
  have hearly : (pool.view sessionId).state.earlyCompletion = none := by
    cases hactive : (pool.view sessionId).state.active with
    | false => exact early_of_tokens (hinv.inactive hactive).2.2
    | true =>
      cases hawaiting : (pool.view sessionId).state.awaitingCompletion with
      | true => exact hkept.early hawaiting
      | false =>
        have hone := (hinv.running hactive hawaiting).1
        rw [hweigh Task.turns rfl] at hone
        simp at hone
  have howed := (hkept.ledger sequence).owed
  have hqueue : (pool.view sessionId).queue = [] := by
    simp [Pool.view, hstill.empty]
  unfold completions at howed
  rw [hqueue, hearly, hweigh _ rfl] at howed
  have hclaims := htracks.claims sessionId sequence
  have hworkers : ∑ w, (pool.workers w).claims sessionId sequence = 0 := by
    apply sum_eq_zero
    intro w _
    rw [hstill.popping w]
    rfl
  unfold Pool.ClaimsReturned at hclaims
  rw [hworkers, countP_isDeferral] at hclaims
  have hcallable := count_callableOf hstill sessionId sequence
  change (Transcript.deferred (pool.transcript.of sessionId)).countP _ =
    pool.processedCompletions sessionId sequence +
      (0 + 0 + 0 + (pool.callableOf sessionId).count sequence) at howed
  omega

/-! ## The result -/

/-- What completing a deferral once means, in a pool that nobody forces to stop
and whose inbox is open. -/
structure Pool.CompletesOnce (pool : Pool n) : Prop where
  /-- Of all calls on one deferral at most one returns true. -/
  answers : ∀ id, pool.transcript.countP (isAcceptedCall id) ≤ 1
  /-- A completion is processed in the turn of its own event, whose handler has
  returned with a deferral and not been completed since. -/
  owned : ∀ {before rest : Transcript} {completion : SessionEvent},
    pool.transcript = before ++ .processed completion :: rest →
      ∃ earlier event asides, Completes completion event ∧
        Transcript.of before completion.sessionId = earlier ++ .returned event .deferred :: asides ∧
        ∀ observation ∈ asides, observation.isAside = true
  /-- With nothing under way as many completions have been processed as there
  are deferrals whose handler returned and that were called. -/
  settled : pool.Still → ∀ sessionId sequence,
    pool.processedCompletions sessionId sequence = pool.calledDeferrals sessionId sequence
  /-- With the numbers 0, 1, 2, ... the number tells the deferrals of a session
  apart. -/
  once : ∀ id < pool.nextDeferral,
    Transcript.Contiguous (pool.transcript.of (pool.deferrals id).sessionId) →
      pool.processedCompletions (pool.deferrals id).sessionId (pool.deferrals id).sequence ≤ 1 ∧
        (pool.Still → (pool.deferrals id).handlerReturned = true →
          (pool.deferrals id).completed = true →
            pool.processedCompletions (pool.deferrals id).sessionId
              (pool.deferrals id).sequence = 1) ∧
        ((∃ event, event.sessionId = (pool.deferrals id).sessionId ∧
            event.sequence = (pool.deferrals id).sequence ∧
            .returned event .threw ∈ pool.transcript) →
          pool.processedCompletions (pool.deferrals id).sessionId (pool.deferrals id).sequence = 0)

/-- The counter of the pool and the checks of the source that guard it. -/
structure Pool.CountsDeferrals (pool : Pool n) : Prop where
  outstanding : pool.outstandingDeferred = pool.awaitingSessions.card
  /-- The end of a turn with a completion finds something to take off. -/
  noUnderflow : ∀ w event ref, pool.workers w = .turn event ref .ending →
    event.kind = .deferredCompletion → 0 < pool.outstandingDeferred
  noLogicError : ∀ w event ref inlineCompletion,
    pool.workers w = .turn event ref (.deferring inlineCompletion) →
      markSessionDeferred event (pool.states ref) ≠ none

theorem Pool.TracksDeferrals.countsDeferrals (htracks : pool.TracksDeferrals) :
    pool.CountsDeferrals := by
  have hinv := htracks.sound.invariant
  have hcard := htracks.counts.eq_card htracks.stale hinv
  constructor
  · exact hcard
  · intro w event ref hworker hkind
    have hcurrent := hinv.refs.turn w event ref _ hworker
    have hopen := (hinv.turns event.sessionId).turnOpen (view_of_turn hworker hcurrent)
    rw [hcard, card_pos]
    refine ⟨event.sessionId, mem_filter.mpr ⟨?_, hopen.awaiting.mp hkind⟩⟩
    rw [mem_keys, mem_iff]
    exact ⟨ref, hcurrent⟩
  · intro w _ _ _ hworker
    exact hinv.markSessionDeferred_ne_none hworker

/-- A session without gaps calls one handler for each number. -/
theorem SessionView.Sound.invoked_le_one {view : SessionView n} (hsound : view.Sound)
    (hcontiguous : Transcript.Contiguous view.log) (sequence : ℕ) :
    (invoked view.log).countP (hasNumber sequence) ≤ 1 := by
  have hordered := (hsound.order hcontiguous).ordered.sublist
    (hsound.service.invoked.map SessionEvent.sequence)
  have hnodup : ((invoked view.log).map SessionEvent.sequence).Nodup :=
    hordered.imp fun hlt => hlt.ne
  have hcount := List.nodup_iff_count_le_one.mp hnodup sequence
  rwa [List.count, List.countP_map] at hcount

theorem Transcript.mem_of {transcript : Transcript} {observation : Observation}
    {sessionId : SessionId} (hmem : observation ∈ transcript)
    (hsession : observation.sessionId = sessionId) :
    observation ∈ Transcript.of transcript sessionId :=
  List.mem_filter.mpr ⟨hmem, by simp [hsession]⟩

theorem Pool.TracksDeferrals.completesOnce (htracks : pool.TracksDeferrals)
    (hlossless : pool.lossy = false) : pool.CompletesOnce := by
  constructor
  · intro id
    have hanswers := htracks.answers.answers id
    have hle := Bool.toNat_le (pool.deferrals id).completed
    omega
  · intro before rest completion htranscript
    have hview := htracks.sound.sessions completion.sessionId
    have hbroken := hview.phases.notBroken hview.turns
    have hlog : (pool.view completion.sessionId).log =
        Transcript.of before completion.sessionId ++
          .processed completion :: Transcript.of rest completion.sessionId := by
      change Transcript.of pool.transcript completion.sessionId = _
      rw [htranscript, of_append]
      simp [Transcript.of, Observation.sessionId]
    unfold phase at hbroken
    rw [hlog] at hbroken
    obtain ⟨event, hwaiting, hcompletes⟩ := TurnPhase.waiting_of_processed hbroken
    obtain ⟨earlier, asides, hsplit, hasides⟩ := TurnPhase.returned_of_waiting hwaiting
    exact ⟨earlier, event, asides, hcompletes, hsplit, hasides⟩
  · exact htracks.settled hlossless
  · intro id hid hcontiguous
    have hsound := htracks.sound.sessions (pool.deferrals id).sessionId
    have hledger := (htracks.sessions hlossless (pool.deferrals id).sessionId).ledger
      (pool.deferrals id).sequence
    have hinvoked := hsound.invoked_le_one hcontiguous (pool.deferrals id).sequence
    have hreturned := hledger.returned_le
    have hprocessed := hledger.processed_le
    have hdeferred := deferred_le_returned
      (pool.view (pool.deferrals id).sessionId).log (pool.deferrals id).sequence
    have hle : pool.processedCompletions (pool.deferrals id).sessionId
        (pool.deferrals id).sequence ≤ 1 := by
      change (processed (pool.view (pool.deferrals id).sessionId).log).countP _ ≤ 1
      omega
    refine ⟨hle, ?_, ?_⟩
    · intro hstill hhandler hcompleted
      have hsettled := htracks.settled hlossless hstill (pool.deferrals id).sessionId
        (pool.deferrals id).sequence
      have hpos : 1 ≤ pool.calledDeferrals (pool.deferrals id).sessionId
          (pool.deferrals id).sequence := by
        have hone : ((pool.deferrals id).completed && (pool.deferrals id).handlerReturned &&
            (pool.deferrals id).concerns (pool.deferrals id).sessionId
              (pool.deferrals id).sequence).toNat = 1 := by
          simp [hcompleted, hhandler, concerns]
        rw [← hone]
        exact single_le_sum (f := fun other =>
          ((pool.deferrals other).completed && (pool.deferrals other).handlerReturned &&
            (pool.deferrals other).concerns (pool.deferrals id).sessionId
              (pool.deferrals id).sequence).toNat)
          (fun _ _ => Nat.zero_le _) (mem_range.mpr hid)
      omega
    · rintro ⟨event, hsession, hsequence, hthrew⟩
      have hlogged : .returned event .threw ∈
          Transcript.of pool.transcript (pool.deferrals id).sessionId :=
        mem_of hthrew hsession
      have hlt := deferred_lt_returned hlogged
      rw [hsequence] at hlt
      change _ < (returned (pool.view (pool.deferrals id).sessionId).log).countP _ at hlt
      change (Transcript.deferred (pool.view (pool.deferrals id).sessionId).log).countP _ < _ at hlt
      change (processed (pool.view (pool.deferrals id).sessionId).log).countP _ = 0
      omega

theorem Pool.deferrals_complete_once (hreach : pool.Reachable config) :
    pool.CountsDeferrals ∧ (pool.lossy = false → pool.CompletesOnce) :=
  ⟨hreach.tracksDeferrals.countsDeferrals, hreach.tracksDeferrals.completesOnce⟩

/-- The handler defers and returns; afterwards its completion is called twice. -/
def calledTwiceRun : List (Action 1) :=
  [.push (packetEvent 1 0)] ++ works sole 6 ++ [.defer sole, .handlerReturn sole] ++
    works sole 3 ++ [.complete 0 { failed := false, messages := [] },
      .complete 0 { failed := true, messages := [] }, .pushCompletion 0] ++ works sole 8

theorem deferrals_complete_once_calledTwiceRun :
    ∃ pool : Pool 1, pool.Reachable smallConfig ∧
      pool.processedCompletions 1 0 = 1 ∧
      pool.transcript.countP (isAcceptedCall 0) = 1 ∧
      pool.CountsDeferrals ∧ pool.CompletesOnce := by
  obtain ⟨pool, hreach, houtcome⟩ := smallPool_reachedBy (fun _ _ => True) calledTwiceRun
    (fun pool => pool.processedCompletions 1 0 == 1 &&
      pool.transcript.countP (isAcceptedCall 0) == 1 && !pool.lossy)
    (by simp) (by decide)
  simp only [Bool.and_eq_true, beq_iff_eq, Bool.not_eq_true'] at houtcome
  obtain ⟨⟨hprocessed, haccepted⟩, hlossless⟩ := houtcome
  have hresult := deferrals_complete_once hreach
  exact ⟨pool, hreach, hprocessed, haccepted, hresult.1, hresult.2 hlossless⟩

/-- The event is deferred, and its completion is called and processed. -/
def deferredRun (event : SessionEvent) (id : DeferralId) : List (Action 1) :=
  [.push event] ++ works sole 6 ++ [.defer sole, .handlerReturn sole] ++ works sole 3 ++
    [.complete id { failed := false, messages := [] }, .pushCompletion id] ++ works sole 8

/-- After its Disconnected a session starts again with number 0, so a number
alone does not tell the deferrals of a session apart. -/
theorem number_completed_twice :
    ∃ pool : Pool 1, pool.Reachable smallConfig ∧ pool.lossy = false ∧
      pool.processedCompletions 1 0 = 2 := by
  obtain ⟨pool, hreach, houtcome⟩ := smallPool_reachedBy (fun _ _ => True)
    (deferredRun (disconnectedEvent 1 0) 0 ++ deferredRun (packetEvent 1 0) 1)
    (fun pool => !pool.lossy && pool.processedCompletions 1 0 == 2) (by simp) (by decide)
  simp only [Bool.and_eq_true, beq_iff_eq, Bool.not_eq_true'] at houtcome
  exact ⟨pool, hreach, houtcome⟩

end SessionServer.WorkerPool
