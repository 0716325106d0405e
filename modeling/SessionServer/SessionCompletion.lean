import SessionServer.SessionStageInvariant

/-!
# No completion of a session gets lost

A turn that waits for its completion is always seen to: the completion is
still to be called, on its way through the inbox, or with a worker.  This is
the reverse of the bounds in the turn invariant; it holds as long as no
completion is refused and no worker drops what it holds.
-/

namespace SessionServer.WorkerPool

open SessionView SessionEvent TurnStage SameTurn WorkerPool.Task

variable {n : ℕ}
variable {event : SessionEvent} {stage : HandStage}

/-- The event will not run in this worker's hand. -/
def HandStage.isRejecting : HandStage → Bool
  | .discarding => true
  | .failing _ => true
  | .disconnecting => true
  | .takingPending => true
  | _ => false

theorem restart_isRejecting {next : Option SessionEvent}
    (htask : restart next = .hand event stage) :
    stage.isRejecting = false := by
  cases next with
  | none => simp [restart] at htask
  | some =>
    cases htask
    rfl

theorem restart_deferrals (next : Option SessionEvent) : (restart next).deferrals = 0 := by
  cases next <;> rfl

structure SessionView.CompletionsKept (view : SessionView n) : Prop where
  rejecting : ∀ w event stage, view.tasks w = .hand event stage →
    stage.isRejecting = true → event.kind ≠ .deferredCompletion
  running : view.state.active = true → view.state.awaitingCompletion = false →
    view.weigh deferrals ≤ view.tokens + view.weigh inlined
  awaiting : view.state.active = true → view.state.awaitingCompletion = true →
    1 ≤ view.weigh turns + view.tokens

theorem SessionView.initial_completionsKept (n : ℕ) (sessionId : SessionId) :
    (SessionView.initial n sessionId).CompletionsKept := by
  constructor <;> simp [SessionView.initial]

/-- A completion in a worker's hand belongs to the turn in progress. -/
theorem SessionView.TurnInvariant.completion_in_hand {view : SessionView n}
    (hinv : view.TurnInvariant) {w : Fin n} (htask : view.tasks w = .hand event stage)
    (hkind : event.kind = .deferredCompletion) :
    view.state.active = true ∧ view.state.nextSequence = event.sequence ∧
      (view.state.awaitingCompletion = true ∨ view.state.earlyCompletion = none) := by
  have hheld : 1 ≤ view.completionsInHand := by
    have hle := view.le_weigh (holds isCompletion) w
    have hcompletion : event.isCompletion = true := by
      simp [isCompletion, hkind]
    rw [htask, holds_hand, hcompletion] at hle
    exact hle
  have htokens := view.completionsInHand_le_tokens
  have hactive : view.state.active = true := by
    by_contra hinactive
    have hzero := (hinv.inactive (by simpa using hinactive)).2.2
    omega
  have hsequence : view.state.nextSequence = event.sequence := by
    have hfits := hinv.tasks w
    rw [htask] at hfits
    exact (hfits hkind).symm
  refine ⟨hactive, hsequence, ?_⟩
  cases hawaiting : view.state.awaitingCompletion with
  | true => exact .inl rfl
  | false =>
    right
    obtain ⟨_, hle⟩ := hinv.running hactive hawaiting
    have hdeferrals : view.weigh deferrals ≤ view.weigh turns := by
      apply Finset.sum_le_sum
      intro other _
      cases view.tasks other with
      | turn => exact Bool.toNat_le _
      | _ => exact Nat.le_refl 0
    cases hearly : view.state.earlyCompletion with
    | none => rfl
    | some =>
      unfold tokens at hle
      rw [hearly, Option.isSome_some, Bool.toNat_true] at hle
      omega

section Exchange

variable {view : SessionView n} {w : Fin n} {state : SessionSequenceState}
  {task : Task} {observations : List Observation}

theorem SessionView.CompletionsKept.rejecting_advance (hkept : view.CompletionsKept)
    (hrejecting : ∀ event stage, task = .hand event stage →
      stage.isRejecting = true → event.kind ≠ .deferredCompletion) :
    ∀ v event stage, Function.update view.tasks w task v = .hand event stage →
      stage.isRejecting = true → event.kind ≠ .deferredCompletion := by
  intro v event stage htask
  by_cases hvw : v = w
  · subst hvw
    rw [Function.update_self] at htask
    exact hrejecting event stage htask
  · rw [Function.update_of_ne hvw] at htask
    exact hkept.rejecting v event stage htask

section SameTurn

variable (hkept : view.CompletionsKept) (hsame : SameTurn view.state state)
    (hearly : state.earlyCompletion = view.state.earlyCompletion)
include hkept hsame hearly

/-- One worker moves on and gives no completion away. -/
theorem SessionView.CompletionsKept.exchange
    (hrejecting : ∀ event stage, task = .hand event stage →
      stage.isRejecting = true → event.kind ≠ .deferredCompletion)
    (htotal : (view.tasks w).turns + (view.tasks w).holds isCompletion ≤
      task.turns + task.holds isCompletion)
    (htokens : view.state.awaitingCompletion = false →
      (view.tasks w).holds isCompletion + (view.tasks w).inlined + task.deferrals ≤
        task.holds isCompletion + task.inlined + (view.tasks w).deferrals) :
    ({ view with state := state }.advance w task observations).CompletionsKept := by
  have hweigh :=
    view.exchanged { view with state := state } rfl (rfl : view.tasks w = _) task observations
  have hsum := hweigh.tokens_of_kept rfl hearly rfl
  constructor
  · exact hkept.rejecting_advance hrejecting
  · intro hactive hawaiting
    rw [advance_state, hsame.active] at hactive
    rw [advance_state, hsame.awaitingCompletion] at hawaiting
    have hold := hkept.running hactive hawaiting
    have hchange := htokens hawaiting
    have hinlined := hweigh.inlined
    have hdeferrals := hweigh.deferrals
    omega
  · intro hactive hawaiting
    rw [advance_state, hsame.active] at hactive
    rw [advance_state, hsame.awaitingCompletion] at hawaiting
    have hold := hkept.awaiting hactive hawaiting
    have hturns := hweigh.turns
    omega

theorem SessionView.CompletionsKept.handMove {next : HandStage}
    (htask : view.tasks w = .hand event stage)
    (hrejecting : next.isRejecting = true → stage.isRejecting = true ∨
      event.kind ≠ .deferredCompletion) :
    ({ view with state := state }.advance w (.hand event next) observations).CompletionsKept := by
  apply hkept.exchange hsame hearly
  · intro _ _ heq hstage
    cases heq
    rcases hrejecting hstage with hold | hkind
    · exact hkept.rejecting w event stage htask hold
    · exact hkind
  · simp [htask]
  · intro _
    simp [htask]

theorem SessionView.CompletionsKept.drop (htask : view.tasks w = .hand event stage)
    (hkind : event.kind ≠ .deferredCompletion)
    (hnext : ∀ other otherStage, task = .hand other otherStage → otherStage.isRejecting = false)
    (hdeferrals : task.deferrals = 0) :
    ({ view with state := state }.advance w task observations).CompletionsKept := by
  have hcompletion : event.isCompletion = false := by
    simpa [isCompletion] using hkind
  apply hkept.exchange hsame hearly
  · intro other otherStage heq hstage
    simp [hnext other otherStage heq] at hstage
  · simp [htask, hcompletion]
  · intro _
    simp [htask, hcompletion, hdeferrals]

theorem SessionView.CompletionsKept.turnStep {stage next : TurnStage}
    (htask : view.tasks w = .turn event stage)
    (hstages : stage.inlineCompletion.isSome.toNat + next.isDeferring.toNat ≤
      next.inlineCompletion.isSome.toNat + stage.isDeferring.toNat) :
    ({ view with state := state }.advance w (.turn event next) observations).CompletionsKept := by
  apply hkept.exchange hsame hearly
  · intro _ _ heq _
    simp at heq
  · simp [htask]
  · intro _
    simpa [htask] using hstages

end SameTurn

theorem SessionView.CompletionsKept.of_plain (hkept : view.CompletionsKept)
    (hawaiting : state.active = true → state.awaitingCompletion = false)
    (hdeferrals : state.active = true → ∀ v, v ≠ w → (view.tasks v).deferrals = 0)
    (htask : task.deferrals = 0)
    (hnext : ∀ event stage, task = .hand event stage → stage.isRejecting = false) :
    ({ view with state := state }.advance w task observations).CompletionsKept := by
  constructor
  · apply hkept.rejecting_advance
    intro event stage heq hstage
    simp [hnext event stage heq] at hstage
  · intro hactive _
    rw [weigh_eq_of_alone (w := w)]
    · simp [advance, htask]
    · intro v hvw
      simpa [advance, hvw] using hdeferrals hactive v hvw
  · intro hactive hwaiting
    simp [hawaiting hactive] at hwaiting

end Exchange

section Steps

variable {view : SessionView n} {w : Fin n} {observations : List Observation}

/-- The inbox or the callable completions change, the tokens do not. -/
theorem SessionView.CompletionsKept.requeue (hkept : view.CompletionsKept)
    {queue : List SessionEvent} {callable : Multiset ℕ} {log : Transcript}
    (hcount : view.queue.countP isCompletion + view.callable.card ≤
      queue.countP isCompletion + callable.card) :
    { view with queue := queue, callable := callable, log := log }.CompletionsKept := by
  have htokens : view.tokens ≤
      { view with queue := queue, callable := callable, log := log }.tokens := by
    simp only [tokens, completionsInHand, weigh]
    omega
  constructor
  · exact hkept.rejecting
  · intro hactive hawaiting
    exact (hkept.running hactive hawaiting).trans (Nat.add_le_add_right htokens _)
  · intro hactive hawaiting
    exact (hkept.awaiting hactive hawaiting).trans (Nat.add_le_add_left htokens _)

theorem SessionView.CompletionsKept.pop (hkept : view.CompletionsKept) {rest : List SessionEvent}
    {remaining : ℕ} (htask : view.tasks w = .idle) (hqueue : view.queue = event :: rest) :
    ({ view with registered := true, queue := rest }.advance w
      (.hand event (.popped remaining)) observations).CompletionsKept := by
  obtain ⟨hturns, hinlined, hdeferrals, htokens⟩ :=
    view.exchanged_pop (.popped remaining) observations htask hqueue
  constructor
  · apply hkept.rejecting_advance
    intro _ _ heq hstage
    cases heq
    simp [HandStage.isRejecting] at hstage
  · intro hactive hawaiting
    rw [hdeferrals, htokens, hinlined]
    exact hkept.running hactive hawaiting
  · intro hactive hawaiting
    rw [hturns, htokens]
    exact hkept.awaiting hactive hawaiting

theorem SessionView.CompletionsKept.finishOpen (hkept : view.CompletionsKept)
    {context : WorkerSessionEventContext}
    (htask : view.tasks w = .turn event (.finishing context)) :
    ({ view with callable := event.sequence ::ₘ view.callable }.advance w
      (.turn event (.publishing context.messages true none)) observations).CompletionsKept := by
  obtain ⟨_, _, _, _⟩ :=
    view.exchanged_finishOpen observations htask
  constructor
  · exact hkept.rejecting_advance (by simp)
  · intro hactive hawaiting
    have hold := hkept.running hactive hawaiting
    omega
  · intro hactive hawaiting
    omega

/-- The turn begins to wait: the one completion is in the worker's hand or
still elsewhere. -/
theorem SessionView.CompletionsKept.markDeferred (hkept : view.CompletionsKept)
    (hinv : view.TurnInvariant) {inlineCompletion : Option SessionEvent}
    (htask : view.tasks w = .turn event (.deferring inlineCompletion)) :
    ({ view with state := { view.state with
        awaitingCompletion := true
        earlyCompletion := none } }.advance w
      (restart (inlineCompletion.or view.state.earlyCompletion)) observations).CompletionsKept := by
  have hopen := hinv.turnOpen htask
  have hawaiting := hopen.awaiting_eq_false hopen.fits
  have hrunning := hkept.running hopen.active hawaiting
  rw [hinv.weigh_inlined htask, hinv.weigh_deferrals htask] at hrunning
  simp only [TurnStage.inlineCompletion, TurnStage.isDeferring, Bool.toNat_true] at hrunning
  have hcompletion : ∀ completion,
      inlineCompletion.or view.state.earlyCompletion = some completion →
        completion.isCompletion = true := by
    intro completion hsome
    have hkind : completion.kind = .deferredCompletion := by
      rcases Option.or_eq_some_iff.mp hsome with hinline | ⟨_, hearly⟩
      · exact (hopen.inlineCompletion completion hinline).1
      · exact (hinv.slots.early completion hearly).1
    simp [isCompletion, hkind]
  have hrestart : (restart (inlineCompletion.or view.state.earlyCompletion)).holds
      isCompletion = (inlineCompletion.or view.state.earlyCompletion).isSome.toNat := by
    cases hcase : inlineCompletion.or view.state.earlyCompletion with
    | none => rfl
    | some completion => simp [restart, hcompletion completion hcase]
  have hholds := (view.exchanged { view with
      state := { view.state with awaitingCompletion := true, earlyCompletion := none } }
    rfl htask (restart (inlineCompletion.or view.state.earlyCompletion)) observations).holds
  rw [holds_turn, hrestart] at hholds
  have hone : inlineCompletion.isSome.toNat + view.state.earlyCompletion.isSome.toNat ≤
      2 * (inlineCompletion.or view.state.earlyCompletion).isSome.toNat := by
    cases inlineCompletion <;> cases view.state.earlyCompletion <;> simp
  constructor
  · apply hkept.rejecting_advance
    intro _ _ heq hstage
    simp [restart_isRejecting heq] at hstage
  · intro _ hrunning
    simp at hrunning
  · intro _ _
    simp only [tokens, advance_queue, advance_state, advance_callable,
      Option.isSome_none, Bool.toNat_false] at hrunning hholds ⊢
    omega

theorem SessionView.CompletionsKept.tryStart (hkept : view.CompletionsKept)
    (hinv : view.TurnInvariant) {config : WorkerPoolConfig}
    {disposition : SessionTurnDisposition} {state : SessionSequenceState}
    (htask : view.tasks w = .hand event .trying)
    (hstart : tryStartSessionTurn config event view.state = (disposition, state)) :
    ({ view with state := state }.advance w (tryTask event disposition)
      observations).CompletionsKept := by
  have hbegin : ∀ state : SessionSequenceState, view.state.active = false →
      state.awaitingCompletion = view.state.awaitingCompletion →
      ({ view with state := state }.advance w (.turn event .skipping)
        observations).CompletionsKept := by
    intro state hinactive hawaiting
    obtain ⟨hnotAwaiting, hturns, _⟩ := hinv.inactive hinactive
    apply hkept.of_plain
    · intro _
      rw [hawaiting, hnotAwaiting]
    · intro _ v _
      exact deferrals_of_turns (Accounting.weight_eq_zero_of_sum_eq_zero hturns v)
    · rfl
    · simp
  cases turnStart_tryStartSessionTurn hstart with
  | closed hclosed => simp [hinv.notClosed] at hclosed
  | completion hkind _ hawaiting =>
    simp only [tryTask, hkind, if_true]
    apply hkept.exchange (refl _) rfl
    · simp
    · simp [htask, isCompletion, hkind]
    · intro hrunning
      simp [hawaiting] at hrunning
  | early hkind hactive hawaiting _ hearly =>
    obtain ⟨_, hinlined, hdeferrals, htokens⟩ :=
      view.exchanged_early observations htask hkind hearly
        (rfl : { view.state with earlyCompletion := some event }.earlyCompletion = _)
    constructor
    · exact hkept.rejecting_advance (by simp [tryTask])
    · intro _ _
      have hrunning := hkept.running hactive hawaiting
      rwa [← htokens, ← hinlined, ← hdeferrals] at hrunning
    · intro _ hwaiting
      simp [hawaiting] at hwaiting
  | badCompletion hkind hbad =>
    obtain ⟨hactive, hsequence, hcase⟩ := hinv.completion_in_hand htask hkind
    exact absurd ⟨hactive, hsequence, hcase⟩ hbad
  | failedPacket hkind =>
    exact hkept.handMove (refl _) rfl htask fun _ => .inr (by simp [hkind])
  | pending hkind =>
    exact hkept.drop ⟨rfl, rfl, rfl, rfl, rfl⟩ rfl htask (by simp [hkind]) (by simp [tryTask]) rfl
  | startFailed hkind _ hactive =>
    have hnot : event.kind ≠ .deferredCompletion := by simp [hkind]
    simp only [tryTask, hnot, if_false]
    exact hbegin _ hactive rfl
  | start hkind _ hactive =>
    simp only [tryTask, hkind, if_false]
    exact hbegin _ hactive rfl
  | invalid hkind | limit hkind => exact hkept.handMove (refl _) rfl htask fun _ => .inr hkind
  | park hkind =>
    exact hkept.drop ⟨rfl, rfl, rfl, rfl, rfl⟩ rfl htask hkind (by simp [tryTask]) rfl

theorem TurnMove.stages {state : SessionSequenceState}
    {stage next : TurnStage} (hmove : TurnMove state event stage next)
    (hfits : stage.Fits event.kind) :
    stage.inlineCompletion.isSome.toNat + next.isDeferring.toNat ≤
      next.inlineCompletion.isSome.toNat + stage.isDeferring.toNat := by
  cases hmove with
  | published inlineCompletion =>
    rw [hfits.2 rfl]
    simp [TurnStage.inlineCompletion, TurnStage.isDeferring]
  | _ => simp [TurnStage.inlineCompletion, TurnStage.isDeferring]

theorem SessionView.CompletionsKept.step {config : WorkerPoolConfig}
    {after : SessionView n} (hkept : view.CompletionsKept)
    (hinv : view.TurnInvariant) (hstep : SessionStep config false view after) :
    after.CompletionsKept := by
  cases hstep with
  | push =>
    apply hkept.requeue
    rw [List.countP_append]
    omega
  | pop _ _ _ _ htask hqueue => exact hkept.pop htask hqueue
  | handMove _ _ _ _ _ htask hmove =>
    apply hkept.handMove (refl _) rfl htask
    intro hnext
    cases hmove with
    | notify | enter => simp [HandStage.isRejecting] at hnext
    | alreadyFailed | disconnected => exact .inl rfl
  | tryStart _ _ _ _ htask hstart =>
    exact hkept.tryStart hinv htask hstart
  | discard w event htask =>
    exact hkept.drop (refl _) rfl htask (hkept.rejecting w event _ htask rfl) (by simp) rfl
  | failHand _ _ _ htask hmark =>
    refine hkept.handMove (markSessionFailed_sameTurn hmark) ?_ htask ?_
    · rw [(markSessionFailed_true hmark).2]
    · intro _
      exact .inl rfl
  | takePending w event htask =>
    have hkind := hkept.rejecting w event _ htask rfl
    have hsame : SameTurn view.state (takePendingDisconnected view.state).2 ∧
        (takePendingDisconnected view.state).2.earlyCompletion = view.state.earlyCompletion := by
      rcases takePendingDisconnected_cases view.state with ⟨htake, _⟩ | ⟨htake, _⟩ <;>
        rw [htake] <;> exact ⟨⟨rfl, rfl, rfl, rfl, rfl⟩, rfl⟩
    exact hkept.drop hsame.1 hsame.2 htask hkind (fun _ _ => restart_isRejecting)
      (restart_deferrals _)
  | turnMove _ _ _ _ _ htask hmove =>
    exact hkept.turnStep (refl _) rfl htask (hmove.stages (hinv.turnOpen htask).fits)
  | failTurn _ _ _ htask hmark =>
    refine hkept.turnStep (markSessionFailed_sameTurn hmark) ?_ htask ?_
    · rw [(markSessionFailed_true hmark).2]
    · simp [inlineCompletion, isDeferring]
  | invoke _ _ htask | handlerReturn _ _ _ htask | handlerThrow _ _ _ htask
  | finishInline _ _ _ _ htask =>
    exact hkept.turnStep (refl _) rfl htask (by simp [inlineCompletion, isDeferring])
  | finishOpen _ _ _ htask => exact hkept.finishOpen htask
  | markDeferred _ _ _ _ _ htask hdefer =>
    obtain ⟨rfl, rfl⟩ := markSessionDeferred_some hdefer
    exact hkept.markDeferred hinv htask
  | endOpen =>
    have hinactive := (turnEnds_endSessionTurn view.state).active
    apply hkept.of_plain
    · simp [hinactive]
    · simp [hinactive]
    · exact restart_deferrals _
    · intro _ _
      exact restart_isRejecting
  | endClosed => constructor <;> simp [close]
  | pushCompletion _ _ hkind _ hcallable =>
    have hcard := Multiset.card_erase_add_one hcallable
    apply hkept.requeue
    simp only [List.countP_append, List.countP_singleton, isCompletion,
      hkind, beq_self_eq_true, if_true]
    omega
  | refuseCompletion _ _ _ _ hlossy | lose _ _ _ _ hlossy => simp at hlossy
  | observe => exact hkept.requeue le_rfl

end Steps

end SessionServer.WorkerPool
