import SessionServer.SessionTurnInvariant

/-!
# The turn invariant is kept

One lemma for each kind of step of the session machine, and their union.
-/

namespace SessionServer.WorkerPool

open SessionView SessionEvent TurnStage SameTurn WorkerPool.Task Multiset Option Bool

variable {n : ℕ}
variable {state : SessionSequenceState} {event : SessionEvent} {next stage : TurnStage}
    {view : SessionView n} {w : Fin n} {observations : List Observation} {task : Task}

/-! ## Exchanges -/

theorem FairExchange.handToHand {next : SessionEvent} {stage nextStage : HandStage}
    (hkind : next.kind = .deferredCompletion → event.kind = .deferredCompletion) :
    FairExchange state (.hand event stage) (.hand next nextStage) := by
  have hholds : next.isCompletion.toNat ≤ event.isCompletion.toNat := by
    unfold isCompletion
    by_cases hnext : next.kind = .deferredCompletion
    · rw [hnext, hkind hnext]
    · rw [beq_eq_false_iff_ne.mpr hnext]
      exact Nat.zero_le _
  constructor
  · intro _
    simpa using hholds
  · intro _ _
    simp
  · intro _ _
    simpa using hholds

theorem FairExchange.handToIdle {stage : HandStage} :
    FairExchange state (.hand event stage) .idle := by
  constructor <;> simp

theorem FairExchange.turnToTurn
    (hinline : next.inlineCompletion.isSome = true →
      stage.inlineCompletion.isSome = true ∨ stage.isDeferring = false)
    (hdeferring : stage.isDeferring = true → next.isDeferring = true)
    (hnext : next.inlineCompletion.isSome = true → next.isDeferring = true) :
    FairExchange state (.turn event stage) (.turn event next) := by
  constructor
  · intro _
    simp
  · intro _ _
    simp
  · intro _ _
    cases hold : stage.inlineCompletion.isSome <;>
      cases hdef : stage.isDeferring <;>
      cases hnew : next.inlineCompletion.isSome <;>
      cases hdef' : next.isDeferring <;> simp_all

theorem TurnOpen.awaiting_eq_false (hopen : TurnOpen state event stage)
    (hkind : event.kind ≠ .deferredCompletion) : state.awaitingCompletion = false := by
  have hnot := fun hawaiting => hkind (hopen.awaiting.mpr hawaiting)
  simpa using hnot

theorem SessionView.TurnInvariant.turnOpen
    (hinv : view.TurnInvariant) (htask : view.tasks w = .turn event stage) :
    TurnOpen view.state event stage := by
  have hfits := hinv.tasks w
  rw [htask] at hfits
  exact hfits

theorem SessionView.TurnInvariant.requeue (hinv : view.TurnInvariant)
    {queue : List SessionEvent} {callable : Multiset ℕ} {log : Transcript}
    (hcount : queue.countP isCompletion + callable.card ≤
      view.queue.countP isCompletion + view.callable.card)
    (hqueue : ∀ event ∈ queue, event.kind = .deferredCompletion →
      event.sequence = view.state.nextSequence)
    (hcallable : ∀ sequence ∈ callable, sequence = view.state.nextSequence) :
    { view with queue := queue, callable := callable, log := log }.TurnInvariant := by
  have htokens :
      { view with queue := queue, callable := callable, log := log }.tokens ≤ view.tokens := by
    simp only [tokens, completionsInHand, weigh]
    omega
  refine hinv.of_sameTurn (refl _) ?_ ?_ ?_ ?_ ?_ ?_
  · constructor
    · intro _
      exact Nat.add_le_add_left htokens _
    · intro _ _
      rfl
    · intro _ _
      exact Nat.add_le_add_right (Nat.add_le_add_right htokens _) _
  · exact hinv.unregistered
  · exact hinv.slots
  · exact hinv.tasks
  · exact hqueue
  · exact hcallable

theorem SessionView.TurnInvariant.push (hinv : view.TurnInvariant)
    (hexternal : event.isExternal = true) :
    { view with
      queue := view.queue ++ [event]
      log := view.log ++ [Observation.accepted event] }.TurnInvariant := by
  have hkind : event.isCompletion = false := by
    simp only [isExternal, and_eq_true, not_eq_true'] at hexternal
    exact hexternal.1
  apply hinv.requeue
  · simp [hkind]
  · intro other hother hcompletion
    rcases List.mem_append.mp hother with hold | hnew
    · exact hinv.queue other hold hcompletion
    · rw [List.mem_singleton.mp hnew] at hcompletion
      simp [isCompletion, hcompletion] at hkind
  · exact hinv.callable

theorem SessionView.TurnInvariant.pushCompletion (hinv : view.TurnInvariant)
    {completion : SessionEvent} (hkind : completion.kind = .deferredCompletion)
    (hcallable : completion.sequence ∈ view.callable) :
    { view with
      queue := view.queue ++ [completion]
      callable := view.callable.erase completion.sequence
      log := view.log ++ observations }.TurnInvariant := by
  have hcard := card_erase_add_one hcallable
  apply hinv.requeue
  · simp only [List.countP_append, List.countP_singleton, isCompletion,
      hkind, beq_self_eq_true, if_true]
    omega
  · intro other hother hcompletion
    rcases List.mem_append.mp hother with hold | hnew
    · exact hinv.queue other hold hcompletion
    · rw [List.mem_singleton.mp hnew]
      exact hinv.callable _ hcallable
  · intro sequence hsequence
    exact hinv.callable sequence (mem_of_mem_erase hsequence)

theorem SessionView.TurnInvariant.refuseCompletion (hinv : view.TurnInvariant) {sequence : ℕ} :
    { view with
      callable := view.callable.erase sequence
      log := view.log ++ observations }.TurnInvariant := by
  apply hinv.requeue
  · exact Nat.add_le_add_left (card_le_card (erase_le _ _)) _
  · exact hinv.queue
  · intro other hother
    exact hinv.callable other (mem_of_mem_erase hother)

theorem SessionView.exchanged_pop (view : SessionView n) {rest : List SessionEvent}
    (stage : HandStage) (observations : List Observation)
    (htask : view.tasks w = .idle) (hqueue : view.queue = event :: rest) :
    let after := { view with registered := true, queue := rest }.advance w
      (.hand event stage) observations
    after.weigh turns = view.weigh turns ∧
      after.weigh inlined = view.weigh inlined ∧
      after.weigh deferrals = view.weigh deferrals ∧
      after.tokens = view.tokens := by
  intro after
  have hweigh := view.exchanged { view with registered := true, queue := rest } rfl
    htask (.hand event stage) observations
  have hhead : (if event.isCompletion = true then 1 else 0) =
      event.isCompletion.toNat := by
    cases event.isCompletion <;> rfl
  have hholds := hweigh.holds
  refine ⟨hweigh.turns, hweigh.inlined, hweigh.deferrals, ?_⟩
  simp only [tokens, after, hqueue, List.countP_cons, advance_queue, advance_state,
    advance_callable, holds_idle, holds_hand] at hholds ⊢
  omega

theorem SessionView.TurnInvariant.pop (hinv : view.TurnInvariant) {rest : List SessionEvent}
    {stage : HandStage} (htask : view.tasks w = .idle) (hqueue : view.queue = event :: rest) :
    ({ view with registered := true, queue := rest }.advance w
      (.hand event stage) observations).TurnInvariant := by
  obtain ⟨hturns, _, _, _⟩ :=
    view.exchanged_pop stage observations htask hqueue
  refine hinv.of_sameTurn (refl _) ?_ ?_ ?_ ?_ ?_ ?_
  · constructor
    · intro _
      omega
    · intro _ _
      exact hturns
    · intro _ _
      omega
  · intro hunregistered
    simp [advance] at hunregistered
  · exact hinv.slots
  · apply forall_advance
    · intro hkind
      exact hinv.queue event (by simp [hqueue]) hkind
    · intro other _
      exact hinv.tasks other
  · intro other hother hkind
    exact hinv.queue other (by simp [hqueue]; exact .inr hother) hkind
  · exact hinv.callable

theorem SessionView.TurnInvariant.handMove (hinv : view.TurnInvariant) {stage next : HandStage}
    (htask : view.tasks w = .hand event stage) (hsame : SameTurn view.state state)
    (hearly : state.earlyCompletion = view.state.earlyCompletion) (hslots : state.SlotsFit) :
    ({ view with state := state }.advance w (.hand event next) observations).TurnInvariant := by
  have hfits := hinv.tasks w
  rw [htask] at hfits
  refine hinv.exchange hsame hearly hslots hfits ?_ ?_
  · rw [htask]
    exact FairExchange.handToHand id
  · simp [htask]

theorem SessionView.TurnInvariant.drop (hinv : view.TurnInvariant) {stage : HandStage}
    (htask : view.tasks w = .hand event stage) (hsame : SameTurn view.state state)
    (hearly : state.earlyCompletion = view.state.earlyCompletion) (hslots : state.SlotsFit) :
    ({ view with state := state }.advance w .idle observations).TurnInvariant := by
  refine hinv.exchange hsame hearly hslots trivial ?_ ?_
  · rw [htask]
    exact FairExchange.handToIdle
  · simp [htask]

theorem SessionView.TurnInvariant.takePending (hinv : view.TurnInvariant) {stage : HandStage}
    (htask : view.tasks w = .hand event stage) :
    ({ view with state := (takePendingDisconnected view.state).2 }.advance w
      (restart (takePendingDisconnected view.state).1) observations).TurnInvariant := by
  rcases takePendingDisconnected_cases view.state with ⟨hnone, _⟩ | ⟨htake, _, _⟩
  · rw [hnone]
    exact hinv.drop htask (refl _) rfl hinv.slots
  · rw [htake]
    have hslots : { view.state with pendingDisconnected := none }.SlotsFit :=
      ⟨hinv.slots.parked, hinv.slots.early, by simp⟩
    cases hpending : view.state.pendingDisconnected with
    | none => exact hinv.drop htask ⟨rfl, rfl, rfl, rfl, rfl⟩ rfl hslots
    | some next =>
      have hkind := hinv.slots.pending next hpending
      refine hinv.exchange ⟨rfl, rfl, rfl, rfl, rfl⟩ rfl hslots ?_ ?_ ?_
      · intro hcompletion
        simp [hkind] at hcompletion
      · rw [htask]
        apply FairExchange.handToHand
        simp [hkind]
      · simp [htask]

theorem TurnStage.Fits.isDeferring_of_inline {kind : SessionEventKind} (hfits : stage.Fits kind)
    (hinline : stage.inlineCompletion.isSome = true) :
    stage.isDeferring = true := by
  cases stage with
  | publishing _ deferred =>
    cases deferred with
    | true => rfl
    | false =>
      have hnone := hfits.2 rfl
      simp [inlineCompletion, hnone] at hinline
  | deferring => rfl
  | _ => simp [inlineCompletion] at hinline

theorem SessionView.TurnInvariant.turnStep (hinv : view.TurnInvariant)
    (htask : view.tasks w = .turn event stage) (hsame : SameTurn view.state state)
    (hearly : state.earlyCompletion = view.state.earlyCompletion) (hslots : state.SlotsFit)
    (hfits : stage.Fits event.kind → next.Fits event.kind)
    (hinline : next.inlineCompletion = none ∨ next.inlineCompletion = stage.inlineCompletion)
    (hdeferring : stage.isDeferring = true → next.isDeferring = true) :
    ({ view with state := state }.advance w (.turn event next) observations).TurnInvariant := by
  have hopen := hinv.turnOpen htask
  have hnextFits := hfits hopen.fits
  refine hinv.exchange hsame hearly hslots ?_ ?_ ?_
  · refine ⟨hopen.active, hopen.sequence, hopen.awaiting, hnextFits,
      hopen.disconnect, hopen.packet, ?_⟩
    intro completion hcompletion
    rcases hinline with hnone | hkept
    · simp [hnone] at hcompletion
    · exact hopen.inlineCompletion completion (hkept ▸ hcompletion)
  · rw [htask]
    apply FairExchange.turnToTurn _ hdeferring hnextFits.isDeferring_of_inline
    intro hsome
    rcases hinline with hnone | hkept
    · simp [hnone] at hsome
    · exact .inl (hkept ▸ hsome)
  · simp [htask]

theorem TurnMove.fits (hmove : TurnMove state event stage next)
    (hfits : stage.Fits event.kind) : next.Fits event.kind := by
  cases hmove with
  | emitted | finish => exact ⟨fun _ => rfl, fun _ => rfl⟩
  | defer =>
    intro hkind
    exact absurd (hfits.1 hkind) (by simp)
  | emitCompletion | handle | publish => exact hfits
  | alreadyFailed | disconnected | skip | published => trivial

theorem TurnMove.isDeferring (hmove : TurnMove state event stage next)
    (hdeferring : stage.isDeferring = true) : next.isDeferring = true := by
  cases hmove with
  | publish => exact hdeferring
  | defer => rfl
  | _ => simp [isDeferring] at hdeferring

theorem SessionView.TurnInvariant.finishInline (hinv : view.TurnInvariant)
    {completion : SessionEvent} {context : WorkerSessionEventContext}
    (htask : view.tasks w = .turn event (.finishing context))
    (hkind : completion.kind = .deferredCompletion)
    (hsequence : completion.sequence = event.sequence) :
    (view.advance w (.turn event
      (.publishing context.messages true (some completion))) observations).TurnInvariant := by
  have hopen := hinv.turnOpen htask
  refine hinv.exchange (refl _) rfl hinv.slots ?_ ?_ ?_
  · refine ⟨hopen.active, hopen.sequence, hopen.awaiting, ?_, hopen.disconnect, hopen.packet, ?_⟩
    · exact ⟨fun hcompletion => absurd hcompletion hopen.fits, by simp⟩
    · intro other hother
      obtain rfl : completion = other := Option.some.inj hother
      exact ⟨hkind, hsequence.trans hopen.sequence⟩
  · rw [htask]
    apply FairExchange.turnToTurn <;> simp [inlineCompletion, isDeferring]
  · simp [htask]

theorem SessionView.exchanged_finishOpen (view : SessionView n)
    {context : WorkerSessionEventContext} (observations : List Observation)
    (htask : view.tasks w = .turn event (.finishing context)) :
    let after := { view with callable := event.sequence ::ₘ view.callable }.advance w
      (.turn event (.publishing context.messages true none)) observations
    after.weigh turns = view.weigh turns ∧
      after.weigh inlined = view.weigh inlined ∧
      after.weigh deferrals = view.weigh deferrals + 1 ∧
      after.tokens = view.tokens + 1 := by
  intro after
  have hweigh :=
    view.exchanged { view with callable := event.sequence ::ₘ view.callable } rfl htask
      (.turn event (.publishing context.messages true none)) observations
  have hturns := hweigh.turns
  have hholds := hweigh.holds
  refine ⟨Nat.add_right_cancel hturns, hweigh.inlined, hweigh.deferrals, ?_⟩
  simp only [tokens, after, advance_queue, advance_state, advance_callable,
    card_cons, holds_turn] at hholds ⊢
  omega

theorem SessionView.TurnInvariant.finishOpen (hinv : view.TurnInvariant)
    {context : WorkerSessionEventContext}
    (htask : view.tasks w = .turn event (.finishing context)) :
    ({ view with callable := event.sequence ::ₘ view.callable }.advance w
      (.turn event (.publishing context.messages true none)) observations).TurnInvariant := by
  have hopen := hinv.turnOpen htask
  have hawaiting := hopen.awaiting_eq_false hopen.fits
  obtain ⟨hturns, _, _, _⟩ :=
    view.exchanged_finishOpen observations htask
  refine hinv.of_sameTurn (refl _) ?_ ?_ ?_ ?_ ?_ ?_
  · constructor
    · intro hcase
      rcases hcase with hinactive | hwaiting
      · simp [hopen.active] at hinactive
      · simp [hawaiting] at hwaiting
    · intro _ _
      exact hturns
    · intro _ _
      omega
  · intro hunregistered
    have hidle := (hinv.unregistered hunregistered).2 w
    simp [htask] at hidle
  · exact hinv.slots
  · apply forall_advance
    · refine ⟨hopen.active, hopen.sequence, hopen.awaiting, ?_, hopen.disconnect, hopen.packet, ?_⟩
      · exact ⟨fun hcompletion => absurd hcompletion hopen.fits, by simp⟩
      · simp [inlineCompletion]
    · intro other _
      exact hinv.tasks other
  · exact hinv.queue
  · intro sequence hsequence
    rcases mem_cons.mp hsequence with heq | hold
    · exact heq.trans hopen.sequence
    · exact hinv.callable sequence hold

theorem SessionView.TurnInvariant.turns_of_ne (hinv : view.TurnInvariant) {other : Fin n}
    (htask : view.tasks w = .turn event stage) (hne : other ≠ w) :
    (view.tasks other).turns = 0 := by
  have hopen := hinv.turnOpen htask
  have hsum : view.weigh turns ≤ 1 := by
    cases hawaiting : view.state.awaitingCompletion with
    | false => exact (hinv.running hopen.active hawaiting).1.le
    | true =>
      have hle := hinv.awaiting hopen.active hawaiting
      omega
  by_contra hpos
  apply hne
  apply Accounting.eq_of_sum_le_one hsum
  · omega
  · rw [htask]
    exact Nat.one_pos

theorem Task.inlined_of_turns (hturns : task.turns = 0) : task.inlined = 0 := by
  cases task with
  | turn => simp at hturns
  | _ => rfl

theorem Task.deferrals_of_turns (hturns : task.turns = 0) : task.deferrals = 0 := by
  cases task with
  | turn => simp at hturns
  | _ => rfl

section InTurn

variable (hinv : view.TurnInvariant) (htask : view.tasks w = .turn event stage)
include hinv htask

theorem SessionView.TurnInvariant.weigh_inlined :
    view.weigh inlined = stage.inlineCompletion.isSome.toNat := by
  rw [view.weigh_eq_of_alone (w := w), htask, inlined_turn]
  intro _ hne
  exact inlined_of_turns (hinv.turns_of_ne htask hne)

theorem SessionView.TurnInvariant.weigh_deferrals :
    view.weigh deferrals = stage.isDeferring.toNat := by
  rw [view.weigh_eq_of_alone (w := w), htask, deferrals_turn]
  intro _ hne
  exact deferrals_of_turns (hinv.turns_of_ne htask hne)

theorem SessionView.TurnInvariant.weigh_turns : view.weigh turns = 1 := by
  rw [view.weigh_eq_of_alone (w := w), htask, turns_turn]
  intro _ hne
  exact hinv.turns_of_ne htask hne

/-- A worker that is not about to defer runs its turn without any completion
of the session left. -/
theorem SessionView.TurnInvariant.tokens_of_turn
    (hdeferring : stage.isDeferring = false) : view.tokens = 0 := by
  have hopen := hinv.turnOpen htask
  cases hawaiting : view.state.awaitingCompletion with
  | false =>
    have hle := (hinv.running hopen.active hawaiting).2
    rw [hinv.weigh_deferrals htask, hdeferring, toNat_false] at hle
    omega
  | true =>
    have hle := hinv.awaiting hopen.active hawaiting
    rw [hinv.weigh_turns htask] at hle
    omega

end InTurn

theorem SessionView.completionsInHand_le_tokens (view : SessionView n) :
    view.completionsInHand ≤ view.tokens := by
  unfold tokens
  omega

theorem SessionView.queue_of_tokens (htokens : view.tokens = 0)
    (hmem : event ∈ view.queue) : event.kind ≠ .deferredCompletion := by
  have hcount : view.queue.countP isCompletion = 0 := by
    unfold tokens at htokens
    omega
  have hnot := List.countP_eq_zero.mp hcount event hmem
  simpa [isCompletion] using hnot

theorem SessionView.early_of_tokens
    (htokens : view.tokens = 0) : view.state.earlyCompletion = none := by
  have hnat : view.state.earlyCompletion.isSome.toNat = 0 := by
    unfold tokens at htokens
    omega
  cases hearly : view.state.earlyCompletion with
  | none => rfl
  | some => simp [hearly] at hnat

theorem SessionView.callable_of_tokens (htokens : view.tokens = 0) : view.callable = 0 := by
  unfold tokens at htokens
  exact card_eq_zero.mp (by omega)

theorem SessionView.holds_of_tokens (htokens : view.tokens = 0) (w : Fin n) :
    (view.tasks w).holds isCompletion = 0 := by
  have hle := view.le_weigh (holds isCompletion) w
  have htotal := view.completionsInHand_le_tokens
  unfold completionsInHand at htotal
  omega

/-- The turn has ended, or none has begun: every other worker holds at most
an event that waits, and no completion is left. -/
theorem SessionView.TurnInvariant.betweenTurns (hinv : view.TurnInvariant)
    (hothers : ∀ other, other ≠ w → (view.tasks other).turns = 0)
    (htokens : view.tokens = 0) (hregistered : view.tasks w ≠ .idle)
    (hclosed : state.closed = false) (hslots : state.SlotsFit)
    (hearly : state.earlyCompletion = none) (hturns : task.turns = state.active.toNat)
    (hholds : task.holds isCompletion = 0) (hinlined : task.inlined = 0)
    (hawaiting : state.awaitingCompletion = false) (hfits : task.Fits state) :
    ({ view with state := state }.advance w task observations).TurnInvariant := by
  have hweightless : ∀ other, other ≠ w →
      ({ view with state := state }.advance w task observations).tasks other =
        view.tasks other := by
    intro other hne
    simp [advance, hne]
  have hself : ({ view with state := state }.advance w task observations).tasks w = task := by
    simp [advance]
  have hnewTurns :
      ({ view with state := state }.advance w task observations).weigh turns =
        state.active.toNat := by
    rw [weigh_eq_of_alone (w := w), hself, hturns]
    intro other hne
    rw [hweightless other hne]
    exact hothers other hne
  have hnewInlined :
      ({ view with state := state }.advance w task observations).weigh inlined = 0 := by
    rw [weigh_eq_of_alone (w := w), hself, hinlined]
    intro other hne
    rw [hweightless other hne]
    exact inlined_of_turns (hothers other hne)
  have hnewHolds :
      ({ view with state := state }.advance w task observations).completionsInHand = 0 := by
    unfold completionsInHand
    rw [weigh_eq_of_alone (w := w), hself, hholds]
    intro other hne
    rw [hweightless other hne]
    exact holds_of_tokens htokens other
  have hnewTokens : ({ view with state := state }.advance w task observations).tokens = 0 := by
    have hqueue : view.queue.countP isCompletion = 0 := by
      unfold tokens at htokens
      omega
    unfold tokens
    rw [hnewHolds]
    simp [hqueue, hearly, callable_of_tokens htokens]
  constructor
  · intro hunregistered
    exact absurd ((hinv.unregistered hunregistered).2 w) hregistered
  · exact hclosed
  · exact hslots
  · apply forall_advance
    · exact hfits
    · intro other hne
      exact fits_of_weightless (hothers other hne) (holds_of_tokens htokens other) state
  · intro _ hevent hkind
    exact absurd hkind (queue_of_tokens htokens hevent)
  · intro _ hsequence
    rw [advance_callable, callable_of_tokens htokens] at hsequence
    simp at hsequence
  · intro hactive
    rw [advance_state] at hactive
    rw [hactive] at hnewTurns
    exact ⟨hawaiting, hnewTurns, hnewTokens⟩
  · intro hactive _
    rw [advance_state] at hactive
    rw [hactive] at hnewTurns
    refine ⟨hnewTurns, ?_⟩
    rw [hnewTokens, hnewInlined]
    exact Nat.zero_le _
  · intro _ hwaiting
    simp [hawaiting] at hwaiting

theorem SessionView.TurnInvariant.endOpen (hinv : view.TurnInvariant)
    (htask : view.tasks w = .turn event .ending) (hopen : view.state.activeDisconnect = false) :
    ({ view with state := (endSessionTurn view.state).2 }.advance w
      (restart (endSessionTurn view.state).1) observations).TurnInvariant := by
  have htokens := hinv.tokens_of_turn htask rfl
  have hearly := early_of_tokens htokens
  have hothers : ∀ other, other ≠ w → (view.tasks other).turns = 0 :=
    fun _ hne => hinv.turns_of_ne htask hne
  have hregistered : view.tasks w ≠ .idle := by simp [htask]
  have hend := turnEnd_endSessionTurn view.state
  generalize (endSessionTurn view.state).1 = next at hend ⊢
  generalize (endSessionTurn view.state).2 = state at hend ⊢
  cases hend with
  | disconnected hdisconnect => simp [hopen] at hdisconnect
  | failed =>
    have hslots : { view.state with
        active := false
        awaitingCompletion := false
        nextSequence := view.state.nextSequence + 1
        pendingDisconnected := none }.SlotsFit :=
      ⟨hinv.slots.parked, by simp [hearly], by simp⟩
    cases hpending : view.state.pendingDisconnected with
    | none =>
      exact hinv.betweenTurns hothers htokens hregistered hinv.notClosed hslots
        hearly rfl rfl rfl rfl trivial
    | some next =>
      have hkind := hinv.slots.pending next hpending
      refine hinv.betweenTurns hothers htokens hregistered hinv.notClosed hslots
        hearly rfl ?_ rfl rfl ?_
      · simp [restart, isCompletion, hkind]
      · simp [restart, Task.Fits, hkind]
  | nothingParked =>
    exact hinv.betweenTurns hothers htokens hregistered hinv.notClosed
      ⟨hinv.slots.parked, by simp [hearly], hinv.slots.pending⟩ hearly rfl rfl rfl rfl trivial
  | unparked _ _ _ hnext =>
    have hkind := (hinv.slots.parked _ (OrderedMap.find?_some_mem hnext)).1
    refine hinv.betweenTurns hothers htokens hregistered hinv.notClosed ?_ hearly rfl ?_ rfl rfl ?_
    · refine ⟨?_, by simp [hearly], hinv.slots.pending⟩
      intro entry hentry
      exact hinv.slots.parked entry ((OrderedMap.mem_erase _ _ _).mp hentry).1
    · simpa [restart, isCompletion] using hkind
    · intro hcompletion
      exact absurd hcompletion hkind

theorem SessionView.TurnInvariant.endClosed (hinv : view.TurnInvariant)
    (htask : view.tasks w = .turn event .ending) :
    (view.close event).TurnInvariant := by
  have htokens := hinv.tokens_of_turn htask rfl
  have hcallable := callable_of_tokens htokens
  constructor
  · intro _
    exact ⟨rfl, fun _ => rfl⟩
  · rfl
  · exact SessionSequenceState.slotsFit_default
  · intro _
    trivial
  · intro _ hother hkind
    exact absurd hkind (queue_of_tokens htokens hother)
  · intro _ hsequence
    simp [close, hcallable] at hsequence
  · intro _
    have hqueue : view.queue.countP isCompletion = 0 := by
      unfold tokens at htokens
      omega
    simp [close, tokens, completionsInHand, weigh, hqueue, hcallable]
  · intro hactive
    simp [close] at hactive
  · intro hactive
    simp [close] at hactive

/-- The turn begins to wait: what was inline or early is now in the worker's
hand, and at most one completion exists. -/
theorem SessionView.TurnInvariant.markDeferred (hinv : view.TurnInvariant)
    {inlineCompletion earlyCompletion : Option SessionEvent}
    (htask : view.tasks w = .turn event (.deferring inlineCompletion))
    (hdefer : markSessionDeferred event view.state = some (earlyCompletion, state)) :
    ({ view with state := state }.advance w
      (restart (inlineCompletion.or earlyCompletion)) observations).TurnInvariant := by
  obtain ⟨rfl, rfl⟩ := markSessionDeferred_some hdefer
  have hopen := hinv.turnOpen htask
  have hawaiting := hopen.awaiting_eq_false hopen.fits
  have hcount := (hinv.running hopen.active hawaiting).2
  rw [hinv.weigh_inlined htask, hinv.weigh_deferrals htask] at hcount
  simp only [TurnStage.inlineCompletion, TurnStage.isDeferring, toNat_true] at hcount
  have hcompletion : ∀ completion,
      inlineCompletion.or view.state.earlyCompletion = some completion →
        completion.kind = .deferredCompletion ∧ completion.sequence = view.state.nextSequence := by
    intro completion hsome
    rcases or_eq_some_iff.mp hsome with hinline | ⟨_, hearly⟩
    · exact hopen.inlineCompletion completion hinline
    · exact hinv.slots.early completion hearly
  -- The one token moves into the hand from where it was.
  have hholds : (restart (inlineCompletion.or view.state.earlyCompletion)).holds
      isCompletion ≤ inlineCompletion.isSome.toNat + view.state.earlyCompletion.isSome.toNat := by
    cases hcase : inlineCompletion.or view.state.earlyCompletion with
    | none => exact Nat.zero_le _
    | some completion =>
      have hone : (restart (some completion)).holds isCompletion ≤ 1 :=
        toNat_le _
      rcases or_eq_some_iff.mp hcase with hinline | ⟨_, hearly⟩
      · simp only [hinline, isSome_some, toNat_true]
        omega
      · simp only [hearly, isSome_some, toNat_true]
        omega
  have hrestartTurns : (restart (inlineCompletion.or view.state.earlyCompletion)).turns = 0 := by
    cases inlineCompletion.or view.state.earlyCompletion <;> rfl
  have hweigh := view.exchanged { view with
      state := { view.state with awaitingCompletion := true, earlyCompletion := none } }
    rfl htask (restart (inlineCompletion.or view.state.earlyCompletion)) observations
  have hturns := hweigh.turns
  have hinHand := hweigh.holds
  rw [hinv.weigh_turns htask, turns_turn, hrestartTurns] at hturns
  constructor
  · intro hunregistered
    have hidle := (hinv.unregistered hunregistered).2 w
    simp [htask] at hidle
  · exact hinv.notClosed
  · exact ⟨hinv.slots.parked, by simp, hinv.slots.pending⟩
  · apply forall_advance
    · cases hcase : inlineCompletion.or view.state.earlyCompletion with
      | none => trivial
      | some completion => exact fun _ => (hcompletion completion hcase).2
    · intro other hne
      have hother := hinv.tasks other
      cases hcase : view.tasks other with
      | idle => trivial
      | hand =>
        rw [hcase] at hother
        exact hother
      | turn =>
        have hzero := hinv.turns_of_ne htask hne
        simp [hcase] at hzero
  · exact hinv.queue
  · exact hinv.callable
  · intro hinactive
    simp [hopen.active] at hinactive
  · intro _ hrunning
    simp at hrunning
  · intro _ _
    simp only [tokens, advance_queue, advance_state, advance_callable,
      isSome_none, toNat_false] at hcount hturns hinHand ⊢
    omega

theorem SessionView.exchanged_early (view : SessionView n) {stage : HandStage}
    (observations : List Observation) (htask : view.tasks w = .hand event stage)
    (hkind : event.kind = .deferredCompletion) (hnone : view.state.earlyCompletion = none)
    (hsome : state.earlyCompletion = some event) :
    let after := { view with state := state }.advance w .idle observations
    after.weigh turns = view.weigh turns ∧
      after.weigh inlined = view.weigh inlined ∧
      after.weigh deferrals = view.weigh deferrals ∧
      after.tokens = view.tokens := by
  intro after
  have hcompletion : event.isCompletion = true := by
    simp [isCompletion, hkind]
  have hweigh := view.exchanged { view with state := state } rfl htask .idle observations
  have hholds := hweigh.holds
  refine ⟨hweigh.turns, hweigh.inlined, hweigh.deferrals, ?_⟩
  simp only [tokens, after, advance_queue, advance_state, advance_callable, hnone, hsome,
    isSome_some, isSome_none, toNat_true, toNat_false,
    holds_idle, holds_hand, hcompletion] at hholds ⊢
  omega

theorem SessionView.TurnInvariant.parkEarly (hinv : view.TurnInvariant) {stage : HandStage}
    (htask : view.tasks w = .hand event stage) (hkind : event.kind = .deferredCompletion)
    (hsame : SameTurn view.state state) (hslots : state.SlotsFit)
    (hnone : view.state.earlyCompletion = none) (hsome : state.earlyCompletion = some event) :
    ({ view with state := state }.advance w .idle observations).TurnInvariant := by
  obtain ⟨hturns, _, _, _⟩ :=
    view.exchanged_early observations htask hkind hnone hsome
  refine hinv.of_sameTurn hsame ?_ ?_ hslots ?_ hinv.queue hinv.callable
  · constructor
    · intro _
      omega
    · intro _ _
      exact hturns
    · intro _ _
      omega
  · intro hunregistered
    have hidle := (hinv.unregistered hunregistered).2 w
    simp [htask] at hidle
  · apply forall_advance
    · trivial
    · intro other _
      exact hinv.tasks other

theorem completionStage_fits (hkind : event.kind = .deferredCompletion) :
    (completionStage event).Fits event.kind := by
  rcases completionStage_cases event with hstage | ⟨_, hstage⟩ <;> rw [hstage] <;> exact hkind

theorem SessionView.TurnInvariant.processCompletion (hinv : view.TurnInvariant) {stage : HandStage}
    (htask : view.tasks w = .hand event stage) (hkind : event.kind = .deferredCompletion)
    (hactive : view.state.active = true) (hawaiting : view.state.awaitingCompletion = true)
    (hsequence : view.state.nextSequence = event.sequence) :
    (view.advance w (.turn event (completionStage event)) observations).TurnInvariant := by
  refine hinv.exchange (refl _) rfl hinv.slots ?_ ?_ ?_
  · constructor
    · exact hactive
    · exact hsequence.symm
    · simp [hkind, hawaiting]
    · exact completionStage_fits hkind
    · simp [hkind]
    · simp [hkind]
    · simp [completionStage_inlineCompletion]
  · rw [htask]
    constructor
    · simp [isCompletion, hkind]
    · simp [hawaiting]
    · simp [hawaiting]
  · simp [htask]

theorem SessionView.TurnInvariant.beginTurn (hinv : view.TurnInvariant) {stage : HandStage}
    (htask : view.tasks w = .hand event stage) (hinactive : view.state.active = false)
    (hkind : event.kind ≠ .deferredCompletion)
    (hactive : state.active = true) (hsequence : event.sequence = state.nextSequence)
    (hdisconnect : state.activeDisconnect = event.isDisconnected)
    (hawaiting : state.awaitingCompletion = view.state.awaitingCompletion)
    (hclosed : state.closed = view.state.closed) (hparked : state.parked = view.state.parked)
    (hearly : state.earlyCompletion = view.state.earlyCompletion)
    (hpending : state.pendingDisconnected = view.state.pendingDisconnected) :
    ({ view with state := state }.advance w (.turn event .skipping)
      observations).TurnInvariant := by
  obtain ⟨hnotAwaiting, hturns, htokens⟩ := hinv.inactive hinactive
  have hnoEarly := early_of_tokens htokens
  have hnotAwaiting' : state.awaitingCompletion = false := hawaiting.trans hnotAwaiting
  refine hinv.betweenTurns ?_ htokens (by simp [htask]) (hclosed.trans hinv.notClosed)
    ?_ (hearly.trans hnoEarly) (by simp [hactive]) rfl rfl hnotAwaiting' ?_
  · intro other _
    exact Accounting.weight_eq_zero_of_sum_eq_zero hturns other
  · constructor
    · rw [hparked]
      exact hinv.slots.parked
    · simp [hearly, hnoEarly]
    · rw [hpending]
      exact hinv.slots.pending
  · constructor
    · exact hactive
    · exact hsequence
    · simp [hkind, hnotAwaiting']
    · exact hkind
    · intro hdisconnected
      simp [hdisconnect, isDisconnected, hdisconnected]
    · intro hpacket
      simp [hdisconnect, isDisconnected, hpacket]
    · simp [inlineCompletion]

theorem SessionView.TurnInvariant.tryStart (hinv : view.TurnInvariant) {config : WorkerPoolConfig}
    {stage : HandStage} {disposition : SessionTurnDisposition}
    (htask : view.tasks w = .hand event stage)
    (hstart : tryStartSessionTurn config event view.state = (disposition, state)) :
    ({ view with state := state }.advance w (tryTask event disposition)
      observations).TurnInvariant := by
  cases turnStart_tryStartSessionTurn hstart with
  | closed hclosed => simp [hinv.notClosed] at hclosed
  | completion hkind hactive hawaiting hsequence =>
    simp only [tryTask, hkind, if_true]
    exact hinv.processCompletion htask hkind hactive hawaiting hsequence
  | early hkind _ _ hsequence hearly =>
    refine hinv.parkEarly htask hkind ⟨rfl, rfl, rfl, rfl, rfl⟩
      ⟨hinv.slots.parked, ?_, hinv.slots.pending⟩ hearly rfl
    intro other hother
    obtain rfl : event = other := Option.some.inj hother
    exact ⟨hkind, hsequence.symm⟩
  | badCompletion | failedPacket | invalid | limit =>
    exact hinv.handMove htask (refl _) rfl hinv.slots
  | pending hkind =>
    refine hinv.drop htask ⟨rfl, rfl, rfl, rfl, rfl⟩ rfl ⟨hinv.slots.parked, hinv.slots.early, ?_⟩
    intro other hother
    obtain rfl : event = other := Option.some.inj hother
    exact hkind
  | startFailed hkind _ hactive =>
    have hnot : event.kind ≠ .deferredCompletion := by simp [hkind]
    simp only [tryTask, hnot, if_false]
    refine hinv.beginTurn htask hactive hnot rfl rfl ?_ rfl rfl rfl rfl rfl
    simp [isDisconnected, hkind]
  | start hkind _ hactive hsequence =>
    simp only [tryTask, hkind, if_false]
    exact hinv.beginTurn htask hactive hkind rfl hsequence.symm rfl rfl rfl rfl rfl rfl
  | park hkind _ _ _ habsent =>
    refine hinv.drop htask ⟨rfl, rfl, rfl, rfl, rfl⟩ rfl ⟨?_, hinv.slots.early, hinv.slots.pending⟩
    intro entry hentry
    rcases (OrderedMap.mem_emplace habsent entry).mp hentry with rfl | hold
    · exact ⟨hkind, rfl⟩
    · exact hinv.slots.parked entry hold

/-! ## Every step keeps the invariant -/

theorem SessionView.TurnInvariant.step
    {config : WorkerPoolConfig} {lossy : Bool} {after : SessionView n}
    (hinv : view.TurnInvariant) (hstep : SessionStep config lossy view after) :
    after.TurnInvariant := by
  have hslots := hinv.slots
  cases hstep with
  | push _ hexternal => exact hinv.push hexternal
  | pop _ _ _ _ htask hqueue => exact hinv.pop htask hqueue
  | handMove _ _ _ _ _ htask =>
    exact hinv.handMove htask (refl _) rfl hslots
  | tryStart _ _ _ _ htask hstart => exact hinv.tryStart htask hstart
  | discard _ _ htask | lose _ _ _ htask => exact hinv.drop htask (refl _) rfl hslots
  | failHand _ _ _ htask hmark =>
    refine hinv.handMove htask (markSessionFailed_sameTurn hmark) ?_
      (hslots.markSessionFailed hmark)
    rw [(markSessionFailed_true hmark).2]
  | takePending _ _ htask => exact hinv.takePending htask
  | turnMove _ _ _ _ _ htask hmove =>
    exact hinv.turnStep htask (refl _) rfl hslots hmove.fits
      hmove.inlineCompletion hmove.isDeferring
  | failTurn _ _ _ htask hmark =>
    refine hinv.turnStep htask (markSessionFailed_sameTurn hmark) ?_
      (hslots.markSessionFailed hmark) (fun _ => trivial) (.inl rfl)
      (by simp [isDeferring])
    rw [(markSessionFailed_true hmark).2]
  | invoke _ _ htask | handlerReturn _ _ _ htask | handlerThrow _ _ _ htask =>
    exact hinv.turnStep htask (refl _) rfl hslots id (.inl rfl) (by simp [isDeferring])
  | finishInline _ _ _ _ htask hkind hsequence =>
    exact hinv.finishInline htask hkind hsequence
  | finishOpen _ _ _ htask => exact hinv.finishOpen htask
  | markDeferred _ _ _ _ _ htask hdefer =>
    exact hinv.markDeferred htask hdefer
  | endOpen _ _ htask hopen => exact hinv.endOpen htask hopen
  | endClosed _ _ htask => exact hinv.endClosed htask
  | pushCompletion _ _ hkind _ hcallable =>
    exact hinv.pushCompletion hkind hcallable
  | refuseCompletion => exact hinv.refuseCompletion
  | observe => exact hinv.requeue le_rfl hinv.queue hinv.callable

end SessionServer.WorkerPool
