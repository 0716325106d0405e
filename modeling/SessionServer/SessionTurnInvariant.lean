import SessionServer.SessionTurnMachine

/-!
# One turn at a time, one completion for each

The invariant behind the serialisation of a session.  While the session is
active and its handler has not deferred, exactly one worker runs the turn;
once the turn waits for its completion, the running workers and the copies of
the completion that still exist are at most one together.  A completion is a
token: it may lie in the inbox, in a worker's hand, in the early slot, or
still be uncalled.
-/

namespace SessionServer.WorkerPool

open SessionView SessionEvent SessionSequenceState WorkerPool.Task

variable {n : ℕ}
variable {state : SessionSequenceState} {event : SessionEvent} {w : Fin n} {task : Task}

/-! ## Weights of a worker -/

def TurnStage.inlineCompletion : TurnStage → Option SessionEvent
  | .publishing _ _ completion => completion
  | .deferring completion => completion
  | _ => none

/-- The handler has returned with a deferral that is not marked yet. -/
def TurnStage.isDeferring : TurnStage → Bool
  | .publishing _ deferred _ => deferred
  | .deferring _ => true
  | _ => false

theorem completionStage_cases (event : SessionEvent) :
    completionStage event = .failing .deferredFailure ∨
      ∃ messages, completionStage event = .completing {} messages := by
  unfold completionStage
  split
  · exact .inl rfl
  · split
    · exact .inl rfl
    · exact .inr ⟨_, rfl⟩

theorem completionStage_inlineCompletion (event : SessionEvent) :
    (completionStage event).inlineCompletion = none := by
  rcases completionStage_cases event with hstage | ⟨_, hstage⟩ <;> rw [hstage] <;> rfl

theorem TurnMove.inlineCompletion {stage next : TurnStage}
    (hmove : TurnMove state event stage next) :
    next.inlineCompletion = none ∨ next.inlineCompletion = stage.inlineCompletion := by
  cases hmove with
  | publish | defer => exact .inr rfl
  | _ => exact .inl rfl

def Task.turns : Task → ℕ
  | .turn _ _ => 1
  | _ => 0

def Task.holds (predicate : SessionEvent → Bool) : Task → ℕ
  | .hand event _ => (predicate event).toNat
  | _ => 0

def Task.inlined : Task → ℕ
  | .turn _ stage => stage.inlineCompletion.isSome.toNat
  | _ => 0

def Task.deferrals : Task → ℕ
  | .turn _ stage => stage.isDeferring.toNat
  | _ => 0

def SessionView.weigh (view : SessionView n) (weight : Task → ℕ) : ℕ :=
  ∑ w, weight (view.tasks w)

def SessionView.completionsInHand (view : SessionView n) : ℕ :=
  view.weigh (holds isCompletion)

def SessionView.tokens (view : SessionView n) : ℕ :=
  view.queue.countP isCompletion + view.completionsInHand +
    view.state.earlyCompletion.isSome.toNat + view.callable.card

@[simp] theorem Task.turns_idle : turns .idle = 0 := rfl

@[simp] theorem Task.turns_hand (event : SessionEvent) (stage : HandStage) :
    turns (.hand event stage) = 0 := rfl

@[simp] theorem Task.turns_turn (event : SessionEvent) (stage : TurnStage) :
    turns (.turn event stage) = 1 := rfl

@[simp] theorem Task.holds_idle (predicate : SessionEvent → Bool) :
    holds predicate .idle = 0 := rfl

@[simp] theorem Task.holds_hand (predicate : SessionEvent → Bool)
    (event : SessionEvent) (stage : HandStage) :
    holds predicate (.hand event stage) = (predicate event).toNat := rfl

@[simp] theorem Task.holds_turn (predicate : SessionEvent → Bool)
    (event : SessionEvent) (stage : TurnStage) :
    holds predicate (.turn event stage) = 0 := rfl

@[simp] theorem Task.inlined_idle : inlined .idle = 0 := rfl

@[simp] theorem Task.inlined_hand (event : SessionEvent) (stage : HandStage) :
    inlined (.hand event stage) = 0 := rfl

@[simp] theorem Task.inlined_turn (event : SessionEvent) (stage : TurnStage) :
    inlined (.turn event stage) = stage.inlineCompletion.isSome.toNat := rfl

@[simp] theorem Task.deferrals_idle : deferrals .idle = 0 := rfl

@[simp] theorem Task.deferrals_hand (event : SessionEvent) (stage : HandStage) :
    deferrals (.hand event stage) = 0 := rfl

@[simp] theorem Task.deferrals_turn (event : SessionEvent) (stage : TurnStage) :
    deferrals (.turn event stage) = stage.isDeferring.toNat := rfl

theorem SessionView.weigh_advance (view : SessionView n) (weight : Task → ℕ)
    (w : Fin n) (task : Task) (observations : List Observation) :
    (view.advance w task observations).weigh weight + weight (view.tasks w) =
      view.weigh weight + weight task :=
  Accounting.sum_univ_update_add weight view.tasks w task

/-- What becomes of the weights when one worker exchanges its task. -/
structure Exchanged (before after : SessionView n) (old new : Task) : Prop where
  turns : after.weigh turns + old.turns = before.weigh turns + new.turns
  holds : after.completionsInHand + old.holds isCompletion =
    before.completionsInHand + new.holds isCompletion
  inlined : after.weigh inlined + old.inlined = before.weigh inlined + new.inlined
  deferrals : after.weigh deferrals + old.deferrals = before.weigh deferrals + new.deferrals

theorem SessionView.exchanged (before view : SessionView n) {old : Task}
    (hbefore : view.tasks = before.tasks) (hold : before.tasks w = old) (task : Task)
    (observations : List Observation) :
    Exchanged before (view.advance w task observations) old task := by
  have hweigh : ∀ weight : Task → ℕ,
      (view.advance w task observations).weigh weight + weight old =
        before.weigh weight + weight task := by
    intro weight
    have hsum := view.weigh_advance weight w task observations
    rwa [← hold, weigh, weigh, ← hbefore]
  constructor <;> exact hweigh _

theorem SessionView.le_weigh (view : SessionView n) (weight : Task → ℕ)
    (w : Fin n) : weight (view.tasks w) ≤ view.weigh weight :=
  Accounting.weight_le_sum weight view.tasks w

/-- A worker alone with its positive weight carries the whole sum. -/
theorem SessionView.weigh_eq_of_alone (view : SessionView n) {weight : Task → ℕ}
    (halone : ∀ other, other ≠ w → weight (view.tasks other) = 0) :
    view.weigh weight = weight (view.tasks w) := by
  apply Finset.sum_eq_single w
  · intro other _ hne
    exact halone other hne
  · intro habsent
    exact absurd (Finset.mem_univ w) habsent

theorem SessionView.forall_advance (view : SessionView n)
    {observations : List Observation} {property : Task → Prop} (htask : property task)
    (hothers : ∀ other, other ≠ w → property (view.tasks other)) :
    ∀ other, property ((view.advance w task observations).tasks other) := by
  intro other
  by_cases hother : other = w
  · subst hother
    simpa [advance] using htask
  · simpa [advance, hother] using hothers other hother

theorem Exchanged.tokens_of_kept {before after : SessionView n} {old new : Task}
    (hweigh : Exchanged before after old new) (hqueue : after.queue = before.queue)
    (hearly : after.state.earlyCompletion = before.state.earlyCompletion)
    (hcallable : after.callable = before.callable) :
    after.tokens + old.holds isCompletion = before.tokens + new.holds isCompletion := by
  have hholds := hweigh.holds
  unfold tokens
  rw [hqueue, hearly, hcallable]
  omega

/-! ## The invariant -/

/-- Which stages a turn can be in, by the kind of the event that drives it. -/
def TurnStage.Fits (kind : SessionEventKind) : TurnStage → Prop
  | .completing _ _ => kind = .deferredCompletion
  | .failing .deferredFailure => kind = .deferredCompletion
  | .failing .handlerException => kind ≠ .deferredCompletion
  | .publishing _ deferred inlineCompletion =>
    (kind = .deferredCompletion → deferred = false) ∧ (deferred = false → inlineCompletion = none)
  | .skipping => kind ≠ .deferredCompletion
  | .handling _ => kind ≠ .deferredCompletion
  | .finishing _ => kind ≠ .deferredCompletion
  | .deferring _ => kind ≠ .deferredCompletion
  | .disconnecting => True
  | .ending => True

/-- The turn a worker runs is the session's current one. -/
structure TurnOpen (state : SessionSequenceState) (event : SessionEvent)
    (stage : TurnStage) : Prop where
  active : state.active = true
  sequence : event.sequence = state.nextSequence
  awaiting : event.kind = .deferredCompletion ↔ state.awaitingCompletion = true
  fits : stage.Fits event.kind
  disconnect : event.kind = .disconnected → state.activeDisconnect = true
  packet : event.kind = .packet → state.activeDisconnect = false
  inlineCompletion : ∀ completion, stage.inlineCompletion = some completion →
    completion.kind = .deferredCompletion ∧ completion.sequence = state.nextSequence

def Task.Fits (state : SessionSequenceState) : Task → Prop
  | .idle => True
  | .hand event _ =>
    event.kind = .deferredCompletion → event.sequence = state.nextSequence
  | .turn event stage => TurnOpen state event stage

/-- What lies in the slots of a sequence state. -/
structure SessionSequenceState.SlotsFit (state : SessionSequenceState) : Prop where
  parked : ∀ entry ∈ state.parked.entries,
    entry.2.kind ≠ .deferredCompletion ∧ entry.2.sequence = entry.1
  early : ∀ event, state.earlyCompletion = some event →
    event.kind = .deferredCompletion ∧ event.sequence = state.nextSequence
  pending : ∀ event, state.pendingDisconnected = some event → event.kind = .disconnected

structure SessionView.TurnInvariant (view : SessionView n) : Prop where
  unregistered : view.registered = false → view.state = {} ∧ ∀ w, view.tasks w = .idle
  notClosed : view.state.closed = false
  slots : view.state.SlotsFit
  tasks : ∀ w, (view.tasks w).Fits view.state
  queue : ∀ event ∈ view.queue, event.kind = .deferredCompletion →
    event.sequence = view.state.nextSequence
  callable : ∀ sequence ∈ view.callable, sequence = view.state.nextSequence
  inactive : view.state.active = false →
    view.state.awaitingCompletion = false ∧ view.weigh turns = 0 ∧ view.tokens = 0
  running : view.state.active = true → view.state.awaitingCompletion = false →
    view.weigh turns = 1 ∧ view.tokens + view.weigh inlined ≤ view.weigh deferrals
  awaiting : view.state.active = true → view.state.awaitingCompletion = true →
    view.weigh turns + view.tokens ≤ 1

def SessionView.initial (n : ℕ) (sessionId : SessionId) : SessionView n where
  sessionId := sessionId
  registered := false
  state := {}
  queue := []
  tasks := fun _ => .idle
  callable := 0
  log := []

theorem SessionSequenceState.slotsFit_default : SessionSequenceState.SlotsFit {} := by
  constructor <;> simp

theorem SessionView.initial_turnInvariant (n : ℕ) (sessionId : SessionId) :
    (SessionView.initial n sessionId).TurnInvariant := by
  constructor
  case slots => exact slotsFit_default
  all_goals simp [SessionView.initial, tokens, completionsInHand, weigh, Task.Fits]

theorem Task.fits_of_weightless (hturns : task.turns = 0) (hholds : task.holds isCompletion = 0)
    (state : SessionSequenceState) : task.Fits state := by
  cases task with
  | idle => trivial
  | hand =>
    intro hkind
    simp [isCompletion, hkind] at hholds
  | turn => simp at hturns

/-! ## Steps that stay inside the turn -/

/-- The fields that identify the session's current turn are kept. -/
structure SameTurn (before after : SessionSequenceState) : Prop where
  nextSequence : after.nextSequence = before.nextSequence
  active : after.active = before.active
  activeDisconnect : after.activeDisconnect = before.activeDisconnect
  awaitingCompletion : after.awaitingCompletion = before.awaitingCompletion
  closed : after.closed = before.closed

theorem SameTurn.refl (state : SessionSequenceState) : SameTurn state state :=
  ⟨rfl, rfl, rfl, rfl, rfl⟩

theorem takePendingDisconnected_sameTurn (state : SessionSequenceState) :
    SameTurn state (takePendingDisconnected state).2 := by
  rcases takePendingDisconnected_cases state with ⟨htake, _⟩ | ⟨htake, _⟩
  · rw [htake]
    exact SameTurn.refl state
  · rw [htake]
    exact ⟨rfl, rfl, rfl, rfl, rfl⟩

theorem TurnOpen.of_sameTurn {before after : SessionSequenceState} {stage : TurnStage}
    (hopen : TurnOpen before event stage) (hsame : SameTurn before after) :
    TurnOpen after event stage where
  active := by rw [hsame.active]; exact hopen.active
  sequence := by rw [hsame.nextSequence]; exact hopen.sequence
  awaiting := by rw [hsame.awaitingCompletion]; exact hopen.awaiting
  fits := hopen.fits
  disconnect := by rw [hsame.activeDisconnect]; exact hopen.disconnect
  packet := by rw [hsame.activeDisconnect]; exact hopen.packet
  inlineCompletion := by rw [hsame.nextSequence]; exact hopen.inlineCompletion

theorem Task.Fits.of_sameTurn {before after : SessionSequenceState}
    (hfits : task.Fits before) (hsame : SameTurn before after) :
    task.Fits after := by
  cases task with
  | idle => trivial
  | hand =>
    intro hkind
    rw [hsame.nextSequence]
    exact hfits hkind
  | turn => exact TurnOpen.of_sameTurn hfits hsame

/-- Accounting of a step that does not change the current turn.  While
nothing is active or the turn is deferred, running workers and tokens do not
grow together; else the running worker stays, and a token appears only with a
deferral. -/
structure KeepsAccounts (before after : SessionView n) : Prop where
  total : before.state.active = false ∨ before.state.awaitingCompletion = true →
    after.weigh turns + after.tokens ≤ before.weigh turns + before.tokens
  turns : before.state.active = true → before.state.awaitingCompletion = false →
    after.weigh turns = before.weigh turns
  tokens : before.state.active = true → before.state.awaitingCompletion = false →
    after.tokens + after.weigh inlined + before.weigh deferrals ≤
      before.tokens + before.weigh inlined + after.weigh deferrals

theorem SessionView.TurnInvariant.of_sameTurn
    {before after : SessionView n} (hinv : before.TurnInvariant)
    (hsame : SameTurn before.state after.state) (haccounts : KeepsAccounts before after)
    (hunregistered : after.registered = false → after.state = {} ∧ ∀ w, after.tasks w = .idle)
    (hslots : after.state.SlotsFit) (htasks : ∀ w, (after.tasks w).Fits before.state)
    (hqueue : ∀ event ∈ after.queue, event.kind = .deferredCompletion →
      event.sequence = before.state.nextSequence)
    (hcallable : ∀ sequence ∈ after.callable, sequence = before.state.nextSequence) :
    after.TurnInvariant where
  unregistered := hunregistered
  notClosed := by rw [hsame.closed]; exact hinv.notClosed
  slots := hslots
  tasks := fun w => (htasks w).of_sameTurn hsame
  queue := by rw [hsame.nextSequence]; exact hqueue
  callable := by rw [hsame.nextSequence]; exact hcallable
  inactive := by
    rw [hsame.active, hsame.awaitingCompletion]
    intro hactive
    obtain ⟨hawaiting, hturns, htokens⟩ := hinv.inactive hactive
    have htotal := haccounts.total (.inl hactive)
    exact ⟨hawaiting, by omega, by omega⟩
  running := by
    rw [hsame.active, hsame.awaitingCompletion]
    intro hactive hawaiting
    obtain ⟨_, _⟩ := hinv.running hactive hawaiting
    have hkeep := haccounts.turns hactive hawaiting
    have hchange := haccounts.tokens hactive hawaiting
    exact ⟨by omega, by omega⟩
  awaiting := by
    rw [hsame.active, hsame.awaitingCompletion]
    intro hactive hawaiting
    have htotal := haccounts.total (.inr hawaiting)
    have hold := hinv.awaiting hactive hawaiting
    omega

/-- What one worker may exchange for what. -/
structure FairExchange (state : SessionSequenceState) (old new : Task) : Prop where
  total : state.active = false ∨ state.awaitingCompletion = true →
    new.turns + new.holds isCompletion ≤ old.turns + old.holds isCompletion
  turns : state.active = true → state.awaitingCompletion = false → new.turns = old.turns
  tokens : state.active = true → state.awaitingCompletion = false →
    new.holds isCompletion + new.inlined + old.deferrals ≤
      old.holds isCompletion + old.inlined + new.deferrals

/-- One worker moves on; inbox, early slot and callable completions stay. -/
theorem SessionView.TurnInvariant.exchange
    {view : SessionView n} (hinv : view.TurnInvariant) {observations : List Observation}
    (hsame : SameTurn view.state state)
    (hearly : state.earlyCompletion = view.state.earlyCompletion) (hslots : state.SlotsFit)
    (hfits : task.Fits view.state) (hexchange : FairExchange view.state (view.tasks w) task)
    (hregistered : view.tasks w ≠ .idle) :
    ({ view with state := state }.advance w task observations).TurnInvariant := by
  have hweigh :=
    view.exchanged { view with state := state } rfl (rfl : view.tasks w = _) task observations
  have htokens := hweigh.tokens_of_kept rfl hearly rfl
  apply hinv.of_sameTurn hsame
  · constructor
    · intro hcase
      have htotal := hexchange.total hcase
      have hturns := hweigh.turns
      omega
    · intro hactive hawaiting
      have hkeep := hexchange.turns hactive hawaiting
      have hturns := hweigh.turns
      omega
    · intro hactive hawaiting
      have hchange := hexchange.tokens hactive hawaiting
      have hinlined := hweigh.inlined
      have hdeferrals := hweigh.deferrals
      omega
  · intro hunregistered
    exact absurd ((hinv.unregistered hunregistered).2 w) hregistered
  · exact hslots
  · exact { view with state := state }.forall_advance hfits (fun other _ => hinv.tasks other)
  · exact hinv.queue
  · exact hinv.callable

/-! ## A failing session keeps its turn -/

theorem markSessionFailed_sameTurn (hmark : (markSessionFailed state).1 = true) :
    SameTurn state (markSessionFailed state).2 := by
  rw [(markSessionFailed_true hmark).2]
  exact ⟨rfl, rfl, rfl, rfl, rfl⟩

theorem SessionSequenceState.SlotsFit.salvaged (hslots : state.SlotsFit)
    (hsalvaged : state.salvaged = some event) : event.kind = .disconnected := by
  rcases Option.or_eq_some_iff.mp hsalvaged with hparked | ⟨_, hpending⟩
  · simpa [SessionEvent.isDisconnected] using (OrderedMap.firstValue?_some hparked).1
  · exact hslots.pending event hpending

theorem SessionSequenceState.SlotsFit.markSessionFailed (hslots : state.SlotsFit)
    (hmark : (WorkerPool.markSessionFailed state).1 = true) :
    (WorkerPool.markSessionFailed state).2.SlotsFit := by
  rw [(markSessionFailed_true hmark).2]
  constructor
  · simp
  · exact hslots.early
  · intro _ hevent
    exact hslots.salvaged hevent

end SessionServer.WorkerPool
