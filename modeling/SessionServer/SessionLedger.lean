import SessionServer.SessionTurnPreservation

/-!
# The ledger of a session

Every accepted Packet or Disconnected event waits somewhere until its turn is
started, or it is lost in one of the few ways `Loss` lists.  The ledger is
kept for an arbitrary class of events, so that it serves both single sequence
numbers and all Disconnected events.
-/

namespace SessionServer.WorkerPool

open SessionView Observation SessionSequenceState List WorkerPool.Task

variable {n : ℕ}
variable {state : SessionSequenceState}

/-! ## Selections of the transcript -/

def Observation.accepted? : Observation → Option SessionEvent
  | .accepted event => some event
  | _ => none

def Observation.popped? : Observation → Option SessionEvent
  | .popped event => some event
  | _ => none

def Observation.started? : Observation → Option SessionEvent
  | .started event => some event
  | _ => none

def Observation.invoked? : Observation → Option SessionEvent
  | .invoked event => some event
  | _ => none

def Transcript.accepted (transcript : Transcript) : List SessionEvent :=
  transcript.filterMap Observation.accepted?

def Transcript.popped (transcript : Transcript) : List SessionEvent :=
  transcript.filterMap Observation.popped?

def Transcript.started (transcript : Transcript) : List SessionEvent :=
  transcript.filterMap Observation.started?

def Transcript.invoked (transcript : Transcript) : List SessionEvent :=
  transcript.filterMap Observation.invoked?

@[simp] theorem Transcript.accepted_append (first second : Transcript) :
    Transcript.accepted (first ++ second) =
      Transcript.accepted first ++ Transcript.accepted second :=
  filterMap_append ..

@[simp] theorem Transcript.popped_append (first second : Transcript) :
    Transcript.popped (first ++ second) = Transcript.popped first ++ Transcript.popped second :=
  filterMap_append ..

@[simp] theorem Transcript.started_append (first second : Transcript) :
    Transcript.started (first ++ second) = Transcript.started first ++ Transcript.started second :=
  filterMap_append ..

@[simp] theorem Transcript.invoked_append (first second : Transcript) :
    Transcript.invoked (first ++ second) = Transcript.invoked first ++ Transcript.invoked second :=
  filterMap_append ..

theorem filterMap_quiet {select : Observation → Option SessionEvent}
    (hselect : ∀ observation, observation.isQuiet = true → select observation = none)
    {observations : List Observation}
    (hquiet : ∀ observation ∈ observations, observation.isQuiet = true) :
    observations.filterMap select = [] := by
  apply filterMap_eq_nil_iff.mpr
  intro observation hmem
  exact hselect observation (hquiet observation hmem)

section Quiet

variable {observations : List Observation}
  (hquiet : ∀ observation ∈ observations, observation.isQuiet = true)

include hquiet

theorem Transcript.accepted_quiet : Transcript.accepted observations = [] := by
  apply filterMap_quiet _ hquiet
  intro observation
  cases observation <;> simp [isQuiet, Observation.accepted?]

theorem Transcript.popped_quiet : Transcript.popped observations = [] := by
  apply filterMap_quiet _ hquiet
  intro observation
  cases observation <;> simp [isQuiet, Observation.popped?]

theorem Transcript.started_quiet : Transcript.started observations = [] := by
  apply filterMap_quiet _ hquiet
  intro observation
  cases observation <;> simp [isQuiet, Observation.started?]

theorem Transcript.invoked_quiet : Transcript.invoked observations = [] := by
  apply filterMap_quiet _ hquiet
  intro observation
  cases observation <;> simp [isQuiet, Observation.invoked?]

end Quiet

/-! ## Waiting events -/

def SessionSequenceState.stored (state : SessionSequenceState)
    (predicate : SessionEvent → Bool) : ℕ :=
  state.parked.countValues predicate + (state.pendingDisconnected.any predicate).toNat

def SessionView.waiting (view : SessionView n) (predicate : SessionEvent → Bool) :
    ℕ :=
  view.queue.countP predicate + view.weigh (holds predicate) + view.state.stored predicate

@[simp] theorem SessionSequenceState.stored_default (predicate : SessionEvent → Bool) :
    stored {} predicate = 0 := rfl

/-- How a waiting event can be lost in one step. -/
inductive Loss (lossy : Bool) (view after : SessionView n)
    (predicate : SessionEvent → Bool) : ℕ → Prop
  | nothing : Loss lossy view after predicate 0
  | dropped (w : Fin n) (event : SessionEvent) (stage : HandStage)
      (htask : view.tasks w = .hand event stage)
      (hstage : stage = .discarding ∨ stage = .takingPending) :
      Loss lossy view after predicate (predicate event).toNat
  | replaced (w : Fin n) (old event : SessionEvent)
      (htask : view.tasks w = .hand event .trying)
      (hkind : event.kind = .disconnected)
      (hpending : view.state.pendingDisconnected = some old)
      (hfailed : view.state.failed = true) :
      Loss lossy view after predicate (predicate old).toNat
  | cleared (lost : ℕ) (hfailed : after.state.failed = true)
      (hlost : lost + (view.state.salvaged.any predicate).toNat = view.state.stored predicate) :
      Loss lossy view after predicate lost
  | closed (lost : ℕ) (hclosed : after.registered = false)
      (hdisconnect : view.state.activeDisconnect = true)
      (hactive : view.state.active = true)
      (hlost : lost + view.queue.countP predicate = view.waiting predicate) :
      Loss lossy view after predicate lost
  | forced (lost : ℕ) (hlossy : lossy = true) : Loss lossy view after predicate lost

/-! ## The state functions -/

section StateFunctions

variable (predicate : SessionEvent → Bool)

theorem restart_holds (next : Option SessionEvent) :
    (restart next).holds predicate = (next.any predicate).toNat := by
  cases next <;> rfl

theorem takePendingDisconnected_stored (state : SessionSequenceState) :
    (takePendingDisconnected state).2.stored predicate +
        (restart (takePendingDisconnected state).1).holds predicate =
      state.stored predicate := by
  rw [restart_holds]
  rcases takePendingDisconnected_cases state with ⟨htake, _⟩ | ⟨htake, _⟩ <;> rw [htake]
  · simp
  · simp [stored]

theorem endSessionTurn_stored (hopen : state.activeDisconnect = false) :
    (endSessionTurn state).2.stored predicate + (restart (endSessionTurn state).1).holds predicate =
      state.stored predicate := by
  rw [restart_holds]
  have hend := turnEnd_endSessionTurn state
  generalize (endSessionTurn state).1 = next at hend ⊢
  generalize (endSessionTurn state).2 = after at hend ⊢
  cases hend with
  | disconnected hdisconnect => simp [hopen] at hdisconnect
  | failed | nothingParked => simp [stored]
  | unparked next _ _ hnext =>
    have hcount := OrderedMap.countValues_erase hnext predicate
    simp only [stored, Option.any_some]
    have htoNat : (if predicate next = true then 1 else 0) =
        (predicate next).toNat := by
      cases predicate next <;> rfl
    omega

theorem markSessionFailed_stored (hmark : (markSessionFailed state).1 = true) :
    (markSessionFailed state).2.stored predicate = (state.salvaged.any predicate).toNat := by
  rw [(markSessionFailed_true hmark).2]
  simp [stored]

theorem salvaged_le_stored (state : SessionSequenceState) :
    (state.salvaged.any predicate).toNat ≤ state.stored predicate := by
  unfold salvaged stored
  cases hfirst : state.parked.firstValue? SessionEvent.isDisconnected with
  | none => simp
  | some event =>
    obtain ⟨_, _, hmem⟩ := OrderedMap.firstValue?_some hfirst
    cases hevent : predicate event with
    | false => simp [hevent]
    | true =>
      have hpos := OrderedMap.countValues_pos_of_mem hmem hevent
      rw [Option.some_or, Option.any_some, hevent, Bool.toNat_true]
      omega

/-- A try moves the event on, starts it, or puts it in place of another. -/
theorem tryStartSessionTurn_stored {config : WorkerPoolConfig}
    {event : SessionEvent} {next : SessionSequenceState} {disposition : SessionTurnDisposition}
    (hstart : tryStartSessionTurn config event state = (disposition, next)) :
    ∃ lost, next.stored predicate + (tryTask event disposition).holds predicate +
          (Transcript.started (tryLog event disposition)).countP predicate + lost =
        state.stored predicate + (predicate event).toNat ∧
      (lost = 0 ∨
        (event.kind = .deferredCompletion ∧ lost = (predicate event).toNat) ∨
        ∃ old, event.kind = .disconnected ∧ state.failed = true ∧
          state.pendingDisconnected = some old ∧ lost = (predicate old).toNat) := by
  cases turnStart_tryStartSessionTurn hstart with
  | closed | badCompletion | failedPacket | invalid | limit =>
    exact ⟨0, by simp [tryTask, tryLog, Transcript.started], .inl rfl⟩
  | completion hkind =>
    exact ⟨(predicate event).toNat, by simp [tryTask, tryLog, hkind,
      Transcript.started, Observation.started?], .inr (.inl ⟨hkind, rfl⟩)⟩
  | early hkind =>
    exact ⟨(predicate event).toNat, by simp [tryTask, tryLog,
      Transcript.started, stored], .inr (.inl ⟨hkind, rfl⟩)⟩
  | pending hkind hfailed =>
    cases hpending : state.pendingDisconnected with
    | none =>
      simp [tryTask, tryLog, Transcript.started, stored, hpending]
    | some old =>
      refine ⟨(predicate old).toNat, ?_, .inr (.inr ⟨old, hkind, hfailed, rfl, rfl⟩)⟩
      simp only [tryTask, tryLog, Transcript.started, stored,
        hpending, Option.any_some, holds_idle, filterMap_nil,
        countP_nil]
      omega
  | startFailed hkind =>
    have hnot : event.kind ≠ .deferredCompletion := by simp [hkind]
    cases hevent : predicate event <;>
      simp [tryTask, tryLog, hnot, Transcript.started, Observation.started?, stored, hevent]
  | start hkind =>
    cases hevent : predicate event <;>
      simp [tryTask, tryLog, hkind, Transcript.started, Observation.started?, stored, hevent]
  | park _ _ _ _ habsent =>
    refine ⟨0, ?_, .inl rfl⟩
    have hcount : (state.parked.emplace event.sequence event).1.countValues predicate =
        state.parked.countValues predicate + (if predicate event then 1 else 0) :=
      OrderedMap.countValues_emplace habsent predicate
    have htoNat : (if predicate event = true then 1 else 0) =
        (predicate event).toNat := by
      cases predicate event <;> rfl
    simp only [tryTask, tryLog, Transcript.started, stored, holds_idle, filterMap_nil, countP_nil]
    omega

end StateFunctions

theorem tryLog_accepted (event : SessionEvent) (disposition : SessionTurnDisposition) :
    Transcript.accepted (tryLog event disposition) = [] := by
  cases disposition with
  | process =>
    by_cases hkind : event.kind = .deferredCompletion <;>
      simp [tryLog, hkind, Transcript.accepted, Observation.accepted?]
  | _ => rfl

@[simp] theorem SessionView.close_started (view : SessionView n) (event : SessionEvent) :
    Transcript.started (view.close event).log = Transcript.started view.log := by
  simp [close, Transcript.started, Observation.started?]

@[simp] theorem SessionView.close_invoked (view : SessionView n) (event : SessionEvent) :
    Transcript.invoked (view.close event).log = Transcript.invoked view.log := by
  simp [close, Transcript.invoked, Observation.invoked?]

@[simp] theorem SessionView.close_accepted (view : SessionView n) (event : SessionEvent) :
    Transcript.accepted (view.close event).log = Transcript.accepted view.log := by
  simp [close, Transcript.accepted, Observation.accepted?]

@[simp] theorem SessionView.close_waiting (view : SessionView n)
    (event : SessionEvent) (predicate : SessionEvent → Bool) :
    (view.close event).waiting predicate = view.queue.countP predicate := by
  simp [waiting, close, weigh]

/-! ## One step -/

/-- The books of one step for a class of events: what waits, was started or
is lost afterwards is what waited, was started or came in. -/
def Balances (lossy : Bool) (view after : SessionView n)
    (predicate : SessionEvent → Bool) : Prop :=
  ∃ lost, Loss lossy view after predicate lost ∧
    after.waiting predicate + (Transcript.started after.log).countP predicate + lost +
        (Transcript.accepted view.log).countP predicate =
      view.waiting predicate + (Transcript.started view.log).countP predicate +
        (Transcript.accepted after.log).countP predicate

section Balances

variable {lossy : Bool} {view : SessionView n} {predicate : SessionEvent → Bool}

theorem Balances.advance {w : Fin n} {task : Task}
    {observations : List Observation} {callable : Multiset ℕ} {lost : ℕ}
    (hloss : Loss lossy view ({ view with
      state := state
      callable := callable }.advance w task observations) predicate lost)
    (haccepted : Transcript.accepted observations = [])
    (hbooks : state.stored predicate + task.holds predicate +
        (Transcript.started observations).countP predicate + lost =
      view.state.stored predicate + (view.tasks w).holds predicate) :
    Balances lossy view ({ view with
      state := state
      callable := callable }.advance w task observations) predicate := by
  refine ⟨lost, hloss, ?_⟩
  have hweigh :=
    { view with state := state, callable := callable }.weigh_advance
      (holds predicate) w task observations
  simp only [waiting, advance_queue,
    advance_state, advance_log, Transcript.started_append,
    Transcript.accepted_append, haccepted, append_nil, countP_append]
  simp only [weigh] at hweigh ⊢
  omega

theorem Balances.sameHand {w : Fin n} {task : Task} {observations : List Observation}
    {callable : Multiset ℕ} (hholds : task.holds predicate = (view.tasks w).holds predicate)
    (haccepted : Transcript.accepted observations = [])
    (hstarted : Transcript.started observations = []) :
    Balances lossy view
      ({ view with callable := callable }.advance w task observations) predicate := by
  apply Balances.advance .nothing haccepted
  rw [hstarted, hholds, countP_nil, add_zero, add_zero]

end Balances

theorem SessionStep.balances {config : WorkerPoolConfig} {lossy : Bool}
    {view after : SessionView n} (hstep : SessionStep config lossy view after)
    (hinv : view.TurnInvariant) {predicate : SessionEvent → Bool}
    (hpredicate : ∀ event, predicate event = true → event.kind ≠ .deferredCompletion) :
    Balances lossy view after predicate := by
  have hcompletion : ∀ event : SessionEvent, event.kind = .deferredCompletion →
      predicate event = false := by
    intro event hkind
    cases hevent : predicate event with
    | false => rfl
    | true => exact absurd hkind (hpredicate event hevent)
  cases hstep with
  | push event =>
    refine ⟨0, .nothing, ?_⟩
    simp only [waiting, weigh, countP_append, Transcript.started_append, Transcript.accepted_append]
    simp only [Transcript.started, Transcript.accepted, Observation.started?,
      Observation.accepted?, filterMap_cons, filterMap_nil]
    cases hevent : predicate event with
    | false => simp [hevent]
    | true =>
      simp only [countP_singleton, countP_nil, hevent, if_true]
      omega
  | pop w event rest remaining htask hqueue =>
    refine ⟨0, .nothing, ?_⟩
    have hweigh := { view with registered := true, queue := rest }.weigh_advance
      (holds predicate) w (.hand event (.popped remaining)) [.popped event]
    have hhead : (if predicate event = true then 1 else 0) =
        (predicate event).toNat := by
      cases predicate event <;> rfl
    simp only [htask, holds_idle, holds_hand, weigh, add_zero] at hweigh
    simp only [waiting, weigh, advance_queue,
      advance_state, advance_log, hqueue, countP_cons,
      Transcript.started_append, Transcript.accepted_append, countP_append,
      hweigh]
    simp only [Transcript.started, Transcript.accepted, Observation.started?,
      Observation.accepted?, filterMap_cons, filterMap_nil, countP_nil]
    omega
  | handMove _ _ _ _ _ htask _ hquiet | turnMove _ _ _ _ _ htask _ hquiet =>
    exact Balances.sameHand (by simp [htask]) (Transcript.accepted_quiet hquiet)
      (Transcript.started_quiet hquiet)
  | tryStart w event disposition state htask hstart =>
    obtain ⟨lost, hbooks, hcase⟩ :=
      tryStartSessionTurn_stored predicate hstart
    have hloss : Loss lossy view ({ view with state := state }.advance w
        (tryTask event disposition) (tryLog event disposition)) predicate lost := by
      rcases hcase with rfl | ⟨hkind, rfl⟩ | ⟨old, hkind, hfailed, hpending, rfl⟩
      · exact .nothing
      · rw [hcompletion event hkind]
        exact .nothing
      · exact .replaced w old event htask hkind hpending hfailed
    apply Balances.advance hloss (tryLog_accepted event disposition)
    rw [htask]
    exact hbooks
  | discard w event htask =>
    apply Balances.advance (.dropped w event .discarding htask (.inl rfl)) rfl
    simp [htask, Transcript.started]
  | failHand _ _ _ htask hmark =>
    have hstored := markSessionFailed_stored predicate hmark
    have hle := salvaged_le_stored predicate view.state
    refine Balances.advance (.cleared (view.state.stored predicate -
      (view.state.salvaged.any predicate).toNat) ?_ ?_) rfl ?_
    · rw [advance_state, (markSessionFailed_true hmark).2]
    · omega
    · simp only [htask, holds_hand, Transcript.started, Observation.started?,
        filterMap_cons, filterMap_nil, countP_nil, hstored]
      omega
  | takePending w event htask =>
    have hstored := takePendingDisconnected_stored predicate view.state
    apply Balances.advance (.dropped w event .takingPending htask (.inr rfl)) rfl
    simp only [htask, holds_hand, Transcript.started, filterMap_nil, countP_nil]
    omega
  | failTurn _ _ _ htask hmark =>
    have hstored := markSessionFailed_stored predicate hmark
    have hle := salvaged_le_stored predicate view.state
    refine Balances.advance (.cleared (view.state.stored predicate -
      (view.state.salvaged.any predicate).toNat) ?_ ?_) rfl ?_
    · rw [advance_state, (markSessionFailed_true hmark).2]
    · omega
    · simp only [htask, holds_turn, Transcript.started, Observation.started?,
        filterMap_cons, filterMap_nil, countP_nil, hstored]
      omega
  | invoke _ _ htask | handlerReturn _ _ _ htask | handlerThrow _ _ _ htask
  | finishInline _ _ _ _ htask | finishOpen _ _ _ htask =>
    exact Balances.sameHand (by simp [htask]) rfl rfl
  | markDeferred _ _ inlineCompletion earlyCompletion state htask hdefer =>
    obtain ⟨rfl, rfl⟩ := markSessionDeferred_some hdefer
    apply Balances.advance .nothing rfl
    have hnone : ((inlineCompletion.or view.state.earlyCompletion).any predicate).toNat = 0 := by
      cases hcase : inlineCompletion.or view.state.earlyCompletion with
      | none => rfl
      | some completion =>
        have hkind : completion.kind = .deferredCompletion := by
          rcases Option.or_eq_some_iff.mp hcase with hinline | ⟨_, hearly⟩
          · exact ((hinv.turnOpen htask).inlineCompletion completion hinline).1
          · exact (hinv.slots.early completion hearly).1
        simp [hcompletion completion hkind]
    rw [restart_holds, hnone, htask]
    simp [Transcript.started, stored]
  | endOpen _ _ htask hopen =>
    have hstored := endSessionTurn_stored predicate hopen
    apply Balances.advance .nothing rfl
    simp only [htask, holds_turn, Transcript.started, Observation.started?,
      filterMap_cons, filterMap_nil, countP_nil]
    omega
  | endClosed _ _ htask hclosed =>
    have hopen := hinv.turnOpen htask
    have hle : view.queue.countP predicate ≤ view.waiting predicate := by
      unfold waiting
      omega
    refine ⟨view.waiting predicate - view.queue.countP predicate,
      .closed _ rfl hclosed hopen.active (by omega), ?_⟩
    rw [close_waiting, close_started, close_accepted]
    omega
  | pushCompletion completion _ hkind _ _ hquiet =>
    refine ⟨0, .nothing, ?_⟩
    simp only [waiting, weigh, countP_append,
      Transcript.started_append, Transcript.accepted_append,
      Transcript.accepted_quiet hquiet, Transcript.started_quiet hquiet,
      countP_singleton, hcompletion completion hkind, countP_nil]
    simp
  | refuseCompletion _ _ _ hquiet | observe _ hquiet =>
    refine ⟨0, .nothing, ?_⟩
    simp only [waiting, weigh, Transcript.started_append,
      Transcript.accepted_append, Transcript.accepted_quiet hquiet,
      Transcript.started_quiet hquiet, append_nil]
    rfl
  | lose _ event _ htask hlossy =>
    apply Balances.advance (.forced (predicate event).toNat hlossy) rfl
    simp [htask, Transcript.started]

end SessionServer.WorkerPool
