import SessionServer.SessionTurnPreservation

/-!
# Stages of rejected events and the slots of a failed session

What a worker does with an event it must not run says something about the
session: it is discarded, or its rejection is under way, only once the session
has failed.  A failed session has nothing parked, and a Disconnected event
put aside for it is taken up by the end of the running turn or by a worker
that is about to look for it.
-/

namespace SessionServer.WorkerPool

open SessionSequenceState

variable {n : ℕ}
variable {view : SessionView n} {event : SessionEvent} {state : SessionSequenceState}

structure SessionView.StageInvariant (view : SessionView n) : Prop where
  rejected : ∀ w event stage, view.tasks w = .hand event stage →
    stage = .discarding ∨ stage = .disconnecting ∨ stage = .takingPending → view.state.failed = true
  discarding : ∀ w event, view.tasks w = .hand event .discarding → event.kind ≠ .disconnected
  takingPending : ∀ w event, view.tasks w = .hand event .takingPending → event.kind ≠ .disconnected
  parkedEmpty : view.state.failed = true → view.state.parked.entries = []
  pendingFailed : ∀ event, view.state.pendingDisconnected = some event → view.state.failed = true
  nextParked : view.state.active = false → view.state.failed = false →
    ∀ entry ∈ view.state.parked.entries, entry.1 ≠ view.state.nextSequence

/-- What the invariant asks of one worker. -/
def Task.Rejects (state : SessionSequenceState) : Task → Prop
  | .hand event .discarding =>
    state.failed = true ∧ event.kind ≠ .disconnected
  | .hand _ .disconnecting => state.failed = true
  | .hand event .takingPending =>
    state.failed = true ∧ event.kind ≠ .disconnected
  | _ => True

theorem SessionView.StageInvariant.rejects (hstage : view.StageInvariant) (w : Fin n) :
    (view.tasks w).Rejects view.state := by
  cases htask : view.tasks w with
  | hand event stage =>
    cases stage with
    | discarding =>
      exact ⟨hstage.rejected w event _ htask (by simp), hstage.discarding w event htask⟩
    | disconnecting => exact hstage.rejected w event _ htask (by simp)
    | takingPending =>
      exact ⟨hstage.rejected w event _ htask (by simp), hstage.takingPending w event htask⟩
    | _ => trivial
  | _ => trivial

/-- What the invariant asks of the state. -/
structure SessionSequenceState.Settled (state : SessionSequenceState) : Prop where
  parkedEmpty : state.failed = true → state.parked.entries = []
  pendingFailed : ∀ event, state.pendingDisconnected = some event → state.failed = true
  nextParked : state.active = false → state.failed = false →
    ∀ entry ∈ state.parked.entries, entry.1 ≠ state.nextSequence

theorem SessionView.StageInvariant.settled (hstage : view.StageInvariant) : view.state.Settled :=
  ⟨hstage.parkedEmpty, hstage.pendingFailed, hstage.nextParked⟩

theorem SessionView.StageInvariant.of_rejects (htasks : ∀ w, (view.tasks w).Rejects view.state)
    (hsettled : view.state.Settled) : view.StageInvariant := by
  constructor
  · intro w event _ htask hcase
    have hrejects := htasks w
    rw [htask] at hrejects
    rcases hcase with rfl | rfl | rfl
    · exact hrejects.1
    · exact hrejects
    · exact hrejects.1
  · intro w event htask
    have hrejects := htasks w
    rw [htask] at hrejects
    exact hrejects.2
  · intro w _ htask
    have hrejects := htasks w
    rw [htask] at hrejects
    exact hrejects.2
  · exact hsettled.parkedEmpty
  · exact hsettled.pendingFailed
  · exact hsettled.nextParked

theorem SessionSequenceState.settled_default : SessionSequenceState.Settled {} := by
  constructor <;> simp

theorem SessionView.initial_stageInvariant (n : ℕ) (sessionId : SessionId) :
    (SessionView.initial n sessionId).StageInvariant :=
  .of_rejects (fun _ => trivial) settled_default

theorem Task.Rejects.mono {before after : SessionSequenceState} {task : Task}
    (hrejects : task.Rejects before) (hfailed : before.failed = true → after.failed = true) :
    task.Rejects after := by
  cases task with
  | hand _ stage =>
    cases stage with
    | discarding | takingPending => exact ⟨hfailed hrejects.1, hrejects.2⟩
    | disconnecting => exact hfailed hrejects
    | _ => trivial
  | _ => trivial

theorem restart_rejects (next : Option SessionEvent) (state : SessionSequenceState) :
    (restart next).Rejects state := by
  cases next <;> trivial

theorem afterRejection_rejects (hfailed : state.failed = true) :
    (Task.hand event (afterRejection event)).Rejects state := by
  unfold afterRejection
  split
  next => trivial
  next hkind => exact ⟨hfailed, hkind⟩

theorem HandMove.rejects {stage next : HandStage} (hmove : HandMove state event stage next)
    (hclosed : state.closed = false) (hrejects : (Task.hand event stage).Rejects state) :
    (Task.hand event next).Rejects state := by
  cases hmove with
  | notify | enter => trivial
  | alreadyFailed _ hmark =>
    apply afterRejection_rejects
    cases hfailed : state.failed with
    | true => rfl
    | false => simp [markSessionFailed, hfailed, hclosed] at hmark
  | disconnected => exact afterRejection_rejects hrejects

/-! ## The state functions -/

theorem SessionSequenceState.Settled.markSessionFailed
    (hmark : (WorkerPool.markSessionFailed state).1 = true) :
    (WorkerPool.markSessionFailed state).2.Settled := by
  rw [(markSessionFailed_true hmark).2]
  constructor <;> simp

theorem SessionSequenceState.Settled.takePending
    (hsettled : state.Settled) : (takePendingDisconnected state).2.Settled := by
  rcases takePendingDisconnected_cases state with ⟨htake, _⟩ | ⟨htake, _⟩ <;> rw [htake]
  · exact hsettled
  · exact ⟨hsettled.parkedEmpty, by simp, hsettled.nextParked⟩

theorem SessionSequenceState.Settled.endSessionTurn
    (hsettled : state.Settled) (hopen : state.activeDisconnect = false) :
    (WorkerPool.endSessionTurn state).2.Settled := by
  have hend := turnEnd_endSessionTurn state
  generalize (WorkerPool.endSessionTurn state).1 = next at hend
  generalize (WorkerPool.endSessionTurn state).2 = after at hend ⊢
  cases hend with
  | disconnected hdisconnect => simp [hopen] at hdisconnect
  | failed _ hfailed =>
    constructor
    · exact hsettled.parkedEmpty
    · simp
    · simp [hfailed]
  | nothingParked _ _ hnext =>
    constructor
    · exact hsettled.parkedEmpty
    · exact hsettled.pendingFailed
    · intro _ _
      exact (OrderedMap.find?_eq_none_iff _ _).mp hnext
  | unparked _ _ hfailed =>
    constructor
    · simp [hfailed]
    · exact hsettled.pendingFailed
    · intro _ _ _ hentry
      exact ((OrderedMap.mem_erase _ _ _).mp hentry).2

theorem SessionSequenceState.Settled.tryStart {config : WorkerPoolConfig}
    {next : SessionSequenceState} {disposition : SessionTurnDisposition} (hsettled : state.Settled)
    (hclosed : state.closed = false)
    (hstart : tryStartSessionTurn config event state = (disposition, next)) :
    next.Settled ∧ (tryTask event disposition).Rejects next ∧ next.failed = state.failed := by
  cases turnStart_tryStartSessionTurn hstart with
  | closed hclosed' => simp [hclosed] at hclosed'
  | completion hkind =>
    simp only [tryTask, hkind, if_true]
    trivial
  | early =>
    exact ⟨⟨hsettled.parkedEmpty, hsettled.pendingFailed, hsettled.nextParked⟩, trivial, rfl⟩
  | badCompletion | invalid | limit => exact ⟨hsettled, trivial, rfl⟩
  | failedPacket hkind hfailed => exact ⟨hsettled, ⟨hfailed, by simp [hkind]⟩, rfl⟩
  | pending _ hfailed =>
    exact ⟨⟨hsettled.parkedEmpty, fun _ _ => hfailed, hsettled.nextParked⟩, trivial, rfl⟩
  | startFailed hkind =>
    have hnot : event.kind ≠ .deferredCompletion := by simp [hkind]
    refine ⟨⟨hsettled.parkedEmpty, hsettled.pendingFailed, by simp⟩, ?_, rfl⟩
    simp only [tryTask, hnot, if_false]
    trivial
  | start hkind =>
    refine ⟨⟨hsettled.parkedEmpty, hsettled.pendingFailed, by simp⟩, ?_, rfl⟩
    simp only [tryTask, hkind, if_false]
    trivial
  | park _ hfailed hlate _ habsent =>
    refine ⟨⟨by simp [hfailed], hsettled.pendingFailed, ?_⟩, trivial, rfl⟩
    intro hinactive _ entry hentry
    have hne : state.nextSequence ≠ event.sequence := by
      rcases hlate with hactive | hne
      · simp [hactive] at hinactive
      · exact hne
    rcases (OrderedMap.mem_emplace habsent entry).mp hentry with rfl | hold
    · exact hne.symm
    · exact hsettled.nextParked hinactive hfailed entry hold

/-! ## One step -/

theorem SessionView.StageInvariant.advance (hstage : view.StageInvariant) {w : Fin n}
    {task : Task} {observations : List Observation} (hsettled : state.Settled)
    (hfailed : view.state.failed = true → state.failed = true) (htask : task.Rejects state) :
    ({ view with state := state }.advance w task observations).StageInvariant := by
  apply SessionView.StageInvariant.of_rejects
  · apply SessionView.forall_advance
    · exact htask
    · intro other _
      exact (hstage.rejects other).mono hfailed
  · exact hsettled

theorem SessionView.StageInvariant.step {config : WorkerPoolConfig} {lossy : Bool}
    {after : SessionView n} (hstage : view.StageInvariant)
    (hinv : view.TurnInvariant) (hstep : SessionStep config lossy view after) :
    after.StageInvariant := by
  have hsettled := hstage.settled
  have hrejects : ∀ w task, view.tasks w = task → task.Rejects view.state := by
    intro w _ htask
    rw [← htask]
    exact hstage.rejects w
  cases hstep with
  | push | pushCompletion | refuseCompletion | observe => exact .of_rejects hstage.rejects hsettled
  | pop _ _ rest =>
    have hkept : { view with registered := true, queue := rest }.StageInvariant :=
      .of_rejects hstage.rejects hsettled
    exact hkept.advance hsettled id trivial
  | handMove w _ _ _ _ htask hmove =>
    exact hstage.advance hsettled id (hmove.rejects hinv.notClosed (hrejects w _ htask))
  | tryStart _ _ _ _ _ hstart =>
    obtain ⟨hnext, htry, hfailed⟩ := hsettled.tryStart hinv.notClosed hstart
    exact hstage.advance hnext (fun h => hfailed.trans h) htry
  | discard | turnMove | invoke | handlerReturn | handlerThrow | finishInline | lose =>
    exact hstage.advance hsettled id trivial
  | failHand _ _ _ _ hmark =>
    have hfailed : (markSessionFailed view.state).2.failed = true := by
      rw [(markSessionFailed_true hmark).2]
    exact hstage.advance (.markSessionFailed hmark) (fun _ => hfailed) hfailed
  | takePending =>
    have hfailed : (takePendingDisconnected view.state).2.failed = view.state.failed := by
      rcases takePendingDisconnected_cases view.state with ⟨htake, _⟩ | ⟨htake, _⟩ <;> rw [htake]
    exact hstage.advance hsettled.takePending (fun h => hfailed.trans h) (restart_rejects _ _)
  | failTurn _ _ _ _ hmark =>
    have hfailed : (markSessionFailed view.state).2.failed = true := by
      rw [(markSessionFailed_true hmark).2]
    exact hstage.advance (.markSessionFailed hmark) (fun _ => hfailed) trivial
  | finishOpen _ event =>
    have hkept : { view with
        callable := event.sequence ::ₘ view.callable }.StageInvariant :=
      .of_rejects hstage.rejects hsettled
    exact hkept.advance hsettled id trivial
  | markDeferred _ _ _ _ _ _ hdefer =>
    obtain ⟨rfl, rfl⟩ := markSessionDeferred_some hdefer
    exact hstage.advance
      ⟨hsettled.parkedEmpty, hsettled.pendingFailed, hsettled.nextParked⟩ id
      (restart_rejects _ _)
  | endOpen _ _ _ hopen =>
    have hfailed := (turnEnds_endSessionTurn view.state).failed
    exact hstage.advance (hsettled.endSessionTurn hopen) (fun h => hfailed.trans h)
      (restart_rejects _ _)
  | endClosed =>
    exact .of_rejects (fun _ => trivial) settled_default

end SessionServer.WorkerPool
