import SessionServer.SessionLedger

/-!
# What a step does to the turns of a session

Most steps leave the turn in progress alone.  The others start a turn, call
its handler, end it, or end the last one and close the session.  The order
and cleanup arguments need no more than this about a step.
-/

namespace SessionServer.WorkerPool

open Transcript SessionView SameTurn Function List

variable {n : ℕ}

/-- The step neither starts nor ends a turn nor calls a handler. -/
structure KeepsTurn (view after : SessionView n) : Prop where
  nextSequence : after.state.nextSequence = view.state.nextSequence
  active : after.state.active = view.state.active
  activeDisconnect : after.state.activeDisconnect = view.state.activeDisconnect
  started : started after.log = started view.log
  invoked : invoked after.log = invoked view.log
  skipping : ∀ w event, after.tasks w = .turn event .skipping → view.tasks w = .turn event .skipping
  skipped : ∀ w event, view.tasks w = .turn event .skipping →
    after.tasks w = .turn event .skipping ∨ (view.state.failed = true ∧ event.kind ≠ .disconnected)

structure StartsTurn (view after : SessionView n) (w : Fin n)
    (event : SessionEvent) : Prop where
  task : view.tasks w = .hand event .trying
  kind : event.kind ≠ .deferredCompletion
  inactive : view.state.active = false
  active : after.state.active = true
  nextSequence : after.state.nextSequence = event.sequence
  cause : (view.state.failed = false ∧ view.state.nextSequence = event.sequence ∧
      after.state.activeDisconnect = event.isDisconnected) ∨
    (view.state.failed = true ∧ event.kind = .disconnected ∧ after.state.activeDisconnect = true)
  started : started after.log = started view.log ++ [event]
  invoked : invoked after.log = invoked view.log
  tasks : after.tasks = update view.tasks w (.turn event .skipping)

structure InvokesHandler (view after : SessionView n) (w : Fin n)
    (event : SessionEvent) : Prop where
  task : view.tasks w = .turn event .skipping
  state : after.state = view.state
  started : started after.log = started view.log
  invoked : invoked after.log = invoked view.log ++ [event]
  tasks : after.tasks = update view.tasks w (.turn event (.handling {}))

structure EndsTurn (view after : SessionView n) (w : Fin n)
    (event : SessionEvent) : Prop where
  task : view.tasks w = .turn event .ending
  open_ : view.state.activeDisconnect = false
  inactive : after.state.active = false
  activeDisconnect : after.state.activeDisconnect = false
  nextSequence : after.state.nextSequence = view.state.nextSequence + 1
  started : started after.log = started view.log
  invoked : invoked after.log = invoked view.log
  tasks : ∃ next, after.tasks = update view.tasks w (restart next)

inductive TurnChange (view after : SessionView n) : Prop
  | keeps (hkeeps : KeepsTurn view after)
  | starts (w : Fin n) (event : SessionEvent) (hstarts : StartsTurn view after w event)
  | invokes (w : Fin n) (event : SessionEvent) (hinvokes : InvokesHandler view after w event)
  | ends (w : Fin n) (event : SessionEvent) (hends : EndsTurn view after w event)
  | closes (w : Fin n) (event : SessionEvent)
      (htask : view.tasks w = .turn event .ending)
      (hdisconnect : view.state.activeDisconnect = true)
      (hafter : after = view.close event)

section TurnChange

variable {view : SessionView n} {w : Fin n} {state : SessionSequenceState}
  {task : Task} {observations : List Observation}

theorem KeepsTurn.advance (hsame : SameTurn view.state state)
    (hstarted : Transcript.started observations = [])
    (hinvoked : Transcript.invoked observations = [])
    (htask : ∀ event, task ≠ .turn event .skipping)
    (hskipped : ∀ event, view.tasks w = .turn event .skipping →
      view.state.failed = true ∧ event.kind ≠ .disconnected) :
    KeepsTurn view ({ view with state := state }.advance w task observations) := by
  constructor
  · exact hsame.nextSequence
  · exact hsame.active
  · exact hsame.activeDisconnect
  · rw [advance_log, started_append, hstarted, append_nil]
  · rw [advance_log, invoked_append, hinvoked, append_nil]
  · intro v event hv
    by_cases hvw : v = w
    · subst hvw
      simp only [advance, update_self] at hv
      exact absurd hv (htask event)
    · simpa only [SessionView.advance, update_of_ne hvw] using hv
  · intro v event hv
    by_cases hvw : v = w
    · subst hvw
      exact .inr (hskipped event hv)
    · left
      simpa only [SessionView.advance, update_of_ne hvw] using hv

theorem KeepsTurn.ofHand {event : SessionEvent} {stage : HandStage}
    (hhand : view.tasks w = .hand event stage) (hsame : SameTurn view.state state)
    (hstarted : Transcript.started observations = [])
    (hinvoked : Transcript.invoked observations = []) (htask : task.turns = 0) :
    KeepsTurn view ({ view with state := state }.advance w task observations) := by
  apply KeepsTurn.advance hsame hstarted hinvoked
  · intro other heq
    simp [heq] at htask
  · intro _ heq
    simp [hhand] at heq

theorem KeepsTurn.requeue {queue : List SessionEvent} {callable : Multiset ℕ}
    {log : Transcript} (hstarted : Transcript.started log = Transcript.started view.log)
    (hinvoked : Transcript.invoked log = Transcript.invoked view.log) :
    KeepsTurn view { view with queue := queue, callable := callable, log := log } :=
  ⟨rfl, rfl, rfl, hstarted, hinvoked, fun _ _ h => h, fun _ _ h => .inl h⟩

end TurnChange

theorem StartsTurn.ofTry {view : SessionView n} {w : Fin n}
    {event : SessionEvent} {state : SessionSequenceState}
    (htask : view.tasks w = .hand event .trying) (hkind : event.kind ≠ .deferredCompletion)
    (hinactive : view.state.active = false) (hactive : state.active = true)
    (hnext : state.nextSequence = event.sequence)
    (hcause : (view.state.failed = false ∧ view.state.nextSequence = event.sequence ∧
        state.activeDisconnect = event.isDisconnected) ∨
      (view.state.failed = true ∧ event.kind = .disconnected ∧ state.activeDisconnect = true)) :
    StartsTurn view ({ view with state := state }.advance w (.turn event .skipping)
      [.started event]) w event := by
  constructor
  · exact htask
  · exact hkind
  · exact hinactive
  · exact hactive
  · exact hnext
  · exact hcause
  · rw [advance_log, started_append]
    rfl
  · rw [advance_log, invoked_append]
    exact append_nil _
  · rfl

theorem SessionStep.turnChange {config : WorkerPoolConfig} {lossy : Bool}
    {view after : SessionView n} (hstep : SessionStep config lossy view after)
    (hinv : view.TurnInvariant) : TurnChange view after := by
  cases hstep with
  | push =>
    apply TurnChange.keeps
    apply KeepsTurn.requeue
    · rw [Transcript.started_append]
      exact append_nil _
    · rw [Transcript.invoked_append]
      exact append_nil _
  | pop w event rest remaining htask =>
    have hadvance : KeepsTurn { view with registered := true, queue := rest }
        ({ view with registered := true, queue := rest }.advance w
          (.hand event (.popped remaining)) [.popped event]) := by
      apply KeepsTurn.advance (refl _) rfl rfl (by simp)
      intro other heq
      simp [htask] at heq
    exact .keeps ⟨hadvance.nextSequence, hadvance.active, hadvance.activeDisconnect,
      hadvance.started, hadvance.invoked, hadvance.skipping, hadvance.skipped⟩
  | handMove _ _ _ _ _ htask _ hquiet =>
    exact .keeps (.ofHand htask (refl _) (started_quiet hquiet) (invoked_quiet hquiet) rfl)
  | tryStart w event _ _ htask hstart =>
    cases turnStart_tryStartSessionTurn hstart with
    | closed | badCompletion | failedPacket | invalid | limit =>
      exact .keeps (.ofHand htask (refl _) rfl rfl rfl)
    | completion hkind =>
      simp only [tryTask, tryLog, hkind, if_true]
      apply TurnChange.keeps
      apply KeepsTurn.advance (refl _) rfl rfl
      · intro other heq
        have hstage := (Task.turn.inj heq).2
        rcases completionStage_cases event with hcase | ⟨messages, hcase⟩ <;> simp [hcase] at hstage
      · intro other heq
        simp [htask] at heq
    | early | pending | park => exact .keeps (.ofHand htask ⟨rfl, rfl, rfl, rfl, rfl⟩ rfl rfl rfl)
    | startFailed hkind hfailed hactive =>
      have hnot : event.kind ≠ .deferredCompletion := by simp [hkind]
      simp only [tryTask, tryLog, hnot, if_false]
      exact .starts w event (.ofTry htask hnot hactive rfl rfl (.inr ⟨hfailed, hkind, rfl⟩))
    | start hkind hfailed hactive hsequence =>
      simp only [tryTask, tryLog, hkind, if_false]
      exact .starts w event (.ofTry htask hkind hactive rfl hsequence
        (.inl ⟨hfailed, hsequence, rfl⟩))
  | discard _ _ htask | lose _ _ _ htask => exact .keeps (.ofHand htask (refl _) rfl rfl rfl)
  | failHand _ _ _ htask hmark =>
    exact .keeps (.ofHand htask (markSessionFailed_sameTurn hmark) rfl rfl rfl)
  | takePending _ _ htask =>
    apply TurnChange.keeps
    apply KeepsTurn.ofHand htask (takePendingDisconnected_sameTurn _) rfl rfl
    cases (takePendingDisconnected view.state).1 <;> rfl
  | turnMove _ _ _ next _ htask hmove hquiet =>
    apply TurnChange.keeps
    apply KeepsTurn.advance (refl _) (started_quiet hquiet) (invoked_quiet hquiet)
    · intro other heq
      have hnext := (Task.turn.inj heq).2
      cases hmove <;> simp at hnext
    · intro other heq
      rw [htask] at heq
      have hstage := (Task.turn.inj heq).2
      cases hmove with
      | skip hskip =>
        have hsame := (Task.turn.inj heq).1
        subst hsame
        unfold shouldSkipFailedSession at hskip
        split at hskip
        next => simp at hskip
        next hkind => exact ⟨by simpa [hinv.notClosed] using hskip, hkind⟩
      | _ => simp at hstage
  | failTurn _ _ _ htask hmark =>
    apply TurnChange.keeps
    apply KeepsTurn.advance (markSessionFailed_sameTurn hmark) rfl rfl (by simp)
    intro other heq
    simp [htask] at heq
  | invoke w event htask =>
    apply TurnChange.invokes w event
    constructor
    · exact htask
    · rfl
    · rw [advance_log, started_append]
      exact append_nil _
    · rw [advance_log, invoked_append]
      rfl
    · rfl
  | handlerReturn _ _ _ htask | handlerThrow _ _ _ htask | finishInline _ _ _ _ htask =>
    apply TurnChange.keeps
    apply KeepsTurn.advance (refl _) rfl rfl (by simp)
    intro other heq
    simp [htask] at heq
  | finishOpen w event context htask =>
    have hadvance : KeepsTurn
        { view with callable := event.sequence ::ₘ view.callable }
        ({ view with callable := event.sequence ::ₘ view.callable }.advance w
          (.turn event (.publishing context.messages true none)) []) := by
      apply KeepsTurn.advance (refl _) rfl rfl (by simp)
      intro other heq
      simp [htask] at heq
    exact .keeps ⟨hadvance.nextSequence, hadvance.active, hadvance.activeDisconnect,
      hadvance.started, hadvance.invoked, hadvance.skipping, hadvance.skipped⟩
  | markDeferred w _ inlineCompletion earlyCompletion state htask hdefer =>
    obtain ⟨rfl, rfl⟩ := markSessionDeferred_some hdefer
    apply TurnChange.keeps
    constructor
    · rfl
    · rfl
    · rfl
    · rw [advance_log, append_nil]
    · rw [advance_log, append_nil]
    · intro v other hv
      by_cases hvw : v = w
      · subst hvw
        simp only [advance, update_self] at hv
        cases hcase : inlineCompletion.or view.state.earlyCompletion <;> simp [hcase, restart] at hv
      · simpa only [advance, update_of_ne hvw] using hv
    · intro v _ hv
      by_cases hvw : v = w
      · subst hvw
        simp [htask] at hv
      · left
        simpa only [advance, update_of_ne hvw] using hv
  | endOpen w event htask hopen =>
    have hend := turnEnds_endSessionTurn view.state
    apply TurnChange.ends w event
    constructor
    · exact htask
    · exact hopen
    · exact hend.active
    · exact hend.activeDisconnect.trans hopen
    · exact hend.nextSequence
    · rw [advance_log, started_append]
      exact append_nil _
    · rw [advance_log, invoked_append]
      exact append_nil _
    · exact ⟨_, rfl⟩
  | endClosed w event htask hclosed => exact .closes w event htask hclosed rfl
  | pushCompletion _ _ _ _ _ hquiet | refuseCompletion _ _ _ hquiet | observe _ hquiet =>
    apply TurnChange.keeps
    apply KeepsTurn.requeue
    · rw [Transcript.started_append, Transcript.started_quiet hquiet, append_nil]
    · rw [Transcript.invoked_append, Transcript.invoked_quiet hquiet, append_nil]

end SessionServer.WorkerPool
