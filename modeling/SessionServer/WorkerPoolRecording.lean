import SessionServer.TurnOutput
import SessionServer.WorkerPoolSerialisation

/-!
# Recording what the pool publishes

A recording keeps, beside the pool, what the handlers and the completions
emitted and what was pushed to the outbox, in order.  `Pool.OutputMove` says
what one step of the pool adds to it and what the step does to the turns.
-/

namespace SessionServer.WorkerPool

open Observation SameTurn OutputEntry WorkerSessionEventContext Pool Worker Function

variable {n : ℕ} {config : WorkerPoolConfig} {pool after : Pool n}
variable {sessionId : SessionId} {event : SessionEvent} {action : Action n}

/-! ## The recording -/

def Observation.output? (commands : Bool) : Observation → Option OutputEntry
  | .invoked event => some (.invoked event)
  | .returned event outcome => some (.returned event outcome)
  | .processed completion => some (.processed completion)
  | .ended event _ => some (.ended event)
  | .published event message =>
    some (if commands then .commanded event message else .published event message)
  | _ => none

def emission (config : WorkerPoolConfig) (forced : Bool) (event : SessionEvent)
    (context : WorkerSessionEventContext) (message : OutboundMessage) : List OutputEntry :=
  if (context.emit config forced event message).1 = .accepted then [.emitted event message]
  else []

/-- The message a context accepts in this step. -/
def Pool.emits (config : WorkerPoolConfig) (pool : Pool n) : Action n → List OutputEntry
  | .emit w message =>
    match pool.workers w with
    | .turn event _ (.handling context) =>
      emission config pool.forceStopRequested event context message
    | _ => []
  | .work w =>
    match pool.workers w with
    | .turn event _ (.completing context (message :: _)) =>
      emission config pool.forceStopRequested event context message
    | _ => []
  | _ => []

/-- The step publishes the command that follows a failure. -/
def Pool.commands (pool : Pool n) : Action n → Bool
  | .work w =>
    match pool.workers w with
    | .hand _ _ .disconnecting => true
    | .turn _ _ .disconnecting => true
    | _ => false
  | _ => false

def Pool.output (config : WorkerPoolConfig) (pool after : Pool n) (action : Action n) :
    List OutputEntry :=
  pool.emits config action ++ (after.transcript.drop pool.transcript.length).filterMap
    (output? (pool.commands action))

/-- The network thread takes a message out of the outbox. -/
def Pool.takes (pool : Pool n) : Action n → List OutboundMessage
  | .popOutbound => pool.outbox.items.take 1
  | _ => []

structure Recording (n : ℕ) where
  pool : Pool n
  entries : List OutputEntry
  taken : List OutboundMessage

def Recording.initial (n : ℕ) (inbox : BoundedBlockingQueue SessionEvent)
    (outbox : BoundedBlockingQueue OutboundMessage) : Recording n where
  pool := Pool.initial n inbox outbox
  entries := []
  taken := []

def Recording.step (config : WorkerPoolConfig) (recording : Recording n)
    (action : Action n) : Option (Recording n) :=
  (recording.pool.step config action).map fun after =>
    { pool := after
      entries := recording.entries ++ recording.pool.output config after action
      taken := recording.taken ++ recording.pool.takes action }

/-- The output of one session, commands left out. -/
def Recording.outputOf (recording : Recording n) (sessionId : SessionId) :
    List OutputEntry :=
  recording.entries.filter fun entry => !entry.isCommand && entry.sessionId == sessionId

/-- Recorded from the start of the pool on, with the outbox open at each step. -/
def Recording.Reachable (config : WorkerPoolConfig) (recording : Recording n) : Prop :=
  ∃ inbox outbox, inbox.items = [] ∧ inbox.closed = false ∧ outbox.items = [] ∧
    TransitionSystem.Reaches (Recording.step config)
      (fun before _ => before.pool.outbox.closed = false)
      (Recording.initial n inbox outbox) recording

/-! ## What one step does to the turns and the output -/

def Worker.turn? : Worker → Option (SessionEvent × TurnStage)
  | .turn event _ stage => some (event, stage)
  | _ => none

def Pool.turns (pool : Pool n) (w : Fin n) : Option (SessionEvent × TurnStage) :=
  (pool.workers w).turn?

/-- A worker that is in no turn of the session. -/
def Apart (sessionId : SessionId) (turn : Option (SessionEvent × TurnStage)) : Prop :=
  ∀ event stage, turn = some (event, stage) → event.sessionId ≠ sessionId

theorem apart_none (sessionId : SessionId) : Apart sessionId none := by
  intro _ _ hturn
  simp at hturn

theorem apart_some (hsession : event.sessionId ≠ sessionId) (stage : TurnStage) :
    Apart sessionId (some (event, stage)) := by
  intro _ _ hturn
  simp only [Option.some.injEq, Prod.mk.injEq] at hturn
  rw [← hturn.1]
  exact hsession

inductive Pool.OutputMove (config : WorkerPoolConfig) (pool after : Pool n) :
    List OutputEntry → Prop
  | quiet (hturns : after.turns = pool.turns)
      (hsame : ∀ sessionId, SameTurn (pool.stateOf sessionId) (after.stateOf sessionId)) :
      Pool.OutputMove config pool after []
  | start (w : Fin n) (event : SessionEvent) (hfree : pool.turns w = none)
      (hinactive : (pool.stateOf event.sessionId).active = false)
      (hturns : after.turns = update pool.turns w (some (event, .skipping)))
      (hothers : ∀ other, other ≠ event.sessionId → after.stateOf other = pool.stateOf other) :
      Pool.OutputMove config pool after []
  | process (w : Fin n) (completion : SessionEvent) (hfree : pool.turns w = none)
      (hkind : completion.kind = .deferredCompletion)
      (hawaiting : (pool.stateOf completion.sessionId).awaitingCompletion = true)
      (hsequence : (pool.stateOf completion.sessionId).nextSequence = completion.sequence)
      (halone : ∀ v, Apart completion.sessionId (pool.turns v))
      (hturns : after.turns = update pool.turns w (some (completion, completionStage completion)))
      (hsame : ∀ sessionId, SameTurn (pool.stateOf sessionId) (after.stateOf sessionId)) :
      Pool.OutputMove config pool after [.processed completion]
  | stage (w : Fin n) (event : SessionEvent) (stage next : TurnStage)
      (output : List OutputEntry) (hbefore : pool.turns w = some (event, stage))
      (hmove : StageMove config pool.forceStopRequested event stage next output)
      (hturns : after.turns = update pool.turns w (some (event, next)))
      (hsame : ∀ sessionId, SameTurn (pool.stateOf sessionId) (after.stateOf sessionId)) :
      Pool.OutputMove config pool after output
  | defer (w : Fin n) (event : SessionEvent) (inlineCompletion : Option SessionEvent)
      (hbefore : pool.turns w = some (event, .deferring inlineCompletion))
      (hturns : after.turns = update pool.turns w none)
      (hawaiting : (after.stateOf event.sessionId).awaitingCompletion = true)
      (hsequence : event.sequence = (after.stateOf event.sessionId).nextSequence)
      (hothers : ∀ other, other ≠ event.sessionId → after.stateOf other = pool.stateOf other) :
      Pool.OutputMove config pool after []
  | ended (w : Fin n) (event : SessionEvent)
      (hbefore : pool.turns w = some (event, .ending))
      (hturns : after.turns = update pool.turns w none)
      (hidle : (after.stateOf event.sessionId).awaitingCompletion = false)
      (hothers : ∀ other, other ≠ event.sessionId → after.stateOf other = pool.stateOf other) :
      Pool.OutputMove config pool after [.ended event]

/-- The output of a step without the commands. -/
def Pool.turnOutput (config : WorkerPoolConfig) (pool after : Pool n)
    (action : Action n) : List OutputEntry :=
  (pool.output config after action).filter fun entry => !entry.isCommand

theorem Pool.turnOutput_eq {observations : List Observation}
    (htranscript : after.transcript = pool.transcript ++ observations) :
    pool.turnOutput config after action =
      (pool.emits config action ++ observations.filterMap
        (output? (pool.commands action))).filter fun entry => !entry.isCommand := by
  unfold turnOutput output
  rw [htranscript, List.drop_left]

section Moves

variable {w : Fin n} {worker : Worker} {ref : StateRef} {state : SessionSequenceState}
  {observations : List Observation}

section Turns

variable (hmoves : pool.Moves after w worker ref state observations)
include hmoves

theorem Pool.Moves.turns : after.turns = update pool.turns w worker.turn? := by
  funext v
  unfold Pool.turns
  rw [hmoves.workers]
  by_cases hv : v = w
  · subst hv
    simp
  · simp [hv]

theorem Pool.Moves.stateOf_of_ne (hne : pool.current sessionId ≠ some ref) :
    after.stateOf sessionId = pool.stateOf sessionId := by
  unfold stateOf
  rw [hmoves.current]
  cases hcurrent : pool.current sessionId with
  | none => rfl
  | some other =>
    have hother : other ≠ ref := fun heq => hne (by rw [hcurrent, heq])
    simp [hmoves.states, hother]

theorem Pool.Moves.stateOf_of_current
    (hcurrent : pool.current sessionId = some ref) : after.stateOf sessionId = state := by
  have hafter := (hmoves.current sessionId).trans hcurrent
  rw [Pool.stateOf_of_current hafter, hmoves.states, update_self]

theorem Pool.Moves.sameTurn (hsame : SameTurn (pool.states ref) state) (sessionId : SessionId) :
    SameTurn (pool.stateOf sessionId) (after.stateOf sessionId) := by
  by_cases hcurrent : pool.current sessionId = some ref
  · rw [hmoves.stateOf_of_current hcurrent, Pool.stateOf_of_current hcurrent]
    exact hsame
  · rw [hmoves.stateOf_of_ne hcurrent]
    exact refl _

theorem Pool.Moves.quiet (hbefore : pool.turns w = none) (hworker : worker.turn? = none)
    (hsame : SameTurn (pool.states ref) state) :
    Pool.OutputMove config pool after [] := by
  refine .quiet ?_ (hmoves.sameTurn hsame)
  rw [hmoves.turns, hworker, ← hbefore]
  exact update_eq_self w pool.turns

end Turns

theorem Pool.Moves.stage {stage next : TurnStage} {output : List OutputEntry}
    (hmoves : pool.Moves after w (.turn event ref next) ref state observations)
    (hworker : pool.workers w = .turn event ref stage) (hsame : SameTurn (pool.states ref) state)
    (hmove : StageMove config pool.forceStopRequested event stage next output) :
    Pool.OutputMove config pool after output := by
  have hbefore : pool.turns w = some (event, stage) := by
    unfold Pool.turns
    rw [hworker]
    rfl
  exact .stage w event stage next output hbefore hmove hmoves.turns (hmoves.sameTurn hsame)

end Moves

theorem Pool.turns_of_turn {w : Fin n} {ref : StateRef}
    {stage : TurnStage} (hworker : pool.workers w = .turn event ref stage) :
    pool.turns w = some (event, stage) := by
  unfold turns
  rw [hworker]
  rfl

theorem Pool.worker_of_turns {w : Fin n} {stage : TurnStage}
    (hturn : pool.turns w = some (event, stage)) :
    ∃ ref, pool.workers w = .turn event ref stage := by
  unfold turns at hturn
  cases hworker : pool.workers w with
  | turn _ ref =>
    rw [hworker] at hturn
    simp only [turn?, Option.some.injEq, Prod.mk.injEq] at hturn
    obtain ⟨rfl, rfl⟩ := hturn
    exact ⟨ref, rfl⟩
  | _ => simp [hworker, turn?] at hturn

theorem Pool.turns_of_hand {w : Fin n} {ref : StateRef}
    {stage : HandStage} (hworker : pool.workers w = .hand event ref stage) :
    pool.turns w = none := by
  unfold turns
  rw [hworker]
  rfl

/-! ## Starting a turn -/

theorem tryStartSessionTurn_process {state next : SessionSequenceState}
    (hstart : tryStartSessionTurn config event state = (.process, next)) :
    state.closed = false := by
  cases hclosed : state.closed with
  | false => rfl
  | true => simp [tryStartSessionTurn, hclosed] at hstart

/-- While a worker holds the completion of a waiting turn nobody is in the
turn. -/
theorem Pool.Invariant.alone_of_completion (hinv : pool.Invariant) {w : Fin n}
    {completion : SessionEvent} {ref : StateRef} {stage : HandStage}
    (hworker : pool.workers w = .hand completion ref stage)
    (hcurrent : pool.current completion.sessionId = some ref)
    (hkind : completion.kind = .deferredCompletion) (hactive : (pool.states ref).active = true)
    (hawaiting : (pool.states ref).awaitingCompletion = true)
    (v : Fin n) : Apart completion.sessionId (pool.turns v) := by
  intro event running hturn hsession
  obtain ⟨held, hheld⟩ := worker_of_turns hturn
  have hview := hinv.turns completion.sessionId
  have hstate : (pool.view completion.sessionId).state = pool.states ref :=
    stateOf_of_current hcurrent
  have htokens := hview.awaiting (by rw [hstate]; exact hactive) (by rw [hstate]; exact hawaiting)
  have hhand := (pool.view completion.sessionId).le_weigh (Task.holds SessionEvent.isCompletion) w
  rw [view_of_hand hworker hcurrent, Task.holds_hand] at hhand
  have hruns := (pool.view completion.sessionId).le_weigh Task.turns v
  have htask := view_of_turn hheld (hinv.refs.turn v event held running hheld)
  rw [hsession] at htask
  rw [htask, Task.turns_turn] at hruns
  have hcompletion : completion.isCompletion.toNat = 1 := by
    simp [SessionEvent.isCompletion, hkind]
  unfold SessionView.tokens SessionView.completionsInHand at htokens
  omega

theorem Pool.Invariant.outputMove_try {w : Fin n} {ref : StateRef}
    {disposition : SessionTurnDisposition} {state : SessionSequenceState}
    (hinv : pool.Invariant) (hworker : pool.workers w = .hand event ref .trying)
    (hstart : tryStartSessionTurn config event (pool.states ref) = (disposition, state))
    (hmoves : pool.Moves after w ((tryTask event disposition).worker ref) ref state
      (tryLog event disposition)) :
    Pool.OutputMove config pool after ((tryLog event disposition).filterMap (output? false)) := by
  have hfree := turns_of_hand hworker
  obtain ⟨_, howner, hcase⟩ := hinv.refs.hand w event ref .trying hworker
  have hothers : ∀ other, other ≠ event.sessionId → after.stateOf other = pool.stateOf other := by
    intro _ hne
    exact hmoves.stateOf_of_ne (hinv.refs.current_ne howner hne)
  -- A state that starts a turn is not closed, so it is the session's own.
  have hcurrent : disposition = .process → pool.current event.sessionId = some ref := by
    intro hprocess
    rw [hprocess] at hstart
    have hopen := tryStartSessionTurn_process hstart
    exact hcase.resolve_right (by simp [hopen])
  have hturn := turnStart_tryStartSessionTurn hstart
  cases hturn with
  | completion hkind hactive hawaiting hsequence =>
    have hown := hcurrent rfl
    have hstate := stateOf_of_current hown
    have hmove : Pool.OutputMove config pool after [.processed event] := by
      refine .process w event hfree hkind (by rw [hstate]; exact hawaiting)
        (by rw [hstate]; exact hsequence) ?_ ?_ (hmoves.sameTurn (refl _))
      · intro v
        exact hinv.alone_of_completion hworker hown hkind hactive hawaiting v
      · simp [hmoves.turns, tryTask, hkind, Task.worker, turn?]
    rw [tryLog, if_pos hkind]
    exact hmove
  | startFailed hkind _ hinactive =>
    have hmove : Pool.OutputMove config pool after [] := by
      refine .start w event hfree ?_ ?_ hothers
      · rw [stateOf_of_current (hcurrent rfl)]
        exact hinactive
      · simp [hmoves.turns, tryTask, hkind, Task.worker, turn?]
    rw [tryLog, if_neg (by simp [hkind])]
    exact hmove
  | start hkind _ hinactive =>
    have hmove : Pool.OutputMove config pool after [] := by
      refine .start w event hfree ?_ ?_ hothers
      · rw [stateOf_of_current (hcurrent rfl)]
        exact hinactive
      · simp [hmoves.turns, tryTask, hkind, Task.worker, turn?]
    rw [tryLog, if_neg hkind]
    exact hmove
  | _ => exact hmoves.quiet hfree rfl ⟨rfl, rfl, rfl, rfl, rfl⟩

theorem tryLog_output (event : SessionEvent) (disposition : SessionTurnDisposition) :
    ((tryLog event disposition).filterMap (output? false)).filter (fun entry => !entry.isCommand) =
      (tryLog event disposition).filterMap (output? false) := by
  cases disposition with
  | process =>
    by_cases hkind : event.kind = .deferredCompletion
    · rw [tryLog, if_pos hkind]
      rfl
    · rw [tryLog, if_neg hkind]
      rfl
  | _ => rfl

/-! ## The sections of a worker -/

theorem Pool.Invariant.outputMove_section {w : Fin n} {ref : StateRef} {worker : Worker}
    {effect : Effect n} (hinv : pool.Invariant) (hopen : pool.outbox.closed = false)
    (hworker : pool.workers w = worker) (hsection : pool.Section config w ref action worker effect)
    (hafter : after = pool.perform w ref effect) :
    Pool.OutputMove config pool after (pool.turnOutput config after action) := by
  have hacts := Acts.of_perform hafter
  have hmoves := hacts.moves
  rw [turnOutput_eq hacts.transcript]
  -- A worker with an event in its hand is in no turn.
  have hhand {event : SessionEvent} {stage : HandStage} {output : List OutputEntry}
      (hheld : worker = .hand event ref stage) (hoff : effect.worker.turn? = none)
      (hsame : SameTurn (pool.states ref) effect.state) (hnone : output = []) :
      Pool.OutputMove config pool after output := by
    rw [hnone]
    exact hmoves.quiet (turns_of_hand (hworker.trans hheld)) hoff hsame
  have hstage {event : SessionEvent} {stage next : TurnStage} {output added : List OutputEntry}
      (hheld : worker = .turn event ref stage) (hnext : effect.worker = .turn event ref next)
      (hsame : SameTurn (pool.states ref) effect.state)
      (hmove : StageMove config pool.forceStopRequested event stage next added)
      (hadded : output = added) : Pool.OutputMove config pool after output := by
    rw [hadded]
    rw [hnext] at hmoves
    exact hmoves.stage (hworker.trans hheld) hsame hmove
  cases hsection with
  | tryStart event disposition _ hstart =>
    have hemits : pool.emits config (.work w) = [] := by
      simp [emits, hworker]
    have hcommands : pool.commands (.work w) = false := by
      simp [commands, hworker]
    have hmove := hinv.outputMove_try hworker hstart hmoves
    rw [hemits, hcommands, List.nil_append]
    exact (tryLog_output event disposition).symm ▸ hmove
  | failHand _ _ hmark =>
    apply hhand rfl rfl (markSessionFailed_sameTurn hmark)
    simp [emits, hworker, output?]
  | disconnectHand _ _ hpublish =>
    cases hpublish with
    | sent =>
      apply hhand rfl rfl (refl _)
      simp [emits, commands, hworker, output?, isCommand]
    | refused hclosed => simp [hopen] at hclosed
  | takePending =>
    apply hhand rfl _ (takePendingDisconnected_sameTurn _)
    · simp [emits, hworker, goes]
    · cases (takePendingDisconnected (pool.states ref)).1 <;> rfl
  | emitCompletion _ context next message rest hemit =>
    apply hstage rfl rfl (refl _) (.emitCompletion context next message rest hemit)
    simp [emits, hworker, emission, hemit, goes, isCommand]
  | stopCompletion event context _ message rest _ _ hemit hrefused =>
    have hnot : (context.emit config pool.forceStopRequested event message).1 ≠ .accepted := by
      rw [hemit]
      exact hrefused
    obtain rfl := emit_refused hemit hrefused
    apply hstage rfl rfl (refl _) (.stopCompletion _ message rest hnot)
    simp [emits, hworker, emission, hnot, goes]
  | completionEmitted _ context =>
    apply hstage rfl rfl (refl _) (.completionEmitted context)
    simp [emits, hworker, goes]
  | failTurn _ failure hmark =>
    apply hstage rfl rfl (markSessionFailed_sameTurn hmark) (.failed failure _ (.inl rfl))
    simp [emits, hworker, output?]
  | alreadyFailed _ failure =>
    apply hstage rfl rfl (refl _) (.failed failure _ (.inr rfl))
    simp [emits, hworker, goes]
  | disconnectTurn _ _ hpublish =>
    cases hpublish with
    | sent =>
      apply hstage rfl rfl (refl _) .disconnected
      simp [emits, commands, hworker, output?, isCommand]
    | refused hclosed => simp [hopen] at hclosed
  | skip =>
    apply hstage rfl rfl (refl _) .skip
    simp [emits, hworker, goes]
  | invoke =>
    apply hstage rfl rfl (refl _) .invoke
    simp [emits, hworker, output?, isCommand]
  | finish event context hplain =>
    have hfinish : StageMove config pool.forceStopRequested event (.finishing context)
        (.publishing context.messages context.deferred none) [] := .finish context none
    rw [WorkerSessionEventContext.deferred, hplain] at hfinish
    apply hstage rfl rfl (refl _) hfinish
    simp [emits, hworker, goes]
  | publish _ message rest deferred inlineCompletion _ hpublish =>
    cases hpublish with
    | sent =>
      apply hstage rfl rfl (refl _) (.publish message rest deferred inlineCompletion)
      simp [emits, commands, hworker, output?, isCommand]
    | refused hclosed => simp [hopen] at hclosed
  | published _ inlineCompletion =>
    apply hstage rfl rfl (refl _) (.published inlineCompletion)
    simp [emits, hworker, goes]
  | deferring _ inlineCompletion =>
    apply hstage rfl rfl (refl _) (.defer inlineCompletion)
    simp [emits, hworker, goes]
  | emit _ context next message outcome _ hemit =>
    by_cases haccepted : outcome = .accepted
    · subst haccepted
      apply hstage rfl rfl (refl _) (.emit context next message hemit)
      simp [emits, hworker, emission, hemit, goes, isCommand]
    · obtain rfl := emit_refused hemit haccepted
      apply hstage rfl rfl (refl _) (.handle _ _ rfl)
      simp [emits, hworker, emission, hemit, haccepted, goes]
  | handlerReturn _ context =>
    apply hstage rfl rfl (refl _) (.handlerReturn context)
    rfl
  | handlerThrow _ context =>
    apply hstage rfl rfl (refl _) (.handlerThrow context)
    rfl
  | _ => exact hhand rfl rfl (refl _) (by simp [emits, hworker, goes])

theorem Pool.Invariant.outputMove_markDeferred {w : Fin n} {ref : StateRef}
    {inlineCompletion early : Option SessionEvent} {state : SessionSequenceState}
    (hinv : pool.Invariant)
    (hworker : pool.workers w = .turn event ref (.deferring inlineCompletion))
    (hdefer : markSessionDeferred event (pool.states ref) = some (early, state))
    (hafter : after = ({ pool with
      outstandingDeferred := pool.outstandingDeferred + 1 }.setState ref state).setWorker w
        ((restart (inlineCompletion.or early)).worker ref)) :
    Pool.OutputMove config pool after (pool.turnOutput config after (.work w)) := by
  have hcurrent := hinv.refs.turn w event ref _ hworker
  have howner := (hinv.refs.current _ _ hcurrent).2
  have hopen := (hinv.turns event.sessionId).turnOpen (view_of_turn hworker hcurrent)
  have hstate : (pool.view event.sessionId).state = pool.states ref :=
    stateOf_of_current hcurrent
  obtain ⟨_, rfl⟩ := markSessionDeferred_some hdefer
  have hmoves : pool.Moves after w ((restart (inlineCompletion.or early)).worker ref) ref
      { pool.states ref with awaitingCompletion := true, earlyCompletion := none } [] := by
    subst hafter
    constructor
    case transcript => exact (List.append_nil _).symm
    all_goals rfl
  have hoff : ((restart (inlineCompletion.or early)).worker ref).turn? = none := by
    cases inlineCompletion.or early <;> rfl
  have hemits : pool.emits config (.work w) = [] := by
    simp [emits, hworker]
  rw [turnOutput_eq hmoves.transcript, hemits]
  refine .defer w event inlineCompletion (turns_of_turn hworker) ?_ ?_ ?_ ?_
  · rw [hmoves.turns, hoff]
  · rw [hmoves.stateOf_of_current hcurrent]
  · rw [hmoves.stateOf_of_current hcurrent, hopen.sequence, hstate]
  · intro _ hne
    exact hmoves.stateOf_of_ne (hinv.refs.current_ne howner hne)

theorem Pool.Invariant.outputMove_ending {w : Fin n} {ref : StateRef} (hinv : pool.Invariant)
    (hworker : pool.workers w = .turn event ref .ending)
    (hafter : after = (pool.completeSessionTurn w event ref).2.setWorker w
      ((restart (pool.completeSessionTurn w event ref).1).worker ref)) :
    Pool.OutputMove config pool after (pool.turnOutput config after (.work w)) := by
  have hcurrent := hinv.refs.turn w event ref _ hworker
  have howner := (hinv.refs.current _ _ hcurrent).2
  have hended := pool.turnEnded_completeSessionTurn w event ref
  generalize pool.completeSessionTurn w event ref = result at hafter hended
  obtain ⟨next, closed⟩ := result
  have htranscript : after.transcript =
      pool.transcript ++ [.ended event (pool.states ref).activeDisconnect] := by
    rw [hafter]
    exact hended.transcript
  have hemits : pool.emits config (.work w) = [] := by
    simp [emits, hworker]
  have hcommands : pool.commands (.work w) = false := by
    simp [commands, hworker]
  have hstates : after.states = update pool.states ref (endSessionTurn (pool.states ref)).2 := by
    rw [hafter]
    exact hended.states
  have hmap : after.sequenceBySession = if (pool.states ref).activeDisconnect then
      pool.sequenceBySession.erase event.sessionId else pool.sequenceBySession := by
    rw [hafter]
    exact hended.sequenceBySession
  have hnotAwaiting := (turnEnds_endSessionTurn (pool.states ref)).awaitingCompletion
  rw [turnOutput_eq htranscript, hemits, hcommands]
  have hworkers : closed.workers = pool.workers := hended.workers
  refine .ended w event (turns_of_turn hworker) ?_ ?_ ?_
  · funext v
    rw [hafter]
    by_cases hv : v = w
    · subst hv
      simp only [Pool.turns, Pool.setWorker, update_self]
      cases next <;> rfl
    · simp [Pool.turns, Pool.setWorker, hv, hworkers]
  · unfold Pool.stateOf Pool.current
    rw [hmap]
    split
    next other hother =>
      split at hother
      next => simp [Finmap.lookup_erase] at hother
      next =>
        have href : other = ref := Option.some.inj (hother.symm.trans hcurrent)
        rw [href, hstates, update_self]
        exact hnotAwaiting
    next => rfl
  · intro other hne
    have hlookup : after.current other = pool.current other := by
      rw [hafter]
      exact hended.current_of_ne hne
    unfold stateOf
    rw [hlookup]
    cases hother : pool.current other with
    | none => rfl
    | some held =>
      have hheld : held ≠ ref := by
        intro heq
        exact hinv.refs.current_ne howner hne (by rw [hother, heq])
      simp [hstates, hheld]

theorem Pool.outputMove_unmoved {observations : List Observation}
    (hemits : pool.emits config action = [])
    (hworkers : after.workers = pool.workers) (hstates : after.states = pool.states)
    (hmap : after.sequenceBySession = pool.sequenceBySession)
    (htranscript : after.transcript = pool.transcript ++ observations)
    (hnone : observations.filterMap (output? (pool.commands action)) = []) :
    Pool.OutputMove config pool after (pool.turnOutput config after action) := by
  rw [turnOutput_eq htranscript, hemits, hnone]
  refine .quiet ?_ ?_
  · funext w
    unfold turns
    rw [hworkers]
  · intro sessionId
    have hstate : after.stateOf sessionId = pool.stateOf sessionId := by
      unfold stateOf Pool.current
      rw [hmap, hstates]
    rw [hstate]
    exact refl _

theorem Pool.Invariant.outputMove_lookup {w : Fin n} {remaining : ℕ}
    (hinv : pool.Invariant) (hworker : pool.workers w = .popping)
    (hafter : after =
      ((({ pool with intake := none }.lookupOrCreate event.sessionId).2.setWorker w
        (.hand event ({ pool with intake := none }.lookupOrCreate event.sessionId).1
          (.popped remaining))).log [.popped event])) :
    Pool.OutputMove config pool after (pool.turnOutput config after (.work w)) := by
  have hfree : pool.turns w = none := by
    unfold Pool.turns
    rw [hworker]
    rfl
  have hemits : pool.emits config (.work w) = [] := by
    simp [emits, hworker]
  have hrefs : Pool.RefInvariant { pool with intake := none } :=
    hinv.refs.congr rfl rfl rfl rfl rfl
  have hworkers := lookupOrCreate_workers { pool with intake := none } event.sessionId
  have hview := hrefs.lookupOrCreate_view event.sessionId
  have htranscript : (lookupOrCreate { pool with intake := none }
      event.sessionId).2.transcript = pool.transcript := by
    unfold lookupOrCreate
    split <;> rfl
  generalize lookupOrCreate { pool with intake := none } event.sessionId = found
    at hafter hworkers hview htranscript
  subst hafter
  rw [turnOutput_eq (by rw [Pool.log, setWorker, htranscript]), hemits]
  refine .quiet ?_ ?_
  · funext v
    by_cases hv : v = w
    · rw [hv, hfree]
      simp [Pool.turns, Pool.log, Pool.setWorker, Worker.turn?]
    · simp [Pool.turns, Pool.log, Pool.setWorker, hv, hworkers]
  · intro sessionId
    have hstate : found.2.stateOf sessionId = pool.stateOf sessionId :=
      congrArg SessionView.state (hview sessionId)
    change SameTurn _ (found.2.stateOf sessionId)
    rw [hstate]
    exact refl _

theorem Pool.Invariant.outputMove (hinv : pool.Invariant)
    (hopen : pool.outbox.closed = false) (hstep : pool.step config action = some after) :
    Pool.OutputMove config pool after (pool.turnOutput config after action) := by
  cases outcome hstep with
  | push _ _ _ hafter | completeInline _ _ _ _ _ hafter | answer _ _ _ _ hafter
  | pushCompletion _ _ _ _ _ hafter | refuseCompletion _ _ _ _ _ hafter =>
    subst hafter
    exact outputMove_unmoved rfl rfl rfl rfl rfl rfl
  | lookup _ _ _ hworker _ hafter => exact hinv.outputMove_lookup hworker hafter
  | exit w hworker _ _ hafter =>
    have hmoves : pool.Moves after w .exited 0 (pool.states 0) [] := by
      subst hafter
      apply Pool.Moves.of_worker <;> rfl
    have hemits : pool.emits config (.work w) = [] := by
      simp [emits, hworker]
    rw [Pool.turnOutput_eq hmoves.transcript, hemits]
    exact hmoves.quiet (by rw [Pool.turns, hworker]; rfl) rfl (SameTurn.refl _)
  | move _ _ _ _ hsection hafter => exact hinv.outputMove_section hopen rfl hsection hafter
  | finish w event ref context id hworker hid hafter =>
    have hmoves : pool.Moves after w (.turn event ref (.publishing context.messages true
        ((pool.deferrals id).inlinePayload.map (pool.deferrals id).completionEvent))) ref
        (pool.states ref) [] := by
      subst hafter
      apply Pool.Moves.of_worker <;> rfl
    have hfinish : StageMove config pool.forceStopRequested event (.finishing context)
        (.publishing context.messages context.deferred
          ((pool.deferrals id).inlinePayload.map (pool.deferrals id).completionEvent)) [] :=
      .finish context _
    rw [WorkerSessionEventContext.deferred, hid] at hfinish
    have hemits : pool.emits config (.work w) = [] := by
      simp [emits, hworker]
    rw [turnOutput_eq hmoves.transcript, hemits]
    exact hmoves.stage hworker (refl _) hfinish
  | markDeferred _ _ _ _ _ _ hworker hdefer hafter =>
    exact hinv.outputMove_markDeferred hworker hdefer hafter
  | crash _ _ _ _ hworker hdefer =>
    exact absurd hdefer (hinv.markSessionDeferred_ne_none hworker)
  | ending _ _ _ hworker hafter => exact hinv.outputMove_ending hworker hafter
  | defer w event ref context hworker hafter =>
    have hmoves : pool.Moves after w (.turn event ref (.handling
        { context with deferral := some pool.nextDeferral })) ref (pool.states ref) [] := by
      subst hafter
      apply Pool.Moves.of_worker <;> rfl
    rw [turnOutput_eq hmoves.transcript]
    exact hmoves.stage hworker (refl _) (.handle context _ rfl)
  | complete _ _ _ _ _ hafter =>
    subst hafter
    exact outputMove_unmoved rfl rfl rfl rfl (List.append_nil _).symm rfl
  | outside _ houtside =>
    have hunmoved := houtside.unmoved
    apply outputMove_unmoved _ hunmoved.workers hunmoved.states
      hunmoved.sequenceBySession (hunmoved.transcript.trans (List.append_nil _).symm) rfl
    cases houtside with
    | pop _ _ _ hworker => simp [emits, hworker]
    | _ => rfl

end SessionServer.WorkerPool
