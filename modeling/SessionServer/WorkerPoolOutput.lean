import SessionServer.WorkerPoolDrainCheck
import SessionServer.WorkerPoolRecording

/-!
# What the pool publishes

While the outbox is open, the recorded output of each session is a sequence
of whole turns, with the beginning of one more turn at the end.  What the
recording calls published is what went through the outbox.
-/

namespace SessionServer.WorkerPool

open OutputEntry Pool Recording List Function

variable {n : ℕ} {config : WorkerPoolConfig} {pool after : Pool n}
variable {stage : TurnStage} {output : List OutputEntry} {action : Action n}

/-! ## The output of a session along a run -/

/-- How far the turn in progress has come. -/
structure Pool.Position (config : WorkerPoolConfig) (pool : Pool n)
    (sessionId : SessionId) (current : List OutputEntry) : Prop where
  running : ∀ w event stage, pool.turns w = some (event, stage) →
    event.sessionId = sessionId → Progress config pool.forceStopRequested event stage current
  waiting : (∀ w, Apart sessionId (pool.turns w)) → Waiting (pool.stateOf sessionId) current

theorem Waiting.of_sameTurn {before state : SessionSequenceState}
    {current : List OutputEntry} (hwaiting : Waiting before current)
    (hsame : SameTurn before state) : Waiting state current := by
  cases hwaiting with
  | idle hidle => exact .idle (hsame.awaitingCompletion.trans hidle)
  | deferred event messages hawaiting hsequence =>
    exact .deferred event messages (hsame.awaitingCompletion.trans hawaiting)
      (hsequence.trans hsame.nextSequence.symm)

theorem Waiting.eq_nil {state : SessionSequenceState} {current : List OutputEntry}
    (hwaiting : Waiting state current) (hidle : state.awaitingCompletion = false) :
    current = [] := by
  cases hwaiting with
  | idle => rfl
  | deferred _ _ hawaiting => simp [hidle] at hawaiting

section Position

variable {sessionId : SessionId} {current : List OutputEntry} {w : Fin n}
  {event : SessionEvent}

theorem Pool.Position.extends (hposition : pool.Position config sessionId current) :
    ∃ rest, TurnOutput config pool.forceStopRequested (current ++ rest) := by
  by_cases hnobody : ∀ w, Apart sessionId (pool.turns w)
  · exact (hposition.waiting hnobody).extends
  · simp only [Apart, not_forall, not_not] at hnobody
    obtain ⟨w, event, stage, hturn, hsession⟩ := hnobody
    exact (hposition.running w event stage hturn hsession).extends

theorem Pool.Position.congr (hposition : pool.Position config sessionId current)
    (hforced : after.forceStopRequested = false → pool.forceStopRequested = false)
    (hturns : ∀ w event stage, event.sessionId = sessionId →
      (after.turns w = some (event, stage) ↔ pool.turns w = some (event, stage)))
    (hsame : SameTurn (pool.stateOf sessionId) (after.stateOf sessionId)) :
    after.Position config sessionId current := by
  constructor
  · intro v other stage hturn hsession
    exact (hposition.running v other stage
      ((hturns v other stage hsession).mp hturn) hsession).mono hforced
  · intro hnobody
    refine (hposition.waiting ?_).of_sameTurn hsame
    intro v other stage hturn hsession
    exact hnobody v other stage ((hturns v other stage hsession).mpr hturn) hsession

theorem Pool.Position.other (hposition : pool.Position config sessionId current)
    (hforced : after.forceStopRequested = false → pool.forceStopRequested = false)
    {turn : Option (SessionEvent × TurnStage)}
    (hbefore : Apart sessionId (pool.turns w)) (hafter : Apart sessionId turn)
    (hturns : after.turns = update pool.turns w turn)
    (hsame : SameTurn (pool.stateOf sessionId) (after.stateOf sessionId)) :
    after.Position config sessionId current := by
  refine hposition.congr hforced ?_ hsame
  intro v event stage hsession
  rw [hturns]
  by_cases hv : v = w
  · subst hv
    rw [update_self]
    constructor
    · intro hturn
      exact absurd hsession (hafter event stage hturn)
    · intro hturn
      exact absurd hsession (hbefore event stage hturn)
  · rw [update_of_ne hv]

theorem Pool.Position.of_running (halone : ∀ v, v ≠ w → Apart sessionId (pool.turns v))
    (hturns : after.turns = update pool.turns w (some (event, stage)))
    (hsession : event.sessionId = sessionId)
    (hprogress : Progress config after.forceStopRequested event stage current) :
    after.Position config sessionId current := by
  constructor
  · intro v other running hturn hother
    rw [hturns] at hturn
    by_cases hv : v = w
    · rw [hv, update_self, Option.some.injEq, Prod.mk.injEq] at hturn
      rw [← hturn.1, ← hturn.2]
      exact hprogress
    · rw [update_of_ne hv] at hturn
      exact absurd hother (halone v hv other running hturn)
  · intro hnobody
    refine absurd hsession (hnobody w event stage ?_)
    rw [hturns, update_self]

theorem Pool.Position.of_waiting (halone : ∀ v, v ≠ w → Apart sessionId (pool.turns v))
    (hturns : after.turns = update pool.turns w none)
    (hwaiting : Waiting (after.stateOf sessionId) current) :
    after.Position config sessionId current := by
  constructor
  · intro v other running hturn hother
    rw [hturns] at hturn
    by_cases hv : v = w
    · rw [hv, update_self] at hturn
      simp at hturn
    · rw [update_of_ne hv] at hturn
      exact absurd hother (halone v hv other running hturn)
  · intro _
    exact hwaiting

theorem Pool.Invariant.alone_of_turn (hinv : pool.Invariant)
    (hturn : pool.turns w = some (event, stage)) (hsession : event.sessionId = sessionId)
    (v : Fin n) (hne : v ≠ w) : Apart sessionId (pool.turns v) := by
  intro _ _ hother hsame
  obtain ⟨_, hworker⟩ := worker_of_turns hturn
  obtain ⟨_, hheld⟩ := worker_of_turns hother
  exact hne (hinv.turn_unique hworker hheld (hsame.trans hsession.symm))

theorem Pool.Invariant.nobody_of_inactive (hinv : pool.Invariant)
    (hinactive : (pool.stateOf sessionId).active = false) (v : Fin n) :
    Apart sessionId (pool.turns v) := by
  intro event stage hturn hsession
  obtain ⟨ref, hworker⟩ := worker_of_turns hturn
  have hcurrent := hinv.refs.turn v event ref stage hworker
  have hopen := (hinv.turns event.sessionId).turnOpen (view_of_turn hworker hcurrent)
  have hactive : (pool.stateOf event.sessionId).active = true := hopen.active
  rw [hsession, hinactive] at hactive
  simp at hactive

end Position

def OutputEntry.select (sessionId : SessionId) (output : List OutputEntry) :
    List OutputEntry :=
  output.filter fun entry => entry.sessionId == sessionId

theorem OutputEntry.select_own {sessionId : SessionId}
    (hall : ∀ entry ∈ output, entry.sessionId = sessionId) :
    select sessionId output = output := by
  apply filter_eq_self.mpr
  intro entry hentry
  simp [hall entry hentry]

theorem OutputEntry.select_other {sessionId : SessionId}
    (hall : ∀ entry ∈ output, entry.sessionId ≠ sessionId) :
    select sessionId output = [] := by
  apply filter_eq_nil_iff.mpr
  intro entry hentry
  simp [hall entry hentry]

theorem StageMove.sessionId {forced : Bool} {event : SessionEvent} {next : TurnStage}
    (hmove : StageMove config forced event stage next output) :
    ∀ entry ∈ output, entry.sessionId = event.sessionId := by
  cases hmove <;> simp [OutputEntry.sessionId]

/-- The output so far: whole turns, and the turn in progress. -/
def Pool.Outputs (config : WorkerPoolConfig) (pool : Pool n) (sessionId : SessionId)
    (output : List OutputEntry) : Prop :=
  ∃ (turns : List (List OutputEntry)) (current : List OutputEntry),
    output = turns.flatten ++ current ∧
    (∀ turn ∈ turns, TurnOutput config pool.forceStopRequested turn) ∧
      pool.Position config sessionId current

theorem Pool.OutputMove.outputs {recorded : List OutputEntry}
    {sessionId : SessionId} (hmove : Pool.OutputMove config pool after output)
    (hinv : pool.Invariant)
    (hforced : after.forceStopRequested = false → pool.forceStopRequested = false)
    (houtputs : pool.Outputs config sessionId recorded) :
    after.Outputs config sessionId (recorded ++ select sessionId output) := by
  obtain ⟨turns, current, rfl, hturns, hposition⟩ := houtputs
  have hlater : ∀ turn ∈ turns, TurnOutput config after.forceStopRequested turn :=
    fun turn hturn => (hturns turn hturn).mono hforced
  have hgoes : ∀ entries, after.Position config sessionId (current ++ entries) →
      after.Outputs config sessionId (turns.flatten ++ current ++ entries) := by
    intro entries hafter
    exact ⟨turns, current ++ entries, append_assoc .., hlater, hafter⟩
  have hstays : after.Position config sessionId current →
      after.Outputs config sessionId (turns.flatten ++ current ++ []) := by
    intro hafter
    rw [append_nil]
    exact ⟨turns, current, rfl, hlater, hafter⟩
  cases hmove with
  | quiet hsameTurns hsame =>
    apply hstays
    exact hposition.congr hforced (by simp [hsameTurns]) (hsame sessionId)
  | start _ event hfree hinactive hturn hothers =>
    apply hstays
    by_cases hsession : event.sessionId = sessionId
    · rw [hsession] at hinactive
      have hnobody := hinv.nobody_of_inactive hinactive
      have hidle := ((hinv.turns sessionId).inactive hinactive).1
      rw [(hposition.waiting hnobody).eq_nil hidle]
      exact .of_running (fun v _ => hnobody v) hturn hsession .skipping
    · refine hposition.other hforced ?_ (apart_some hsession _) hturn ?_
      · rw [hfree]
        exact apart_none sessionId
      · rw [hothers sessionId (Ne.symm hsession)]
        exact SameTurn.refl _
  | process _ completion hfree hkind hawaiting hsequence halone hturn hsame =>
    by_cases hsession : completion.sessionId = sessionId
    · rw [hsession] at hawaiting hsequence halone
      rw [select_own (by simp [OutputEntry.sessionId, hsession])]
      apply hgoes
      exact .of_running (fun v _ => halone v) hturn hsession
        ((hposition.waiting halone).process hkind hawaiting hsequence)
    · rw [select_other (by simp [OutputEntry.sessionId, hsession])]
      apply hstays
      refine hposition.other hforced ?_ (apart_some hsession _) hturn (hsame sessionId)
      rw [hfree]
      exact apart_none sessionId
  | stage w event stage _ output hbefore hmove hturn hsame =>
    by_cases hsession : event.sessionId = sessionId
    · have hown : ∀ entry ∈ output, entry.sessionId = sessionId :=
        fun entry hentry => (hmove.sessionId entry hentry).trans hsession
      rw [select_own hown]
      apply hgoes
      have hprogress := hmove.progress (hposition.running w event stage hbefore hsession)
      exact .of_running (hinv.alone_of_turn hbefore hsession) hturn hsession
        (hprogress.mono hforced)
    · have hother : ∀ entry ∈ output, entry.sessionId ≠ sessionId := by
        intro entry hentry
        rw [hmove.sessionId entry hentry]
        exact hsession
      rw [select_other hother]
      apply hstays
      refine hposition.other hforced ?_ (apart_some hsession _) hturn (hsame sessionId)
      rw [hbefore]
      exact apart_some hsession _
  | defer w event _ hbefore hturn hawaiting hsequence hothers =>
    apply hstays
    by_cases hsession : event.sessionId = sessionId
    · rw [hsession] at hawaiting hsequence
      have hprogress := hposition.running w event _ hbefore hsession
      cases hprogress with
      | concluded _ _ hstage => simp at hstage
      | deferring messages =>
        exact .of_waiting (hinv.alone_of_turn hbefore hsession) hturn
          (.deferred event messages hawaiting hsequence)
    · refine hposition.other hforced ?_ (apart_none sessionId) hturn ?_
      · rw [hbefore]
        exact apart_some hsession _
      · rw [hothers sessionId (Ne.symm hsession)]
        exact SameTurn.refl _
  | ended w event hbefore hturn hidle hothers =>
    by_cases hsession : event.sessionId = sessionId
    · rw [hsession] at hidle
      rw [select_own (by simp [OutputEntry.sessionId, hsession])]
      have hprogress := hposition.running w event _ hbefore hsession
      cases hprogress with
      | concluded _ _ _ houtput =>
        refine ⟨turns ++ [current ++ [.ended event]], [], by simp, ?_, ?_⟩
        · rw [forall_mem_append, forall_mem_singleton]
          exact ⟨hlater, houtput.mono hforced⟩
        · exact .of_waiting (hinv.alone_of_turn hbefore hsession) hturn (.idle hidle)
    · rw [select_other (by simp [OutputEntry.sessionId, hsession])]
      apply hstays
      refine hposition.other hforced ?_ (apart_none sessionId) hturn ?_
      · rw [hbefore]
        exact apart_some hsession _
      · rw [hothers sessionId (Ne.symm hsession)]
        exact SameTurn.refl _

/-! ## The outbox -/

def Observation.message? : Observation → Option OutboundMessage
  | .published _ message => some message
  | _ => none

/-- What the step publishes is what it appends to the outbox. -/
def Pool.Posts (pool after : Pool n) : Prop :=
  ∃ observations, after.transcript = pool.transcript ++ observations ∧
    after.outbox.items = pool.outbox.items ++ observations.filterMap Observation.message?

theorem Pool.posts_nothing {observations : List Observation}
    (htranscript : after.transcript = pool.transcript ++ observations)
    (houtbox : after.outbox = pool.outbox)
    (hnone : observations.filterMap Observation.message? = []) : pool.Posts after :=
  ⟨observations, htranscript, by rw [houtbox, hnone, append_nil]⟩

theorem Pool.posts_silently (htranscript : after.transcript = pool.transcript)
    (houtbox : after.outbox = pool.outbox) : pool.Posts after := by
  refine Pool.posts_nothing ?_ houtbox filterMap_nil
  rw [htranscript, append_nil]

theorem Pool.Publication.posts {event : SessionEvent} {message : OutboundMessage}
    {ref : StateRef} {next : Bool → Worker} {effect : Effect n}
    (hpublish : pool.Publication ref event message next effect) :
    effect.outbox.items =
      pool.outbox.items ++ effect.observations.filterMap Observation.message? := by
  cases hpublish with
  | sent => rfl
  | refused => exact (append_nil _).symm

theorem Pool.Section.posts {w : Fin n} {ref : StateRef} {worker : Worker} {effect : Effect n}
    (hsection : pool.Section config w ref action worker effect) :
    effect.outbox.items =
      pool.outbox.items ++ effect.observations.filterMap Observation.message? := by
  cases hsection with
  | tryStart event disposition =>
    have hnone : (tryLog event disposition).filterMap Observation.message? = [] := by
      unfold tryLog
      split
      · split <;> rfl
      · rfl
    dsimp only
    rw [hnone, append_nil]
    rfl
  | disconnectHand _ _ hpublish | disconnectTurn _ _ hpublish | publish _ _ _ _ _ _ hpublish =>
    exact hpublish.posts
  | _ => exact (append_nil _).symm

theorem Pool.completeSessionTurn_outbox (pool : Pool n) (event : SessionEvent)
    (ref : StateRef) : (pool.completeSessionTurn w event ref).2.outbox = pool.outbox := by
  simp only [completeSessionTurn]
  split
  · rw [maybeCloseInboxForDrainLocked_eq]
  · rfl

theorem Pool.lookupOrCreate_outbox (pool : Pool n) (sessionId : SessionId) :
    (pool.lookupOrCreate sessionId).2.outbox = pool.outbox ∧
      (pool.lookupOrCreate sessionId).2.transcript = pool.transcript := by
  unfold lookupOrCreate
  split <;> exact ⟨rfl, rfl⟩

theorem Pool.posts_step (haction : action ≠ .popOutbound)
    (hstep : pool.step config action = some after) : pool.Posts after := by
  cases Pool.outcome hstep with
  | push _ _ _ hafter | completeInline _ _ _ _ _ hafter | answer _ _ _ _ hafter
  | pushCompletion _ _ _ _ _ hafter | refuseCompletion _ _ _ _ _ hafter =>
    subst hafter
    exact Pool.posts_nothing rfl rfl rfl
  | lookup _ event _ _ _ hafter =>
    subst hafter
    have hfound := lookupOrCreate_outbox { pool with intake := none } event.sessionId
    exact Pool.posts_nothing (congrArg (fun transcript =>
      transcript ++ [Observation.popped event]) hfound.2) hfound.1 rfl
  | exit _ _ _ _ hafter | finish _ _ _ _ _ _ _ hafter | markDeferred _ _ _ _ _ _ _ _ hafter
  | crash _ _ _ _ _ _ hafter | defer _ _ _ _ _ hafter | complete _ _ _ _ _ hafter =>
    subst hafter
    exact posts_silently rfl rfl
  | move _ _ effect _ hsection hafter =>
    subst hafter
    exact ⟨effect.observations, rfl, hsection.posts⟩
  | ending w event ref _ hafter =>
    subst hafter
    exact Pool.posts_nothing (pool.turnEnded_completeSessionTurn w event ref).transcript
      (pool.completeSessionTurn_outbox event ref) rfl
  | outside _ houtside =>
    refine ⟨[], houtside.unmoved.transcript.trans (append_nil _).symm, ?_⟩
    cases houtside with
    | popOutbound => exact absurd rfl haction
    | beginStop =>
      unfold beginStop
      rw [maybeCloseInboxForDrainLocked_eq]
      exact (append_nil _).symm
    | _ => exact (append_nil _).symm

theorem emission_messages (config : WorkerPoolConfig) (forced : Bool) (event : SessionEvent)
    (context : WorkerSessionEventContext) (message : OutboundMessage) :
    (emission config forced event context message).filterMap OutputEntry.message? = [] := by
  unfold emission
  split <;> rfl

theorem Pool.emits_messages (action : Action n) :
    (pool.emits config action).filterMap OutputEntry.message? = [] := by
  unfold Pool.emits
  split
  · split
    · exact emission_messages _ _ _ _ _
    · rfl
  · split
    · exact emission_messages _ _ _ _ _
    · rfl
  · rfl

theorem Observation.output_message (commands : Bool) (observation : Observation) :
    (observation.output? commands).bind OutputEntry.message? = observation.message? := by
  cases observation with
  | published => cases commands <;> rfl
  | _ => rfl

theorem Pool.output_messages (action : Action n) :
    (pool.output config after action).filterMap OutputEntry.message? =
      (after.transcript.drop pool.transcript.length).filterMap Observation.message? := by
  unfold Pool.output
  rw [filterMap_append, Pool.emits_messages, nil_append, filterMap_filterMap]
  congr 1
  funext observation
  exact observation.output_message _

theorem Pool.takes_step (hstep : pool.step config action = some after) :
    pool.takes action ++ after.outbox.items = pool.outbox.items ++
      (pool.output config after action).filterMap OutputEntry.message? := by
  rw [Pool.output_messages]
  by_cases haction : action = .popOutbound
  · subst haction
    simp only [Pool.step] at hstep
    split at hstep
    next => simp at hstep
    next _ _ hitems =>
      rw [Option.some.injEq] at hstep
      subst hstep
      simp [takes, hitems]
  · obtain ⟨_, htranscript, hitems⟩ := posts_step haction hstep
    have htakes : pool.takes action = [] := by
      cases action with
      | popOutbound => exact absurd rfl haction
      | _ => rfl
    rw [htakes, htranscript, drop_left, nil_append, hitems]

/-! ## The result -/

structure Recording.Orderly (config : WorkerPoolConfig) (recording : Recording n) :
    Prop where
  /-- What was published is what the network thread took and what is left. -/
  outbox : recording.taken ++ recording.pool.outbox.items =
    recording.entries.filterMap OutputEntry.message?
  /-- Each session's output is made of whole turns, one after the other, up to
  the turn in progress. -/
  sessions : ∀ sessionId, ∃ (turns : List (List OutputEntry)) (current : List OutputEntry),
    recording.outputOf sessionId = turns.flatten ++ current ∧
    (∀ turn ∈ turns, TurnOutput config recording.pool.forceStopRequested turn) ∧
    ∃ rest, TurnOutput config recording.pool.forceStopRequested (current ++ rest)

structure Recording.Invariant (config : WorkerPoolConfig) (recording : Recording n) :
    Prop where
  sound : recording.pool.Sound
  outbox : recording.taken ++ recording.pool.outbox.items =
    recording.entries.filterMap OutputEntry.message?
  outputs : ∀ sessionId, recording.pool.Outputs config sessionId (recording.outputOf sessionId)

theorem Recording.initial_invariant {inbox : BoundedBlockingQueue SessionEvent}
    {outbox : BoundedBlockingQueue OutboundMessage} (hinbox : inbox.items = [])
    (houtbox : outbox.items = []) :
    (initial n inbox outbox).Invariant config := by
  constructor
  · exact initial_sound outbox hinbox
  · exact houtbox
  · intro _
    refine ⟨[], [], rfl, by simp, ?_⟩
    constructor
    · intro w _ _ hturn
      simp [initial, Pool.initial, turns, Worker.turn?] at hturn
    · intro _
      exact .idle rfl

theorem Recording.outputOf_append (entries output : List OutputEntry) (sessionId : SessionId) :
    (entries ++ output).filter (fun entry => !entry.isCommand && entry.sessionId == sessionId) =
      entries.filter (fun entry => !entry.isCommand && entry.sessionId == sessionId) ++
        select sessionId (output.filter fun entry => !entry.isCommand) := by
  unfold select
  rw [filter_append, filter_filter]
  congr 2
  funext entry
  exact Bool.and_comm ..

theorem Recording.Invariant.step {recording next : Recording n}
    (hinvariant : recording.Invariant config) (hopen : recording.pool.outbox.closed = false)
    (hstep : recording.step config action = some next) : next.Invariant config := by
  obtain ⟨after, hpool, rfl⟩ := Option.map_eq_some_iff.mp hstep
  have hinv := hinvariant.sound.invariant
  constructor
  · exact hinvariant.sound.step (outcome hpool)
  · have htakes := Pool.takes_step hpool
    change recording.taken ++ recording.pool.takes action ++ after.outbox.items =
      (recording.entries ++ recording.pool.output config after action).filterMap _
    rw [append_assoc, htakes, ← append_assoc, hinvariant.outbox, filterMap_append]
  · intro sessionId
    have hmove := hinv.outputMove hopen hpool
    have houtputs := hmove.outputs hinv (unforced_before hpool) (hinvariant.outputs sessionId)
    unfold outputOf
    rw [outputOf_append]
    exact houtputs

theorem Recording.orderly_of_reachable {recording : Recording n}
    (hreach : recording.Reachable config) : recording.Orderly config := by
  obtain ⟨_, outbox, hinbox, _, houtbox, hreaches⟩ := hreach
  have hinvariant : recording.Invariant config := by
    apply hreaches.invariant (initial_invariant hinbox houtbox)
    intro _ _ _ hbefore hopen hstep
    exact hbefore.step hopen hstep
  constructor
  · exact hinvariant.outbox
  · intro sessionId
    obtain ⟨turns, current, houtput, hturns, hposition⟩ := hinvariant.outputs sessionId
    exact ⟨turns, current, houtput, hturns, hposition.extends⟩

/-- The first handler defers, emits and is completed; the second one emits and
throws. -/
def deferThenThrowRun : List (Action 1) :=
  [.push (packetEvent 1 0), .push (packetEvent 1 1)] ++ works sole 6 ++
    [.defer sole, .emit sole { sessionId := 1, bytes := [1] }, .handlerReturn sole] ++
    works sole 4 ++
    [.complete 0 { failed := false, messages := [{ sessionId := 1, bytes := [2] }] },
      .pushCompletion 0] ++ works sole 18 ++
    [.emit sole { sessionId := 1, bytes := [3] }, .handlerThrow sole] ++ works sole 3 ++
    [.popOutbound]

theorem orderly_deferThenThrowRun :
    ∃ recording : Recording 1, recording.Reachable smallConfig ∧
      (recording.outputOf 1).filterMap OutputEntry.message? =
        [{ sessionId := 1, bytes := [1] }, { sessionId := 1, bytes := [2] }] ∧
      recording.Orderly smallConfig := by
  have hrun : (TransitionSystem.runWhile (Recording.step smallConfig)
      (fun recording => !recording.pool.outbox.closed) deferThenThrowRun
      (Recording.initial 1 (.create 8 (by decide)) (.create 8 (by decide)))).any
        (fun recording => decide ((recording.outputOf 1).filterMap OutputEntry.message? =
          [{ sessionId := 1, bytes := [1] }, { sessionId := 1, bytes := [2] }])) = true := by
    decide
  cases hresult : TransitionSystem.runWhile (Recording.step smallConfig)
      (fun recording => !recording.pool.outbox.closed) deferThenThrowRun
      (Recording.initial 1 (.create 8 (by decide)) (.create 8 (by decide))) with
  | none => simp [hresult] at hrun
  | some recording =>
    rw [hresult] at hrun
    have hopen : TransitionSystem.Reaches (Recording.step smallConfig)
        (fun before _ => before.pool.outbox.closed = false)
        (Recording.initial 1 (.create 8 (by decide)) (.create 8 (by decide))) recording :=
      (TransitionSystem.Reaches.of_runWhile hresult).mono
        fun before _ hcheck => by simpa using hcheck
    have hreach : recording.Reachable smallConfig := ⟨_, _, rfl, rfl, rfl, hopen⟩
    exact ⟨recording, hreach, of_decide_eq_true hrun, Recording.orderly_of_reachable hreach⟩

end SessionServer.WorkerPool
