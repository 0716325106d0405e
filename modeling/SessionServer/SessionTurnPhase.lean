import SessionServer.SessionTurnPreservation

/-!
# The phases of a turn in the transcript

A scan of the transcript of one session follows its turns: a turn is opened,
its handler is invoked and returns, a deferred turn waits for its completion,
and the turn ends.  The scan breaks at the first observation that does not
fit.  It never breaks on a transcript of the session machine, and from an
unbroken scan one reads off how two handler calls are separated.
-/

namespace SessionServer.WorkerPool

open SameTurn SessionView Observation List WorkerPool.Task Function

variable {n : ℕ}
variable {observation : Observation} {transcript before after rest : Transcript}
    {event : SessionEvent} {view : SessionView n} {observations : List Observation} {w : Fin n}
    {state : SessionSequenceState}

inductive TurnPhase
  | idle
  | opened (event : SessionEvent)
  | running (event : SessionEvent)
  | returned (event : SessionEvent)
  | waiting (event : SessionEvent)
  | completing (event completion : SessionEvent)
  | broken

/-- Observations that say nothing about turns. -/
def Observation.isAside : Observation → Bool
  | .started _ => false
  | .invoked _ => false
  | .returned _ _ => false
  | .processed _ => false
  | .ended _ _ => false
  | _ => true

def Completes (completion event : SessionEvent) : Prop :=
  completion.kind = .deferredCompletion ∧ completion.sequence = event.sequence

instance (completion event : SessionEvent) : Decidable (Completes completion event) := by
  unfold Completes
  infer_instance

def TurnPhase.next (phase : TurnPhase) (observation : Observation) : TurnPhase :=
  if observation.isAside then phase
  else
    match phase, observation with
    | .idle, .started event => .opened event
    | .opened event, .invoked called =>
      if called = event then .running event else .broken
    | .opened event, .ended last _ => if last = event then .idle else .broken
    | .running event, .returned called outcome =>
      if called = event then
        if outcome = .deferred then .waiting event else .returned event
      else .broken
    | .returned event, .ended last _ => if last = event then .idle else .broken
    | .waiting event, .processed completion =>
      if Completes completion event then .completing event completion else .broken
    | .completing _ completion, .ended last _ =>
      if last = completion then .idle else .broken
    | _, _ => .broken

def TurnPhase.scan (phase : TurnPhase) (transcript : Transcript) : TurnPhase :=
  transcript.foldl TurnPhase.next phase

@[simp] theorem TurnPhase.scan_nil (phase : TurnPhase) : phase.scan [] = phase := rfl

@[simp] theorem TurnPhase.scan_cons (phase : TurnPhase) (observation : Observation)
    (rest : Transcript) :
    phase.scan (observation :: rest) = (phase.next observation).scan rest := rfl

theorem TurnPhase.scan_append (phase : TurnPhase) (first second : Transcript) :
    phase.scan (first ++ second) = (phase.scan first).scan second :=
  foldl_append ..

@[simp] theorem TurnPhase.next_aside (phase : TurnPhase)
    (haside : observation.isAside = true) : phase.next observation = phase := by
  simp [TurnPhase.next, haside]

theorem TurnPhase.scan_aside (phase : TurnPhase)
    (haside : ∀ observation ∈ transcript, observation.isAside = true) :
    phase.scan transcript = phase := by
  induction transcript with
  | nil => rfl
  | cons observation _ ih =>
    rw [TurnPhase.scan_cons, TurnPhase.next_aside _ (haside observation (by simp))]
    apply ih
    intro other hother
    exact haside other (mem_cons_of_mem _ hother)

theorem Observation.isAside_of_isQuiet
    (hquiet : observation.isQuiet = true) : observation.isAside = true := by
  cases observation <;> simp_all [isQuiet, isAside]

@[simp] theorem TurnPhase.next_broken (observation : Observation) :
    TurnPhase.broken.next observation = .broken := by
  unfold TurnPhase.next
  split <;> rfl

@[simp] theorem TurnPhase.scan_broken (transcript : Transcript) :
    TurnPhase.broken.scan transcript = .broken := by
  induction transcript with
  | nil => rfl
  | cons _ _ ih => rw [TurnPhase.scan_cons, TurnPhase.next_broken, ih]

/-! ## Reading an unbroken scan -/

/-- The turn of the event was carried through: its handler returned, or threw,
or deferred and the completion was processed; and then the turn ended. -/
inductive TurnClosed (between : Transcript) (event : SessionEvent) : Prop
  | plain (closed : Bool) (horder : [.returned event .plain, .ended event closed].Sublist between)
  | threw (closed : Bool) (horder : [.returned event .threw, .ended event closed].Sublist between)
  | deferred (completion : SessionEvent) (closed : Bool)
      (hcompletes : Completes completion event)
      (horder : [.returned event .deferred, .processed completion,
        .ended completion closed].Sublist between)

/-- No handler of the turn in progress has been called. -/
def TurnPhase.isFresh : TurnPhase → Bool
  | .idle => true
  | .opened _ => true
  | _ => false

/-- A scan that ends fresh has left every phase in which a handler was called. -/
theorem TurnPhase.leaves {phase : TurnPhase} (hphase : phase.isFresh = false)
    (hscan : (phase.scan transcript).isFresh = true) :
    ∃ before observation rest, transcript = before ++ observation :: rest ∧
      phase.next observation ≠ phase ∧ phase.next observation ≠ .broken ∧
        ((phase.next observation).scan rest).isFresh = true := by
  induction transcript with
  | nil => simp [hphase] at hscan
  | cons observation rest ih =>
    rw [TurnPhase.scan_cons] at hscan
    by_cases hsame : phase.next observation = phase
    · rw [hsame] at hscan
      obtain ⟨before, leaving, after, rfl, hleaves⟩ := ih hscan
      exact ⟨observation :: before, leaving, after, rfl, hleaves⟩
    · refine ⟨[], observation, rest, rfl, hsame, ?_, hscan⟩
      intro hbroken
      simp [hbroken, TurnPhase.isFresh] at hscan

theorem TurnPhase.ended_of_returned
    (hscan : ((TurnPhase.returned event).scan transcript).isFresh = true) :
    ∃ closed, .ended event closed ∈ transcript := by
  obtain ⟨_, observation, _, rfl, hleaves, hbroken, _⟩ :=
    TurnPhase.leaves rfl hscan
  cases observation with
  | ended last closed =>
    have hlast : last = event := by
      by_contra hne
      simp [TurnPhase.next, isAside, hne] at hbroken
    exact ⟨closed, by simp [hlast]⟩
  | _ => simp [TurnPhase.next, isAside] at hleaves hbroken

theorem TurnPhase.ended_of_completing {completion : SessionEvent}
    (hscan : ((TurnPhase.completing event completion).scan transcript).isFresh = true) :
    ∃ closed, .ended completion closed ∈ transcript := by
  obtain ⟨_, observation, _, rfl, hleaves, hbroken, _⟩ :=
    TurnPhase.leaves rfl hscan
  cases observation with
  | ended last closed =>
    have hlast : last = completion := by
      by_contra hne
      simp [TurnPhase.next, isAside, hne] at hbroken
    exact ⟨closed, by simp [hlast]⟩
  | _ => simp [TurnPhase.next, isAside] at hleaves hbroken

theorem TurnPhase.processed_of_waiting
    (hscan : ((TurnPhase.waiting event).scan transcript).isFresh = true) :
    ∃ completion closed, Completes completion event ∧
      [.processed completion, .ended completion closed].Sublist transcript := by
  obtain ⟨_, observation, _, rfl, hleaves, hbroken, hrest⟩ :=
    TurnPhase.leaves rfl hscan
  cases observation with
  | processed completion =>
    have hcompletes : Completes completion event := by
      by_contra hnot
      simp [TurnPhase.next, isAside, hnot] at hbroken
    simp only [TurnPhase.next, isAside, hcompletes, if_true, Bool.false_eq_true, if_false] at hrest
    obtain ⟨closed, hmem⟩ := TurnPhase.ended_of_completing hrest
    exact ⟨completion, closed, hcompletes,
      ((singleton_sublist.mpr hmem).cons_cons _).trans (sublist_append_right _ _)⟩
  | _ => simp [TurnPhase.next, isAside] at hleaves hbroken

theorem TurnClosed.mono {longer : Transcript} (hclosed : TurnClosed rest event)
    (hsublist : rest.Sublist longer) : TurnClosed longer event := by
  cases hclosed with
  | plain closed horder => exact .plain closed (horder.trans hsublist)
  | threw closed horder => exact .threw closed (horder.trans hsublist)
  | deferred completion closed hcompletes horder =>
    exact .deferred completion closed hcompletes (horder.trans hsublist)

theorem TurnPhase.closed_of_running
    (hscan : ((TurnPhase.running event).scan transcript).isFresh = true) :
    TurnClosed transcript event := by
  obtain ⟨_, observation, _, rfl, hleaves, hbroken, hrest⟩ :=
    TurnPhase.leaves rfl hscan
  cases observation with
  | returned called outcome =>
    have hcalled : called = event := by
      by_contra hne
      simp [TurnPhase.next, isAside, hne] at hbroken
    subst hcalled
    have hnext : (TurnPhase.running called).next (.returned called outcome) =
        if outcome = .deferred then .waiting called else .returned called := by
      simp [TurnPhase.next, isAside]
    rw [hnext] at hrest
    apply TurnClosed.mono _ (sublist_append_right _ _)
    cases outcome with
    | plain =>
      obtain ⟨closed, hmem⟩ := TurnPhase.ended_of_returned hrest
      exact .plain closed ((singleton_sublist.mpr hmem).cons_cons _)
    | threw =>
      obtain ⟨closed, hmem⟩ := TurnPhase.ended_of_returned hrest
      exact .threw closed ((singleton_sublist.mpr hmem).cons_cons _)
    | deferred =>
      obtain ⟨completion, closed, hcompletes, horder⟩ :=
        TurnPhase.processed_of_waiting hrest
      exact .deferred completion closed hcompletes (horder.cons_cons _)
  | _ => simp [TurnPhase.next, isAside] at hleaves hbroken

theorem TurnPhase.next_invoked {phase : TurnPhase} (hnext : phase.next (.invoked event) ≠ .broken) :
    phase = .opened event ∧ phase.next (.invoked event) = .running event := by
  cases phase with
  | opened opened =>
    by_cases heq : event = opened
    · subst heq
      simp [TurnPhase.next, isAside]
    · simp [TurnPhase.next, isAside, heq] at hnext
  | _ => simp [TurnPhase.next, isAside] at hnext

/-- Between two handler calls of an unbroken scan the first turn is carried
through. -/
theorem TurnPhase.closed_between {phase : TurnPhase} {between : Transcript}
    {first second : SessionEvent}
    (hscan : phase.scan (before ++ .invoked first :: between ++
      .invoked second :: after) ≠ .broken) :
    TurnClosed between first := by
  rw [TurnPhase.scan_append, TurnPhase.scan_append, TurnPhase.scan_cons,
    TurnPhase.scan_cons] at hscan
  have hfirst : (phase.scan before).next (.invoked first) ≠ .broken := by
    intro hbroken
    simp [hbroken] at hscan
  have hrunning := (TurnPhase.next_invoked hfirst).2
  rw [hrunning] at hscan
  have hsecond : ((TurnPhase.running first).scan between).next (.invoked second) ≠ .broken := by
    intro hbroken
    simp [hbroken] at hscan
  apply TurnPhase.closed_of_running
  rw [(TurnPhase.next_invoked hsecond).1]
  rfl

/-- A handler call of a scan that ends between turns was carried through. -/
theorem TurnPhase.closed_of_idle {phase : TurnPhase}
    (hscan : phase.scan (before ++ .invoked event :: rest) = .idle) :
    TurnClosed rest event := by
  rw [TurnPhase.scan_append, TurnPhase.scan_cons] at hscan
  have hinvoked : (phase.scan before).next (.invoked event) ≠ .broken := by
    intro hbroken
    simp [hbroken] at hscan
  rw [(TurnPhase.next_invoked hinvoked).2] at hscan
  apply TurnPhase.closed_of_running
  rw [hscan]
  rfl

/-! ## Started turns end before the next one starts -/

/-- The turn of the event has ended, by itself or with its completion. -/
def TurnOver (rest : Transcript) (event : SessionEvent) : Prop :=
  ∃ last closed, (last = event ∨ Completes last event) ∧ .ended last closed ∈ rest

theorem TurnClosed.over (hclosed : TurnClosed rest event) : TurnOver rest event := by
  cases hclosed with
  | plain closed horder | threw closed horder =>
    exact ⟨event, closed, .inl rfl, horder.subset (by simp)⟩
  | deferred completion closed hcompletes horder =>
    exact ⟨completion, closed, .inr hcompletes, horder.subset (by simp)⟩

theorem TurnOver.mono {longer : Transcript}
    (hover : TurnOver rest event) (hsubset : rest ⊆ longer) : TurnOver longer event := by
  obtain ⟨last, closed, hlast, hmem⟩ := hover
  exact ⟨last, closed, hlast, hsubset hmem⟩

theorem TurnPhase.over_of_opened (hscan : ((TurnPhase.opened event).scan transcript).isFresh = true)
    (hother : (TurnPhase.opened event).scan transcript ≠ .opened event) :
    TurnOver transcript event := by
  induction transcript with
  | nil => simp at hother
  | cons observation _ ih =>
    rw [TurnPhase.scan_cons] at hscan hother
    cases haside : observation.isAside with
    | true =>
      rw [TurnPhase.next_aside _ haside] at hscan hother
      exact (ih hscan hother).mono (subset_cons_self _ _)
    | false =>
      cases observation with
      | invoked called =>
        by_cases hcalled : called = event
        · subst hcalled
          have hrunning : (TurnPhase.opened called).next (.invoked called) = .running called := by
            simp [TurnPhase.next, isAside]
          rw [hrunning] at hscan
          exact (TurnPhase.closed_of_running hscan).over.mono (subset_cons_self _ _)
        · simp [TurnPhase.next, isAside, hcalled, TurnPhase.isFresh] at hscan
      | ended last closed =>
        by_cases hlast : last = event
        · exact ⟨last, closed, .inl hlast, by simp⟩
        · simp [TurnPhase.next, isAside, hlast, TurnPhase.isFresh] at hscan
      | _ =>
        simp [TurnPhase.next, isAside, TurnPhase.isFresh] at hscan haside

theorem TurnPhase.next_started {phase : TurnPhase} (hnext : phase.next (.started event) ≠ .broken) :
    phase.next (.started event) = .opened event := by
  cases phase with
  | idle => simp [TurnPhase.next, isAside]
  | _ => simp [TurnPhase.next, isAside] at hnext

/-- When a handler is called every turn started for another event is over. -/
theorem TurnPhase.over_before_invoked {phase : TurnPhase}
    {between : Transcript} {first second : SessionEvent}
    (hscan : phase.scan (before ++ .started first :: between ++
      .invoked second :: after) ≠ .broken) (hne : first ≠ second) :
    TurnOver between first := by
  rw [TurnPhase.scan_append, TurnPhase.scan_append, TurnPhase.scan_cons,
    TurnPhase.scan_cons] at hscan
  have hfirst : (phase.scan before).next (.started first) ≠ .broken := by
    intro hbroken
    simp [hbroken] at hscan
  rw [TurnPhase.next_started hfirst] at hscan
  have hsecond : ((TurnPhase.opened first).scan between).next (.invoked second) ≠ .broken := by
    intro hbroken
    simp [hbroken] at hscan
  have hopened := (TurnPhase.next_invoked hsecond).1
  apply TurnPhase.over_of_opened
  · rw [hopened]
    rfl
  · rw [hopened]
    intro heq
    exact hne (TurnPhase.opened.inj heq).symm

theorem TurnPhase.next_opened {phase : TurnPhase} (hnext : phase.next observation = .opened event) :
    phase = .opened event ∨ observation = .started event := by
  cases haside : observation.isAside with
  | true =>
    rw [TurnPhase.next_aside _ haside] at hnext
    exact .inl hnext
  | false =>
    right
    simp only [TurnPhase.next, haside, Bool.false_eq_true, if_false] at hnext
    split at hnext
    next _ =>
      cases hnext
      rfl
    all_goals
      first
        | (split at hnext <;> try split at hnext) <;> simp at hnext
        | simp at hnext

theorem TurnPhase.started_of_opened (hscan : TurnPhase.idle.scan transcript = .opened event) :
    .started event ∈ transcript := by
  induction transcript using reverseRecOn with
  | nil => simp at hscan
  | append_singleton _ _ ih =>
    rw [TurnPhase.scan_append, TurnPhase.scan_cons, TurnPhase.scan_nil] at hscan
    rcases TurnPhase.next_opened hscan with hopened | rfl
    · exact mem_append_left _ (ih hopened)
    · simp

/-- A handler is called in a turn that was started. -/
theorem TurnPhase.started_before_invoked
    (hscan : TurnPhase.idle.scan (before ++ .invoked event :: after) ≠ .broken) :
    .started event ∈ before := by
  rw [TurnPhase.scan_append, TurnPhase.scan_cons] at hscan
  have hinvoked : (TurnPhase.idle.scan before).next (.invoked event) ≠ .broken := by
    intro hbroken
    simp [hbroken] at hscan
  exact TurnPhase.started_of_opened (TurnPhase.next_invoked hinvoked).1

theorem TurnPhase.eq_returned_of_waiting {phase : TurnPhase}
    (hnext : phase.next observation = .waiting event)
    (haside : observation.isAside = false) : observation = .returned event .deferred := by
  unfold TurnPhase.next at hnext
  rw [if_neg (by simp [haside])] at hnext
  cases phase <;> cases observation <;> simp at hnext
  case running.returned opened called outcome =>
    split at hnext
    next hcalled =>
      split at hnext
      next houtcome =>
        simp only [TurnPhase.waiting.injEq] at hnext
        rw [hcalled, hnext, houtcome]
      next => simp at hnext
    next => simp at hnext
  all_goals split at hnext <;> simp at hnext

/-- A turn waits since its handler returned with a deferral. -/
theorem TurnPhase.returned_of_waiting (hphase : TurnPhase.idle.scan transcript = .waiting event) :
    ∃ earlier asides, transcript = earlier ++ .returned event .deferred :: asides ∧
      ∀ observation ∈ asides, observation.isAside = true := by
  induction transcript using reverseRecOn with
  | nil => simp at hphase
  | append_singleton rest observation ih =>
    rw [TurnPhase.scan_append, TurnPhase.scan_cons, TurnPhase.scan_nil] at hphase
    cases haside : observation.isAside with
    | true =>
      rw [TurnPhase.next_aside _ haside] at hphase
      obtain ⟨earlier, asides, hsplit, hasides⟩ := ih hphase
      refine ⟨earlier, asides ++ [observation], by simp [hsplit], ?_⟩
      rw [forall_mem_append, forall_mem_singleton]
      exact ⟨hasides, haside⟩
    | false =>
      rw [TurnPhase.eq_returned_of_waiting hphase haside]
      exact ⟨rest, [], rfl, by simp⟩

/-- A completion is processed in a turn that waits for it. -/
theorem TurnPhase.waiting_of_processed {completion : SessionEvent}
    (hbroken : TurnPhase.idle.scan (before ++ .processed completion :: rest) ≠ .broken) :
    ∃ event, TurnPhase.idle.scan before = .waiting event ∧ Completes completion event := by
  rw [TurnPhase.scan_append, TurnPhase.scan_cons] at hbroken
  generalize TurnPhase.idle.scan before = phase at hbroken
  cases phase with
  | waiting event =>
    by_cases hcompletes : Completes completion event
    · exact ⟨event, rfl, hcompletes⟩
    · simp [TurnPhase.next, isAside, hcompletes] at hbroken
  | _ => simp [TurnPhase.next, isAside] at hbroken

/-! ## The machine never breaks the scan -/

/-- The turn is past its handler: a completion was processed, or the handler
has returned. -/
def TurnPhase.Concluding (event : SessionEvent) (phase : TurnPhase) : Prop :=
  if event.kind = .deferredCompletion then ∃ first, phase = .completing first event
  else phase = .returned event

def TurnStage.InPhase (event : SessionEvent) (phase : TurnPhase) : TurnStage → Prop
  | .skipping => phase = .opened event
  | .handling _ => phase = .running event
  | .finishing context =>
    phase = if context.deferred then .waiting event else .returned event
  | .publishing _ deferred _ =>
    if deferred then phase = .waiting event else phase.Concluding event
  | .deferring _ => phase = .waiting event
  | .completing _ _ => phase.Concluding event
  | .failing _ => phase.Concluding event
  | .disconnecting => phase.Concluding event
  | .ending => phase.Concluding event ∨ phase = .opened event

def SessionView.phase (view : SessionView n) : TurnPhase :=
  TurnPhase.idle.scan view.log

structure SessionView.PhaseInvariant (view : SessionView n) : Prop where
  idle : view.state.active = false → view.phase = .idle
  turn : ∀ w event stage, view.tasks w = .turn event stage → stage.InPhase event view.phase
  waiting : view.state.active = true → view.state.awaitingCompletion = true →
    view.weigh turns = 0 →
      ∃ event, view.phase = .waiting event ∧ event.sequence = view.state.nextSequence

theorem SessionView.initial_phaseInvariant (n : ℕ) (sessionId : SessionId) :
    (SessionView.initial n sessionId).PhaseInvariant := by
  constructor
  · intro _
    rfl
  · intro w _ _ htask
    simp [SessionView.initial] at htask
  · intro hactive
    simp [SessionView.initial] at hactive

theorem SessionView.PhaseInvariant.keep {after : SessionView n}
    (hphase : view.PhaseInvariant) (hsame : SameTurn view.state after.state)
    (hlog : after.log = view.log ++ observations)
    (haside : ∀ observation ∈ observations, observation.isAside = true)
    (hturns : after.weigh turns = view.weigh turns)
    (htasks : ∀ w event stage, after.tasks w = .turn event stage → stage.InPhase event view.phase) :
    after.PhaseInvariant := by
  have heq : after.phase = view.phase := by
    unfold phase
    rw [hlog, TurnPhase.scan_append, TurnPhase.scan_aside _ haside]
  constructor
  · rw [heq, hsame.active]
    exact hphase.idle
  · rw [heq]
    exact htasks
  · rw [heq, hsame.active, hsame.awaitingCompletion, hsame.nextSequence, hturns]
    exact hphase.waiting

theorem SessionView.PhaseInvariant.advance (hphase : view.PhaseInvariant) {task : Task}
    (hsame : SameTurn view.state state)
    (haside : ∀ observation ∈ observations, observation.isAside = true)
    (hturns : task.turns = (view.tasks w).turns)
    (htask : ∀ event stage, task = .turn event stage → stage.InPhase event view.phase) :
    ({ view with state := state }.advance w task observations).PhaseInvariant := by
  have hweigh :=
    { view with state := state }.weigh_advance turns w task observations
  apply hphase.keep hsame rfl haside
  · simp only [weigh] at hweigh ⊢
    omega
  · intro v event stage hv
    by_cases hvw : v = w
    · subst hvw
      simp only [advance, update_self] at hv
      exact htask event stage hv
    · simp only [SessionView.advance, update_of_ne hvw] at hv
      exact hphase.turn v event stage hv

theorem eq_turn_of_update {other : SessionEvent} {stage : TurnStage} {task : Task}
    {v : Fin n} (hothers : ∀ v, v ≠ w → (view.tasks v).turns = 0)
    (hv : update view.tasks w task v = .turn other stage) :
    task = .turn other stage := by
  by_cases hvw : v = w
  · subst hvw
    rwa [update_self] at hv
  · rw [update_of_ne hvw] at hv
    have hzero := hothers v hvw
    simp [hv] at hzero

/-- A worker alone with a turn is in the phase its observations lead to. -/
theorem SessionView.PhaseInvariant.alone {next : TurnStage}
    (hactive : state.active = true) (hothers : ∀ v, v ≠ w → (view.tasks v).turns = 0)
    (hnext : next.InPhase event (view.phase.scan observations)) :
    ({ view with state := state }.advance w (.turn event next) observations).PhaseInvariant := by
  constructor
  · intro hinactive
    simp [hactive] at hinactive
  · intro v _ _ hv
    obtain ⟨rfl, rfl⟩ := turn.inj (eq_turn_of_update hothers hv)
    unfold phase
    rw [advance_log, TurnPhase.scan_append]
    exact hnext
  · intro _ _ hturns
    have hle := ({ view with state := state }.advance w (.turn event next)
      observations).le_weigh turns w
    simp only [SessionView.advance, update_self, turns_turn] at hle hturns
    omega

theorem SessionView.PhaseInvariant.progress (hinv : view.TurnInvariant) {stage next : TurnStage}
    (htask : view.tasks w = .turn event stage)
    (hnext : next.InPhase event (view.phase.scan observations)) :
    (view.advance w (.turn event next) observations).PhaseInvariant :=
  alone (hinv.turnOpen htask).active (fun _ => hinv.turns_of_ne htask) hnext

theorem TurnMove.inPhase {stage next : TurnStage} (hmove : TurnMove state event stage next)
    (hfits : stage.Fits event.kind) {phase : TurnPhase}
    (hphase : stage.InPhase event phase) : next.InPhase event phase := by
  cases hmove with
  | emitCompletion | emitted | handle | publish | defer => exact hphase
  | alreadyFailed | disconnected | published => exact .inl hphase
  | skip => exact .inr hphase
  | finish context hplain =>
    have hnot : context.deferred = false := by
      simp [WorkerSessionEventContext.deferred, hplain]
    have hkind : event.kind ≠ .deferredCompletion := hfits
    simp only [TurnStage.InPhase, hnot, Bool.false_eq_true, if_false] at hphase ⊢
    simp only [TurnPhase.Concluding, hkind, if_false]
    exact hphase

theorem TurnPhase.scan_ended {phase : TurnPhase}
    (hphase : phase.Concluding event ∨ phase = .opened event) (closed : Bool) :
    phase.scan [.ended event closed] = .idle := by
  rcases hphase with hconcluding | hopened
  · unfold TurnPhase.Concluding at hconcluding
    split at hconcluding
    next =>
      obtain ⟨_, rfl⟩ := hconcluding
      simp [TurnPhase.scan, TurnPhase.next, isAside]
    next =>
      subst hconcluding
      simp [TurnPhase.scan, TurnPhase.next, isAside]
  · subst hopened
    simp [TurnPhase.scan, TurnPhase.next, isAside]

section Steps

variable (hphase : view.PhaseInvariant) (hinv : view.TurnInvariant)
include hphase hinv

theorem SessionView.PhaseInvariant.processCompletion {stage : HandStage}
    (htask : view.tasks w = .hand event stage) (hkind : event.kind = .deferredCompletion)
    (hactive : view.state.active = true) (hawaiting : view.state.awaitingCompletion = true)
    (hsequence : view.state.nextSequence = event.sequence) :
    (view.advance w (.turn event (completionStage event)) [.processed event]).PhaseInvariant := by
  have hcount := hinv.awaiting hactive hawaiting
  have hinHand : 1 ≤ view.tokens := by
    have hle := view.le_weigh (holds SessionEvent.isCompletion) w
    have htokens := view.completionsInHand_le_tokens
    simp only [htask, holds_hand, SessionEvent.isCompletion, hkind,
      beq_self_eq_true, Bool.toNat_true] at hle
    exact hle.trans htokens
  obtain ⟨first, hwaiting, hfirst⟩ := hphase.waiting hactive hawaiting (by omega)
  have hcompletes : Completes event first :=
    ⟨hkind, hsequence.symm.trans hfirst.symm⟩
  have heq : view.phase.scan [.processed event] = .completing first event := by
    rw [hwaiting]
    simp [TurnPhase.scan, TurnPhase.next, isAside, hcompletes]
  apply PhaseInvariant.alone hactive
  · intro v _
    have hle := view.le_weigh turns v
    omega
  · rw [heq]
    have hconcluding : (TurnPhase.completing first event).Concluding event := by
      simp [TurnPhase.Concluding, hkind]
    rcases completionStage_cases event with hstage | ⟨_, hstage⟩ <;>
      rw [hstage] <;> exact hconcluding

theorem SessionView.PhaseInvariant.beginTurn
    (hinactive : view.state.active = false) (hactive : state.active = true) :
    ({ view with state := state }.advance w (.turn event .skipping)
      [.started event]).PhaseInvariant := by
  obtain ⟨_, hturns, _⟩ := hinv.inactive hinactive
  apply PhaseInvariant.alone hactive
  · intro v _
    exact Accounting.weight_eq_zero_of_sum_eq_zero hturns v
  · rw [hphase.idle hinactive]
    simp [TurnStage.InPhase, TurnPhase.scan, TurnPhase.next, isAside]

theorem SessionView.PhaseInvariant.tryStart {config : WorkerPoolConfig}
    {disposition : SessionTurnDisposition} (htask : view.tasks w = .hand event .trying)
    (hstart : tryStartSessionTurn config event view.state = (disposition, state)) :
    ({ view with state := state }.advance w (tryTask event disposition)
      (tryLog event disposition)).PhaseInvariant := by
  have hkeep : ∀ (next : SessionSequenceState) (task : Task),
      SameTurn view.state next → task.turns = 0 →
        ({ view with state := next }.advance w task []).PhaseInvariant := by
    intro _ _ hsame hzero
    apply hphase.advance hsame (by simp)
    · rw [hzero, htask]
      rfl
    · intro _ _ heq
      simp [heq] at hzero
  cases turnStart_tryStartSessionTurn hstart with
  | closed | badCompletion | failedPacket | invalid | limit => exact hkeep _ _ (refl _) rfl
  | completion hkind hactive hawaiting hsequence =>
    simp only [tryTask, tryLog, hkind, if_true]
    exact hphase.processCompletion hinv htask hkind hactive hawaiting hsequence
  | early | pending | park => exact hkeep _ _ ⟨rfl, rfl, rfl, rfl, rfl⟩ rfl
  | startFailed hkind _ hactive =>
    have hnot : event.kind ≠ .deferredCompletion := by simp [hkind]
    simp only [tryTask, tryLog, hnot, if_false]
    exact hphase.beginTurn hinv hactive rfl
  | start hkind _ hactive =>
    simp only [tryTask, tryLog, hkind, if_false]
    exact hphase.beginTurn hinv hactive rfl

theorem SessionView.PhaseInvariant.markDeferred
    {inlineCompletion earlyCompletion : Option SessionEvent}
    (htask : view.tasks w = .turn event (.deferring inlineCompletion))
    (hdefer : markSessionDeferred event view.state = some (earlyCompletion, state)) :
    ({ view with state := state }.advance w
      (restart (inlineCompletion.or earlyCompletion)) []).PhaseInvariant := by
  obtain ⟨rfl, rfl⟩ := markSessionDeferred_some hdefer
  have hopen := hinv.turnOpen htask
  have hwaiting : view.phase = .waiting event := hphase.turn w event _ htask
  constructor
  · intro hinactive
    simp [hopen.active] at hinactive
  · intro v _ _ hv
    have heq := eq_turn_of_update (fun _ => hinv.turns_of_ne htask) hv
    cases hcase : inlineCompletion.or view.state.earlyCompletion <;> simp [hcase, restart] at heq
  · intro _ _ _
    refine ⟨event, ?_, hopen.sequence⟩
    unfold phase at hwaiting ⊢
    simpa [advance] using hwaiting

theorem SessionView.PhaseInvariant.endOpen (htask : view.tasks w = .turn event .ending) :
    ({ view with state := (endSessionTurn view.state).2 }.advance w
      (restart (endSessionTurn view.state).1) [.ended event false]).PhaseInvariant := by
  have hinactive := (turnEnds_endSessionTurn view.state).active
  constructor
  · intro _
    unfold phase
    rw [advance_log, TurnPhase.scan_append]
    exact TurnPhase.scan_ended (hphase.turn w event _ htask) false
  · intro v _ _ hv
    have heq := eq_turn_of_update (fun _ => hinv.turns_of_ne htask) hv
    cases hcase : (endSessionTurn view.state).1 <;> simp [hcase, restart] at heq
  · intro hactive
    rw [advance_state, hinactive] at hactive
    simp at hactive

end Steps

theorem SessionView.PhaseInvariant.endClosed (hphase : view.PhaseInvariant)
    (htask : view.tasks w = .turn event .ending) :
    (view.close event).PhaseInvariant := by
  constructor
  · intro _
    unfold phase close
    rw [TurnPhase.scan_append]
    exact TurnPhase.scan_ended (hphase.turn w event _ htask) true
  · intro v _ _ hv
    simp [close] at hv
  · intro hactive
    simp [close] at hactive

theorem SessionView.PhaseInvariant.step {config : WorkerPoolConfig} {lossy : Bool}
    {after : SessionView n} (hphase : view.PhaseInvariant)
    (hinv : view.TurnInvariant) (hstep : SessionStep config lossy view after) :
    after.PhaseInvariant := by
  have hquietAside : ∀ {observations : List Observation},
      (∀ observation ∈ observations, observation.isQuiet = true) →
        ∀ observation ∈ observations, observation.isAside = true := by
    intro _ hquiet observation hmem
    exact isAside_of_isQuiet (hquiet observation hmem)
  cases hstep with
  | push =>
    exact hphase.keep (refl _) rfl (by simp [isAside]) rfl hphase.turn
  | pop _ _ rest _ htask =>
    have hkept : { view with registered := true, queue := rest }.PhaseInvariant :=
      hphase.keep (refl _) (append_nil _).symm (by simp) rfl hphase.turn
    exact hkept.advance (refl _) (by simp [isAside]) (by simp [htask]) (by simp)
  | handMove _ _ _ _ _ htask _ hquiet =>
    exact hphase.advance (refl _) (hquietAside hquiet) (by simp [htask]) (by simp)
  | tryStart _ _ _ _ htask hstart =>
    exact hphase.tryStart hinv htask hstart
  | discard _ _ htask | lose _ _ _ htask =>
    exact hphase.advance (refl _) (by simp) (by simp [htask]) (by simp)
  | failHand _ _ _ htask hmark =>
    exact hphase.advance (markSessionFailed_sameTurn hmark)
      (by simp [isAside]) (by simp [htask]) (by simp)
  | takePending _ _ htask =>
    apply hphase.advance (takePendingDisconnected_sameTurn _) (by simp)
    · cases (takePendingDisconnected view.state).1 <;> simp [restart, htask]
    · cases (takePendingDisconnected view.state).1 <;> simp [restart]
  | turnMove w _ _ _ _ htask hmove hquiet =>
    apply hphase.advance (refl _) (hquietAside hquiet) (by simp [htask])
    intro other otherStage heq
    obtain ⟨rfl, rfl⟩ := turn.inj heq
    exact hmove.inPhase (hinv.turnOpen htask).fits (hphase.turn w _ _ htask)
  | failTurn w event failure htask hmark =>
    apply hphase.advance (markSessionFailed_sameTurn hmark) (by simp [isAside]) (by simp [htask])
    intro other otherStage heq
    obtain ⟨rfl, rfl⟩ := turn.inj heq
    exact hphase.turn w event (.failing failure) htask
  | invoke w event htask =>
    have hopened : view.phase = .opened event := hphase.turn w event _ htask
    apply SessionView.PhaseInvariant.progress hinv htask
    rw [hopened]
    simp [TurnStage.InPhase, TurnPhase.scan, TurnPhase.next, isAside]
  | handlerReturn w event context htask =>
    have hrunning : view.phase = .running event := hphase.turn w event _ htask
    apply SessionView.PhaseInvariant.progress hinv htask
    rw [hrunning]
    cases hdeferred : context.deferred <;>
      simp [TurnStage.InPhase, TurnPhase.scan, TurnPhase.next, isAside, hdeferred]
  | handlerThrow w event _ htask =>
    have hrunning : view.phase = .running event := hphase.turn w event _ htask
    have hkind : event.kind ≠ .deferredCompletion := (hinv.turnOpen htask).fits
    apply SessionView.PhaseInvariant.progress hinv htask
    rw [hrunning]
    simp [TurnStage.InPhase, TurnPhase.Concluding, TurnPhase.scan, TurnPhase.next, isAside, hkind]
  | finishInline w event _ _ htask _ _ _ hdeferred =>
    have hwaiting := hphase.turn w event _ htask
    simp only [TurnStage.InPhase, hdeferred, if_true] at hwaiting
    apply SessionView.PhaseInvariant.progress hinv htask
    exact hwaiting
  | finishOpen w event _ htask hdeferred =>
    have hwaiting := hphase.turn w event _ htask
    simp only [TurnStage.InPhase, hdeferred, if_true] at hwaiting
    have hkept : { view with
        callable := event.sequence ::ₘ view.callable }.PhaseInvariant :=
      hphase.keep (refl _) (append_nil _).symm (by simp) rfl hphase.turn
    apply hkept.advance (refl _) (by simp) (by simp [htask])
    intro _ _ heq
    obtain ⟨rfl, rfl⟩ := turn.inj heq
    exact hwaiting
  | markDeferred _ _ _ _ _ htask hdefer =>
    exact hphase.markDeferred hinv htask hdefer
  | endOpen _ _ htask => exact hphase.endOpen hinv htask
  | endClosed _ _ htask => exact hphase.endClosed htask
  | pushCompletion _ _ _ _ _ hquiet | refuseCompletion _ _ _ hquiet | observe _ hquiet =>
    exact hphase.keep (refl _) rfl (hquietAside hquiet) rfl hphase.turn

theorem SessionView.PhaseInvariant.notBroken
    (hphase : view.PhaseInvariant) (hinv : view.TurnInvariant) :
    view.phase ≠ .broken := by
  intro hbroken
  cases hactive : view.state.active with
  | false =>
    have hidle := hphase.idle hactive
    simp [hbroken] at hidle
  | true =>
    by_cases hturns : view.weigh turns = 0
    · cases hawaiting : view.state.awaitingCompletion with
      | false =>
        have hone := (hinv.running hactive hawaiting).1
        omega
      | true =>
        obtain ⟨event, hwaiting, _⟩ := hphase.waiting hactive hawaiting hturns
        simp [hbroken] at hwaiting
    · obtain ⟨w, _, hw⟩ := Finset.exists_ne_zero_of_sum_ne_zero hturns
      cases htask : view.tasks w with
      | turn event stage =>
        have hin := hphase.turn w event stage htask
        rw [hbroken] at hin
        have hnot : ¬ TurnPhase.broken.Concluding event := by
          unfold TurnPhase.Concluding
          split <;> simp
        cases stage with
        | finishing context =>
          cases hdeferred : context.deferred <;> simp [TurnStage.InPhase, hdeferred] at hin
        | publishing _ deferred =>
          cases deferred <;> simp [TurnStage.InPhase, hnot] at hin
        | _ => simp [TurnStage.InPhase, hnot] at hin
      | _ => simp [htask] at hw

end SessionServer.WorkerPool
