import SessionServer.SessionEventCustody
import SessionServer.SessionLedger
import SessionServer.SessionStageInvariant
import SessionServer.SessionTurnChange
import SessionServer.SessionTurnPhase

/-!
# Turns are started in the order of the sequence numbers

For a session whose accepted events carry the numbers 0, 1, 2, ... in order:
turns are started with strictly increasing numbers, handlers are called for
started turns only, and up to the first failure no number is left out.

The argument compares waiting events with started ones.  Every waiting event
has a number above all started ones, except while the Disconnected of a failed
session runs: that turn may overtake packets, which are then discarded.
-/

namespace SessionServer.WorkerPool

open SessionEvent Transcript SessionView List Function

variable {n : ℕ}
variable {k : ℕ} {w : Fin n} {event : SessionEvent}

def Transcript.Contiguous (transcript : Transcript) : Prop :=
  (accepted transcript).map SessionEvent.sequence = range (accepted transcript).length

theorem eq_range_of_append_eq_range {first second : List ℕ} {count : ℕ}
    (happend : first ++ second = range count) :
    first = range first.length := by
  have hlength : first.length ≤ count := by
    have hlengths := congrArg length happend
    simp at hlengths
    omega
  have htake := congrArg (take first.length) happend
  rw [take_left, take_range, Nat.min_eq_left hlength] at htake
  exact htake

/-- The second part carries on where the first one stops. -/
theorem length_le_of_append_eq_range {first second : List ℕ} {count : ℕ}
    (happend : first ++ second = range count) (hmem : k ∈ second) :
    first.length ≤ k := by
  have hnodup : (first ++ second).Nodup := by
    rw [happend]
    exact nodup_range
  have hdisjoint := disjoint_of_nodup_append hnodup
  by_contra hlt
  apply hdisjoint _ hmem
  rw [eq_range_of_append_eq_range happend, mem_range]
  omega

theorem Transcript.Contiguous.of_append {first second : Transcript}
    (hcontiguous : Transcript.Contiguous (first ++ second)) :
    Transcript.Contiguous first := by
  unfold Transcript.Contiguous at hcontiguous ⊢
  rw [accepted_append, map_append] at hcontiguous
  have hrange := eq_range_of_append_eq_range hcontiguous
  rwa [length_map] at hrange

/-- Each number is accepted at most once, and only below the count. -/
theorem Transcript.Contiguous.countP_le {transcript : Transcript}
    (hcontiguous : transcript.Contiguous) (sequence : ℕ) :
    (accepted transcript).countP (numbered sequence) ≤
      if sequence < (accepted transcript).length then 1 else 0 := by
  have hmono : (accepted transcript).countP (numbered sequence) ≤
      ((accepted transcript).map SessionEvent.sequence).count sequence := by
    rw [count, countP_map]
    apply countP_mono_left
    intro _ _ hnumbered
    simpa using sequence_of_numbered hnumbered
  rw [hcontiguous] at hmono
  apply hmono.trans
  split
  next => exact nodup_iff_count_le_one.mp nodup_range sequence
  next hge =>
    apply Nat.le_of_eq
    simpa using hge

theorem Transcript.Contiguous.lt_length {transcript : Transcript}
    (hcontiguous : transcript.Contiguous) {sequence : ℕ}
    (haccepted : 0 < (accepted transcript).countP (numbered sequence)) :
    sequence < (accepted transcript).length := by
  have hle := hcontiguous.countP_le sequence
  split at hle
  next hlt => exact hlt
  next => omega

theorem mem_sequences_of_countP {events : List SessionEvent} {sequence : ℕ}
    (hpos : 0 < events.countP (numbered sequence)) :
    sequence ∈ events.map SessionEvent.sequence := by
  obtain ⟨_, hmem, hnumbered⟩ := countP_pos_iff.mp hpos
  rw [← sequence_of_numbered hnumbered]
  exact mem_map_of_mem hmem

theorem SessionStep.log_append {config : WorkerPoolConfig} {lossy : Bool}
    {view after : SessionView n} (hstep : SessionStep config lossy view after) :
    ∃ observations, after.log = view.log ++ observations := by
  cases hstep <;> exact ⟨_, rfl⟩

/-! ## Intake -/

/-- The inbox holds what was accepted and not popped yet, in order. -/
def SessionView.Intake (view : SessionView n) : Prop :=
  accepted view.log = (popped view.log ++ view.queue).filter fun event => !event.isCompletion

theorem SessionStep.intake {config : WorkerPoolConfig} {lossy : Bool}
    {view after : SessionView n} (hstep : SessionStep config lossy view after)
    (hintake : view.Intake) : after.Intake := by
  have hkeep : ∀ (other : SessionView n) observations,
      other.log = view.log ++ observations → other.queue = view.queue →
      accepted observations = [] → popped observations = [] → other.Intake := by
    intro _ observations hlog hqueue haccepted hpopped
    unfold SessionView.Intake at hintake ⊢
    rw [hlog, hqueue, accepted_append, popped_append, haccepted, hpopped, append_nil, append_nil]
    exact hintake
  cases hstep with
  | push event hexternal =>
    have hkind : event.isCompletion = false := by
      simp only [isExternal, Bool.and_eq_true, Bool.not_eq_true'] at hexternal
      exact hexternal.1
    have haccepted : accepted [.accepted event] = [event] := rfl
    have hpopped : popped [.accepted event] = [] := rfl
    unfold SessionView.Intake at hintake ⊢
    rw [accepted_append, popped_append, haccepted, hpopped,
      append_nil, ← append_assoc, filter_append, ← hintake]
    simp [hkind]
  | pop _ event _ _ _ hqueue =>
    have haccepted : accepted [.popped event] = [] := rfl
    have hpopped : popped [.popped event] = [event] := rfl
    unfold SessionView.Intake at hintake ⊢
    rw [advance_log, advance_queue,
      accepted_append, popped_append, haccepted, hpopped,
      append_nil, append_assoc, hintake, hqueue, singleton_append]
  | handMove _ _ _ _ observations _ _ hquiet | turnMove _ _ _ _ observations _ _ hquiet
  | refuseCompletion _ observations _ hquiet | observe observations hquiet =>
    exact hkeep _ observations rfl rfl (accepted_quiet hquiet) (popped_quiet hquiet)
  | tryStart _ event disposition =>
    refine hkeep _ (tryLog event disposition) rfl rfl ?_ ?_
    · exact tryLog_accepted event disposition
    · cases disposition with
      | process =>
        by_cases hkind : event.kind = .deferredCompletion <;>
          simp [tryLog, hkind, popped, Observation.popped?]
      | _ => rfl
  | pushCompletion completion _ hkind _ _ hquiet =>
    have hcompletion : completion.isCompletion = true := by
      simp [isCompletion, hkind]
    unfold SessionView.Intake at hintake ⊢
    rw [accepted_append, popped_append,
      accepted_quiet hquiet, popped_quiet hquiet,
      append_nil, append_nil, ← append_assoc, filter_append,
      ← hintake]
    simp [hcompletion]
  | _ => exact hkeep _ _ rfl rfl rfl rfl

/-- Nothing waits or is started that was not accepted. -/
def SessionView.Covered (view : SessionView n) : Prop :=
  ∀ predicate : SessionEvent → Bool,
    (∀ event, predicate event = true → event.kind ≠ .deferredCompletion) →
      view.waiting predicate + (started view.log).countP predicate ≤
        (accepted view.log).countP predicate

theorem SessionStep.covered {config : WorkerPoolConfig} {lossy : Bool}
    {view after : SessionView n} (hstep : SessionStep config lossy view after)
    (hinv : view.TurnInvariant) (hcovered : view.Covered) : after.Covered := by
  intro predicate hpredicate
  obtain ⟨_, _, _⟩ := hstep.balances hinv hpredicate
  have hbefore := hcovered predicate hpredicate
  omega

/-! ## Handlers are called for started turns -/

/-- The Disconnected of the session runs; it may have overtaken packets. -/
def SessionView.Overtakes (view : SessionView n) : Prop :=
  view.state.active = true ∧ view.state.activeDisconnect = true

structure SessionView.ServiceInvariant (view : SessionView n) : Prop where
  kinds : ∀ event ∈ started view.log, event.kind ≠ .deferredCompletion
  invoked : (invoked view.log).Sublist (started view.log)
  skipping : ∀ w event, view.tasks w = .turn event .skipping →
    (Transcript.invoked view.log ++ [event]).Sublist (Transcript.started view.log)
  disconnect : view.Overtakes → ∃ event ∈ Transcript.started view.log, event.kind = .disconnected

theorem SessionView.initial_serviceInvariant (sessionId : SessionId) :
    (SessionView.initial n sessionId).ServiceInvariant := by
  constructor
  · intro event hmem
    simp [SessionView.initial, started] at hmem
  · exact List.Sublist.refl _
  · intro w _ htask
    simp [SessionView.initial] at htask
  · intro hovertakes
    simp [SessionView.Overtakes, SessionView.initial] at hovertakes

theorem SessionView.TurnInvariant.not_skipping {view : SessionView n}
    (hinv : view.TurnInvariant) {v : Fin n} {other : SessionEvent}
    {stage : TurnStage} (htask : view.tasks w = .turn event stage)
    (hskipping : view.tasks v = .turn other .skipping) : v = w := by
  by_contra hne
  have hzero := hinv.turns_of_ne htask hne
  rw [hskipping] at hzero
  simp at hzero

theorem SessionView.ServiceInvariant.step {config : WorkerPoolConfig} {lossy : Bool}
    {view after : SessionView n} (hservice : view.ServiceInvariant)
    (hinv : view.TurnInvariant) (hstep : SessionStep config lossy view after) :
    after.ServiceInvariant := by
  cases hstep.turnChange hinv with
  | keeps hkeeps =>
    constructor
    · rw [hkeeps.started]
      exact hservice.kinds
    · rw [hkeeps.started, hkeeps.invoked]
      exact hservice.invoked
    · intro w event htask
      rw [hkeeps.started, hkeeps.invoked]
      exact hservice.skipping w event (hkeeps.skipping w event htask)
    · unfold SessionView.Overtakes
      rw [hkeeps.active, hkeeps.activeDisconnect, hkeeps.started]
      exact hservice.disconnect
  | starts w event hstarts =>
    have hsublist := hservice.invoked.append (List.Sublist.refl [event])
    constructor
    · intro other hmem
      rw [hstarts.started, mem_append, mem_singleton] at hmem
      rcases hmem with hmem | rfl
      · exact hservice.kinds other hmem
      · exact hstarts.kind
    · rw [hstarts.started, hstarts.invoked]
      exact hservice.invoked.trans (sublist_append_left _ _)
    · intro v other htask
      rw [hstarts.started, hstarts.invoked]
      rw [hstarts.tasks] at htask
      by_cases hvw : v = w
      · subst hvw
        rw [update_self] at htask
        cases htask
        exact hsublist
      · rw [update_of_ne hvw] at htask
        exact (hservice.skipping v other htask).trans (sublist_append_left _ _)
    · intro hovertakes
      refine ⟨event, by simp [hstarts.started], ?_⟩
      rcases hstarts.cause with ⟨_, _, hdisconnect⟩ | ⟨_, hkind, _⟩
      · rw [hovertakes.2] at hdisconnect
        simpa [isDisconnected] using hdisconnect.symm
      · exact hkind
  | invokes w event hinvokes =>
    constructor
    · rw [hinvokes.started]
      exact hservice.kinds
    · rw [hinvokes.started, hinvokes.invoked]
      exact hservice.skipping w event hinvokes.task
    · intro v other htask
      rw [hinvokes.tasks] at htask
      by_cases hvw : v = w
      · subst hvw
        simp at htask
      · rw [update_of_ne hvw] at htask
        exact absurd (hinv.not_skipping hinvokes.task htask) hvw
    · unfold SessionView.Overtakes
      rw [hinvokes.state, hinvokes.started]
      exact hservice.disconnect
  | ends w _ hends =>
    constructor
    · rw [hends.started]
      exact hservice.kinds
    · rw [hends.started, hends.invoked]
      exact hservice.invoked
    · intro v other htask
      obtain ⟨next, htasks⟩ := hends.tasks
      rw [htasks] at htask
      by_cases hvw : v = w
      · subst hvw
        cases next <;> simp [restart] at htask
      · rw [update_of_ne hvw] at htask
        exact absurd (hinv.not_skipping hends.task htask) hvw
    · intro hovertakes
      have hactive := hovertakes.1
      simp [hends.inactive] at hactive
  | closes _ _ _ _ hafter =>
    subst hafter
    constructor
    · rw [close_started]
      exact hservice.kinds
    · rw [close_started, close_invoked]
      exact hservice.invoked
    · intro v _ hidle
      simp [close] at hidle
    · intro hovertakes
      simp [SessionView.Overtakes, close] at hovertakes

/-! ## Strictly increasing numbers -/

/-- The first number that may still be started. -/
def SessionView.frontier (view : SessionView n) : ℕ :=
  view.state.nextSequence + view.state.active.toNat

structure SessionView.OrderInvariant (view : SessionView n) : Prop where
  ordered : ((started view.log).map SessionEvent.sequence).Pairwise (· < ·)
  floor : ¬ view.Overtakes → ∀ k, 0 < view.waiting (numbered k) →
    ∀ event ∈ started view.log, event.sequence < k
  ahead : ¬ view.Overtakes → ∀ k, 0 < view.waiting (numbered k) → view.frontier ≤ k
  bounded : ¬ view.Overtakes → view.frontier ≤ (accepted view.log).length

theorem SessionView.initial_orderInvariant (sessionId : SessionId) :
    (SessionView.initial n sessionId).OrderInvariant := by
  constructor
  · exact List.Pairwise.nil
  · intro _ k _ _ hmem
    simp [SessionView.initial, started] at hmem
  · intro _ k _
    exact Nat.zero_le k
  · intro _
    exact Nat.zero_le _

section Order

variable {config : WorkerPoolConfig} {lossy : Bool} {view after : SessionView n}

theorem SessionView.Covered.accepted_of_started (hcovered : view.Covered)
    (hservice : view.ServiceInvariant) (hmem : event ∈ started view.log) :
    0 < (accepted view.log).countP (numbered event.sequence) := by
  have hle := hcovered (numbered event.sequence) fun _ => numbered_kind
  have hpos : 0 < (started view.log).countP (numbered event.sequence) :=
    countP_pos_iff.mpr ⟨event, hmem, numbered_self (hservice.kinds event hmem)⟩
  omega

theorem SessionStep.waiting_or_new (hstep : SessionStep config lossy view after)
    (hinv : view.TurnInvariant) (hcontiguous : Transcript.Contiguous after.log)
    (hwaiting : 0 < after.waiting (numbered k)) :
    0 < view.waiting (numbered k) ∨ (accepted view.log).length ≤ k := by
  have hbalances : Balances lossy view after (numbered k) :=
    hstep.balances hinv fun _ => numbered_kind
  obtain ⟨_, _, hbooks⟩ := hbalances
  obtain ⟨observations, hlog⟩ := hstep.log_append
  rw [hlog, started_append, accepted_append, countP_append, countP_append] at hbooks
  by_cases hold : 0 < view.waiting (numbered k)
  · exact .inl hold
  · right
    have hnew : 0 < (accepted observations).countP (numbered k) := by
      omega
    unfold Transcript.Contiguous at hcontiguous
    rw [hlog, accepted_append, map_append] at hcontiguous
    have hle := length_le_of_append_eq_range hcontiguous (mem_sequences_of_countP hnew)
    rwa [length_map] at hle

theorem SessionView.waiting_of_hand {stage : HandStage} (htask : view.tasks w = .hand event stage)
    {predicate : SessionEvent → Bool} (hpredicate : predicate event = true) :
    0 < view.waiting predicate := by
  have hle := view.le_weigh (Task.holds predicate) w
  rw [htask, Task.holds_hand, hpredicate] at hle
  unfold waiting
  simp only [Bool.toNat_true] at hle
  omega

theorem SessionView.OrderInvariant.keep (horder : view.OrderInvariant)
    (hinv : view.TurnInvariant) (hcovered : view.Covered)
    (hservice : view.ServiceInvariant) (hstep : SessionStep config lossy view after)
    (hcontiguous : Transcript.Contiguous after.log)
    (hstarted : started after.log = started view.log)
    (hovertakes : ¬ after.Overtakes → ¬ view.Overtakes)
    (hfrontier : after.frontier = view.frontier) : after.OrderInvariant := by
  obtain ⟨_, hlog⟩ := hstep.log_append
  have hbefore : Transcript.Contiguous view.log := by
    rw [hlog] at hcontiguous
    exact hcontiguous.of_append
  constructor
  · rw [hstarted]
    exact horder.ordered
  · intro hplain k hwaiting event hmem
    rw [hstarted] at hmem
    rcases hstep.waiting_or_new hinv hcontiguous hwaiting with hold | hnew
    · exact horder.floor (hovertakes hplain) k hold event hmem
    · have hlt := hbefore.lt_length (hcovered.accepted_of_started hservice hmem)
      omega
  · intro hplain k hwaiting
    rw [hfrontier]
    rcases hstep.waiting_or_new hinv hcontiguous hwaiting with hold | hnew
    · exact horder.ahead (hovertakes hplain) k hold
    · exact (horder.bounded (hovertakes hplain)).trans hnew
  · intro hplain
    have hbounded := horder.bounded (hovertakes hplain)
    rw [hfrontier, hlog, accepted_append, length_append]
    omega

theorem SessionView.OrderInvariant.start (horder : view.OrderInvariant)
    (hinv : view.TurnInvariant) (hcovered : view.Covered)
    (hstep : SessionStep config lossy view after) (hcontiguous : Transcript.Contiguous after.log)
    (hstarts : StartsTurn view after w event) : after.OrderInvariant := by
  obtain ⟨observations, hlog⟩ := hstep.log_append
  have hbefore : Transcript.Contiguous view.log := by
    rw [hlog] at hcontiguous
    exact hcontiguous.of_append
  have hself := numbered_self hstarts.kind
  have hplain : ¬ view.Overtakes := by
    intro hover
    have hactive := hover.1
    simp [hstarts.inactive] at hactive
  have hheld : 0 < view.waiting (numbered event.sequence) :=
    waiting_of_hand hstarts.task hself
  have hfloor := horder.floor hplain event.sequence hheld
  have hbound : event.sequence < (accepted view.log).length := by
    apply hbefore.lt_length
    have hle := hcovered (numbered event.sequence) fun _ => numbered_kind
    omega
  have hfrontier : after.frontier = event.sequence + 1 := by
    unfold frontier
    rw [hstarts.active, hstarts.nextSequence]
    rfl
  -- An event that still waits is another one, and none has a smaller number.
  have habove : ¬ after.Overtakes → ∀ k, 0 < after.waiting (numbered k) → event.sequence < k := by
    intro hafter k hwaiting
    have hne : event.sequence ≠ k := by
      rintro rfl
      have hle := hstep.covered hinv hcovered (numbered event.sequence) fun _ => numbered_kind
      have hone := hcontiguous.countP_le event.sequence
      have hpos : 0 < (started after.log).countP (numbered event.sequence) := by
        rw [hstarts.started]
        exact countP_pos_iff.mpr ⟨event, by simp, hself⟩
      split at hone <;> omega
    rcases hstarts.cause with ⟨_, hnext, _⟩ | ⟨_, _, hdisconnect⟩
    · rcases hstep.waiting_or_new hinv hcontiguous hwaiting with hold | hnew
      · have hahead := horder.ahead hplain k hold
        unfold frontier at hahead
        omega
      · omega
    · exact absurd ⟨hstarts.active, hdisconnect⟩ hafter
  constructor
  · rw [hstarts.started, map_append, pairwise_append]
    apply And.intro horder.ordered
    apply And.intro (pairwise_singleton _ _)
    intro sequence hmem last hlast
    obtain ⟨other, hother, rfl⟩ := mem_map.mp hmem
    rw [map_singleton, mem_singleton] at hlast
    rw [hlast]
    exact hfloor other hother
  · intro hafter k hwaiting other hmem
    rw [hstarts.started, mem_append, mem_singleton] at hmem
    have hlt := habove hafter k hwaiting
    rcases hmem with hmem | rfl
    · exact (hfloor other hmem).trans hlt
    · exact hlt
  · intro hafter k hwaiting
    rw [hfrontier]
    exact habove hafter k hwaiting
  · intro _
    rw [hfrontier, hlog, accepted_append, length_append]
    omega

/-- What is left in the inbox was not popped, so its numbers are above all
started ones. -/
theorem SessionView.queue_above_started (hintake : view.Intake)
    (hcovered : view.Covered) (hservice : view.ServiceInvariant)
    (hcontiguous : Transcript.Contiguous view.log) (hqueued : 0 < view.queue.countP (numbered k))
    (hmem : event ∈ started view.log) : event.sequence < k := by
  have hexternal : ∀ (events : List SessionEvent) sequence,
      (events.filter fun other => !other.isCompletion).countP (numbered sequence) =
        events.countP (numbered sequence) := by
    intro _ sequence
    rw [countP_filter]
    apply countP_congr
    simp only [numbered, Bool.and_eq_true]
    tauto
  have hpopped : 0 < (popped view.log).countP (numbered event.sequence) := by
    have hle := hcovered (numbered event.sequence) fun _ => numbered_kind
    have hpos : 0 < (started view.log).countP (numbered event.sequence) :=
      countP_pos_iff.mpr ⟨event, hmem, numbered_self (hservice.kinds event hmem)⟩
    rw [hintake, hexternal, countP_append] at hle
    unfold waiting at hle
    omega
  unfold Transcript.Contiguous at hcontiguous
  rw [hintake, filter_append, map_append] at hcontiguous
  rw [← hexternal] at hpopped hqueued
  have hlow := mem_sequences_of_countP hpopped
  have hhigh := length_le_of_append_eq_range hcontiguous (mem_sequences_of_countP hqueued)
  rw [eq_range_of_append_eq_range hcontiguous, mem_range] at hlow
  omega

theorem SessionView.OrderInvariant.step (horder : view.OrderInvariant)
    (hinv : view.TurnInvariant) (hcovered : view.Covered)
    (hservice : view.ServiceInvariant) (hintake : view.Intake)
    (hstep : SessionStep config lossy view after)
    (hcontiguous : Transcript.Contiguous after.log) : after.OrderInvariant := by
  cases hstep.turnChange hinv with
  | keeps hkeeps =>
    apply horder.keep hinv hcovered hservice hstep hcontiguous hkeeps.started
    · unfold SessionView.Overtakes
      rw [hkeeps.active, hkeeps.activeDisconnect]
      exact id
    · unfold frontier
      rw [hkeeps.active, hkeeps.nextSequence]
  | starts _ _ hstarts => exact horder.start hinv hcovered hstep hcontiguous hstarts
  | invokes _ _ hinvokes =>
    apply horder.keep hinv hcovered hservice hstep hcontiguous hinvokes.started
    · unfold SessionView.Overtakes
      rw [hinvokes.state]
      exact id
    · unfold frontier
      rw [hinvokes.state]
  | ends _ _ hends =>
    apply horder.keep hinv hcovered hservice hstep hcontiguous hends.started
    · intro _ hover
      have hdisconnect := hover.2
      simp [hends.open_] at hdisconnect
    · unfold frontier
      rw [hends.inactive, hends.nextSequence, (hinv.turnOpen hends.task).active]
      rfl
  | closes _ _ _ _ hafter =>
    obtain ⟨_, hlog⟩ := hstep.log_append
    have hbefore : Transcript.Contiguous view.log := by
      rw [hlog] at hcontiguous
      exact hcontiguous.of_append
    subst hafter
    constructor
    · rw [close_started]
      exact horder.ordered
    · intro _ k hwaiting _ hmem
      rw [close_waiting] at hwaiting
      rw [close_started] at hmem
      exact queue_above_started hintake hcovered hservice hbefore hwaiting hmem
    · intro _ k _
      exact Nat.zero_le k
    · intro _
      exact Nat.zero_le _

end Order

/-! ## No gap before a failure -/

/-- A failed session has its failure in the log. -/
def SessionView.FailureLogged (view : SessionView n) : Prop :=
  view.state.failed = true → Observation.failed view.sessionId ∈ view.log

theorem SessionStep.failed_or_logged {config : WorkerPoolConfig} {lossy : Bool}
    {view after : SessionView n} (hstep : SessionStep config lossy view after)
    (hown : view.OwnEvents) (hfailed : after.state.failed = true) :
    view.state.failed = true ∨ Observation.failed view.sessionId ∈ after.log := by
  cases hstep with
  | tryStart _ _ _ _ _ hstart =>
    left
    cases turnStart_tryStartSessionTurn hstart <;> exact hfailed
  | failHand _ _ _ htask =>
    rw [← hown.hand htask]
    simp
  | failTurn _ _ _ htask =>
    rw [← hown.turn htask]
    simp
  | takePending =>
    left
    rcases takePendingDisconnected_cases view.state with ⟨htake, _⟩ | ⟨htake, _⟩ <;>
      rw [htake] at hfailed <;> exact hfailed
  | markDeferred _ _ _ _ _ _ hdefer =>
    left
    obtain ⟨rfl, rfl⟩ := markSessionDeferred_some hdefer
    exact hfailed
  | endOpen =>
    left
    exact (turnEnds_endSessionTurn view.state).failed.symm.trans hfailed
  | endClosed =>
    simp [close] at hfailed
  | _ => exact .inl hfailed

theorem SessionView.FailureLogged.step {config : WorkerPoolConfig} {lossy : Bool}
    {view after : SessionView n} (hlogged : view.FailureLogged)
    (hown : view.OwnEvents) (hstep : SessionStep config lossy view after) :
    after.FailureLogged := by
  intro hfailed
  rw [hstep.sessionId_eq]
  rcases hstep.failed_or_logged hown hfailed with hold | hnew
  · obtain ⟨_, hlog⟩ := hstep.log_append
    rw [hlog]
    exact mem_append_left _ (hlogged hold)
  · exact hnew

structure SessionView.GapFree (view : SessionView n) : Prop where
  started : (started view.log).map SessionEvent.sequence = range (started view.log).length
  active : view.state.active = true →
    view.state.nextSequence + 1 = (Transcript.started view.log).length
  inactive : view.state.active = false →
    view.state.nextSequence = (Transcript.started view.log).length ∨
      (view.state.nextSequence = 0 ∧
        ∃ event ∈ Transcript.started view.log, event.kind = .disconnected)
  invoked : (∀ w event, view.tasks w ≠ .turn event .skipping) →
    Transcript.invoked view.log = Transcript.started view.log
  skipping : ∀ w event, view.tasks w = .turn event .skipping →
    Transcript.started view.log = Transcript.invoked view.log ++ [event]

theorem SessionView.initial_gapFree (sessionId : SessionId) :
    (SessionView.initial n sessionId).GapFree := by
  constructor
  · rfl
  · intro hactive
    simp [SessionView.initial] at hactive
  · intro _
    exact .inl rfl
  · intro _
    rfl
  · intro w _ htask
    simp [SessionView.initial] at htask

section GapFree

variable {config : WorkerPoolConfig} {lossy : Bool} {view after : SessionView n}

/-- The turn that may start is the one after the last started one. -/
theorem SessionView.GapFree.next_eq (hgap : view.GapFree) (horder : view.OrderInvariant)
    (hstarts : StartsTurn view after w event) (hunfailed : view.state.failed = false) :
    event.sequence = (Transcript.started view.log).length := by
  have hplain : ¬ view.Overtakes := by
    intro hover
    have hactive := hover.1
    simp [hstarts.inactive] at hactive
  have hnext : view.state.nextSequence = event.sequence := by
    rcases hstarts.cause with ⟨_, hnext, _⟩ | ⟨hfailed, _, _⟩
    · exact hnext
    · simp [hunfailed] at hfailed
  rcases hgap.inactive hstarts.inactive with _ | ⟨_, first, hfirst, _⟩
  · omega
  · -- A closed session would start again at 0, which is below what was started.
    have hheld : 0 < view.waiting (numbered event.sequence) :=
      waiting_of_hand hstarts.task (numbered_self hstarts.kind)
    have hlt := horder.floor hplain event.sequence hheld first hfirst
    omega

theorem SessionView.GapFree.step (hgap : view.GapFree) (hinv : view.TurnInvariant)
    (hservice : view.ServiceInvariant) (horder : view.OrderInvariant)
    (hunfailed : view.state.failed = false)
    (hstep : SessionStep config lossy view after) : after.GapFree := by
  cases hstep.turnChange hinv with
  | keeps hkeeps =>
    constructor
    · rw [hkeeps.started]
      exact hgap.started
    · rw [hkeeps.started, hkeeps.active, hkeeps.nextSequence]
      exact hgap.active
    · rw [hkeeps.started, hkeeps.active, hkeeps.nextSequence]
      exact hgap.inactive
    · intro hnone
      rw [hkeeps.started, hkeeps.invoked]
      apply hgap.invoked
      intro w event htask
      rcases hkeeps.skipped w event htask with hkept | ⟨hfailed, _⟩
      · exact hnone w event hkept
      · simp [hunfailed] at hfailed
    · intro w event htask
      rw [hkeeps.started, hkeeps.invoked]
      exact hgap.skipping w event (hkeeps.skipping w event htask)
  | starts w event hstarts =>
    have hnext := hgap.next_eq horder hstarts hunfailed
    have hturns := (hinv.inactive hstarts.inactive).2.1
    have hnone : ∀ v other, view.tasks v ≠ .turn other .skipping := by
      intro v other htask
      have hle := view.le_weigh Task.turns v
      rw [htask, Task.turns_turn] at hle
      omega
    have hall := hgap.invoked hnone
    constructor
    · rw [hstarts.started, map_append, hgap.started, length_append,
        length_singleton, range_succ, map_singleton, hnext]
    · intro _
      rw [hstarts.started, hstarts.nextSequence, length_append, hnext]
      rfl
    · intro hinactive
      simp [hstarts.active] at hinactive
    · intro hafter
      apply absurd _ (hafter w event)
      rw [hstarts.tasks, update_self]
    · intro v other htask
      rw [hstarts.tasks] at htask
      by_cases hvw : v = w
      · subst hvw
        rw [update_self] at htask
        cases htask
        rw [hstarts.started, hstarts.invoked, hall]
      · rw [update_of_ne hvw] at htask
        exact absurd htask (hnone v other)
  | invokes w event hinvokes =>
    have hstarted := hgap.skipping w event hinvokes.task
    constructor
    · rw [hinvokes.started]
      exact hgap.started
    · rw [hinvokes.started, hinvokes.state]
      exact hgap.active
    · rw [hinvokes.started, hinvokes.state]
      exact hgap.inactive
    · intro _
      rw [hinvokes.started, hinvokes.invoked, hstarted]
    · intro v other htask
      rw [hinvokes.tasks] at htask
      by_cases hvw : v = w
      · subst hvw
        simp at htask
      · rw [update_of_ne hvw] at htask
        exact absurd (hinv.not_skipping hinvokes.task htask) hvw
  | ends w _ hends =>
    have hactive := (hinv.turnOpen hends.task).active
    constructor
    · rw [hends.started]
      exact hgap.started
    · intro hafter
      simp [hends.inactive] at hafter
    · intro _
      rw [hends.started, hends.nextSequence]
      exact .inl (hgap.active hactive)
    · intro _
      rw [hends.started, hends.invoked]
      apply hgap.invoked
      intro v other htask
      have heq := hinv.not_skipping hends.task htask
      subst heq
      simp [hends.task] at htask
    · intro v other htask
      obtain ⟨next, htasks⟩ := hends.tasks
      rw [htasks] at htask
      by_cases hvw : v = w
      · subst hvw
        cases next <;> simp [restart] at htask
      · rw [update_of_ne hvw] at htask
        exact absurd (hinv.not_skipping hends.task htask) hvw
  | closes _ _ htask hdisconnect hafter =>
    subst hafter
    constructor
    · rw [close_started]
      exact hgap.started
    · intro hactive
      simp [close] at hactive
    · intro _
      rw [close_started]
      exact .inr ⟨rfl, hservice.disconnect ⟨(hinv.turnOpen htask).active, hdisconnect⟩⟩
    · intro _
      rw [close_started, close_invoked]
      apply hgap.invoked
      intro v other hskipping
      have heq := hinv.not_skipping htask hskipping
      subst heq
      simp [htask] at hskipping
    · intro v _ hidle
      simp [close] at hidle

/-- Started numbers have no gap, so those of the called handlers have none. -/
theorem SessionView.GapFree.invoked_eq_range (hgap : view.GapFree) :
    (Transcript.invoked view.log).map SessionEvent.sequence =
      range (Transcript.invoked view.log).length := by
  by_cases hskipping : ∃ w event, view.tasks w = .turn event .skipping
  · obtain ⟨w, event, htask⟩ := hskipping
    have hstarted := hgap.started
    rw [hgap.skipping w event htask, map_append] at hstarted
    have hrange := eq_range_of_append_eq_range hstarted
    rwa [length_map] at hrange
  · push Not at hskipping
    rw [hgap.invoked hskipping]
    exact hgap.started

end GapFree

end SessionServer.WorkerPool
