import SessionServer.SessionSound

/-!
# The last turn of a session

When nothing is pushed for a session after its Disconnected event, the turn of
that event is the session's last: it is never skipped, no other turn starts
once it has started, and its end removes the session from the map for good.
-/

namespace SessionServer.WorkerPool

open Transcript SessionView List

variable {n : ℕ}
variable {event : SessionEvent}

/-- Nothing was accepted after a Disconnected event. -/
def Transcript.DisconnectedLast (transcript : Transcript) : Prop :=
  (accepted transcript).Pairwise fun first _ => first.kind ≠ .disconnected

theorem Transcript.DisconnectedLast.of_append {first second : Transcript}
    (hlast : Transcript.DisconnectedLast (first ++ second)) :
    Transcript.DisconnectedLast first := by
  unfold Transcript.DisconnectedLast at hlast ⊢
  rw [accepted_append] at hlast
  exact (pairwise_append.mp hlast).1

theorem nothing_after_disconnected {events : List SessionEvent} {before after : List SessionEvent}
    (hlast : events.Pairwise fun first _ => first.kind ≠ .disconnected)
    (hevents : events = before ++ after) (hmem : event ∈ before)
    (hkind : event.kind = .disconnected) : after = [] := by
  rw [hevents] at hlast
  apply eq_nil_iff_forall_not_mem.mpr
  intro other hother
  exact (pairwise_append.mp hlast).2.2 event hmem other hother hkind

section Started

variable {config : WorkerPoolConfig} {lossy : Bool} {view after : SessionView n}

theorem SessionView.Covered.started_le_popped (hcovered : view.Covered)
    (hintake : view.Intake) {predicate : SessionEvent → Bool}
    (hpredicate : ∀ event, predicate event = true → event.kind ≠ .deferredCompletion) :
    (started view.log).countP predicate ≤
      ((popped view.log).filter fun event =>
        !event.isCompletion).countP predicate := by
  have hle := hcovered predicate hpredicate
  have hqueue : (view.queue.filter fun event => !event.isCompletion).countP predicate =
      view.queue.countP predicate := by
    rw [countP_filter]
    apply countP_congr
    intro event _
    simp only [Bool.and_eq_true, and_iff_left_iff_imp]
    intro hevent
    simpa [SessionEvent.isCompletion] using hpredicate event hevent
  rw [hintake, filter_append, countP_append, hqueue] at hle
  unfold waiting at hle
  omega

theorem SessionView.Sound.popped_of_started (hsound : view.Sound)
    (hmem : event ∈ started view.log) :
    event ∈ (popped view.log).filter fun event => !event.isCompletion := by
  have hkind := hsound.service.kinds event hmem
  have hle : (started view.log).countP (fun other => decide (other = event)) ≤
      ((popped view.log).filter fun event => !event.isCompletion).countP
        fun other => decide (other = event) := by
    apply hsound.covered.started_le_popped hsound.intake
    intro other hother
    rw [of_decide_eq_true hother]
    exact hkind
  have hpos : 0 < (started view.log).countP fun other => decide (other = event) :=
    countP_pos_iff.mpr ⟨event, hmem, by simp⟩
  obtain ⟨_, hother, heq⟩ := countP_pos_iff.mp (hpos.trans_le hle)
  rw [of_decide_eq_true heq] at hother
  exact hother

theorem SessionView.Sound.accepted_of_started (hsound : view.Sound)
    (hmem : event ∈ started view.log) :
    event ∈ accepted view.log := by
  rw [hsound.intake, filter_append]
  exact mem_append_left _ (hsound.popped_of_started hmem)

/-- Once the Disconnected has started the inbox holds completions at most. -/
theorem SessionView.Sound.queue_after_disconnected (hsound : view.Sound)
    (hlast : Transcript.DisconnectedLast view.log) (hmem : event ∈ started view.log)
    (hkind : event.kind = .disconnected) :
    ∀ other ∈ view.queue, other.kind = .deferredCompletion := by
  have hsplit := hsound.intake
  unfold SessionView.Intake at hsplit
  rw [filter_append] at hsplit
  have hnone := nothing_after_disconnected hlast hsplit (hsound.popped_of_started hmem) hkind
  intro other hother
  have hnot := filter_eq_nil_iff.mp hnone other hother
  simpa [SessionEvent.isCompletion] using hnot

theorem SessionStep.accepted_after_disconnected
    (hstep : SessionStep config lossy view after) (hsound : view.Sound)
    (hlast : Transcript.DisconnectedLast after.log) (hmem : event ∈ started view.log)
    (hkind : event.kind = .disconnected) :
    accepted after.log = accepted view.log := by
  obtain ⟨_, hlog⟩ := hstep.log_append
  unfold Transcript.DisconnectedLast at hlast
  rw [hlog, accepted_append] at hlast ⊢
  rw [nothing_after_disconnected hlast rfl (hsound.accepted_of_started hmem) hkind, append_nil]

/-- A session that has left the map with an empty inbox stays away, unless
something is pushed for it. -/
theorem SessionStep.stays_gone (hstep : SessionStep config lossy view after)
    (hinv : view.TurnInvariant) (hgone : view.registered = false) (hqueue : view.queue = [])
    (haccepted : accepted after.log = accepted view.log) :
    after.registered = false ∧ after.queue = [] := by
  obtain ⟨hstate, hidle⟩ := hinv.unregistered hgone
  have htokens : view.tokens = 0 := by
    apply (hinv.inactive _).2.2
    rw [hstate]
  cases hstep with
  | push event =>
    have hnew : accepted [.accepted event] = [event] := rfl
    rw [accepted_append, hnew] at haccepted
    simp at haccepted
  | pop _ _ _ _ _ hfirst => simp [hqueue] at hfirst
  | pushCompletion _ _ _ _ hcallable =>
    rw [callable_of_tokens htokens] at hcallable
    simp at hcallable
  | refuseCompletion | observe => exact ⟨hgone, hqueue⟩
  | handMove w _ _ _ _ htask | tryStart w _ _ _ htask | discard w _ htask
  | failHand w _ _ htask | takePending w _ htask | turnMove w _ _ _ _ htask
  | failTurn w _ _ htask | invoke w _ htask | handlerReturn w _ _ htask
  | handlerThrow w _ _ htask | finishInline w _ _ _ htask | finishOpen w _ _ htask
  | markDeferred w _ _ _ _ htask | endOpen w _ htask | endClosed w _ htask | lose w _ _ htask =>
    simp [hidle w] at htask

end Started

/-! ## The last turn -/

structure SessionView.LastTurn (view : SessionView n) : Prop where
  gone : ∀ event ∈ started view.log, event.kind = .disconnected →
    view.Overtakes ∨ (view.registered = false ∧ view.queue = [])
  last : (started view.log).Pairwise fun first _ => first.kind ≠ .disconnected
  called : ∀ event ∈ started view.log, event.kind = .disconnected →
    event ∈ invoked view.log ∨ ∃ w, view.tasks w = .turn event .skipping

theorem SessionView.initial_lastTurn (n : ℕ) (sessionId : SessionId) :
    (SessionView.initial n sessionId).LastTurn := by
  constructor
  · intro event hmem
    simp [SessionView.initial, started] at hmem
  · exact List.Pairwise.nil
  · intro _ hmem
    simp [SessionView.initial, started] at hmem

section LastTurn

variable {config : WorkerPoolConfig} {lossy : Bool} {view after : SessionView n}

/-- While a worker of the session is busy and no Disconnected runs, none has
been started. -/
theorem SessionView.LastTurn.not_started (hturn : view.LastTurn)
    (hinv : view.TurnInvariant) {w : Fin n} (hbusy : view.tasks w ≠ .idle)
    (hplain : ¬ view.Overtakes)
    (hmem : event ∈ started view.log) : event.kind ≠ .disconnected := by
  intro hkind
  rcases hturn.gone event hmem hkind with hovertakes | ⟨hgone, _⟩
  · exact hplain hovertakes
  · exact hbusy ((hinv.unregistered hgone).2 w)

theorem SessionView.LastTurn.step (hturn : view.LastTurn) (hsound : view.Sound)
    (hstep : SessionStep config lossy view after)
    (hlast : Transcript.DisconnectedLast after.log) : after.LastTurn := by
  have hinv := hsound.turns
  have haccepted : ∀ event ∈ started view.log, event.kind = .disconnected →
      accepted after.log = accepted view.log := by
    intro event hmem hkind
    exact hstep.accepted_after_disconnected hsound hlast hmem hkind
  cases hstep.turnChange hinv with
  | keeps hkeeps =>
    constructor
    · intro event hmem hkind
      rw [hkeeps.started] at hmem
      unfold SessionView.Overtakes
      rw [hkeeps.active, hkeeps.activeDisconnect]
      rcases hturn.gone event hmem hkind with hovertakes | ⟨hgone, hqueue⟩
      · exact .inl hovertakes
      · exact .inr (hstep.stays_gone hinv hgone hqueue (haccepted event hmem hkind))
    · rw [hkeeps.started]
      exact hturn.last
    · intro event hmem hkind
      rw [hkeeps.started] at hmem
      rw [hkeeps.invoked]
      rcases hturn.called event hmem hkind with hcalled | ⟨w, htask⟩
      · exact .inl hcalled
      · rcases hkeeps.skipped w event htask with hkept | ⟨_, hnot⟩
        · exact .inr ⟨w, hkept⟩
        · exact absurd hkind hnot
  | starts w event hstarts =>
    have hplain : ¬ view.Overtakes := by
      intro hovertakes
      have hactive := hovertakes.1
      simp [hstarts.inactive] at hactive
    have hnone : ∀ other ∈ started view.log, other.kind ≠ .disconnected := by
      intro other hmem
      exact hturn.not_started hinv (w := w) (by simp [hstarts.task]) hplain hmem
    have hfirst : ∀ other ∈ started after.log, other.kind = .disconnected → other = event := by
      intro other hmem hkind
      rw [hstarts.started, mem_append, mem_singleton] at hmem
      rcases hmem with hold | heq
      · exact absurd hkind (hnone other hold)
      · exact heq
    constructor
    · intro other hmem hkind
      left
      refine ⟨hstarts.active, ?_⟩
      rw [hfirst other hmem hkind] at hkind
      rcases hstarts.cause with ⟨_, _, hdisconnect⟩ | ⟨_, _, hdisconnect⟩
      · simpa [SessionEvent.isDisconnected, hkind] using hdisconnect
      · exact hdisconnect
    · rw [hstarts.started, pairwise_append]
      refine ⟨hturn.last, pairwise_singleton _ _, ?_⟩
      intro other hmem _ _
      exact hnone other hmem
    · intro other hmem hkind
      right
      rw [hfirst other hmem hkind]
      exact ⟨w, by rw [hstarts.tasks, Function.update_self]⟩
  | invokes _ _ hinvokes =>
    constructor
    · intro other hmem hkind
      rw [hinvokes.started] at hmem
      unfold SessionView.Overtakes
      rw [hinvokes.state]
      rcases hturn.gone other hmem hkind with hovertakes | ⟨hgone, hqueue⟩
      · exact .inl hovertakes
      · exact .inr (hstep.stays_gone hinv hgone hqueue (haccepted other hmem hkind))
    · rw [hinvokes.started]
      exact hturn.last
    · intro other hmem hkind
      rw [hinvokes.started] at hmem
      rw [hinvokes.invoked]
      left
      rcases hturn.called other hmem hkind with hcalled | ⟨v, htask⟩
      · exact mem_append_left _ hcalled
      · have hvw := hinv.not_skipping hinvokes.task htask
        rw [hvw, hinvokes.task] at htask
        cases htask
        simp
  | ends w _ hends =>
    have hplain : ¬ view.Overtakes := by
      intro hovertakes
      have hdisconnect := hovertakes.2
      simp [hends.open_] at hdisconnect
    have hnone : ∀ other ∈ started after.log, other.kind ≠ .disconnected := by
      intro other hmem
      rw [hends.started] at hmem
      exact hturn.not_started hinv (w := w) (by simp [hends.task]) hplain hmem
    constructor
    · intro other hmem hkind
      exact absurd hkind (hnone other hmem)
    · rw [hends.started]
      exact hturn.last
    · intro other hmem hkind
      exact absurd hkind (hnone other hmem)
  | closes _ _ htask _ hafter =>
    have htokens := hinv.tokens_of_turn htask rfl
    obtain ⟨_, hlog⟩ := hstep.log_append
    have hbefore : Transcript.DisconnectedLast view.log := by
      rw [hlog] at hlast
      exact hlast.of_append
    subst hafter
    constructor
    · intro other hmem hkind
      rw [close_started] at hmem
      right
      apply And.intro rfl
      apply eq_nil_iff_forall_not_mem.mpr
      intro queued hqueued
      exact queue_of_tokens htokens hqueued
        (hsound.queue_after_disconnected hbefore hmem hkind queued hqueued)
    · rw [close_started]
      exact hturn.last
    · intro other hmem hkind
      rw [close_started] at hmem
      rw [close_invoked]
      left
      rcases hturn.called other hmem hkind with hcalled | ⟨v, hskipping⟩
      · exact hcalled
      · have hvw := hinv.not_skipping htask hskipping
        rw [hvw, htask] at hskipping
        simp at hskipping

end LastTurn

end SessionServer.WorkerPool
