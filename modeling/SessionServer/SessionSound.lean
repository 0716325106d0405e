import SessionServer.SessionOrder

/-!
# The invariants of one session together

The invariants of the session machine depend on each other.  Here they are
collected, so that a run of the pool has to carry only one of them.  The
ordering part is conditional: it holds as long as the accepted events carry
the numbers 0, 1, 2, ... in order.
-/

namespace SessionServer.WorkerPool

open SessionView

variable {n : ℕ}

structure SessionView.Sound (view : SessionView n) : Prop where
  turns : view.TurnInvariant
  own : view.OwnEvents
  stages : view.StageInvariant
  phases : view.PhaseInvariant
  service : view.ServiceInvariant
  intake : view.Intake
  covered : view.Covered
  failureLogged : view.FailureLogged
  order : Transcript.Contiguous view.log → view.OrderInvariant
  gapFree : Transcript.Contiguous view.log →
    Observation.failed view.sessionId ∉ view.log → view.GapFree

theorem SessionView.initial_sound (n : ℕ) (sessionId : SessionId) :
    (SessionView.initial n sessionId).Sound where
  turns := initial_turnInvariant n sessionId
  own := initial_everywhere _ n sessionId
  stages := initial_stageInvariant n sessionId
  phases := initial_phaseInvariant n sessionId
  service := initial_serviceInvariant sessionId
  intake := rfl
  covered := by
    intro _ _
    simp [waiting, SessionView.initial, weigh, Transcript.started]
  failureLogged := by
    intro hfailed
    simp [SessionView.initial] at hfailed
  order := fun _ => initial_orderInvariant sessionId
  gapFree := fun _ _ => initial_gapFree sessionId

theorem SessionView.Sound.step {config : WorkerPoolConfig} {lossy : Bool}
    {view after : SessionView n} (hsound : view.Sound)
    (hstep : SessionStep config lossy view after) : after.Sound := by
  obtain ⟨_, hlog⟩ := hstep.log_append
  have hbefore : Transcript.Contiguous after.log → Transcript.Contiguous view.log := by
    intro hcontiguous
    rw [hlog] at hcontiguous
    exact hcontiguous.of_append
  constructor
  · exact hsound.turns.step hstep
  · exact hsound.own.step hstep
  · exact hsound.stages.step hsound.turns hstep
  · exact hsound.phases.step hsound.turns hstep
  · exact hsound.service.step hsound.turns hstep
  · exact hstep.intake hsound.intake
  · exact hstep.covered hsound.turns hsound.covered
  · exact hsound.failureLogged.step hsound.own hstep
  · intro hcontiguous
    exact (hsound.order (hbefore hcontiguous)).step hsound.turns hsound.covered
      hsound.service hsound.intake hstep hcontiguous
  · intro hcontiguous hunfailed
    have hunlogged : Observation.failed view.sessionId ∉ view.log := by
      intro hmem
      apply hunfailed
      rw [hlog, hstep.sessionId_eq]
      exact List.mem_append_left _ hmem
    have hnot : view.state.failed = false := by
      cases hfailed : view.state.failed with
      | false => rfl
      | true => exact absurd (hsound.failureLogged hfailed) hunlogged
    exact (hsound.gapFree (hbefore hcontiguous) hunlogged).step hsound.turns
      hsound.service (hsound.order (hbefore hcontiguous)) hnot hstep

end SessionServer.WorkerPool
