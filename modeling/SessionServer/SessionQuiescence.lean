import SessionServer.SessionCleanup

/-!
# A session at rest

What the books say about a session with an empty inbox, no worker busy with
it and no turn in progress: without a failure everything that was accepted has
been handled, and a failed session whose Disconnected came in is gone.
-/

namespace SessionServer.WorkerPool

open Transcript SessionView SessionSequenceState SessionEvent List

variable {n : ℕ} {view : SessionView n}
variable {event : SessionEvent}

structure SessionView.AtRest (view : SessionView n) : Prop where
  queue : view.queue = []
  tasks : ∀ w, view.tasks w = .idle
  inactive : view.state.active = false

theorem SessionView.AtRest.waiting (hrest : view.AtRest) (predicate : SessionEvent → Bool) :
    view.waiting predicate = view.state.stored predicate := by
  have hweigh : view.weigh (Task.holds predicate) = 0 := by
    apply Finset.sum_eq_zero
    intro w _
    rw [hrest.tasks w, Task.holds_idle]
  unfold SessionView.waiting
  rw [hrest.queue, hweigh, countP_nil, zero_add, zero_add]

theorem SessionView.AtRest.not_overtakes (hrest : view.AtRest) : ¬ view.Overtakes := by
  intro hovertakes
  have hactive := hovertakes.1
  simp [hrest.inactive] at hactive

theorem SessionView.AtRest.not_skipping (hrest : view.AtRest) (w : Fin n)
    (event : SessionEvent) : view.tasks w ≠ .turn event .skipping := by
  simp [hrest.tasks w]

theorem SessionView.AtRest.gone_of_started (hrest : view.AtRest) (hturn : view.LastTurn)
    (hmem : event ∈ started view.log) (hkind : event.kind = .disconnected) :
    view.registered = false := by
  rcases hturn.gone event hmem hkind with hovertakes | ⟨hgone, _⟩
  · exact absurd hovertakes hrest.not_overtakes
  · exact hgone

theorem SessionView.AtRest.pending_none (hrest : view.AtRest)
    (hpending : view.PendingKept) : view.state.pendingDisconnected = none := by
  cases hcase : view.state.pendingDisconnected with
  | none => rfl
  | some =>
    obtain ⟨w, hfetches⟩ := hpending hrest.inactive (by rw [hcase]; rfl)
    rw [hrest.tasks w] at hfetches
    simp [Task.fetches] at hfetches

theorem SessionView.Sound.accepted_kind (hsound : view.Sound)
    (hmem : event ∈ accepted view.log) : event.kind ≠ .deferredCompletion := by
  rw [hsound.intake, mem_filter] at hmem
  simpa [isCompletion] using hmem.2

theorem SessionView.Sound.accepted_numbered (hsound : view.Sound)
    (hcontiguous : Transcript.Contiguous view.log) {k : ℕ} (hlt : k < (accepted view.log).length) :
    0 < (accepted view.log).countP (numbered k) := by
  have hmem : k ∈ (accepted view.log).map sequence := by
    rw [hcontiguous, mem_range]
    exact hlt
  obtain ⟨event, hevent, rfl⟩ := mem_map.mp hmem
  exact countP_pos_iff.mpr ⟨event, hevent, numbered_self (hsound.accepted_kind hevent)⟩

/-! ## Without a failure -/

section Unfailed

variable (hkept : view.Kept) (hrest : view.AtRest)
  (hcontiguous : Transcript.Contiguous view.log)
  (hlast : Transcript.DisconnectedLast view.log)
  (hunfailed : Observation.failed view.sessionId ∉ view.log)

include hkept hrest hcontiguous hlast hunfailed

/-- The next number is neither parked nor started, so it was not accepted. -/
theorem SessionView.Kept.accepted_le_next (hregistered : view.registered = true) :
    (accepted view.log).length ≤ view.state.nextSequence := by
  have hsound := hkept.sound
  have hgap := hsound.gapFree hcontiguous hunfailed
  have hfailed : view.state.failed = false := by
    cases hcase : view.state.failed with
    | false => rfl
    | true => exact absurd (hsound.failureLogged hcase) hunfailed
  have hnext : view.state.nextSequence = (started view.log).length := by
    rcases hgap.inactive hrest.inactive with hnext | ⟨_, event, hmem, hkind⟩
    · exact hnext
    · have hgone := hrest.gone_of_started (hkept.lastTurn hlast) hmem hkind
      simp [hregistered] at hgone
  by_contra hlt
  have haccepted := hsound.accepted_numbered hcontiguous (not_le.mp hlt)
  have hbooks := hkept.accounted hcontiguous hlast hunfailed
    (numbered view.state.nextSequence) fun _ => numbered_kind
  have hstarted : (started view.log).countP (numbered view.state.nextSequence) = 0 := by
    apply countP_eq_zero.mpr
    intro _ hmem hnumbered
    have hsequence := mem_map_of_mem (f := sequence) hmem
    rw [hgap.started, mem_range, sequence_of_numbered hnumbered] at hsequence
    omega
  have hparked : view.state.parked.countValues (numbered view.state.nextSequence) = 0 := by
    apply countP_eq_zero.mpr
    intro entry hentry hnumbered
    apply hsound.stages.nextParked hrest.inactive hfailed entry hentry
    rw [← (hsound.turns.slots.parked entry hentry).2]
    exact sequence_of_numbered hnumbered
  have hpending := hrest.pending_none (hkept.pending hlast)
  unfold SessionView.Accounted at hbooks
  rw [hrest.waiting, stored, hparked, hpending] at hbooks
  simp only [Option.any_none, Bool.toNat_false] at hbooks
  omega

theorem SessionView.Kept.parked_empty : view.state.parked.entries = [] := by
  have hsound := hkept.sound
  cases hregistered : view.registered with
  | false =>
    rw [(hsound.turns.unregistered hregistered).1]
    rfl
  | true =>
    have hle := hkept.accepted_le_next hrest hcontiguous hlast hunfailed hregistered
    apply eq_nil_iff_forall_not_mem.mpr
    intro entry hentry
    obtain ⟨hkind, hsequence⟩ := hsound.turns.slots.parked entry hentry
    have hself : numbered entry.1 entry.2 = true := by
      rw [← hsequence]
      exact numbered_self hkind
    have hwaiting : 0 < view.waiting (numbered entry.1) := by
      rw [hrest.waiting, stored]
      have hpos := OrderedMap.countValues_pos_of_mem hentry hself
      omega
    have hahead := (hsound.order hcontiguous).ahead hrest.not_overtakes entry.1 hwaiting
    have hcovered := hsound.covered (numbered entry.1) fun _ => numbered_kind
    have hlt : entry.1 < (accepted view.log).length := by
      apply hcontiguous.lt_length
      omega
    unfold frontier at hahead
    omega

theorem SessionView.Kept.invoked_of_accepted (hmem : event ∈ accepted view.log) :
    event ∈ invoked view.log := by
  have hsound := hkept.sound
  have hkind := hsound.accepted_kind hmem
  have hbooks := hkept.accounted hcontiguous hlast hunfailed
    (fun other => decide (other = event)) (by
      intro other hother
      rw [of_decide_eq_true hother]
      exact hkind)
  have hparked := hkept.parked_empty hrest hcontiguous hlast hunfailed
  have hpending := hrest.pending_none (hkept.pending hlast)
  have hpos : 0 < (accepted view.log).countP fun other => decide (other = event) :=
    countP_pos_iff.mpr ⟨event, hmem, by simp⟩
  unfold SessionView.Accounted at hbooks
  rw [hrest.waiting, stored, OrderedMap.countValues, hparked,
    hpending, countP_nil, Option.any_none, Bool.toNat_false, add_zero, zero_add]
    at hbooks
  rw [← hbooks] at hpos
  obtain ⟨_, hother, heq⟩ := countP_pos_iff.mp hpos
  rw [of_decide_eq_true heq] at hother
  rwa [(hsound.gapFree hcontiguous hunfailed).invoked hrest.not_skipping]

theorem SessionView.Kept.next_eq_invoked (hregistered : view.registered = true) :
    view.state.nextSequence = (invoked view.log).length := by
  have hgap := hkept.sound.gapFree hcontiguous hunfailed
  rw [hgap.invoked hrest.not_skipping]
  rcases hgap.inactive hrest.inactive with hnext | ⟨_, _, hmem, hkind⟩
  · exact hnext
  · have hgone := hrest.gone_of_started (hkept.lastTurn hlast) hmem hkind
    simp [hregistered] at hgone

end Unfailed

/-- The turn of every called handler has been carried through. -/
theorem SessionView.Sound.closed_of_invoked (hsound : view.Sound)
    (hrest : view.AtRest) {before rest : Transcript}
    (hlog : view.log = before ++ .invoked event :: rest) : TurnClosed rest event := by
  have hidle := hsound.phases.idle hrest.inactive
  unfold phase at hidle
  rw [hlog] at hidle
  exact TurnPhase.closed_of_idle hidle

theorem SessionView.Kept.isDrained (hkept : view.Kept) (hrest : view.AtRest)
    (hcontiguous : Transcript.Contiguous view.log)
    (hlast : Transcript.DisconnectedLast view.log) : view.state.isDrained = true := by
  have hsound := hkept.sound
  have hparked : view.state.parked.entries = [] := by
    by_cases hfailed : Observation.failed view.sessionId ∈ view.log
    · rcases hkept.failure hfailed with hstill | ⟨_, hmem, hkind⟩
      · exact hsound.stages.parkedEmpty hstill
      · have hgone := hrest.gone_of_started (hkept.lastTurn hlast) hmem hkind
        rw [(hsound.turns.unregistered hgone).1]
        rfl
    · exact hkept.parked_empty hrest hcontiguous hlast hfailed
  have hearly : view.state.earlyCompletion = none := by
    have htokens := (hsound.turns.inactive hrest.inactive).2.2
    unfold tokens at htokens
    cases hcase : view.state.earlyCompletion with
    | none => rfl
    | some => simp [hcase] at htokens
  unfold SessionSequenceState.isDrained
  rw [hrest.inactive, hearly, hrest.pending_none (hkept.pending hlast), OrderedMap.size, hparked]
  rfl

/-! ## After a failure -/

theorem SessionView.Kept.disconnected_started (hkept : view.Kept)
    (hrest : view.AtRest) (hlast : Transcript.DisconnectedLast view.log)
    (hfailed : Observation.failed view.sessionId ∈ view.log) (haccepted : event ∈ accepted view.log)
    (hkind : event.kind = .disconnected) :
    ∃ started ∈ Transcript.started view.log, started.kind = .disconnected := by
  rcases hkept.failure hfailed with hstill | hstarted
  · have hbooks := hkept.disconnected hlast
    have hpos : 0 < (accepted view.log).countP isDisconnected :=
      countP_pos_iff.mpr ⟨event, haccepted, by simp [isDisconnected, hkind]⟩
    unfold SessionView.Accounted at hbooks
    rw [hrest.waiting, stored, OrderedMap.countValues,
      hkept.sound.stages.parkedEmpty hstill, hrest.pending_none (hkept.pending hlast),
      countP_nil, Option.any_none, Bool.toNat_false, add_zero, zero_add] at hbooks
    rw [← hbooks] at hpos
    obtain ⟨started, hmem, hdisconnected⟩ := countP_pos_iff.mp hpos
    exact ⟨started, hmem, by simpa [isDisconnected] using hdisconnected⟩
  · exact hstarted

theorem filter_eq_singleton {events : List SessionEvent}
    {predicate : SessionEvent → Bool} (hone : events.countP predicate ≤ 1) (hmem : event ∈ events)
    (hevent : predicate event = true) :
    events.filter predicate = [event] := by
  have hfilter : event ∈ events.filter predicate := mem_filter.mpr ⟨hmem, hevent⟩
  rw [countP_eq_length_filter] at hone
  match hcase : events.filter predicate with
  | [] => simp [hcase] at hfilter
  | [only] =>
    rw [hcase, mem_singleton] at hfilter
    rw [hfilter]
  | _ :: _ :: _ => simp [hcase] at hone

/-- The handler was called with the Disconnected event, and only once. -/
theorem SessionView.Kept.disconnected_invoked (hkept : view.Kept) (hrest : view.AtRest)
    (hlast : Transcript.DisconnectedLast view.log)
    (hfailed : Observation.failed view.sessionId ∈ view.log) (haccepted : event ∈ accepted view.log)
    (hkind : event.kind = .disconnected) :
    (invoked view.log).filter isDisconnected = [event] := by
  have hsound := hkept.sound
  have hevent : event.isDisconnected = true := by simp [isDisconnected, hkind]
  obtain ⟨started, hmem, hstarted⟩ :=
    hkept.disconnected_started hrest hlast hfailed haccepted hkind
  have hstarted' : started.isDisconnected = true := by
    simp [isDisconnected, hstarted]
  have heq : started = event := by
    have hfirst := filter_eq_singleton hlast.countP_le (hsound.accepted_of_started hmem) hstarted'
    rw [filter_eq_singleton hlast.countP_le haccepted hevent] at hfirst
    exact (singleton_inj.mp hfirst).symm
  subst heq
  have hcalled : started ∈ invoked view.log := by
    rcases (hkept.lastTurn hlast).called started hmem hkind with hcalled | ⟨w, htask⟩
    · exact hcalled
    · exact absurd htask (hrest.not_skipping w started)
  apply filter_eq_singleton _ hcalled hevent
  have hle : (Transcript.invoked view.log).countP isDisconnected ≤
      (Transcript.started view.log).countP isDisconnected :=
    hsound.service.invoked.countP_le
  have hcovered := hsound.disconnected_le hlast
  omega

end SessionServer.WorkerPool
