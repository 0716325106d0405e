import SessionServer.SessionLastTurn

/-!
# Nothing gets lost while workers keep what they hold

As long as no completion is refused and no worker drops its event, every
accepted event of a session is accounted for.  In a session that has not
failed each of them waits or has been started.  In a failed one this is still
true of the Disconnected event: it moves between the parked events, the slot
put aside for it and the hands of the workers, and whoever leaves it in the
slot comes back for it.
-/

namespace SessionServer.WorkerPool

open Transcript SessionView SessionEvent SessionSequenceState List WorkerPool.Task

variable {n : ℕ} {config : WorkerPoolConfig} {view after : SessionView n}
variable {lossy : Bool} {w : Fin n} {state : SessionSequenceState} {event : SessionEvent}

/-! ## Failed sessions stay failed -/

theorem SessionStep.failed_kept
    (hstep : SessionStep config lossy view after) (hinv : view.TurnInvariant)
    (hfailed : view.state.failed = true) :
    after.state.failed = true ∨ view.Overtakes := by
  cases hstep with
  | tryStart _ _ _ _ _ hstart =>
    left
    cases turnStart_tryStartSessionTurn hstart <;> exact hfailed
  | failHand _ _ _ _ hmark | failTurn _ _ _ _ hmark =>
    simp [markSessionFailed, hfailed] at hmark
  | takePending =>
    left
    rcases takePendingDisconnected_cases view.state with ⟨htake, _⟩ | ⟨htake, _⟩ <;>
      rw [htake] <;> exact hfailed
  | markDeferred _ _ _ _ _ _ hdefer =>
    left
    obtain ⟨rfl, rfl⟩ := markSessionDeferred_some hdefer
    exact hfailed
  | endOpen =>
    left
    exact (turnEnds_endSessionTurn view.state).failed.trans hfailed
  | endClosed _ _ htask hclosed =>
    exact .inr ⟨(hinv.turnOpen htask).active, hclosed⟩
  | _ => exact .inl hfailed

theorem not_failed_of_quiet {observations : List Observation} {sessionId : SessionId}
    (hquiet : ∀ observation ∈ observations, observation.isQuiet = true) :
    Observation.failed sessionId ∉ observations := by
  intro hmem
  have hfailed := hquiet _ hmem
  simp [Observation.isQuiet] at hfailed

theorem SessionStep.failed_marked
    (hstep : SessionStep config lossy view after) {sessionId : SessionId}
    (hlogged : Observation.failed sessionId ∈ after.log) :
    Observation.failed sessionId ∈ view.log ∨ after.state.failed = true := by
  cases hstep with
  | failHand _ _ _ _ hmark | failTurn _ _ _ _ hmark =>
    right
    rw [advance_state, (markSessionFailed_true hmark).2]
  | tryStart =>
    left
    rw [advance_log, mem_append] at hlogged
    apply hlogged.resolve_right
    intro hmem
    unfold tryLog at hmem
    split at hmem
    · split at hmem <;> simp at hmem
    · simp at hmem
  | handMove _ _ _ _ _ _ _ hquiet | turnMove _ _ _ _ _ _ _ hquiet =>
    left
    rw [advance_log, mem_append] at hlogged
    exact hlogged.resolve_right (not_failed_of_quiet hquiet)
  | pushCompletion _ _ _ _ _ hquiet | refuseCompletion _ _ _ hquiet | observe _ hquiet =>
    exact .inl ((mem_append.mp hlogged).resolve_right (not_failed_of_quiet hquiet))
  | _ =>
    left
    apply (mem_append.mp hlogged).resolve_right
    simp

/-- A failure is forgotten only with the end of the Disconnected turn. -/
def SessionView.FailureKept (view : SessionView n) : Prop :=
  Observation.failed view.sessionId ∈ view.log → view.state.failed = true ∨
    ∃ event ∈ started view.log, event.kind = .disconnected

theorem SessionView.FailureKept.step (hkept : view.FailureKept)
    (hsound : view.Sound) (hstep : SessionStep config lossy view after) :
    after.FailureKept := by
  intro hlogged
  rw [hstep.sessionId_eq] at hlogged
  obtain ⟨_, hlog⟩ := hstep.log_append
  have hstarted : (∃ event ∈ started view.log, event.kind = .disconnected) →
      ∃ event ∈ started after.log, event.kind = .disconnected := by
    rintro ⟨event, hmem, hkind⟩
    rw [hlog, started_append]
    exact ⟨event, mem_append_left _ hmem, hkind⟩
  rcases hstep.failed_marked hlogged with hold | hnew
  · rcases hkept hold with hfailed | hgone
    · rcases hstep.failed_kept hsound.turns hfailed with hstill | hovertakes
      · exact .inl hstill
      · exact .inr (hstarted (hsound.service.disconnect hovertakes))
    · exact .inr (hstarted hgone)
  · exact .inl hnew

/-! ## A Disconnected event put aside is fetched -/

/-- The worker will look for a Disconnected event that was put aside. -/
def Task.fetches : Task → Bool
  | .hand _ .disconnecting => true
  | .hand _ .takingPending => true
  | _ => false

def SessionView.PendingKept (view : SessionView n) : Prop :=
  view.state.active = false → view.state.pendingDisconnected.isSome = true →
    ∃ w, (view.tasks w).fetches = true

theorem SessionView.PendingKept.advance (hkept : view.PendingKept) {task : Task}
    {observations : List Observation} (hactive : state.active = false → view.state.active = false)
    (hpending : state.active = false → state.pendingDisconnected.isSome = true →
      view.state.pendingDisconnected.isSome = true)
    (htask : (view.tasks w).fetches = false) :
    ({ view with state := state }.advance w task observations).PendingKept := by
  intro hinactive hsome
  obtain ⟨v, hfetches⟩ := hkept (hactive hinactive) (hpending hinactive hsome)
  have hvw : v ≠ w := by
    rintro rfl
    simp [htask] at hfetches
  exact ⟨v, by simpa only [SessionView.advance, Function.update_of_ne hvw] using hfetches⟩

theorem Transcript.DisconnectedLast.countP_le {transcript : Transcript}
    (hlast : transcript.DisconnectedLast) :
    (accepted transcript).countP isDisconnected ≤ 1 := by
  unfold Transcript.DisconnectedLast at hlast
  generalize accepted transcript = events at hlast ⊢
  induction events with
  | nil => simp
  | cons first rest ih =>
    obtain ⟨hfirst, hrest⟩ := pairwise_cons.mp hlast
    cases hkind : first.isDisconnected with
    | false =>
      rw [countP_cons_of_neg (by simp [hkind])]
      exact ih hrest
    | true =>
      have hnone : rest = [] := by
        apply eq_nil_iff_forall_not_mem.mpr
        intro other hother
        exact hfirst other hother (by simpa [isDisconnected] using hkind)
      simp [hnone, hkind]

theorem not_completion_of_disconnected (hdisconnected : event.isDisconnected = true) :
    event.kind ≠ .deferredCompletion := by
  intro hkind
  simp [isDisconnected, hkind] at hdisconnected

/-- There is only one Disconnected event, wherever it is. -/
theorem SessionView.Sound.disconnected_le (hsound : view.Sound)
    (hlast : Transcript.DisconnectedLast view.log) :
    view.waiting isDisconnected +
      (Transcript.started view.log).countP SessionEvent.isDisconnected ≤ 1 :=
  (hsound.covered _ fun _ => not_completion_of_disconnected).trans hlast.countP_le

theorem SessionView.Sound.not_held_and_pending (hsound : view.Sound)
    (hlast : Transcript.DisconnectedLast view.log)
    {stage : HandStage} (htask : view.tasks w = .hand event stage)
    (hkind : event.kind = .disconnected) : view.state.pendingDisconnected = none := by
  cases hpending : view.state.pendingDisconnected with
  | none => rfl
  | some other =>
    have hone := hsound.disconnected_le hlast
    have hheld := view.le_weigh (holds isDisconnected) w
    have hevent : event.isDisconnected = true := by
      simp [isDisconnected, hkind]
    have hother : other.isDisconnected = true := by
      simpa [isDisconnected] using hsound.turns.slots.pending other hpending
    rw [htask, holds_hand, hevent, Bool.toNat_true] at hheld
    simp only [waiting, stored, hpending, Option.any_some, hother, Bool.toNat_true] at hone
    omega

theorem SessionView.PendingKept.tryStart (hkept : view.PendingKept)
    {disposition : SessionTurnDisposition} (htask : view.tasks w = .hand event .trying)
    (hstart : tryStartSessionTurn config event view.state = (disposition, state)) :
    ({ view with state := state }.advance w (tryTask event disposition)
      (tryLog event disposition)).PendingKept := by
  have hidle : (view.tasks w).fetches = false := by
    rw [htask]
    rfl
  cases turnStart_tryStartSessionTurn hstart with
  | pending _ _ hactive =>
    exact hkept.advance id (fun hinactive => by simp [hactive] at hinactive) hidle
  | startFailed | start => exact hkept.advance (by simp) (by simp) hidle
  | _ => exact hkept.advance id (fun _ => id) hidle

theorem SessionView.PendingKept.step (hkept : view.PendingKept) (hsound : view.Sound)
    (hlast : Transcript.DisconnectedLast view.log)
    (hstep : SessionStep config false view after) : after.PendingKept := by
  cases hstep with
  | push | pushCompletion | observe => exact hkept
  | pop _ _ rest _ htask =>
    have hqueued : { view with registered := true, queue := rest }.PendingKept := hkept
    exact hqueued.advance id (fun _ => id) (by simp [htask, fetches])
  | handMove w event _ _ _ htask hmove =>
    cases hmove with
    | disconnected =>
      intro hinactive hsome
      have hkind : event.kind ≠ .disconnected := by
        intro hkind
        have hnone := hsound.not_held_and_pending hlast htask hkind
        rw [advance_state, hnone] at hsome
        simp at hsome
      exact ⟨w, by simp [SessionView.advance, afterRejection, hkind, fetches]⟩
    | _ => exact hkept.advance id (fun _ => id) (by simp [htask, fetches])
  | tryStart _ _ _ _ htask hstart => exact hkept.tryStart htask hstart
  | discard _ _ htask | turnMove _ _ _ _ _ htask | invoke _ _ htask | handlerReturn _ _ _ htask
  | handlerThrow _ _ _ htask | finishInline _ _ _ _ htask =>
    exact hkept.advance id (fun _ => id) (by simp [htask, fetches])
  | failHand w =>
    intro _ _
    exact ⟨w, by simp [SessionView.advance, fetches]⟩
  | takePending =>
    intro hinactive hsome
    rcases takePendingDisconnected_cases view.state with ⟨htake, hbusy⟩ | ⟨htake, _⟩
    · rw [htake] at hinactive
      rcases hbusy with hactive | hclosed
      · simp [hactive] at hinactive
      · simp [hsound.turns.notClosed] at hclosed
    · rw [htake] at hsome
      simp at hsome
  | failTurn _ _ _ htask hmark =>
    intro hinactive _
    rw [advance_state, (markSessionFailed_true hmark).2] at hinactive
    simp [(hsound.turns.turnOpen htask).active] at hinactive
  | markDeferred _ _ _ _ _ htask hdefer =>
    obtain ⟨rfl, rfl⟩ := markSessionDeferred_some hdefer
    exact hkept.advance id (fun _ => id) (by simp [htask, fetches])
  | endOpen _ _ _ hopen =>
    intro _ hsome
    have hunfailed : view.state.failed = false → view.state.pendingDisconnected.isSome = false := by
      intro hfailed
      cases hpending : view.state.pendingDisconnected with
      | none => rfl
      | some other =>
        have hpendingFailed := hsound.stages.pendingFailed other hpending
        simp [hfailed] at hpendingFailed
    have hend := turnEnd_endSessionTurn view.state
    generalize (endSessionTurn view.state).1 = next at hend
    generalize (endSessionTurn view.state).2 = state at hend hsome
    cases hend with
    | disconnected hdisconnect => simp [hopen] at hdisconnect
    | failed => simp at hsome
    | nothingParked _ hfailed | unparked _ _ hfailed => simp [hunfailed hfailed] at hsome
  | endClosed =>
    intro _ hsome
    simp [close] at hsome
  | refuseCompletion _ _ _ _ hlossy | lose _ _ _ _ hlossy => simp at hlossy
  | finishOpen _ event _ htask =>
    have hcalled : { view with
        callable := event.sequence ::ₘ view.callable }.PendingKept := hkept
    exact hcalled.advance id (fun _ => id) (by simp [htask, fetches])

/-! ## The books are balanced -/

/-- Every accepted event of the class waits or was started. -/
def SessionView.Accounted (view : SessionView n) (predicate : SessionEvent → Bool) :
    Prop :=
  view.waiting predicate + (started view.log).countP predicate =
    (accepted view.log).countP predicate

theorem Balances.accounted {predicate : SessionEvent → Bool}
    (hbalances : Balances false view after predicate) (haccounted : view.Accounted predicate)
    (hnothing : ∀ lost, Loss false view after predicate lost → lost = 0) :
    after.Accounted predicate := by
  obtain ⟨lost, hloss, _⟩ := hbalances
  have hzero := hnothing lost hloss
  unfold SessionView.Accounted at haccounted ⊢
  omega

theorem salvaged_of_stored (hstored : 0 < state.stored isDisconnected) :
    state.salvaged.any isDisconnected = true := by
  unfold salvaged
  cases hfirst : state.parked.firstValue? isDisconnected with
  | some => simpa using (OrderedMap.firstValue?_some hfirst).1
  | none =>
    have hparked := (OrderedMap.firstValue?_none_iff _ _).mp hfirst
    unfold stored at hstored
    cases hpending : state.pendingDisconnected.any isDisconnected with
    | true => simpa using hpending
    | false => simp [hparked, hpending] at hstored

theorem SessionView.Sound.disconnected_not_lost (hsound : view.Sound)
    (hlast : Transcript.DisconnectedLast view.log) {lost : ℕ}
    (hloss : Loss false view after isDisconnected lost) : lost = 0 := by
  have hone := hsound.disconnected_le hlast
  cases hloss with
  | nothing => rfl
  | dropped w event _ htask hstage =>
    have hkind : event.kind ≠ .disconnected := by
      rcases hstage with rfl | rfl
      · exact hsound.stages.discarding w event htask
      · exact hsound.stages.takingPending w event htask
    simp [isDisconnected, hkind]
  | replaced _ _ _ htask hkind hpending =>
    have hnone := hsound.not_held_and_pending hlast htask hkind
    simp [hpending] at hnone
  | cleared _ _ hlost =>
    rcases Nat.eq_zero_or_pos (view.state.stored isDisconnected) with
      hzero | hpos
    · omega
    · rw [salvaged_of_stored hpos, Bool.toNat_true] at hlost
      unfold waiting at hone
      omega
  | closed _ _ hdisconnect hactive =>
    obtain ⟨event, hmem, hkind⟩ := hsound.service.disconnect ⟨hactive, hdisconnect⟩
    have hpos : 0 < (started view.log).countP isDisconnected :=
      countP_pos_iff.mpr ⟨event, hmem, by simp [isDisconnected, hkind]⟩
    omega
  | forced _ hlossy => simp at hlossy

theorem Task.holds_mono {first second : SessionEvent → Bool}
    (himp : ∀ event, first event = true → second event = true) (task : Task) :
    task.holds first ≤ task.holds second := by
  cases task with
  | hand event => exact Bool.toNat_le_toNat (himp event)
  | _ => exact Nat.le_refl _

theorem SessionSequenceState.stored_mono {first second : SessionEvent → Bool}
    (himp : ∀ event, first event = true → second event = true)
    (state : SessionSequenceState) : state.stored first ≤ state.stored second := by
  apply Nat.add_le_add
  · exact countP_mono_left fun entry _ => himp entry.2
  · cases state.pendingDisconnected with
    | none => exact Nat.le_refl _
    | some event => exact Bool.toNat_le_toNat (himp event)

theorem SessionView.waiting_mono {first second : SessionEvent → Bool}
    (himp : ∀ event, first event = true → second event = true)
    (view : SessionView n) : view.waiting first ≤ view.waiting second := by
  apply Nat.add_le_add
  · apply Nat.add_le_add
    · exact countP_mono_left fun event _ => himp event
    · exact Finset.sum_le_sum fun w _ => holds_mono himp (view.tasks w)
  · exact view.state.stored_mono himp

/-- When the Disconnected of a session without a failure has started, so has
everything that was pushed before it. -/
theorem SessionView.Sound.all_started (hsound : view.Sound)
    (hcontiguous : Transcript.Contiguous view.log) (hlast : Transcript.DisconnectedLast view.log)
    (hunfailed : Observation.failed view.sessionId ∉ view.log)
    (hmem : event ∈ started view.log) (hkind : event.kind = .disconnected) :
    (accepted view.log).length ≤ (started view.log).length := by
  obtain ⟨before, rest, hsplit⟩ := append_of_mem (hsound.accepted_of_started hmem)
  have hsplit' : accepted view.log = (before ++ [event]) ++ rest := by
    rw [hsplit, append_assoc, singleton_append]
  have hrest := nothing_after_disconnected hlast hsplit' (by simp) hkind
  have hbelow : event.sequence < (started view.log).length := by
    rw [← mem_range, ← (hsound.gapFree hcontiguous hunfailed).started]
    exact mem_map_of_mem hmem
  have habove : before.length ≤ event.sequence := by
    unfold Transcript.Contiguous at hcontiguous
    rw [hsplit, map_append] at hcontiguous
    have hle := length_le_of_append_eq_range hcontiguous (mem_map_of_mem (mem_cons_self ..))
    rwa [length_map] at hle
  rw [hsplit, hrest, length_append, length_singleton]
  omega

theorem SessionView.Sound.nothing_waits (hsound : view.Sound)
    (hlength : (accepted view.log).length ≤
      (started view.log).length) {predicate : SessionEvent → Bool}
    (hpredicate : ∀ event, predicate event = true →
      event.kind ≠ .deferredCompletion) : view.waiting predicate = 0 := by
  have hcovered : view.waiting (fun event => !event.isCompletion) +
      (started view.log).countP (fun event => !event.isCompletion) ≤
        (accepted view.log).countP fun event => !event.isCompletion := by
    apply hsound.covered
    simp [isCompletion]
  have hstarted : (started view.log).countP (fun event => !event.isCompletion) =
      (started view.log).length := by
    apply countP_eq_length.mpr
    intro event hmem
    simpa [isCompletion] using hsound.service.kinds event hmem
  have haccepted := countP_le_length (p := fun event => !event.isCompletion)
    (l := accepted view.log)
  have hmono : view.waiting predicate ≤ view.waiting fun event => !event.isCompletion := by
    apply waiting_mono
    intro event hevent
    simpa [isCompletion] using hpredicate event hevent
  omega

theorem SessionView.Sound.unfailed_not_lost (hsound : view.Sound)
    (hcontiguous : Transcript.Contiguous view.log) (hlast : Transcript.DisconnectedLast view.log)
    (hunfailed : Observation.failed view.sessionId ∉ view.log)
    (hafter : after.state.failed = false) {predicate : SessionEvent → Bool}
    (hpredicate : ∀ event, predicate event = true → event.kind ≠ .deferredCompletion)
    {lost : ℕ} (hloss : Loss false view after predicate lost) : lost = 0 := by
  have hnot : view.state.failed ≠ true := by
    intro hfailed
    exact hunfailed (hsound.failureLogged hfailed)
  cases hloss with
  | nothing => rfl
  | dropped w event stage htask hstage =>
    apply absurd _ hnot
    apply hsound.stages.rejected w event stage htask
    rcases hstage with rfl | rfl
    · exact .inl rfl
    · exact .inr (.inr rfl)
  | replaced _ _ _ _ _ _ hfailed => exact absurd hfailed hnot
  | cleared _ hfailed => simp [hafter] at hfailed
  | closed _ _ hdisconnect hactive =>
    obtain ⟨_, hmem, hkind⟩ := hsound.service.disconnect ⟨hactive, hdisconnect⟩
    have hlength := hsound.all_started hcontiguous hlast hunfailed hmem hkind
    have hzero := hsound.nothing_waits hlength hpredicate
    omega
  | forced _ hlossy => simp at hlossy

/-! ## All of it together -/

structure SessionView.Kept (view : SessionView n) : Prop where
  sound : view.Sound
  failure : view.FailureKept
  lastTurn : Transcript.DisconnectedLast view.log → view.LastTurn
  pending : Transcript.DisconnectedLast view.log → view.PendingKept
  disconnected : Transcript.DisconnectedLast view.log → view.Accounted isDisconnected
  accounted : Transcript.Contiguous view.log → Transcript.DisconnectedLast view.log →
    Observation.failed view.sessionId ∉ view.log → ∀ predicate : SessionEvent → Bool,
      (∀ event, predicate event = true → event.kind ≠ .deferredCompletion) →
        view.Accounted predicate

theorem SessionView.initial_kept (n : ℕ) (sessionId : SessionId) :
    (SessionView.initial n sessionId).Kept := by
  have haccounted : ∀ predicate : SessionEvent → Bool,
      (SessionView.initial n sessionId).Accounted predicate := by
    simp [SessionView.Accounted, waiting, SessionView.initial, weigh, started, accepted]
  constructor
  · exact initial_sound n sessionId
  · intro hlogged
    simp [SessionView.initial] at hlogged
  · intro _
    exact initial_lastTurn n sessionId
  · intro _ _ hsome
    simp [SessionView.initial] at hsome
  · intro _
    exact haccounted _
  · intro _ _ _ predicate _
    exact haccounted predicate

theorem SessionView.Kept.step (hkept : view.Kept)
    (hstep : SessionStep config false view after) : after.Kept := by
  have hsound := hkept.sound
  have hafter := hsound.step hstep
  obtain ⟨_, hlog⟩ := hstep.log_append
  have hlast : Transcript.DisconnectedLast after.log → Transcript.DisconnectedLast view.log := by
    intro hlast
    rw [hlog] at hlast
    exact hlast.of_append
  constructor
  · exact hafter
  · exact hkept.failure.step hsound hstep
  · intro h
    exact (hkept.lastTurn (hlast h)).step hsound hstep h
  · intro h
    exact (hkept.pending (hlast h)).step hsound (hlast h) hstep
  · intro h
    apply (hstep.balances hsound.turns fun _ =>
      not_completion_of_disconnected).accounted (hkept.disconnected (hlast h))
    intro lost hloss
    exact hsound.disconnected_not_lost (hlast h) hloss
  · intro hcontiguous h hunfailed predicate hpredicate
    have hbefore : Transcript.Contiguous view.log := by
      rw [hlog] at hcontiguous
      exact hcontiguous.of_append
    have hunlogged : Observation.failed view.sessionId ∉ view.log := by
      intro hmem
      apply hunfailed
      rw [hlog, hstep.sessionId_eq]
      exact mem_append_left _ hmem
    have hnot : after.state.failed = false := by
      cases hfailed : after.state.failed with
      | false => rfl
      | true => exact absurd (hafter.failureLogged hfailed) hunfailed
    apply (hstep.balances hsound.turns hpredicate).accounted
      (hkept.accounted hbefore (hlast h) hunlogged predicate hpredicate)
    intro _ hloss
    exact hsound.unfailed_not_lost hbefore (hlast h) hunlogged hnot hpredicate hloss

end SessionServer.WorkerPool
