import SessionServer.SessionCompletion
import SessionServer.SessionLastTurn
import SessionServer.WorkerPoolSerialisation

/-!
# A window in which a session cannot fail

A session fails for its own pace when more of its events arrive out of turn
than may be parked.  The numbers of a parked event, of the event that is to be
parked and of the turn that is due are all different, accepted and not over.
So a session with at most one unfinished event more than may be parked always
finds room, whatever the workers do.
-/

namespace SessionServer.WorkerPool

open Transcript SessionView Observation SessionEvent List WorkerPool.Task

variable {n : ℕ} {config : WorkerPoolConfig} {lossy : Bool}
  {view after : SessionView n}
variable {state : SessionSequenceState}

/-! ## Finished turns -/

def Observation.ended? : Observation → Option SessionEvent
  | .ended event _ => some event
  | _ => none

def Transcript.ended (transcript : Transcript) : List SessionEvent :=
  transcript.filterMap Observation.ended?

@[simp] theorem Transcript.ended_append (first second : Transcript) :
    ended (first ++ second) = ended first ++ ended second :=
  filterMap_append ..

theorem Transcript.ended_quiet {observations : List Observation}
    (hquiet : ∀ observation ∈ observations, observation.isQuiet = true) :
    ended observations = [] := by
  apply filterMap_quiet _ hquiet
  intro observation
  cases observation <;> simp [isQuiet, Observation.ended?]

/-- Every started turn has ended or is in progress. -/
def SessionView.CountsEnds (view : SessionView n) : Prop :=
  (ended view.log).length + view.state.active.toNat = (started view.log).length

theorem SessionView.CountsEnds.keep (hcounts : view.CountsEnds)
    {observations : List Observation} (hlog : after.log = view.log ++ observations)
    (hactive : after.state.active = view.state.active) (hended : ended observations = [])
    (hstarted : started observations = []) : after.CountsEnds := by
  unfold SessionView.CountsEnds at hcounts ⊢
  rw [hlog, ended_append, started_append, hended, hstarted, append_nil, append_nil, hactive]
  exact hcounts

theorem SessionView.CountsEnds.tryStart (hcounts : view.CountsEnds) {w : Fin n}
    {event : SessionEvent} {disposition : SessionTurnDisposition}
    (hstart : tryStartSessionTurn config event view.state = (disposition, state))
    (hinv : view.TurnInvariant) :
    ({ view with state := state }.advance w (tryTask event disposition)
      (tryLog event disposition)).CountsEnds := by
  cases turnStart_tryStartSessionTurn hstart with
  | closed hclosed => simp [hinv.notClosed] at hclosed
  | completion hkind =>
    refine hcounts.keep rfl rfl ?_ ?_ <;>
      simp [tryLog, hkind, Transcript.ended, Transcript.started,
        Observation.ended?, Observation.started?]
  | startFailed hkind _ hinactive | start hkind _ hinactive =>
    unfold SessionView.CountsEnds at hcounts ⊢
    simp [tryLog, hkind, Transcript.ended, Transcript.started, Observation.ended?,
      Observation.started?, hinactive] at hcounts ⊢
    exact hcounts
  | _ => exact hcounts.keep rfl rfl rfl rfl

theorem SessionView.CountsEnds.step (hcounts : view.CountsEnds)
    (hinv : view.TurnInvariant) (hstep : SessionStep config lossy view after) :
    after.CountsEnds := by
  cases hstep with
  | handMove _ _ _ _ _ _ _ hquiet | turnMove _ _ _ _ _ _ _ hquiet
  | pushCompletion _ _ _ _ _ hquiet | refuseCompletion _ _ _ hquiet | observe _ hquiet =>
    exact hcounts.keep rfl rfl (ended_quiet hquiet) (started_quiet hquiet)
  | tryStart _ _ _ _ _ hstart => exact hcounts.tryStart hstart hinv
  | failHand _ _ _ _ hmark | failTurn _ _ _ _ hmark =>
    exact hcounts.keep rfl (markSessionFailed_sameTurn hmark).active rfl rfl
  | takePending =>
    exact hcounts.keep rfl (takePendingDisconnected_sameTurn _).active rfl rfl
  | markDeferred _ _ _ _ _ _ hdefer =>
    obtain ⟨rfl, rfl⟩ := markSessionDeferred_some hdefer
    exact hcounts.keep rfl rfl rfl rfl
  | endOpen _ _ htask =>
    have hactive := (hinv.turnOpen htask).active
    have hinactive := (turnEnds_endSessionTurn view.state).active
    unfold SessionView.CountsEnds at hcounts ⊢
    simp [Transcript.ended, Transcript.started, Observation.ended?,
      Observation.started?, hactive, hinactive] at hcounts ⊢
    exact hcounts
  | endClosed _ _ htask =>
    have hactive := (hinv.turnOpen htask).active
    unfold SessionView.CountsEnds at hcounts ⊢
    simp [SessionView.close, Transcript.ended, Transcript.started, Observation.ended?,
      Observation.started?, hactive] at hcounts ⊢
    exact hcounts
  | _ => exact hcounts.keep rfl rfl rfl rfl

/-! ## The pace of a session -/

/-- At every moment at most `limit` accepted events had a turn to come or to
end. -/
def Transcript.Windowed (limit : ℕ) (transcript : Transcript) : Prop :=
  ∀ before, before <+: transcript → (accepted before).length ≤ (ended before).length + limit

/-- A stream of events with the numbers 0, 1, 2, ... and nothing behind a
Disconnected, pushed within a window; no handler throws and no completion
fails. -/
structure Transcript.Paced (limit : ℕ) (transcript : Transcript) : Prop where
  contiguous : Transcript.Contiguous transcript
  disconnectedLast : Transcript.DisconnectedLast transcript
  returns : ∀ event, .returned event .threw ∉ transcript
  succeeds : ∀ event, .processed event ∈ transcript →
    ∃ payload, event.completion = some payload ∧ payload.failed = false
  windowed : Transcript.Windowed limit transcript

theorem Transcript.Paced.of_append {limit : ℕ} {first second : Transcript}
    (hpaced : Transcript.Paced limit (first ++ second)) :
    Transcript.Paced limit first where
  contiguous := hpaced.contiguous.of_append
  disconnectedLast := hpaced.disconnectedLast.of_append
  returns := fun event hmem => hpaced.returns event (mem_append_left _ hmem)
  succeeds := fun event hmem => hpaced.succeeds event (mem_append_left _ hmem)
  windowed := fun before hbefore =>
    hpaced.windowed before (hbefore.trans (prefix_append first second))

theorem Transcript.Windowed.length_le {limit : ℕ} {transcript : Transcript}
    (hwindowed : Transcript.Windowed limit transcript) :
    (accepted transcript).length ≤ (ended transcript).length + limit :=
  hwindowed transcript (prefix_refl transcript)

/-! ## Where waiting numbers lie -/

theorem SessionView.Sound.waiting_bounds (hsound : view.Sound)
    (hcontiguous : Transcript.Contiguous view.log) (hgap : view.GapFree) {k : ℕ}
    (hwaiting : 0 < view.waiting (numbered k)) :
    (started view.log).length ≤ k ∧ k < (accepted view.log).length := by
  have hcovered := hsound.covered (numbered k) fun _ => numbered_kind
  have hone := hcontiguous.countP_le k
  constructor
  · by_contra hlt
    have hmem : k ∈ (started view.log).map SessionEvent.sequence := by
      rw [hgap.started, mem_range]
      exact not_le.mp hlt
    obtain ⟨event, hevent, hsequence⟩ := mem_map.mp hmem
    have hstarted : 0 < (started view.log).countP (numbered k) := by
      apply countP_pos_iff.mpr
      refine ⟨event, hevent, ?_⟩
      rw [← hsequence]
      exact numbered_self (hsound.service.kinds event hevent)
    split at hone <;> omega
  · apply hcontiguous.lt_length
    omega

theorem SessionView.Sound.waiting_le_one (hsound : view.Sound)
    (hcontiguous : Transcript.Contiguous view.log) (k : ℕ) :
    view.waiting (numbered k) ≤ 1 := by
  have hcovered := hsound.covered (numbered k) fun _ => numbered_kind
  have hone := hcontiguous.countP_le k
  split at hone <;> omega

/-- While anything waits, the session has not been closed, so its next number
follows the turns that are over. -/
theorem SessionView.Sound.frontier_eq (hsound : view.Sound)
    (hcontiguous : Transcript.Contiguous view.log)
    (hlast : Transcript.DisconnectedLast view.log) (hgap : view.GapFree) {k : ℕ}
    (hwaiting : 0 < view.waiting (numbered k)) :
    view.frontier = (started view.log).length := by
  obtain ⟨_, hlt⟩ := hsound.waiting_bounds hcontiguous hgap hwaiting
  unfold frontier
  cases hactive : view.state.active with
  | true => exact hgap.active hactive
  | false =>
    rcases hgap.inactive hactive with hnext | ⟨_, event, hmem, hkind⟩
    · exact hnext
    · -- The Disconnected has a smaller number, so it was accepted before.
      have hnumber : event.sequence ∈ (started view.log).map SessionEvent.sequence :=
        mem_map_of_mem hmem
      rw [hgap.started, mem_range] at hnumber
      obtain ⟨i, hi, hget⟩ :=
        mem_iff_getElem.mp (hsound.accepted_of_started hmem)
      have hindex : event.sequence = i := by
        have hrange := congrArg (fun numbers => numbers[i]?) hcontiguous
        simpa [hi, hget] using hrange
      have hordered := pairwise_iff_getElem.mp hlast i k hi hlt (by omega)
      rw [hget] at hordered
      exact absurd hkind hordered

theorem SessionView.Sound.waiting_of_parked (hsound : view.Sound)
    {entry : ℕ × SessionEvent} (hentry : entry ∈ view.state.parked.entries) :
    0 < view.state.stored (numbered entry.1) := by
  obtain ⟨hkind, hsequence⟩ := hsound.turns.slots.parked entry hentry
  have hself : numbered entry.1 entry.2 = true := by
    rw [← hsequence]
    exact numbered_self hkind
  have hpos := OrderedMap.countValues_pos_of_mem hentry hself
  unfold SessionSequenceState.stored
  omega

/-! ## There is room -/

section Trying

variable {limit : ℕ} (hsound : view.Sound)
  (hpaced : Transcript.Paced limit view.log)
  (hunfailed : Observation.failed view.sessionId ∉ view.log)
  {w : Fin n} {event : SessionEvent} (htask : view.tasks w = .hand event .trying)

include hsound hpaced htask

theorem SessionView.Sound.key_ne_of_hand (hkind : event.kind ≠ .deferredCompletion)
    {entry : ℕ × SessionEvent} (hentry : entry ∈ view.state.parked.entries) :
    entry.1 ≠ event.sequence := by
  intro heq
  have hone := hsound.waiting_le_one hpaced.contiguous entry.1
  have hstored := hsound.waiting_of_parked hentry
  have hheld := view.le_weigh (holds (numbered entry.1)) w
  rw [htask, holds_hand, heq, numbered_self hkind, Bool.toNat_true] at hheld
  rw [heq] at hone hstored
  unfold waiting at hone
  omega

include hunfailed

theorem SessionView.Sound.hand_ahead (hkind : event.kind ≠ .deferredCompletion) :
    view.frontier ≤ event.sequence := by
  have hgap := hsound.gapFree hpaced.contiguous hunfailed
  have hwaiting := waiting_of_hand htask (numbered_self hkind)
  rw [hsound.frontier_eq hpaced.contiguous hpaced.disconnectedLast hgap hwaiting]
  exact (hsound.waiting_bounds hpaced.contiguous hgap hwaiting).1

/-- The parked numbers, the number in hand and the number that is due are
different numbers of unfinished events. -/
theorem SessionView.Sound.parked_room (hcounts : view.CountsEnds)
    (hkind : event.kind ≠ .deferredCompletion) (hstill : view.state.failed = false)
    (hlate : view.state.active = true ∨ view.state.nextSequence ≠ event.sequence) :
    view.state.parked.size + 2 ≤ limit := by
  have hgap := hsound.gapFree hpaced.contiguous hunfailed
  have hheld := waiting_of_hand htask (numbered_self hkind)
  have hfrontier := hsound.frontier_eq hpaced.contiguous hpaced.disconnectedLast hgap hheld
  have hahead := hsound.hand_ahead hpaced hunfailed htask hkind
  have hbounds := hsound.waiting_bounds hpaced.contiguous hgap hheld
  have hwindow := hpaced.windowed.length_le
  have hnodup : (view.state.parked.entries.map Prod.fst).Nodup :=
    pairwise_map.mpr (view.state.parked.sorted.imp fun hlt => hlt.ne)
  have hfresh : event.sequence ∉ view.state.parked.entries.map Prod.fst := by
    intro hmem
    obtain ⟨entry, hentry, heq⟩ := mem_map.mp hmem
    exact hsound.key_ne_of_hand hpaced htask hkind hentry heq
  have habove : ∀ k ∈ event.sequence :: view.state.parked.entries.map Prod.fst,
      k ∈ Finset.Ioo view.state.nextSequence (accepted view.log).length := by
    intro k hmem
    rw [Finset.mem_Ioo]
    rcases mem_cons.mp hmem with rfl | hmem
    · unfold frontier at hahead
      cases hactive : view.state.active with
      | true =>
        rw [hactive, Bool.toNat_true] at hahead
        exact ⟨hahead, hbounds.2⟩
      | false =>
        have hne : view.state.nextSequence ≠ event.sequence := by
          simpa [hactive] using hlate
        rw [hactive, Bool.toNat_false] at hahead
        exact ⟨by omega, hbounds.2⟩
    · obtain ⟨entry, hentry, rfl⟩ := mem_map.mp hmem
      have hwaiting : 0 < view.waiting (numbered entry.1) := by
        have hstored := hsound.waiting_of_parked hentry
        unfold waiting
        omega
      have hparked := hsound.waiting_bounds hpaced.contiguous hgap hwaiting
      unfold frontier at hfrontier
      cases hactive : view.state.active with
      | true =>
        rw [hactive, Bool.toNat_true] at hfrontier
        exact ⟨by omega, hparked.2⟩
      | false =>
        have hne := hsound.stages.nextParked hactive hstill entry hentry
        rw [hactive, Bool.toNat_false] at hfrontier
        exact ⟨by omega, hparked.2⟩
  have hcard : (event.sequence :: view.state.parked.entries.map Prod.fst).length ≤
      (Finset.Ioo view.state.nextSequence (accepted view.log).length).card := by
    rw [← toFinset_card_of_nodup (nodup_cons.mpr ⟨hfresh, hnodup⟩)]
    apply Finset.card_le_card
    intro k hk
    exact habove k (mem_toFinset.mp hk)
  rw [Nat.card_Ioo, length_cons, length_map] at hcard
  unfold SessionView.CountsEnds at hcounts
  unfold frontier at hfrontier
  unfold OrderedMap.size
  omega

theorem SessionView.Sound.tryStart_accepts (hcounts : view.CountsEnds)
    (hlimit : limit = config.maxParkedEventsPerSession + 1) :
    (tryStartSessionTurn config event view.state).1 ≠ .parkedLimit ∧
      (tryStartSessionTurn config event view.state).1 ≠ .invalidSequence := by
  have hstart : TurnStart config event view.state
      (tryStartSessionTurn config event view.state).1
      (tryStartSessionTurn config event view.state).2 :=
    turnStart_tryStartSessionTurn rfl
  generalize (tryStartSessionTurn config event view.state).1 = disposition at hstart ⊢
  generalize (tryStartSessionTurn config event view.state).2 = state at hstart
  cases hstart with
  | badCompletion hkind hbad =>
    exact absurd (hsound.turns.completion_in_hand htask hkind) hbad
  | invalid hkind _ hinvalid =>
    exfalso
    rcases hinvalid with _ | hcontains
    · have hahead := hsound.hand_ahead hpaced hunfailed htask hkind
      unfold frontier at hahead
      omega
    · obtain ⟨_, hfind⟩ := Option.isSome_iff_exists.mp hcontains
      exact hsound.key_ne_of_hand hpaced htask hkind (OrderedMap.find?_some_mem hfind) rfl
  | limit hkind hfailed _ hlate =>
    exfalso
    have hroom := hsound.parked_room hpaced hunfailed htask hcounts hkind hfailed hlate
    omega
  | _ => simp

end Trying

/-! ## Whole runs -/

def Task.isFailing : Task → Bool
  | .hand _ (.failing _) => true
  | .turn _ (.failing _) => true
  | _ => false

theorem restart_isFailing (next : Option SessionEvent) : (restart next).isFailing = false := by
  cases next <;> rfl

theorem HandMove.isFailing {event : SessionEvent}
    {stage next : HandStage} (hmove : HandMove state event stage next) :
    (hand event next).isFailing = false := by
  have hrejected : (hand event (afterRejection event)).isFailing = false := by
    unfold afterRejection
    split <;> rfl
  cases hmove with
  | alreadyFailed | disconnected => exact hrejected
  | _ => rfl

theorem TurnMove.isFailing {event : SessionEvent}
    {stage next : TurnStage} (hmove : TurnMove state event stage next) :
    (turn event next).isFailing = false := by
  cases hmove <;> rfl

/-- Nothing has failed or is about to. -/
structure SessionView.Untroubled (view : SessionView n) : Prop where
  counts : view.CountsEnds
  unfailed : Observation.failed view.sessionId ∉ view.log
  tasks : ∀ w, (view.tasks w).isFailing = false

theorem SessionView.initial_untroubled (n : ℕ) (sessionId : SessionId) :
    (SessionView.initial n sessionId).Untroubled := by
  constructor
  · rfl
  · simp [SessionView.initial]
  · intro w
    rfl

theorem failed_notMem_quiet {observations : List Observation}
    (hquiet : ∀ observation ∈ observations, observation.isQuiet = true)
    (sessionId : SessionId) : Observation.failed sessionId ∉ observations := by
  intro hmem
  have hfalse := hquiet _ hmem
  simp [isQuiet] at hfalse

/-- The parts of a step that matter here, but for the count of the ends. -/
structure KeepsPeace (view after : SessionView n) : Prop where
  unfailed : ∃ observations, after.log = view.log ++ observations ∧
    Observation.failed view.sessionId ∉ observations
  tasks : ∀ w, (after.tasks w).isFailing = false

section KeepsPeace

variable {w : Fin n} {task : Task} {observations : List Observation}

theorem SessionView.Untroubled.advance (huntroubled : view.Untroubled)
    (hlog : after.log = view.log ++ observations)
    (htasks : after.tasks = Function.update view.tasks w task) (htask : task.isFailing = false)
    (hobservations : Observation.failed view.sessionId ∉ observations) :
    KeepsPeace view after where
  unfailed := ⟨observations, hlog, hobservations⟩
  tasks := by
    intro v
    rw [htasks]
    by_cases hvw : v = w
    · rw [hvw, Function.update_self]
      exact htask
    · rw [Function.update_of_ne hvw]
      exact huntroubled.tasks v

/-- No worker gets a reason to fail the session. -/
theorem SessionView.Untroubled.keepsPeace (huntroubled : view.Untroubled)
    (hsound : view.Sound) (hstep : SessionStep config lossy view after)
    (hpaced : Transcript.Paced (config.maxParkedEventsPerSession + 1) after.log) :
    KeepsPeace view after := by
  cases hstep with
  | push =>
    exact ⟨⟨_, rfl, by simp⟩, huntroubled.tasks⟩
  | pop =>
    exact huntroubled.advance rfl rfl rfl (by simp)
  | handMove _ _ _ _ _ _ hmove hquiet =>
    exact huntroubled.advance rfl rfl hmove.isFailing (failed_notMem_quiet hquiet _)
  | tryStart _ event disposition _ htask hstart =>
    have hbefore := hpaced.of_append
    have haccepts := hsound.tryStart_accepts hbefore huntroubled.unfailed htask
      huntroubled.counts rfl
    rw [hstart] at haccepts
    have hfailed : Observation.failed view.sessionId ∉ tryLog event disposition := by
      cases disposition with
      | process => by_cases hkind : event.kind = .deferredCompletion <;> simp [tryLog, hkind]
      | _ => simp [tryLog]
    refine huntroubled.advance rfl rfl ?_ hfailed
    cases disposition with
    | process =>
      by_cases hkind : event.kind = .deferredCompletion
      · have hlogged : Observation.processed event ∈ view.log ++ tryLog event .process := by
          simp [tryLog, hkind]
        obtain ⟨_, hpayload, hsucceeds⟩ := hpaced.succeeds event hlogged
        simp [tryTask, hkind, completionStage, hpayload, hsucceeds, isFailing]
      · simp [tryTask, hkind, isFailing]
    | parked => rfl
    | discarded => rfl
    | invalidSequence => exact absurd rfl haccepts.2
    | parkedLimit => exact absurd rfl haccepts.1
  | failHand w _ _ htask =>
    have hfailing := huntroubled.tasks w
    simp [htask, isFailing] at hfailing
  | takePending =>
    exact huntroubled.advance rfl rfl (restart_isFailing _) (by simp)
  | turnMove _ _ _ _ _ _ hmove hquiet =>
    exact huntroubled.advance rfl rfl hmove.isFailing (failed_notMem_quiet hquiet _)
  | failTurn w _ _ htask =>
    have hfailing := huntroubled.tasks w
    simp [htask, isFailing] at hfailing
  | handlerThrow _ event =>
    apply absurd _ (hpaced.returns event)
    simp
  | finishOpen =>
    exact huntroubled.advance rfl rfl rfl (by simp)
  | markDeferred =>
    exact huntroubled.advance rfl rfl (restart_isFailing _) (by simp)
  | endOpen =>
    exact huntroubled.advance rfl rfl (restart_isFailing _) (by simp)
  | endClosed =>
    exact ⟨⟨_, rfl, by simp⟩, fun _ => rfl⟩
  | pushCompletion _ _ _ _ _ hquiet =>
    exact ⟨⟨_, rfl, failed_notMem_quiet hquiet _⟩, huntroubled.tasks⟩
  | refuseCompletion _ _ _ hquiet =>
    exact ⟨⟨_, rfl, failed_notMem_quiet hquiet _⟩, huntroubled.tasks⟩
  | observe _ hquiet =>
    exact ⟨⟨_, rfl, failed_notMem_quiet hquiet _⟩, huntroubled.tasks⟩
  | _ => exact huntroubled.advance rfl rfl rfl (by simp)

end KeepsPeace

theorem SessionView.Untroubled.step (huntroubled : view.Untroubled)
    (hsound : view.Sound) (hstep : SessionStep config lossy view after)
    (hpaced : Transcript.Paced (config.maxParkedEventsPerSession + 1) after.log) :
    after.Untroubled := by
  have hpeace := huntroubled.keepsPeace hsound hstep hpaced
  obtain ⟨_, hlog, hobservations⟩ := hpeace.unfailed
  constructor
  · exact huntroubled.counts.step hsound.turns hstep
  · rw [hstep.sessionId_eq, hlog, mem_append, not_or]
    exact ⟨huntroubled.unfailed, hobservations⟩
  · exact hpeace.tasks

/-- The pace of a session decides alone, so the invariant is conditional. -/
def Pool.PeaceKept (config : WorkerPoolConfig) (sessionId : SessionId)
    (pool : Pool n) : Prop :=
  Transcript.Paced (config.maxParkedEventsPerSession + 1) (pool.transcript.of sessionId) →
    (pool.view sessionId).Untroubled

theorem Pool.Reachable.peaceKept {pool : Pool n} (hreach : pool.Reachable config)
    (sessionId : SessionId) : pool.PeaceKept config sessionId := by
  obtain ⟨inbox, outbox, hempty, _, hreaches⟩ := hreach
  have hboth : pool.Sound ∧ pool.PeaceKept config sessionId := by
    apply hreaches.invariant
    · refine ⟨Pool.initial_sound outbox hempty, fun _ => ?_⟩
      rw [Pool.initial_view inbox outbox hempty]
      exact initial_untroubled n sessionId
    · intro before _ next hinv _ hstep
      have hcases := Pool.outcome hstep
      refine ⟨hinv.1.step hcases, fun hpaced => ?_⟩
      rcases hinv.1.invariant.simulates hcases sessionId with hsame | hsession
      · rw [hsame]
        apply hinv.2
        have hlog := congrArg SessionView.log hsame
        change Transcript.of next.transcript sessionId =
          Transcript.of before.transcript sessionId at hlog
        rwa [← hlog]
      · obtain ⟨_, hlog⟩ := hsession.log_append
        have hpacedBefore : Transcript.Paced (config.maxParkedEventsPerSession + 1)
            (before.view sessionId).log := by
          have hafter : Transcript.Paced (config.maxParkedEventsPerSession + 1)
            (next.view sessionId).log := hpaced
          rw [hlog] at hafter
          exact hafter.of_append
        exact (hinv.2 hpacedBefore).step (hinv.1.sessions sessionId) hsession hpaced
  exact hboth.2

theorem Pool.never_fails_in_window {pool : Pool n} {sessionId : SessionId}
    (hreach : pool.Reachable config)
    (hpaced : Transcript.Paced (config.maxParkedEventsPerSession + 1)
      (pool.transcript.of sessionId)) :
    Observation.failed sessionId ∉ pool.transcript ∧
      ∀ w event ref, pool.workers w = .hand event ref .trying →
        event.sessionId = sessionId →
          (tryStartSessionTurn config event (pool.states ref)).1 ≠ .parkedLimit ∧
          (tryStartSessionTurn config event (pool.states ref)).1 ≠ .invalidSequence := by
  have hsound := hreach.sound
  have huntroubled := hreach.peaceKept sessionId hpaced
  constructor
  · intro hmem
    exact huntroubled.unfailed (failed_mem_of.mpr hmem)
  · intro w event ref hworker hsession
    subst hsession
    rcases (hsound.invariant.refs.hand w event ref _ hworker).2.2 with hcurrent | hclosed
    · rw [← show (pool.view event.sessionId).state = pool.states ref from
        Pool.stateOf_of_current hcurrent]
      exact (hsound.sessions event.sessionId).tryStart_accepts hpaced
        huntroubled.unfailed (Pool.view_of_hand hworker hcurrent) huntroubled.counts rfl
    · -- The session is gone, and what is left of it is discarded.
      simp [tryStartSessionTurn, hclosed]

instance (limit : ℕ) (transcript : Transcript) :
    Decidable (Transcript.Windowed limit transcript) :=
  decidable_of_iff (∀ before ∈ transcript.inits,
    (accepted before).length ≤ (ended before).length + limit) (by
      simp only [mem_inits]
      rfl)

/-- Neither a thrown handler nor a completion. -/
def Observation.isCalm : Observation → Bool
  | .returned _ .threw => false
  | .processed _ => false
  | _ => true

/-- Two packets of one session at a time, with room for one parked event. -/
theorem never_fails_two_packets :
    ∃ pool : Pool 2, pool.Reachable smallConfig ∧
      invoked (pool.transcript.of 1) = [packetEvent 1 0, packetEvent 1 1] ∧
      Observation.failed 1 ∉ pool.transcript := by
  obtain ⟨pool, hreach, houtcome⟩ := smallPool_reachedBy (n := 2) (fun _ _ => True)
    ([.push (packetEvent 1 0), .push (packetEvent 1 1)] ++ works 0 2 ++ works 1 5 ++
      works 0 4 ++ [.handlerReturn 0] ++ works 0 6)
    (fun pool =>
      invoked (pool.transcript.of 1) == [packetEvent 1 0, packetEvent 1 1] &&
        accepted (pool.transcript.of 1) == [packetEvent 1 0, packetEvent 1 1] &&
        (pool.transcript.of 1).all isCalm &&
        decide (Transcript.Windowed 2 (pool.transcript.of 1)))
    (by simp) (by decide)
  simp only [Bool.and_eq_true, beq_iff_eq, all_eq_true, decide_eq_true_eq] at houtcome
  obtain ⟨⟨⟨hinvoked, haccepted⟩, hcalm⟩, hwindowed⟩ := houtcome
  have hpaced : Transcript.Paced (smallConfig.maxParkedEventsPerSession + 1)
      (pool.transcript.of 1) := by
    constructor
    · rw [Transcript.Contiguous, haccepted]
      rfl
    · rw [Transcript.DisconnectedLast, haccepted]
      decide
    · intro event hmem
      simpa [isCalm] using hcalm _ hmem
    · intro _ hmem
      simpa [isCalm] using hcalm _ hmem
    · exact hwindowed
  exact ⟨pool, hreach, hinvoked, (Pool.never_fails_in_window hreach hpaced).1⟩

/-- The end of the Disconnected forgets the numbers of the session.  Two
packets behind it wait for a number 0 that never comes, and the second one
finds no room. -/
def packetsBehindDisconnectedRun : List (Action 1) :=
  [.push (disconnectedEvent 1 0), .push (packetEvent 1 1)] ++ works sole 6 ++
    [.handlerReturn sole] ++ works sole 8 ++ [.push (packetEvent 1 2)] ++ works sole 6

theorem fails_behind_disconnected :
    ∃ pool : Pool 1, pool.Reachable smallConfig ∧
      Transcript.Contiguous (pool.transcript.of 1) ∧
      (∀ event, .returned event .threw ∉ pool.transcript.of 1) ∧
      (∀ event, .processed event ∉ pool.transcript.of 1) ∧
      Transcript.Windowed (smallConfig.maxParkedEventsPerSession + 1) (pool.transcript.of 1) ∧
      Observation.failed 1 ∈ pool.transcript := by
  obtain ⟨pool, hreach, houtcome⟩ := smallPool_reachedBy (fun _ _ => True)
    packetsBehindDisconnectedRun
    (fun pool =>
      accepted (pool.transcript.of 1) ==
          [disconnectedEvent 1 0, packetEvent 1 1, packetEvent 1 2] &&
        (pool.transcript.of 1).all isCalm &&
        decide (Transcript.Windowed 2 (pool.transcript.of 1)) &&
        pool.transcript.contains (.failed 1))
    (by simp) (by decide)
  simp only [Bool.and_eq_true, beq_iff_eq, all_eq_true, decide_eq_true_eq,
    contains_eq_mem] at houtcome
  obtain ⟨⟨⟨haccepted, hcalm⟩, hwindowed⟩, hfailed⟩ := houtcome
  refine ⟨pool, hreach, ?_, ?_, ?_, hwindowed, hfailed⟩
  · rw [Transcript.Contiguous, haccepted]
    rfl
  · intro event hmem
    simpa [isCalm] using hcalm _ hmem
  · intro _ hmem
    simpa [isCalm] using hcalm _ hmem

end SessionServer.WorkerPool
