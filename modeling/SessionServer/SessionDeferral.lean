import SessionServer.SessionCompletion
import SessionServer.SessionLedger

/-!
# The ledger of the deferrals of a session

Every handler call returns at most once.  A call that returns with a deferral
owes one completion, and the ledger says where it is: not claimed by the
returning worker yet, not called, in the inbox, with a worker, in the early
slot, or processed.
-/

namespace SessionServer.WorkerPool

open SessionEvent Transcript SessionView TurnStage WorkerPool.Task List

variable {n : ℕ}

/-! ## Selections of the transcript -/

def Observation.returned? : Observation → Option SessionEvent
  | .returned event _ => some event
  | _ => none

def Observation.deferred? : Observation → Option SessionEvent
  | .returned event .deferred => some event
  | _ => none

def Observation.processed? : Observation → Option SessionEvent
  | .processed event => some event
  | _ => none

def Transcript.returned (transcript : Transcript) : List SessionEvent :=
  transcript.filterMap Observation.returned?

/-- The events whose handlers returned with a deferral. -/
def Transcript.deferred (transcript : Transcript) : List SessionEvent :=
  transcript.filterMap Observation.deferred?

def Transcript.processed (transcript : Transcript) : List SessionEvent :=
  transcript.filterMap Observation.processed?

@[simp] theorem Transcript.returned_append (first second : Transcript) :
    returned (first ++ second) = returned first ++ returned second :=
  filterMap_append ..

@[simp] theorem Transcript.deferred_append (first second : Transcript) :
    Transcript.deferred (first ++ second) =
      Transcript.deferred first ++ Transcript.deferred second :=
  filterMap_append ..

@[simp] theorem Transcript.processed_append (first second : Transcript) :
    processed (first ++ second) = processed first ++ processed second :=
  filterMap_append ..

/-! ## Where completions are -/

/-- The worker owes the completion of the turn: it has to claim the deferral,
or it has the completion that was called while the handler ran. -/
def TurnStage.owes : TurnStage → Bool
  | .finishing context => context.deferred
  | stage => stage.inlineCompletion.isSome

def Task.handles (sequence : ℕ) : Task → ℕ
  | .turn event (.handling _) => (event.hasNumber sequence).toNat
  | _ => 0

def Task.completions (sequence : ℕ) : Task → ℕ
  | .idle => 0
  | .hand event _ => (event.completes sequence).toNat
  | .turn event stage => (stage.owes && event.hasNumber sequence).toNat

def SessionView.completions (view : SessionView n) (sequence : ℕ) : ℕ :=
  view.queue.countP (completes sequence) +
    view.weigh (Task.completions sequence) +
    (view.state.earlyCompletion.any (completes sequence)).toNat +
    view.callable.count sequence

structure SessionView.DeferralLedger (view : SessionView n) (sequence : ℕ) : Prop where
  called : (invoked view.log).countP (hasNumber sequence) =
    (returned view.log).countP (hasNumber sequence) + view.weigh (handles sequence)
  owed : (Transcript.deferred view.log).countP (hasNumber sequence) =
    (processed view.log).countP (hasNumber sequence) + view.completions sequence

theorem SessionView.initial_deferralLedger (n : ℕ) (sessionId : SessionId)
    (sequence : ℕ) : (SessionView.initial n sessionId).DeferralLedger sequence := by
  constructor <;>
    simp [SessionView.initial, completions, weigh,
      invoked, returned, Transcript.deferred,
      processed, Task.handles, Task.completions]

@[simp] theorem Task.handles_hand (sequence : ℕ) (event : SessionEvent)
    (stage : HandStage) : handles sequence (.hand event stage) = 0 := rfl

@[simp] theorem Task.handles_restart (sequence : ℕ) (next : Option SessionEvent) :
    (restart next).handles sequence = 0 := by
  cases next <;> rfl

@[simp] theorem Task.completions_restart (sequence : ℕ) (next : Option SessionEvent) :
    (restart next).completions sequence = (next.any (completes sequence)).toNat := by
  cases next <;> rfl

theorem any_completes_eq_false {next : Option SessionEvent} (sequence : ℕ)
    (hkind : ∀ event, next = some event → event.kind ≠ .deferredCompletion) :
    next.any (completes sequence) = false := by
  cases next with
  | none => rfl
  | some event => exact completes_eq_false sequence (hkind event rfl)

/-! ## One step -/

section Ledger

variable {view after : SessionView n} {sequence : ℕ} {w : Fin n}
  {state : SessionSequenceState} {task : Task} {observations : List Observation}
  {callable : Multiset ℕ}

theorem SessionView.DeferralLedger.of_books (hledger : view.DeferralLedger sequence)
    (hlog : after.log = view.log ++ observations)
    (hcalled : (invoked observations).countP (hasNumber sequence) + view.weigh (handles sequence) =
      (returned observations).countP (hasNumber sequence) + after.weigh (handles sequence))
    (howed : (Transcript.deferred observations).countP (hasNumber sequence) +
        view.completions sequence =
      (processed observations).countP (hasNumber sequence) +
        after.completions sequence) : after.DeferralLedger sequence := by
  have hcalledBefore := hledger.called
  have howedBefore := hledger.owed
  constructor
  · rw [hlog, invoked_append, returned_append, countP_append, countP_append]
    omega
  · rw [hlog, deferred_append, processed_append, countP_append, countP_append]
    omega

theorem SessionView.DeferralLedger.advance (hledger : view.DeferralLedger sequence)
    (hcalled : (invoked observations).countP (hasNumber sequence) +
        (view.tasks w).handles sequence =
      (returned observations).countP (hasNumber sequence) + task.handles sequence)
    (howed : (Transcript.deferred observations).countP (hasNumber sequence) +
        (view.tasks w).completions sequence +
        (view.state.earlyCompletion.any (completes sequence)).toNat +
        view.callable.count sequence =
      (processed observations).countP (hasNumber sequence) +
        task.completions sequence +
        (state.earlyCompletion.any (completes sequence)).toNat +
        callable.count sequence) :
    ({ view with
      state := state
      callable := callable }.advance w task observations).DeferralLedger sequence := by
  have hhandles := { view with state := state, callable := callable }.weigh_advance
    (Task.handles sequence) w task observations
  have hcompletions := { view with state := state, callable := callable }.weigh_advance
    (Task.completions sequence) w task observations
  apply hledger.of_books rfl
  · simp only [weigh] at hhandles ⊢
    omega
  · unfold completions
    simp only [advance_queue, advance_state, advance_callable]
    simp only [weigh] at hcompletions ⊢
    omega

theorem SessionView.DeferralLedger.keep (hledger : view.DeferralLedger sequence)
    (hearly : state.earlyCompletion = view.state.earlyCompletion)
    (hhandles : task.handles sequence = (view.tasks w).handles sequence)
    (hcompletions : task.completions sequence = (view.tasks w).completions sequence)
    (hinvoked : invoked observations = []) (hreturned : returned observations = [])
    (hdeferred : Transcript.deferred observations = []) (hprocessed : processed observations = []) :
    ({ view with state := state }.advance w task observations).DeferralLedger sequence := by
  apply hledger.advance
  · rw [hinvoked, hreturned, hhandles]
  · rw [hdeferred, hprocessed, hcompletions, hearly]

theorem SessionView.DeferralLedger.requeue (hledger : view.DeferralLedger sequence)
    {queue : List SessionEvent} (hinvoked : invoked observations = [])
    (hreturned : returned observations = []) (hdeferred : Transcript.deferred observations = [])
    (hprocessed : processed observations = [])
    (hcompletions : queue.countP (completes sequence) + callable.count sequence =
      view.queue.countP (completes sequence) + view.callable.count sequence) :
    { view with
      queue := queue
      callable := callable
      log := view.log ++ observations }.DeferralLedger sequence := by
  apply hledger.of_books rfl
  · rw [hinvoked, hreturned]
    rfl
  · rw [hdeferred, hprocessed]
    unfold completions
    simp only [weigh]
    omega

end Ledger

section Quiet

variable {observations : List Observation}
  (hquiet : ∀ observation ∈ observations, observation.isQuiet = true)

include hquiet

theorem Transcript.returned_quiet : returned observations = [] := by
  apply filterMap_quiet _ hquiet
  intro observation
  cases observation <;> simp [Observation.isQuiet, Observation.returned?]

theorem Transcript.deferred_quiet : Transcript.deferred observations = [] := by
  apply filterMap_quiet _ hquiet
  intro observation
  cases observation <;> simp [Observation.isQuiet, Observation.deferred?]

theorem Transcript.processed_quiet : processed observations = [] := by
  apply filterMap_quiet _ hquiet
  intro observation
  cases observation <;> simp [Observation.isQuiet, Observation.processed?]

end Quiet

section Steps

variable {config : WorkerPoolConfig} {view after : SessionView n} {sequence : ℕ}
  {w : Fin n} {event : SessionEvent}

theorem completionStage_owes (event : SessionEvent) : (completionStage event).owes = false := by
  rcases completionStage_cases event with hstage | ⟨_, hstage⟩ <;> rw [hstage] <;> rfl

theorem completionStage_handles (event : SessionEvent) (sequence : ℕ) :
    (turn event (completionStage event)).handles sequence = 0 := by
  rcases completionStage_cases event with hstage | ⟨_, hstage⟩ <;> rw [hstage] <;> rfl

theorem TurnMove.owes {state : SessionSequenceState} {stage next : TurnStage}
    (hmove : TurnMove state event stage next) (hfits : stage.Fits event.kind) :
    next.owes = stage.owes := by
  cases hmove with
  | finish _ hplain =>
    simp [TurnStage.owes, TurnStage.inlineCompletion, WorkerSessionEventContext.deferred, hplain]
  | published =>
    rw [hfits.2 rfl]
    rfl
  | _ => rfl

theorem TurnMove.handles {state : SessionSequenceState} {stage next : TurnStage}
    (hmove : TurnMove state event stage next) (sequence : ℕ) :
    (turn event next).handles sequence = (turn event stage).handles sequence := by
  cases hmove <;> rfl

theorem tryLog_calls (event : SessionEvent) (disposition : SessionTurnDisposition) :
    invoked (tryLog event disposition) = [] ∧
      returned (tryLog event disposition) = [] ∧
      Transcript.deferred (tryLog event disposition) = [] := by
  cases disposition with
  | process =>
    simp only [tryLog]
    split <;> exact ⟨rfl, rfl, rfl⟩
  | _ => exact ⟨rfl, rfl, rfl⟩

theorem SessionView.DeferralLedger.tryKeep (hledger : view.DeferralLedger sequence)
    {disposition : SessionTurnDisposition} {state : SessionSequenceState}
    (hearly : state.earlyCompletion = view.state.earlyCompletion)
    (htask : view.tasks w = .hand event .trying)
    (hcompletions : (tryTask event disposition).completions sequence =
      (event.completes sequence).toNat)
    (hhandles : (tryTask event disposition).handles sequence = 0)
    (hprocessed : processed (tryLog event disposition) = []) :
    ({ view with state := state }.advance w (tryTask event disposition)
      (tryLog event disposition)).DeferralLedger sequence := by
  obtain ⟨hinvoked, hreturned, hdeferred⟩ := tryLog_calls event disposition
  apply hledger.keep hearly
  · rw [hhandles, htask, handles_hand]
  · rw [hcompletions, htask]
    rfl
  · exact hinvoked
  · exact hreturned
  · exact hdeferred
  · exact hprocessed

theorem SessionView.DeferralLedger.tryStart (hledger : view.DeferralLedger sequence)
    (hinv : view.TurnInvariant) {disposition : SessionTurnDisposition}
    {state : SessionSequenceState} (htask : view.tasks w = .hand event .trying)
    (hstart : tryStartSessionTurn config event view.state = (disposition, state)) :
    ({ view with state := state }.advance w (tryTask event disposition)
      (tryLog event disposition)).DeferralLedger sequence := by
  obtain ⟨hinvoked, hreturned, hdeferred⟩ := tryLog_calls event disposition
  cases turnStart_tryStartSessionTurn hstart with
  | closed hclosed => simp [hinv.notClosed] at hclosed
  | completion hkind =>
    have htaken : tryTask event .process = .turn event (completionStage event) := by
      simp [tryTask, hkind]
    have hlogged : tryLog event .process = [.processed event] := by
      simp [tryLog, hkind]
    have hcompletes := completes_of_kind sequence hkind
    apply hledger.advance
    · rw [hinvoked, hreturned, htaken, htask, completionStage_handles]
      rfl
    · have hprocessed : processed [.processed event] = [event] := rfl
      rw [hdeferred, hlogged, hprocessed, htaken, htask, countP_singleton]
      simp only [Task.completions, completionStage_owes, hcompletes, countP_nil,
        Bool.false_and, Bool.toNat_false]
      cases event.hasNumber sequence <;> simp
  | early _ _ _ _ hearly =>
    apply hledger.advance
    · rw [htask]
      rfl
    · rw [htask, hearly]
      simp [tryTask, tryLog, Task.completions, Transcript.deferred, processed]
  | badCompletion | failedPacket | invalid | limit => exact hledger.tryKeep rfl htask rfl rfl rfl
  | pending hkind =>
    have hother : event.kind ≠ .deferredCompletion := by simp [hkind]
    exact hledger.tryKeep rfl htask (by rw [completes_eq_false sequence hother]; rfl) rfl rfl
  | park hkind =>
    exact hledger.tryKeep rfl htask (by rw [completes_eq_false sequence hkind]; rfl) rfl rfl
  | startFailed hkind =>
    have hother : event.kind ≠ .deferredCompletion := by simp [hkind]
    have hnot := completes_eq_false sequence hother
    refine hledger.tryKeep ?_ htask ?_ ?_ ?_
    · rfl
    · simp [tryTask, hother, Task.completions, owes, inlineCompletion, hnot]
    · simp [tryTask, hother, Task.handles]
    · rw [tryLog, if_neg hother]
      rfl
  | start hkind =>
    have hnot := completes_eq_false sequence hkind
    refine hledger.tryKeep ?_ htask ?_ ?_ ?_
    · rfl
    · simp [tryTask, hkind, Task.completions, owes, inlineCompletion, hnot]
    · simp [tryTask, hkind, Task.handles]
    · rw [tryLog, if_neg hkind]
      rfl

/-- Of the completion called early and the one called inline there is at most
one. -/
theorem SessionView.TurnInvariant.one_completion (hinv : view.TurnInvariant)
    {inlineCompletion : Option SessionEvent}
    (htask : view.tasks w = .turn event (.deferring inlineCompletion)) :
    inlineCompletion = none ∨ view.state.earlyCompletion = none := by
  have hopen := hinv.turnOpen htask
  have hawaiting : view.state.awaitingCompletion = false := by
    cases hcase : view.state.awaitingCompletion with
    | false => rfl
    | true => exact absurd (hopen.awaiting.mpr hcase) hopen.fits
  have hle := (hinv.running hopen.active hawaiting).2
  rw [hinv.weigh_inlined htask, hinv.weigh_deferrals htask] at hle
  unfold tokens at hle
  cases hinline : inlineCompletion with
  | none => exact .inl rfl
  | some =>
    right
    cases hearly : view.state.earlyCompletion with
    | none => rfl
    | some =>
      simp [hearly, hinline, TurnStage.inlineCompletion, TurnStage.isDeferring] at hle

section Ends

variable (hledger : view.DeferralLedger sequence) (hinv : view.TurnInvariant)
include hledger hinv

theorem SessionView.DeferralLedger.markDeferred {inlineCompletion : Option SessionEvent}
    (htask : view.tasks w = .turn event (.deferring inlineCompletion)) :
    ({ view with state := { view.state with
        awaitingCompletion := true
        earlyCompletion := none } }.advance w
      (restart (inlineCompletion.or view.state.earlyCompletion)) []).DeferralLedger sequence := by
  have hopen := hinv.turnOpen htask
  apply hledger.advance
  · rw [htask, Task.handles_restart]
    rfl
  · rw [htask, Task.completions_restart]
    cases hinline : inlineCompletion with
    | none =>
      simp [Task.completions, TurnStage.owes, TurnStage.inlineCompletion,
        Transcript.deferred, Transcript.processed]
    | some completion =>
      have hearly : view.state.earlyCompletion = none := by
        rcases hinv.one_completion htask with hnone | hearly
        · simp [hinline] at hnone
        · exact hearly
      obtain ⟨hkind, hnumber⟩ := hopen.inlineCompletion completion hinline
      have hcompletes : completion.completes sequence = event.hasNumber sequence := by
        rw [completes_of_kind sequence hkind]
        exact hasNumber_congr sequence (hnumber.trans hopen.sequence.symm)
      simp [Task.completions, TurnStage.owes, TurnStage.inlineCompletion, hearly,
        hcompletes, Transcript.deferred, Transcript.processed]

theorem SessionView.DeferralLedger.endOpen (htask : view.tasks w = .turn event .ending)
    (hopen : view.state.activeDisconnect = false) :
    ({ view with state := (endSessionTurn view.state).2 }.advance w
      (restart (endSessionTurn view.state).1) [.ended event false]).DeferralLedger sequence := by
  have hnext : (endSessionTurn view.state).2.earlyCompletion = view.state.earlyCompletion ∧
      (endSessionTurn view.state).1.any (completes sequence) = false := by
    have hend := turnEnd_endSessionTurn view.state
    generalize (endSessionTurn view.state).1 = next at hend ⊢
    generalize (endSessionTurn view.state).2 = state at hend ⊢
    cases hend with
    | disconnected hdisconnect => simp [hopen] at hdisconnect
    | failed =>
      refine ⟨rfl, any_completes_eq_false sequence ?_⟩
      intro pending hpending
      simp [hinv.slots.pending pending hpending]
    | nothingParked => exact ⟨rfl, rfl⟩
    | unparked _ _ _ hfind =>
      refine ⟨rfl, any_completes_eq_false sequence ?_⟩
      intro parked hparked
      rw [← Option.some.inj hparked]
      exact (hinv.slots.parked _ (OrderedMap.find?_some_mem hfind)).1
  apply hledger.keep hnext.1
  · rw [htask, handles_restart]
    rfl
  · rw [htask, completions_restart, hnext.2]
    rfl
  all_goals rfl

theorem SessionView.DeferralLedger.endClosed (htask : view.tasks w = .turn event .ending) :
    (view.close event).DeferralLedger sequence := by
  have htokens := hinv.tokens_of_turn htask rfl
  have hnone : ∀ v, (view.tasks v).handles sequence = 0 ∧
      (view.tasks v).completions sequence = 0 := by
    intro v
    by_cases hvw : v = w
    · rw [hvw, htask]
      exact ⟨rfl, rfl⟩
    · have hturns := hinv.turns_of_ne htask hvw
      have hholds := holds_of_tokens htokens v
      cases hcase : view.tasks v with
      | idle => exact ⟨rfl, rfl⟩
      | hand held =>
        have hkind : held.isCompletion = false := by
          simpa [hcase] using hholds
        exact ⟨rfl, by simp [Task.completions, completes, hkind]⟩
      | turn => simp [hcase] at hturns
  have hhandles : view.weigh (Task.handles sequence) = 0 :=
    Finset.sum_eq_zero fun v _ => (hnone v).1
  have hcompletions : view.weigh (Task.completions sequence) = 0 :=
    Finset.sum_eq_zero fun v _ => (hnone v).2
  have hidle : ∀ weight : Task → ℕ, weight .idle = 0 → (view.close event).weigh weight = 0 := by
    intro _ hzero
    exact Finset.sum_eq_zero fun _ _ => hzero
  apply hledger.of_books rfl
  · rw [hhandles, hidle _ rfl]
    rfl
  · unfold completions
    rw [hcompletions, hidle _ rfl, early_of_tokens htokens]
    rfl

end Ends

theorem SessionView.DeferralLedger.pop (hledger : view.DeferralLedger sequence)
    {rest : List SessionEvent} {remaining : ℕ} (htask : view.tasks w = .idle)
    (hqueue : view.queue = event :: rest) :
    ({ view with registered := true, queue := rest }.advance w
      (.hand event (.popped remaining)) [.popped event]).DeferralLedger sequence := by
  have hhandles := { view with registered := true, queue := rest }.weigh_advance
    (Task.handles sequence) w (.hand event (.popped remaining)) [.popped event]
  have hcompletions := { view with registered := true, queue := rest }.weigh_advance
    (Task.completions sequence) w (.hand event (.popped remaining)) [.popped event]
  have hhead : (if event.completes sequence = true then 1 else 0) =
      (event.completes sequence).toNat := by
    cases event.completes sequence <;> rfl
  simp only [htask, Task.completions, Task.handles] at hhandles hcompletions
  apply hledger.of_books rfl
  · simp only [weigh] at hhandles ⊢
    rw [show invoked [.popped event] = [] from rfl, show returned [.popped event] = [] from rfl]
    omega
  · rw [show Transcript.deferred [.popped event] = [] from rfl,
      show processed [.popped event] = [] from rfl]
    unfold completions
    simp only [advance_queue, advance_state,
      advance_callable, hqueue, countP_cons, countP_nil, hhead]
    simp only [weigh] at hcompletions ⊢
    omega

theorem SessionView.DeferralLedger.step (hledger : view.DeferralLedger sequence)
    (hkept : view.CompletionsKept) (hinv : view.TurnInvariant)
    (hstep : SessionStep config false view after) : after.DeferralLedger sequence := by
  cases hstep with
  | push event hexternal =>
    have hkind : event.completes sequence = false := by
      simp only [isExternal, Bool.and_eq_true, Bool.not_eq_true'] at hexternal
      simp [completes, hexternal.1]
    apply hledger.requeue rfl rfl rfl rfl
    simp [countP_append, hkind]
  | pop _ _ _ _ htask hqueue => exact hledger.pop htask hqueue
  | handMove _ _ _ _ _ htask _ hquiet =>
    apply hledger.keep rfl
    · rw [htask]
      rfl
    · rw [htask]
      rfl
    · exact invoked_quiet hquiet
    · exact returned_quiet hquiet
    · exact deferred_quiet hquiet
    · exact processed_quiet hquiet
  | tryStart _ _ _ _ htask hstart =>
    exact hledger.tryStart hinv htask hstart
  | discard w event htask =>
    have hnot := completes_eq_false sequence (hkept.rejecting w event _ htask rfl)
    apply hledger.keep rfl
    · rw [htask]
      rfl
    · rw [htask, Task.completions, Task.completions, hnot]
      rfl
    all_goals rfl
  | failHand _ _ _ htask hmark | failTurn _ _ _ htask hmark =>
    apply hledger.keep
    · rw [(markSessionFailed_true hmark).2]
    · rw [htask]
      rfl
    · rw [htask]
      rfl
    all_goals rfl
  | takePending w event htask =>
    have hnot := completes_eq_false sequence (hkept.rejecting w event _ htask rfl)
    have htaken : (takePendingDisconnected view.state).2.earlyCompletion =
          view.state.earlyCompletion ∧
        (takePendingDisconnected view.state).1.any (completes sequence) = false := by
      rcases takePendingDisconnected_cases view.state with ⟨htake, _⟩ | ⟨htake, _⟩ <;> rw [htake]
      · exact ⟨rfl, rfl⟩
      · refine ⟨rfl, any_completes_eq_false sequence ?_⟩
        intro pending hpending
        simp [hinv.slots.pending pending hpending]
    apply hledger.keep htaken.1
    · rw [htask, Task.handles_restart]
      rfl
    · rw [htask, Task.completions_restart, htaken.2, Task.completions, hnot]
    all_goals rfl
  | turnMove _ _ _ _ _ htask hmove hquiet =>
    have howes := hmove.owes (hinv.turnOpen htask).fits
    apply hledger.keep rfl
    · rw [htask, hmove.handles]
    · rw [htask, Task.completions, Task.completions, howes]
    · exact invoked_quiet hquiet
    · exact returned_quiet hquiet
    · exact deferred_quiet hquiet
    · exact processed_quiet hquiet
  | invoke _ event htask =>
    apply hledger.advance
    · rw [htask]
      change [event].countP (hasNumber sequence) + 0 = 0 + (event.hasNumber sequence).toNat
      rw [Accounting.countP_singleton, add_zero, zero_add]
    · rw [htask]
      rfl
  | handlerReturn _ event context htask =>
    apply hledger.advance
    · rw [htask]
      change 0 + (event.hasNumber sequence).toNat = [event].countP (hasNumber sequence) + 0
      rw [Accounting.countP_singleton, add_zero, zero_add]
    · have hplain : Transcript.deferred [.returned event .plain] = [] := rfl
      have hdeferred : Transcript.deferred [.returned event .deferred] = [event] := rfl
      have hprocessed : ∀ outcome, processed [.returned event outcome] = [] :=
        fun _ => rfl
      rw [htask, hprocessed]
      simp only [Task.completions, owes, inlineCompletion]
      cases hcase : context.deferred with
      | false => simp [hplain]
      | true =>
        simp only [if_true, hdeferred]
        rw [Accounting.countP_singleton]
        simp
  | handlerThrow _ event _ htask =>
    apply hledger.advance
    · rw [htask]
      change 0 + (event.hasNumber sequence).toNat = [event].countP (hasNumber sequence) + 0
      rw [Accounting.countP_singleton, add_zero, zero_add]
    · rw [htask]
      rfl
  | finishInline _ _ _ _ htask _ _ _ hdeferred =>
    apply hledger.keep rfl
    · rw [htask]
      rfl
    · rw [htask]
      simp [Task.completions, owes, inlineCompletion, hdeferred]
    all_goals rfl
  | finishOpen _ event _ htask hdeferred =>
    apply hledger.advance
    · rw [htask]
      rfl
    · have hcount : (event.sequence ::ₘ view.callable).count sequence =
          view.callable.count sequence + (event.hasNumber sequence).toNat := by
        rw [Multiset.count_cons, hasNumber]
        by_cases hsequence : sequence = event.sequence
        · simp [hsequence]
        · simp [hsequence, Ne.symm hsequence]
      rw [htask, hcount]
      simp only [Task.completions, owes, inlineCompletion, hdeferred,
        Option.isSome_none, Bool.true_and, Bool.false_and, Bool.toNat_false]
      change 0 + _ + _ + _ = 0 + 0 + _ + _
      omega
  | markDeferred _ _ _ _ _ htask hdefer =>
    obtain ⟨rfl, rfl⟩ := markSessionDeferred_some hdefer
    exact hledger.markDeferred hinv htask
  | endOpen _ _ htask hopen => exact hledger.endOpen hinv htask hopen
  | endClosed _ _ htask => exact hledger.endClosed hinv htask
  | pushCompletion completion _ hkind _ hcallable hquiet =>
    apply hledger.requeue (invoked_quiet hquiet)
      (returned_quiet hquiet) (deferred_quiet hquiet)
      (processed_quiet hquiet)
    have hcompletes := completes_of_kind sequence hkind
    rw [countP_append, countP_singleton, hcompletes, hasNumber]
    by_cases hsequence : sequence = completion.sequence
    · have hpos := Multiset.count_pos.mpr hcallable
      rw [hsequence, Multiset.count_erase_self]
      simp only [beq_self_eq_true, if_true]
      omega
    · rw [Multiset.count_erase_of_ne hsequence]
      simp [Ne.symm hsequence]
  | refuseCompletion _ _ _ _ hlossy | lose _ _ _ _ hlossy => simp at hlossy
  | observe _ hquiet =>
    exact hledger.requeue (invoked_quiet hquiet)
      (returned_quiet hquiet) (deferred_quiet hquiet)
      (processed_quiet hquiet) rfl

end Steps

/-! ## The early slot -/

/-- A completion is stored early only as long as the turn does not wait. -/
def SessionSequenceState.EarlyFits (state : SessionSequenceState) : Prop :=
  state.awaitingCompletion = true → state.earlyCompletion = none

theorem SessionStep.earlyFits {config : WorkerPoolConfig} {lossy : Bool}
    {view after : SessionView n} (hstep : SessionStep config lossy view after)
    (hearly : view.state.EarlyFits) : after.state.EarlyFits := by
  cases hstep with
  | tryStart _ _ _ _ _ hstart =>
    cases turnStart_tryStartSessionTurn hstart with
    | early _ _ hawaiting =>
      intro hwaits
      simp [hawaiting] at hwaits
    | _ => exact hearly
  | failHand _ _ _ _ hmark | failTurn _ _ _ _ hmark =>
    rw [advance_state, (markSessionFailed_true hmark).2]
    exact hearly
  | takePending =>
    rcases takePendingDisconnected_cases view.state with ⟨htake, _⟩ | ⟨htake, _⟩ <;>
      rw [htake] <;> exact hearly
  | markDeferred _ _ _ _ _ _ hdefer =>
    obtain ⟨rfl, rfl⟩ := markSessionDeferred_some hdefer
    intro _
    rfl
  | endOpen =>
    intro hwaits
    simp [(turnEnds_endSessionTurn view.state).awaitingCompletion] at hwaits
  | endClosed =>
    intro hwaits
    simp [close] at hwaits
  | _ => exact hearly

/-! ## Reading the ledger -/

theorem Transcript.deferred_le_returned (transcript : Transcript) (sequence : ℕ) :
    (Transcript.deferred transcript).countP (hasNumber sequence) ≤
      (returned transcript).countP (hasNumber sequence) := by
  induction transcript with
  | nil => exact le_rfl
  | cons observation rest ih =>
    cases observation with
    | returned event outcome =>
      have hreturned : returned (.returned event outcome :: rest) = event :: returned rest := rfl
      cases outcome with
      | deferred =>
        have hdeferred : Transcript.deferred (.returned event .deferred :: rest) =
          event :: Transcript.deferred rest := rfl
        rw [hreturned, hdeferred, countP_cons, countP_cons]
        omega
      | _ =>
        rw [hreturned, countP_cons]
        exact ih.trans (Nat.le_add_right _ _)
    | _ => exact ih

/-- A handler that threw is one that returned without a deferral. -/
theorem Transcript.deferred_lt_returned {transcript : Transcript} {event : SessionEvent}
    (hmem : .returned event .threw ∈ transcript) :
    (Transcript.deferred transcript).countP (hasNumber event.sequence) <
      (returned transcript).countP (hasNumber event.sequence) := by
  obtain ⟨before, rest, rfl⟩ := append_of_mem hmem
  have hbefore := deferred_le_returned before event.sequence
  have hrest := deferred_le_returned rest event.sequence
  have hreturned : returned (.returned event .threw :: rest) = event :: returned rest := rfl
  have hdeferred : Transcript.deferred (.returned event .threw :: rest) =
    Transcript.deferred rest := rfl
  have hself : event.hasNumber event.sequence = true := by simp [hasNumber]
  rw [deferred_append, returned_append, hreturned, hdeferred,
    countP_append, countP_append, countP_cons_of_pos hself]
  omega

theorem SessionView.DeferralLedger.returned_le {view : SessionView n} {sequence : ℕ}
    (hledger : view.DeferralLedger sequence) :
    (returned view.log).countP (hasNumber sequence) ≤
      (invoked view.log).countP (hasNumber sequence) := by
  have hcalled := hledger.called
  omega

theorem SessionView.DeferralLedger.processed_le {view : SessionView n} {sequence : ℕ}
    (hledger : view.DeferralLedger sequence) :
    (processed view.log).countP (hasNumber sequence) ≤
      (Transcript.deferred view.log).countP (hasNumber sequence) := by
  have howed := hledger.owed
  omega

end SessionServer.WorkerPool
