import SessionServer.SessionTurnInvariant

/-!
# Where the events of a session are

An event enters a session through a push, through the push of a completion or
as a completion that was called while its handler ran; from then on it only
moves between the inbox, the workers and the slots of the sequence state.
What holds of every event that enters therefore holds of every event that is
anywhere in the session.
-/

namespace SessionServer.WorkerPool

open SessionView TurnStage SessionSequenceState List

variable {n : ℕ}
variable {state : SessionSequenceState} {event : SessionEvent} {view after : SessionView n}
    {w : Fin n} {config : WorkerPoolConfig} {lossy : Bool}

def Task.events : Task → List SessionEvent
  | .idle => []
  | .hand event _ => [event]
  | .turn event stage => event :: stage.inlineCompletion.toList

def SessionSequenceState.events (state : SessionSequenceState) :
    List SessionEvent :=
  state.parked.entries.map Prod.snd ++ state.earlyCompletion.toList ++
    state.pendingDisconnected.toList

def Task.AllEvents (predicate : SessionEvent → Prop) (task : Task) : Prop :=
  ∀ event ∈ task.events, predicate event

structure SessionView.Everywhere (predicate : SessionEvent → Prop)
    (view : SessionView n) : Prop where
  queue : ∀ event ∈ view.queue, predicate event
  tasks : ∀ w, (view.tasks w).AllEvents predicate
  state : ∀ event ∈ view.state.events, predicate event

theorem SessionSequenceState.mem_events :
    event ∈ state.events ↔
      (∃ key, (key, event) ∈ state.parked.entries) ∨
        state.earlyCompletion = some event ∨ state.pendingDisconnected = some event := by
  simp [SessionSequenceState.events, Option.mem_toList]

@[simp] theorem SessionSequenceState.events_default :
    SessionSequenceState.events {} = [] := rfl

theorem SessionView.initial_everywhere (predicate : SessionEvent → Prop)
    (n : ℕ) (sessionId : SessionId) :
    (SessionView.initial n sessionId).Everywhere predicate := by
  constructor <;> simp [SessionView.initial, Task.AllEvents, Task.events]

theorem SessionView.Everywhere.hand {predicate : SessionEvent → Prop}
    (hall : view.Everywhere predicate) {stage : HandStage}
    (htask : view.tasks w = .hand event stage) : predicate event := by
  apply hall.tasks w event
  simp [htask, Task.events]

theorem SessionView.Everywhere.turn {predicate : SessionEvent → Prop}
    (hall : view.Everywhere predicate) {stage : TurnStage}
    (htask : view.tasks w = .turn event stage) : predicate event := by
  apply hall.tasks w event
  simp [htask, Task.events]

/-! ## The state functions move events about -/

theorem markSessionFailed_events (hmark : (markSessionFailed state).1 = true) :
    (markSessionFailed state).2.events ⊆ state.events := by
  rw [(markSessionFailed_true hmark).2]
  intro _ hevent
  rw [mem_events] at hevent ⊢
  rcases hevent with ⟨_, hparked⟩ | hearly | hpending
  · simp at hparked
  · exact .inr (.inl hearly)
  · rcases Option.or_eq_some_iff.mp hpending with hfirst | ⟨_, hold⟩
    · exact .inl (OrderedMap.firstValue?_some hfirst).2
    · exact .inr (.inr hold)

theorem tryStartSessionTurn_events {next : SessionSequenceState}
    {disposition : SessionTurnDisposition}
    (hstart : tryStartSessionTurn config event state = (disposition, next)) :
    next.events ⊆ event :: state.events ∧ (tryTask event disposition).events ⊆ [event] := by
  have hkeep : state.events ⊆ event :: state.events := subset_cons_self _ _
  cases turnStart_tryStartSessionTurn hstart with
  | completion hkind =>
    simp [tryTask, hkind, Task.events, completionStage_inlineCompletion]
  | early =>
    refine ⟨?_, by simp [tryTask, Task.events]⟩
    intro other hother
    rw [mem_events] at hother
    rw [mem_cons, mem_events]
    rcases hother with hparked | hearly | hpending
    · exact .inr (.inl hparked)
    · exact .inl (Option.some.inj hearly).symm
    · exact .inr (.inr (.inr hpending))
  | pending =>
    refine ⟨?_, by simp [tryTask, Task.events]⟩
    intro other hother
    rw [mem_events] at hother
    rw [mem_cons, mem_events]
    rcases hother with hparked | hearly | hpending
    · exact .inr (.inl hparked)
    · exact .inr (.inr (.inl hearly))
    · exact .inl (Option.some.inj hpending).symm
  | park _ _ _ _ habsent =>
    refine ⟨?_, by simp [tryTask, Task.events]⟩
    intro _ hother
    rw [mem_events] at hother
    rw [mem_cons, mem_events]
    rcases hother with ⟨key, hparked⟩ | hearly | hpending
    · rcases (OrderedMap.mem_emplace habsent _).mp hparked with hnew | hold
      · exact .inl (Prod.mk.inj hnew).2
      · exact .inr (.inl ⟨key, hold⟩)
    · exact .inr (.inr (.inl hearly))
    · exact .inr (.inr (.inr hpending))
  | startFailed hkind | start hkind =>
    refine ⟨hkeep, ?_⟩
    simp [tryTask, hkind, Task.events, inlineCompletion]
  | _ => exact ⟨hkeep, by simp [tryTask, Task.events]⟩

theorem mem_restart_events {next : Option SessionEvent} :
    event ∈ (restart next).events ↔ next = some event := by
  cases next with
  | none => simp [restart, Task.events]
  | some => simp [restart, Task.events, eq_comm]

theorem takePendingDisconnected_events (state : SessionSequenceState) :
    (restart (takePendingDisconnected state).1).events ⊆ state.events ∧
      (takePendingDisconnected state).2.events ⊆ state.events := by
  rcases takePendingDisconnected_cases state with ⟨htake, _⟩ | ⟨htake, _⟩
  · rw [htake]
    exact ⟨by simp [restart, Task.events], fun _ => id⟩
  · rw [htake]
    constructor
    · intro event hevent
      rw [mem_restart_events] at hevent
      exact mem_events.mpr (.inr (.inr hevent))
    · intro _ hevent
      rw [mem_events] at hevent ⊢
      rcases hevent with hparked | hearly | hpending
      · exact .inl hparked
      · exact .inr (.inl hearly)
      · simp at hpending

theorem endSessionTurn_events (state : SessionSequenceState) :
    (restart (endSessionTurn state).1).events ⊆ state.events ∧
      (endSessionTurn state).2.events ⊆ state.events := by
  have hend := turnEnd_endSessionTurn state
  generalize (endSessionTurn state).1 = next at hend ⊢
  generalize (endSessionTurn state).2 = after at hend ⊢
  cases hend with
  | disconnected | nothingParked => exact ⟨by simp [restart, Task.events], fun _ => id⟩
  | failed =>
    constructor
    · intro event hevent
      rw [mem_restart_events] at hevent
      exact mem_events.mpr (.inr (.inr hevent))
    · intro event hevent
      rw [mem_events] at hevent ⊢
      rcases hevent with hparked | hearly | hpending
      · exact .inl hparked
      · exact .inr (.inl hearly)
      · simp at hpending
  | unparked _ _ _ hnext =>
    constructor
    · intro event hevent
      rw [mem_restart_events] at hevent
      obtain rfl := Option.some.inj hevent
      exact mem_events.mpr (.inl ⟨_, OrderedMap.find?_some_mem hnext⟩)
    · intro _ hevent
      rw [mem_events] at hevent ⊢
      rcases hevent with ⟨key, hparked⟩ | hrest
      · exact .inl ⟨key, ((OrderedMap.mem_erase _ _ _).mp hparked).1⟩
      · exact .inr hrest

/-! ## One step -/

theorem SessionView.Everywhere.advance {predicate : SessionEvent → Prop}
    (hall : view.Everywhere predicate) {task : Task} {observations : List Observation}
    (hstate : ∀ event ∈ state.events, predicate event) (htask : task.AllEvents predicate) :
    ({ view with state := state }.advance w task observations).Everywhere predicate := by
  constructor
  · exact hall.queue
  · apply forall_advance
    · exact htask
    · intro other _
      exact hall.tasks other
  · exact hstate

theorem SessionView.Everywhere.requeue {predicate : SessionEvent → Prop}
    (hall : view.Everywhere predicate)
    {queue : List SessionEvent} {callable : Multiset ℕ} {log : Transcript}
    (hqueue : ∀ event ∈ queue, predicate event) :
    { view with queue := queue, callable := callable, log := log }.Everywhere predicate :=
  ⟨hqueue, hall.tasks, hall.state⟩

/-- What may enter a session from outside. -/
structure Entering (view : SessionView n) (event : SessionEvent) : Prop where
  session : event.sessionId = view.sessionId
  kind : event.isExternal = true ∨ event.kind = .deferredCompletion

theorem SessionView.Everywhere.step {predicate : SessionEvent → Prop}
    (hall : view.Everywhere predicate)
    (hown : view.Everywhere fun event => event.sessionId = view.sessionId)
    (hentering : ∀ event, Entering view event → predicate event)
    (hstep : SessionStep config lossy view after) :
    after.Everywhere predicate := by
  have htasks : ∀ w task, view.tasks w = task → task.AllEvents predicate := by
    intro w _ htask
    rw [← htask]
    exact hall.tasks w
  cases hstep with
  | push event hexternal hsession =>
    apply hall.requeue
    rw [forall_mem_append, forall_mem_singleton]
    exact ⟨hall.queue, hentering event ⟨hsession, .inl hexternal⟩⟩
  | pop _ event _ _ _ hqueue =>
    constructor
    · intro other hother
      exact hall.queue other (by simp [hqueue]; exact .inr hother)
    · apply forall_advance
      · exact forall_mem_singleton.mpr (hall.queue event (by simp [hqueue]))
      · intro other _
        exact hall.tasks other
    · exact hall.state
  | handMove w event stage _ _ htask =>
    exact hall.advance hall.state (htasks w (.hand event stage) htask)
  | tryStart w event _ state htask hstart =>
    obtain ⟨hstates, htry⟩ := tryStartSessionTurn_events hstart
    have hevent := htasks w _ htask event (by simp [Task.events])
    apply hall.advance
    · intro other hother
      rcases mem_cons.mp (hstates hother) with rfl | hold
      · exact hevent
      · exact hall.state other hold
    · intro other hother
      rw [mem_singleton.mp (htry hother)]
      exact hevent
  | discard | lose =>
    exact hall.advance hall.state (by simp [Task.AllEvents, Task.events])
  | failHand w event rejection htask hmark =>
    apply hall.advance
    · intro other hother
      exact hall.state other (markSessionFailed_events hmark hother)
    · exact htasks w (.hand event (.failing rejection)) htask
  | takePending =>
    obtain ⟨htaken, hleft⟩ := takePendingDisconnected_events view.state
    exact hall.advance (fun other hother => hall.state other (hleft hother))
      (fun other hother => hall.state other (htaken hother))
  | turnMove w _ _ _ _ htask hmove =>
    apply hall.advance hall.state
    intro other hother
    have hold := htasks w _ htask
    rcases hmove.inlineCompletion with hnone | hkept
    · rw [Task.events, hnone] at hother
      exact hold other (by rw [mem_singleton.mp hother]; simp [Task.events])
    · rw [Task.events, hkept] at hother
      exact hold other hother
  | failTurn w event failure htask hmark =>
    apply hall.advance
    · intro other hother
      exact hall.state other (markSessionFailed_events hmark hother)
    · exact htasks w (.turn event (.failing failure)) htask
  | invoke w event htask =>
    exact hall.advance hall.state (htasks w (.turn event .skipping) htask)
  | handlerReturn w event context htask | handlerThrow w event context htask =>
    exact hall.advance hall.state (htasks w (.turn event (.handling context)) htask)
  | finishInline w event completion _ htask hkind _ hsession =>
    apply hall.advance hall.state
    intro other hother
    have hevent := hown.tasks w event (by simp [htask, Task.events])
    rcases mem_cons.mp hother with rfl | hinline
    · exact htasks w _ htask other (by simp [Task.events])
    · have hother' : other = completion := by
        simpa [inlineCompletion] using hinline
      rw [hother']
      exact hentering completion ⟨hsession.trans hevent, .inr hkind⟩
  | finishOpen w event context htask =>
    constructor
    · exact hall.queue
    · apply forall_advance
      · exact htasks w (.turn event (.finishing context)) htask
      · intro other _
        exact hall.tasks other
    · exact hall.state
  | markDeferred w _ inlineCompletion _ state htask hdefer =>
    obtain ⟨rfl, rfl⟩ := markSessionDeferred_some hdefer
    apply hall.advance
    · intro other hother
      apply hall.state
      rw [mem_events] at hother ⊢
      rcases hother with hparked | hearly | hpending
      · exact .inl hparked
      · simp at hearly
      · exact .inr (.inr hpending)
    · intro other hother
      rw [mem_restart_events] at hother
      rcases Option.or_eq_some_iff.mp hother with hinline | ⟨_, hearly⟩
      · apply htasks w _ htask
        simp [Task.events, TurnStage.inlineCompletion, hinline]
      · exact hall.state other (SessionSequenceState.mem_events.mpr (.inr (.inl hearly)))
  | endOpen =>
    obtain ⟨hnext, hleft⟩ := endSessionTurn_events view.state
    exact hall.advance (fun other hother => hall.state other (hleft hother))
      (fun other hother => hall.state other (hnext hother))
  | endClosed =>
    exact ⟨hall.queue, by simp [close, Task.AllEvents, Task.events], by simp [close]⟩
  | pushCompletion completion _ hkind hsession =>
    apply hall.requeue
    rw [forall_mem_append, forall_mem_singleton]
    exact ⟨hall.queue, hentering completion ⟨hsession, .inr hkind⟩⟩
  | refuseCompletion | observe => exact hall.requeue hall.queue

theorem SessionStep.sessionId_eq (hstep : SessionStep config lossy view after) :
    after.sessionId = view.sessionId := by
  cases hstep <;> rfl

/-- A session only ever holds its own events. -/
def SessionView.OwnEvents (view : SessionView n) : Prop :=
  view.Everywhere fun event => event.sessionId = view.sessionId

theorem SessionView.OwnEvents.step (hown : view.OwnEvents)
    (hstep : SessionStep config lossy view after) : after.OwnEvents := by
  unfold SessionView.OwnEvents
  rw [hstep.sessionId_eq]
  exact SessionView.Everywhere.step hown hown (fun _ hentering => hentering.session) hstep

end SessionServer.WorkerPool
