import SessionServer.WorkerPoolOutput

/-!
# The pool publishes no empty message

What a context accepts is a command to disconnect or has bytes, and only what a
context has accepted is published, next to the commands of the pool itself.
-/

namespace SessionServer.WorkerPool

variable {n : ℕ} {config : WorkerPoolConfig} {pool after : Pool n}
variable {message : OutboundMessage}

/-- A command, or a message with something to send. -/
def Sendable (message : OutboundMessage) : Prop :=
  message.kind = .disconnectSession ∨ message.bytes ≠ []

/-- What the stage still has to publish. -/
def TurnStage.pending : TurnStage → List OutboundMessage
  | .completing context _ | .handling context | .finishing context => context.messages
  | .publishing messages _ _ => messages
  | _ => []

def Worker.pending : Worker → List OutboundMessage
  | .turn _ _ stage => stage.pending
  | _ => []

structure Pool.Sends (pool : Pool n) : Prop where
  workers : ∀ w, ∀ message ∈ (pool.workers w).pending, Sendable message
  outbox : ∀ message ∈ pool.outbox.items, Sendable message

/-- The pool was started with empty queues and has the message in its outbox. -/
def Produces (config : WorkerPoolConfig) (message : OutboundMessage) : Prop :=
  ∃ (n : ℕ) (inbox : BoundedBlockingQueue SessionEvent)
    (outbox : BoundedBlockingQueue OutboundMessage) (pool : Pool n),
    inbox.items = [] ∧ inbox.closed = false ∧ outbox.items = [] ∧
    TransitionSystem.Reaches (Pool.step config) (fun _ _ => True)
      (Pool.initial n inbox outbox) pool ∧ message ∈ pool.outbox.items

theorem WorkerSessionEventContext.emit_sendable {forced : Bool} {event : SessionEvent}
    {context : WorkerSessionEventContext} (hmessages : ∀ held ∈ context.messages, Sendable held) :
    ∀ held ∈ (context.emit config forced event message).2.messages, Sendable held := by
  have hadded (hsendable : Sendable message) :
      ∀ held ∈ context.messages ++ [message], Sendable held := by
    rw [List.forall_mem_append, List.forall_mem_singleton]
    exact ⟨hmessages, hsendable⟩
  cases hemit : context.emit config forced event message with
  | mk =>
    cases emission hemit with
    | refused => exact hmessages
    | disconnect _ _ howner => exact hadded (.inl howner.1)
    | bytes _ _ _ hbytes => exact hadded (.inr hbytes)

section Step

variable {w : Fin n} {event : SessionEvent} {ref : StateRef} {worker : Worker}

theorem Pool.Sends.update (hsends : pool.Sends)
    (hworkers : after.workers = Function.update pool.workers w worker)
    (hworker : ∀ message ∈ worker.pending, Sendable message)
    (houtbox : ∀ message ∈ after.outbox.items, message ∈ pool.outbox.items ∨ Sendable message) :
    after.Sends where
  workers := by
    intro v
    rw [hworkers]
    by_cases hv : v = w
    · subst hv
      rw [Function.update_self]
      exact hworker
    · rw [Function.update_of_ne hv]
      exact hsends.workers v
  outbox := by
    intro message hmessage
    rcases houtbox message hmessage with hold | hnew
    · exact hsends.outbox message hold
    · exact hnew

theorem pending_none {worker : Worker} (hnone : worker.pending = []) :
    ∀ message ∈ worker.pending, Sendable message := by
  rw [hnone]
  exact nofun

theorem completionStage_pending (event : SessionEvent) : (completionStage event).pending = [] := by
  unfold completionStage
  split
  · rfl
  · split <;> rfl

theorem tryTask_pending (event : SessionEvent) (disposition : SessionTurnDisposition)
    (ref : StateRef) : ((tryTask event disposition).worker ref).pending = [] := by
  cases disposition with
  | process =>
    by_cases hkind : event.kind = .deferredCompletion
    · simp only [tryTask, if_pos hkind]
      exact completionStage_pending event
    · simp only [tryTask, if_neg hkind]
      rfl
  | _ => rfl

theorem Pool.Publication.sends {next : Bool → Worker} {effect : Effect n}
    (hmessage : Sendable message) (hpublish : pool.Publication ref event message next effect) :
    ∀ held ∈ effect.outbox.items, held ∈ pool.outbox.items ∨ Sendable held := by
  intro _ hheld
  cases hpublish with
  | sent =>
    rcases List.mem_append.mp hheld with hold | hnew
    · exact .inl hold
    · rw [List.mem_singleton.mp hnew]
      exact .inr hmessage
  | refused => exact .inl hheld

theorem Pool.Section.sends {action : Action n} {effect : Effect n}
    (hheld : ∀ message ∈ worker.pending, Sendable message)
    (hsection : pool.Section config w ref action worker effect) :
    (∀ message ∈ effect.worker.pending, Sendable message) ∧
      ∀ message ∈ effect.outbox.items, message ∈ pool.outbox.items ∨ Sendable message := by
  have hemits {context next : WorkerSessionEventContext} {event : SessionEvent}
      {outcome : EmitOutcome} {message : OutboundMessage}
      (hmessages : ∀ held ∈ context.messages, Sendable held)
      (hemit : context.emit config pool.forceStopRequested event message = (outcome, next)) :
      ∀ held ∈ next.messages, Sendable held := by
    have hemitted : ∀ held ∈
        (context.emit config pool.forceStopRequested event message).2.messages,
        Sendable held := WorkerSessionEventContext.emit_sendable hmessages
    rw [hemit] at hemitted
    exact hemitted
  cases hsection with
  | tryStart event disposition =>
    exact ⟨pending_none (tryTask_pending event disposition ref), fun _ => .inl⟩
  | disconnectHand _ _ hpublish | disconnectTurn _ _ hpublish =>
    obtain ⟨⟨published, hnext⟩, _⟩ := hpublish.publishes
    exact ⟨pending_none (by rw [hnext]; rfl), hpublish.sends (.inl rfl)⟩
  | takePending =>
    refine ⟨pending_none ?_, fun _ => .inl⟩
    cases (takePendingDisconnected (pool.states ref)).1 <;> rfl
  | emitCompletion _ _ _ _ _ hemit | stopCompletion _ _ _ _ _ _ _ hemit
  | emit _ _ _ _ _ _ hemit =>
    exact ⟨hemits hheld hemit, fun _ => .inl⟩
  | completionEmitted | finish | handlerReturn => exact ⟨hheld, fun _ => .inl⟩
  | publish _ message _ _ _ _ hpublish =>
    obtain ⟨⟨published, hnext⟩, _⟩ := hpublish.publishes
    refine ⟨?_, hpublish.sends (hheld message List.mem_cons_self)⟩
    rw [hnext]
    intro held hrest
    cases published with
    | true => exact hheld held (List.mem_cons_of_mem _ hrest)
    | false => cases hrest
  | _ => exact ⟨pending_none rfl, fun _ => .inl⟩

end Step

theorem Pool.Sends.stay (hsends : pool.Sends) (hworkers : after.workers = pool.workers)
    (houtbox : after.outbox.items ⊆ pool.outbox.items) : after.Sends where
  workers := by
    rw [hworkers]
    exact hsends.workers
  outbox := fun message hmessage => hsends.outbox message (houtbox hmessage)

theorem Pool.Sends.step {action : Action n} (hsends : pool.Sends)
    (hstep : pool.step config action = some after) : after.Sends := by
  have hmove {w : Fin n} {worker : Worker}
      (hworkers : after.workers = Function.update pool.workers w worker)
      (hpending : worker.pending ⊆ (pool.workers w).pending)
      (houtbox : after.outbox = pool.outbox) : after.Sends := by
    apply hsends.update hworkers
    · intro message hmessage
      exact hsends.workers w message (hpending hmessage)
    · intro message hmessage
      rw [houtbox] at hmessage
      exact .inl hmessage
  have hnone {w : Fin n} : [] ⊆ (pool.workers w).pending := List.nil_subset _
  cases Pool.outcome hstep with
  | push _ _ _ hafter | complete _ _ _ _ _ hafter | completeInline _ _ _ _ _ hafter
  | answer _ _ _ _ hafter | pushCompletion _ _ _ _ _ hafter | refuseCompletion _ _ _ _ _ hafter =>
    subst hafter
    exact hsends.stay rfl (List.Subset.refl _)
  | lookup w event _ _ _ hafter =>
    have hfound := Pool.lookupOrCreate_outbox { pool with intake := none } event.sessionId
    have hworkers := Pool.lookupOrCreate_workers { pool with intake := none } event.sessionId
    subst hafter
    exact hmove (congrArg (Function.update · w _) hworkers) hnone hfound.1
  | exit _ _ _ _ hafter | crash _ _ _ _ _ _ hafter =>
    subst hafter
    exact hmove rfl hnone rfl
  | move w _ _ _ hsection hafter =>
    obtain ⟨hworker, houtbox⟩ := hsection.sends (hsends.workers w)
    subst hafter
    exact hsends.update rfl hworker houtbox
  | finish _ _ _ context _ hworker _ hafter | defer _ _ _ context hworker hafter =>
    subst hafter
    apply hmove rfl _ rfl
    rw [hworker]
    exact List.Subset.refl context.messages
  | markDeferred _ _ _ inlineCompletion earlyCompletion _ _ _ hafter =>
    subst hafter
    apply hmove rfl _ rfl
    cases inlineCompletion.or earlyCompletion <;> exact hnone
  | ending w event ref _ hafter =>
    have hended := pool.turnEnded_completeSessionTurn w event ref
    subst hafter
    apply hmove (congrArg (Function.update · w _) hended.workers) _
      (pool.completeSessionTurn_outbox event ref)
    cases (pool.completeSessionTurn w event ref).1 <;> exact hnone
  | outside _ houtside =>
    apply hsends.stay houtside.unmoved.workers
    cases houtside with
    | popOutbound message rest hitems =>
      rw [hitems]
      exact List.subset_cons_self message rest
    | beginStop =>
      unfold Pool.beginStop
      rw [Pool.maybeCloseInboxForDrainLocked_eq]
      exact List.Subset.refl _
    | _ => exact List.Subset.refl _

theorem Produces.sendable (hproduces : Produces config message) : Sendable message := by
  obtain ⟨n, _, outbox, pool, _, _, hempty, hreach, hmessage⟩ := hproduces
  have hsends : pool.Sends := by
    apply hreach.invariant
    · constructor
      · intro w
        exact nofun
      · change ∀ message ∈ outbox.items, _
        rw [hempty]
        exact nofun
    · intro _ _ _ hbefore _ hstep
      exact hbefore.step hstep
  exact hsends.outbox message hmessage

end SessionServer.WorkerPool
