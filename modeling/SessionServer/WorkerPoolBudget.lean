import SessionServer.WorkerPoolModel

/-!
# The output budget of an event

What a handler emits for one event is bounded in messages and in bytes.  The
control message that ends the session is outside the budget, is accepted once
and comes last.
-/

namespace SessionServer.WorkerPool

open List

variable {config : WorkerPoolConfig} {forced : Bool} {event : SessionEvent}
  {context next : WorkerSessionEventContext} {message : OutboundMessage} {outcome : EmitOutcome}

/-- The empty control message of the session of the event. -/
def DisconnectsOwner (event : SessionEvent) (message : OutboundMessage) : Prop :=
  message.kind = .disconnectSession ∧ message.sessionId = event.sessionId ∧ message.bytes = []

namespace WorkerSessionEventContext

/-- Everything an emit can do. -/
inductive Emission (config : WorkerPoolConfig) (forced : Bool) (event : SessionEvent)
    (context : WorkerSessionEventContext) (message : OutboundMessage) :
    EmitOutcome → WorkerSessionEventContext → Prop
  | refused (outcome : EmitOutcome) (houtcome : outcome ≠ .accepted)
      (hreason : forced = true ∨ context.disconnectRequested = true ∨
        ¬ DisconnectsOwner event message) :
      Emission config forced event context message outcome context
  | disconnect (hforced : forced = false) (hopen : context.disconnectRequested = false)
      (howner : DisconnectsOwner event message) :
      Emission config forced event context message .accepted { context with
        messages := context.messages ++ [message]
        disconnectRequested := true }
  | bytes (hforced : forced = false) (hopen : context.disconnectRequested = false)
      (hkind : message.kind ≠ .disconnectSession) (hbytes : message.bytes ≠ [])
      (hcount : context.emittedMessages < config.maxOutboundMessagesPerEvent)
      (hfits : message.bytes.length ≤ config.maxOutboundBytesPerEvent - context.emittedBytes) :
      Emission config forced event context message .accepted { context with
        messages := context.messages ++ [message]
        emittedMessages := context.emittedMessages + 1
        emittedBytes := context.emittedBytes + message.bytes.length }

theorem emission (hemit : context.emit config forced event message = (outcome, next)) :
    Emission config forced event context message outcome next := by
  unfold emit at hemit
  dsimp only at hemit
  split at hemit
  · next hforced =>
    cases hemit
    exact .refused _ nofun (.inl hforced)
  next hforced =>
  rw [Bool.not_eq_true] at hforced
  split at hemit
  · next hrequested =>
    cases hemit
    exact .refused _ nofun (.inr (.inl hrequested))
  next hopen =>
  rw [Bool.not_eq_true] at hopen
  split at hemit
  · next hkind =>
    split at hemit
    · next hother =>
      cases hemit
      refine .refused _ nofun (.inr (.inr ?_))
      rintro ⟨_, howner, hempty⟩
      simp [howner, hempty] at hother
    · next howner =>
      cases hemit
      simp only [not_or, not_not, length_eq_zero_iff] at howner
      exact .disconnect hforced hopen ⟨hkind, howner⟩
  next hkind =>
  split at hemit
  · cases hemit
    exact .refused _ nofun (.inr (.inr fun howner => hkind howner.1))
  · next hbudget =>
    cases hemit
    simp only [not_or, length_eq_zero_iff, not_le, not_lt] at hbudget
    exact .bytes hforced hopen hkind hbudget.1 hbudget.2.1 hbudget.2.2

theorem emit_accepted (hemit : context.emit config forced event message = (.accepted, next)) :
    next.messages = context.messages ++ [message] ∧ forced = false := by
  cases emission hemit with
  | refused _ houtcome => exact absurd rfl houtcome
  | disconnect hforced | bytes hforced => exact ⟨rfl, hforced⟩

theorem emit_refused (hemit : context.emit config forced event message = (outcome, next))
    (hrefused : outcome ≠ .accepted) : next = context := by
  cases emission hemit with
  | refused => rfl
  | disconnect | bytes => exact absurd rfl hrefused

theorem emit_deferral (context : WorkerSessionEventContext) (config : WorkerPoolConfig)
    (forced : Bool) (event : SessionEvent) (message : OutboundMessage) :
    (context.emit config forced event message).2.deferral = context.deferral := by
  cases hemit : context.emit config forced event message with
  | mk => cases emission hemit <;> rfl

end WorkerSessionEventContext

/-! ## Sequences of emits -/

/-- A context with the messages that were emitted and what `emit` returned. -/
structure Emits where
  context : WorkerSessionEventContext := {}
  answers : List (OutboundMessage × EmitOutcome) := []

namespace Emits

def emit (config : WorkerPoolConfig) (event : SessionEvent) (emits : Emits)
    (message : OutboundMessage) : Emits :=
  let (outcome, context) := emits.context.emit config false event message
  { context, answers := emits.answers ++ [(message, outcome)] }

/-- `release`. -/
def released (emits : Emits) : List OutboundMessage :=
  emits.context.messages

/-- Bytes of these messages are within the budget; at most the control message
follows them. -/
structure Budget (config : WorkerPoolConfig) (event : SessionEvent) (emits : Emits)
    (sent : List OutboundMessage) : Prop where
  bytes : ∀ message ∈ sent, message.kind ≠ .disconnectSession ∧ message.bytes ≠ []
  count_eq : emits.context.emittedMessages = sent.length
  bytes_eq : emits.context.emittedBytes = (sent.map fun message => message.bytes.length).sum
  count_le : emits.context.emittedMessages ≤ config.maxOutboundMessagesPerEvent
  bytes_le : emits.context.emittedBytes ≤ config.maxOutboundBytesPerEvent
  control : (emits.context.disconnectRequested = false ∧ emits.released = sent ∧
      ∀ answer ∈ emits.answers, ¬ DisconnectsOwner event answer.1) ∨
    (emits.context.disconnectRequested = true ∧
      ∃ last, DisconnectsOwner event last ∧ emits.released = sent ++ [last])
  accepted : emits.released = (emits.answers.filter fun answer => answer.2 = .accepted).map Prod.fst

variable {emits : Emits} {sent : List OutboundMessage}

theorem Budget.emit (hbudget : emits.Budget config event sent) (message : OutboundMessage) :
    ∃ sent, (emits.emit config event message).Budget config event sent := by
  obtain ⟨hbytes, hcount, hsum, hcountLe, hsumLe, hcontrol, haccepted⟩ := hbudget
  cases hemit : emits.context.emit config false event message with
  | mk outcome next =>
  have hafter : emits.emit config event message =
      ⟨next, emits.answers ++ [(message, outcome)]⟩ := by
    simp only [Emits.emit, hemit]
  rw [hafter]
  cases WorkerSessionEventContext.emission hemit with
  | refused outcome houtcome hreason =>
    refine ⟨sent, hbytes, hcount, hsum, hcountLe, hsumLe, ?_, ?_⟩
    · rcases hcontrol with ⟨hopen, hreleased, hnone⟩ | hclosed
      · left
        refine ⟨hopen, hreleased, ?_⟩
        intro answer hanswer
        rcases mem_append.mp hanswer with hold | hnew
        · exact hnone answer hold
        · rw [mem_singleton.mp hnew]
          simpa [hopen] using hreason
      · exact .inr hclosed
    · rw [filter_append, filter_singleton, decide_eq_false houtcome]
      simpa [released] using haccepted
  | disconnect _ hopen howner =>
    have hreleased : emits.context.messages = sent := by
      rcases hcontrol with hcontrol | hcontrol
      · exact hcontrol.2.1
      · simp [hopen] at hcontrol
    refine ⟨sent, hbytes, hcount, hsum, hcountLe, hsumLe, .inr ⟨rfl, message, howner, ?_⟩, ?_⟩
    · simp only [released, hreleased]
    · simp only [released] at haccepted ⊢
      simp [haccepted]
  | bytes _ hopen hkind hne hroom hfits =>
    obtain ⟨hreleased, hnone⟩ : emits.context.messages = sent ∧
        ∀ answer ∈ emits.answers, ¬ DisconnectsOwner event answer.1 := by
      rcases hcontrol with hcontrol | hcontrol
      · exact hcontrol.2
      · simp [hopen] at hcontrol
    refine ⟨sent ++ [message], ?_, ?_, ?_, hroom, ?_, .inl ⟨hopen, ?_, ?_⟩, ?_⟩
    · rw [forall_mem_append, forall_mem_singleton]
      exact ⟨hbytes, ⟨hkind, hne⟩⟩
    · simp [hcount]
    · simp [hsum]
    · dsimp only
      omega
    · simp only [released, hreleased]
    · rw [forall_mem_append, forall_mem_singleton]
      exact ⟨hnone, fun howner => hkind howner.1⟩
    · simp only [released] at haccepted ⊢
      simp [haccepted]

theorem Budget.run (hbudget : emits.Budget config event sent) (messages : List OutboundMessage) :
    ∃ sent, (messages.foldl (Emits.emit config event) emits).Budget config event sent := by
  induction messages generalizing emits sent with
  | nil => exact ⟨sent, hbudget⟩
  | cons message _ ih =>
    obtain ⟨_, hafter⟩ := hbudget.emit message
    exact ih hafter

theorem answers_emits (config : WorkerPoolConfig) (event : SessionEvent) (emits : Emits)
    (messages : List OutboundMessage) :
    (messages.foldl (Emits.emit config event) emits).answers.map Prod.fst =
      emits.answers.map Prod.fst ++ messages := by
  induction messages generalizing emits with
  | nil => simp
  | cons _ _ ih =>
    rw [foldl_cons, ih]
    simp [Emits.emit]

/-- An emit after any others: what has been released is within the budget,
and the control message is accepted exactly once, whatever the budget. -/
theorem emit_budget (config : WorkerPoolConfig) (event : SessionEvent)
    (messages : List OutboundMessage) :
    let emits := messages.foldl (Emits.emit config event) {}
    (∃ sent, (∀ message ∈ sent, message.kind ≠ .disconnectSession ∧ message.bytes ≠ []) ∧
      sent.length ≤ config.maxOutboundMessagesPerEvent ∧
      (sent.map fun message => message.bytes.length).sum ≤ config.maxOutboundBytesPerEvent ∧
      (emits.released = sent ∨
        ∃ last, DisconnectsOwner event last ∧ emits.released = sent ++ [last])) ∧
    emits.answers.map Prod.fst = messages ∧
    emits.released = (emits.answers.filter fun answer => answer.2 = .accepted).map Prod.fst ∧
    emits.context.emittedBytes ≤ config.maxOutboundBytesPerEvent ∧
    ∀ message,
      ((∀ earlier ∈ messages, ¬ DisconnectsOwner event earlier) →
        DisconnectsOwner event message →
        (emits.context.emit config false event message).1 = .accepted) ∧
      ((∃ earlier ∈ messages, DisconnectsOwner event earlier) →
        (emits.context.emit config false event message).1 ≠ .accepted) := by
  intro emits
  have hfresh : Budget config event {} [] :=
    ⟨by simp, rfl, rfl, Nat.zero_le _, Nat.zero_le _, .inl ⟨rfl, rfl, by simp⟩, rfl⟩
  obtain ⟨sent, hbytes, _, _, _, hsumLe, hcontrol, haccepted⟩ :=
    hfresh.run messages
  have hanswers : emits.answers.map Prod.fst = messages := by
    simpa using answers_emits config event {} messages
  have hmem : ∀ answer ∈ emits.answers, answer.1 ∈ messages := by
    intro answer hanswer
    rw [← hanswers]
    exact mem_map_of_mem hanswer
  refine ⟨⟨sent, hbytes, by omega, by omega, ?_⟩, hanswers, haccepted, hsumLe, ?_⟩
  · rcases hcontrol with hcontrol | hcontrol
    · exact .inl hcontrol.2.1
    · exact .inr hcontrol.2
  intro message
  constructor
  · intro hfirst howner
    have hopen : emits.context.disconnectRequested = false := by
      rcases hcontrol with hcontrol | ⟨_, last, hlast, hreleased⟩
      · exact hcontrol.1
      · -- the control message was released, so it was emitted before
        have hin : last ∈ emits.released := by
          rw [hreleased]
          simp
        rw [haccepted] at hin
        obtain ⟨answer, hanswer, rfl⟩ := mem_map.mp hin
        exact absurd hlast (hfirst _ (hmem answer (mem_of_mem_filter hanswer)))
    cases hemit : emits.context.emit config false event message with
    | mk =>
      cases WorkerSessionEventContext.emission hemit with
      | refused _ _ hreason => simp [hopen, howner] at hreason
      | disconnect | bytes => rfl
  · rintro ⟨_, hearlier, howner⟩
    have hclosed : emits.context.disconnectRequested = true := by
      rcases hcontrol with ⟨_, _, hnone⟩ | hcontrol
      · rw [← hanswers] at hearlier
        obtain ⟨answer, hanswer, rfl⟩ := mem_map.mp hearlier
        exact absurd howner (hnone answer hanswer)
      · exact hcontrol.1
    simp [WorkerSessionEventContext.emit, hclosed]

end Emits

end SessionServer.WorkerPool
