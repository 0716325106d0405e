import SessionServer.SessionTurnPhase
import SessionServer.WorkerPoolBudget

/-!
# The output of one turn

What a turn emits and what it publishes, in order.  A handler that throws
publishes nothing; one that returns publishes what its context accepted; a
deferred turn goes on with what the context of its completion accepts.

`StageMove` says what a section of a worker does to the output of the turn it
runs, and `Progress` how much of the output there is at each stage.
-/

namespace SessionServer.WorkerPool

open WorkerSessionEventContext List

inductive OutputEntry
  | invoked (event : SessionEvent)
  | emitted (event : SessionEvent) (message : OutboundMessage)
  | returned (event : SessionEvent) (outcome : HandlerOutcome)
  | processed (completion : SessionEvent)
  | published (event : SessionEvent) (message : OutboundMessage)
  /-- The command that follows a failure of the session. -/
  | commanded (event : SessionEvent) (message : OutboundMessage)
  | ended (event : SessionEvent)
  deriving DecidableEq, Repr

def OutputEntry.sessionId : OutputEntry → SessionId
  | .invoked event => event.sessionId
  | .emitted event _ => event.sessionId
  | .returned event _ => event.sessionId
  | .processed completion => completion.sessionId
  | .published event _ => event.sessionId
  | .commanded event _ => event.sessionId
  | .ended event => event.sessionId

def OutputEntry.isCommand : OutputEntry → Bool
  | .commanded _ _ => true
  | _ => false

/-- The message that went to the outbox. -/
def OutputEntry.message? : OutputEntry → Option OutboundMessage
  | .published _ message => some message
  | .commanded _ message => some message
  | _ => none

/-- The messages of a completion that its context accepts: emitting stops at
the first one it does not. -/
def acceptedMessages (config : WorkerPoolConfig) (completion : SessionEvent) :
    WorkerSessionEventContext → List OutboundMessage → List OutboundMessage
  | _, [] => []
  | context, message :: rest =>
    if (context.emit config false completion message).1 = .accepted then
      message :: acceptedMessages config completion
        (context.emit config false completion message).2 rest
    else []

/-- The part of the completion's messages that was accepted.  A forced stop
may cut it short. -/
structure AcceptedPart (config : WorkerPoolConfig) (forced : Bool)
    (completion : SessionEvent) (messages accepted : List OutboundMessage) : Prop where
  isPrefix : accepted <+: messages
  whole : forced = false → accepted = acceptedMessages config completion {} messages

/-- A handler call: what it emitted and how it ended. -/
def callEntries (event : SessionEvent) (messages : List OutboundMessage)
    (outcome : HandlerOutcome) : List OutputEntry :=
  .invoked event :: messages.map (OutputEntry.emitted event) ++ [.returned event outcome]

def publishEntries (event : SessionEvent) (messages : List OutboundMessage) :
    List OutputEntry :=
  messages.map (OutputEntry.published event)

/-- A turn up to the point where it waits for its completion. -/
def deferredEntries (event : SessionEvent) (messages : List OutboundMessage) :
    List OutputEntry :=
  callEntries event messages .deferred ++ publishEntries event messages

/-- The completion and what it emitted. -/
def completionEntries (completion : SessionEvent) (accepted : List OutboundMessage) :
    List OutputEntry :=
  .processed completion :: accepted.map (OutputEntry.emitted completion)

/-- The output of a whole turn. -/
inductive TurnOutput (config : WorkerPoolConfig) (forced : Bool) :
    List OutputEntry → Prop
  | skipped (event : SessionEvent) : TurnOutput config forced [.ended event]
  | threw (event : SessionEvent) (messages : List OutboundMessage) :
      TurnOutput config forced (callEntries event messages .threw ++ [.ended event])
  | plain (event : SessionEvent) (messages : List OutboundMessage) :
      TurnOutput config forced (callEntries event messages .plain ++
        publishEntries event messages ++ [.ended event])
  | completed (event completion : SessionEvent)
      (messages accepted : List OutboundMessage) (payload : DeferredCompletionPayload)
      (hcompletes : Completes completion event)
      (hpayload : completion.completion = some payload)
      (hsucceeded : payload.failed = false)
      (haccepted : AcceptedPart config forced completion payload.messages accepted) :
      TurnOutput config forced (deferredEntries event messages ++
        completionEntries completion accepted ++ publishEntries completion accepted ++
          [.ended completion])
  | completionFailed (event completion : SessionEvent) (messages : List OutboundMessage)
      (hcompletes : Completes completion event)
      (hfailed : ∀ payload, completion.completion = some payload → payload.failed = true) :
      TurnOutput config forced (deferredEntries event messages ++
        [.processed completion, .ended completion])

variable {config : WorkerPoolConfig} {forced : Bool} {event : SessionEvent}
variable {later : Bool} {messages rest : List OutboundMessage}
    {entries current : List OutputEntry} {context next : WorkerSessionEventContext}
    {message : OutboundMessage} {stage : TurnStage}

theorem AcceptedPart.mono (hlater : later = false → forced = false)
    {accepted : List OutboundMessage}
    (haccepted : AcceptedPart config forced event messages accepted) :
    AcceptedPart config later event messages accepted :=
  ⟨haccepted.isPrefix, fun hfalse => haccepted.whole (hlater hfalse)⟩

theorem TurnOutput.mono (hlater : later = false → forced = false)
    (houtput : TurnOutput config forced entries) :
    TurnOutput config later entries := by
  cases houtput with
  | completed event completion messages accepted payload hcompletes hpayload hsucceeded haccepted =>
    exact .completed event completion messages accepted payload hcompletes hpayload
      hsucceeded (haccepted.mono hlater)
  | skipped | threw | plain | completionFailed => constructor <;> assumption

/-! ## What a section of a worker adds to the output of its turn -/

def returnOutcome (deferred : Bool) : HandlerOutcome :=
  if deferred then .deferred else .plain

inductive StageMove (config : WorkerPoolConfig) (forced : Bool) (event : SessionEvent) :
    TurnStage → TurnStage → List OutputEntry → Prop
  | emitCompletion (context next : WorkerSessionEventContext) (message : OutboundMessage)
      (rest : List OutboundMessage)
      (hemit : context.emit config forced event message = (.accepted, next)) :
      StageMove config forced event (.completing context (message :: rest))
        (.completing next rest) [.emitted event message]
  | stopCompletion (context : WorkerSessionEventContext) (message : OutboundMessage)
      (rest : List OutboundMessage)
      (hrefused : (context.emit config forced event message).1 ≠ .accepted) :
      StageMove config forced event (.completing context (message :: rest))
        (.completing context []) []
  | completionEmitted (context : WorkerSessionEventContext) :
      StageMove config forced event (.completing context [])
        (.publishing context.messages false none) []
  | failed (failure : TurnFailure) (next : TurnStage)
      (hnext : next = .disconnecting ∨ next = .ending) :
      StageMove config forced event (.failing failure) next []
  | disconnected : StageMove config forced event .disconnecting .ending []
  | skip : StageMove config forced event .skipping .ending []
  | invoke : StageMove config forced event .skipping (.handling {}) [.invoked event]
  | emit (context next : WorkerSessionEventContext) (message : OutboundMessage)
      (hemit : context.emit config forced event message = (.accepted, next)) :
      StageMove config forced event (.handling context) (.handling next) [.emitted event message]
  | handle (context next : WorkerSessionEventContext)
      (hmessages : next.messages = context.messages) :
      StageMove config forced event (.handling context) (.handling next) []
  | handlerReturn (context : WorkerSessionEventContext) :
      StageMove config forced event (.handling context) (.finishing context)
        [.returned event (returnOutcome context.deferred)]
  | handlerThrow (context : WorkerSessionEventContext) :
      StageMove config forced event (.handling context) (.failing .handlerException)
        [.returned event .threw]
  | finish (context : WorkerSessionEventContext) (inlineCompletion : Option SessionEvent) :
      StageMove config forced event (.finishing context)
        (.publishing context.messages context.deferred inlineCompletion) []
  | publish (message : OutboundMessage) (rest : List OutboundMessage) (deferred : Bool)
      (inlineCompletion : Option SessionEvent) :
      StageMove config forced event (.publishing (message :: rest) deferred inlineCompletion)
        (.publishing rest deferred inlineCompletion) [.published event message]
  | published (inlineCompletion : Option SessionEvent) :
      StageMove config forced event (.publishing [] false inlineCompletion) .ending []
  | defer (inlineCompletion : Option SessionEvent) :
      StageMove config forced event (.publishing [] true inlineCompletion)
        (.deferring inlineCompletion) []

/-! ## How far the output has come at each stage -/

/-- The completion's messages up to here, and those the context still takes. -/
structure Completing (config : WorkerPoolConfig) (forced : Bool) (completion : SessionEvent)
    (messages : List OutboundMessage) (context : WorkerSessionEventContext)
    (rest : List OutboundMessage) : Prop where
  isPrefix : context.messages ++ rest <+: messages
  whole : forced = false →
    context.messages ++ acceptedMessages config completion context rest =
      acceptedMessages config completion {} messages

inductive Progress (config : WorkerPoolConfig) (forced : Bool) (event : SessionEvent) :
    TurnStage → List OutputEntry → Prop
  | skipping : Progress config forced event .skipping []
  | handling (context : WorkerSessionEventContext) :
      Progress config forced event (.handling context)
        (.invoked event :: context.messages.map (OutputEntry.emitted event))
  | finishing (context : WorkerSessionEventContext) :
      Progress config forced event (.finishing context)
        (callEntries event context.messages (returnOutcome context.deferred))
  | publishing (published rest : List OutboundMessage) (deferred : Bool)
      (inlineCompletion : Option SessionEvent) :
      Progress config forced event (.publishing rest deferred inlineCompletion)
        (callEntries event (published ++ rest) (returnOutcome deferred) ++
          publishEntries event published)
  | deferring (messages : List OutboundMessage) (inlineCompletion : Option SessionEvent) :
      Progress config forced event (.deferring inlineCompletion) (deferredEntries event messages)
  | completing (first : SessionEvent) (messages : List OutboundMessage)
      (payload : DeferredCompletionPayload) (context : WorkerSessionEventContext)
      (rest : List OutboundMessage) (hcompletes : Completes event first)
      (hpayload : event.completion = some payload) (hsucceeded : payload.failed = false)
      (hcompleting : Completing config forced event payload.messages context rest) :
      Progress config forced event (.completing context rest)
        (deferredEntries first messages ++ completionEntries event context.messages)
  | answering (first : SessionEvent) (messages : List OutboundMessage)
      (payload : DeferredCompletionPayload) (published rest : List OutboundMessage)
      (hcompletes : Completes event first) (hpayload : event.completion = some payload)
      (hsucceeded : payload.failed = false)
      (haccepted : AcceptedPart config forced event payload.messages (published ++ rest)) :
      Progress config forced event (.publishing rest false none)
        (deferredEntries first messages ++ completionEntries event (published ++ rest) ++
          publishEntries event published)
  | concluded (stage : TurnStage) (entries : List OutputEntry)
      (hstage : stage = .ending ∨ stage = .disconnecting ∨ ∃ failure, stage = .failing failure)
      (houtput : TurnOutput config forced (entries ++ [.ended event])) :
      Progress config forced event stage entries

/-- What the output has come to while no worker is in the turn: nothing, or a
turn that waits for its completion. -/
inductive Waiting (state : SessionSequenceState) : List OutputEntry → Prop
  | idle (hidle : state.awaitingCompletion = false) : Waiting state []
  | deferred (event : SessionEvent) (messages : List OutboundMessage)
      (hawaiting : state.awaitingCompletion = true)
      (hsequence : event.sequence = state.nextSequence) :
      Waiting state (deferredEntries event messages)

theorem Completing.mono (hlater : later = false → forced = false)
    (hcompleting : Completing config forced event messages context rest) :
    Completing config later event messages context rest :=
  ⟨hcompleting.isPrefix, fun hfalse => hcompleting.whole (hlater hfalse)⟩

/-- A forced stop only loosens what is known of the output. -/
theorem Progress.mono (hlater : later = false → forced = false)
    (hprogress : Progress config forced event stage entries) :
    Progress config later event stage entries := by
  cases hprogress with
  | completing first messages payload context rest hcompletes hpayload hsucceeded hcompleting =>
    exact .completing first messages payload context rest hcompletes hpayload hsucceeded
      (hcompleting.mono hlater)
  | answering first messages payload published rest hcompletes hpayload hsucceeded haccepted =>
    exact .answering first messages payload published rest hcompletes hpayload hsucceeded
      (haccepted.mono hlater)
  | concluded stage entries hstage houtput =>
    exact .concluded stage entries hstage (houtput.mono hlater)
  | skipping | handling | finishing | publishing | deferring => constructor

theorem Completing.start (config : WorkerPoolConfig) (forced : Bool)
    (completion : SessionEvent) (messages : List OutboundMessage) :
    Completing config forced completion messages {} messages :=
  ⟨prefix_refl messages, fun _ => rfl⟩

theorem Completing.emit
    (hcompleting : Completing config forced event messages context (message :: rest))
    (hemit : context.emit config forced event message = (.accepted, next)) :
    Completing config forced event messages next rest := by
  obtain ⟨hmessages, hforced⟩ := emit_accepted hemit
  constructor
  · rw [hmessages, append_assoc]
    exact hcompleting.isPrefix
  · intro hfalse
    have hwhole := hcompleting.whole hfalse
    rw [hforced] at hemit
    rw [acceptedMessages, hemit, if_pos rfl] at hwhole
    rw [hmessages, append_assoc]
    exact hwhole

theorem Completing.stop
    (hcompleting : Completing config forced event messages context (message :: rest))
    (hrefused : (context.emit config forced event message).1 ≠ .accepted) :
    Completing config forced event messages context [] := by
  constructor
  · rw [append_nil]
    exact (prefix_append _ _).trans hcompleting.isPrefix
  · intro hfalse
    have hwhole := hcompleting.whole hfalse
    rw [hfalse] at hrefused
    rw [acceptedMessages, if_neg hrefused] at hwhole
    exact hwhole

theorem Completing.done (hcompleting : Completing config forced event messages context []) :
    AcceptedPart config forced event messages context.messages := by
  constructor
  · have hprefix := hcompleting.isPrefix
    rwa [append_nil] at hprefix
  · intro hfalse
    have hwhole := hcompleting.whole hfalse
    rwa [acceptedMessages, append_nil] at hwhole

theorem publishEntries_append (event : SessionEvent) (published : List OutboundMessage)
    (message : OutboundMessage) :
    publishEntries event published ++ [.published event message] =
      publishEntries event (published ++ [message]) := by
  simp [publishEntries]

/-- A section of the worker keeps the output in step with the stage. -/
theorem StageMove.progress {next : TurnStage}
    (hmove : StageMove config forced event stage next entries)
    (hprogress : Progress config forced event stage current) :
    Progress config forced event next (current ++ entries) := by
  cases hprogress with
  | skipping =>
    cases hmove with
    | skip => exact .concluded _ _ (.inl rfl) (.skipped event)
    | invoke => exact .handling {}
  | handling context =>
    cases hmove with
    | emit _ next message hemit =>
      have hcurrent : .invoked event ::
          context.messages.map (OutputEntry.emitted event) ++ [.emitted event message] =
            .invoked event :: next.messages.map (OutputEntry.emitted event) := by
        simp [(emit_accepted hemit).1]
      rw [hcurrent]
      exact .handling next
    | handle _ next hmessages =>
      rw [append_nil, ← hmessages]
      exact .handling next
    | handlerReturn => exact .finishing context
    | handlerThrow =>
      exact .concluded _ _ (.inr (.inr ⟨_, rfl⟩)) (.threw event context.messages)
  | finishing context =>
    cases hmove with
    | finish _ inlineCompletion =>
      exact .publishing [] context.messages context.deferred inlineCompletion
  | publishing published rest deferred inlineCompletion =>
    cases hmove with
    | publish message rest =>
      rw [append_assoc, publishEntries_append, append_cons published]
      exact .publishing (published ++ [message]) rest deferred inlineCompletion
    | published =>
      rw [append_nil, append_nil]
      exact .concluded _ _ (.inl rfl) (.plain event published)
    | defer =>
      rw [append_nil, append_nil]
      exact .deferring published inlineCompletion
  | deferring => cases hmove
  | completing first messages payload context rest hcompletes hpayload hsucceeded hcompleting =>
    cases hmove with
    | emitCompletion _ next message rest hemit =>
      have hcurrent : deferredEntries first messages ++
          completionEntries event context.messages ++ [.emitted event message] =
            deferredEntries first messages ++ completionEntries event next.messages := by
        simp [completionEntries, (emit_accepted hemit).1]
      rw [hcurrent]
      exact .completing first messages payload next rest hcompletes hpayload
        hsucceeded (hcompleting.emit hemit)
    | stopCompletion _ _ _ hrefused =>
      rw [append_nil]
      exact .completing first messages payload context [] hcompletes hpayload
        hsucceeded (hcompleting.stop hrefused)
    | completionEmitted =>
      exact .answering first messages payload [] context.messages hcompletes hpayload
        hsucceeded hcompleting.done
  | answering first messages payload published rest hcompletes hpayload hsucceeded haccepted =>
    cases hmove with
    | publish message rest =>
      rw [append_cons published] at haccepted ⊢
      rw [append_assoc, publishEntries_append]
      exact .answering first messages payload (published ++ [message]) rest hcompletes
        hpayload hsucceeded haccepted
    | published =>
      rw [append_nil] at haccepted ⊢
      rw [append_nil]
      exact .concluded _ _ (.inl rfl) (.completed first event messages published payload
        hcompletes hpayload hsucceeded haccepted)
  | concluded _ _ hstage houtput =>
    rcases hstage with rfl | rfl | ⟨_, rfl⟩
    · cases hmove
    · cases hmove with
      | disconnected =>
        rw [append_nil]
        exact .concluded _ _ (.inl rfl) houtput
    · cases hmove with
      | failed _ _ hnext =>
        rw [append_nil]
        refine .concluded _ _ ?_ houtput
        rcases hnext with rfl | rfl
        · exact .inr (.inl rfl)
        · exact .inl rfl

theorem Waiting.process {state : SessionSequenceState}
    (hwaiting : Waiting state current) (hkind : event.kind = .deferredCompletion)
    (hawaiting : state.awaitingCompletion = true)
    (hsequence : state.nextSequence = event.sequence) :
    Progress config forced event (completionStage event) (current ++ [.processed event]) := by
  cases hwaiting with
  | idle hidle => simp [hidle] at hawaiting
  | deferred first messages _ hfirst =>
    have hcompletes : Completes event first := ⟨hkind, by rw [hfirst, hsequence]⟩
    have hfails : (∀ payload, event.completion = some payload → payload.failed = true) →
        Progress config forced event (.failing .deferredFailure)
          (deferredEntries first messages ++ [.processed event]) := by
      intro hfailed
      refine .concluded _ _ (.inr (.inr ⟨_, rfl⟩)) ?_
      rw [append_assoc]
      exact .completionFailed first event messages hcompletes hfailed
    unfold completionStage
    split
    next hnone =>
      apply hfails
      intro payload hpayload
      simp [hnone] at hpayload
    next payload hsome =>
      split
      next hfailed =>
        apply hfails
        intro _ hother
        rw [hsome, Option.some.injEq] at hother
        rw [← hother]
        exact hfailed
      next hsucceeded =>
        exact .completing first messages payload {} payload.messages hcompletes hsome
          (by simpa using hsucceeded) (Completing.start _ _ _ _)

/-! ## Every output so far is the beginning of a turn -/

/-- The completion of the event with no payload: it fails. -/
def failedCompletion (event : SessionEvent) : SessionEvent where
  kind := .deferredCompletion
  sessionId := event.sessionId
  sequence := event.sequence

theorem turnOutput_deferredEntries (config : WorkerPoolConfig) (forced : Bool)
    (event : SessionEvent) (messages : List OutboundMessage) :
    ∃ rest, TurnOutput config forced (deferredEntries event messages ++ rest) := by
  refine ⟨_, .completionFailed event (failedCompletion event) messages ⟨rfl, rfl⟩ ?_⟩
  intro _ hpayload
  simp [failedCompletion] at hpayload

theorem turnOutput_callEntries (config : WorkerPoolConfig) (forced : Bool)
    (event : SessionEvent) (published rest : List OutboundMessage) (deferred : Bool) :
    ∃ remaining, TurnOutput config forced
      (callEntries event (published ++ rest) (returnOutcome deferred) ++
        publishEntries event published ++ remaining) := by
  cases deferred with
  | true =>
    obtain ⟨remaining, houtput⟩ :=
      turnOutput_deferredEntries config forced event (published ++ rest)
    refine ⟨publishEntries event rest ++ remaining, ?_⟩
    simpa [deferredEntries, publishEntries, returnOutcome] using houtput
  | false =>
    refine ⟨publishEntries event rest ++ [.ended event], ?_⟩
    have houtput : TurnOutput config forced (callEntries event (published ++ rest) .plain ++
        publishEntries event (published ++ rest) ++ [.ended event]) :=
      .plain event (published ++ rest)
    simpa [publishEntries, returnOutcome] using houtput

theorem acceptedMessages_isPrefix (config : WorkerPoolConfig) (completion : SessionEvent)
    (context : WorkerSessionEventContext) (messages : List OutboundMessage) :
    acceptedMessages config completion context messages <+: messages := by
  induction messages generalizing context with
  | nil => exact prefix_refl []
  | cons message _ ih =>
    unfold acceptedMessages
    split
    · exact (prefix_cons_inj message).mpr (ih _)
    · exact nil_prefix

theorem Completing.accepted (hcompleting : Completing config forced event messages context rest) :
    ∃ remaining, AcceptedPart config forced event messages (context.messages ++ remaining) := by
  cases forced with
  | true =>
    refine ⟨rest, hcompleting.isPrefix, ?_⟩
    intro hfalse
    simp at hfalse
  | false =>
    have hrest := acceptedMessages_isPrefix config event context rest
    refine ⟨acceptedMessages config event context rest, ?_, fun _ => hcompleting.whole rfl⟩
    exact ((prefix_append_right_inj _).mpr hrest).trans hcompleting.isPrefix

theorem Progress.extends (hprogress : Progress config forced event stage current) :
    ∃ rest, TurnOutput config forced (current ++ rest) := by
  cases hprogress with
  | skipping => exact ⟨_, .skipped event⟩
  | handling context =>
    refine ⟨[.returned event .threw, .ended event], ?_⟩
    have houtput : TurnOutput config forced
        (callEntries event context.messages .threw ++ [.ended event]) :=
      .threw event context.messages
    simpa [callEntries] using houtput
  | finishing context =>
    have houtput := turnOutput_callEntries config forced event [] context.messages context.deferred
    simpa [publishEntries] using houtput
  | publishing published rest deferred =>
    exact turnOutput_callEntries config forced event published rest deferred
  | deferring messages =>
    exact turnOutput_deferredEntries config forced event messages
  | completing first messages payload context rest hcompletes hpayload hsucceeded
      hcompleting =>
      obtain ⟨remaining, haccepted⟩ := hcompleting.accepted
      refine ⟨remaining.map (OutputEntry.emitted event) ++
        publishEntries event (context.messages ++ remaining) ++ [.ended event], ?_⟩
      have houtput := TurnOutput.completed first event messages
        (context.messages ++ remaining) payload hcompletes hpayload hsucceeded haccepted
      simpa [completionEntries] using houtput
  | answering first messages payload published rest hcompletes hpayload hsucceeded
      haccepted =>
      refine ⟨publishEntries event rest ++ [.ended event], ?_⟩
      have houtput := TurnOutput.completed first event messages (published ++ rest) payload
        hcompletes hpayload hsucceeded haccepted
      simpa [publishEntries] using houtput
  | concluded _ _ _ houtput => exact ⟨_, houtput⟩

theorem Waiting.extends {state : SessionSequenceState} (hwaiting : Waiting state current) :
    ∃ rest, TurnOutput config forced (current ++ rest) := by
  cases hwaiting with
  | idle => exact ⟨_, .skipped { kind := .packet, sessionId := 0, sequence := 0 }⟩
  | deferred event messages => exact turnOutput_deferredEntries config forced event messages

end SessionServer.WorkerPool
