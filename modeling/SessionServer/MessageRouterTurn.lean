import SessionServer.MessageRouterModel
import SessionServer.RoomServiceRun

/-!
# Events handled one after another

The router handles one event at a time in surroundings of any kind: the context
accepts or refuses each message, the hash maps list their keys in some order,
and the repository does what it likes with a callback.  A kept callback is
called between two events.
-/

namespace SessionServer.MessageRouter

open Protocol

/-- What the router, the room service and the repository share between
events. -/
structure RouterState (Store : Type) where
  versions : Versions := ∅
  rooms : RoomRun := {}
  store : Store

/-- What one event meets: `accepts` gets the number of messages emitted
before. -/
structure Surroundings (Store : Type) where
  order : Enumeration
  accepts : ℕ → OutboundMessage → Bool
  repository : Store → FindOrCreateUser → RepositoryAnswer × Store

/-- The state while an event is handled. -/
structure Turn (Store : Type) where
  state : RouterState Store
  emitted : List (OutboundMessage × Bool) := []
  deferred : Bool := false
  completions : List DeferredCompletionPayload := []

variable {Store : Type}

/-- Every message the router gave out for the event, through the context or
with the completion of the deferred event. -/
def Turn.messages (turn : Turn Store) : List OutboundMessage :=
  turn.emitted.map Prod.fst ++ turn.completions.flatMap DeferredCompletionPayload.messages

def respond (around : Surroundings Store) :
    (request : RouterCall) → Turn Store → request.Answer × Turn Store
  | .emit message, turn =>
    (around.accepts turn.emitted.length message, { turn with
      emitted := turn.emitted ++ [(message, around.accepts turn.emitted.length message)] })
  | .defer, turn =>
    if turn.deferred || turn.emitted.any Prod.snd then (none, turn)
    else (some 0, { turn with deferred := true })
  | .complete _ payload, turn =>
    if turn.completions.isEmpty then
      (true, { turn with completions := [payload] })
    else (false, turn)
  | .eraseVersion sessionId, turn =>
    ((), { turn with state := { turn.state with
      versions := turn.state.versions.erase sessionId } })
  | .negotiate sessionId packet, turn =>
    let (outcome, versions) := negotiateLocked turn.state.versions sessionId packet
    (outcome, { turn with state := { turn.state with versions := versions } })
  | .clearVersion sessionId, turn =>
    ((), { turn with state := { turn.state with
      versions := turn.state.versions.insert sessionId 0 } })
  | .attachUser sessionId record, turn =>
    let (result, rooms) := turn.state.rooms.attachUser sessionId record
    (result, { turn with state := { turn.state with rooms := rooms } })
  | .act sessionId action, turn =>
    let (result, rooms) := turn.state.rooms.act around.order sessionId action
    (result, { turn with state := { turn.state with rooms := rooms } })
  | .findOrCreateByNormalizedName request _, turn =>
    let (answer, store) := around.repository turn.state.store request
    (answer, { turn with state := { turn.state with store := store } })

/-- Execute a part of a handler. -/
def runHandler {α : Type} (around : Surroundings Store) (handler : Handler α)
    (turn : Turn Store) : Except HandlerException α × Turn Store :=
  handler.run (respond around) turn

def handleEvent (floats : FloatText) (around : Surroundings Store)
    (state : RouterState Store) (event : SessionEvent) : Turn Store :=
  (runHandler around (handle floats event) { state := state }).2

def callBack (around : Surroundings Store) (state : RouterState Store)
    (callback : LoginCallback) (result : UserResult) : Turn Store :=
  (runHandler around (callback.invoke result) { state := state }).2

/-! ## Histories -/

inductive Operation (Store : Type)
  | handle (event : SessionEvent) (around : Surroundings Store)
  | callBack (callback : LoginCallback) (result : UserResult) (around : Surroundings Store)

def RouterState.step (floats : FloatText) (state : RouterState Store) :
    Operation Store → RouterState Store
  | .handle event around => (handleEvent floats around state event).state
  | .callBack callback result around =>
    (MessageRouter.callBack around state callback result).state

/-- The state after a history that starts with an empty router. -/
def RouterState.after (floats : FloatText) (store : Store)
    (history : List (Operation Store)) : RouterState Store :=
  history.foldl (RouterState.step floats) { store := store }

@[simp] theorem RouterState.after_nil (floats : FloatText) (store : Store) :
    RouterState.after floats store [] = { store := store } := rfl

@[simp] theorem RouterState.after_append (floats : FloatText) (store : Store)
    (history : List (Operation Store)) (operation : Operation Store) :
    RouterState.after floats store (history ++ [operation]) =
      (RouterState.after floats store history).step floats operation := by
  simp [RouterState.after]

/-! ## Executing the router -/

section Execution

variable {α β : Type} (around : Surroundings Store) (turn : Turn Store)

@[simp] theorem run_pure (result : α) :
    runHandler around (pure result) turn = (.ok result, turn) := rfl

theorem run_bind (first : Handler α) (rest : α → Handler β) :
    runHandler around (first >>= rest) turn =
      match runHandler around first turn with
      | (.ok result, after) => runHandler around (rest result) after
      | (.error exception, after) => (.error exception, after) := by
  unfold runHandler
  rw [InteractionProgram.run_bind]
  rcases InteractionProgram.run (respond around) first turn with ⟨outcome, _⟩
  cases outcome <;> rfl

theorem run_tryCatch (handler : Handler α) (recover : HandlerException → Handler α) :
    runHandler around (tryCatch handler recover) turn =
      match runHandler around handler turn with
      | (.ok result, after) => (.ok result, after)
      | (.error exception, after) => runHandler around (recover exception) after := by
  unfold runHandler
  rw [InteractionProgram.run_tryCatch]
  rcases InteractionProgram.run (respond around) handler turn with ⟨outcome, _⟩
  cases outcome <;> rfl

theorem run_call (request : RouterCall) :
    runHandler around (call request) turn =
      (.ok (respond around request turn).1, (respond around request turn).2) :=
  rfl

@[simp] theorem run_lift_ok (result : α) :
    runHandler around (lift (.ok result)) turn = (.ok result, turn) := rfl

@[simp] theorem run_lift_error (failure : ProtocolError) :
    runHandler around (lift (.error failure : Except ProtocolError α)) turn =
      (.error (.protocolError failure), turn) := rfl

@[simp] theorem run_emit (message : OutboundMessage) :
    runHandler around (emit message) turn =
      (.ok (around.accepts turn.emitted.length message), { turn with
        emitted := turn.emitted ++ [(message, around.accepts turn.emitted.length message)] }) := rfl

@[simp] theorem run_act (sessionId : SessionId) (action : RoomAction) :
    runHandler around (act sessionId action) turn =
      (.ok (turn.state.rooms.act around.order sessionId action).1, { turn with
        state := { turn.state with
          rooms := (turn.state.rooms.act around.order sessionId action).2 } }) := rfl

@[simp] theorem run_attachUser (sessionId : SessionId) (record : UserRecord) :
    runHandler around (attachUser sessionId record) turn =
      (.ok (turn.state.rooms.attachUser sessionId record).1, { turn with
        state := { turn.state with
          rooms := (turn.state.rooms.attachUser sessionId record).2 } }) := rfl

@[simp] theorem run_findOrCreate (request : FindOrCreateUser) (callback : LoginCallback) :
    runHandler around (findOrCreateByNormalizedName request callback) turn =
      (.ok (around.repository turn.state.store request).1, { turn with
        state := { turn.state with
          store := (around.repository turn.state.store request).2 } }) := rfl

theorem run_eraseVersion (sessionId : SessionId) :
    runHandler around (eraseVersion sessionId) turn =
      (.ok (), { turn with state := { turn.state with
        versions := turn.state.versions.erase sessionId } }) := rfl

theorem run_complete {completion : CompletionId} {payload : DeferredCompletionPayload}
    (hfirst : turn.completions = []) :
    runHandler around (call (.complete completion payload)) turn =
      (.ok true, { turn with completions := [payload] }) := by
  rw [run_call]
  simp [respond, hfirst]

theorem run_defer (hfresh : turn.deferred = false) (hemitted : turn.emitted = []) :
    runHandler around defer turn = (.ok 0, { turn with deferred := true }) := by
  unfold defer
  rw [run_bind, run_call]
  simp [respond, hfresh, hemitted]

end Execution

end SessionServer.MessageRouter
