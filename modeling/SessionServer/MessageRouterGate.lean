import SessionServer.MessageRouterNegotiation

/-!
# The negotiation gate

A session is let through to the packet handlers after one successful version
request and until the next one.  The gate is a value per session: absent, zero
or the version; its law is stated over the packets of the session since its
last Disconnected event.
-/

namespace SessionServer.MessageRouter

open Protocol RouterState List

variable {Store : Type}

/-- The packets of the session since its last Disconnected event, each with
the surroundings it met. -/
def sinceDisconnected (id : SessionId) (history : List (Operation Store)) :
    List (Packet × Surroundings Store) :=
  history.foldl (fun packets operation =>
    match operation with
    | .callBack _ _ _ => packets
    | .handle event around =>
      if event.sessionId ≠ id then packets
      else if event.kind = .disconnected then []
      else packets ++ [(event.packet, around)]) []

/-- A version request the server agrees to, and whose response is accepted. -/
def Opens (id : SessionId) (first : Packet × Surroundings Store) : Prop :=
  ∃ range response, Agreeable first.1 range ∧
    versionResponse id (agreedVersion range) = .ok response ∧
    first.2.accepts 0 response = true

/-- The first packet opened the gate and no later one was a version request. -/
def GateOpen (id : SessionId) (packets : List (Packet × Surroundings Store)) :
    Prop :=
  ∃ first rest, packets = first :: rest ∧ Opens id first ∧
    ∀ later ∈ rest, later.1.type ≠ .versionReq

/-- Some packet broke the rule. -/
def GateShut (id : SessionId) (packets : List (Packet × Surroundings Store)) :
    Prop :=
  packets ≠ [] ∧ ¬ GateOpen id packets

section Gate

variable {id : SessionId} {packets : List (Packet × Surroundings Store)}
  {latest : Packet × Surroundings Store}

theorem gateOpen_singleton : GateOpen id [latest] ↔ Opens id latest := by
  constructor
  · rintro ⟨_, _, hpackets, hopens, _⟩
    simp only [List.cons.injEq] at hpackets
    rw [hpackets.1]
    exact hopens
  · intro hopens
    exact ⟨latest, [], rfl, hopens, by simp⟩

theorem gateOpen_snoc (hpackets : packets ≠ []) :
    GateOpen id (packets ++ [latest]) ↔ GateOpen id packets ∧ latest.1.type ≠ .versionReq := by
  cases packets with
  | nil => exact (hpackets rfl).elim
  | cons head tail =>
    constructor
    · rintro ⟨first, rest, hsplit, hopens, hrest⟩
      simp only [cons_append, List.cons.injEq] at hsplit
      rw [← hsplit.2] at hrest
      rw [← hsplit.1] at hopens
      constructor
      · refine ⟨head, tail, rfl, hopens, ?_⟩
        intro later hlater
        exact hrest later (mem_append_left _ hlater)
      · exact hrest latest (by simp)
    · rintro ⟨⟨_, _, hsplit, hopens, hrest⟩, htype⟩
      simp only [List.cons.injEq] at hsplit
      rw [← hsplit.2] at hrest
      rw [← hsplit.1] at hopens
      refine ⟨head, tail ++ [latest], rfl, hopens, ?_⟩
      rw [forall_mem_append, forall_mem_singleton]
      exact ⟨hrest, htype⟩

theorem GateShut.snoc (hshut : GateShut id packets) : GateShut id (packets ++ [latest]) := by
  refine ⟨by simp, ?_⟩
  rw [gateOpen_snoc hshut.1]
  exact fun hopen => hshut.2 hopen.1

/-- Which response opens the gate is determined by the request. -/
theorem opens_iff {packet : Packet} {range : VersionRange} {response : OutboundMessage}
    {around : Surroundings Store} (hagreeable : Agreeable packet range)
    (hresponse : versionResponse id (agreedVersion range) = .ok response) :
    Opens id (packet, around) ↔ around.accepts 0 response = true := by
  constructor
  · rintro ⟨other, _, hother, hmessage, haccepts⟩
    have hrange : other = range := by
      have hdecode := hother.2.1
      rw [hagreeable.2.1, Except.ok.injEq] at hdecode
      exact hdecode.symm
    rw [hrange, hresponse, Except.ok.injEq] at hmessage
    rw [hmessage]
    exact haccepts
  · intro haccepts
    exact ⟨range, response, hagreeable, hresponse, haccepts⟩

/-- The value kept for the session tells how its packets went. -/
structure GateState (versions : Versions) (id : SessionId)
    (packets : List (Packet × Surroundings Store)) : Prop where
  untouched : packets = [] → versions.lookup id = none
  opened : GateOpen id packets → ∃ version, version ≠ 0 ∧ versions.lookup id = some version
  shut : GateShut id packets → versions.lookup id = some 0

theorem GateState.of_open {versions : Versions} {version : UInt16}
    (hopen : GateOpen id packets) (hversion : version ≠ 0)
    (hlookup : versions.lookup id = some version) :
    GateState versions id packets where
  untouched hpackets := by
    obtain ⟨_, _, hcons, _⟩ := hopen
    simp [hpackets] at hcons
  opened _ := ⟨version, hversion, hlookup⟩
  shut hshut := (hshut.2 hopen).elim

theorem GateState.of_shut {versions : Versions} (hshut : GateShut id packets)
    (hlookup : versions.lookup id = some 0) :
    GateState versions id packets where
  untouched hpackets := (hshut.1 hpackets).elim
  opened hopen := (hshut.2 hopen).elim
  shut _ := hlookup

/-- What the router says to a session at the packet that breaks the rule. -/
def Dismisses (id : SessionId) (emitted : List (OutboundMessage × Bool)) : Prop :=
  (∃ message, message.sessionId = id ∧ message.kind = .sendBytesAndDisconnect ∧
    emitted = [(message, true)]) ∨
  ∃ message accepted, message.sessionId = id ∧
    (message.kind = .sendBytesAndDisconnect ∨ PacketCodec.typeOf message.bytes = some .versionRes) ∧
    emitted = [(message, false),
      ({ sessionId := id, bytes := [], kind := .disconnectSession }, accepted)]

end Gate

section Packet

variable (floats : FloatText) (around : Surroundings Store)
  {state : RouterState Store} {event : SessionEvent}
  {packets : List (Packet × Surroundings Store)}

theorem handleEvent_shuts (hkind : event.kind ≠ .disconnected)
    (hshuts : Shuts state.versions event.sessionId event.packet) :
    Dismisses event.sessionId (handleEvent floats around state event).emitted ∧
      ¬ ReachesHandlePacket around state event.sessionId event.packet ∧
      ∃ versions, (handleEvent floats around state event).state =
          { state with versions := versions } ∧
        versions.lookup event.sessionId = some 0 := by
  obtain ⟨message, herror, hmessage, hlocked⟩ := negotiateLocked_shuts hshuts
  have hrun := run_handleNegotiation_answered around hlocked
  have hhandled := handleEvent_negotiated floats hkind hrun
  rw [hhandled, ReachesHandlePacket, hrun]
  refine ⟨?_, by simp, ?_⟩
  · split
    next => exact .inl ⟨message, herror.1, hmessage, rfl⟩
    next => exact .inr ⟨message, _, herror.1, .inl hmessage, rfl⟩
  · split
    next => exact ⟨_, rfl, Finmap.lookup_insert _⟩
    next => exact ⟨_, rfl, Finmap.lookup_insert _⟩

theorem handleEvent_agrees (hkind : event.kind ≠ .disconnected) {range : VersionRange}
    (hlookup : state.versions.lookup event.sessionId = none)
    (hagreeable : Agreeable event.packet range) :
    ∃ response, versionResponse event.sessionId (agreedVersion range) = .ok response ∧
      ¬ ReachesHandlePacket around state event.sessionId event.packet ∧
      (around.accepts 0 response = false →
        Dismisses event.sessionId (handleEvent floats around state event).emitted) ∧
      ∃ versions, (handleEvent floats around state event).state =
          { state with versions := versions } ∧
        versions.lookup event.sessionId =
          some (if around.accepts 0 response then agreedVersion range else 0) := by
  obtain ⟨response, hresponse, hsession, htype⟩ :=
    versionResponse_ok event.sessionId (agreedVersion_ne_zero hagreeable.2.2)
  have hrun := run_handleNegotiation_answered around
    (negotiateLocked_agrees hlookup hagreeable hresponse)
  have hhandled := handleEvent_negotiated floats hkind hrun
  refine ⟨response, hresponse, ?_⟩
  rw [hhandled, ReachesHandlePacket, hrun]
  refine ⟨by simp, ?_, ?_⟩
  · intro hrefused
    rw [hrefused]
    exact .inr ⟨response, _, hsession, .inr htype, rfl⟩
  · split
    next => exact ⟨_, rfl, Finmap.lookup_insert _⟩
    next => exact ⟨_, rfl, Finmap.lookup_insert _⟩

/-- One packet of the session, whatever the gate was before. -/
structure PacketOutcome (around : Surroundings Store) (state : RouterState Store)
    (event : SessionEvent) (packets : List (Packet × Surroundings Store))
    (turn : Turn Store) : Prop where
  reaches : ReachesHandlePacket around state event.sessionId event.packet ↔
    GateOpen event.sessionId packets ∧ event.packet.type ≠ .versionReq
  unserved : ¬ ReachesHandlePacket around state event.sessionId event.packet →
    turn.state.rooms = state.rooms ∧ turn.state.store = state.store
  dismissed : ¬ GateShut event.sessionId packets →
    GateShut event.sessionId (packets ++ [(event.packet, around)]) →
    Dismisses event.sessionId turn.emitted
  ignored : GateShut event.sessionId packets → turn = { state := state }
  gate : GateState turn.state.versions event.sessionId (packets ++ [(event.packet, around)])

theorem packetOutcome_first (hkind : event.kind ≠ .disconnected)
    (hlookup : state.versions.lookup event.sessionId = none) :
    PacketOutcome around state event [] (handleEvent floats around state event) := by
  have hnever : ¬ GateOpen event.sessionId ([] : List (Packet × Surroundings Store)) := by
    rintro ⟨_, _, hcons, _⟩
    simp at hcons
  have hfresh : ¬ GateShut event.sessionId ([] : List (Packet × Surroundings Store)) :=
    fun hshut => hshut.1 rfl
  by_cases hagreeable : ∃ range, Agreeable event.packet range
  · obtain ⟨range, hagreeable⟩ := hagreeable
    obtain ⟨response, hresponse, hreaches, hdismissed, versions, hstate, hversion⟩ :=
      handleEvent_agrees floats around hkind hlookup hagreeable
    have hopens : GateOpen event.sessionId [(event.packet, around)] ↔
        around.accepts 0 response = true :=
      gateOpen_singleton.trans (opens_iff hagreeable hresponse)
    refine ⟨?_, ?_, ?_, fun hshut => (hfresh hshut).elim, ?_⟩
    · exact iff_of_false hreaches fun hopen => hnever hopen.1
    · intro _
      rw [hstate]
      exact ⟨rfl, rfl⟩
    · intro _ hshut
      apply hdismissed
      cases haccepts : around.accepts 0 response with
      | false => rfl
      | true => exact (hshut.2 (hopens.mpr haccepts)).elim
    · rw [hstate]
      cases haccepts : around.accepts 0 response with
      | false =>
        rw [haccepts] at hversion
        apply GateState.of_shut _ hversion
        refine ⟨by simp, ?_⟩
        rw [nil_append, hopens, haccepts]
        simp
      | true =>
        rw [haccepts] at hversion
        exact .of_open (hopens.mpr haccepts) (agreedVersion_ne_zero hagreeable.2.2) hversion
  · have hshuts : Shuts state.versions event.sessionId event.packet := by
      unfold Shuts
      rw [hlookup]
      exact fun range hrange => hagreeable ⟨range, hrange⟩
    obtain ⟨hdismissed, hreaches, _, hstate, hversion⟩ :=
      handleEvent_shuts floats around hkind hshuts
    refine ⟨?_, ?_, fun _ _ => hdismissed, fun hshut => (hfresh hshut).elim, ?_⟩
    · exact iff_of_false hreaches fun hopen => hnever hopen.1
    · intro _
      rw [hstate]
      exact ⟨rfl, rfl⟩
    · rw [hstate]
      apply GateState.of_shut _ hversion
      refine ⟨by simp, ?_⟩
      rw [nil_append, gateOpen_singleton]
      rintro ⟨range, _, hrange, _⟩
      exact hagreeable ⟨range, hrange⟩

theorem packetOutcome_open (hkind : event.kind ≠ .disconnected)
    (hopen : GateOpen event.sessionId packets) {version : UInt16} (hversion : version ≠ 0)
    (hlookup : state.versions.lookup event.sessionId = some version) :
    PacketOutcome around state event packets (handleEvent floats around state event) := by
  have hpackets : packets ≠ [] := by
    obtain ⟨_, _, hcons, _⟩ := hopen
    simp [hcons]
  have hnotShut : ¬ GateShut event.sessionId packets := fun hshut => hshut.2 hopen
  have hnext : GateOpen event.sessionId (packets ++ [(event.packet, around)]) ↔
      GateOpen event.sessionId packets ∧ event.packet.type ≠ .versionReq :=
    gateOpen_snoc hpackets
  by_cases htype : event.packet.type = .versionReq
  · have hshuts : Shuts state.versions event.sessionId event.packet := by
      unfold Shuts
      rw [hlookup]
      exact ⟨hversion, htype⟩
    obtain ⟨hdismissed, hreaches, _, hstate, hzero⟩ :=
      handleEvent_shuts floats around hkind hshuts
    refine ⟨?_, ?_, fun _ _ => hdismissed, fun hshut => (hnotShut hshut).elim, ?_⟩
    · exact iff_of_false hreaches fun hopen => hopen.2 htype
    · intro _
      rw [hstate]
      exact ⟨rfl, rfl⟩
    · rw [hstate]
      apply GateState.of_shut _ hzero
      refine ⟨by simp, ?_⟩
      rw [hnext]
      exact fun hopen => hopen.2 htype
  · have hreaches : ReachesHandlePacket around state event.sessionId event.packet := by
      unfold ReachesHandlePacket
      rw [run_handleNegotiation_passed hlookup hversion htype]
    have hstays := hnext.mpr ⟨hopen, htype⟩
    refine ⟨iff_of_true hreaches ⟨hopen, htype⟩, fun hnot => (hnot hreaches).elim, ?_,
      fun hshut => (hnotShut hshut).elim, ?_⟩
    · intro _ hshut
      exact (hshut.2 hstays).elim
    · apply GateState.of_open hstays hversion
      rw [handleEvent_versions_passed floats around hkind hlookup hversion htype]
      exact hlookup

theorem packetOutcome_shut (hkind : event.kind ≠ .disconnected)
    (hshut : GateShut event.sessionId packets)
    (hlookup : state.versions.lookup event.sessionId = some 0) :
    PacketOutcome around state event packets (handleEvent floats around state event) := by
  have hrun := run_handleNegotiation_ignored around event.packet hlookup
  rw [handleEvent_negotiated floats hkind hrun]
  refine ⟨?_, fun _ => ⟨rfl, rfl⟩, fun hnot => (hnot hshut).elim, fun _ => rfl, ?_⟩
  · apply iff_of_false
    · rw [ReachesHandlePacket, hrun]
      simp
    · exact fun hopen => hshut.2 hopen.1
  · exact .of_shut hshut.snoc hlookup

theorem packetOutcome (hkind : event.kind ≠ .disconnected)
    (hgate : GateState state.versions event.sessionId packets) :
    PacketOutcome around state event packets (handleEvent floats around state event) := by
  by_cases hpackets : packets = []
  · rw [hpackets]
    exact packetOutcome_first floats around hkind (hgate.untouched hpackets)
  · by_cases hopen : GateOpen event.sessionId packets
    · obtain ⟨_, hversion, hlookup⟩ := hgate.opened hopen
      exact packetOutcome_open floats around hkind hopen hversion hlookup
    · have hshut : GateShut event.sessionId packets := ⟨hpackets, hopen⟩
      exact packetOutcome_shut floats around hkind hshut (hgate.shut hshut)

end Packet

/-! ## The law -/

section Law

variable (floats : FloatText) (store : Store)

theorem sinceDisconnected_append (id : SessionId)
    (history : List (Operation Store)) (operation : Operation Store) :
    sinceDisconnected id (history ++ [operation]) =
      match operation with
      | .callBack _ _ _ => sinceDisconnected id history
      | .handle event around =>
        if event.sessionId ≠ id then sinceDisconnected id history
        else if event.kind = .disconnected then []
        else sinceDisconnected id history ++ [(event.packet, around)] := by
  simp only [sinceDisconnected, foldl_append, foldl_cons, foldl_nil]

theorem handleEvent_disconnected_lookup (around : Surroundings Store)
    (state : RouterState Store) {event : SessionEvent} (hkind : event.kind = .disconnected) :
    (handleEvent floats around state event).state.versions.lookup event.sessionId = none := by
  unfold handleEvent handle handleDisconnected
  rw [if_pos hkind, run_bind, run_eraseVersion]
  have hkept := (calls_disconnectUser event.sessionId).run_keeps
    (fun turn : Turn Store => turn.state.versions)
    (fun _ turn hplays => respond_versions_of_serves around hplays.serves turn)
    { state := { state with versions := state.versions.erase event.sessionId } }
  exact (congrArg (Finmap.lookup event.sessionId) hkept).trans (Finmap.lookup_erase _ _)

theorem gateState_after (history : List (Operation Store)) (id : SessionId) :
    GateState (after floats store history).versions id (sinceDisconnected id history) := by
  induction history using reverseRecOn with
  | nil =>
    refine ⟨fun _ => rfl, ?_, fun hshut => (hshut.1 rfl).elim⟩
    rintro ⟨first, rest, hcons, _⟩
    simp [sinceDisconnected] at hcons
  | append_singleton history operation ih =>
    rw [after_append, sinceDisconnected_append]
    cases operation with
    | callBack =>
      simp only [RouterState.step, callBack_versions]
      exact ih
    | handle event around =>
      simp only [RouterState.step]
      by_cases hsession : event.sessionId = id
      · subst hsession
        by_cases hkind : event.kind = .disconnected
        · simp only [hkind, ne_eq, not_true_eq_false, if_false, if_true]
          have hlookup := handleEvent_disconnected_lookup floats around
            (after floats store history) hkind
          refine ⟨fun _ => hlookup, ?_, fun hshut => (hshut.1 rfl).elim⟩
          rintro ⟨_, _, hcons, _⟩
          simp at hcons
        · simp only [hkind, ne_eq, not_true_eq_false, if_false]
          exact (packetOutcome floats around hkind ih).gate
      · have hkept := handleEvent_lookup_ne floats around
          (after floats store history) event (Ne.symm hsession)
        simp only [hsession, ne_eq, not_false_eq_true, if_true]
        exact ⟨fun h => hkept.trans (ih.untouched h), fun h => by
          rw [hkept]; exact ih.opened h, fun h => hkept.trans (ih.shut h)⟩

/-- The gate, for one more event after any history. -/
theorem gate_law (history : List (Operation Store)) (event : SessionEvent)
    (around : Surroundings Store) :
    let state := after floats store history
    let packets := sinceDisconnected event.sessionId history
    let turn := handleEvent floats around state event
    (event.kind ≠ .disconnected →
      (ReachesHandlePacket around state event.sessionId event.packet ↔
        GateOpen event.sessionId packets ∧ event.packet.type ≠ .versionReq) ∧
      (¬ ReachesHandlePacket around state event.sessionId event.packet →
        turn.state.rooms = state.rooms ∧ turn.state.store = state.store) ∧
      (¬ GateShut event.sessionId packets →
        GateShut event.sessionId (packets ++ [(event.packet, around)]) →
        Dismisses event.sessionId turn.emitted) ∧
      (GateShut event.sessionId packets →
        turn = { state := state } ∧
        GateShut event.sessionId (packets ++ [(event.packet, around)]))) ∧
    ∀ other, other ≠ event.sessionId →
      turn.state.versions.lookup other = state.versions.lookup other := by
  intro state _ _
  constructor
  · intro hkind
    have hgate := gateState_after floats store history event.sessionId
    have houtcome := packetOutcome floats around hkind hgate
    refine ⟨houtcome.reaches, houtcome.unserved, houtcome.dismissed, ?_⟩
    intro hshut
    exact ⟨houtcome.ignored hshut, hshut.snoc⟩
  · intro _ hother
    exact handleEvent_lookup_ne floats around state event hother

end Law

/-- A session that asks for version 1. -/
def versionRequest : SessionEvent where
  kind := .packet
  sessionId := 1
  packet := ⟨.versionReq, ascii "min_version=1|max_version=1"⟩
  sequence := 0

def pingRequest : SessionEvent where
  kind := .packet
  sessionId := 1
  packet := ⟨.ping, []⟩
  sequence := 1

/-- Every message is accepted and the repository refuses every request. -/
def openSurroundings : Surroundings Unit where
  order := .ascending
  accepts := fun _ _ => true
  repository := fun store _ => (.threw, store)

theorem opens_versionRequest : Opens 1 (versionRequest.packet, openSurroundings) := by
  have hdecode : (decodeVersionRequest versionRequest.packet.payload).toOption =
      some ⟨1, 1⟩ := by decide +kernel
  have hrange : decodeVersionRequest versionRequest.packet.payload = .ok ⟨1, 1⟩ := by
    cases hcase : decodeVersionRequest versionRequest.packet.payload with
    | error => simp [hcase, Except.toOption] at hdecode
    | ok =>
      simp only [hcase, Except.toOption, Option.some.injEq] at hdecode
      rw [hdecode]
  have hagreeable : Agreeable versionRequest.packet ⟨1, 1⟩ :=
    ⟨rfl, hrange, 1, by decide⟩
  obtain ⟨response, hresponse, _⟩ :=
    versionResponse_ok 1 (agreedVersion_ne_zero hagreeable.2.2)
  exact ⟨⟨1, 1⟩, response, hagreeable, hresponse, rfl⟩

theorem gate_law_ping :
    GateOpen 1 (sinceDisconnected 1 [Operation.handle versionRequest openSurroundings]) ∧
    ReachesHandlePacket openSurroundings
      (after default () [.handle versionRequest openSurroundings])
      pingRequest.sessionId pingRequest.packet := by
  have hopen : GateOpen 1
      (sinceDisconnected 1 [Operation.handle versionRequest openSurroundings]) :=
    gateOpen_singleton.mpr opens_versionRequest
  have hlaw := (gate_law default () [.handle versionRequest openSurroundings] pingRequest
    openSurroundings).1 (by decide)
  exact ⟨hopen, hlaw.1.mpr ⟨hopen, by decide⟩⟩

end SessionServer.MessageRouter
