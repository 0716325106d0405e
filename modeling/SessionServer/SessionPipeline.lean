import SessionServer.TcpServerRun
import SessionServer.WorkerPoolQuiescence

/-!
# From the socket to the handler

The network thread and the worker pool meet in the inbox.  Whatever either of
them does, the handler is called for the packets that the bytes of the session
hold, in order, and for its Disconnected event after them.
-/

namespace SessionServer

open TcpServer WorkerPool Protocol.ReferenceCodec Transcript SessionEvent List

/-- An event of the network thread as the workers see it. -/
def TcpServer.InputEvent.toSessionEvent (event : InputEvent) : SessionEvent where
  kind := event.kind
  sessionId := .ofNat event.sessionId
  packet := event.packet
  sequence := event.sequence

/-- The packets that the bytes hold, and the end of the session. -/
def streamEvents (sessionId : SessionId) (bytes : Bytes) : List SessionEvent :=
  (packetEvents sessionId.toNat (packetsOf bytes) ++
    [TcpServer.disconnectedEvent sessionId.toNat (packetsOf bytes).length]).map
      InputEvent.toSessionEvent

theorem streamEvents_sequence (sessionId : SessionId) (bytes : Bytes) :
    (streamEvents sessionId bytes).map sequence = range (streamEvents sessionId bytes).length := by
  simp [streamEvents, packetEvents, mapIdx_eq_zipIdx_map, Function.comp_def,
    InputEvent.toSessionEvent, TcpServer.packetEvent, TcpServer.disconnectedEvent,
    range_eq_range', range'_concat]

variable {serverConfig : ServerConfig} {state : ServerConfiguration}
  {n : ℕ} {config : WorkerPoolConfig} {guard : Pool n → Action n → Prop} {pool : Pool n}
  {sessionId : SessionId}

theorem TcpServer.Reachable.pushed_stream (hserver : Reachable serverConfig state) :
    (eventsFor state.own.pushed sessionId.toNat).map InputEvent.toSessionEvent <+:
      streamEvents sessionId (state.own.received sessionId.toNat) := by
  obtain ⟨packets, _, hdecodes, hevents⟩ := hserver.sound.delivered sessionId.toNat
  have hpackets := hdecodes.packetsOf_eq
  apply IsPrefix.map
  rcases hevents with hopen | ⟨hclosed, hlast⟩
  · rw [hopen, hpackets, packetEvents, packetEvents, mapIdx_append, append_assoc]
    exact prefix_append _ _
  · rw [packetsOf_eq_nil hlast, append_nil] at hpackets
    rw [hclosed, hpackets]

theorem sequence_getElem {events : List SessionEvent}
    (hnumbered : events.map sequence = range events.length) {index : ℕ}
    (hindex : index < events.length) : events[index].sequence = index := by
  have hget := getElem_of_eq hnumbered (i := index) (by simpa using hindex)
  simpa using hget

theorem sequence_of_isPrefix {events first : List SessionEvent}
    (hnumbered : events.map sequence = range events.length) (hfirst : first <+: events) :
    first.map sequence = range first.length := by
  obtain ⟨_, hbehind⟩ := hfirst
  rw [← hbehind, map_append] at hnumbered
  have hrange := eq_range_of_append_eq_range hnumbered
  rwa [length_map] at hrange

/-- A pool that is fed numbered events calls the handler for them in order. -/
theorem WorkerPool.Pool.Sound.calls_numbered (hsound : pool.Sound)
    {events : List SessionEvent} (hnumbered : events.map sequence = range events.length)
    (hfed : accepted (pool.transcript.of sessionId) <+: events) :
    invoked (pool.transcript.of sessionId) <+ events ∧
      (.failed sessionId ∉ pool.transcript →
        invoked (pool.transcript.of sessionId) <+: events) := by
  have hview := hsound.sessions sessionId
  have hcontiguous : Transcript.Contiguous (pool.transcript.of sessionId) :=
    sequence_of_isPrefix hnumbered hfed
  have hsubset : invoked (pool.transcript.of sessionId) ⊆ events := by
    intro _ hmem
    exact hfed.subset (hview.accepted_of_started (hview.service.invoked.subset hmem))
  constructor
  · have hordered := pairwise_map.mp ((hview.order hcontiguous).ordered.sublist
      (hview.service.invoked.map sequence))
    have hdistinct : (invoked (pool.transcript.of sessionId)).Nodup := by
      apply hordered.imp
      rintro _ _ hlt rfl
      exact lt_irrefl _ hlt
    have : Std.Antisymm fun first second : SessionEvent => first.sequence < second.sequence :=
      ⟨fun _ _ hlt hgt => absurd hgt (lt_asymm hlt)⟩
    apply sublist_of_subperm_of_pairwise (subperm_of_subset hdistinct hsubset) hordered
    rw [← pairwise_map, hnumbered]
    exact pairwise_lt_range
  · -- The calls are numbered from zero too, so each stands at its own place.
    intro hunfailed
    have hrange := (hview.gapFree hcontiguous
      (fun hmem => hunfailed (failed_mem_of.mp hmem))).invoked_eq_range
    rw [prefix_iff_getElem?]
    intro index hindex
    obtain ⟨place, hplace, hcall⟩ := getElem_of_mem (hsubset (getElem_mem hindex))
    have hsame : place = index := by
      rw [← sequence_getElem hnumbered hplace, hcall]
      exact sequence_getElem hrange hindex
    rw [← hcall, ← hsame, getElem?_eq_getElem hplace]

/-- The calls for a session are events of its stream, in order; up to a
failure none is left out. -/
theorem handler_calls_stream (hserver : Reachable serverConfig state)
    (hpool : pool.ReachedBy config guard)
    (hinbox : accepted (pool.transcript.of sessionId) <+:
      (eventsFor state.own.pushed sessionId.toNat).map InputEvent.toSessionEvent) :
    invoked (pool.transcript.of sessionId) <+
        streamEvents sessionId (state.own.received sessionId.toNat) ∧
      (.failed sessionId ∉ pool.transcript →
        invoked (pool.transcript.of sessionId) <+:
          streamEvents sessionId (state.own.received sessionId.toNat)) :=
  hpool.sound.calls_numbered (streamEvents_sequence _ _) (hinbox.trans hserver.pushed_stream)

/-- The packet of `receivingMoves` is handled by a pool of one. -/
theorem receivingMoves_handled :
    ∃ (state : ServerConfiguration) (pool : Pool 1),
      eventsFor state.own.pushed 1 = packetEvents 1 [⟨⟨1⟩, []⟩] ∧
      Reachable TcpServer.smallConfig state ∧
      pool.ReachedBy WorkerPool.smallConfig WithoutStop ∧ pool.Quiescent ∧
      .failed 1 ∉ pool.transcript ∧ accepted (pool.transcript.of 1) =
        (eventsFor state.own.pushed 1).map InputEvent.toSessionEvent := by
  obtain ⟨state, hserver, _, _, _, _, hpushed⟩ := receivingMoves_reach
  obtain ⟨pool, hpool, houtcome⟩ := smallPool_reachedBy WithoutStop
    (.push (TcpServer.packetEvent 1 ⟨⟨1⟩, []⟩ 0).toSessionEvent :: works sole 6 ++
      [.handlerReturn sole] ++ works sole 3)
    (fun pool => pool.isQuiescent && !pool.transcript.contains (.failed 1) &&
      accepted (pool.transcript.of 1) == (packetEvents 1 [⟨⟨1⟩, []⟩]).map InputEvent.toSessionEvent)
    (by simp [works, WithoutStop, Action.isStop]) (by decide)
  simp only [Bool.and_eq_true, beq_iff_eq, Bool.not_eq_true', contains_eq_mem,
    decide_eq_false_iff_not] at houtcome
  exact ⟨state, pool, hpushed, hserver, hpool,
    Pool.quiescent_of_isQuiescent houtcome.1.1, houtcome.1.2, by rw [houtcome.2, hpushed]⟩

theorem handler_calls_stream_receivingMoves :
    ∃ (state : ServerConfiguration) (pool : Pool 1),
      eventsFor state.own.pushed 1 = packetEvents 1 [⟨⟨1⟩, []⟩] ∧
      invoked (pool.transcript.of 1) <+ streamEvents 1 (state.own.received 1) := by
  obtain ⟨state, pool, hpushed, hserver, hpool, _, _, hinbox⟩ :=
    receivingMoves_handled
  exact ⟨state, pool, hpushed, (handler_calls_stream hserver hpool (hinbox ▸ prefix_rfl)).1⟩

/-- At rest, and without a failure, the handler was called for everything that
the network thread has pushed, in order. -/
theorem quiescent_calls_pushed (hserver : Reachable serverConfig state)
    (hpool : pool.ReachedBy config WithoutStop) (hquiescent : pool.Quiescent)
    (hunfailed : .failed sessionId ∉ pool.transcript)
    (hinbox : accepted (pool.transcript.of sessionId) =
      (eventsFor state.own.pushed sessionId.toNat).map InputEvent.toSessionEvent) :
    invoked (pool.transcript.of sessionId) =
      (eventsFor state.own.pushed sessionId.toNat).map InputEvent.toSessionEvent := by
  have hkept := hpool.kept
  have hview := hkept.sessions sessionId
  have hstream := @hserver.pushed_stream _ _ sessionId
  rw [← hinbox] at hstream ⊢
  have hnumbered := sequence_of_isPrefix (streamEvents_sequence _ _) hstream
  have hlast : DisconnectedLast (pool.transcript.of sessionId) := by
    apply Pairwise.sublist hstream.sublist
    rw [streamEvents, pairwise_map, pairwise_append, packetEvents, mapIdx_eq_zipIdx_map,
      pairwise_map]
    refine ⟨pairwise_of_forall fun _ _ => SessionEventKind.noConfusion, pairwise_singleton _ _, ?_⟩
    intro _ hmem _ _
    obtain ⟨_, _, rfl⟩ := mem_map.mp hmem
    exact SessionEventKind.noConfusion
  have hcalls := (hkept.sound.calls_numbered hnumbered (prefix_refl _)).2 hunfailed
  apply hcalls.eq_of_length_le
  apply Subperm.length_le
  apply subperm_of_subset
  · apply Nodup.of_map SessionEvent.sequence
    rw [hnumbered]
    exact nodup_range
  · intro event haccepted
    exact hview.invoked_of_accepted (hkept.atRest hquiescent sessionId) hnumbered hlast
      (fun hmem => hunfailed (failed_mem_of.mp hmem)) haccepted

theorem quiescent_calls_pushed_receivingMoves :
    ∃ (state : ServerConfiguration) (pool : Pool 1),
      eventsFor state.own.pushed 1 = packetEvents 1 [⟨⟨1⟩, []⟩] ∧
      invoked (pool.transcript.of 1) =
        (eventsFor state.own.pushed 1).map InputEvent.toSessionEvent := by
  obtain ⟨state, pool, hpushed, hserver, hpool, hquiescent, hunfailed, hinbox⟩ :=
    receivingMoves_handled
  exact ⟨state, pool, hpushed, quiescent_calls_pushed hserver hpool hquiescent hunfailed hinbox⟩

end SessionServer
