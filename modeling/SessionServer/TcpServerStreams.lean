import SessionServer.PacketStream
import SessionServer.TcpServerState

/-!
# The stream of a session

What a session has received and pushed, against the reference decoding of the
bytes: the events are the packets in order, and a Disconnected event comes only
when the bytes hold no further complete frame.
-/

namespace SessionServer.TcpServer

open Protocol ReferenceCodec Except

variable {codec : PacketCodec} {packet : Packet}

def packetEvent (id : ℕ) (packet : Packet) (sequence : ℕ) : InputEvent :=
  { kind := .packet, sessionId := id, packet, sequence }

/-- The Packet events of a session, numbered from zero. -/
def packetEvents (id : ℕ) (packets : List Packet) : List InputEvent :=
  packets.mapIdx fun index packet => packetEvent id packet index

def disconnectedEvent (id sequence : ℕ) : InputEvent :=
  { kind := .disconnected, sessionId := id, sequence }

theorem packetEvents_append (id : ℕ) (packets : List Packet) (packet : Packet) :
    packetEvents id (packets ++ [packet]) =
      packetEvents id packets ++ [packetEvent id packet packets.length] := by
  unfold packetEvents
  rw [List.mapIdx_concat]

/-- The bytes begin with these packets, and the events are these packets,
followed by a Disconnected event at most when no complete frame is left. -/
def Delivered (id : ℕ) (received : Bytes) (events : List InputEvent) : Prop :=
  ∃ packets rest, Decodes received packets rest ∧
    (events = packetEvents id packets ∨
      events = packetEvents id packets ++ [disconnectedEvent id packets.length] ∧
        ∀ packet behind, nextPacket rest ≠ .ok (some (packet, behind)))

namespace Session

/-- The codec holds exactly what was received and not pushed. -/
def Tracks (session : Session) (received : Bytes) (events : List InputEvent) : Prop :=
  ∃ packets, Decodes received packets session.codec.unconsumed ∧
    events = packetEvents session.id packets ∧ session.nextEventSequence = packets.length

variable {session : Session} {received : Bytes} {events : List InputEvent}

theorem Tracks.delivered (htracks : session.Tracks received events) :
    Delivered session.id received events := by
  obtain ⟨packets, hdecodes, hevents, _⟩ := htracks
  exact ⟨packets, _, hdecodes, .inl hevents⟩

theorem Tracks.congr (htracks : session.Tracks received events) {after : Session}
    (hid : after.id = session.id) (hcodec : after.codec = session.codec)
    (hsequence : after.nextEventSequence = session.nextEventSequence) :
    after.Tracks received events := by
  unfold Tracks
  rw [hid, hcodec, hsequence]
  exact htracks

theorem Tracks.delivered_receive (htracks : session.Tracks received events) (data : Bytes) :
    Delivered session.id (received ++ data) events := by
  obtain ⟨packets, hdecodes, hevents, _⟩ := htracks
  exact ⟨packets, _, hdecodes.append data, .inl hevents⟩

theorem Tracks.feed (htracks : session.Tracks received events) {data : Bytes}
    (hfeed : session.codec.feed (.bytes data) = .ok codec) :
    { session with codec }.Tracks (received ++ data) events := by
  obtain ⟨packets, hdecodes, hevents, hsequence⟩ := htracks
  obtain ⟨_, hfed, hunconsumed⟩ := session.codec.feed_bytes data
  rw [hfed, ok.injEq] at hfeed
  subst hfeed
  refine ⟨packets, ?_, hevents, hsequence⟩
  rw [hunconsumed]
  exact hdecodes.append data

theorem nextPacket_of_peek (hpeek : codec.peekPacket = .ok (some packet)) :
    ∃ behind, nextPacket codec.unconsumed = .ok (some (packet, behind)) := by
  rw [← codec.peekPacket_unconsumed, peekPacket] at hpeek
  cases hnext : nextPacket codec.unconsumed with
  | error =>
    rw [hnext] at hpeek
    simp [Except.map] at hpeek
  | ok next =>
    rw [hnext] at hpeek
    cases next with
    | none => simp [Except.map] at hpeek
    | some next =>
      simp only [Except.map, Option.map_some, Except.ok.injEq, Option.some.injEq] at hpeek
      exact ⟨next.2, by rw [← hpeek]⟩

theorem consume_of_peek (hpeek : codec.peekPacket = .ok (some packet)) :
    ∃ consumed, codec.consumePacket = .ok consumed ∧
      nextPacket codec.unconsumed = .ok (some (packet, consumed.unconsumed)) := by
  obtain ⟨_, hnext⟩ := nextPacket_of_peek hpeek
  have hconsume := codec.consumePacket_unconsumed
  rw [consumePacket, hnext] at hconsume
  cases hconsumed : codec.consumePacket with
  | error =>
    rw [hconsumed] at hconsume
    simp [Except.map] at hconsume
  | ok consumed =>
    rw [hconsumed] at hconsume
    simp only [Except.map, Except.ok.injEq] at hconsume
    exact ⟨consumed, rfl, by rw [hnext, hconsume]⟩

theorem Tracks.push (htracks : session.Tracks received events)
    (hpeek : session.codec.peekPacket = .ok (some packet))
    (hconsume : session.codec.consumePacket = .ok codec) :
    { session with codec }.commitEventSequence.Tracks received
      (events ++ [packetEvent session.id packet session.nextEventSequence]) := by
  obtain ⟨packets, hdecodes, hevents, hsequence⟩ := htracks
  obtain ⟨_, hconsumed, hnext⟩ := consume_of_peek hpeek
  rw [hconsumed, ok.injEq] at hconsume
  subst hconsume
  refine ⟨packets ++ [packet], hdecodes.trans (.cons hnext (.nil _)), ?_, ?_⟩
  · rw [hevents, hsequence]
    exact (packetEvents_append session.id packets packet).symm
  · change session.nextEventSequence + 1 = _
    rw [hsequence, List.length_append]
    rfl

/-- A Disconnected event is pushed when the codec holds no complete frame. -/
theorem Tracks.disconnect (htracks : session.Tracks received events)
    (hpeek : ∀ packet, session.codec.peekPacket ≠ .ok (some packet)) :
    Delivered session.id received
      (events ++ [disconnectedEvent session.id session.nextEventSequence]) := by
  obtain ⟨packets, hdecodes, hevents, hsequence⟩ := htracks
  refine ⟨packets, _, hdecodes, .inr ⟨?_, ?_⟩⟩
  · rw [hevents, hsequence]
  · intro packet _ hnext
    apply hpeek packet
    rw [← session.codec.peekPacket_unconsumed, peekPacket, hnext]
    rfl

theorem hasCompletedPacket_iff :
    session.hasCompletedPacket = true ↔ ∃ packet, session.codec.peekPacket = .ok (some packet) := by
  unfold hasCompletedPacket
  cases hpeek : session.codec.peekPacket with
  | error => simp
  | ok packet =>
    cases packet with
    | none | some => simp

/-- A codec without a complete frame holds less than a packet. -/
theorem bufferedByteCount_of_peek (hpeek : codec.peekPacket = .ok none) :
    codec.bufferedByteCount ≤ 4095 := by
  have hnext : nextPacket codec.unconsumed = .ok none := by
    rw [← codec.peekPacket_unconsumed, peekPacket] at hpeek
    cases hnext : nextPacket codec.unconsumed with
    | error =>
      rw [hnext] at hpeek
      simp [Except.map] at hpeek
    | ok next =>
      rw [hnext] at hpeek
      cases next with
      | none => rfl
      | some => simp [Except.map] at hpeek
  have hlt := (incomplete_of_nextPacket hnext).length_lt
  rw [codec.unconsumed_length] at hlt
  omega

theorem bufferedByteCount_feed {fed : PacketCodec} {data : Bytes}
    (hfeed : codec.feed (.bytes data) = .ok fed) :
    fed.bufferedByteCount = codec.bufferedByteCount + data.length := by
  obtain ⟨result, hresult, hunconsumed⟩ := codec.feed_bytes data
  rw [hresult, ok.injEq] at hfeed
  subst hfeed
  rw [← result.unconsumed_length, hunconsumed, List.length_append, codec.unconsumed_length]

theorem bufferedByteCount_consume {consumed : PacketCodec}
    (hpeek : codec.peekPacket = .ok (some packet)) (hconsume : codec.consumePacket = .ok consumed) :
    consumed.bufferedByteCount ≤ codec.bufferedByteCount := by
  obtain ⟨result, hresult, hnext⟩ := consume_of_peek hpeek
  rw [hresult, ok.injEq] at hconsume
  subst hconsume
  have hlt := nextPacket_length_lt hnext
  rw [result.unconsumed_length, codec.unconsumed_length] at hlt
  omega

end Session

end SessionServer.TcpServer
