import SessionServer.PacketCodecReference

/-!
# Streams of packets

Encoding and draining undo each other: the encodings of packets drain to these
packets, and every stream that drains is the encodings of its packets followed
by an incomplete frame.
-/

namespace SessionServer.Protocol

open ReferenceCodec PacketCodec List

variable {bytes rest : Bytes} {packets : List Packet}

theorem writeU16_readU16 (high low : UInt8) : writeU16 (readU16 high low) = [high, low] := by
  have hhigh : (readU16 high low >>> 8).toUInt8 = high := by
    apply UInt8.eq_of_toBitVec_eq
    simp only [readU16, UInt16.toBitVec_toUInt8, UInt16.toBitVec_shiftRight,
      UInt16.toBitVec_or, UInt16.toBitVec_shiftLeft, UInt8.toBitVec_toUInt16]
    ext i hi
    have hbyte : 8 + i < 16 := by omega
    have hword : i < 16 := by omega
    simp [hi, hbyte, hword]
  have hlow : (readU16 high low).toUInt8 = low := by
    apply UInt8.eq_of_toBitVec_eq
    simp only [readU16, UInt16.toBitVec_toUInt8, UInt16.toBitVec_or,
      UInt16.toBitVec_shiftLeft, UInt8.toBitVec_toUInt16]
    simp
  rw [writeU16, toUInt8_and_ff, toUInt8_and_ff, hhigh, hlow]

namespace PacketCodec

/-- The encodings of packets, one by one. -/
def encodeAll (packets : List Packet) : Except ProtocolError (List Bytes) :=
  packets.mapM fun packet => encode packet.type packet.payload

/-- Feed the chunks one after another. -/
def feedAll (codec : PacketCodec) (chunks : List Bytes) : Except ProtocolError PacketCodec :=
  chunks.foldlM (fun codec chunk => codec.feed (.bytes chunk)) codec

def feedAndDrain (chunks : List Bytes) : Except ProtocolError (List Packet × PacketCodec) := do
  let fed ← feedAll .empty chunks
  fed.drainPackets

theorem feedAll_ok (codec : PacketCodec) (chunks : List Bytes) :
    ∃ fed, codec.feedAll chunks = .ok fed ∧
      fed.unconsumed = codec.unconsumed ++ chunks.flatten := by
  induction chunks generalizing codec with
  | nil => exact ⟨codec, rfl, by simp⟩
  | cons chunk _ ih =>
    obtain ⟨first, hfirst, hunconsumed⟩ := codec.feed_bytes chunk
    obtain ⟨fed, hfed, hall⟩ := ih first
    refine ⟨fed, ?_, ?_⟩
    · rw [feedAll, foldlM_cons, hfirst]
      exact hfed
    · rw [hall, hunconsumed, append_assoc, flatten_cons]

theorem encode_error_iff (type : PacketType) (payload : Bytes) :
    (∃ failure, encode type payload = .error failure) ↔ 4092 < payload.length := by
  constructor
  · rintro ⟨_, hfailure⟩
    by_contra hfits
    rw [encode_ok] at hfailure
    · cases hfailure
    · simp only [packetHeaderSize, maxPacketSize]
      omega
  · intro _
    unfold encode
    rw [if_pos]
    · exact ⟨_, rfl⟩
    · simp only [packetHeaderSize, maxPacketSize]
      omega

end PacketCodec

/-! ## One packet -/

theorem nextPacket_encode {packet : Packet} {frame : Bytes}
    (hencode : encode packet.type packet.payload = .ok frame) (behind : Bytes) :
    nextPacket (frame ++ behind) = .ok (some (packet, behind)) := by
  have hlength : packet.payload.length + packetHeaderSize ≤ maxPacketSize := by
    by_contra hlarge
    have herror := (encode_error_iff packet.type packet.payload).mpr (by
      simp only [packetHeaderSize, maxPacketSize] at hlarge
      omega)
    rw [hencode] at herror
    simp at herror
  rw [encode_ok hlength] at hencode
  cases hencode
  have hsize : (UInt16.ofNat (packet.payload.length + packetHeaderSize)).toNat =
      packet.payload.length + packetHeaderSize := by
    apply UInt16.toNat_ofNat_of_lt'
    simp only [maxPacketSize, UInt16.size] at hlength ⊢
    omega
  simp only [writeU16, cons_append, nil_append, nextPacket, readU16_writeU16, hsize]
  rw [if_neg (by omega), if_neg (by omega), if_neg]
  · rw [Nat.add_sub_cancel, take_left, drop_left]
  · simp only [length_cons, length_append, packetHeaderSize]
    omega

theorem encode_nextPacket {packet : Packet} (hnext : nextPacket bytes = .ok (some (packet, rest))) :
    ∃ frame, encode packet.type packet.payload = .ok frame ∧ bytes = frame ++ rest := by
  match bytes with
  | [] | [_] | [_, _] | [_, _, _] => simp [nextPacket] at hnext
  | first :: second :: third :: fourth :: body =>
    simp only [nextPacket] at hnext
    split at hnext
    · simp at hnext
    next _ =>
      split at hnext
      · simp at hnext
      next _ =>
        split at hnext
        · simp at hnext
        next _ =>
          obtain ⟨rfl, rfl⟩ := hnext
          have hsize : (body.take ((readU16 first second).toNat - packetHeaderSize)).length +
              packetHeaderSize = (readU16 first second).toNat := by
            simp only [length_take, length_cons, packetHeaderSize] at *
            omega
          refine ⟨_, encode_ok (by rw [hsize]; omega), ?_⟩
          rw [hsize, UInt16.ofNat_toNat, writeU16_readU16, writeU16_readU16]
          simp

/-! ## Streams -/

/-- No complete frame: the header or what it announces is missing. -/
def Incomplete (bytes : Bytes) : Prop :=
  bytes.length < packetHeaderSize ∨
    bytes.length < (readU16At bytes 0).toNat ∧ (readU16At bytes 0).toNat ≤ maxPacketSize

theorem incomplete_of_nextPacket (hnext : nextPacket bytes = .ok none) : Incomplete bytes := by
  match bytes with
  | [] | [_] | [_, _] | [_, _, _] =>
    left
    simp [packetHeaderSize]
  | first :: second :: third :: fourth :: body =>
    right
    simp only [nextPacket] at hnext
    split at hnext
    · simp at hnext
    split at hnext
    · simp at hnext
    next hexceeds =>
      split at hnext
      · next hlarge => exact ⟨hlarge, not_lt.mp hexceeds⟩
      · simp at hnext

theorem Incomplete.length_lt (hincomplete : Incomplete bytes) : bytes.length < 4096 := by
  unfold Incomplete at hincomplete
  simp only [packetHeaderSize, maxPacketSize] at hincomplete
  omega

theorem decodes_encodeAll (hsmall : ∀ packet ∈ packets, packet.payload.length ≤ 4092) :
    ∃ frames, encodeAll packets = .ok frames ∧ Decodes frames.flatten packets [] := by
  induction packets with
  | nil => exact ⟨[], rfl, .nil _⟩
  | cons packet rest ih =>
    obtain ⟨frames, hframes, hdecodes⟩ :=
      ih fun other hother => hsmall other (mem_cons_of_mem _ hother)
    have hfits : packet.payload.length + packetHeaderSize ≤ maxPacketSize := by
      have hpacket := hsmall packet mem_cons_self
      simp only [packetHeaderSize, maxPacketSize]
      omega
    have hencode : encode packet.type packet.payload = .ok _ :=
      encode_ok hfits
    refine ⟨_ :: frames, ?_, .cons (nextPacket_encode hencode _) hdecodes⟩
    rw [encodeAll, mapM_cons, hencode]
    change (do
      let frames ← encodeAll rest
      pure (_ :: frames)) = _
    rw [hframes]
    rfl

theorem Decodes.encodeAll (hdecodes : Decodes bytes packets rest) :
    ∃ frames, PacketCodec.encodeAll packets = .ok frames ∧ frames.flatten ++ rest = bytes := by
  induction hdecodes with
  | nil => exact ⟨[], rfl, rfl⟩
  | cons hnext _ ih =>
    obtain ⟨frame, hencode, rfl⟩ := encode_nextPacket hnext
    obtain ⟨frames, hframes, hbytes⟩ := ih
    refine ⟨frame :: frames, ?_, ?_⟩
    · rw [PacketCodec.encodeAll, mapM_cons, hencode]
      change (do
        let frames ← PacketCodec.encodeAll _
        pure (frame :: frames)) = _
      rw [hframes]
      rfl
    · rw [flatten_cons, append_assoc, hbytes]

theorem Decodes.drainPackets (hdecodes : Decodes bytes packets rest)
    (hleft : nextPacket rest = .ok none) :
    drainPackets bytes = .ok (packets, rest) := by
  induction hdecodes with
  | nil => exact drainPackets_none hleft
  | cons hnext _ ih =>
    rw [drainPackets_next hnext, ih hleft]
    rfl

theorem PacketCodec.feedAndDrain_eq (chunks : List Bytes) :
    (feedAndDrain chunks).map (Prod.map id unconsumed) =
      ReferenceCodec.drainPackets chunks.flatten := by
  obtain ⟨fed, hfed, hunconsumed⟩ := feedAll_ok .empty chunks
  change fed.unconsumed = chunks.flatten at hunconsumed
  rw [← hunconsumed, drainPackets_unconsumed, feedAndDrain, hfed]
  rfl

theorem packet_stream_roundTrip :
    (∀ packets : List Packet, (∀ packet ∈ packets, packet.payload.length ≤ 4092) →
      ∃ frames, encodeAll packets = .ok frames ∧
        ∀ chunks : List Bytes, chunks.flatten = frames.flatten →
          ∃ codec, feedAndDrain chunks = .ok (packets, codec) ∧ codec.bufferedByteCount = 0) ∧
    (∀ type payload, (∃ failure, encode type payload = .error failure) ↔ 4092 < payload.length) ∧
    ∀ (chunks : List Bytes) (packets : List Packet) (codec : PacketCodec),
      feedAndDrain chunks = .ok (packets, codec) →
      (∃ frames, encodeAll packets = .ok frames ∧
        frames.flatten ++ codec.unconsumed = chunks.flatten) ∧
      Incomplete codec.unconsumed ∧ codec.unconsumed.length < 4096 := by
  refine ⟨?_, encode_error_iff, ?_⟩
  · intro packets hsmall
    obtain ⟨frames, hframes, hdecodes⟩ := decodes_encodeAll hsmall
    refine ⟨frames, hframes, ?_⟩
    intro chunks hchunks
    have hdrain := feedAndDrain_eq chunks
    rw [hchunks, hdecodes.drainPackets rfl] at hdrain
    cases hresult : feedAndDrain chunks with
    | error =>
      rw [hresult] at hdrain
      cases hdrain
    | ok result =>
      rw [hresult] at hdrain
      obtain ⟨_, codec⟩ := result
      simp only [Except.map, Except.ok.injEq, Prod.map_apply, id_eq, Prod.mk.injEq] at hdrain
      refine ⟨codec, by rw [hdrain.1], ?_⟩
      rw [← unconsumed_length, hdrain.2]
      rfl
  · intro chunks _ _ hresult
    have hdrain := feedAndDrain_eq chunks
    rw [hresult] at hdrain
    obtain ⟨hdecodes, hleft⟩ := Decodes.of_drainPackets hdrain.symm
    have hincomplete := incomplete_of_nextPacket hleft
    exact ⟨hdecodes.encodeAll, hincomplete, hincomplete.length_lt⟩

end SessionServer.Protocol
