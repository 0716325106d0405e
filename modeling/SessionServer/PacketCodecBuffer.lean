import SessionServer.PacketCodec

/-!
# The codec of a connection

The bytes that were fed in, and how many of them are consumed.  Consumed bytes
stay in the buffer until `compactConsumedPrefix` finds enough of them.
-/

namespace SessionServer.Protocol

open List

def compactionThreshold : ℕ := 4096

def readU16At (buffer : Bytes) (index : ℕ) : UInt16 :=
  readU16 (buffer.getD index 0) (buffer.getD (index + 1) 0)

structure PacketCodec where
  buffer : Bytes := []
  head : ℕ := 0
  head_le : head ≤ buffer.length := by simp

def PacketCodec.empty : PacketCodec := {}

/-- A complete frame within this many bytes. -/
structure PacketFrame (available : ℕ) where
  size : ℕ
  type : PacketType
  size_ge : packetHeaderSize ≤ size
  size_le : size ≤ available

/-- What a caller hands to `feed`. -/
inductive InputBuffer
  | null (size : ℕ)
  | bytes (data : Bytes)
  deriving DecidableEq

def InputBuffer.size : InputBuffer → ℕ
  | .null size => size
  | .bytes data => data.length

inductive CodecException
  | protocolError (error : ProtocolError)
  | logicError (message : String)
  deriving DecidableEq

namespace PacketCodec

def bufferedByteCount (codec : PacketCodec) : ℕ :=
  codec.buffer.length - codec.head

def compactConsumedPrefix (codec : PacketCodec) : PacketCodec :=
  if codec.head = 0 then codec
  else if codec.head = codec.buffer.length then { buffer := [], head := 0 }
  else if compactionThreshold ≤ codec.head ∧ codec.buffer.length / 2 ≤ codec.head then
    { buffer := codec.buffer.drop codec.head, head := 0 }
  else codec

def feed (codec : PacketCodec) (input : InputBuffer) : Except ProtocolError PacketCodec :=
  if input.size = 0 then .ok codec
  else
    match input with
    | .null _ => .error ⟨"null input buffer"⟩
    | .bytes data =>
      let compacted := codec.compactConsumedPrefix
      .ok { compacted with
        buffer := compacted.buffer ++ data
        head_le := by
          rw [length_append]
          exact Nat.le_add_right_of_le compacted.head_le }

def packetFrameAt (codec : PacketCodec) (offset : ℕ) :
    Except ProtocolError (Option (PacketFrame (codec.bufferedByteCount - offset))) :=
  let available := codec.bufferedByteCount - offset
  if offset > codec.bufferedByteCount then .ok none
  else if available < packetHeaderSize then .ok none
  else
    let header := codec.head + offset
    let packetSize := (readU16At codec.buffer header).toNat
    let packetType : PacketType := ⟨readU16At codec.buffer (header + 2)⟩
    if hsmall : packetSize < packetHeaderSize then .error ⟨"invalid packet size"⟩
    else if packetSize > maxPacketSize then .error ⟨"packet exceeds max size"⟩
    else if hlarge : available < packetSize then .ok none
    else .ok (some ⟨packetSize, packetType, not_lt.mp hsmall, not_lt.mp hlarge⟩)

/-- The bytes from one index of the buffer up to another. -/
def slice (codec : PacketCodec) (first last : ℕ) : Bytes :=
  (codec.buffer.drop first).take (last - first)

def packetAt (codec : PacketCodec) (offset : ℕ)
    (frame : PacketFrame (codec.bufferedByteCount - offset)) : Packet where
  type := frame.type
  payload := codec.slice (codec.head + offset + packetHeaderSize) (codec.head + offset + frame.size)

def peekPacket (codec : PacketCodec) : Except ProtocolError (Option Packet) := do
  match ← codec.packetFrameAt 0 with
  | none => return none
  | some frame => return some (codec.packetAt 0 frame)

/-- Move the head over bytes that are buffered. -/
def advance (codec : PacketCodec) (size : ℕ) (hsize : size ≤ codec.bufferedByteCount) :
    PacketCodec :=
  { codec with
    head := codec.head + size
    head_le := by
      have hhead := codec.head_le
      unfold bufferedByteCount at hsize
      omega }

def consumePacket (codec : PacketCodec) : Except CodecException PacketCodec :=
  match codec.packetFrameAt 0 with
  | .error failure => .error (.protocolError failure)
  | .ok none => .error (.logicError "no completed packet to consume")
  | .ok (some frame) => .ok (codec.advance frame.size frame.size_le).compactConsumedPrefix

/-- What the loop of `drainPackets` has collected. -/
structure Drained (codec : PacketCodec) where
  packets : List Packet
  offset : ℕ
  offset_le : offset ≤ codec.bufferedByteCount

def drainLoop (codec : PacketCodec) (drained : Drained codec) :
    Except ProtocolError (Drained codec) :=
  match codec.packetFrameAt drained.offset with
  | .error failure => .error failure
  | .ok none => .ok drained
  | .ok (some frame) =>
    drainLoop codec {
      packets := drained.packets ++ [codec.packetAt drained.offset frame]
      offset := drained.offset + frame.size
      offset_le := by
        have hsize := frame.size_le
        have hoffset := drained.offset_le
        omega }
termination_by codec.bufferedByteCount - drained.offset
decreasing_by
  have hge := frame.size_ge
  have hle := frame.size_le
  simp only [packetHeaderSize] at hge
  omega

def drainPackets (codec : PacketCodec) :
    Except ProtocolError (List Packet × PacketCodec) := do
  let drained ← codec.drainLoop ⟨[], 0, Nat.zero_le _⟩
  if drained.offset ≠ 0 then
    return (drained.packets, (codec.advance drained.offset drained.offset_le).compactConsumedPrefix)
  else return (drained.packets, codec)

/-- `drainPackets` with the codec it leaves behind: the loop throws before
anything is written. -/
def runDrainPackets (codec : PacketCodec) : Except ProtocolError (List Packet) × PacketCodec :=
  match codec.drainLoop ⟨[], 0, Nat.zero_le _⟩ with
  | .error failure => (.error failure, codec)
  | .ok drained =>
    let codec :=
      if drained.offset ≠ 0 then
        (codec.advance drained.offset drained.offset_le).compactConsumedPrefix
      else codec
    (.ok drained.packets, codec)

/-! ## The unconsumed bytes -/

def unconsumed (codec : PacketCodec) : Bytes :=
  codec.buffer.drop codec.head

theorem unconsumed_length (codec : PacketCodec) :
    codec.unconsumed.length = codec.bufferedByteCount := by
  rw [unconsumed, bufferedByteCount, length_drop]

/-- Compaction cannot be seen. -/
@[simp] theorem unconsumed_compactConsumedPrefix (codec : PacketCodec) :
    codec.compactConsumedPrefix.unconsumed = codec.unconsumed := by
  unfold compactConsumedPrefix
  split
  · rfl
  split
  · next hall =>
    unfold unconsumed
    rw [hall, drop_length]
    rfl
  split
  · rfl
  · rfl

@[simp] theorem unconsumed_advance (codec : PacketCodec) {size : ℕ}
    (hsize : size ≤ codec.bufferedByteCount) :
    (codec.advance size hsize).unconsumed = codec.unconsumed.drop size := by
  unfold unconsumed advance
  rw [drop_drop]

theorem slice_unconsumed (codec : PacketCodec) (offset first last : ℕ) :
    codec.slice (codec.head + offset + first) (codec.head + offset + last) =
      ((codec.unconsumed.drop offset).drop first).take (last - first) := by
  unfold slice unconsumed
  rw [drop_drop, drop_drop]
  congr 1
  · omega
  · rw [Nat.add_assoc]

theorem feed_null (codec : PacketCodec) (size : ℕ) :
    codec.feed (.null size) =
      if size = 0 then .ok codec else .error ⟨"null input buffer"⟩ := rfl

theorem feed_bytes (codec : PacketCodec) (data : Bytes) :
    ∃ fed, codec.feed (.bytes data) = .ok fed ∧ fed.unconsumed = codec.unconsumed ++ data := by
  unfold feed
  split
  · next hsize =>
    have hempty : data = [] := length_eq_zero_iff.mp hsize
    refine ⟨codec, rfl, ?_⟩
    rw [hempty, append_nil]
  · refine ⟨_, rfl, ?_⟩
    have hkept := codec.unconsumed_compactConsumedPrefix
    unfold unconsumed at hkept ⊢
    rw [drop_append_of_le_length codec.compactConsumedPrefix.head_le, hkept]

end PacketCodec

end SessionServer.Protocol
