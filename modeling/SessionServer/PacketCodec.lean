import SessionServer.ProtocolText

/-!
# Packet frames

A frame is its size and its packet type in network byte order, followed by
the payload.  A `float` is its bit pattern.
-/

namespace SessionServer.Protocol

def packetHeaderSize : ℕ := 4
def maxPacketSize : ℕ := 4096

def writeU16 (value : UInt16) : Bytes :=
  [((value >>> 8) &&& 0xff).toUInt8, (value &&& 0xff).toUInt8]

def readU16 (high low : UInt8) : UInt16 :=
  (high.toUInt16 <<< 8) ||| low.toUInt16

def readU32 (first second third fourth : UInt8) : UInt32 :=
  (first.toUInt32 <<< 24) ||| (second.toUInt32 <<< 16) |||
    (third.toUInt32 <<< 8) ||| fourth.toUInt32

namespace PacketCodec

def encode (type : PacketType) (payload : Bytes) : Except ProtocolError Bytes :=
  let totalSize := payload.length + packetHeaderSize
  if totalSize > maxPacketSize ∨ totalSize > 65535 then
    .error ⟨"packet payload is too large"⟩
  else
    .ok (writeU16 (UInt16.ofNat totalSize) ++ writeU16 type.code ++ payload)

structure Position where
  x : UInt32
  y : UInt32
  deriving DecidableEq, Repr

def decodePosition : Bytes → Except ProtocolError Position
  | [a, b, c, d, e, f, g, h] => .ok ⟨readU32 a b c d, readU32 e f g h⟩
  | _ => .error ⟨"position payload must be exactly 8 bytes"⟩

/-- The type that the header of an encoded packet announces. -/
def typeOf : Bytes → Option PacketType
  | _ :: _ :: high :: low :: _ => some ⟨readU16 high low⟩
  | _ => none

theorem toUInt8_and_ff (value : UInt16) : (value &&& 0xff).toUInt8 = value.toUInt8 := by
  apply UInt8.toNat_inj.mp
  have hmod := Nat.and_two_pow_sub_one_eq_mod (value.toNat % 256) 8
  simpa using hmod

theorem readU16_writeU16 (value : UInt16) :
    readU16 ((value >>> 8) &&& 0xff).toUInt8 (value &&& 0xff).toUInt8 = value := by
  rw [toUInt8_and_ff, toUInt8_and_ff]
  apply UInt16.eq_of_toBitVec_eq
  simp only [readU16, UInt16.toBitVec_or, UInt16.toBitVec_shiftLeft,
    UInt8.toBitVec_toUInt16, UInt16.toBitVec_toUInt8, UInt16.toBitVec_shiftRight]
  ext i hi
  by_cases hlow : i < 8
  · simp [hlow, BitVec.getLsbD_eq_getElem hi]
  · have hrange : i - 8 < 8 := by omega
    have hback : 8 + (i - 8) = i := by omega
    simp [hlow, hrange, hback, BitVec.getLsbD_eq_getElem hi]

theorem encode_ok {type : PacketType} {payload : Bytes}
    (hlength : payload.length + packetHeaderSize ≤ maxPacketSize) :
    encode type payload = .ok (writeU16 (UInt16.ofNat (payload.length + packetHeaderSize)) ++
      writeU16 type.code ++ payload) := by
  unfold encode
  rw [if_neg]
  simp only [maxPacketSize] at hlength ⊢
  omega

theorem typeOf_encode {type : PacketType} {payload bytes : Bytes}
    (hencode : encode type payload = .ok bytes) : typeOf bytes = some type := by
  unfold encode at hencode
  simp only at hencode
  split at hencode
  next => simp at hencode
  next =>
    cases hencode
    simp only [writeU16, List.cons_append, List.nil_append, typeOf]
    rw [readU16_writeU16]

end PacketCodec

end SessionServer.Protocol
