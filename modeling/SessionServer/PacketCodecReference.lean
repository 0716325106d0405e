import SessionServer.ObservedMachine
import SessionServer.PacketCodecBuffer

/-!
# The codec and its reference

The reference codec holds only the bytes that are not consumed.  The codec
gives the same results, and what it hands out is what the fed stream holds.
-/

namespace SessionServer.Protocol

open PacketCodec List Prod

/-! ## The reference -/

namespace ReferenceCodec

variable {packet : Packet}

/-- The first packet of the bytes and what is behind it. -/
def nextPacket (bytes : Bytes) : Except ProtocolError (Option (Packet × Bytes)) :=
  match bytes with
  | sizeHigh :: sizeLow :: typeHigh :: typeLow :: rest =>
    let size := (readU16 sizeHigh sizeLow).toNat
    if size < packetHeaderSize then .error ⟨"invalid packet size"⟩
    else if size > maxPacketSize then .error ⟨"packet exceeds max size"⟩
    else if bytes.length < size then .ok none
    else .ok (some (⟨⟨readU16 typeHigh typeLow⟩, rest.take (size - packetHeaderSize)⟩,
      rest.drop (size - packetHeaderSize)))
  | _ => .ok none

theorem nextPacket_length_lt {bytes rest : Bytes}
    (hnext : nextPacket bytes = .ok (some (packet, rest))) : rest.length < bytes.length := by
  unfold nextPacket at hnext
  split at hnext
  · simp only at hnext
    split at hnext
    · simp at hnext
    split at hnext
    · simp at hnext
    split at hnext
    · simp at hnext
    · simp only [Except.ok.injEq, Option.some.injEq, Prod.mk.injEq] at hnext
      rw [← hnext.2, length_drop]
      simp only [length_cons]
      omega
  · simp at hnext

def feed (bytes : Bytes) (input : InputBuffer) : Except ProtocolError Bytes :=
  match input with
  | .null size => if size = 0 then .ok bytes else .error ⟨"null input buffer"⟩
  | .bytes data => .ok (bytes ++ data)

def peekPacket (bytes : Bytes) : Except ProtocolError (Option Packet) :=
  (nextPacket bytes).map (Option.map fst)

def consumePacket (bytes : Bytes) : Except CodecException Bytes :=
  match nextPacket bytes with
  | .error failure => .error (.protocolError failure)
  | .ok none => .error (.logicError "no completed packet to consume")
  | .ok (some (_, rest)) => .ok rest

def drainPackets (bytes : Bytes) : Except ProtocolError (List Packet × Bytes) :=
  match _ : nextPacket bytes with
  | .error failure => .error failure
  | .ok none => .ok ([], bytes)
  | .ok (some (packet, rest)) => do
      let (packets, left) ← drainPackets rest
      return (packet :: packets, left)
termination_by bytes.length
decreasing_by exact nextPacket_length_lt ‹_›

/-- All packets of the bytes up to the first that is not complete or not
well-formed. -/
def packetsOf (bytes : Bytes) : List Packet :=
  match _ : nextPacket bytes with
  | .ok (some (packet, rest)) => packet :: packetsOf rest
  | _ => []
termination_by bytes.length
decreasing_by exact nextPacket_length_lt ‹_›

theorem drainPackets_next {bytes rest : Bytes}
    (hnext : nextPacket bytes = .ok (some (packet, rest))) :
    drainPackets bytes = (drainPackets rest).map fun result => (packet :: result.1, result.2) := by
  rw [drainPackets]
  split
  · simp_all
  · simp_all
  · next _ _ hfirst =>
    rw [hnext] at hfirst
    cases hfirst
    cases drainPackets rest with
    | error | ok => rfl

theorem drainPackets_none {bytes : Bytes} (hnext : nextPacket bytes = .ok none) :
    drainPackets bytes = .ok ([], bytes) := by
  rw [drainPackets]
  split <;> simp_all

theorem drainPackets_error {bytes : Bytes} {failure : ProtocolError}
    (hnext : nextPacket bytes = .error failure) : drainPackets bytes = .error failure := by
  rw [drainPackets]
  split <;> simp_all

theorem packetsOf_next {bytes rest : Bytes} (hnext : nextPacket bytes = .ok (some (packet, rest))) :
    packetsOf bytes = packet :: packetsOf rest := by
  rw [packetsOf]
  split <;> simp_all

theorem packetsOf_eq_nil {bytes : Bytes}
    (hnext : ∀ packet rest, nextPacket bytes ≠ .ok (some (packet, rest))) :
    packetsOf bytes = [] := by
  rw [packetsOf]
  split <;> simp_all

end ReferenceCodec

/-! ## Calls -/

inductive CodecCall
  | feed (input : InputBuffer)
  | peekPacket
  | consumePacket
  | drainPackets
  | bufferedByteCount

inductive CodecResult
  | done
  | peeked (packet : Option Packet)
  | drained (packets : List Packet)
  | count (bytes : ℕ)
  | threw (exception : CodecException)

def CodecResult.ofProtocolError (failure : ProtocolError) : CodecResult :=
  .threw (.protocolError failure)

/-- A call that throws leaves the codec as it was. -/
def PacketCodec.respond (codec : PacketCodec) : CodecCall → CodecResult × PacketCodec
  | .feed input =>
    match codec.feed input with
    | .error failure => (.ofProtocolError failure, codec)
    | .ok fed => (.done, fed)
  | .peekPacket =>
    match codec.peekPacket with
    | .error failure => (.ofProtocolError failure, codec)
    | .ok packet => (.peeked packet, codec)
  | .consumePacket =>
    match codec.consumePacket with
    | .error exception => (.threw exception, codec)
    | .ok consumed => (.done, consumed)
  | .drainPackets =>
    match codec.drainPackets with
    | .error failure => (.ofProtocolError failure, codec)
    | .ok (packets, drained) => (.drained packets, drained)
  | .bufferedByteCount => (.count codec.bufferedByteCount, codec)

def ReferenceCodec.respond (bytes : Bytes) : CodecCall → CodecResult × Bytes
  | .feed input =>
    match ReferenceCodec.feed bytes input with
    | .error failure => (.ofProtocolError failure, bytes)
    | .ok fed => (.done, fed)
  | .peekPacket =>
    match ReferenceCodec.peekPacket bytes with
    | .error failure => (.ofProtocolError failure, bytes)
    | .ok packet => (.peeked packet, bytes)
  | .consumePacket =>
    match ReferenceCodec.consumePacket bytes with
    | .error exception => (.threw exception, bytes)
    | .ok consumed => (.done, consumed)
  | .drainPackets =>
    match ReferenceCodec.drainPackets bytes with
    | .error failure => (.ofProtocolError failure, bytes)
    | .ok (packets, left) => (.drained packets, left)
  | .bufferedByteCount => (.count bytes.length, bytes)

def packetCodec : ObservedMachine CodecCall CodecResult PacketCodec := ⟨respond⟩

def referenceCodec : ObservedMachine CodecCall CodecResult Bytes := ⟨ReferenceCodec.respond⟩

/-! ## Refinement -/

namespace PacketCodec

variable (codec : PacketCodec)

theorem readU16At_unconsumed {offset : ℕ} {first second third fourth : UInt8} {rest : Bytes}
    (hbytes : codec.unconsumed.drop offset = first :: second :: third :: fourth :: rest) :
    readU16At codec.buffer (codec.head + offset) = readU16 first second ∧
      readU16At codec.buffer (codec.head + offset + 2) = readU16 third fourth := by
  rw [unconsumed, drop_drop] at hbytes
  have hget (index : ℕ) : codec.buffer.getD (codec.head + offset + index) 0 =
      (first :: second :: third :: fourth :: rest).getD index 0 := by
    rw [← hbytes, getD_eq_getElem?_getD, getD_eq_getElem?_getD, getElem?_drop]
  have hzero := hget 0
  have hone := hget 1
  have htwo := hget 2
  have hthree := hget 3
  unfold readU16At
  rw [Nat.add_zero] at hzero
  rw [hzero, hone, htwo, hthree]
  exact ⟨rfl, rfl⟩

/-- The frame at an offset, as the reference reads it. -/
theorem nextPacket_unconsumed {offset : ℕ} (hoffset : offset ≤ codec.bufferedByteCount) :
    ReferenceCodec.nextPacket (codec.unconsumed.drop offset) =
      (codec.packetFrameAt offset).map (Option.map fun frame =>
        (codec.packetAt offset frame, codec.unconsumed.drop (offset + frame.size))) := by
  have hlength : (codec.unconsumed.drop offset).length = codec.bufferedByteCount - offset := by
    rw [length_drop, unconsumed_length]
  unfold packetFrameAt
  rw [if_neg (by omega)]
  match hbytes : codec.unconsumed.drop offset with
  | first :: second :: third :: fourth :: rest =>
    obtain ⟨hsize, htype⟩ := codec.readU16At_unconsumed hbytes
    rw [hbytes] at hlength
    have hheader : ¬ codec.bufferedByteCount - offset < packetHeaderSize := by
      rw [← hlength]
      simp [packetHeaderSize]
    rw [if_neg hheader]
    have hdrop (size : ℕ) (hge : packetHeaderSize ≤ size) :
        codec.unconsumed.drop (offset + size) = rest.drop (size - packetHeaderSize) := by
      rw [← drop_drop, hbytes]
      obtain ⟨_, rfl⟩ := Nat.exists_eq_add_of_le' hge
      rfl
    unfold ReferenceCodec.nextPacket
    simp only [hlength, ← hsize, ← htype]
    by_cases hsmall : (readU16At codec.buffer (codec.head + offset)).toNat < packetHeaderSize
    · rw [if_pos hsmall, dif_pos hsmall]
      rfl
    rw [if_neg hsmall, dif_neg hsmall]
    by_cases hexceeds : (readU16At codec.buffer (codec.head + offset)).toNat > maxPacketSize
    · rw [if_pos hexceeds, if_pos hexceeds]
      rfl
    rw [if_neg hexceeds, if_neg hexceeds]
    by_cases hlarge : codec.bufferedByteCount - offset <
        (readU16At codec.buffer (codec.head + offset)).toNat
    · rw [if_pos hlarge, dif_pos hlarge]
      rfl
    rw [if_neg hlarge, dif_neg hlarge]
    simp only [Except.map, Option.map_some, packetAt, slice_unconsumed, hbytes,
      hdrop _ (not_lt.mp hsmall)]
    rfl
  | [] | [_] | [_, _] | [_, _, _] =>
    rw [hbytes] at hlength
    rw [if_pos]
    · rfl
    · rw [← hlength]
      simp [packetHeaderSize]

theorem feed_unconsumed (input : InputBuffer) :
    ReferenceCodec.feed codec.unconsumed input = (codec.feed input).map unconsumed := by
  cases input with
  | null size =>
    rw [feed_null, ReferenceCodec.feed]
    by_cases hsize : size = 0
    · rw [if_pos hsize, if_pos hsize]
      rfl
    · rw [if_neg hsize, if_neg hsize]
      rfl
  | bytes data =>
    obtain ⟨_, hfeed, hfed⟩ := codec.feed_bytes data
    rw [hfeed, ReferenceCodec.feed, ← hfed]
    rfl

theorem peekPacket_unconsumed : ReferenceCodec.peekPacket codec.unconsumed = codec.peekPacket := by
  have hnext := codec.nextPacket_unconsumed (Nat.zero_le _)
  rw [drop_zero] at hnext
  unfold ReferenceCodec.peekPacket peekPacket
  rw [hnext]
  cases codec.packetFrameAt 0 with
  | error => rfl
  | ok frame =>
    cases frame with
    | none | some => rfl

theorem consumePacket_unconsumed :
    ReferenceCodec.consumePacket codec.unconsumed = codec.consumePacket.map unconsumed := by
  have hnext := codec.nextPacket_unconsumed (Nat.zero_le _)
  rw [drop_zero] at hnext
  unfold ReferenceCodec.consumePacket consumePacket
  rw [hnext]
  cases codec.packetFrameAt 0 with
  | error => rfl
  | ok frame =>
    cases frame with
    | none => rfl
    | some =>
      simp only [Except.map, Option.map_some, unconsumed_compactConsumedPrefix,
        unconsumed_advance, Nat.zero_add]

/-- The loop of `drainPackets` from any offset. -/
theorem drainLoop_unconsumed (drained : Drained codec) :
    (ReferenceCodec.drainPackets (codec.unconsumed.drop drained.offset)).map
        (fun result => (drained.packets ++ result.1, result.2)) =
      (codec.drainLoop drained).map fun final =>
        (final.packets, codec.unconsumed.drop final.offset) := by
  induction drained using drainLoop.induct with
  | case1 drained _ hframe =>
    have hnext := codec.nextPacket_unconsumed drained.offset_le
    rw [hframe] at hnext
    rw [drainLoop, hframe, ReferenceCodec.drainPackets_error hnext]
    rfl
  | case2 drained hframe =>
    have hnext := codec.nextPacket_unconsumed drained.offset_le
    rw [hframe] at hnext
    rw [drainLoop, hframe, ReferenceCodec.drainPackets_none hnext]
    simp [Except.map]
  | case3 drained frame hframe ih =>
    have hnext := codec.nextPacket_unconsumed drained.offset_le
    rw [hframe] at hnext
    rw [drainLoop, hframe, ReferenceCodec.drainPackets_next hnext]
    rw [← ih]
    cases ReferenceCodec.drainPackets (codec.unconsumed.drop (drained.offset + frame.size)) with
    | error => rfl
    | ok => simp [Except.map]

theorem drainPackets_unconsumed :
    ReferenceCodec.drainPackets codec.unconsumed = codec.drainPackets.map (map id unconsumed) := by
  have hloop := codec.drainLoop_unconsumed ⟨[], 0, Nat.zero_le _⟩
  simp only [drop_zero, nil_append, Prod.mk.eta] at hloop
  have hmap : (ReferenceCodec.drainPackets codec.unconsumed).map (fun result => result) =
      ReferenceCodec.drainPackets codec.unconsumed := by
    cases ReferenceCodec.drainPackets codec.unconsumed with
    | error | ok => rfl
  rw [← hmap, hloop]
  unfold drainPackets
  cases codec.drainLoop ⟨[], 0, Nat.zero_le _⟩ with
  | error => rfl
  | ok drained =>
    by_cases hoffset : drained.offset = 0
    · simp [hoffset, Except.map, bind, Except.bind, pure, Except.pure]
    · simp [hoffset, Except.map, bind, Except.bind, pure, Except.pure]

/-- Each call commutes with forgetting the consumed bytes. -/
theorem respond_unconsumed (call : CodecCall) :
    ReferenceCodec.respond codec.unconsumed call = map id unconsumed (codec.respond call) := by
  cases call with
  | feed input =>
    simp only [ReferenceCodec.respond, respond, feed_unconsumed]
    cases codec.feed input with
    | error | ok => rfl
  | peekPacket =>
    simp only [ReferenceCodec.respond, respond, peekPacket_unconsumed]
    cases codec.peekPacket with
    | error | ok => rfl
  | consumePacket =>
    simp only [ReferenceCodec.respond, respond, consumePacket_unconsumed]
    cases codec.consumePacket with
    | error | ok => rfl
  | drainPackets =>
    simp only [ReferenceCodec.respond, respond, drainPackets_unconsumed]
    cases codec.drainPackets with
    | error | ok => rfl
  | bufferedByteCount =>
    simp only [ReferenceCodec.respond, respond, unconsumed_length]
    rfl

theorem run_unconsumed (calls : List CodecCall) :
    referenceCodec.run codec.unconsumed calls = map id unconsumed (packetCodec.run codec calls) :=
  packetCodec.run_abstraction (fun codec call => codec.respond_unconsumed call) codec calls

end PacketCodec

/-! ## What a run hands out -/

namespace CodecCall

/-- The bytes that a call feeds in. -/
def fed : CodecCall → Bytes
  | .feed (.bytes data) => data
  | _ => []

def stream (calls : List CodecCall) : Bytes :=
  calls.flatMap fed

end CodecCall

/-- The packets a call takes out of the codec. -/
def PacketCodec.taken (codec : PacketCodec) : CodecCall → List Packet
  | .consumePacket =>
    match codec.consumePacket, codec.peekPacket with
    | .ok _, .ok (some packet) => [packet]
    | _, _ => []
  | .drainPackets =>
    match codec.drainPackets with
    | .ok (packets, _) => packets
    | .error _ => []
  | _ => []

/-- All packets taken out along the calls, in order. -/
def PacketCodec.produced (codec : PacketCodec) : List CodecCall → List Packet
  | [] => []
  | call :: rest => codec.taken call ++ produced (codec.respond call).2 rest

/-- The bytes are these packets followed by the rest. -/
inductive Decodes : Bytes → List Packet → Bytes → Prop
  | nil (bytes : Bytes) : Decodes bytes [] bytes
  | cons {bytes behind rest : Bytes} {packet : Packet} {packets : List Packet}
      (hnext : ReferenceCodec.nextPacket bytes = .ok (some (packet, behind)))
      (hrest : Decodes behind packets rest) : Decodes bytes (packet :: packets) rest

namespace Decodes

variable {bytes middle rest : Bytes} {packets more : List Packet}

theorem trans (hfirst : Decodes bytes packets middle) (hsecond : Decodes middle more rest) :
    Decodes bytes (packets ++ more) rest := by
  induction hfirst with
  | nil => exact hsecond
  | cons hnext _ ih => exact .cons hnext (ih hsecond)

theorem packetsOf_eq (hdecodes : Decodes bytes packets rest) :
    ReferenceCodec.packetsOf bytes = packets ++ ReferenceCodec.packetsOf rest := by
  induction hdecodes with
  | nil => rfl
  | cons hnext _ ih => rw [ReferenceCodec.packetsOf_next hnext, ih, cons_append]

/-- Bytes behind a complete packet do not change it. -/
theorem nextPacket_append
    (hnext : ReferenceCodec.nextPacket bytes = .ok (some (packet, rest))) (behind : Bytes) :
    ReferenceCodec.nextPacket (bytes ++ behind) = .ok (some (packet, rest ++ behind)) := by
  match bytes with
  | [] | [_] | [_, _] | [_, _, _] => simp [ReferenceCodec.nextPacket] at hnext
  | first :: second :: third :: fourth :: body =>
    simp only [ReferenceCodec.nextPacket, cons_append] at hnext ⊢
    split at hnext
    · simp at hnext
    next hsmall =>
      split at hnext
      · simp at hnext
      next hexceeds =>
        split at hnext
        · simp at hnext
        next hlarge =>
          simp only [Except.ok.injEq, Option.some.injEq, Prod.mk.injEq] at hnext
          have hfits : (readU16 first second).toNat - packetHeaderSize ≤ body.length := by
            simp only [length_cons, packetHeaderSize] at hlarge ⊢
            omega
          have hlonger : ¬ (first :: second :: third :: fourth :: (body ++ behind)).length <
              (readU16 first second).toNat := by
            simp only [length_cons, length_append] at hlarge ⊢
            omega
          rw [if_neg hsmall, if_neg hexceeds, if_neg hlonger,
            take_append_of_le_length hfits, drop_append_of_le_length hfits,
            hnext.1, hnext.2]

theorem append (hdecodes : Decodes bytes packets rest) (behind : Bytes) :
    Decodes (bytes ++ behind) packets (rest ++ behind) := by
  induction hdecodes with
  | nil => exact .nil _
  | cons hnext _ ih => exact .cons (nextPacket_append hnext behind) ih

theorem of_drainPackets (hdrain : ReferenceCodec.drainPackets bytes = .ok (packets, rest)) :
    Decodes bytes packets rest ∧ ReferenceCodec.nextPacket rest = .ok none := by
  induction bytes using ReferenceCodec.drainPackets.induct generalizing packets with
  | case1 _ _ hnext =>
    rw [ReferenceCodec.drainPackets_error hnext] at hdrain
    cases hdrain
  | case2 _ hnext =>
    rw [ReferenceCodec.drainPackets_none hnext] at hdrain
    cases hdrain
    exact ⟨.nil _, hnext⟩
  | case3 _ _ behind hnext ih =>
    rw [ReferenceCodec.drainPackets_next hnext] at hdrain
    cases hbehind : ReferenceCodec.drainPackets behind with
    | error =>
      rw [hbehind] at hdrain
      cases hdrain
    | ok =>
      rw [hbehind] at hdrain
      cases hdrain
      obtain ⟨hdecodes, hleft⟩ := ih hbehind
      exact ⟨.cons hnext hdecodes, hleft⟩

end Decodes

namespace PacketCodec

/-- One call: what was there and what is fed in are the packets taken out and
what is left. -/
theorem decodes_respond (codec : PacketCodec) (call : CodecCall) :
    Decodes (codec.unconsumed ++ call.fed) (codec.taken call)
      (codec.respond call).2.unconsumed := by
  cases call with
  | feed input =>
    cases input with
    | null size =>
      have hsame : (codec.respond (.feed (.null size))).2 = codec := by
        simp only [respond, feed_null]
        split
        · rfl
        · next hfed =>
          split at hfed
          · cases hfed
            rfl
          · cases hfed
      simp only [hsame, CodecCall.fed, append_nil]
      exact .nil _
    | bytes data =>
      obtain ⟨fed, hfeed, hfed⟩ := codec.feed_bytes data
      simp only [respond, hfeed, CodecCall.fed, ← hfed]
      exact .nil _
  | peekPacket =>
    have hsame : (codec.respond .peekPacket).2 = codec := by
      simp only [respond]
      split
      · rfl
      · rfl
    simp only [hsame, CodecCall.fed, append_nil]
    exact .nil _
  | bufferedByteCount =>
    simp only [CodecCall.fed, append_nil]
    exact .nil _
  | consumePacket =>
    have hconsume := codec.consumePacket_unconsumed
    have hpeek := codec.peekPacket_unconsumed
    simp only [respond, taken, CodecCall.fed, append_nil]
    cases hconsumed : codec.consumePacket with
    | error => exact .nil _
    | ok =>
      rw [hconsumed] at hconsume
      unfold ReferenceCodec.consumePacket at hconsume
      unfold ReferenceCodec.peekPacket at hpeek
      split at hconsume
      · cases hconsume
      · cases hconsume
      · next _ _ hnext =>
        rw [hnext] at hpeek
        simp only [← hpeek, Except.map, Option.map_some]
        apply Decodes.cons hnext
        cases hconsume
        exact .nil _
  | drainPackets =>
    have hdrain := codec.drainPackets_unconsumed
    simp only [respond, taken, CodecCall.fed, append_nil]
    cases hdrained : codec.drainPackets with
    | error => exact .nil _
    | ok =>
      rw [hdrained] at hdrain
      exact (Decodes.of_drainPackets hdrain).1

/-- Along every run the stream so far is the packets taken out and what is
left. -/
theorem decodes_run (codec : PacketCodec) (calls : List CodecCall) :
    Decodes (codec.unconsumed ++ CodecCall.stream calls) (codec.produced calls)
      (packetCodec.run codec calls).2.unconsumed := by
  induction calls generalizing codec with
  | nil =>
    rw [CodecCall.stream, flatMap_nil, append_nil]
    exact .nil _
  | cons call rest ih =>
    have hcall := (codec.decodes_respond call).append (CodecCall.stream rest)
    rw [append_assoc] at hcall
    exact hcall.trans (ih (codec.respond call).2)

end PacketCodec

/-- The codec and its reference cannot be told apart.  What any run takes out
is a beginning of the packets of the stream, and all of them once no complete
packet is left. -/
theorem packetCodec_refines_reference :
    (∀ calls : List CodecCall,
      (packetCodec.run {} calls).1 = (referenceCodec.run [] calls).1 ∧
      (packetCodec.run {} calls).2.bufferedByteCount = (referenceCodec.run [] calls).2.length) ∧
    ∀ calls : List CodecCall,
      produced {} calls <+: ReferenceCodec.packetsOf (CodecCall.stream calls) ∧
      ((∀ packet, (packetCodec.run {} calls).2.peekPacket ≠ .ok (some packet)) →
        produced {} calls = ReferenceCodec.packetsOf (CodecCall.stream calls)) := by
  constructor
  · intro calls
    have hrun := run_unconsumed {} calls
    change referenceCodec.run [] calls = _ at hrun
    rw [hrun, map_fst, map_snd, unconsumed_length]
    exact ⟨rfl, rfl⟩
  · intro calls
    have hpackets := (decodes_run {} calls).packetsOf_eq
    change ReferenceCodec.packetsOf (CodecCall.stream calls) = _ at hpackets
    rw [hpackets]
    constructor
    · exact prefix_append _ _
    · intro hnone
      have hempty : ReferenceCodec.packetsOf (packetCodec.run {} calls).2.unconsumed = [] := by
        apply ReferenceCodec.packetsOf_eq_nil
        intro packet _ hnext
        apply hnone packet
        rw [← peekPacket_unconsumed, ReferenceCodec.peekPacket, hnext]
        rfl
      rw [hempty, append_nil]

/-! ## Draining at once and one by one -/

namespace PacketCodec

/-- What stands first in the codec, as the reference, `peekPacket` and
`consumePacket` see it. -/
theorem next_cases (codec : PacketCodec) :
    (∃ failure, ReferenceCodec.nextPacket codec.unconsumed = .error failure ∧
      codec.peekPacket = .error failure) ∨
    (ReferenceCodec.nextPacket codec.unconsumed = .ok none ∧ codec.peekPacket = .ok none) ∨
    ∃ packet consumed,
      ReferenceCodec.nextPacket codec.unconsumed = .ok (some (packet, consumed.unconsumed)) ∧
      codec.peekPacket = .ok (some packet) ∧ codec.consumePacket = .ok consumed := by
  have hpeek := codec.peekPacket_unconsumed
  have hconsume := codec.consumePacket_unconsumed
  unfold ReferenceCodec.peekPacket at hpeek
  unfold ReferenceCodec.consumePacket at hconsume
  cases hnext : ReferenceCodec.nextPacket codec.unconsumed with
  | error failure =>
    rw [hnext] at hpeek
    exact .inl ⟨failure, rfl, hpeek.symm⟩
  | ok next =>
    rw [hnext] at hpeek hconsume
    cases next with
    | none => exact .inr (.inl ⟨rfl, hpeek.symm⟩)
    | some next =>
      cases hconsumed : codec.consumePacket with
      | error =>
        rw [hconsumed] at hconsume
        cases hconsume
      | ok consumed =>
        rw [hconsumed] at hconsume
        obtain ⟨packet, _⟩ := next
        cases hconsume
        exact .inr (.inr ⟨packet, consumed, rfl, hpeek.symm, rfl⟩)

theorem consumePacket_lt {codec consumed : PacketCodec}
    (hconsume : codec.consumePacket = .ok consumed) :
    consumed.bufferedByteCount < codec.bufferedByteCount := by
  have hunconsumed := codec.consumePacket_unconsumed
  rw [hconsume] at hunconsumed
  unfold ReferenceCodec.consumePacket at hunconsumed
  split at hunconsumed
  · cases hunconsumed
  · cases hunconsumed
  next _ _ hnext =>
    cases hunconsumed
    have hlength := ReferenceCodec.nextPacket_length_lt hnext
    rwa [unconsumed_length, unconsumed_length] at hlength

/-- `peekPacket` and `consumePacket` until there is no packet. -/
def peekAndConsume (codec : PacketCodec) : Except CodecException (List Packet) × PacketCodec :=
  match codec.peekPacket with
  | .error failure => (.error (.protocolError failure), codec)
  | .ok none => (.ok [], codec)
  | .ok (some packet) =>
    match _ : codec.consumePacket with
    | .error exception => (.error exception, codec)
    | .ok consumed =>
      let (packets, left) := peekAndConsume consumed
      (packets.map (packet :: ·), left)
termination_by codec.bufferedByteCount
decreasing_by exact consumePacket_lt ‹_›

theorem runDrainPackets_eq (codec : PacketCodec) :
    runDrainPackets codec = match codec.drainPackets with
      | .ok (packets, drained) => (.ok packets, drained)
      | .error failure => (.error failure, codec) := by
  unfold runDrainPackets drainPackets
  cases codec.drainLoop ⟨[], 0, Nat.zero_le _⟩ with
  | error => rfl
  | ok drained =>
    by_cases hoffset : drained.offset = 0
    · simp [hoffset, bind, Except.bind, pure, Except.pure]
    · simp [hoffset, bind, Except.bind, pure, Except.pure]

theorem peekAndConsume_eq (codec : PacketCodec) :
    match ReferenceCodec.drainPackets codec.unconsumed with
    | .ok (packets, rest) => codec.peekAndConsume.1 = .ok packets ∧
        codec.peekAndConsume.2.unconsumed = rest
    | .error failure => codec.peekAndConsume.1 = .error (.protocolError failure) := by
  induction hcount : codec.bufferedByteCount using Nat.strong_induction_on generalizing codec with
  | _ count ih =>
    rcases codec.next_cases with ⟨_, hnext, hpeek⟩ | ⟨hnext, hpeek⟩ |
      ⟨packet, consumed, hnext, hpeek, hconsume⟩
    · rw [ReferenceCodec.drainPackets_error hnext, peekAndConsume, hpeek]
    · rw [ReferenceCodec.drainPackets_none hnext, peekAndConsume, hpeek]
      exact ⟨rfl, rfl⟩
    · have hrest := ih _ (hcount ▸ consumePacket_lt hconsume) consumed rfl
      have hloop : codec.peekAndConsume =
          (consumed.peekAndConsume.1.map (packet :: ·), consumed.peekAndConsume.2) := by
        rw [peekAndConsume, hpeek]
        simp only
        split
        · simp_all
        · simp_all
      rw [ReferenceCodec.drainPackets_next hnext, hloop]
      cases hdrain : ReferenceCodec.drainPackets consumed.unconsumed with
      | error =>
        rw [hdrain] at hrest
        exact congrArg (Except.map _) hrest
      | ok =>
        rw [hdrain] at hrest
        exact ⟨congrArg (Except.map _) hrest.1, hrest.2⟩

end PacketCodec

/-- Draining at once hands out what draining packet by packet does and leaves
the same bytes.  It throws when the other would, and then has taken nothing. -/
theorem drainPackets_agrees (codec : PacketCodec) :
    (∀ packets, codec.runDrainPackets.1 = .ok packets →
      codec.peekAndConsume.1 = .ok packets ∧
      codec.peekAndConsume.2.unconsumed = codec.runDrainPackets.2.unconsumed) ∧
    (∀ failure, codec.runDrainPackets.1 = .error failure ↔
      codec.peekAndConsume.1 = .error (.protocolError failure)) ∧
    ∀ failure, codec.runDrainPackets.1 = .error failure →
      codec.runDrainPackets.2.unconsumed = codec.unconsumed := by
  have hloop := codec.peekAndConsume_eq
  have hdrain := codec.drainPackets_unconsumed
  rw [codec.runDrainPackets_eq]
  cases hdrained : codec.drainPackets with
  | error =>
    rw [hdrained] at hdrain
    rw [hdrain] at hloop
    change codec.peekAndConsume.1 = _ at hloop
    simp [hloop]
  | ok =>
    rw [hdrained] at hdrain
    rw [hdrain] at hloop
    obtain ⟨_, _⟩ := hloop
    simp_all

/-! ## The consumed prefix -/

/-- The consumed bytes are few, or fewer than the others, and none are kept
when there are no others. -/
structure PacketCodec.Compact (codec : PacketCodec) : Prop where
  bounded : codec.head = 0 ∨ codec.head < compactionThreshold ∨ 2 * codec.head < codec.buffer.length
  cleared : codec.head = codec.buffer.length → codec.buffer = []

namespace PacketCodec

theorem compact_compactConsumedPrefix (codec : PacketCodec) :
    codec.compactConsumedPrefix.Compact := by
  unfold compactConsumedPrefix
  split
  · next hzero =>
    exact ⟨.inl hzero, fun hall => eq_nil_of_length_eq_zero (hall.symm.trans hzero)⟩
  split
  · exact ⟨.inl rfl, fun _ => rfl⟩
  · next hsome =>
    split
    · exact ⟨.inl rfl, fun hall => eq_nil_of_length_eq_zero hall.symm⟩
    · next hfew =>
      exact ⟨by omega, fun hall => absurd hall hsome⟩

theorem Compact.feed {codec fed : PacketCodec} {input : InputBuffer} (hcompact : codec.Compact)
    (hfeed : codec.feed input = .ok fed) : fed.Compact := by
  unfold PacketCodec.feed at hfeed
  split at hfeed
  · cases hfeed
    exact hcompact
  · next hsize =>
    cases input with
    | null size => cases hfeed
    | bytes data =>
      cases hfeed
      have hcompacted := codec.compact_compactConsumedPrefix.bounded
      have hhead := codec.compactConsumedPrefix.head_le
      have hdata : data.length ≠ 0 := hsize
      constructor
      · dsimp only
        rw [length_append]
        omega
      · dsimp only
        rw [length_append]
        omega

theorem Compact.respond {codec : PacketCodec} (call : CodecCall) (hcompact : codec.Compact) :
    (codec.respond call).2.Compact := by
  cases call with
  | feed input =>
    simp only [PacketCodec.respond]
    split
    · exact hcompact
    · next hfeed =>
      exact hcompact.feed hfeed
  | peekPacket =>
    simp only [PacketCodec.respond]
    split
    · exact hcompact
    · exact hcompact
  | consumePacket =>
    simp only [PacketCodec.respond, consumePacket]
    cases codec.packetFrameAt 0 with
    | error failure => exact hcompact
    | ok frame =>
      cases frame with
      | none => exact hcompact
      | some frame => exact compact_compactConsumedPrefix _
  | drainPackets =>
    simp only [PacketCodec.respond, drainPackets]
    cases codec.drainLoop ⟨[], 0, Nat.zero_le _⟩ with
    | error failure => exact hcompact
    | ok drained =>
      by_cases hoffset : drained.offset = 0
      · simpa [hoffset, bind, Except.bind, pure, Except.pure] using hcompact
      · simpa [hoffset, bind, Except.bind, pure, Except.pure] using compact_compactConsumedPrefix _
  | bufferedByteCount => exact hcompact

/-- However a codec is used, the consumed bytes it keeps are bounded. -/
theorem consumed_prefix_bounded (calls : List CodecCall) :
    let codec := (packetCodec.run .empty calls).2
    codec.head ≤ codec.buffer.length ∧
    (codec.head = 0 ∨ codec.head < 4096 ∨ 2 * codec.head < codec.buffer.length) ∧
    codec.buffer.length ≤ codec.bufferedByteCount + max 4095 codec.bufferedByteCount ∧
    (codec.bufferedByteCount = 0 → codec.buffer = [] ∧ codec.head = 0) := by
  intro codec
  have hcompact : codec.Compact := packetCodec.run_invariant (fun _ call => Compact.respond call)
    ⟨.inl rfl, fun _ => rfl⟩ calls
  have hhead := codec.head_le
  have hbounded : codec.head = 0 ∨ codec.head < 4096 ∨ 2 * codec.head < codec.buffer.length :=
    hcompact.bounded
  unfold bufferedByteCount
  refine ⟨hhead, hbounded, by omega, ?_⟩
  intro hconsumed
  have hempty := hcompact.cleared (by omega)
  rw [hempty, length_nil] at hhead
  exact ⟨hempty, by omega⟩

end PacketCodec

end SessionServer.Protocol
