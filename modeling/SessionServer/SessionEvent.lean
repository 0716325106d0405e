import Mathlib.Data.List.Basic
import Mathlib.Tactic

/-!
# Packets, session events and outbound messages

The data that passes between the network layer, the worker pool and the
service layer.  Text and payloads are raw bytes throughout.
-/

namespace SessionServer

abbrev Bytes := List UInt8

/-- The bytes of an ASCII literal of the source. -/
def ascii (text : String) : Bytes :=
  text.toList.map fun character => UInt8.ofNat character.toNat

abbrev SessionId := UInt64

/-- `enum class PacketType : std::uint16_t`: any 16-bit value is a packet
type, some of them have names. -/
structure PacketType where
  code : UInt16
  deriving DecidableEq, Repr

namespace PacketType

@[match_pattern] def loginReq : PacketType := ⟨1⟩
@[match_pattern] def loginRes : PacketType := ⟨2⟩
@[match_pattern] def versionReq : PacketType := ⟨3⟩
@[match_pattern] def versionRes : PacketType := ⟨4⟩
@[match_pattern] def createRoomReq : PacketType := ⟨10⟩
@[match_pattern] def createRoomRes : PacketType := ⟨11⟩
@[match_pattern] def joinRoomReq : PacketType := ⟨12⟩
@[match_pattern] def joinRoomRes : PacketType := ⟨13⟩
@[match_pattern] def leaveRoomReq : PacketType := ⟨14⟩
@[match_pattern] def leaveRoomRes : PacketType := ⟨15⟩
@[match_pattern] def chatReq : PacketType := ⟨20⟩
@[match_pattern] def positionUpdate : PacketType := ⟨21⟩
@[match_pattern] def roomBroadcast : PacketType := ⟨22⟩
@[match_pattern] def ping : PacketType := ⟨30⟩
@[match_pattern] def pong : PacketType := ⟨31⟩
@[match_pattern] def error : PacketType := ⟨100⟩

end PacketType

structure Packet where
  type : PacketType := ⟨0⟩
  payload : Bytes := []
  deriving DecidableEq, Repr

inductive OutboundMessageKind
  | sendBytes
  | sendBytesAndDisconnect
  | disconnectSession
  deriving DecidableEq, Repr

structure OutboundMessage where
  sessionId : SessionId
  bytes : Bytes
  kind : OutboundMessageKind := .sendBytes
  deriving DecidableEq, Repr

structure DeferredCompletionPayload where
  failed : Bool
  messages : List OutboundMessage
  deriving DecidableEq, Repr

inductive SessionEventKind
  | packet
  | disconnected
  | deferredCompletion
  deriving DecidableEq, Repr

/-- Sequence numbers are counters of the events of one session. -/
structure SessionEvent where
  kind : SessionEventKind
  sessionId : SessionId
  packet : Packet := {}
  sequence : ℕ
  completion : Option DeferredCompletionPayload := none
  deriving DecidableEq, Repr

def SessionEvent.isCompletion (event : SessionEvent) : Bool :=
  event.kind == .deferredCompletion

def SessionEvent.isDisconnected (event : SessionEvent) : Bool :=
  event.kind == .disconnected

/-- A Packet or Disconnected event with this number. -/
def SessionEvent.numbered (sequence : ℕ) (event : SessionEvent) : Bool :=
  !event.isCompletion && event.sequence == sequence

variable {event : SessionEvent}

theorem SessionEvent.numbered_kind {sequence : ℕ} (hnumbered : event.numbered sequence = true) :
    event.kind ≠ .deferredCompletion := by
  intro hkind
  simp [SessionEvent.numbered, SessionEvent.isCompletion, hkind] at hnumbered

theorem SessionEvent.numbered_self (hkind : event.kind ≠ .deferredCompletion) :
    event.numbered event.sequence = true := by
  simp [SessionEvent.numbered, SessionEvent.isCompletion, hkind]

theorem SessionEvent.sequence_of_numbered {sequence : ℕ}
    (hnumbered : event.numbered sequence = true) : event.sequence = sequence := by
  simp only [SessionEvent.numbered, Bool.and_eq_true, beq_iff_eq] at hnumbered
  exact hnumbered.2

def SessionEvent.hasNumber (sequence : ℕ) (event : SessionEvent) : Bool :=
  event.sequence == sequence

/-- A completion with this number. -/
def SessionEvent.completes (sequence : ℕ) (event : SessionEvent) : Bool :=
  event.isCompletion && event.hasNumber sequence

theorem SessionEvent.completes_of_kind (sequence : ℕ) (hkind : event.kind = .deferredCompletion) :
    event.completes sequence = event.hasNumber sequence := by
  simp [SessionEvent.completes, SessionEvent.isCompletion, hkind]

theorem SessionEvent.completes_eq_false (sequence : ℕ)
    (hkind : event.kind ≠ .deferredCompletion) : event.completes sequence = false := by
  simp [SessionEvent.completes, SessionEvent.isCompletion, hkind]

theorem SessionEvent.hasNumber_congr {other : SessionEvent} (sequence : ℕ)
    (hsequence : other.sequence = event.sequence) :
    other.hasNumber sequence = event.hasNumber sequence := by
  simp [SessionEvent.hasNumber, hsequence]

/-- The events a network thread may push: everything but a completion. -/
def SessionEvent.isExternal (event : SessionEvent) : Bool :=
  !event.isCompletion && event.completion.isNone

end SessionServer
