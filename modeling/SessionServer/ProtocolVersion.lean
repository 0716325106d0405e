import SessionServer.StructuredPayload

/-!
# Version negotiation messages

A client offers a range of versions; the server selects the highest version
both sides know.
-/

namespace SessionServer.Protocol

def minProtocolVersion : UInt16 := 1
def maxProtocolVersion : UInt16 := 1

structure VersionRange where
  minVersion : UInt16
  maxVersion : UInt16
  deriving DecidableEq, Repr

def parseVersion (text : Bytes) : Except ProtocolError UInt16 :=
  match fromChars 65535 text with
  | some (value, []) =>
    if text.isEmpty || value = 0 then .error ⟨"invalid protocol version"⟩
    else .ok (UInt16.ofNat value)
  | _ => .error ⟨"invalid protocol version"⟩

def validateRange (range : VersionRange) : Except ProtocolError Unit :=
  if range.minVersion = 0 ∨ range.minVersion > range.maxVersion then
    .error ⟨"invalid protocol version range"⟩
  else .ok ()

def encodeVersionRequest (range : VersionRange) : Except ProtocolError Bytes := do
  validateRange range
  let builder : StructuredPayloadBuilder := .empty
  let builder ← builder.addField (ascii "min_version") (decimal range.minVersion.toNat)
  let builder ← builder.addField (ascii "max_version") (decimal range.maxVersion.toNat)
  builder.build

def decodeVersionRequest (payload : Bytes) : Except ProtocolError VersionRange := do
  let parsed ← StructuredPayload.parse payload
  if parsed.status.isSome || parsed.fields.length ≠ 2 then
    throw ⟨"invalid version request fields"⟩
  let minVersion ← parseVersion (← parsed.requireField (ascii "min_version"))
  let maxVersion ← parseVersion (← parsed.requireField (ascii "max_version"))
  let range : VersionRange := ⟨minVersion, maxVersion⟩
  validateRange range
  return range

def encodeVersionResponse (version : UInt16) : Except ProtocolError Bytes := do
  if version = 0 then
    throw ⟨"invalid protocol version"⟩
  let builder ← StructuredPayloadBuilder.withStatus (ascii "OK")
  let builder ← builder.addField (ascii "version") (decimal version.toNat)
  builder.build

def decodeVersionResponse (payload : Bytes) : Except ProtocolError UInt16 := do
  let parsed ← StructuredPayload.parse payload
  if parsed.status ≠ some (ascii "OK") || parsed.fields.length ≠ 1 then
    throw ⟨"invalid version response fields"⟩
  parseVersion (← parsed.requireField (ascii "version"))

def negotiateVersion (range : VersionRange) : Except ProtocolError (Option UInt16) := do
  validateRange range
  let lower := max range.minVersion minProtocolVersion
  let upper := min range.maxVersion maxProtocolVersion
  if lower > upper then return none
  return some upper

end SessionServer.Protocol
