import SessionServer.ProtocolText

/-!
# Structured payloads

A structured payload is an optional status `OK` and a list of fields
`key=value`, joined by bars.  In a value the three characters `%`, `|` and `=`
are escaped.  A builder keeps the rules for its fields as it grows, so a
non-empty one can always be built.
-/

namespace SessionServer.Protocol

open List Prod

def bar : UInt8 := 0x7c
def equalsSign : UInt8 := 0x3d
def percent : UInt8 := 0x25

abbrev StructuredField := Bytes × Bytes

def isKeyCharacter (character : UInt8) : Bool :=
  (0x61 ≤ character && character ≤ 0x7a) || (0x41 ≤ character && character ≤ 0x5a) ||
    (0x30 ≤ character && character ≤ 0x39) || character == 0x5f

def isValidKey (key : Bytes) : Bool :=
  !key.isEmpty && key.all isKeyCharacter

/-- `none` is the -1 of the source. -/
def hexValue (character : UInt8) : Option UInt8 :=
  if 0x30 ≤ character && character ≤ 0x39 then some (character - 0x30)
  else if 0x41 ≤ character && character ≤ 0x46 then some (character - 0x41 + 10)
  else if 0x61 ≤ character && character ≤ 0x66 then some (character - 0x61 + 10)
  else none

def containsKey (fields : List StructuredField) (key : Bytes) : Bool :=
  fields.any fun field => field.1 == key

/-! ## Values -/

def escapeCharacter (character : UInt8) : Bytes :=
  if character = percent then ascii "%25"
  else if character = bar then ascii "%7C"
  else if character = equalsSign then ascii "%3D"
  else [character]

def encodeStructuredValue (value : Bytes) : Except ProtocolError Bytes :=
  if !isValidText value then .error ⟨"structured value is not valid text"⟩
  else .ok (value.flatMap escapeCharacter)

/-- The characters of a value with its escapes undone. -/
def unescape : Bytes → Except ProtocolError Bytes
  | [] => .ok []
  | character :: rest =>
    if character = bar ∨ character = equalsSign then
      .error ⟨"structured value contains an unescaped separator"⟩
    else if character ≠ percent then do
      let decoded ← unescape rest
      return character :: decoded
    else
      match rest with
      | first :: second :: rest =>
        match hexValue first, hexValue second with
        | some high, some low => do
            let decoded ← unescape rest
            return ((high <<< 4) ||| low) :: decoded
        | _, _ => .error ⟨"structured value has an invalid escape"⟩
      | _ => .error ⟨"structured value has an incomplete escape"⟩

def decodeStructuredValue (value : Bytes) : Except ProtocolError Bytes := do
  let decoded ← unescape value
  if !isValidText decoded then
    throw ⟨"decoded structured value is not valid text"⟩
  return decoded

/-! ## Parsing -/

structure StructuredPayload where
  status : Option Bytes := none
  fields : List StructuredField := []
  deriving DecidableEq, Repr

/-- A segment that is not the status: one equals sign, a new key before it. -/
def StructuredPayload.parseField (parsed : StructuredPayload) (segment : Bytes) :
    Except ProtocolError StructuredPayload :=
  match segment.splitOn equalsSign with
  | [key, value] =>
    if key.isEmpty then .error ⟨"structured payload has an invalid field"⟩
    else if !isValidKey key || containsKey parsed.fields key then
      .error ⟨"structured payload has an invalid field key"⟩
    else do
      let decoded ← decodeStructuredValue value
      return { parsed with fields := parsed.fields ++ [(key, decoded)] }
  | _ => .error ⟨"structured payload has an invalid field"⟩

/-- The loop of `parse` over the segments between the bars.  A single empty
segment behind a bar is the trailing separator. -/
def StructuredPayload.parseSegments (first : Bool) (parsed : StructuredPayload) :
    List Bytes → Except ProtocolError StructuredPayload
  | [] => .ok parsed
  | segment :: rest => do
      if segment.isEmpty then
        throw ⟨"structured payload has an empty segment"⟩
      let parsed ←
        if first && segment == ascii "OK" then
          pure { parsed with status := some (ascii "OK") }
        else parsed.parseField segment
      if rest = [[]] then
        throw ⟨"structured payload has a trailing separator"⟩
      StructuredPayload.parseSegments false parsed rest

def StructuredPayload.parse (payload : Bytes) :
    Except ProtocolError StructuredPayload := do
  if payload.isEmpty then
    throw ⟨"structured payload is empty"⟩
  let parsed ← StructuredPayload.parseSegments true {} (payload.splitOn bar)
  if parsed.fields.isEmpty then
    throw ⟨"structured payload has no fields"⟩
  return parsed

def StructuredPayload.field (parsed : StructuredPayload) (key : Bytes) :
    Option Bytes :=
  (parsed.fields.find? fun field => field.1 == key).map snd

def StructuredPayload.requireField (parsed : StructuredPayload) (key : Bytes) :
    Except ProtocolError Bytes :=
  match parsed.field key with
  | none => .error ⟨"structured payload is missing a required field"⟩
  | some value => .ok value

/-! ## Building -/

structure StructuredPayloadBuilder where
  status : Option Bytes := none
  fields : List StructuredField := []
  status_ok : ∀ text ∈ status, text = ascii "OK" := by simp
  keys_valid : ∀ field ∈ fields, isValidKey field.1 = true := by simp
  keys_nodup : (fields.map fst).Nodup := by simp
  values_valid : ∀ field ∈ fields, isValidText field.2 = true := by simp

namespace StructuredPayloadBuilder

variable {fields : List StructuredField} {key : Bytes}

def empty : StructuredPayloadBuilder := {}

@[simp] theorem empty_fields : empty.fields = [] := rfl

@[simp] theorem empty_status : empty.status = none := rfl

def withStatus (status : Bytes) : Except ProtocolError StructuredPayloadBuilder :=
  if hstatus : status = ascii "OK" then
    .ok { status := some status
          status_ok := by simpa using hstatus }
  else .error ⟨"structured payload status must be OK"⟩

theorem containsKey_eq_false (habsent : containsKey fields key = false) : key ∉ fields.map fst := by
  intro hmem
  obtain ⟨field, hfield, hkey⟩ := mem_map.mp hmem
  have hpresent : containsKey fields key = true :=
    any_eq_true.mpr ⟨field, hfield, by simpa using hkey⟩
  simp [habsent] at hpresent

def addField (builder : StructuredPayloadBuilder) (key value : Bytes) :
    Except ProtocolError StructuredPayloadBuilder :=
  if hkey : isValidKey key = true ∧ containsKey builder.fields key = false then
    if hvalue : isValidText value = true then
      .ok { builder with
        fields := builder.fields ++ [(key, value)]
        keys_valid := by
          rw [forall_mem_append, forall_mem_singleton]
          exact ⟨builder.keys_valid, hkey.1⟩
        keys_nodup := by
          rw [map_append, nodup_append]
          refine ⟨builder.keys_nodup, nodup_singleton key, ?_⟩
          intro old hold new hnew heq
          rw [heq, mem_singleton.mp hnew] at hold
          exact containsKey_eq_false hkey.2 hold
        values_valid := by
          intro field hfield
          rcases mem_append.mp hfield with hold | hnew
          · exact builder.values_valid field hold
          · rw [mem_singleton.mp hnew]
            exact hvalue }
    else .error ⟨"structured value is not valid text"⟩
  else .error ⟨"structured payload has an invalid field key"⟩

/-- Add fields one after another. -/
def addFields (builder : StructuredPayloadBuilder) (fields : List StructuredField) :
    Except ProtocolError StructuredPayloadBuilder :=
  fields.foldlM (fun builder field => builder.addField field.1 field.2) builder

theorem containsKey_eq_false_iff : containsKey fields key = false ↔ key ∉ fields.map fst := by
  constructor
  · exact containsKey_eq_false
  · intro habsent
    rw [containsKey, any_eq_false]
    intro _ hfield hkey
    apply habsent
    rw [← beq_iff_eq.mp hkey]
    exact mem_map_of_mem hfield

theorem addField_ok {builder : StructuredPayloadBuilder} {value : Bytes}
    (hkey : isValidKey key = true) (hnew : key ∉ builder.fields.map fst)
    (hvalue : isValidText value = true) :
    ∃ next, builder.addField key value = .ok next ∧
      next.fields = builder.fields ++ [(key, value)] ∧ next.status = builder.status := by
  unfold addField
  rw [dif_pos ⟨hkey, containsKey_eq_false_iff.mpr hnew⟩, dif_pos hvalue]
  exact ⟨_, rfl, rfl, rfl⟩

theorem addFields_ok {builder : StructuredPayloadBuilder}
    (hkeys : ∀ field ∈ fields, isValidKey field.1 = true)
    (hnodup : (builder.fields.map fst ++ fields.map fst).Nodup)
    (hvalues : ∀ field ∈ fields, isValidText field.2 = true) :
    ∃ next, builder.addFields fields = .ok next ∧
      next.fields = builder.fields ++ fields ∧ next.status = builder.status := by
  induction fields generalizing builder with
  | nil => exact ⟨builder, rfl, by simp, rfl⟩
  | cons field rest ih =>
    have hnew : field.1 ∉ builder.fields.map fst := by
      intro hold
      exact (nodup_append.mp hnodup).2.2 _ hold _ (by simp) rfl
    obtain ⟨middle, hadd, hfields, hstatus⟩ :=
      addField_ok (hkeys field (by simp)) hnew (hvalues field (by simp))
    have hmiddle : (middle.fields.map fst ++ rest.map fst).Nodup := by
      simpa [hfields] using hnodup
    obtain ⟨next, hrest, hnext, hkept⟩ := ih
      (fun other hother => hkeys other (mem_cons_of_mem _ hother)) hmiddle
      (fun other hother => hvalues other (mem_cons_of_mem _ hother))
    refine ⟨next, ?_, ?_, ?_⟩
    · rw [addFields, foldlM_cons, hadd]
      exact hrest
    · simp [hnext, hfields]
    · rw [hkept, hstatus]

def appendField (payload : Bytes) (field : StructuredField) :
    Except ProtocolError Bytes := do
  let encoded ← encodeStructuredValue field.2
  let payload := if payload.isEmpty then payload else payload ++ [bar]
  return payload ++ field.1 ++ [equalsSign] ++ encoded

def build (builder : StructuredPayloadBuilder) : Except ProtocolError Bytes :=
  if builder.fields.isEmpty then .error ⟨"structured payload has no fields"⟩
  else builder.fields.foldlM appendField (builder.status.getD [])

/-! ## A builder with fields can be built -/

theorem escapeCharacter_length_le (character : UInt8) : (escapeCharacter character).length ≤ 3 := by
  unfold escapeCharacter
  split
  · decide
  · split
    · decide
    · split
      · decide
      · simp

theorem escape_length_le (value : Bytes) :
    (value.flatMap escapeCharacter).length ≤ 3 * value.length := by
  induction value with
  | nil => simp
  | cons character =>
    have hfirst := escapeCharacter_length_le character
    rw [flatMap_cons, length_append, length_cons]
    omega

/-- An upper bound for what a field adds to a payload. -/
def fieldBound (field : StructuredField) : ℕ :=
  field.1.length + 3 * field.2.length + 2

/-- An upper bound for the length of the payload. -/
def bound (builder : StructuredPayloadBuilder) : ℕ :=
  (builder.status.getD []).length + (builder.fields.map fieldBound).sum

theorem foldlM_appendField
    (hvalid : ∀ field ∈ fields, isValidText field.2 = true) (payload : Bytes) :
    ∃ built, fields.foldlM appendField payload = .ok built ∧
      built.length ≤ payload.length + (fields.map fieldBound).sum := by
  induction fields generalizing payload with
  | nil => exact ⟨payload, rfl, by simp⟩
  | cons field _ ih =>
    have hfield := hvalid field (by simp)
    have happend : appendField payload field = .ok
        ((if payload.isEmpty then payload else payload ++ [bar]) ++ field.1 ++
          [equalsSign] ++ field.2.flatMap escapeCharacter) := by
      simp [appendField, encodeStructuredValue, hfield, bind, Except.bind, pure, Except.pure]
    have hseparator : (if payload.isEmpty then payload
        else payload ++ [bar]).length ≤ payload.length + 1 := by
      split <;> simp
    have hescape := escape_length_le field.2
    obtain ⟨built, hbuilt, hlength⟩ := ih
      (fun other hother => hvalid other (mem_cons_of_mem _ hother))
      ((if payload.isEmpty then payload else payload ++ [bar]) ++ field.1 ++
        [equalsSign] ++ field.2.flatMap escapeCharacter)
    refine ⟨built, ?_, ?_⟩
    · rw [foldlM_cons, happend]
      exact hbuilt
    · rw [length_append, length_append, length_append, length_singleton] at hlength
      rw [map_cons, sum_cons, fieldBound]
      omega

theorem build_ok (builder : StructuredPayloadBuilder) (hfields : builder.fields ≠ []) :
    ∃ payload, builder.build = .ok payload ∧ payload.length ≤ builder.bound := by
  unfold build bound
  rw [if_neg (by simpa using hfields)]
  exact foldlM_appendField builder.values_valid _

end StructuredPayloadBuilder

end SessionServer.Protocol
