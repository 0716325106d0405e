import SessionServer.StringView
import SessionServer.StructuredPayloadGrammar

/-!
# The parser of structured payloads

The loop of `parse` goes from separator to separator by position.  It accepts
exactly the grammar, and what a builder builds is parsed back.
-/

namespace SessionServer.Protocol

open StringView StructuredPayload List

namespace StructuredPayloadLoop

def parseField (parsed : StructuredPayload) (segment : Bytes) :
    Except ProtocolError StructuredPayload :=
  match find segment equalsSign 0 with
  | none => .error ⟨"structured payload has an invalid field"⟩
  | some index =>
    if index = 0 ∨ find segment equalsSign (index + 1) ≠ none then
      .error ⟨"structured payload has an invalid field"⟩
    else
      let key := substr segment 0 index
      if !isValidKey key || containsKey parsed.fields key then
        .error ⟨"structured payload has an invalid field key"⟩
      else do
        let decoded ← decodeStructuredValue (segment.drop (index + 1))
        return { parsed with fields := parsed.fields ++ [(key, decoded)] }

/-- What the loop does with one segment. -/
def parseSegment (first : Bool) (parsed : StructuredPayload) (segment : Bytes) :
    Except ProtocolError StructuredPayload :=
  if segment.isEmpty then .error ⟨"structured payload has an empty segment"⟩
  else if first && segment == ascii "OK" then .ok { parsed with status := some (ascii "OK") }
  else parseField parsed segment

def parseFrom (payload : Bytes) (position : ℕ) (first : Bool) (parsed : StructuredPayload) :
    Except ProtocolError StructuredPayload :=
  if position < payload.length then
    match _ : find payload bar position with
    | none => parseSegment first parsed (substr payload position (payload.length - position))
    | some separator => do
        let parsed ← parseSegment first parsed (substr payload position (separator - position))
        if separator + 1 = payload.length then
          throw ⟨"structured payload has a trailing separator"⟩
        else parseFrom payload (separator + 1) false parsed
  else .ok parsed
termination_by payload.length - position
decreasing_by
  have hseparator := le_of_find ‹_›
  omega

def parse (payload : Bytes) : Except ProtocolError StructuredPayload := do
  if payload.isEmpty then
    throw ⟨"structured payload is empty"⟩
  let parsed ← parseFrom payload 0 true {}
  if parsed.fields.isEmpty then
    throw ⟨"structured payload has no fields"⟩
  return parsed

/-! ## Segment by segment -/

theorem parseField_eq (parsed : StructuredPayload) (segment : Bytes) :
    parseField parsed segment = parsed.parseField segment := by
  unfold parseField StructuredPayload.parseField
  cases hfirst : find segment equalsSign 0 with
  | none =>
    have hsplit := splitOn_of_find_none hfirst
    rw [List.drop_zero] at hsplit
    rw [hsplit]
  | some index =>
    have hsplit := splitOn_of_find hfirst
    rw [List.drop_zero, Nat.sub_zero] at hsplit
    rw [hsplit]
    simp only
    cases hsecond : find segment equalsSign (index + 1) with
    | some other =>
      rw [splitOn_of_find hsecond, if_pos (.inr (Option.some_ne_none other))]
      split
      · next hparts => simp at hparts
      · rfl
    | none =>
      obtain ⟨_, _, _⟩ := find_eq_some hfirst
      have hempty : (substr segment 0 index).isEmpty = true ↔ index = 0 := by
        rw [List.isEmpty_iff, ← List.length_eq_zero_iff, substr, List.length_take, List.drop_zero]
        omega
      rw [splitOn_of_find_none hsecond]
      simp only [ne_eq, not_true_eq_false, or_false, hempty]

theorem parseSegments_cons (first : Bool) (parsed : StructuredPayload) (segment : Bytes)
    (rest : List Bytes) :
    parseSegments first parsed (segment :: rest) =
      (parseSegment first parsed segment).bind fun parsed =>
        if rest = [[]] then .error ⟨"structured payload has a trailing separator"⟩
        else parseSegments false parsed rest := by
  rw [parseSegments, parseSegment, parseField_eq]
  by_cases hempty : segment.isEmpty = true
  · rw [if_pos hempty, if_pos hempty]
    rfl
  cases first && segment == ascii "OK" with
  | true =>
    split
    · rfl
    · rfl
  | false =>
    cases parsed.parseField segment with
    | error | ok =>
      split
      · rfl
      · rfl

theorem splitOn_eq_singleton_nil_iff (text : Bytes) : text.splitOn bar = [[]] ↔ text = [] := by
  constructor
  · intro hsplit
    have hjoin : [bar].intercalate (text.splitOn bar) = text := intercalate_splitOn bar
    rw [hsplit] at hjoin
    exact hjoin.symm
  · rintro rfl
    rfl

/-- From a position within the payload the loop handles the segments that are
left. -/
theorem parseFrom_eq (payload : Bytes) (position : ℕ) (hposition : position < payload.length)
    (first : Bool) (parsed : StructuredPayload) :
    parseFrom payload position first parsed =
      parseSegments first parsed ((payload.drop position).splitOn bar) := by
  induction hleft : payload.length - position using Nat.strong_induction_on
    generalizing position first parsed with
  | h _ ih =>
    rw [parseFrom, if_pos hposition]
    split
    · next hfind =>
      have hall : substr payload position (payload.length - position) = payload.drop position := by
        rw [substr, take_of_length_le]
        rw [length_drop]
      rw [splitOn_of_find_none hfind, parseSegments_cons, hall]
      cases parseSegment first parsed (payload.drop position) with
      | error | ok => rfl
    · next separator hfind =>
      have hle := le_of_find hfind
      obtain ⟨_, _, _⟩ := find_eq_some hfind
      rw [splitOn_of_find hfind, parseSegments_cons]
      cases parseSegment first parsed (substr payload position (separator - position)) with
      | error => rfl
      | ok next =>
        simp only [bind, Except.bind]
        have hlast : (payload.drop (separator + 1)).splitOn bar = [[]] ↔
            separator + 1 = payload.length := by
          rw [splitOn_eq_singleton_nil_iff, drop_eq_nil_iff]
          omega
        by_cases htrailing : separator + 1 = payload.length
        · rw [if_pos htrailing, if_pos (hlast.mpr htrailing)]
          rfl
        · rw [if_neg htrailing, if_neg fun hempty => htrailing (hlast.mp hempty)]
          exact ih _ (by omega) (separator + 1) (by omega) false next rfl

theorem parse_eq (payload : Bytes) : parse payload = StructuredPayload.parse payload := by
  unfold parse StructuredPayload.parse
  cases payload with
  | nil => rfl
  | cons =>
    rw [parseFrom_eq _ 0 (by simp)]
    rfl

end StructuredPayloadLoop

/-! ## The grammar is what is accepted -/

theorem splitOn_status (behind : Bytes) :
    (ascii "OK" ++ bar :: behind).splitOn bar = ascii "OK" :: behind.splitOn bar := by
  apply splitOnP_append_cons_of_forall_mem
  · decide +kernel
  · decide

/-- The parser accepts exactly the grammar and returns what the payload stands
for; the status is there exactly when the payload begins with the segment
`OK`. -/
theorem parse_accepts_grammar (payload : Bytes) :
    (∀ parsed, StructuredPayloadLoop.parse payload = .ok parsed ↔ PayloadText payload parsed) ∧
    ((∃ failure, StructuredPayloadLoop.parse payload = .error failure) ↔
      ∀ parsed, ¬ PayloadText payload parsed) ∧
    ∀ parsed, StructuredPayloadLoop.parse payload = .ok parsed →
      (parsed.status ≠ none ↔ ascii "OK" ++ [bar] <+: payload) := by
  rw [StructuredPayloadLoop.parse_eq]
  refine ⟨parse_eq_ok_iff payload, ?_, ?_⟩
  · simp only [← parse_eq_ok_iff]
    cases StructuredPayload.parse payload with
    | error | ok => simp
  · intro parsed hparse
    obtain ⟨hne, _, htexts, hgrammar⟩ := (parse_eq_ok_iff payload parsed).mp hparse
    rcases hgrammar with ⟨hstatus, hpayload⟩ | ⟨hstatus, hpayload⟩
    · apply iff_of_false (by simp [hstatus])
      rintro ⟨_, hbegins⟩
      have hsplit := htexts.splitOn_eq.1 (htexts.segments_ne_nil hne)
      rw [← hpayload, ← hbegins, append_assoc, singleton_append, splitOn_status] at hsplit
      rw [← hsplit] at htexts
      exact FieldTexts.head_ne_status htexts
    · apply iff_of_true (by simp [hstatus])
      obtain ⟨_, _, hsegments⟩ :=
        exists_cons_of_ne_nil (htexts.segments_ne_nil hne)
      rw [hpayload, hsegments, intercalate_cons_cons]
      exact prefix_append _ _

/-! ## Round trip -/

theorem escapeCharacter_plain {character : UInt8} (hpercent : character ≠ percent)
    (hbar : character ≠ bar) (hequals : character ≠ equalsSign) :
    escapeCharacter character = [character] := by
  rw [escapeCharacter, if_neg hpercent, if_neg hbar, if_neg hequals]

theorem flatMap_escapeCharacter_plain {value : Bytes}
    (hplain : ∀ character ∈ value, character ≠ percent ∧ character ≠ bar ∧ character ≠ equalsSign) :
    value.flatMap escapeCharacter = value := by
  induction value with
  | nil => rfl
  | cons character _ ih =>
    obtain ⟨hpercent, hbar, hequals⟩ := hplain character mem_cons_self
    rw [flatMap_cons, escapeCharacter_plain hpercent hbar hequals,
      ih fun other hother => hplain other (mem_cons_of_mem _ hother)]
    rfl

theorem escapeCharacter_reserved :
    escapeCharacter percent = [percent, 0x32, 0x35] ∧
      escapeCharacter bar = [percent, 0x37, 0x43] ∧
      escapeCharacter equalsSign = [percent, 0x33, 0x44] := by
  decide

theorem EncodedValue.escaped {character first second high low : UInt8} {value text : Bytes}
    (hhigh : hexValue first = some high) (hlow : hexValue second = some low)
    (hcharacter : (high <<< 4) ||| low = character) (hrest : EncodedValue value text) :
    EncodedValue (percent :: first :: second :: value) (character :: text) := by
  rw [← hcharacter]
  exact .escape ((hexValue_eq_some_iff _ _).mp hhigh) ((hexValue_eq_some_iff _ _).mp hlow) hrest

/-- Escaping any bytes gives a value that stands for them. -/
theorem encodedValue_escape (text : Bytes) : EncodedValue (text.flatMap escapeCharacter) text := by
  induction text with
  | nil => exact .nil
  | cons character _ ih =>
    obtain ⟨hpercentEscape, hbarEscape, hequalsEscape⟩ := escapeCharacter_reserved
    rw [flatMap_cons]
    by_cases hpercent : character = percent
    · rw [hpercent, hpercentEscape]
      exact .escaped (by decide : hexValue 0x32 = some 2) (by decide : hexValue 0x35 = some 5)
        (by decide) ih
    by_cases hbar : character = bar
    · rw [hbar, hbarEscape]
      exact .escaped (by decide : hexValue 0x37 = some 7)
        (by decide : hexValue 0x43 = some 12) (by decide) ih
    by_cases hequals : character = equalsSign
    · rw [hequals, hequalsEscape]
      exact .escaped (by decide : hexValue 0x33 = some 3)
        (by decide : hexValue 0x44 = some 13) (by decide) ih
    · rw [escapeCharacter_plain hpercent hbar hequals]
      exact .plain hpercent hbar hequals ih

theorem encodeStructuredValue_ok {value : Bytes} (hvalid : isValidText value = true) :
    encodeStructuredValue value = .ok (value.flatMap escapeCharacter) := by
  rw [encodeStructuredValue, hvalid]
  rfl

namespace StructuredPayloadBuilder

/-- What a field adds to the payload. -/
def fieldText (field : StructuredField) : Bytes :=
  field.1 ++ equalsSign :: field.2.flatMap escapeCharacter

theorem appendField_eq {field : StructuredField} (hvalid : isValidText field.2 = true)
    (payload : Bytes) :
    appendField payload field =
      .ok (if payload.isEmpty then fieldText field else payload ++ bar :: fieldText field) := by
  rw [appendField, encodeStructuredValue_ok hvalid]
  cases payload with
  | nil | cons => simp [fieldText, bind, Except.bind, pure, Except.pure]

theorem foldlM_appendField_eq {fields : List StructuredField}
    (hvalid : ∀ field ∈ fields, isValidText field.2 = true) (payload : Bytes)
    (hpayload : payload ≠ []) :
    fields.foldlM appendField payload =
      .ok ([bar].intercalate (payload :: fields.map fieldText)) := by
  induction fields generalizing payload with
  | nil => simp [pure, Except.pure]
  | cons field rest ih =>
    have happend := appendField_eq (hvalid field mem_cons_self) payload
    rw [if_neg (by simpa using hpayload)] at happend
    rw [foldlM_cons, happend]
    have hrest := ih (fun other hother => hvalid other (mem_cons_of_mem _ hother))
      (payload ++ bar :: fieldText field) (by simp)
    change rest.foldlM appendField (payload ++ bar :: fieldText field) = _
    rw [hrest, map_cons, intercalate_cons_cons]
    cases rest with
    | nil => simp
    | cons => simp [intercalate_cons_cons]

/-- The payload that a builder with fields builds. -/
theorem build_eq (builder : StructuredPayloadBuilder) (hfields : builder.fields ≠ []) :
    builder.build =
      .ok ([bar].intercalate (builder.status.toList ++ builder.fields.map fieldText)) := by
  unfold build
  rw [if_neg (by simpa using hfields)]
  cases hstatus : builder.status with
  | some status =>
    have hnonempty : status ≠ [] := by
      rw [builder.status_ok status hstatus]
      decide
    exact foldlM_appendField_eq builder.values_valid status hnonempty
  | none =>
    obtain ⟨field, _, hcons⟩ := exists_cons_of_ne_nil hfields
    have hvalid := builder.values_valid
    rw [hcons] at hvalid ⊢
    rw [Option.getD_none, foldlM_cons, appendField_eq (hvalid field mem_cons_self)]
    exact foldlM_appendField_eq
      (fun other hother => hvalid other (mem_cons_of_mem _ hother)) (fieldText field)
      (by simp [fieldText])

theorem fieldTexts (builder : StructuredPayloadBuilder) :
    FieldTexts (builder.fields.map fieldText) builder.fields where
  each := by
    rw [forall₂_map_left_iff, forall₂_same]
    intro field hfield
    exact ⟨builder.keys_valid field hfield, builder.values_valid field hfield, _, rfl,
      encodedValue_escape field.2⟩
  keys_nodup := builder.keys_nodup

/-- What a builder builds is parsed back. -/
theorem parse_build (builder : StructuredPayloadBuilder) (hfields : builder.fields ≠ []) :
    ∃ payload, builder.build = .ok payload ∧
      StructuredPayloadLoop.parse payload = .ok ⟨builder.status, builder.fields⟩ := by
  refine ⟨_, builder.build_eq hfields, ?_⟩
  rw [StructuredPayloadLoop.parse_eq, parse_eq_ok_iff]
  refine ⟨hfields, _, builder.fieldTexts, ?_⟩
  cases hstatus : builder.status with
  | none => exact .inl ⟨rfl, rfl⟩
  | some status =>
    rw [builder.status_ok status hstatus]
    exact .inr ⟨rfl, rfl⟩

/-- What a field adds to the length of the payload, its separator included. -/
def fieldLength (field : StructuredField) : ℕ :=
  field.1.length + (field.2.flatMap escapeCharacter).length + 2

theorem length_intercalate_bar {texts : List Bytes} (htexts : texts ≠ []) :
    ([bar].intercalate texts).length + 1 = (texts.map fun text => text.length + 1).sum := by
  induction texts with
  | nil => exact absurd rfl htexts
  | cons _ rest ih =>
    cases rest with
    | nil => simp
    | cons other rest =>
      have hrest := ih (cons_ne_nil other rest)
      rw [intercalate_cons_cons, map_cons, sum_cons, ← hrest]
      simp only [length_append, length_singleton]
      omega

theorem build_length (builder : StructuredPayloadBuilder) (hfields : builder.fields ≠ [])
    (hstatus : builder.status = none) :
    ∃ payload, builder.build = .ok payload ∧
      payload.length + 1 = (builder.fields.map fieldLength).sum := by
  refine ⟨_, builder.build_eq hfields, ?_⟩
  rw [hstatus, Option.toList_none, nil_append, length_intercalate_bar (by simpa using hfields),
    map_map]
  congr 1
  apply map_congr_left
  simp only [Function.comp_apply, fieldText, fieldLength, length_append, length_cons]
  omega

/-- A new builder, with the status or without. -/
def start (status : Bool) : Except ProtocolError StructuredPayloadBuilder :=
  if status then withStatus (ascii "OK") else .ok .empty

end StructuredPayloadBuilder

/-- Every list of fields with different valid keys and valid values is accepted,
built and parsed back in order; every valid value survives encoding. -/
theorem structuredPayload_roundTrip :
    (∀ (status : Bool) (fields : List StructuredField), fields ≠ [] →
      (∀ field ∈ fields, isValidKey field.1 = true ∧ isValidText field.2 = true) →
      (fields.map Prod.fst).Nodup →
      ∃ builder payload,
        (do (← StructuredPayloadBuilder.start status).addFields fields) = .ok builder ∧
        builder.build = .ok payload ∧
        StructuredPayloadLoop.parse payload =
          .ok ⟨if status then some (ascii "OK") else none, fields⟩) ∧
    ∀ value, isValidText value = true →
      (do decodeStructuredValue (← encodeStructuredValue value)) = .ok value := by
  constructor
  · intro status fields hne hvalid hnodup
    obtain ⟨first, hfirst, hempty, hstatus⟩ : ∃ first : StructuredPayloadBuilder,
        StructuredPayloadBuilder.start status = .ok first ∧ first.fields = [] ∧
          first.status = if status then some (ascii "OK") else none := by
      cases status with
      | true =>
        exact ⟨_, rfl, rfl, rfl⟩
      | false => exact ⟨{}, rfl, rfl, rfl⟩
    have hkeys : (first.fields.map Prod.fst ++ fields.map Prod.fst).Nodup := by
      rw [hempty]
      exact hnodup
    obtain ⟨builder, hadd, hfields, hkept⟩ := StructuredPayloadBuilder.addFields_ok
      (fun field hfield => (hvalid field hfield).1) hkeys
      (fun field hfield => (hvalid field hfield).2)
    rw [hempty, nil_append] at hfields
    obtain ⟨payload, hbuild, hparse⟩ := builder.parse_build (by rw [hfields]; exact hne)
    rw [hfields, hkept, hstatus] at hparse
    refine ⟨builder, payload, ?_, hbuild, hparse⟩
    rw [hfirst]
    exact hadd
  · intro value hvalid
    rw [encodeStructuredValue_ok hvalid]
    exact (decodeStructuredValue_eq_ok_iff _ _).mpr ⟨encodedValue_escape value, hvalid⟩

end SessionServer.Protocol
