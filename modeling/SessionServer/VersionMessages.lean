import SessionServer.ProtocolVersion
import SessionServer.StructuredPayloadLoop

/-!
# What the version messages say

A version is written as decimal digits.  The decoders accept exactly the
payloads with the fields of the message, and what the encoders write is read
back.
-/

namespace SessionServer.Protocol

open StructuredPayloadBuilder StructuredPayload StructuredPayloadLoop List

/-- A sequence of fallible steps succeeds when each step does. -/
theorem bind_eq_ok_iff {ε α β : Type} (first : Except ε α) (next : α → Except ε β) (result : β) :
    (first >>= next) = .ok result ↔ ∃ value, first = .ok value ∧ next value = .ok result := by
  cases first <;> simp [bind, Except.bind]

/-! ## Decimal numbers -/

/-- The number that decimal digits denote. -/
def decimalValue (text : Bytes) : ℕ :=
  Nat.ofDigits 10 (text.map digitValue).reverse

theorem foldl_digits_eq (text : Bytes) :
    text.foldl (fun value digit => 10 * value + digitValue digit) 0 = decimalValue text := by
  rw [decimalValue, Nat.ofDigits_eq_foldr, foldr_reverse, foldl_map]
  simp only [Nat.cast_id, Nat.add_comm]

theorem decimalValue_decimal (number : ℕ) : decimalValue (decimal number) = number := by
  unfold decimalValue decimal
  split
  next hzero =>
    rw [hzero]
    rfl
  next =>
    have hdigits : ((Nat.digits 10 number).reverse.map
        fun digit => UInt8.ofNat (0x30 + digit)).map digitValue =
          (Nat.digits 10 number).reverse := by
      rw [map_map]
      conv_rhs => rw [← map_id (Nat.digits 10 number).reverse]
      apply map_congr_left
      intro digit hdigit
      have hlt := Nat.digits_lt_base (by decide) (mem_reverse.mp hdigit)
      interval_cases digit <;> rfl
    rw [hdigits, reverse_reverse, Nat.ofDigits_digits]

theorem decimal_ne_nil (number : ℕ) : decimal number ≠ [] := by
  unfold decimal
  split
  · exact cons_ne_nil _ _
  · next hzero =>
    simpa using Nat.digits_ne_nil_iff_ne_zero.mpr hzero

/-- The whole text is a number in the range. -/
theorem fromChars_eq_whole_iff (maximum value : ℕ) (text : Bytes) :
    fromChars maximum text = some (value, []) ↔
      text ≠ [] ∧ (∀ character ∈ text, isDigit character = true) ∧
        decimalValue text = value ∧ value ≤ maximum := by
  simp only [fromChars]
  by_cases hdigits : ∀ character ∈ text, isDigit character = true
  · rw [List.takeWhile_eq_self_iff.mpr hdigits, List.dropWhile_eq_nil_iff.mpr hdigits,
      foldl_digits_eq]
    constructor
    · intro hchars
      split at hchars
      · cases hchars
      · next hrange =>
        simp only [Bool.or_eq_true, List.isEmpty_iff, decide_eq_true_eq, not_or, not_lt] at hrange
        cases hchars
        exact ⟨hrange.1, hdigits, rfl, hrange.2⟩
    · rintro ⟨hne, _, rfl, hle⟩
      simp [hne, hle]
  · have hrest : text.dropWhile isDigit ≠ [] := by
      rwa [Ne, List.dropWhile_eq_nil_iff]
    constructor
    · intro hchars
      split at hchars
      · cases hchars
      · exact absurd (Prod.mk.inj (Option.some.inj hchars)).2 hrest
    · intro hwhole
      exact absurd hwhole.2.1 hdigits

/-! ## Versions -/

/-- Decimal digits that denote a version. -/
structure VersionText (text : Bytes) (version : UInt16) : Prop where
  ne_nil : text ≠ []
  digits : ∀ character ∈ text, isDigit character = true
  value_eq : decimalValue text = version.toNat
  ne_zero : version ≠ 0

theorem parseVersion_eq_ok_iff (text : Bytes) (version : UInt16) :
    parseVersion text = .ok version ↔ VersionText text version := by
  constructor
  · intro hparse
    unfold parseVersion at hparse
    split at hparse
    · next value hchars =>
      obtain ⟨hne, hdigits, hvalue, _⟩ := (fromChars_eq_whole_iff _ _ _).mp hchars
      split at hparse
      · cases hparse
      · next hzero =>
        cases hparse
        have hnat : (UInt16.ofNat value).toNat = value := UInt16.toNat_ofNat_of_lt (by
          change value < 65536
          omega)
        refine ⟨hne, hdigits, by rw [hvalue, hnat], ?_⟩
        intro hversion
        rw [hversion] at hnat
        apply hzero
        simp [← hnat]
    · cases hparse
  · rintro ⟨hne, hdigits, hvalue, hversion⟩
    have hlt := version.toNat_lt
    have hchars := (fromChars_eq_whole_iff 65535 version.toNat text).mpr
      ⟨hne, hdigits, hvalue, by omega⟩
    have hpositive : version.toNat ≠ 0 := by
      intro hzero
      exact hversion (UInt16.toNat_inj.mp hzero)
    simp [parseVersion, hchars, hne, hpositive]

theorem versionText_decimal {version : UInt16} (hversion : version ≠ 0) :
    VersionText (decimal version.toNat) version :=
  ⟨decimal_ne_nil _, decimal_digits, decimalValue_decimal _, hversion⟩

theorem validateRange_eq_ok_iff (range : VersionRange) :
    validateRange range = .ok () ↔ range.minVersion ≠ 0 ∧ range.minVersion ≤ range.maxVersion := by
  unfold validateRange
  split
  next hinvalid =>
    constructor
    · intro hvalid
      cases hvalid
    · rintro ⟨hzero, hle⟩
      rcases hinvalid with hinvalid | hinvalid
      · exact absurd hinvalid hzero
      · exact absurd hle (UInt16.not_le.mpr hinvalid)
  next hvalid =>
    rw [not_or, gt_iff_lt, UInt16.not_lt] at hvalid
    exact iff_of_true rfl hvalid

/-! ## Fields -/

theorem requireField_eq_ok_iff (parsed : StructuredPayload) (key value : Bytes) :
    parsed.requireField key = .ok value ↔ parsed.field key = some value := by
  unfold requireField
  cases parsed.field key <;> simp

theorem field_mem {parsed : StructuredPayload} {key value : Bytes}
    (hfield : parsed.field key = some value) : (key, value) ∈ parsed.fields := by
  obtain ⟨⟨found, _⟩, hfind, rfl⟩ := Option.map_eq_some_iff.mp hfield
  have hkey : found = key := by simpa using find?_some hfind
  rw [← hkey]
  exact mem_of_find?_eq_some hfind

theorem fields_of_length_two {parsed : StructuredPayload} {low high : Bytes}
    {lowKey highKey : Bytes} (hne : lowKey ≠ highKey) (hlength : parsed.fields.length = 2) :
    (parsed.field lowKey = some low ∧ parsed.field highKey = some high) ↔
      parsed.fields = [(lowKey, low), (highKey, high)] ∨
        parsed.fields = [(highKey, high), (lowKey, low)] := by
  constructor
  · rintro ⟨hlow, hhigh⟩
    obtain ⟨_, _, hfields⟩ := length_eq_two.mp hlength
    have hlowMem := field_mem hlow
    have hhighMem := field_mem hhigh
    rw [hfields] at hlowMem hhighMem ⊢
    simp only [mem_cons, not_mem_nil, or_false] at hlowMem hhighMem
    rcases hlowMem with rfl | rfl
    · rcases hhighMem with heq | rfl
      · exact absurd (congrArg Prod.fst heq).symm hne
      · exact .inl rfl
    · rcases hhighMem with rfl | heq
      · exact .inr rfl
      · exact absurd (congrArg Prod.fst heq).symm hne
  · rintro (hfields | hfields)
    · simp [field, hfields, hne]
    · simp [field, hfields, hne.symm]

theorem fields_of_length_one {parsed : StructuredPayload} {key value : Bytes} :
    (parsed.fields.length = 1 ∧ parsed.field key = some value) ↔
      parsed.fields = [(key, value)] := by
  constructor
  · rintro ⟨hlength, hfield⟩
    obtain ⟨_, hfields⟩ := length_eq_one_iff.mp hlength
    have hmem := field_mem hfield
    rw [hfields, mem_singleton] at hmem
    rw [hfields, hmem]
  · intro hfields
    simp [field, hfields]

/-! ## Messages -/

/-- A payload that offers the versions of a range. -/
def VersionRequestText (payload : Bytes) (range : VersionRange) : Prop :=
  ∃ parsed low high, StructuredPayloadLoop.parse payload = .ok parsed ∧ parsed.status = none ∧
    (parsed.fields = [(ascii "min_version", low), (ascii "max_version", high)] ∨
      parsed.fields = [(ascii "max_version", high), (ascii "min_version", low)]) ∧
    VersionText low range.minVersion ∧ VersionText high range.maxVersion ∧
    range.minVersion ≤ range.maxVersion

/-- A payload that selects a version. -/
def VersionResponseText (payload : Bytes) (version : UInt16) : Prop :=
  ∃ parsed text, StructuredPayloadLoop.parse payload = .ok parsed ∧
    parsed.status = some (ascii "OK") ∧ parsed.fields = [(ascii "version", text)] ∧
    VersionText text version

theorem decodeVersionRequest_eq_ok_iff (payload : Bytes) (range : VersionRange) :
    decodeVersionRequest payload = .ok range ↔ VersionRequestText payload range := by
  have hkeys : ascii "min_version" ≠ ascii "max_version" := by decide
  unfold decodeVersionRequest VersionRequestText
  rw [parse_eq]
  constructor
  · intro hdecode
    obtain ⟨parsed, hparse, hdecode⟩ := (bind_eq_ok_iff _ _ _).mp hdecode
    split at hdecode
    · cases hdecode
    next hshape =>
    simp only [Bool.or_eq_true, decide_eq_true_eq, not_or, Bool.not_eq_true,
      Option.isSome_eq_false_iff, Option.isNone_iff_eq_none, not_not] at hshape
    obtain ⟨low, hlow, hdecode⟩ := (bind_eq_ok_iff _ _ _).mp hdecode
    obtain ⟨_, hlowText, hdecode⟩ := (bind_eq_ok_iff _ _ _).mp hdecode
    obtain ⟨high, hhigh, hdecode⟩ := (bind_eq_ok_iff _ _ _).mp hdecode
    obtain ⟨_, hhighText, hdecode⟩ := (bind_eq_ok_iff _ _ _).mp hdecode
    obtain ⟨_, hvalid, hdecode⟩ := (bind_eq_ok_iff _ _ _).mp hdecode
    cases hdecode
    exact ⟨parsed, low, high, hparse, hshape.1,
      (fields_of_length_two hkeys hshape.2).mp
        ⟨(requireField_eq_ok_iff _ _ _).mp hlow, (requireField_eq_ok_iff _ _ _).mp hhigh⟩,
      (parseVersion_eq_ok_iff _ _).mp hlowText, (parseVersion_eq_ok_iff _ _).mp hhighText,
      ((validateRange_eq_ok_iff _).mp hvalid).2⟩
  · rintro ⟨parsed, _, _, hparse, hstatus, hfields, hlow, hhigh, hle⟩
    have hlength : parsed.fields.length = 2 := by
      rcases hfields with hfields | hfields <;> rw [hfields] <;> rfl
    obtain ⟨hlowField, hhighField⟩ := (fields_of_length_two hkeys hlength).mpr hfields
    rw [hparse]
    simp only [bind, Except.bind, hstatus, hlength,
      (requireField_eq_ok_iff _ _ _).mpr hlowField, (requireField_eq_ok_iff _ _ _).mpr hhighField,
      (parseVersion_eq_ok_iff _ _).mpr hlow, (parseVersion_eq_ok_iff _ _).mpr hhigh,
      (validateRange_eq_ok_iff _).mpr ⟨hlow.ne_zero, hle⟩]
    rfl

theorem decodeVersionResponse_eq_ok_iff (payload : Bytes) (version : UInt16) :
    decodeVersionResponse payload = .ok version ↔ VersionResponseText payload version := by
  unfold decodeVersionResponse VersionResponseText
  rw [parse_eq]
  constructor
  · intro hdecode
    obtain ⟨parsed, hparse, hdecode⟩ := (bind_eq_ok_iff _ _ _).mp hdecode
    split at hdecode
    · cases hdecode
    next hshape =>
    simp only [Bool.or_eq_true, decide_eq_true_eq, not_or, not_not] at hshape
    obtain ⟨text, htext, hversion⟩ := (bind_eq_ok_iff _ _ _).mp hdecode
    exact ⟨parsed, text, hparse, hshape.1,
      fields_of_length_one.mp ⟨hshape.2, (requireField_eq_ok_iff _ _ _).mp htext⟩,
      (parseVersion_eq_ok_iff _ _).mp hversion⟩
  · rintro ⟨_, _, hparse, hstatus, hfields, htext⟩
    obtain ⟨hlength, hfield⟩ := fields_of_length_one.mpr hfields
    rw [hparse]
    simp only [bind, Except.bind, hstatus, hlength,
      (requireField_eq_ok_iff _ _ _).mpr hfield, (parseVersion_eq_ok_iff _ _).mpr htext]
    rfl

theorem parse_addNumbers {builder : StructuredPayloadBuilder} (hempty : builder.fields = [])
    {fields : List StructuredField} (hfields : fields ≠ [])
    (hkeys : ∀ key ∈ fields.map Prod.fst, isValidKey key = true)
    (hnodup : (fields.map Prod.fst).Nodup)
    (hvalues : ∀ field ∈ fields, ∃ number, field.2 = decimal number) :
    ∃ payload, (builder.addFields fields >>= build) = .ok payload ∧
      StructuredPayloadLoop.parse payload = .ok ⟨builder.status, fields⟩ := by
  have hvalid : ∀ field ∈ fields, isValidText field.2 = true := by
    intro field hfield
    obtain ⟨_, hnumber⟩ := hvalues field hfield
    rw [hnumber]
    exact isValidText_of_printable decimal_printable
  have hall : (builder.fields.map Prod.fst ++ fields.map Prod.fst).Nodup := by
    rw [hempty]
    exact hnodup
  obtain ⟨next, hadd, hnext, hstatus⟩ := addFields_ok
    (fun field hfield => hkeys _ (mem_map_of_mem hfield)) hall hvalid
  rw [hempty, nil_append] at hnext
  obtain ⟨payload, hbuild, hparse⟩ := next.parse_build (by rw [hnext]; exact hfields)
  rw [hnext, hstatus] at hparse
  refine ⟨payload, ?_, hparse⟩
  rw [hadd]
  exact hbuild

theorem encodeVersionRequest_text {range : VersionRange} (hmin : range.minVersion ≠ 0)
    (hle : range.minVersion ≤ range.maxVersion) :
    ∃ payload, encodeVersionRequest range = .ok payload ∧ VersionRequestText payload range := by
  have hmax : range.maxVersion ≠ 0 := by
    intro hzero
    rw [hzero] at hle
    exact hmin (UInt16.le_zero_iff.mp hle)
  let builder : StructuredPayloadBuilder := {}
  let fields := [(ascii "min_version", decimal range.minVersion.toNat),
    (ascii "max_version", decimal range.maxVersion.toNat)]
  have hkeys : fields.map Prod.fst = [ascii "min_version", ascii "max_version"] := rfl
  obtain ⟨payload, hbuild, hparse⟩ : ∃ payload,
      (builder.addFields fields >>= build) = .ok payload ∧
        StructuredPayloadLoop.parse payload = .ok ⟨none, fields⟩ := by
    apply parse_addNumbers rfl (cons_ne_nil _ _)
    · rw [hkeys]
      decide
    · rw [hkeys]
      decide
    · simp
  have hencode : encodeVersionRequest range = (builder.addFields fields >>= build) := by
    simp only [encodeVersionRequest, (validateRange_eq_ok_iff _).mpr ⟨hmin, hle⟩,
      addFields, fields, foldlM_cons, foldlM_nil, bind_pure,
      bind_assoc]
    rfl
  refine ⟨payload, by rw [hencode, hbuild], _, _, _, hparse, rfl, .inl rfl, ?_, ?_, hle⟩
  · exact versionText_decimal hmin
  · exact versionText_decimal hmax

theorem encodeVersionResponse_text {version : UInt16} (hversion : version ≠ 0) :
    ∃ payload, encodeVersionResponse version = .ok payload ∧
      VersionResponseText payload version := by
  obtain ⟨builder, hstart, hempty, hstatus⟩ : ∃ builder : StructuredPayloadBuilder,
      withStatus (ascii "OK") = .ok builder ∧ builder.fields = [] ∧
        builder.status = some (ascii "OK") := by
    exact ⟨_, rfl, rfl, rfl⟩
  let fields := [(ascii "version", decimal version.toNat)]
  have hkeys : fields.map Prod.fst = [ascii "version"] := rfl
  obtain ⟨payload, hbuild, hparse⟩ : ∃ payload,
      (builder.addFields fields >>= build) = .ok payload ∧
        StructuredPayloadLoop.parse payload = .ok ⟨builder.status, fields⟩ := by
    apply parse_addNumbers hempty (cons_ne_nil _ _)
    · rw [hkeys]
      decide
    · rw [hkeys]
      decide
    · simp
  have hencode : encodeVersionResponse version = (builder.addFields fields >>= build) := by
    simp only [encodeVersionResponse, hversion, if_false, hstart,
      addFields, fields, foldlM_cons, foldlM_nil, bind_pure]
    rfl
  exact ⟨payload, by rw [hencode, hbuild], _, _, hparse, hstatus, rfl, versionText_decimal hversion⟩

/-- The version messages round-trip and are accepted exactly. -/
theorem version_messages :
    (∀ range : VersionRange, 1 ≤ range.minVersion → range.minVersion ≤ range.maxVersion →
      (encodeVersionRequest range >>= decodeVersionRequest) = .ok range) ∧
    (∀ version : UInt16, 1 ≤ version →
      (encodeVersionResponse version >>= decodeVersionResponse) = .ok version) ∧
    (∀ payload range, decodeVersionRequest payload = .ok range ↔ VersionRequestText payload range) ∧
    ∀ payload version, decodeVersionResponse payload = .ok version ↔
      VersionResponseText payload version := by
  have hpositive : ∀ version : UInt16, 1 ≤ version → version ≠ 0 := by
    rintro _ hone rfl
    exact absurd hone (by decide)
  refine ⟨?_, ?_, decodeVersionRequest_eq_ok_iff, decodeVersionResponse_eq_ok_iff⟩
  · intro _ hmin hle
    obtain ⟨payload, hencode, htext⟩ := encodeVersionRequest_text (hpositive _ hmin) hle
    exact (bind_eq_ok_iff _ _ _).mpr
      ⟨payload, hencode, (decodeVersionRequest_eq_ok_iff _ _).mpr htext⟩
  · intro _ hversion
    obtain ⟨payload, hencode, htext⟩ := encodeVersionResponse_text (hpositive _ hversion)
    exact (bind_eq_ok_iff _ _ _).mpr
      ⟨payload, hencode, (decodeVersionResponse_eq_ok_iff _ _).mpr htext⟩

end SessionServer.Protocol
