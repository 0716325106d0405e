import SessionServer.StructuredPayload

/-!
# The grammar of structured payloads

A payload is an optional `OK` and one or more fields, with bars between them.
Splitting at the bars and at the equals sign recovers exactly these parts.
-/

namespace SessionServer.Protocol

open StructuredPayloadBuilder StructuredPayload List

variable {fields : List StructuredField} {segments : List Bytes}

/-! ## Values -/

/-- A hex digit of either case and its value. -/
def HexDigit (character value : UInt8) : Prop :=
  (0x30 ≤ character ∧ character ≤ 0x39 ∧ value = character - 0x30) ∨
    (0x41 ≤ character ∧ character ≤ 0x46 ∧ value = character - 0x41 + 10) ∨
    (0x61 ≤ character ∧ character ≤ 0x66 ∧ value = character - 0x61 + 10)

theorem hexValue_eq_some_iff (character value : UInt8) :
    hexValue character = some value ↔ HexDigit character value := by
  unfold hexValue HexDigit
  simp only [Bool.and_eq_true, decide_eq_true_eq]
  by_cases hdigit : 0x30 ≤ character ∧ character ≤ 0x39
  · rw [if_pos hdigit]
    have hupper : ¬ 0x41 ≤ character := by
      simp only [UInt8.le_iff_toNat_le, UInt8.reduceToNat] at *
      omega
    have hlower : ¬ 0x61 ≤ character := by
      simp only [UInt8.le_iff_toNat_le, UInt8.reduceToNat] at *
      omega
    simp only [hdigit, hupper, hlower, Option.some.injEq, true_and, false_and, or_false]
    exact eq_comm
  rw [if_neg hdigit]
  have hnotDigit : ¬ (0x30 ≤ character ∧ character ≤ 0x39 ∧ value = character - 0x30) :=
    fun hsome => hdigit ⟨hsome.1, hsome.2.1⟩
  by_cases hupper : 0x41 ≤ character ∧ character ≤ 0x46
  · rw [if_pos hupper]
    have hlower : ¬ 0x61 ≤ character := by
      simp only [UInt8.le_iff_toNat_le, UInt8.reduceToNat] at *
      omega
    simp only [hnotDigit, hupper, hlower, Option.some.injEq, true_and, false_and, or_false,
      false_or]
    exact eq_comm
  rw [if_neg hupper]
  have hnotUpper : ¬ (0x41 ≤ character ∧ character ≤ 0x46 ∧ value = character - 0x41 + 10) :=
    fun hsome => hupper ⟨hsome.1, hsome.2.1⟩
  by_cases hlower : 0x61 ≤ character ∧ character ≤ 0x66
  · rw [if_pos hlower]
    simp only [hnotDigit, hnotUpper, hlower, Option.some.injEq, true_and, false_or]
    exact eq_comm
  · rw [if_neg hlower]
    have hnotLower : ¬ (0x61 ≤ character ∧ character ≤ 0x66 ∧
        value = character - 0x61 + 10) := fun hsome => hlower ⟨hsome.1, hsome.2.1⟩
    simp only [hnotDigit, hnotUpper, hnotLower, or_self, reduceCtorEq]

theorem unescape_plain {character : UInt8} (hpercent : character ≠ percent)
    (hbar : character ≠ bar) (hequals : character ≠ equalsSign) (rest : Bytes) :
    unescape (character :: rest) = (unescape rest).map (character :: ·) := by
  conv_lhs => unfold unescape
  rw [if_neg (not_or.mpr ⟨hbar, hequals⟩), if_pos hpercent]
  cases unescape rest with
  | error | ok => rfl

/-- A value on the wire and the text it stands for. -/
inductive EncodedValue : Bytes → Bytes → Prop
  | nil : EncodedValue [] []
  | plain {character : UInt8} {value text : Bytes} (hpercent : character ≠ percent)
      (hbar : character ≠ bar) (hequals : character ≠ equalsSign)
      (hrest : EncodedValue value text) :
      EncodedValue (character :: value) (character :: text)
  | escape {first second high low : UInt8} {value text : Bytes}
      (hhigh : HexDigit first high) (hlow : HexDigit second low)
      (hrest : EncodedValue value text) :
      EncodedValue (percent :: first :: second :: value) (((high <<< 4) ||| low) :: text)

theorem HexDigit.ne_separator {character value : UInt8} (hdigit : HexDigit character value) :
    character ≠ bar ∧ character ≠ equalsSign := by
  constructor
  · rintro rfl
    simp [HexDigit, bar] at hdigit
  · rintro rfl
    simp [HexDigit, equalsSign] at hdigit

namespace EncodedValue

variable {value text : Bytes}

theorem separator_notMem (hencoded : EncodedValue value text) :
    bar ∉ value ∧ equalsSign ∉ value := by
  induction hencoded with
  | nil => simp
  | plain _ hbar hequals _ ih =>
    simp only [mem_cons, not_or]
    exact ⟨⟨hbar.symm, ih.1⟩, hequals.symm, ih.2⟩
  | escape hhigh hlow _ ih =>
    have hfirst := hhigh.ne_separator
    have hsecond := hlow.ne_separator
    simp only [mem_cons, not_or]
    exact ⟨⟨by decide, hfirst.1.symm, hsecond.1.symm, ih.1⟩,
      by decide, hfirst.2.symm, hsecond.2.symm, ih.2⟩

theorem unescape_eq (hencoded : EncodedValue value text) : unescape value = .ok text := by
  induction hencoded with
  | nil => rw [unescape]
  | plain hpercent hbar hequals _ ih =>
    rw [unescape_plain hpercent hbar hequals, ih]
    rfl
  | escape hhigh hlow _ ih =>
    rw [unescape, if_neg (by decide), if_neg (by decide),
      (hexValue_eq_some_iff _ _).mpr hhigh, (hexValue_eq_some_iff _ _).mpr hlow, ih]
    rfl

theorem of_unescape (hunescape : unescape value = .ok text) : EncodedValue value text := by
  induction value using unescape.induct generalizing text with
  | case1 =>
    cases hunescape
    exact .nil
  | case2 _ _ hseparator =>
    unfold unescape at hunescape
    rw [if_pos hseparator] at hunescape
    cases hunescape
  | case3 _ rest hseparator hpercent ih =>
    rw [not_or] at hseparator
    rw [unescape_plain hpercent hseparator.1 hseparator.2] at hunescape
    cases hrest : unescape rest with
    | error =>
      rw [hrest] at hunescape
      cases hunescape
    | ok =>
      rw [hrest] at hunescape
      cases hunescape
      exact .plain hpercent hseparator.1 hseparator.2 (ih hrest)
  | case4 _ hseparator hpercent _ _ rest _ _ hlow hhigh ih =>
    unfold unescape at hunescape
    rw [if_neg hseparator, if_neg hpercent] at hunescape
    simp only [hhigh, hlow] at hunescape
    rw [not_not] at hpercent
    rw [hpercent]
    cases hrest : unescape rest with
    | error =>
      rw [hrest] at hunescape
      cases hunescape
    | ok =>
      rw [hrest] at hunescape
      cases hunescape
      exact .escape ((hexValue_eq_some_iff _ _).mp hhigh)
        ((hexValue_eq_some_iff _ _).mp hlow) (ih hrest)
  | case5 _ hseparator hpercent =>
    unfold unescape at hunescape
    rw [if_neg hseparator, if_neg hpercent] at hunescape
    simp only at hunescape
    cases hunescape
  | case6 _ _ hseparator hpercent hshort =>
    unfold unescape at hunescape
    rw [if_neg hseparator, if_neg hpercent] at hunescape
    split at hunescape
    · next first second behind => exact (hshort first second behind rfl).elim
    · cases hunescape

end EncodedValue

theorem decodeStructuredValue_eq_ok_iff (value text : Bytes) :
    decodeStructuredValue value = .ok text ↔ EncodedValue value text ∧ isValidText text = true := by
  unfold decodeStructuredValue
  cases hunescape : unescape value with
  | error =>
    constructor
    · intro hdecode
      cases hdecode
    · rintro ⟨hencoded, _⟩
      rw [hencoded.unescape_eq] at hunescape
      cases hunescape
  | ok decoded =>
    simp only [bind, Except.bind, pure, Except.pure]
    cases hvalid : isValidText decoded with
    | false =>
      constructor
      · intro hdecode
        cases hdecode
      · rintro ⟨hencoded, htext⟩
        rw [hencoded.unescape_eq] at hunescape
        cases hunescape
        rw [hvalid] at htext
        cases htext
    | true =>
      constructor
      · intro hdecode
        cases hdecode
        exact ⟨.of_unescape hunescape, hvalid⟩
      · rintro ⟨hencoded, _⟩
        rw [hencoded.unescape_eq] at hunescape
        cases hunescape
        rfl

/-! ## Fields -/

/-- A segment that is a field: the key, an equals sign and the value. -/
def FieldText (segment : Bytes) (field : StructuredField) : Prop :=
  isValidKey field.1 = true ∧ isValidText field.2 = true ∧
    ∃ value, segment = field.1 ++ equalsSign :: value ∧ EncodedValue value field.2

theorem separator_notMem_key {key : Bytes} (hkey : isValidKey key = true) :
    bar ∉ key ∧ equalsSign ∉ key := by
  rw [isValidKey, Bool.and_eq_true, all_eq_true] at hkey
  constructor
  · intro hbar
    have hcharacter := hkey.2 _ hbar
    simp [isKeyCharacter, bar] at hcharacter
  · intro hequals
    have hcharacter := hkey.2 _ hequals
    simp [isKeyCharacter, equalsSign] at hcharacter

namespace FieldText

variable {segment : Bytes} {field : StructuredField}

theorem ne_nil (htext : FieldText segment field) : segment ≠ [] := by
  obtain ⟨_, _, _, rfl, _⟩ := htext
  simp

theorem bar_notMem (htext : FieldText segment field) : bar ∉ segment := by
  obtain ⟨hkey, _, _, rfl, hencoded⟩ := htext
  have hkeyBar := (separator_notMem_key hkey).1
  have hvalueBar := hencoded.separator_notMem.1
  simp only [mem_append, mem_cons, not_or]
  exact ⟨hkeyBar, by decide, hvalueBar⟩

theorem ne_status (htext : FieldText segment field) : segment ≠ ascii "OK" := by
  obtain ⟨_, _, _, rfl, _⟩ := htext
  intro hstatus
  have hequals : equalsSign ∈ ascii "OK" := by
    rw [← hstatus]
    simp
  exact absurd hequals (by decide)

theorem splitOn_eq (htext : FieldText segment field) :
    ∃ value, segment.splitOn equalsSign = [field.1, value] ∧ EncodedValue value field.2 := by
  obtain ⟨hkey, _, value, rfl, hencoded⟩ := htext
  refine ⟨value, ?_, hencoded⟩
  have hjoin : field.1 ++ equalsSign :: value = [equalsSign].intercalate [field.1, value] := by
    simp [intercalate]
  rw [hjoin]
  apply splitOn_intercalate
  · intro _ hpart
    simp only [mem_cons, not_mem_nil, or_false] at hpart
    rcases hpart with rfl | rfl
    · exact (separator_notMem_key hkey).2
    · exact hencoded.separator_notMem.2
  · simp

end FieldText

theorem parseField_eq_ok_iff (parsed result : StructuredPayload) (segment : Bytes) :
    parsed.parseField segment = .ok result ↔
      ∃ field, FieldText segment field ∧ field.1 ∉ parsed.fields.map Prod.fst ∧
        result = { parsed with fields := parsed.fields ++ [field] } := by
  constructor
  · intro hparse
    unfold parseField at hparse
    split at hparse
    · next key value hsplit =>
      split at hparse
      · cases hparse
      split at hparse
      · cases hparse
      next hkey =>
        rw [Bool.or_eq_true, not_or, Bool.not_eq_true, Bool.not_eq_false', Bool.not_eq_true] at hkey
        cases hdecode : decodeStructuredValue value with
        | error =>
          rw [hdecode] at hparse
          cases hparse
        | ok decoded =>
          rw [hdecode] at hparse
          cases hparse
          obtain ⟨hencoded, hvalid⟩ := (decodeStructuredValue_eq_ok_iff _ _).mp hdecode
          have hsegment : segment = key ++ equalsSign :: value := by
            have hjoin : [equalsSign].intercalate (segment.splitOn equalsSign) = segment :=
              intercalate_splitOn equalsSign
            rw [hsplit] at hjoin
            rw [← hjoin]
            simp [intercalate]
          exact ⟨(key, decoded), ⟨hkey.1, hvalid, value, hsegment, hencoded⟩,
            containsKey_eq_false hkey.2, rfl⟩
    · cases hparse
  · rintro ⟨field, htext, hnew, rfl⟩
    obtain ⟨value, hsplit, hencoded⟩ := htext.splitOn_eq
    obtain ⟨hkey, hvalid, _⟩ := htext
    have hdecode := (decodeStructuredValue_eq_ok_iff value field.2).mpr ⟨hencoded, hvalid⟩
    have hnonempty : ¬ field.1.isEmpty = true := by
      intro hempty
      simp [isValidKey, hempty] at hkey
    have habsent := containsKey_eq_false_iff.mpr hnew
    unfold parseField
    rw [hsplit]
    simp only
    rw [if_neg hnonempty, if_neg (by simp [hkey, habsent]), hdecode]
    rfl

/-! ## Payloads -/

/-- Segments that are fields, one by one and with different keys. -/
structure FieldTexts (segments : List Bytes) (fields : List StructuredField) : Prop where
  each : List.Forall₂ FieldText segments fields
  keys_nodup : (fields.map Prod.fst).Nodup

theorem FieldTexts.head_ne_status {rest : List Bytes} :
    ¬ FieldTexts (ascii "OK" :: rest) fields := by
  rintro ⟨heach, _⟩
  cases heach with
  | cons htext => exact htext.ne_status rfl

/-- A payload and what it stands for. -/
structure PayloadText (payload : Bytes) (parsed : StructuredPayload) : Prop where
  fields_ne_nil : parsed.fields ≠ []
  grammar : ∃ segments, FieldTexts segments parsed.fields ∧
    ((parsed.status = none ∧ payload = [bar].intercalate segments) ∨
      (parsed.status = some (ascii "OK") ∧ payload = [bar].intercalate (ascii "OK" :: segments)))

theorem parseSegments_eq_ok_iff {parsed : StructuredPayload} (result : StructuredPayload)
    (hnodup : (parsed.fields.map Prod.fst).Nodup) (segments : List Bytes) :
    parseSegments false parsed segments = .ok result ↔
      ∃ fields, List.Forall₂ FieldText segments fields ∧
        ((parsed.fields ++ fields).map Prod.fst).Nodup ∧
        result = { parsed with fields := parsed.fields ++ fields } := by
  induction segments generalizing parsed with
  | nil =>
    rw [parseSegments]
    constructor
    · intro hresult
      cases hresult
      exact ⟨[], .nil, by simpa using hnodup, by simp⟩
    · rintro ⟨fields, hfields, _, rfl⟩
      cases hfields
      simp
  | cons segment rest ih =>
    have hgrown {field : StructuredField} (hnew : field.1 ∉ parsed.fields.map Prod.fst) :
        ((parsed.fields ++ [field]).map Prod.fst).Nodup := by
      rw [map_append, nodup_append]
      refine ⟨hnodup, nodup_singleton _, ?_⟩
      intro _ hold _ hfield hsame
      rw [hsame, mem_singleton.mp hfield] at hold
      exact hnew hold
    rw [parseSegments]
    simp only [Bool.false_and, Bool.false_eq_true, if_false]
    constructor
    · intro hparse
      split at hparse
      · cases hparse
      · cases hfield : parsed.parseField segment with
        | error =>
          rw [hfield] at hparse
          cases hparse
        | ok =>
          obtain ⟨field, htext, hnew, rfl⟩ := (parseField_eq_ok_iff _ _ _).mp hfield
          rw [hfield] at hparse
          split at hparse
          · cases hparse
          · obtain ⟨fields, hfields, hkeys, rfl⟩ := (ih (hgrown hnew)).mp hparse
            rw [append_assoc, singleton_append] at hkeys
            exact ⟨field :: fields, .cons htext hfields, hkeys, by simp⟩
    · rintro ⟨fields, hfields, hkeys, rfl⟩
      cases hfields with
      | @cons _ field _ fields htext hrest =>
        have hnew : field.1 ∉ parsed.fields.map Prod.fst := by
          intro hold
          rw [map_append, nodup_append] at hkeys
          exact hkeys.2.2 _ hold field.1 (by simp) rfl
        have hfield := (parseField_eq_ok_iff parsed _ segment).mpr ⟨field, htext, hnew, rfl⟩
        have htrailing : ¬ rest = [[]] := by
          rintro rfl
          cases hrest with
          | cons hempty => exact hempty.ne_nil rfl
        rw [if_neg (by simpa using htext.ne_nil), hfield]
        simp only [bind, Except.bind]
        have hassoc : parsed.fields ++ field :: fields =
            parsed.fields ++ [field] ++ fields := by simp
        rw [hassoc] at hkeys
        rw [if_neg htrailing]
        exact (ih (hgrown hnew)).mpr ⟨fields, hrest, hkeys, by rw [hassoc]⟩

theorem parseSegments_field {segment : Bytes} (hstatus : segment ≠ ascii "OK") (rest : List Bytes) :
    parseSegments true {} (segment :: rest) = parseSegments false {} (segment :: rest) := by
  have hbeq : (segment == ascii "OK") = false := beq_eq_false_iff_ne.mpr hstatus
  rw [parseSegments, parseSegments, hbeq]
  rfl

theorem parseSegments_status (rest : List Bytes) :
    parseSegments true {} (ascii "OK" :: rest) =
      if rest = [[]] then .error ⟨"structured payload has a trailing separator"⟩
      else parseSegments false { status := some (ascii "OK") } rest := by
  have hnonempty : (ascii "OK").isEmpty = false := by decide
  rfl

/-- The first segment may be the status. -/
theorem parseSegments_true_eq_ok_iff (result : StructuredPayload) (segments : List Bytes) :
    parseSegments true {} segments = .ok result ↔
      (∃ fields, FieldTexts segments fields ∧ result = ⟨none, fields⟩) ∨
        ∃ rest fields, segments = ascii "OK" :: rest ∧ FieldTexts rest fields ∧
          result = ⟨some (ascii "OK"), fields⟩ := by
  have hfields (status : Option Bytes) (segments : List Bytes) :
      parseSegments false ⟨status, []⟩ segments = .ok result ↔
        ∃ fields, FieldTexts segments fields ∧ result = ⟨status, fields⟩ := by
    have hempty : ((⟨status, []⟩ : StructuredPayload).fields.map Prod.fst).Nodup :=
      nodup_nil
    rw [parseSegments_eq_ok_iff result hempty segments]
    constructor
    · rintro ⟨fields, heach, hnodup, rfl⟩
      exact ⟨fields, ⟨heach, hnodup⟩, rfl⟩
    · rintro ⟨fields, ⟨heach, hnodup⟩, rfl⟩
      exact ⟨fields, heach, hnodup, rfl⟩
  match segments with
  | [] =>
    rw [← hfields]
    constructor
    · exact .inl
    · rintro (hplain | ⟨rest, fields, hsame, _⟩)
      · exact hplain
      · cases hsame
  | segment :: rest =>
    by_cases hstatus : segment = ascii "OK"
    · subst hstatus
      rw [parseSegments_status]
      constructor
      · intro hparse
        right
        split at hparse
        · cases hparse
        · obtain ⟨fields, htexts, hresult⟩ := (hfields _ _).mp hparse
          exact ⟨rest, fields, rfl, htexts, hresult⟩
      · rintro (⟨fields, htexts, _⟩ | ⟨others, fields, hsame, htexts, hresult⟩)
        · exact absurd htexts FieldTexts.head_ne_status
        · cases hsame
          have htrailing : ¬ rest = [[]] := by
            rintro rfl
            cases htexts.each with
            | cons hempty => exact hempty.ne_nil rfl
          rw [if_neg htrailing]
          exact (hfields _ _).mpr ⟨fields, htexts, hresult⟩
    · rw [parseSegments_field hstatus, hfields]
      constructor
      · exact .inl
      · rintro (hplain | ⟨_, _, hsame, _⟩)
        · exact hplain
        · cases hsame
          exact absurd rfl hstatus

theorem FieldTexts.length_eq
    (htexts : FieldTexts segments fields) : segments.length = fields.length :=
  htexts.each.length_eq

theorem FieldTexts.segments_ne_nil
    (htexts : FieldTexts segments fields) (hfields : fields ≠ []) : segments ≠ [] := by
  rintro rfl
  exact hfields (length_eq_zero_iff.mp htexts.length_eq.symm)

theorem FieldTexts.splitOn_eq (htexts : FieldTexts segments fields) :
    (segments ≠ [] → ([bar].intercalate segments).splitOn bar = segments) ∧
      ([bar].intercalate (ascii "OK" :: segments)).splitOn bar = ascii "OK" :: segments := by
  have hbar : ∀ segment ∈ segments, bar ∉ segment := by
    intro segment hsegment
    obtain ⟨index, hindex, rfl⟩ := mem_iff_getElem.mp hsegment
    have hfield : index < fields.length := htexts.length_eq ▸ hindex
    exact (List.Forall₂.get htexts.each hindex hfield).bar_notMem
  constructor
  · exact splitOn_intercalate bar hbar
  · apply splitOn_intercalate
    · intro segment hsegment
      rcases mem_cons.mp hsegment with rfl | hrest
      · decide
      · exact hbar segment hrest
    · simp

theorem parse_eq_ok_iff (payload : Bytes) (parsed : StructuredPayload) :
    parse payload = .ok parsed ↔ PayloadText payload parsed := by
  have hjoin : [bar].intercalate (payload.splitOn bar) = payload := List.intercalate_splitOn bar
  unfold parse
  constructor
  · intro hparse
    split at hparse
    · cases hparse
    cases hsegments : parseSegments true {} (payload.splitOn bar) with
    | error =>
      rw [hsegments] at hparse
      cases hparse
    | ok =>
      rw [hsegments] at hparse
      simp only [bind, Except.bind, pure, Except.pure] at hparse
      split at hparse
      · cases hparse
      · next hfields =>
        cases hparse
        have hne : parsed.fields ≠ [] := by simpa using hfields
        rcases (parseSegments_true_eq_ok_iff parsed _).mp hsegments with
          ⟨fields, htexts, rfl⟩ | ⟨rest, fields, hsplit, htexts, rfl⟩
        · exact ⟨hne, _, htexts, .inl ⟨rfl, hjoin.symm⟩⟩
        · rw [hsplit] at hjoin
          exact ⟨hne, rest, htexts, .inr ⟨rfl, hjoin.symm⟩⟩
  · rintro ⟨hne, segments, htexts, hgrammar⟩
    have hsegments := htexts.segments_ne_nil hne
    have hparsed : parseSegments true {} (payload.splitOn bar) = .ok parsed := by
      rw [parseSegments_true_eq_ok_iff]
      obtain ⟨_, fields⟩ := parsed
      rcases hgrammar with ⟨_, rfl⟩ | ⟨_, rfl⟩
      · left
        refine ⟨fields, ?_, by simp_all⟩
        rw [htexts.splitOn_eq.1 hsegments]
        exact htexts
      · right
        exact ⟨segments, fields, htexts.splitOn_eq.2, htexts, by simp_all⟩
    have hnonempty : ¬ payload.isEmpty = true := by
      intro hempty
      rw [List.isEmpty_iff] at hempty
      subst hempty
      cases hparsed
    rw [if_neg hnonempty, hparsed]
    simp only [bind, Except.bind, pure, Except.pure]
    rw [if_neg (by simpa using hne)]

end SessionServer.Protocol
