import SessionServer.ProtocolText

/-!
# Valid text is UTF-8 without control characters

The loop of `isValidText` reads the text by index.  Its reads stay within the
text, and it accepts exactly the concatenations of the encodings of Unicode
scalar values without the ASCII control characters.
-/

namespace SessionServer.Protocol

open UInt8 List Option

/-! ## The loop -/

namespace TextValidation

/-- `none` is a read past the end of the text. -/
def hasContinuationBytes (text : Bytes) (index count : ℕ) : Option Bool :=
  if text.length - index ≤ count then some false
  else
    (range' 1 count).allM fun offset =>
      text[index + offset]?.map isContinuation

def isValidTextLoop (text : Bytes) (index : ℕ) : Option Bool :=
  if index < text.length then do
    let lead ← text[index]?
    if lead ≤ 0x7f then
      if lead ≤ 0x1f || lead == 0x7f then some false
      else isValidTextLoop text (index + 1)
    else if 0xc2 ≤ lead && lead ≤ 0xdf then
      if !(← hasContinuationBytes text index 1) then some false
      else isValidTextLoop text (index + 2)
    else if 0xe0 ≤ lead && lead ≤ 0xef then
      if !(← hasContinuationBytes text index 2) then some false
      else
        let second ← text[index + 1]?
        if (lead == 0xe0 && second < 0xa0) || (lead == 0xed && second > 0x9f) then some false
        else isValidTextLoop text (index + 3)
    else if 0xf0 ≤ lead && lead ≤ 0xf4 then
      if !(← hasContinuationBytes text index 3) then some false
      else
        let second ← text[index + 1]?
        if (lead == 0xf0 && second < 0x90) || (lead == 0xf4 && second > 0x8f) then some false
        else isValidTextLoop text (index + 4)
    else some false
  else some true
termination_by text.length - index

def isValidText (text : Bytes) : Option Bool :=
  isValidTextLoop text 0

/-- A block of bytes within the text is read without going past its end. -/
theorem allM_isContinuation (text : Bytes) (first count : ℕ)
    (hwithin : first + count ≤ text.length) (index start : ℕ) (hfirst : index + start = first) :
    ((range' start count).allM fun offset =>
        text[index + offset]?.map isContinuation) =
      some (((text.drop first).take count).all isContinuation) := by
  induction count generalizing first start with
  | zero => rfl
  | succ _ ih =>
    have hread : first < text.length := by omega
    have hrest := ih (first + 1) (by omega) (start + 1) (by omega)
    rw [range'_succ, allM, hfirst, getElem?_eq_getElem hread,
      drop_eq_getElem_cons hread, take_succ_cons, all_cons]
    simp only [map_some, bind_eq_bind, bind_some]
    cases isContinuation text[first] with
    | false => rfl
    | true => exact hrest

theorem hasContinuationBytes_eq {text : Bytes} {index : ℕ} (hindex : index < text.length)
    (count : ℕ) :
    hasContinuationBytes text index count =
      some (decide (count ≤ (text.drop (index + 1)).length) &&
        ((text.drop (index + 1)).take count).all isContinuation) := by
  unfold hasContinuationBytes
  rw [length_drop]
  by_cases hshort : text.length - index ≤ count
  · rw [if_pos hshort, decide_eq_false (by omega), Bool.false_and]
  · rw [if_neg hshort, decide_eq_true (by omega), Bool.true_and]
    exact allM_isContinuation text (index + 1) count (by omega) index 1 rfl

theorem isValidTextLoop_eq (text : Bytes) (index : ℕ) :
    isValidTextLoop text index = some (Protocol.isValidText (text.drop index)) := by
  induction hleft : text.length - index using Nat.strong_induction_on generalizing index with
  | h _ ih =>
    rw [isValidTextLoop]
    by_cases hindex : index < text.length
    · have hnext (count : ℕ) : isValidTextLoop text (index + (count + 1)) =
          some (Protocol.isValidText ((text.drop (index + 1)).drop count)) := by
        rw [ih _ (by omega) (index + (count + 1)) rfl, drop_drop, Nat.add_assoc,
          Nat.add_comm 1 count]
      have hsecond : text[index + 1]? = (text.drop (index + 1))[0]? := by
        rw [getElem?_drop]
      rw [if_pos hindex, getElem?_eq_getElem hindex, drop_eq_getElem_cons hindex, hsecond]
      simp only [bind_eq_bind, bind_some, hasContinuationBytes_eq hindex]
      unfold Protocol.isValidText
      have hone := hnext 0
      have htwo := hnext 1
      have hthree := hnext 2
      have hfour := hnext 3
      simp only [hone, htwo, hthree, hfour]
      generalize text.drop (index + 1) = rest
      split
      · split
        · rfl
        · rfl
      split
      · rcases rest with _ | ⟨second, rest⟩
        · rfl
        · simp only [length_cons, take_succ_cons, take_zero, all_cons,
            all_nil, Bool.and_true, drop_succ_cons, drop_zero]
          cases isContinuation second with
          | false | true => rfl
      split
      · rcases rest with _ | ⟨second, _ | ⟨third, rest⟩⟩
        · rfl
        · rfl
        · simp only [length_cons, take_succ_cons, take_zero, all_cons,
            all_nil, Bool.and_true, getElem?_cons_zero, bind_some,
            drop_succ_cons, drop_zero]
          rw [decide_eq_true (by omega), Bool.true_and]
          split
          · rfl
          split
          · rfl
          · rfl
      split
      · rcases rest with _ | ⟨_, _ | ⟨_, _ | ⟨_, _⟩⟩⟩
        · rfl
        · rfl
        · rfl
        · simp only [length_cons, take_succ_cons, take_zero, all_cons,
            all_nil, Bool.and_true, getElem?_cons_zero, bind_some,
            drop_succ_cons, drop_zero]
          rw [decide_eq_true (by omega), Bool.true_and, ← Bool.and_assoc]
          split
          · rfl
          split
          · rfl
          · rfl
      · rfl
    · rw [if_neg hindex, drop_eq_nil_of_le (not_lt.mp hindex)]
      rfl

end TextValidation

/-! ## The characters of a text -/

/-- The bytes of one character: the lead byte tells how many follow, and the
second byte is limited so that no form is overlong, a surrogate or too large. -/
inductive CharacterBytes : Bytes → Prop
  | one {lead : UInt8} (hcontrol : 0x1f < lead.toNat) (hdelete : lead.toNat < 0x7f) :
      CharacterBytes [lead]
  | two {lead second : UInt8} (hlead : 0xc2 ≤ lead.toNat ∧ lead.toNat ≤ 0xdf)
      (hsecond : isContinuation second = true) : CharacterBytes [lead, second]
  | three {lead second third : UInt8} (hlead : 0xe0 ≤ lead.toNat ∧ lead.toNat ≤ 0xef)
      (hsecond : isContinuation second = true) (hthird : isContinuation third = true)
      (hoverlong : ¬ (lead.toNat = 0xe0 ∧ second.toNat < 0xa0))
      (hsurrogate : ¬ (lead.toNat = 0xed ∧ 0x9f < second.toNat)) :
      CharacterBytes [lead, second, third]
  | four {lead second third fourth : UInt8} (hlead : 0xf0 ≤ lead.toNat ∧ lead.toNat ≤ 0xf4)
      (hsecond : isContinuation second = true) (hthird : isContinuation third = true)
      (hfourth : isContinuation fourth = true)
      (hoverlong : ¬ (lead.toNat = 0xf0 ∧ second.toNat < 0x90))
      (hlarge : ¬ (lead.toNat = 0xf4 ∧ 0x8f < second.toNat)) :
      CharacterBytes [lead, second, third, fourth]

theorem exists_character {lead : UInt8} {rest : Bytes}
    (hvalid : isValidText (lead :: rest) = true) :
    ∃ character text, CharacterBytes character ∧ lead :: rest = character ++ text ∧
      isValidText text = true := by
  unfold isValidText at hvalid
  simp only [UInt8.le_iff_toNat_le, UInt8.reduceToNat] at hvalid
  split at hvalid
  · next _ =>
    split at hvalid
    · cases hvalid
    · next hcontrol =>
      simp only [Bool.or_eq_true, decide_eq_true_eq, beq_iff_eq, not_or] at hcontrol
      have hdelete : lead.toNat ≠ 0x7f := fun hsame =>
        hcontrol.2 (UInt8.toNat_inj.mp hsame)
      exact ⟨[lead], rest, .one (by omega) (by omega), rfl, hvalid⟩
  split at hvalid
  · next hlead =>
    simp only [Bool.and_eq_true, decide_eq_true_eq] at hlead
    rcases rest with _ | ⟨second, text⟩
    · cases hvalid
    · rw [Bool.and_eq_true] at hvalid
      exact ⟨[lead, second], text, .two hlead hvalid.1, rfl, hvalid.2⟩
  split at hvalid
  · next hlead =>
    simp only [Bool.and_eq_true, decide_eq_true_eq] at hlead
    rcases rest with _ | ⟨second, _ | ⟨third, text⟩⟩
    · cases hvalid
    · cases hvalid
    · simp only at hvalid
      split at hvalid
      · cases hvalid
      · next hbytes =>
        split at hvalid
        · cases hvalid
        · next hrange =>
          simp only [Bool.not_eq_true, Bool.not_eq_false', Bool.and_eq_true] at hbytes
          simp only [Bool.or_eq_true, Bool.and_eq_true, beq_iff_eq, decide_eq_true_eq,
            not_or, gt_iff_lt, UInt8.lt_iff_toNat_lt, ← UInt8.toNat_inj,
            UInt8.reduceToNat] at hrange
          exact ⟨[lead, second, third], text,
            .three hlead hbytes.1 hbytes.2 hrange.1 hrange.2, rfl, hvalid⟩
  split at hvalid
  · next hlead =>
    simp only [Bool.and_eq_true, decide_eq_true_eq] at hlead
    rcases rest with _ | ⟨second, _ | ⟨third, _ | ⟨fourth, text⟩⟩⟩
    · cases hvalid
    · cases hvalid
    · cases hvalid
    · simp only at hvalid
      split at hvalid
      · cases hvalid
      · next hbytes =>
        split at hvalid
        · cases hvalid
        · next hrange =>
          simp only [Bool.not_eq_true, Bool.not_eq_false', Bool.and_eq_true] at hbytes
          simp only [Bool.or_eq_true, Bool.and_eq_true, beq_iff_eq, decide_eq_true_eq,
            not_or, gt_iff_lt, UInt8.lt_iff_toNat_lt, ← UInt8.toNat_inj,
            UInt8.reduceToNat] at hrange
          exact ⟨[lead, second, third, fourth], text,
            .four hlead hbytes.1.1 hbytes.1.2 hbytes.2 hrange.1 hrange.2, rfl, hvalid⟩
  · cases hvalid

theorem isValidText_append {character : Bytes} (hcharacter : CharacterBytes character)
    (text : Bytes) : isValidText (character ++ text) = isValidText text := by
  cases hcharacter with
  | @one lead hcontrol hdelete =>
    rw [singleton_append]
    conv_lhs => unfold isValidText
    rw [if_pos, if_neg]
    · simp only [Bool.or_eq_true, decide_eq_true_eq, beq_iff_eq, UInt8.le_iff_toNat_le,
        ← UInt8.toNat_inj, UInt8.reduceToNat]
      omega
    · simp only [UInt8.le_iff_toNat_le, UInt8.reduceToNat]
      omega
  | @two lead second hlead hsecond =>
    have hascii : ¬ lead ≤ 0x7f := by
      simp only [UInt8.le_iff_toNat_le, UInt8.reduceToNat]
      omega
    have htwo : (0xc2 ≤ lead && lead ≤ 0xdf) = true := by
      simpa [UInt8.le_iff_toNat_le] using hlead
    simp only [cons_append, nil_append]
    rw [isValidText, if_neg hascii, if_pos htwo, hsecond, Bool.true_and]
  | @three lead second third hlead hsecond hthird hoverlong hsurrogate =>
    have hascii : ¬ lead ≤ 0x7f := by
      simp only [UInt8.le_iff_toNat_le, UInt8.reduceToNat]
      omega
    have htwo : ¬ (0xc2 ≤ lead && lead ≤ 0xdf) = true := by
      simp only [Bool.and_eq_true, decide_eq_true_eq, UInt8.le_iff_toNat_le, UInt8.reduceToNat]
      omega
    have hthree : (0xe0 ≤ lead && lead ≤ 0xef) = true := by
      simpa [UInt8.le_iff_toNat_le] using hlead
    have hrange : ¬ ((lead == 0xe0 && second < 0xa0) || (lead == 0xed && second > 0x9f)) =
        true := by
      simp only [Bool.or_eq_true, Bool.and_eq_true, beq_iff_eq, decide_eq_true_eq,
        not_or, gt_iff_lt, UInt8.lt_iff_toNat_lt, ← UInt8.toNat_inj, UInt8.reduceToNat]
      exact ⟨hoverlong, hsurrogate⟩
    simp only [cons_append, nil_append]
    rw [isValidText, if_neg hascii, if_neg htwo, if_pos hthree]
    simp only [hsecond, hthird, Bool.and_self, Bool.not_true, Bool.false_eq_true, if_false]
    rw [if_neg hrange]
  | @four lead second third fourth hlead hsecond hthird hfourth hoverlong hlarge =>
    have hascii : ¬ lead ≤ 0x7f := by
      simp only [UInt8.le_iff_toNat_le, UInt8.reduceToNat]
      omega
    have htwo : ¬ (0xc2 ≤ lead && lead ≤ 0xdf) = true := by
      simp only [Bool.and_eq_true, decide_eq_true_eq, UInt8.le_iff_toNat_le, UInt8.reduceToNat]
      omega
    have hthree : ¬ (0xe0 ≤ lead && lead ≤ 0xef) = true := by
      simp only [Bool.and_eq_true, decide_eq_true_eq, UInt8.le_iff_toNat_le, UInt8.reduceToNat]
      omega
    have hfour : (0xf0 ≤ lead && lead ≤ 0xf4) = true := by
      simpa [UInt8.le_iff_toNat_le] using hlead
    have hrange : ¬ ((lead == 0xf0 && second < 0x90) || (lead == 0xf4 && second > 0x8f)) =
        true := by
      simp only [Bool.or_eq_true, Bool.and_eq_true, beq_iff_eq, decide_eq_true_eq,
        not_or, gt_iff_lt, UInt8.lt_iff_toNat_lt, ← UInt8.toNat_inj, UInt8.reduceToNat]
      exact ⟨hoverlong, hlarge⟩
    simp only [cons_append, nil_append]
    rw [isValidText, if_neg hascii, if_neg htwo, if_neg hthree, if_pos hfour]
    simp only [hsecond, hthird, hfourth, Bool.and_self, Bool.not_true, Bool.false_eq_true, if_false]
    rw [if_neg hrange]

/-! ## Scalar values -/

/-- A scalar value that text may hold. -/
def IsTextScalar (scalar : Char) : Prop :=
  0x1f < scalar.toNat ∧ scalar.toNat ≠ 0x7f

/-- UTF-8 on numbers. -/
def utf8Encode (value : ℕ) : Bytes :=
  if value ≤ 127 then [ofNat value]
  else if value ≤ 2047 then
    [ofNat (value / 64 % 32 + 192), ofNat (value % 64 + 128)]
  else if value ≤ 65535 then
    [ofNat (value / 4096 % 16 + 224), ofNat (value / 64 % 64 + 128), ofNat (value % 64 + 128)]
  else
    [ofNat (value / 262144 % 8 + 240), ofNat (value / 4096 % 64 + 128),
      ofNat (value / 64 % 64 + 128), ofNat (value % 64 + 128)]

theorem utf8EncodeChar_eq (scalar : Char) :
    String.utf8EncodeChar scalar = utf8Encode scalar.toNat := rfl

theorem exists_scalar {value : ℕ} {bytes : Bytes} (hvalid : value.isValidChar)
    (hcontrol : 0x1f < value) (hdelete : value ≠ 0x7f) (hbytes : utf8Encode value = bytes) :
    ∃ scalar, IsTextScalar scalar ∧ String.utf8EncodeChar scalar = bytes :=
  ⟨Char.ofNatAux value hvalid, ⟨hcontrol, hdelete⟩, hbytes⟩

theorem isContinuation_iff {byte : UInt8} :
    isContinuation byte = true ↔ 128 ≤ byte.toNat ∧ byte.toNat ≤ 191 := by
  simp only [isContinuation, Bool.and_eq_true, decide_eq_true_eq, le_iff_toNat_le, reduceToNat]

theorem ofNat_eq_byte {byte : UInt8} {value : ℕ} (hvalue : value = byte.toNat) :
    UInt8.ofNat value = byte := by
  rw [hvalue, UInt8.ofNat_toNat]

/-- The number is put together from the bits of the bytes. -/
theorem CharacterBytes.exists_scalar {character : Bytes} (hcharacter : CharacterBytes character) :
    ∃ scalar, IsTextScalar scalar ∧ String.utf8EncodeChar scalar = character := by
  cases hcharacter with
  | @one lead hcontrol hdelete =>
    apply Protocol.exists_scalar (.inl (by omega)) hcontrol (by omega)
    rw [utf8Encode, if_pos (by omega), UInt8.ofNat_toNat]
  | @two lead second hlead hsecond =>
    rw [isContinuation_iff] at hsecond
    obtain ⟨value, hvalue⟩ : ∃ value,
        value = (lead.toNat - 192) * 64 + (second.toNat - 128) := ⟨_, rfl⟩
    have hfirst : UInt8.ofNat (value / 64 % 32 + 192) = lead := ofNat_eq_byte (by omega)
    have hlast : UInt8.ofNat (value % 64 + 128) = second := ofNat_eq_byte (by omega)
    apply Protocol.exists_scalar (.inl (by omega) : value.isValidChar) (by omega) (by omega)
    rw [utf8Encode, if_neg (by omega), if_pos (by omega), hfirst, hlast]
  | @three lead second third hlead hsecond hthird hoverlong hsurrogate =>
    rw [isContinuation_iff] at hsecond hthird
    obtain ⟨value, hvalue⟩ : ∃ value, value = (lead.toNat - 224) * 4096 +
        (second.toNat - 128) * 64 + (third.toNat - 128) := ⟨_, rfl⟩
    have hvalid : value.isValidChar := by
      omega
    have hfirst : UInt8.ofNat (value / 4096 % 16 + 224) = lead := ofNat_eq_byte (by omega)
    have hmiddle : UInt8.ofNat (value / 64 % 64 + 128) = second := ofNat_eq_byte (by omega)
    have hlast : UInt8.ofNat (value % 64 + 128) = third := ofNat_eq_byte (by omega)
    apply Protocol.exists_scalar hvalid (by omega) (by omega)
    rw [utf8Encode, if_neg (by omega), if_neg (by omega), if_pos (by omega), hfirst, hmiddle, hlast]
  | @four lead second third fourth hlead hsecond hthird hfourth hoverlong hlarge =>
    rw [isContinuation_iff] at hsecond hthird hfourth
    obtain ⟨value, hvalue⟩ : ∃ value, value = (lead.toNat - 240) * 262144 +
        (second.toNat - 128) * 4096 + (third.toNat - 128) * 64 + (fourth.toNat - 128) :=
      ⟨_, rfl⟩
    have hvalid : value.isValidChar := by
      omega
    have hfirst : UInt8.ofNat (value / 262144 % 8 + 240) = lead := ofNat_eq_byte (by omega)
    have hnext : UInt8.ofNat (value / 4096 % 64 + 128) = second := ofNat_eq_byte (by omega)
    have hmiddle : UInt8.ofNat (value / 64 % 64 + 128) = third := ofNat_eq_byte (by omega)
    have hlast : UInt8.ofNat (value % 64 + 128) = fourth := ofNat_eq_byte (by omega)
    apply Protocol.exists_scalar hvalid (by omega) (by omega)
    rw [utf8Encode, if_neg (by omega), if_neg (by omega), if_neg (by omega), hfirst, hnext,
      hmiddle, hlast]

theorem characterBytes_of_scalar {scalar : Char} (hscalar : IsTextScalar scalar) :
    CharacterBytes (String.utf8EncodeChar scalar) := by
  have hvalid : scalar.toNat.isValidChar := scalar.valid
  rw [utf8EncodeChar_eq]
  obtain ⟨hcontrol, _⟩ := hscalar
  generalize scalar.toNat = value at *
  have hbyte (number : ℕ) (hnumber : number < 256) : (ofNat number).toNat = number :=
    toNat_ofNat_of_lt' hnumber
  have hcontinuation (number : ℕ) : isContinuation (ofNat (number % 64 + 128)) = true := by
    rw [isContinuation_iff, hbyte _ (by omega)]
    omega
  unfold utf8Encode
  split
  · apply CharacterBytes.one
    · rw [hbyte _ (by omega)]
      exact hcontrol
    · rw [hbyte _ (by omega)]
      omega
  split
  · apply CharacterBytes.two _ (hcontinuation value)
    rw [hbyte _ (by omega)]
    omega
  split
  · apply CharacterBytes.three _ (hcontinuation _) (hcontinuation value)
    · rw [hbyte _ (by omega), hbyte _ (by omega)]
      omega
    · rw [hbyte _ (by omega), hbyte _ (by omega)]
      omega
    · rw [hbyte _ (by omega)]
      omega
  · apply CharacterBytes.four _ (hcontinuation _) (hcontinuation _) (hcontinuation value)
    · rw [hbyte _ (by omega), hbyte _ (by omega)]
      omega
    · rw [hbyte _ (by omega), hbyte _ (by omega)]
      omega
    · rw [hbyte _ (by omega)]
      omega

/-! ## Texts -/

/-- Valid text is characters, one after another. -/
theorem validText_induction {motive : Bytes → Prop} (nil : motive [])
    (append : ∀ character text, CharacterBytes character → isValidText text = true →
      motive text → motive (character ++ text))
    (text : Bytes) (hvalid : isValidText text = true) : motive text := by
  induction hlength : text.length using Nat.strong_induction_on generalizing text with
  | h length ih =>
    cases text with
    | nil => exact nil
    | cons =>
      obtain ⟨character, behind, hcharacter, hsplit, hbehind⟩ := exists_character hvalid
      have hpos : 0 < character.length := by
        cases hcharacter <;> simp
      have hshorter : behind.length < length := by
        rw [← hlength, hsplit, length_append]
        omega
      rw [hsplit]
      exact append _ _ hcharacter hbehind (ih _ hshorter behind hbehind rfl)

theorem exists_scalars_of_isValidText (text : Bytes) (hvalid : isValidText text = true) :
    ∃ scalars : List Char, (∀ scalar ∈ scalars, IsTextScalar scalar) ∧
      scalars.flatMap String.utf8EncodeChar = text := by
  refine validText_induction (motive := fun text => ∃ scalars : List Char,
    (∀ scalar ∈ scalars, IsTextScalar scalar) ∧ scalars.flatMap String.utf8EncodeChar = text)
    ⟨[], by simp, rfl⟩ ?_ text hvalid
  rintro _ _ hcharacter _ ⟨scalars, hscalars, rfl⟩
  obtain ⟨scalar, hscalar, hencode⟩ := hcharacter.exists_scalar
  exact ⟨scalar :: scalars, forall_mem_cons.mpr ⟨hscalar, hscalars⟩, by rw [flatMap_cons, hencode]⟩

theorem isValidText_scalars {scalars : List Char}
    (hscalars : ∀ scalar ∈ scalars, IsTextScalar scalar) :
    isValidText (scalars.flatMap String.utf8EncodeChar) = true := by
  induction scalars with
  | nil => rfl
  | cons scalar _ ih =>
    have hscalar := characterBytes_of_scalar (hscalars scalar mem_cons_self)
    rw [flatMap_cons, isValidText_append hscalar]
    exact ih fun other hother => hscalars other (mem_cons_of_mem _ hother)

/-- The loop never reads past the end of the text, and it accepts exactly the
encodings of scalar values that are no control characters. -/
theorem isValidText_iff_scalars (text : Bytes) :
    TextValidation.isValidText text ≠ none ∧
    (TextValidation.isValidText text = some true ↔
      ∃ scalars : List Char, (∀ scalar ∈ scalars, IsTextScalar scalar) ∧
        scalars.flatMap String.utf8EncodeChar = text) := by
  have hloop : TextValidation.isValidText text = some (isValidText text) :=
    TextValidation.isValidTextLoop_eq text 0
  rw [hloop]
  constructor
  · exact some_ne_none _
  · rw [Option.some.injEq]
    constructor
    · exact exists_scalars_of_isValidText text
    · rintro ⟨_, hscalars, rfl⟩
      exact isValidText_scalars hscalars

end SessionServer.Protocol
