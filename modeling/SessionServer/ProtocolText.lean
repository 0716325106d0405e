import SessionServer.SessionEvent
import Mathlib.Data.List.DropRight
import Mathlib.Data.Nat.Digits.Lemmas

/-!
# Text and numbers on the wire

Validation and trimming of text, and the decimal notation of the standard
library: `std::to_string` of an unsigned number and `std::from_chars`.
-/

namespace SessionServer.Protocol

open UInt8

variable {number : ℕ}

structure ProtocolError where
  message : String
  deriving DecidableEq, Repr

def maxUserNameBytes : ℕ := 32
def maxRoomNameBytes : ℕ := 32
def maxChatMessageBytes : ℕ := 1291

/-! ## Text -/

def isContinuation (byte : UInt8) : Bool :=
  0x80 ≤ byte && byte ≤ 0xbf

def isAsciiWhitespace (character : UInt8) : Bool :=
  character == 0x20 || character == 0x09 || character == 0x0a ||
    character == 0x0d || character == 0x0c || character == 0x0b

/-- UTF-8 without ASCII control characters.  A lead byte must be followed by
all of its continuation bytes; overlong forms, surrogates and values above
U+10FFFF are ruled out by the second byte. -/
def isValidText : Bytes → Bool
  | [] => true
  | lead :: rest =>
    if lead ≤ 0x7f then
      if lead ≤ 0x1f || lead == 0x7f then false else isValidText rest
    else if 0xc2 ≤ lead && lead ≤ 0xdf then
      match rest with
      | second :: rest => isContinuation second && isValidText rest
      | _ => false
    else if 0xe0 ≤ lead && lead ≤ 0xef then
      match rest with
      | second :: third :: rest =>
        if !(isContinuation second && isContinuation third) then false
        else if (lead == 0xe0 && second < 0xa0) ||
            (lead == 0xed && second > 0x9f) then false
        else isValidText rest
      | _ => false
    else if 0xf0 ≤ lead && lead ≤ 0xf4 then
      match rest with
      | second :: third :: fourth :: rest =>
        if !(isContinuation second && isContinuation third &&
            isContinuation fourth) then false
        else if (lead == 0xf0 && second < 0x90) ||
            (lead == 0xf4 && second > 0x8f) then false
        else isValidText rest
      | _ => false
    else false

def trimAsciiWhitespace (text : Bytes) : Bytes :=
  (text.dropWhile isAsciiWhitespace).rdropWhile isAsciiWhitespace

/-- The names that the checks let through. -/
structure IsName (maximum : ℕ) (text : Bytes) : Prop where
  pos : 1 ≤ text.length
  le : text.length ≤ maximum
  valid : isValidText text = true

theorem refused_iff (maximum : ℕ) (text : Bytes) :
    (text.isEmpty || decide (text.length > maximum) || !isValidText text) = true ↔
      ¬ IsName maximum text := by
  rw [Bool.or_eq_true, Bool.or_eq_true, List.isEmpty_iff, decide_eq_true_eq, Bool.not_eq_true',
    ← List.length_eq_zero_iff]
  constructor
  · rintro ((_ | _) | hinvalid) ⟨_, _, hvalid⟩
    · omega
    · omega
    · simp [hvalid] at hinvalid
  · intro hnot
    by_contra hother
    rw [not_or, not_or, Bool.not_eq_false] at hother
    exact hnot ⟨by omega, by omega, hother.2⟩

/-- Printable ASCII characters, the space among them. -/
def isPrintable (byte : UInt8) : Bool :=
  0x20 ≤ byte && byte ≤ 0x7e

theorem isValidText_of_printable {text : Bytes}
    (hprintable : ∀ byte ∈ text, isPrintable byte = true) :
    isValidText text = true := by
  induction text with
  | nil => rfl
  | cons lead _ ih =>
    have hlead := hprintable lead (by simp)
    have hrest := ih fun byte hbyte => hprintable byte (List.mem_cons_of_mem _ hbyte)
    simp only [isPrintable, Bool.and_eq_true, decide_eq_true_eq,
      le_iff_toNat_le, reduceToNat] at hlead
    have hascii : lead ≤ 0x7f := by
      simp only [le_iff_toNat_le, reduceToNat]
      omega
    have hcontrol : (decide (lead ≤ 0x1f) || lead == 0x7f) = false := by
      have hlow : ¬ lead ≤ 0x1f := by
        simp only [le_iff_toNat_le, reduceToNat]
        omega
      have hdelete : lead ≠ 0x7f := by
        rintro rfl
        simp at hlead
      simp [hlow, hdelete]
    unfold isValidText
    rw [if_pos hascii, hcontrol]
    exact hrest

/-! ## Decimal numbers -/

def isDigit (character : UInt8) : Bool :=
  0x30 ≤ character && character ≤ 0x39

def digitValue (character : UInt8) : ℕ :=
  character.toNat - 0x30

/-- `std::to_string`. -/
def decimal (number : ℕ) : Bytes :=
  if number = 0 then [0x30]
  else (Nat.digits 10 number).reverse.map fun digit => ofNat (0x30 + digit)

/-- `std::from_chars` for an unsigned type with this maximum: the number the
longest run of digits denotes and the text behind it. -/
def fromChars (maximum : ℕ) (text : Bytes) : Option (ℕ × Bytes) :=
  let digits := text.takeWhile isDigit
  let value := digits.foldl (fun value digit => 10 * value + digitValue digit) 0
  if digits.isEmpty || maximum < value then none
  else some (value, text.dropWhile isDigit)

theorem decimal_digits : ∀ byte ∈ decimal number, isDigit byte = true := by
  intro _ hbyte
  unfold decimal at hbyte
  split at hbyte
  next =>
    rw [List.mem_singleton] at hbyte
    rw [hbyte]
    rfl
  next =>
    obtain ⟨digit, hdigit, rfl⟩ := List.mem_map.mp hbyte
    have hlt := Nat.digits_lt_base (by decide) (List.mem_reverse.mp hdigit)
    interval_cases digit <;> rfl

theorem isPrintable_of_isDigit {byte : UInt8} (hdigit : isDigit byte = true) :
    isPrintable byte = true := by
  simp only [isDigit, isPrintable, Bool.and_eq_true, decide_eq_true_eq,
    le_iff_toNat_le, reduceToNat] at hdigit ⊢
  omega

theorem decimal_printable : ∀ byte ∈ decimal number, isPrintable byte = true := by
  intro byte hbyte
  exact isPrintable_of_isDigit (decimal_digits byte hbyte)

theorem decimal_length_le {digits : ℕ} (hpos : 0 < digits)
    (hlt : number < 10 ^ digits) : (decimal number).length ≤ digits := by
  unfold decimal
  split
  next => simpa using Nat.succ_le_of_lt hpos
  next =>
    rw [List.length_map, List.length_reverse]
    exact (Nat.digits_length_le_iff (by decide) number).mpr hlt

end SessionServer.Protocol
