import SessionServer.ProtocolText
import Mathlib.Data.Finmap

/-!
# Users and the user repository

A user id is 16 bytes, written as a UUID.  The repository in memory hands out
ids in the order in which names are first seen.
-/

namespace SessionServer

open Protocol List

structure UserId where
  bytes : Bytes := replicate 16 0
  size_eq : bytes.length = 16 := by rfl
  deriving DecidableEq

def UserId.zero : UserId := {}

def isDashPosition (position : ℕ) : Bool :=
  position == 8 || position == 13 || position == 18 || position == 23

def hexDigit (nibble : UInt8) : UInt8 :=
  if nibble < 10 then 0x30 + nibble else 0x61 + (nibble - 10)

def UserId.pushByte (text : Bytes) (byte : UInt8) : Bytes :=
  (if isDashPosition text.length then text ++ [0x2d] else text) ++
    [hexDigit (byte >>> 4), hexDigit (byte &&& 0x0f)]

def UserId.toText (id : UserId) : Bytes :=
  id.bytes.foldl UserId.pushByte []

/-- How a byte moves the length of the text: two digits, and a dash before
some of them. -/
def UserId.nextLength (length : ℕ) : ℕ :=
  length + if isDashPosition length then 3 else 2

theorem UserId.pushByte_length (text : Bytes) (byte : UInt8) :
    (UserId.pushByte text byte).length = UserId.nextLength text.length := by
  unfold UserId.pushByte UserId.nextLength
  split <;> simp

theorem UserId.toText_length (id : UserId) : id.toText.length = 36 := by
  have hfold : ∀ (bytes text : Bytes), (bytes.foldl UserId.pushByte text).length =
      bytes.foldl (fun length _ => UserId.nextLength length) text.length := by
    intro bytes
    induction bytes with
    | nil => exact fun _ => rfl
    | cons _ _ ih =>
      intro _
      rw [foldl_cons, ih, UserId.pushByte_length, foldl_cons]
  rw [UserId.toText, hfold, foldl_const, id.size_eq]
  rfl

/-- The characters of a user id: lower-case hexadecimal digits and dashes. -/
def isIdCharacter (character : UInt8) : Bool :=
  isDigit character || (0x61 ≤ character && character ≤ 0x66) || character == 0x2d

theorem isPrintable_of_isIdCharacter {character : UInt8}
    (hid : isIdCharacter character = true) : isPrintable character = true := by
  simp only [isIdCharacter, isDigit, isPrintable, Bool.or_eq_true, Bool.and_eq_true,
    decide_eq_true_eq, beq_iff_eq, ← UInt8.toNat_inj, UInt8.le_iff_toNat_le,
    UInt8.reduceToNat] at hid ⊢
  omega

theorem hexDigit_isIdCharacter {nibble : UInt8} (hnibble : nibble < 16) :
    isIdCharacter (hexDigit nibble) = true := by
  have hlt : nibble.toNat < 16 := by simpa [UInt8.lt_iff_toNat_lt] using hnibble
  have heq : nibble = UInt8.ofNat nibble.toNat := by simp
  rw [heq]
  interval_cases nibble.toNat <;> rfl

theorem shiftRight_four_lt (byte : UInt8) : byte >>> 4 < 16 := by
  rw [UInt8.lt_iff_toNat_lt]
  have hlt := byte.toNat_lt
  simp [Nat.shiftRight_eq_div_pow]
  omega

theorem and_ff_lt (byte : UInt8) : byte &&& 0x0f < 16 := by
  exact Nat.lt_of_le_of_lt Nat.and_le_right (by decide)

theorem UserId.pushByte_isIdCharacter {text : Bytes} {byte : UInt8}
    (htext : ∀ character ∈ text, isIdCharacter character = true) :
    ∀ character ∈ UserId.pushByte text byte, isIdCharacter character = true := by
  intro character hcharacter
  rcases mem_append.mp hcharacter with hold | hnew
  · split at hold
    · rcases mem_append.mp hold with hin | hdash
      · exact htext character hin
      · rw [mem_singleton.mp hdash]
        rfl
    · exact htext character hold
  · simp only [mem_cons, not_mem_nil, or_false] at hnew
    rcases hnew with rfl | rfl
    · exact hexDigit_isIdCharacter (shiftRight_four_lt byte)
    · exact hexDigit_isIdCharacter (and_ff_lt byte)

theorem UserId.toText_isIdCharacter (id : UserId) :
    ∀ character ∈ id.toText, isIdCharacter character = true := by
  have hfold : ∀ (bytes text : Bytes),
      (∀ character ∈ text, isIdCharacter character = true) →
      ∀ character ∈ bytes.foldl UserId.pushByte text, isIdCharacter character = true := by
    intro bytes
    induction bytes with
    | nil => exact fun _ htext => htext
    | cons _ _ ih => exact fun text htext => ih _ (UserId.pushByte_isIdCharacter htext)
  exact hfold id.bytes [] (by simp)

theorem UserId.toText_printable (id : UserId) :
    ∀ character ∈ id.toText, isPrintable character = true := by
  intro character hcharacter
  exact isPrintable_of_isIdCharacter (id.toText_isIdCharacter character hcharacter)

/-! ## Records -/

structure User where
  id : UserId := .zero
  sessionId : SessionId := 0
  name : Bytes := []
  deriving DecidableEq

structure UserRecord where
  userId : UserId
  normalizedName : Bytes
  displayName : Bytes
  deriving DecidableEq

structure FindOrCreateUser where
  normalizedName : Bytes
  displayName : Bytes
  deriving DecidableEq

inductive PersistenceErrorKind
  | busy
  | unavailable
  | timeout
  | constraint
  | invalidData
  | stopping
  deriving DecidableEq, Repr

structure UserResult where
  user : Option UserRecord := none
  error : Option PersistenceErrorKind := none
  deriving DecidableEq

/-! ## The repository in memory -/

structure InMemoryUserRepository where
  usersByNormalizedName : Finmap fun _ : Bytes => UserRecord := ∅
  nextId : UInt64 := 1

/-- The number in the last eight bytes, the most significant one first. -/
def userIdOf (value : UInt64) : UserId where
  bytes := replicate 8 (0 : UInt8) ++
    ([56, 48, 40, 32, 24, 16, 8, 0] : List UInt64).map fun shift =>
      ((value >>> shift) &&& 0xff).toUInt8
  size_eq := rfl

def InMemoryUserRepository.nextUserId (repository : InMemoryUserRepository) :
    UserId × InMemoryUserRepository :=
  (userIdOf repository.nextId, { repository with nextId := repository.nextId + 1 })

/-- The section of `findOrCreateByNormalizedName` under the repository's mutex;
the callback gets the user. -/
def InMemoryUserRepository.findOrCreate (repository : InMemoryUserRepository)
    (request : FindOrCreateUser) : UserRecord × InMemoryUserRepository :=
  match repository.usersByNormalizedName.lookup request.normalizedName with
  | some existing => (existing, repository)
  | none =>
    let (userId, repository) := repository.nextUserId
    let user : UserRecord := ⟨userId, request.normalizedName, request.displayName⟩
    (user, { repository with
      usersByNormalizedName :=
        repository.usersByNormalizedName.insert user.normalizedName user })

end SessionServer
