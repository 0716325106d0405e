import SessionServer.MessageRouterPayload
import SessionServer.TextValidation

/-!
# Names on both sides

Trimming and folding work on bytes, and valid text stays valid under both: the
bytes of a character that is not ASCII are neither whitespace nor letters.  So
the checks of the client, of the router and of the room service agree.
-/

namespace SessionServer.Protocol

open List

/-! ## Trimming -/

theorem CharacterBytes.ascii_or_high {character : Bytes} (hcharacter : CharacterBytes character) :
    (∃ lead, character = [lead]) ∨ ∀ byte ∈ character, 0x80 ≤ byte.toNat := by
  cases hcharacter with
  | one => exact .inl ⟨_, rfl⟩
  | two _ hsecond =>
    rw [isContinuation_iff] at hsecond
    rw [forall_mem_cons, forall_mem_singleton]
    omega
  | three _ hsecond hthird =>
    rw [isContinuation_iff] at hsecond hthird
    rw [forall_mem_cons, forall_mem_cons, forall_mem_singleton]
    omega
  | four _ hsecond hthird hfourth =>
    rw [isContinuation_iff] at hsecond hthird hfourth
    rw [forall_mem_cons, forall_mem_cons, forall_mem_cons, forall_mem_singleton]
    omega

section Whitespace

variable {character : UInt8} (hspace : isAsciiWhitespace character = true)

include hspace

/-- A character of the text with whitespace among its bytes is that alone. -/
theorem CharacterBytes.eq_of_whitespace {bytes : Bytes} (hbytes : CharacterBytes bytes)
    (hmem : character ∈ bytes) : bytes = [character] := by
  have hle : character.toNat ≤ 0x20 := by
    simp only [isAsciiWhitespace, Bool.or_eq_true, beq_iff_eq, ← UInt8.toNat_inj,
      UInt8.reduceToNat] at hspace
    omega
  rcases hbytes.ascii_or_high with ⟨_, rfl⟩ | hhigh
  · rw [mem_singleton.mp hmem]
  · have hge := hhigh character hmem
    omega

theorem isValidText_tail {text : Bytes} (hvalid : isValidText (character :: text) = true) :
    isValidText text = true := by
  obtain ⟨first, _, hfirst, hsplit, _⟩ := exists_character hvalid
  have hmem : character ∈ first := by
    cases first with
    | nil => cases hfirst
    | cons => simp [(List.cons.inj hsplit).1]
  rw [hfirst.eq_of_whitespace hspace hmem] at hsplit
  rwa [(List.cons.inj hsplit).2]

theorem isValidText_init {init : Bytes} (hvalid : isValidText (init ++ [character]) = true) :
    isValidText init = true := by
  have hall : ∀ text, isValidText text = true → ∀ init, text = init ++ [character] →
      isValidText init = true := by
    refine validText_induction (by simp) ?_
    intro _ rest hfirst _ ih init hsplit
    rcases eq_nil_or_concat' rest with rfl | ⟨behind, _, rfl⟩
    · rw [append_nil] at hsplit
      have hone := hfirst.eq_of_whitespace hspace (by simp [hsplit])
      rw [hone] at hsplit
      have hempty : init = [] := by
        simpa using congrArg length hsplit
      rw [hempty]
      rfl
    · rw [← append_assoc] at hsplit
      obtain ⟨rfl, hlast⟩ := append_inj' hsplit rfl
      rw [isValidText_append hfirst]
      exact ih behind (by rw [hlast])
  exact hall _ hvalid init rfl

end Whitespace

theorem isValidText_trim {text : Bytes} (hvalid : isValidText text = true) :
    isValidText (trimAsciiWhitespace text) = true := by
  have hleft : isValidText (text.dropWhile isAsciiWhitespace) = true := by
    induction text with
    | nil => rfl
    | cons character _ ih =>
      cases hspace : isAsciiWhitespace character with
      | true =>
        rw [dropWhile_cons_of_pos hspace]
        exact ih (isValidText_tail hspace hvalid)
      | false => rwa [dropWhile_cons_of_neg (by simp [hspace])]
  unfold trimAsciiWhitespace
  generalize text.dropWhile isAsciiWhitespace = text at hleft
  induction text using reverseRecOn with
  | nil => rfl
  | append_singleton _ character ih =>
    cases hspace : isAsciiWhitespace character with
    | true =>
      rw [rdropWhile_concat_pos _ _ _ hspace]
      exact ih (isValidText_init hspace hleft)
    | false => rwa [rdropWhile_concat_neg _ _ _ (by simp [hspace])]

/-- The six bytes that trimming removes. -/
def whitespaceBytes : List UInt8 :=
  [0x20, 0x09, 0x0a, 0x0d, 0x0c, 0x0b]

/-- The text is the input without the whitespace at its two ends. -/
structure IsTrimOf (input text : Bytes) : Prop where
  split : ∃ before after, input = before ++ text ++ after ∧
    ∀ byte ∈ before ++ after, byte ∈ whitespaceBytes
  first : ∀ byte, text.head? = some byte → byte ∉ whitespaceBytes
  last : ∀ byte, text.getLast? = some byte → byte ∉ whitespaceBytes

theorem isAsciiWhitespace_iff (byte : UInt8) :
    isAsciiWhitespace byte = true ↔ byte ∈ whitespaceBytes := by
  simp [isAsciiWhitespace, whitespaceBytes, or_assoc]

/-- Neither end of the text is whitespace. -/
def Trimmed (text : Bytes) : Prop :=
  text.dropWhile isAsciiWhitespace = text ∧ text.rdropWhile isAsciiWhitespace = text

theorem Trimmed.trim_eq {text : Bytes} (htrimmed : Trimmed text) :
    trimAsciiWhitespace text = text := by
  rw [trimAsciiWhitespace, htrimmed.1, htrimmed.2]

theorem trimmed_trim (text : Bytes) : Trimmed (trimAsciiWhitespace text) := by
  constructor
  · rw [dropWhile_eq_self_iff]
    intro hpos
    have hisPrefix := rdropWhile_prefix isAsciiWhitespace (text.dropWhile isAsciiWhitespace)
    have hhead := dropWhile_get_zero_not isAsciiWhitespace text (hpos.trans_le hisPrefix.length_le)
    rwa [get_eq_getElem, ← hisPrefix.getElem hpos] at hhead
  · exact rdropWhile_idempotent _ _

theorem isTrimOf_trim (input : Bytes) : IsTrimOf input (trimAsciiWhitespace input) := by
  obtain ⟨hfirst, hlast⟩ := trimmed_trim input
  constructor
  · refine ⟨input.takeWhile isAsciiWhitespace,
      (input.dropWhile isAsciiWhitespace).rtakeWhile isAsciiWhitespace, ?_, ?_⟩
    · rw [append_assoc, trimAsciiWhitespace, rdropWhile_append_rtakeWhile,
        takeWhile_append_dropWhile]
    · intro byte hbyte
      rw [← isAsciiWhitespace_iff]
      rcases mem_append.mp hbyte with hbefore | hafter
      · exact mem_takeWhile_imp hbefore
      · exact mem_rtakeWhile_imp hafter
  · intro byte hhead
    rw [← isAsciiWhitespace_iff]
    intro hspace
    obtain ⟨rest, hrest⟩ := head?_eq_some_iff.mp hhead
    rw [hrest, dropWhile_cons_of_pos hspace] at hfirst
    have hle := length_dropWhile_le isAsciiWhitespace rest
    simp [hfirst] at hle
  · intro byte hbyte
    rw [← isAsciiWhitespace_iff]
    intro hspace
    obtain ⟨rest, hrest⟩ := getLast?_eq_some_iff.mp hbyte
    rw [hrest, rdropWhile_concat_pos _ _ _ hspace] at hlast
    have hbegin := rdropWhile_prefix isAsciiWhitespace rest
    have hle := hbegin.length_le
    simp [hlast] at hle

theorem trim_trim (text : Bytes) :
    trimAsciiWhitespace (trimAsciiWhitespace text) = trimAsciiWhitespace text :=
  (trimmed_trim text).trim_eq

end SessionServer.Protocol

namespace SessionServer.MessageRouter

open Protocol

/-! ## Login names -/

def IsUpper (letter : UInt8) : Prop :=
  0x41 ≤ letter.toNat ∧ letter.toNat ≤ 0x5a

/-- The lower case of an upper case letter. -/
def Lowers (upper lower : UInt8) : Prop :=
  IsUpper upper ∧ lower.toNat = upper.toNat + 0x20

/-- The second byte is the first one with A-Z folded to a-z. -/
def FoldsTo (letter folded : UInt8) : Prop :=
  Lowers letter folded ∨ (¬ IsUpper letter ∧ folded = letter)

/-- The same byte, or the two cases of one letter. -/
def SameLetter (first second : UInt8) : Prop :=
  first = second ∨ Lowers first second ∨ Lowers second first

theorem toLower_cases (letter : UInt8) : FoldsTo letter (toLower letter) := by
  unfold FoldsTo Lowers IsUpper toLower
  simp only [Bool.and_eq_true, decide_eq_true_eq, UInt8.le_iff_toNat_le, UInt8.reduceToNat]
  split
  · next hupper =>
    rw [UInt8.toNat_add, UInt8.toNat_sub]
    simp only [UInt8.reduceToNat]
    omega
  · next hother => exact .inr ⟨hother, rfl⟩

theorem toLower_eq_iff (first second : UInt8) :
    toLower first = toLower second ↔ SameLetter first second := by
  have hfirst := toLower_cases first
  have hsecond := toLower_cases second
  unfold FoldsTo Lowers IsUpper at hfirst hsecond
  unfold SameLetter Lowers IsUpper
  simp only [← UInt8.toNat_inj] at *
  omega

theorem toLower_toLower (letter : UInt8) : toLower (toLower letter) = toLower letter := by
  have hlower := toLower_cases letter
  rw [toLower_eq_iff]
  rcases hlower with hlower | ⟨_, hsame⟩
  · exact .inr (.inr hlower)
  · exact .inl hsame

theorem isAsciiWhitespace_toLower (letter : UInt8) :
    isAsciiWhitespace (toLower letter) = isAsciiWhitespace letter := by
  have hlower := toLower_cases letter
  rcases hlower with ⟨⟨_, _⟩, _⟩ | ⟨_, hsame⟩
  · rw [Bool.eq_iff_iff]
    simp only [isAsciiWhitespace, Bool.or_eq_true, beq_iff_eq, ← UInt8.toNat_inj, UInt8.reduceToNat]
    omega
  · rw [hsame]

theorem isValidText_toLower {text : Bytes} (hvalid : isValidText text = true) :
    isValidText (text.map toLower) = true := by
  refine validText_induction (motive := fun text => isValidText (text.map toLower) = true)
    rfl ?_ text hvalid
  intro first _ hfirst _ ih
  have hfolded : CharacterBytes (first.map toLower) := by
    rcases hfirst.ascii_or_high with ⟨lead, rfl⟩ | hhigh
    · cases hfirst with
      | one hcontrol hdelete =>
        rcases toLower_cases lead with ⟨⟨_, _⟩, _⟩ | ⟨_, hsame⟩
        · exact .one (by omega) (by omega)
        · rw [List.map_singleton, hsame]
          exact .one hcontrol hdelete
    · have hsame : first.map toLower = first := by
        conv_rhs => rw [← List.map_id first]
        apply List.map_congr_left
        intro byte hbyte
        have hge := hhigh byte hbyte
        rcases toLower_cases byte with ⟨⟨_, _⟩, _⟩ | ⟨_, hsame⟩
        · omega
        · exact hsame
      rwa [hsame]
  rw [List.map_append, isValidText_append hfolded]
  exact ih

theorem trimmed_toLower {text : Bytes} (htrimmed : Trimmed text) : Trimmed (text.map toLower) := by
  have hspace : isAsciiWhitespace ∘ MessageRouter.toLower = isAsciiWhitespace :=
    funext isAsciiWhitespace_toLower
  constructor
  · rw [List.dropWhile_map, hspace, htrimmed.1]
  · unfold List.rdropWhile
    rw [← List.map_reverse, List.dropWhile_map, hspace, ← List.map_reverse]
    exact congrArg _ htrimmed.2

theorem normalizeRoomName_eq_some_iff (input name : Bytes) :
    normalizeRoomName input = some name ↔
      IsName maxRoomNameBytes (trimAsciiWhitespace input) ∧ name = trimAsciiWhitespace input := by
  unfold normalizeRoomName
  dsimp only
  split
  next hrefused => simp [(refused_iff _ _).mp hrefused]
  next haccepted => simp [not_not.mp (mt (refused_iff _ _).mpr haccepted), eq_comm]

/-- A name that is trimmed, valid and folded already. -/
theorem normalizeLoginName_again {text : Bytes} (htrimmed : Trimmed text)
    (hname : IsName maxUserNameBytes text) :
    normalizeLoginName text = some ⟨text.map toLower, text⟩ := by
  rw [normalizeLoginName_eq_some_iff, htrimmed.trim_eq]
  exact ⟨hname, rfl⟩

theorem normalizeLoginName_keys :
    (∀ input, IsTrimOf input (trimAsciiWhitespace input)) ∧
    (∀ input, (normalizeLoginName input).isSome = true ↔
      1 ≤ (trimAsciiWhitespace input).length ∧ (trimAsciiWhitespace input).length ≤ 32 ∧
        isValidText (trimAsciiWhitespace input) = true) ∧
    (∀ input name, normalizeLoginName input = some name →
      name.display = trimAsciiWhitespace input ∧ isValidText name.normalized = true ∧
        List.Forall₂ FoldsTo name.display name.normalized ∧
        ∀ text ∈ [name.display, name.normalized], ∃ again,
          normalizeLoginName text = some again ∧ again.normalized = name.normalized) ∧
    ∀ input other name otherName, normalizeLoginName input = some name →
      normalizeLoginName other = some otherName →
        (name.normalized = otherName.normalized ↔
          List.Forall₂ SameLetter (trimAsciiWhitespace input) (trimAsciiWhitespace other)) := by
  refine ⟨isTrimOf_trim, ?_, ?_, ?_⟩
  · intro input
    rw [Option.isSome_iff_exists]
    simp only [normalizeLoginName_eq_some_iff]
    constructor
    · rintro ⟨_, hname, _⟩
      exact ⟨hname.pos, hname.le, hname.valid⟩
    · rintro ⟨hpos, hle, hvalid⟩
      exact ⟨_, ⟨hpos, hle, hvalid⟩, rfl⟩
  · intro input name hname
    obtain ⟨haccepted, rfl⟩ := (normalizeLoginName_eq_some_iff _ _).mp hname
    have htrimmed := trimmed_trim input
    have hvalid := isValidText_toLower haccepted.valid
    refine ⟨rfl, hvalid, ?_, ?_⟩
    · rw [List.forall₂_map_right_iff, List.forall₂_same]
      exact fun letter _ => toLower_cases letter
    · rw [List.forall_mem_cons, List.forall_mem_singleton]
      refine ⟨⟨_, normalizeLoginName_again htrimmed haccepted, rfl⟩, _,
        normalizeLoginName_again (trimmed_toLower htrimmed)
          ⟨by simpa using haccepted.pos, by simpa using haccepted.le, hvalid⟩, ?_⟩
      simp only [List.map_map]
      exact List.map_congr_left fun letter _ => toLower_toLower letter
  · intro _ _ _ _ hname hother
    obtain ⟨_, rfl⟩ := (normalizeLoginName_eq_some_iff _ _).mp hname
    obtain ⟨_, rfl⟩ := (normalizeLoginName_eq_some_iff _ _).mp hother
    rw [← List.forall₂_eq_eq_eq, List.forall₂_map_left_iff, List.forall₂_map_right_iff]
    simp only [toLower_eq_iff]

end SessionServer.MessageRouter

/-! ## The client -/

namespace SessionServer.ClientController

open Protocol MessageRouter

/-- The text of a user name or a room name, if it may be sent. -/
def requestedName (maximum : ℕ) (text : Bytes) : Option Bytes :=
  let value := trimAsciiWhitespace text
  if value.isEmpty || value.length > maximum || !isValidText value then none
  else some value

/-- The checks of `login` behind those of the state, with what the user is told. -/
def loginRequest (username : Bytes) : Except String Bytes :=
  match requestedName maxUserNameBytes username with
  | none => .error "Enter a valid user name of at most 32 UTF-8 bytes."
  | some value => .ok value

def createRoomRequest (roomName : Bytes) : Except String Bytes :=
  match requestedName maxRoomNameBytes roomName with
  | none => .error "Enter a valid room name of at most 32 UTF-8 bytes."
  | some value => .ok value

def chatRequest (message : Bytes) : Except String Bytes :=
  if message.length > maxChatMessageBytes then
    .error "Chat messages are limited to 1291 UTF-8 bytes."
  else if !isValidText message then .error "Enter a valid chat message."
  else .ok message

theorem requestedName_eq_some_iff (maximum : ℕ) (text value : Bytes) :
    requestedName maximum text = some value ↔
      IsName maximum (trimAsciiWhitespace text) ∧ value = trimAsciiWhitespace text := by
  unfold requestedName
  dsimp only
  split
  next hrefused => simp [(refused_iff _ _).mp hrefused]
  next haccepted => simp [not_not.mp (mt (refused_iff _ _).mpr haccepted), eq_comm]

theorem loginRequest_eq_ok_iff (username value : Bytes) :
    loginRequest username = .ok value ↔
      IsName maxUserNameBytes (trimAsciiWhitespace username) ∧
        value = trimAsciiWhitespace username := by
  rw [← requestedName_eq_some_iff, loginRequest]
  cases requestedName maxUserNameBytes username <;> simp

theorem createRoomRequest_eq_ok_iff (roomName value : Bytes) :
    createRoomRequest roomName = .ok value ↔
      IsName maxRoomNameBytes (trimAsciiWhitespace roomName) ∧
        value = trimAsciiWhitespace roomName := by
  rw [← requestedName_eq_some_iff, createRoomRequest]
  cases requestedName maxRoomNameBytes roomName <;> simp

/-- Behind its checks the handler of a chat asks the room service first. -/
theorem handleChat_asks_iff (sessionId : SessionId) (message : Bytes) :
    (∃ next, handleChat sessionId message = .call (.act sessionId .chat) next) ↔
      message.length ≤ maxChatMessageBytes ∧ isValidText message = true := by
  have hreject : ∀ text, ¬ ∃ next, reject sessionId text = .call (.act sessionId .chat) next := by
    rintro text ⟨next, hnext⟩
    unfold reject at hnext
    cases herror : error sessionId text <;> rw [herror] at hnext <;> cases hnext
  unfold handleChat
  split
  next _ => exact iff_of_false (hreject _) (by omega)
  next _ =>
    split
    next _ => exact iff_of_false (hreject _) (by simp_all)
    next hvalid => exact iff_of_true ⟨_, rfl⟩ ⟨by omega, by simpa using hvalid⟩

theorem createRoom_name {name : Bytes} (hname : normalizeRoomName name = some name)
    (order : Enumeration) (service : RoomService) (sessionId : SessionId) :
    (service.createRoom order sessionId name).1.error ≠ "invalid room name" ∧
      ((service.createRoom order sessionId name).1.ok = true →
        ∃ room, room.name = name ∧ (service.createRoom order sessionId name).2.lobby.rooms.lookup
          (service.createRoom order sessionId name).1.roomId = some room) := by
  unfold RoomService.createRoom RoomService.requireUserLocked
  rw [hname]
  cases service.usersBySession.lookup sessionId with
  | none => simp
  | some =>
    by_cases hin : sessionId ∈ service.roomBySession
    · simp [hin]
    · dsimp only
      rw [if_neg (by simp), if_neg hin]
      exact ⟨by simp, fun _ => ⟨_, rfl, Finmap.lookup_insert _⟩⟩

/-- The checks of the client and of the server let the same texts through. -/
theorem checks_agree :
    (∀ text, trimAsciiWhitespace (trimAsciiWhitespace text) = trimAsciiWhitespace text ∧
      (isValidText text = true → isValidText (trimAsciiWhitespace text) = true)) ∧
    (∀ username, ((∃ value, loginRequest username = .ok value) ↔
        (normalizeLoginName username).isSome = true) ∧
      ∀ value, loginRequest username = .ok value → value = trimAsciiWhitespace username ∧
        ∃ name, normalizeLoginName value = some name ∧ name.display = value) ∧
    (∀ roomName, ((∃ value, createRoomRequest roomName = .ok value) ↔
        (normalizeRoomName roomName).isSome = true) ∧
      ∀ value, createRoomRequest roomName = .ok value →
        value = trimAsciiWhitespace roomName ∧ normalizeRoomName value = some value) ∧
    (∀ roomName name, normalizeRoomName roomName = some name →
      ∀ order (service : RoomService) sessionId,
        (service.createRoom order sessionId name).1.error ≠ "invalid room name" ∧
        ((service.createRoom order sessionId name).1.ok = true → ∃ room, room.name = name ∧
          (service.createRoom order sessionId name).2.lobby.rooms.lookup
            (service.createRoom order sessionId name).1.roomId = some room)) ∧
    ∀ sessionId message, (∃ value, chatRequest message = .ok value) ↔
      ∃ next, handleChat sessionId message = .call (.act sessionId .chat) next := by
  have hroom : ∀ text, IsName maxRoomNameBytes (trimAsciiWhitespace text) →
      normalizeRoomName (trimAsciiWhitespace text) = some (trimAsciiWhitespace text) := by
    intro text hname
    rw [normalizeRoomName_eq_some_iff, trim_trim]
    exact ⟨hname, rfl⟩
  refine ⟨fun text => ⟨trim_trim text, isValidText_trim⟩, ?_, ?_, ?_, ?_⟩
  · intro _
    simp only [loginRequest_eq_ok_iff, Option.isSome_iff_exists, normalizeLoginName_eq_some_iff]
    refine ⟨by simp, ?_⟩
    rintro value ⟨hname, rfl⟩
    refine ⟨rfl, ?_⟩
    rw [trim_trim]
    exact ⟨_, ⟨hname, rfl⟩, rfl⟩
  · intro roomName
    simp only [createRoomRequest_eq_ok_iff, Option.isSome_iff_exists,
      normalizeRoomName_eq_some_iff roomName]
    refine ⟨by simp, ?_⟩
    rintro _ ⟨hname, rfl⟩
    exact ⟨rfl, hroom _ hname⟩
  · intro _ _ hname
    obtain ⟨haccepted, rfl⟩ := (normalizeRoomName_eq_some_iff _ _).mp hname
    exact createRoom_name (hroom _ haccepted)
  · intro _ message
    rw [handleChat_asks_iff]
    unfold chatRequest
    split
    next hlong => simp [Nat.not_le.mpr hlong]
    next hshort =>
      cases hvalid : isValidText message <;> simp [Nat.not_lt.mp hshort]

end SessionServer.ClientController
