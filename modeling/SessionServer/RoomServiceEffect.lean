import SessionServer.RoomServiceModel

/-!
# What a call of the room service does

One inversion lemma lists every answer a call can give together with the state
it leaves behind.
-/

namespace SessionServer

open Protocol RoomService

namespace RoomService

/-- The user enters a room that is free to enter. -/
def enrol (service : RoomService) (id : SessionId) (user : User)
    (roomId : RoomId) (room : Room) : RoomService :=
  { service with
    lobby := service.lobby.setRoom roomId (room.join user)
    roomBySession := service.roomBySession.insert id roomId }

/-- The session leaves the room, and the room goes with its last member. -/
def release (service : RoomService) (id : SessionId) (roomId : RoomId)
    (room : Room) : RoomService :=
  { service with
    lobby := (service.lobby.setRoom roomId (room.leave id).2).eraseIfEmpty roomId
    roomBySession := service.roomBySession.erase id }

def forget (service : RoomService) (id : SessionId) : RoomService :=
  { service with usersBySession := service.usersBySession.erase id }

end RoomService

/-- Everything an operation can answer and leave behind. -/
inductive RoomEffect (order : Enumeration) (service : RoomService)
    (id : SessionId) : RoomAction → RoomActionResult → RoomService → Prop
  | rejected (action : RoomAction) (result : RoomActionResult)
      (hrejected : result.ok = false) (herror : result.error ≠ "room not found" ∨
        ∃ roomId, service.lobby.rooms.lookup roomId = none ∧
          (action = .joinRoom roomId ∨ service.roomBySession.lookup id = some roomId)) :
      RoomEffect order service id action result service
  | created (roomName name : Bytes) (user : User)
      (hname : normalizeRoomName roomName = some name)
      (huser : service.usersBySession.lookup id = some user)
      (hfree : service.roomBySession.lookup id = none) :
      RoomEffect order service id (.createRoom roomName)
        { ok := true
          roomId := service.lobby.nextRoomId
          actor := user
          recipients := Room.sessionIds order
            ((service.lobby.createRoom name).1.join user) }
        (enrol { service with lobby := (service.lobby.createRoom name).2 }
          id user service.lobby.nextRoomId (service.lobby.createRoom name).1)
  | joined (roomId : RoomId) (room : Room) (user : User)
      (huser : service.usersBySession.lookup id = some user)
      (hfree : service.roomBySession.lookup id = none)
      (hroom : service.lobby.rooms.lookup roomId = some room) :
      RoomEffect order service id (.joinRoom roomId)
        { ok := true
          roomId := roomId
          actor := user
          recipients := Room.sessionIds order (room.join user) }
        (service.enrol id user roomId room)
  | left (roomId : RoomId) (room : Room) (user : User)
      (huser : service.usersBySession.lookup id = some user)
      (hmember : service.roomBySession.lookup id = some roomId)
      (hroom : service.lobby.rooms.lookup roomId = some room) :
      RoomEffect order service id .leaveRoom
        { ok := true
          roomId := roomId
          actor := user
          recipients := Room.sessionIds order room }
        (service.release id roomId room)
  | lost (roomId : RoomId) (user : User)
      (huser : service.usersBySession.lookup id = some user)
      (hmember : service.roomBySession.lookup id = some roomId)
      (hroom : service.lobby.rooms.lookup roomId = none) :
      RoomEffect order service id .leaveRoom
        { ok := false, error := "room not found", actor := user }
        { service with roomBySession := service.roomBySession.erase id }
  | addressed (roomId : RoomId) (room : Room) (user : User)
      (huser : service.usersBySession.lookup id = some user)
      (hmember : service.roomBySession.lookup id = some roomId)
      (hroom : service.lobby.rooms.lookup roomId = some room) :
      RoomEffect order service id .chat
        { ok := true
          roomId := roomId
          actor := user
          recipients := Room.sessionIds order room }
        service
  | moved (roomId : RoomId) (room : Room) (user : User) (position : PacketCodec.Position)
      (huser : service.usersBySession.lookup id = some user)
      (hmember : service.roomBySession.lookup id = some roomId)
      (hroom : service.lobby.rooms.lookup roomId = some room) :
      RoomEffect order service id (.updatePosition position)
        { ok := true
          roomId := roomId
          actor := user
          recipients := Room.sessionIds order (room.setPosition id position) }
        { service with
          lobby := service.lobby.setRoom roomId (room.setPosition id position) }
  | gone (user : User)
      (huser : service.usersBySession.lookup id = some user)
      (hfree : service.roomBySession.lookup id = none) :
      RoomEffect order service id .disconnect { ok := true, actor := user } (service.forget id)
  | goneFrom (roomId : RoomId) (room : Room) (user : User)
      (huser : service.usersBySession.lookup id = some user)
      (hmember : service.roomBySession.lookup id = some roomId)
      (hroom : service.lobby.rooms.lookup roomId = some room) :
      RoomEffect order service id .disconnect
        { ok := true
          roomId := roomId
          actor := user
          recipients := Room.sessionIds order room }
        ((service.release id roomId room).forget id)
  | goneFromLost (roomId : RoomId) (user : User)
      (huser : service.usersBySession.lookup id = some user)
      (hmember : service.roomBySession.lookup id = some roomId)
      (hroom : service.lobby.rooms.lookup roomId = none) :
      RoomEffect order service id .disconnect { ok := true, actor := user }
        (forget { service with
          roomBySession := service.roomBySession.erase id } id)

section Effect

variable (order : Enumeration) (service : RoomService) (id : SessionId)

theorem RoomService.requireUserLocked_eq :
    (∃ user, service.usersBySession.lookup id = some user ∧
        service.requireUserLocked id = { ok := true, actor := user }) ∨
      service.requireUserLocked id = { ok := false, error := "login required" } := by
  unfold requireUserLocked
  cases hlookup : service.usersBySession.lookup id with
  | none => exact .inr rfl
  | some user => exact .inl ⟨user, rfl, rfl⟩

theorem RoomService.effect_createRoom (roomName : Bytes) :
    RoomEffect order service id (.createRoom roomName)
      (service.createRoom order id roomName).1
      (service.createRoom order id roomName).2 := by
  unfold createRoom
  cases hname : normalizeRoomName roomName with
  | none => exact .rejected _ _ rfl (.inl (by simp))
  | some name =>
    rcases service.requireUserLocked_eq id with ⟨user, huser, hrequire⟩ | hrequire
    · rw [hrequire]
      by_cases hin : id ∈ service.roomBySession
      · simp only [Bool.not_true, Bool.false_eq_true, if_false, hin, if_true]
        exact .rejected _ _ rfl (.inl (by simp))
      · simp only [Bool.not_true, Bool.false_eq_true, if_false, hin]
        exact .created roomName name user hname huser (Finmap.lookup_eq_none.mpr hin)
    · rw [hrequire]
      exact .rejected _ _ rfl (.inl (by simp))

theorem RoomService.effect_joinRoom (roomId : RoomId) :
    RoomEffect order service id (.joinRoom roomId)
      (service.joinRoom order id roomId).1
      (service.joinRoom order id roomId).2 := by
  unfold joinRoom
  rcases service.requireUserLocked_eq id with ⟨user, huser, hrequire⟩ | hrequire
  · simp only [hrequire, Bool.not_true, Bool.false_eq_true, if_false]
    cases hcurrent : service.roomBySession.lookup id with
    | some =>
      apply RoomEffect.rejected _ _ rfl
      simp only
      split <;> simp
    | none =>
      cases hroom : service.lobby.findRoom roomId with
      | none => exact .rejected _ _ rfl (.inr ⟨roomId, hroom, .inl rfl⟩)
      | some room => exact .joined roomId room user huser hcurrent hroom
  · simp only [hrequire]
    exact .rejected _ _ rfl (.inl (by simp))

theorem RoomService.effect_leaveRoom :
    RoomEffect order service id .leaveRoom
      (service.leaveRoom order id).1 (service.leaveRoom order id).2 := by
  unfold leaveRoom
  rcases service.requireUserLocked_eq id with ⟨user, huser, hrequire⟩ | hrequire
  · simp only [hrequire, Bool.not_true, Bool.false_eq_true, if_false]
    cases hcurrent : service.roomBySession.lookup id with
    | none => exact .rejected _ _ rfl (.inl (by simp))
    | some roomId =>
      cases hroom : service.lobby.findRoom roomId with
      | none =>
        simp only [hroom]
        exact .lost roomId user huser hcurrent hroom
      | some room =>
        simp only [hroom]
        exact .left roomId room user huser hcurrent hroom
  · simp only [hrequire]
    exact .rejected _ _ rfl (.inl (by simp))

theorem RoomService.roomOfMember_cases :
    (∃ roomId room user, service.usersBySession.lookup id = some user ∧
        service.roomBySession.lookup id = some roomId ∧
        service.lobby.rooms.lookup roomId = some room ∧
        service.roomOfMember id = ({ ok := true, actor := user }, some (roomId, room))) ∨
      ∃ result, service.roomOfMember id = (result, none) ∧ result.ok = false ∧
        (result.error ≠ "room not found" ∨
          ∃ roomId, service.lobby.rooms.lookup roomId = none ∧
            service.roomBySession.lookup id = some roomId) := by
  unfold roomOfMember
  rcases service.requireUserLocked_eq id with ⟨user, huser, hrequire⟩ | hrequire
  · simp only [hrequire, Bool.not_true, Bool.false_eq_true, if_false]
    cases hcurrent : service.roomBySession.lookup id with
    | none => exact .inr ⟨_, rfl, rfl, .inl (by simp)⟩
    | some roomId =>
      cases hroom : service.lobby.findRoom roomId with
      | none =>
        simp only [hroom]
        exact .inr ⟨_, rfl, rfl, .inr ⟨roomId, hroom, rfl⟩⟩
      | some room =>
        simp only [hroom]
        exact .inl ⟨roomId, room, user, huser, rfl, hroom, rfl⟩
  · simp only [hrequire]
    exact .inr ⟨_, rfl, rfl, .inl (by simp)⟩

theorem RoomService.effect_chat :
    RoomEffect order service id .chat (service.chat order id).1 (service.chat order id).2 := by
  unfold chat
  rcases service.roomOfMember_cases id with
    ⟨roomId, room, user, huser, hmember, hroom, hcase⟩ | ⟨result, hcase, hok, herror⟩
  · rw [hcase]
    exact .addressed roomId room user huser hmember hroom
  · rw [hcase]
    apply RoomEffect.rejected _ _ hok
    rcases herror with hne | ⟨roomId, hroom, hmember⟩
    · exact .inl hne
    · exact .inr ⟨roomId, hroom, .inr hmember⟩

theorem RoomService.effect_updatePosition (position : PacketCodec.Position) :
    RoomEffect order service id (.updatePosition position)
      (service.updatePosition order id position).1
      (service.updatePosition order id position).2 := by
  unfold updatePosition
  rcases service.roomOfMember_cases id with
    ⟨roomId, room, user, huser, hmember, hroom, hcase⟩ | ⟨result, hcase, hok, herror⟩
  · rw [hcase]
    exact .moved roomId room user position huser hmember hroom
  · rw [hcase]
    apply RoomEffect.rejected _ _ hok
    rcases herror with hne | ⟨roomId, hroom, hmember⟩
    · exact .inl hne
    · exact .inr ⟨roomId, hroom, .inr hmember⟩

theorem RoomService.effect_disconnect :
    RoomEffect order service id .disconnect
      (service.disconnect order id).1 (service.disconnect order id).2 := by
  unfold disconnect
  cases huser : service.usersBySession.lookup id with
  | none => exact .rejected _ _ rfl (.inl (by simp))
  | some user =>
    cases hcurrent : service.roomBySession.lookup id with
    | none => exact .gone user huser hcurrent
    | some roomId =>
      cases hroom : service.lobby.findRoom roomId with
      | none =>
        simp only [hroom]
        exact .goneFromLost roomId user huser hcurrent hroom
      | some room =>
        simp only [hroom]
        exact .goneFrom roomId room user huser hcurrent hroom

theorem RoomService.effect_act (action : RoomAction) :
    RoomEffect order service id action
      (service.act order id action).1 (service.act order id action).2 := by
  cases action with
  | createRoom roomName => exact service.effect_createRoom order id roomName
  | joinRoom roomId => exact service.effect_joinRoom order id roomId
  | leaveRoom => exact service.effect_leaveRoom order id
  | chat => exact service.effect_chat order id
  | updatePosition position => exact service.effect_updatePosition order id position
  | disconnect => exact service.effect_disconnect order id

/-- Every text with which a call can be refused. -/
def roomErrors : List String :=
  [ "", "invalid room name", "login required", "leave current room first",
    "user is already in room", "room not found", "user is not in a room", "unknown user" ]

theorem RoomService.error_roomOfMember_mem : (service.roomOfMember id).1.error ∈ roomErrors := by
  unfold roomOfMember
  rcases service.requireUserLocked_eq id with ⟨_, _, hrequire⟩ | hrequire
  · simp only [hrequire, Bool.not_true, Bool.false_eq_true, if_false]
    split
    · simp [roomErrors]
    · split <;> simp [roomErrors]
  · simp [hrequire, roomErrors]

theorem RoomService.error_act_mem (action : RoomAction) :
    (service.act order id action).1.error ∈ roomErrors := by
  have hmember := service.error_roomOfMember_mem id
  cases action with
  | createRoom roomName =>
    change (service.createRoom order id roomName).1.error ∈ roomErrors
    unfold createRoom
    split
    · simp [roomErrors]
    · rcases service.requireUserLocked_eq id with ⟨user, _, hrequire⟩ | hrequire
      · simp only [hrequire, Bool.not_true, Bool.false_eq_true, if_false]
        split <;> simp [roomErrors]
      · simp [hrequire, roomErrors]
  | joinRoom roomId =>
    change (service.joinRoom order id roomId).1.error ∈ roomErrors
    unfold joinRoom
    rcases service.requireUserLocked_eq id with ⟨user, _, hrequire⟩ | hrequire
    · simp only [hrequire, Bool.not_true, Bool.false_eq_true, if_false]
      split
      · simp only
        split <;> simp [roomErrors]
      · split <;> simp [roomErrors]
    · simp [hrequire, roomErrors]
  | leaveRoom =>
    change (service.leaveRoom order id).1.error ∈ roomErrors
    unfold leaveRoom
    rcases service.requireUserLocked_eq id with ⟨_, _, hrequire⟩ | hrequire
    · simp only [hrequire, Bool.not_true, Bool.false_eq_true, if_false]
      split
      · simp [roomErrors]
      · split <;> simp [roomErrors]
    · simp [hrequire, roomErrors]
  | chat =>
    change (service.chat order id).1.error ∈ roomErrors
    unfold chat
    generalize service.roomOfMember id = found at *
    split <;> exact hmember
  | updatePosition position =>
    change (service.updatePosition order id position).1.error ∈ roomErrors
    unfold updatePosition
    generalize service.roomOfMember id = found at *
    split <;> exact hmember
  | disconnect =>
    change (service.disconnect order id).1.error ∈ roomErrors
    unfold disconnect
    split
    · simp [roomErrors]
    · split
      · simp [roomErrors]
      · simp only
        split <;> simp [roomErrors]

theorem RoomService.lookup_users_act (action : RoomAction) {other : SessionId}
    (hother : other ≠ id) :
    (service.act order id action).2.usersBySession.lookup other =
      service.usersBySession.lookup other := by
  have heffect := service.effect_act order id action
  generalize (service.act order id action).1 = result at heffect
  generalize (service.act order id action).2 = after at heffect ⊢
  cases heffect with
  | rejected | created | joined | left | lost | addressed | moved => rfl
  | gone | goneFrom | goneFromLost => exact Finmap.lookup_erase_ne hother

theorem RoomService.lookup_users_attachUser (record : UserRecord) {other : SessionId}
    (hother : other ≠ id) :
    (service.attachUser id record).2.usersBySession.lookup other =
      service.usersBySession.lookup other := by
  unfold attachUser
  split
  · rfl
  · exact Finmap.lookup_insert_of_ne _ hother

theorem RoomService.lookup_users_disconnect :
    (service.act order id .disconnect).2.usersBySession.lookup id = none := by
  change (service.disconnect order id).2.usersBySession.lookup id = none
  unfold disconnect
  cases huser : service.usersBySession.lookup id with
  | none => exact huser
  | some =>
    cases hcurrent : service.roomBySession.lookup id with
    | none => exact Finmap.lookup_erase _ _
    | some roomId =>
      cases hroom : service.lobby.findRoom roomId with
      | none | some =>
        simp only [hroom]
        exact Finmap.lookup_erase _ _

end Effect

end SessionServer
