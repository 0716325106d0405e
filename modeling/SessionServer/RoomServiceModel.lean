import SessionServer.PacketCodec
import SessionServer.UserRepository
import Mathlib.Data.Finset.Sort

/-!
# Rooms, the lobby and the room service

`RoomService` owns three maps: the users by session, the room of each session,
and the lobby with the rooms, which in turn own their members and positions.
Every operation runs under the service's mutex, so it is one function on the
state.  The order in which a hash map lists its keys is not specified; each
operation is given one.
-/

namespace SessionServer

open Protocol

abbrev RoomId := UInt32

/-- An order in which the keys of a hash map may be listed. -/
structure Enumeration where
  list : Finset SessionId → List SessionId
  nodup : ∀ ids, (list ids).Nodup
  mem_list : ∀ ids id, id ∈ list ids ↔ id ∈ ids

def Enumeration.ascending : Enumeration where
  list ids := ids.sort (· ≤ ·)
  nodup ids := ids.sort_nodup (· ≤ ·)
  mem_list _ _ := Finset.mem_sort (· ≤ ·)

/-! ## Rooms -/

structure Room where
  id : RoomId
  name : Bytes
  members : Finmap fun _ : SessionId => User := ∅
  positions : Finmap fun _ : SessionId => PacketCodec.Position := ∅
  deriving DecidableEq

namespace Room

def join (room : Room) (user : User) : Room :=
  { room with members := room.members.insert user.sessionId user }

def leave (room : Room) (sessionId : SessionId) : Option User × Room :=
  match room.members.lookup sessionId with
  | none => (none, room)
  | some user =>
    (some user, { room with
      members := room.members.erase sessionId
      positions := room.positions.erase sessionId })

def empty (room : Room) : Bool :=
  decide (room.members = ∅)

def sessionIds (order : Enumeration) (room : Room) : List SessionId :=
  order.list room.members.keys

def setPosition (room : Room) (sessionId : SessionId)
    (position : PacketCodec.Position) : Room :=
  if sessionId ∈ room.members then
    { room with positions := room.positions.insert sessionId position }
  else room

end Room

/-! ## The lobby -/

structure Lobby where
  nextRoomId : RoomId := 1
  rooms : Finmap fun _ : RoomId => Room := ∅
  deriving DecidableEq

namespace Lobby

def createRoom (lobby : Lobby) (name : Bytes) : Room × Lobby :=
  let roomId := lobby.nextRoomId
  let room : Room := { id := roomId, name := name }
  (room, { nextRoomId := lobby.nextRoomId + 1, rooms := lobby.rooms.insert roomId room })

def findRoom (lobby : Lobby) (roomId : RoomId) : Option Room :=
  lobby.rooms.lookup roomId

def eraseIfEmpty (lobby : Lobby) (roomId : RoomId) : Lobby :=
  match lobby.rooms.lookup roomId with
  | some room =>
    if room.empty then { lobby with rooms := lobby.rooms.erase roomId } else lobby
  | none => lobby

/-- The lobby and its callers share the rooms: a change made through the
pointer shows in the lobby. -/
def setRoom (lobby : Lobby) (roomId : RoomId) (room : Room) : Lobby :=
  { lobby with rooms := lobby.rooms.insert roomId room }

end Lobby

/-! ## The service -/

structure LoginResult where
  ok : Bool := false
  error : String := ""
  user : User := {}
  deriving DecidableEq

structure RoomActionResult where
  ok : Bool := false
  error : String := ""
  roomId : RoomId := 0
  actor : User := {}
  recipients : List SessionId := []
  deriving DecidableEq

structure RoomService where
  lobby : Lobby := {}
  usersBySession : Finmap fun _ : SessionId => User := ∅
  roomBySession : Finmap fun _ : SessionId => RoomId := ∅
  deriving DecidableEq

def normalizeRoomName (input : Bytes) : Option Bytes :=
  let trimmed := trimAsciiWhitespace input
  if trimmed.isEmpty || trimmed.length > maxRoomNameBytes || !isValidText trimmed then
    none
  else some trimmed

namespace RoomService

def attachUser (service : RoomService) (sessionId : SessionId) (record : UserRecord) :
    LoginResult × RoomService :=
  match service.usersBySession.lookup sessionId with
  | some existing =>
    ({ ok := false, error := "user is already logged in", user := existing }, service)
  | none =>
    let user : User := ⟨record.userId, sessionId, record.displayName⟩
    ({ ok := true, user := user },
      { service with usersBySession := service.usersBySession.insert sessionId user })

def requireUserLocked (service : RoomService) (sessionId : SessionId) :
    RoomActionResult :=
  match service.usersBySession.lookup sessionId with
  | none => { ok := false, error := "login required" }
  | some user => { ok := true, actor := user }

def createRoom (order : Enumeration) (service : RoomService) (sessionId : SessionId)
    (roomName : Bytes) : RoomActionResult × RoomService :=
  match normalizeRoomName roomName with
  | none => ({ ok := false, error := "invalid room name" }, service)
  | some normalizedName =>
    let result := service.requireUserLocked sessionId
    if !result.ok then (result, service)
    else if sessionId ∈ service.roomBySession then
      ({ result with ok := false, error := "leave current room first" }, service)
    else
      let (room, lobby) := service.lobby.createRoom normalizedName
      let room := room.join result.actor
      ({ result with roomId := room.id, recipients := room.sessionIds order },
        { service with
          lobby := lobby.setRoom room.id room
          roomBySession := service.roomBySession.insert sessionId room.id })

def joinRoom (order : Enumeration) (service : RoomService) (sessionId : SessionId)
    (roomId : RoomId) : RoomActionResult × RoomService :=
  let result := service.requireUserLocked sessionId
  if !result.ok then (result, service)
  else
    match service.roomBySession.lookup sessionId with
    | some current =>
      ({ result with
        ok := false
        error :=
          if current = roomId then "user is already in room"
          else "leave current room first" }, service)
    | none =>
      match service.lobby.findRoom roomId with
      | none => ({ result with ok := false, error := "room not found" }, service)
      | some room =>
        let room := room.join result.actor
        ({ result with roomId := roomId, recipients := room.sessionIds order },
          { service with
            lobby := service.lobby.setRoom roomId room
            roomBySession := service.roomBySession.insert sessionId roomId })

def leaveRoom (order : Enumeration) (service : RoomService) (sessionId : SessionId) :
    RoomActionResult × RoomService :=
  let result := service.requireUserLocked sessionId
  if !result.ok then (result, service)
  else
    match service.roomBySession.lookup sessionId with
    | none => ({ result with ok := false, error := "user is not in a room" }, service)
    | some roomId =>
      match service.lobby.findRoom roomId with
      | none =>
        ({ result with ok := false, error := "room not found" },
          { service with roomBySession := service.roomBySession.erase sessionId })
      | some room =>
        ({ result with roomId := roomId, recipients := room.sessionIds order },
          { service with
            lobby := (service.lobby.setRoom roomId (room.leave sessionId).2).eraseIfEmpty roomId
            roomBySession := service.roomBySession.erase sessionId })

/-- The member's room, or why there is none. -/
def roomOfMember (service : RoomService) (sessionId : SessionId) :
    RoomActionResult × Option (RoomId × Room) :=
  let result := service.requireUserLocked sessionId
  if !result.ok then (result, none)
  else
    match service.roomBySession.lookup sessionId with
    | none => ({ result with ok := false, error := "user is not in a room" }, none)
    | some roomId =>
      match service.lobby.findRoom roomId with
      | none => ({ result with ok := false, error := "room not found" }, none)
      | some room => (result, some (roomId, room))

def chat (order : Enumeration) (service : RoomService) (sessionId : SessionId) :
    RoomActionResult × RoomService :=
  match service.roomOfMember sessionId with
  | (result, none) => (result, service)
  | (result, some (roomId, room)) =>
    ({ result with roomId := roomId, recipients := room.sessionIds order }, service)

def updatePosition (order : Enumeration) (service : RoomService) (sessionId : SessionId)
    (position : PacketCodec.Position) : RoomActionResult × RoomService :=
  match service.roomOfMember sessionId with
  | (result, none) => (result, service)
  | (result, some (roomId, room)) =>
    let room := room.setPosition sessionId position
    ({ result with roomId := roomId, recipients := room.sessionIds order },
      { service with lobby := service.lobby.setRoom roomId room })

def disconnect (order : Enumeration) (service : RoomService) (sessionId : SessionId) :
    RoomActionResult × RoomService :=
  match service.usersBySession.lookup sessionId with
  | none => ({ ok := false, error := "unknown user" }, service)
  | some user =>
    let result : RoomActionResult := { ok := true, actor := user }
    let users := service.usersBySession.erase sessionId
    match service.roomBySession.lookup sessionId with
    | none => (result, { service with usersBySession := users })
    | some roomId =>
      let rooms := service.roomBySession.erase sessionId
      match service.lobby.findRoom roomId with
      | none =>
        (result, { service with usersBySession := users, roomBySession := rooms })
      | some room =>
        ({ result with roomId := roomId, recipients := room.sessionIds order },
          { lobby := (service.lobby.setRoom roomId
              (room.leave sessionId).2).eraseIfEmpty roomId
            usersBySession := users
            roomBySession := rooms })

end RoomService

/-! ## Operations -/

/-- The operations of a session on its rooms. -/
inductive RoomAction
  | createRoom (roomName : Bytes)
  | joinRoom (roomId : RoomId)
  | leaveRoom
  | chat
  | updatePosition (position : PacketCodec.Position)
  | disconnect
  deriving DecidableEq

def RoomService.act (order : Enumeration) (service : RoomService)
    (sessionId : SessionId) : RoomAction → RoomActionResult × RoomService
  | .createRoom roomName => service.createRoom order sessionId roomName
  | .joinRoom roomId => service.joinRoom order sessionId roomId
  | .leaveRoom => service.leaveRoom order sessionId
  | .chat => service.chat order sessionId
  | .updatePosition position => service.updatePosition order sessionId position
  | .disconnect => service.disconnect order sessionId

end SessionServer
