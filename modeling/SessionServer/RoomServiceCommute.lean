import SessionServer.Footprint
import SessionServer.RoomServiceRun

/-!
# Calls of independent sessions commute

The service is read cell by cell: the user and the room index of a session,
a room of the lobby, and the room counter.  A call looks at and changes the
cells of its own session, of the room it concerns, and, if it creates one, the
counter.  So two sessions that are in different rooms do not notice in which
order their calls are served.
-/

namespace SessionServer

open Protocol Footprint FiniteMap Lobby

inductive RoomCell
  | user (id : SessionId)
  | index (id : SessionId)
  | room (roomId : RoomId)
  | counter

def RoomCell.Value : RoomCell → Type
  | .user _ => Option User
  | .index _ => Option RoomId
  | .room _ => Option Room
  | .counter => RoomId

namespace RoomService

def read (service : RoomService) : ∀ cell : RoomCell, cell.Value
  | .user id => service.usersBySession.lookup id
  | .index id => service.roomBySession.lookup id
  | .room roomId => service.lobby.rooms.lookup roomId
  | .counter => service.lobby.nextRoomId

/-- The cells of a session and of some rooms, with or without the counter. -/
def footprint (id : SessionId) (rooms : Set RoomId) (counter : Prop) : Set RoomCell
  | .user other => other = id
  | .index other => other = id
  | .room roomId => roomId ∈ rooms
  | .counter => counter

/-- New values for the cells of a session, for one room and for the counter,
each only where there is one. -/
structure Change where
  user : Option (Option User) := none
  index : Option (Option RoomId) := none
  room : Option (RoomId × Option Room) := none
  counter : Option RoomId := none

def Change.write (change : Change) (id : SessionId) :
    ∀ cell : RoomCell, cell.Value → cell.Value
  | .user other, value => if other = id then change.user.getD value else value
  | .index other, value => if other = id then change.index.getD value else value
  | .room roomId, value =>
    match change.room with
    | some (changed, room) => if roomId = changed then room else value
    | none => value
  | .counter, value => change.counter.getD value

theorem read_ext {service other : RoomService}
    (hread : ∀ cell, service.read cell = other.read cell) : service = other := by
  obtain ⟨⟨nextRoomId, rooms⟩, users, index⟩ := service
  obtain ⟨⟨otherNextRoomId, otherRooms⟩, otherUsers, otherIndex⟩ := other
  have hcounter : nextRoomId = otherNextRoomId := hread .counter
  have hrooms : rooms = otherRooms := by
    apply Finmap.ext_lookup
    intro roomId
    exact hread (.room roomId)
  have husers : users = otherUsers := by
    apply Finmap.ext_lookup
    intro id
    exact hread (.user id)
  have hindex : index = otherIndex := by
    apply Finmap.ext_lookup
    intro id
    exact hread (.index id)
  rw [hcounter, hrooms, husers, hindex]

section Local

variable {Answer : Type} {service other : RoomService} {id : SessionId} {rooms : Set RoomId}
  {counter : Prop}

/-- The cells of a footprint, one by one. -/
structure Alike (id : SessionId) (rooms : Set RoomId) (counter : Prop)
    (service other : RoomService) : Prop where
  user : other.usersBySession.lookup id = service.usersBySession.lookup id
  index : other.roomBySession.lookup id = service.roomBySession.lookup id
  room : ∀ roomId ∈ rooms, other.lobby.rooms.lookup roomId = service.lobby.rooms.lookup roomId
  counter : counter → other.lobby.nextRoomId = service.lobby.nextRoomId

theorem Alike.of_agree (hagree : Agree read (footprint id rooms counter) service other) :
    Alike id rooms counter service other where
  user := hagree (.user id) rfl
  index := hagree (.index id) rfl
  room := by
    intro roomId hroom
    exact hagree (.room roomId) hroom
  counter := hagree .counter

theorem Change.write_outside {change : Change}
    (hroom : ∀ roomId room, change.room = some (roomId, room) → roomId ∈ rooms)
    (hcounter : change.counter ≠ none → counter) (cell : RoomCell)
    (hcell : cell ∉ footprint id rooms counter) (value : cell.Value) :
    change.write id cell value = value := by
  cases cell with
  | user | index => exact if_neg hcell
  | room roomId =>
    unfold Change.write
    split
    next _ room hchange =>
      apply if_neg
      rintro rfl
      exact hcell (hroom roomId room hchange)
    next => rfl
  | counter =>
    have hnone : change.counter = none := by
      by_contra hsome
      exact hcell (hcounter hsome)
    simp only [Change.write, hnone]
    rfl

theorem read_enrol (user : User) (roomId : RoomId) (room : Room) (cell : RoomCell) :
    (service.enrol id user roomId room).read cell =
      Change.write
        { index := some (some roomId), room := some (roomId, some (room.join user)) }
        id cell (service.read cell) := by
  cases cell with
  | user => exact (ite_self _).symm
  | index other => exact lookup_insert_ite _ _ other _
  | room other => exact lookup_setRoom _ _ other _
  | counter => rfl

theorem read_release (roomId : RoomId) (room : Room) (cell : RoomCell) :
    (service.release id roomId room).read cell =
      Change.write
        { index := some none,
          room := some (roomId, if (room.leave id).2.members = ∅ then none
            else some (room.leave id).2) }
        id cell (service.read cell) := by
  cases cell with
  | user => exact (ite_self _).symm
  | index other => exact lookup_erase_ite _ _ other
  | room other => exact lookup_eraseIfEmpty_setRoom _ _ other _
  | counter => exact nextRoomId_eraseIfEmpty _ _

theorem read_unindex (service : RoomService) (cell : RoomCell) :
    RoomService.read { service with roomBySession := service.roomBySession.erase id } cell =
      Change.write { index := some none } id cell (service.read cell) := by
  cases cell with
  | user => exact (ite_self _).symm
  | index other => exact lookup_erase_ite _ _ other
  | room | counter => rfl

theorem read_forget (service : RoomService) (cell : RoomCell) :
    (service.forget id).read cell =
      Change.write { user := some none } id cell (service.read cell) := by
  cases cell with
  | user other => exact lookup_erase_ite _ _ other
  | index => exact (ite_self _).symm
  | room | counter => rfl

theorem local_of_change {call : RoomService → Answer × RoomService} (change : Change)
    (hroom : ∀ roomId room, change.room = some (roomId, room) → roomId ∈ rooms)
    (hcounter : change.counter ≠ none → counter)
    (hcall : ∀ other, Alike id rooms counter service other →
      (call other).1 = (call service).1 ∧
        ∀ cell, (call other).2.read cell = change.write id cell (other.read cell)) :
    LocalAt read call (footprint id rooms counter) service := by
  apply LocalAt.writes (change.write id) (change.write_outside hroom hcounter)
  · intro other hagree
    exact (hcall other (Alike.of_agree hagree)).1
  · intro other hagree
    exact (hcall other (Alike.of_agree hagree)).2

theorem local_of_still {call : RoomService → Answer × RoomService}
    (hcall : ∀ other, Alike id rooms counter service other →
      call other = ((call service).1, other)) :
    LocalAt read call (footprint id rooms counter) service := by
  apply LocalAt.still
  intro other hagree
  exact hcall other (Alike.of_agree hagree)

theorem local_attachUser (record : UserRecord) :
    LocalAt read (fun state => state.attachUser id record)
      (footprint id rooms counter) service := by
  cases huser : service.usersBySession.lookup id with
  | some =>
    apply local_of_still
    intro other halike
    simp [attachUser, halike.user, huser]
  | none =>
    apply local_of_change
      { user := some (some ⟨record.userId, id, record.displayName⟩) } (by simp) (by simp)
    intro _ halike
    simp only [attachUser, halike.user, huser, true_and]
    intro cell
    cases cell with
    | user member => exact lookup_insert_ite _ _ member _
    | index => exact (ite_self _).symm
    | room | counter => rfl

theorem local_joinRoom (order : Enumeration) {roomId : RoomId} (hroom : roomId ∈ rooms) :
    LocalAt read (fun state => state.joinRoom order id roomId)
      (footprint id rooms counter) service := by
  cases huser : service.usersBySession.lookup id with
  | none =>
    apply local_of_still
    intro other halike
    simp [joinRoom, requireUserLocked, halike.user, huser]
  | some user =>
    cases hindex : service.roomBySession.lookup id with
    | some =>
      apply local_of_still
      intro other halike
      simp [joinRoom, requireUserLocked, halike.user, huser, halike.index, hindex]
    | none =>
      cases hfound : service.lobby.rooms.lookup roomId with
      | none =>
        apply local_of_still
        intro other halike
        simp [joinRoom, requireUserLocked, halike.user, huser, halike.index, hindex,
          findRoom, halike.room roomId hroom, hfound]
      | some room =>
        apply local_of_change
          { index := some (some roomId), room := some (roomId, some (room.join user)) }
          (by simp [hroom]) (by simp)
        intro _ halike
        simp only [joinRoom, requireUserLocked, halike.user, huser, halike.index, hindex,
          findRoom, halike.room roomId hroom, hfound, Bool.not_true,
          Bool.false_eq_true, if_false, true_and]
        exact read_enrol user roomId room

section Member

variable (hcurrent : ∀ roomId, service.roomBySession.lookup id = some roomId → roomId ∈ rooms)
include hcurrent

theorem local_leaveRoom (order : Enumeration) :
    LocalAt read (fun state => state.leaveRoom order id) (footprint id rooms counter) service := by
  cases huser : service.usersBySession.lookup id with
  | none =>
    apply local_of_still
    intro other halike
    simp [leaveRoom, requireUserLocked, halike.user, huser]
  | some user =>
    cases hindex : service.roomBySession.lookup id with
    | none =>
      apply local_of_still
      intro other halike
      simp [leaveRoom, requireUserLocked, halike.user, huser, halike.index, hindex]
    | some roomId =>
      have hroom := hcurrent roomId hindex
      cases hfound : service.lobby.rooms.lookup roomId with
      | none =>
        apply local_of_change { index := some none } (by simp) (by simp)
        intro other halike
        simp only [leaveRoom, requireUserLocked, halike.user, huser, halike.index,
          hindex, findRoom, halike.room roomId hroom, hfound, Bool.not_true,
          Bool.false_eq_true, if_false, true_and]
        exact read_unindex other
      | some room =>
        apply local_of_change
          { index := some none,
            room := some (roomId, if (room.leave id).2.members = ∅ then none
              else some (room.leave id).2) }
          (by simp [hroom]) (by simp)
        intro _ halike
        simp only [leaveRoom, requireUserLocked, halike.user, huser, halike.index,
          hindex, findRoom, halike.room roomId hroom, hfound, Bool.not_true,
          Bool.false_eq_true, if_false, true_and]
        exact read_release roomId room

theorem roomOfMember_alike (halike : Alike id rooms counter service other) :
    other.roomOfMember id = service.roomOfMember id := by
  have hrequire : other.requireUserLocked id = service.requireUserLocked id := by
    unfold requireUserLocked
    rw [halike.user]
  unfold roomOfMember
  rw [hrequire, halike.index]
  cases hindex : service.roomBySession.lookup id with
  | none => rfl
  | some roomId =>
    dsimp only [findRoom]
    rw [halike.room roomId (hcurrent roomId hindex)]

theorem local_chat (order : Enumeration) :
    LocalAt read (fun state => state.chat order id) (footprint id rooms counter) service := by
  apply local_of_still
  intro _ halike
  simp only [chat, roomOfMember_alike hcurrent halike]
  split <;> rfl

theorem local_updatePosition (order : Enumeration) (position : PacketCodec.Position) :
    LocalAt read (fun state => state.updatePosition order id position)
      (footprint id rooms counter) service := by
  cases service.roomOfMember_cases id with
  | inl hmember =>
    obtain ⟨roomId, room, user, _, hindex, _, hfound⟩ := hmember
    have hroom := hcurrent roomId hindex
    apply local_of_change
      { room := some (roomId, some (room.setPosition id position)) }
      (by simp [hroom]) (by simp)
    intro other halike
    simp only [updatePosition, roomOfMember_alike hcurrent halike, hfound, true_and]
    intro cell
    cases cell with
    | user | index => exact (ite_self _).symm
    | room changed => exact lookup_setRoom _ _ changed _
    | counter => rfl
  | inr hrefused =>
    obtain ⟨_, hfound, _⟩ := hrefused
    apply local_of_still
    intro _ halike
    simp only [updatePosition, roomOfMember_alike hcurrent halike, hfound]

theorem local_disconnect (order : Enumeration) :
    LocalAt read (fun state => state.disconnect order id) (footprint id rooms counter) service := by
  cases huser : service.usersBySession.lookup id with
  | none =>
    apply local_of_still
    intro other halike
    simp only [disconnect, halike.user, huser]
  | some user =>
    cases hindex : service.roomBySession.lookup id with
    | none =>
      apply local_of_change { user := some none } (by simp) (by simp)
      intro other halike
      simp only [disconnect, halike.user, huser, halike.index, hindex, true_and]
      exact read_forget other
    | some roomId =>
      have hroom := hcurrent roomId hindex
      cases hfound : service.lobby.rooms.lookup roomId with
      | none =>
        apply local_of_change { user := some none, index := some none } (by simp) (by simp)
        intro other halike
        simp only [disconnect, halike.user, huser, halike.index, hindex, findRoom,
          halike.room roomId hroom, hfound, true_and]
        intro cell
        cases cell with
        | user member | index member => exact lookup_erase_ite _ _ member
        | room | counter => rfl
      | some room =>
        apply local_of_change
          { user := some none,
            index := some none,
            room := some (roomId, if (room.leave id).2.members = ∅ then none
              else some (room.leave id).2) }
          (by simp [hroom]) (by simp)
        intro _ halike
        simp only [disconnect, halike.user, huser, halike.index, hindex, findRoom,
          halike.room roomId hroom, hfound, true_and]
        intro cell
        cases cell with
        | user member | index member => exact lookup_erase_ite _ _ member
        | room changed => exact lookup_eraseIfEmpty_setRoom _ _ changed _
        | counter => exact nextRoomId_eraseIfEmpty _ _

end Member

theorem local_createRoom (order : Enumeration) (roomName : Bytes) (hcounter : counter)
    (hroom : service.lobby.nextRoomId ∈ rooms) :
    LocalAt read (fun state => state.createRoom order id roomName)
      (footprint id rooms counter) service := by
  cases hname : normalizeRoomName roomName with
  | none =>
    apply local_of_still
    intro other halike
    simp only [createRoom, hname]
  | some name =>
    cases huser : service.usersBySession.lookup id with
    | none =>
      apply local_of_still
      intro other halike
      simp [createRoom, hname, requireUserLocked, halike.user, huser]
    | some user =>
      have hmember (other : RoomService) (halike : Alike id rooms counter service other) :
          id ∈ other.roomBySession ↔ id ∈ service.roomBySession := by
        rw [← Finmap.lookup_isSome, halike.index, Finmap.lookup_isSome]
      by_cases hin : id ∈ service.roomBySession
      · apply local_of_still
        intro other halike
        simp [createRoom, hname, requireUserLocked, halike.user, huser, hmember other halike, hin]
      · apply local_of_change
          { index := some (some service.lobby.nextRoomId),
            room := some (service.lobby.nextRoomId,
              some ((service.lobby.createRoom name).1.join user)),
            counter := some (service.lobby.nextRoomId + 1) }
          (by simp [hroom]) (by simp [hcounter])
        intro other halike
        have hnext := halike.counter hcounter
        simp only [createRoom, hname, requireUserLocked, halike.user, huser,
          hmember other halike, hin, Bool.not_true, Bool.false_eq_true, if_false,
          Lobby.createRoom, hnext, true_and]
        intro cell
        cases cell with
        | user => exact (ite_self _).symm
        | index member => exact lookup_insert_ite _ _ member _
        | room changed =>
          refine (Lobby.lookup_setRoom _ _ changed _).trans ?_
          by_cases hchanged : changed = service.lobby.nextRoomId
          · exact (if_pos hchanged).trans (if_pos hchanged).symm
          · refine (if_neg hchanged).trans ?_
            refine (Finmap.lookup_insert_of_ne _ hchanged).trans ?_
            exact (if_neg hchanged).symm
        | counter => rfl

end Local

end RoomService

/-! ## Any two calls -/

/-- What a call answers. -/
inductive RoomAnswer
  | login (result : LoginResult)
  | action (result : RoomActionResult)

/-- The same answer, up to the order of the recipients. -/
def RoomAnswer.Same : RoomAnswer → RoomAnswer → Prop
  | .login first, .login second => first = second
  | .action first, .action second =>
    first.recipients.Perm second.recipients ∧
      { first with recipients := [] } = { second with recipients := [] }
  | _, _ => False

theorem RoomAnswer.Same.refl (answer : RoomAnswer) : answer.Same answer := by
  cases answer with
  | login => rfl
  | action => exact ⟨.refl _, rfl⟩

namespace RoomOperation

def sessionId : RoomOperation → SessionId
  | .attachUser id _ => id
  | .act _ id _ => id

/-- The same call, finding the hash maps in another order. -/
def reorder (order : Enumeration) : RoomOperation → RoomOperation
  | .attachUser id record => .attachUser id record
  | .act _ id action => .act order id action

def creates : RoomOperation → Bool
  | .attachUser _ _ => false
  | .act _ _ action => action.creates

/-- The room a call asks to join. -/
def target : RoomOperation → Option RoomId
  | .act _ _ (.joinRoom roomId) => some roomId
  | _ => none

end RoomOperation

namespace RoomService

def perform (service : RoomService) : RoomOperation → RoomAnswer × RoomService
  | .attachUser id record =>
    let (result, after) := service.attachUser id record
    (.login result, after)
  | .act order id action =>
    let (result, after) := service.act order id action
    (.action result, after)

/-- The current room of the caller, and the room it asks to join. -/
def touched (service : RoomService) (operation : RoomOperation) : Set RoomId :=
  {roomId | service.roomBySession.lookup operation.sessionId = some roomId ∨
    operation.target = some roomId}

/-- Two calls of different sessions that have no room in common; one of them
may create a room the other does not ask to join. -/
structure Independent (service : RoomService) (first second : RoomOperation) : Prop where
  sessions : first.sessionId ≠ second.sessionId
  rooms : first.creates = false → second.creates = false →
    Disjoint (service.touched first) (service.touched second)
  single : first.creates = false ∨ second.creates = false
  firstNew : first.creates = true → second.target ≠ some service.lobby.nextRoomId
  secondNew : second.creates = true → first.target ≠ some service.lobby.nextRoomId

variable {service : RoomService} {operation first second : RoomOperation}

theorem local_perform (hcreates : operation.creates = false) :
    LocalAt read (fun state => state.perform operation)
      (footprint operation.sessionId (service.touched operation) False) service := by
  have hcurrent (roomId : RoomId)
      (hindex : service.roomBySession.lookup operation.sessionId = some roomId) :
      roomId ∈ service.touched operation := Or.inl hindex
  cases operation with
  | attachUser _ record => exact (local_attachUser record).map RoomAnswer.login
  | act order _ action =>
    cases action with
    | createRoom => cases hcreates
    | joinRoom => exact (local_joinRoom order (Or.inr rfl)).map RoomAnswer.action
    | leaveRoom => exact (local_leaveRoom hcurrent order).map RoomAnswer.action
    | chat => exact (local_chat hcurrent order).map RoomAnswer.action
    | updatePosition position =>
      exact (local_updatePosition hcurrent order position).map RoomAnswer.action
    | disconnect => exact (local_disconnect hcurrent order).map RoomAnswer.action

theorem local_perform_create (hcreates : operation.creates = true) :
    LocalAt read (fun state => state.perform operation)
      (footprint operation.sessionId {service.lobby.nextRoomId} True) service := by
  cases operation with
  | attachUser => cases hcreates
  | act order id action =>
    cases action with
    | createRoom roomName =>
      have hlocal := @local_createRoom service id {service.lobby.nextRoomId} True
        order roomName trivial rfl
      exact hlocal.map RoomAnswer.action
    | joinRoom | leaveRoom | chat | updatePosition | disconnect => cases hcreates

theorem disjoint_footprint {id other : SessionId} (hsessions : id ≠ other)
    {rooms otherRooms : Set RoomId} (hrooms : Disjoint rooms otherRooms)
    {counter otherCounter : Prop} (hcounter : counter → ¬otherCounter) :
    Disjoint (footprint id rooms counter) (footprint other otherRooms otherCounter) := by
  rw [Set.disjoint_left]
  intro cell hfirst hsecond
  cases cell with
  | user | index => exact hsessions (hfirst.symm.trans hsecond)
  | room => exact Set.disjoint_left.mp hrooms hfirst hsecond
  | counter => exact hcounter hfirst hsecond

/-- Nobody is in a room that does not exist yet. -/
theorem Numbered.notMem_touched {created : ℕ} (hnumbered : service.Numbered created)
    (htarget : operation.target ≠ some service.lobby.nextRoomId) :
    service.lobby.nextRoomId ∉ service.touched operation := by
  intro htouched
  cases htouched with
  | inl hindex =>
    obtain ⟨_, hroom, _⟩ := hnumbered.housed _ _ hindex
    rw [hnumbered.fresh] at hroom
    cases hroom
  | inr hjoin => exact htarget hjoin

/-- Each of two independent calls has a footprint, and the footprints are
disjoint. -/
theorem Independent.footprints {created : ℕ} (hnumbered : service.Numbered created)
    (hindependent : service.Independent first second) :
    ∃ firstCells secondCells : Set RoomCell,
      LocalAt read (fun state => state.perform first) firstCells service ∧
        LocalAt read (fun state => state.perform second) secondCells service ∧
        Disjoint firstCells secondCells := by
  cases hfirst : first.creates with
  | false =>
    cases hsecond : second.creates with
    | false =>
      refine ⟨_, _, local_perform hfirst, local_perform hsecond, ?_⟩
      exact disjoint_footprint hindependent.sessions (hindependent.rooms hfirst hsecond) False.elim
    | true =>
      refine ⟨_, _, local_perform hfirst, local_perform_create hsecond, ?_⟩
      apply disjoint_footprint hindependent.sessions _ False.elim
      rw [Set.disjoint_singleton_right]
      exact hnumbered.notMem_touched (hindependent.secondNew hsecond)
  | true =>
    have hsecond : second.creates = false := by
      cases hindependent.single with
      | inl hnone =>
        rw [hfirst] at hnone
        cases hnone
      | inr hnone => exact hnone
    refine ⟨_, _, local_perform_create hfirst, local_perform hsecond, ?_⟩
    apply disjoint_footprint hindependent.sessions _ (fun _ hcounter => hcounter)
    rw [Set.disjoint_singleton_left]
    exact hnumbered.notMem_touched (hindependent.firstNew hfirst)

/-! ## The order in which hash maps are listed -/

theorem perm_sessionIds (order other : Enumeration) (room : Room) :
    (room.sessionIds order).Perm (room.sessionIds other) := by
  apply (List.perm_ext_iff_of_nodup (order.nodup _) (other.nodup _)).mpr
  intro _
  rw [order.mem_list, other.mem_list]

theorem act_reorder (service : RoomService) (order other : Enumeration)
    (id : SessionId) (action : RoomAction) :
    RoomAnswer.Same (.action (service.act order id action).1)
        (.action (service.act other id action).1) ∧
      (service.act other id action).2 = (service.act order id action).2 := by
  have hperm := perm_sessionIds order other
  cases action with
  | createRoom =>
    simp only [act, createRoom]
    split
    · exact ⟨.refl _, rfl⟩
    · split
      · exact ⟨.refl _, rfl⟩
      · split
        · exact ⟨.refl _, rfl⟩
        · exact ⟨⟨hperm _, rfl⟩, rfl⟩
  | joinRoom =>
    simp only [act, joinRoom]
    split
    · exact ⟨.refl _, rfl⟩
    · split
      · exact ⟨.refl _, rfl⟩
      · split
        · exact ⟨.refl _, rfl⟩
        · exact ⟨⟨hperm _, rfl⟩, rfl⟩
  | leaveRoom =>
    simp only [act, leaveRoom]
    split
    · exact ⟨.refl _, rfl⟩
    · split
      · exact ⟨.refl _, rfl⟩
      · split
        · exact ⟨.refl _, rfl⟩
        · exact ⟨⟨hperm _, rfl⟩, rfl⟩
  | chat =>
    simp only [act, chat]
    split
    · exact ⟨.refl _, rfl⟩
    · exact ⟨⟨hperm _, rfl⟩, rfl⟩
  | updatePosition =>
    simp only [act, updatePosition]
    split
    · exact ⟨.refl _, rfl⟩
    · exact ⟨⟨hperm _, rfl⟩, rfl⟩
  | disconnect =>
    simp only [act, disconnect]
    split
    · exact ⟨.refl _, rfl⟩
    · split
      · exact ⟨.refl _, rfl⟩
      · split
        · exact ⟨.refl _, rfl⟩
        · exact ⟨⟨hperm _, rfl⟩, rfl⟩

theorem perform_reorder (service : RoomService) (order : Enumeration) (operation : RoomOperation) :
    RoomAnswer.Same (service.perform operation).1 (service.perform (operation.reorder order)).1 ∧
      (service.perform (operation.reorder order)).2 = (service.perform operation).2 := by
  cases operation with
  | attachUser => exact ⟨rfl, rfl⟩
  | act former id action => exact service.act_reorder former order id action

end RoomService

/-- Independent calls are served alike in either order: both answers are the
same up to the order of the recipients, and so is the service behind them. -/
theorem RoomRun.operations_commute {run : RoomRun} (hreached : run.Reached)
    (hcreated : run.created < 2 ^ 32 - 1) {first second : RoomOperation}
    (hindependent : run.service.Independent first second) (firstOrder secondOrder : Enumeration) :
    RoomAnswer.Same (run.service.perform first).1
        ((run.service.perform (second.reorder secondOrder)).2.perform
          (first.reorder firstOrder)).1 ∧
      RoomAnswer.Same ((run.service.perform first).2.perform second).1
        (run.service.perform (second.reorder secondOrder)).1 ∧
      ((run.service.perform first).2.perform second).2 =
        ((run.service.perform (second.reorder secondOrder)).2.perform
          (first.reorder firstOrder)).2 := by
  have hnumbered := hreached.sound.numbered hcreated
  obtain ⟨_, _, hfirst, hsecond, hdisjoint⟩ :=
    hindependent.footprints hnumbered
  obtain ⟨hfirstAnswer, hsecondAnswer, hafter⟩ :=
    hfirst.commute (fun _ _ => RoomService.read_ext) hsecond hdisjoint
  obtain ⟨hsecondSame, hsecondAfter⟩ := run.service.perform_reorder secondOrder second
  rw [hsecondAfter]
  obtain ⟨hfirstSame, hfirstAfter⟩ :=
    (run.service.perform second).2.perform_reorder firstOrder first
  refine ⟨?_, ?_, ?_⟩
  · rw [← hfirstAnswer]
    exact hfirstSame
  · rw [hsecondAnswer]
    exact hsecondSame
  · rw [hfirstAfter]
    exact hafter

theorem RoomRun.operations_commute_leave_create :
    (replay (sharedRoom.take 3)).service.roomBySession.lookup 1 = some 1 ∧
      (((replay (sharedRoom.take 3)).service.perform
          (.act .ascending 1 .leaveRoom)).2.perform
            (.act .ascending 2 (.createRoom (ascii "yard")))).2 =
        (((replay (sharedRoom.take 3)).service.perform
          (.act .ascending 2 (.createRoom (ascii "yard")))).2.perform
            (.act .ascending 1 .leaveRoom)).2 := by
  have hcreated : (replay (sharedRoom.take 3)).created = 1 := by decide +kernel
  have hindexed : (replay (sharedRoom.take 3)).service.roomBySession.lookup 1 = some 1 := by
    decide +kernel
  have hindependent : (replay (sharedRoom.take 3)).service.Independent
      (.act .ascending 1 .leaveRoom) (.act .ascending 2 (.createRoom (ascii "yard"))) := by
    constructor
    · decide
    · intro _ hcreates
      cases hcreates
    · exact Or.inl rfl
    · intro hcreates
      cases hcreates
    · intro _ htarget
      cases htarget
  have hcommute := operations_commute (reached_replay (sharedRoom.take 3))
    (by omega) hindependent .ascending .ascending
  exact ⟨hindexed, hcommute.2.2⟩

end SessionServer
