import SessionServer.FiniteMap
import SessionServer.RoomServiceEffect

/-!
# Membership is consistent

The maps of the room service agree: a session is in the room its index names
and in no other, members are logged in users, rooms are not empty, and only
members have positions.  New rooms get numbers above all existing ones as long
as the 32-bit counter has not wrapped.
-/

namespace SessionServer

open Protocol Finmap FiniteMap RoomService Room Lobby

/-! ## How the maps agree -/

/-- Members are logged in users whose index names the room, rooms are not
empty, and only members have positions. -/
structure RoomService.Anchored (service : RoomService) : Prop where
  own : ∀ id user, service.usersBySession.lookup id = some user → user.sessionId = id
  attached : ∀ id roomId, service.roomBySession.lookup id = some roomId →
    service.usersBySession.lookup id ≠ none
  indexed : ∀ roomId room id, service.lobby.rooms.lookup roomId = some room →
    id ∈ room.members → service.roomBySession.lookup id = some roomId
  recorded : ∀ roomId room id user,
    service.lobby.rooms.lookup roomId = some room →
    room.members.lookup id = some user →
    service.usersBySession.lookup id = some user
  inhabited : ∀ roomId room, service.lobby.rooms.lookup roomId = some room → room.members ≠ ∅
  positioned : ∀ roomId room id, service.lobby.rooms.lookup roomId = some room →
    id ∈ room.positions → id ∈ room.members

/-- The rooms created so far are numbered in order, and every index names a
room that lists the session. -/
structure RoomService.Numbered (service : RoomService) (created : ℕ) : Prop where
  counter : service.lobby.nextRoomId.toNat = created + 1
  below : ∀ roomId room, service.lobby.rooms.lookup roomId = some room → roomId.toNat ≤ created
  housed : ∀ id roomId, service.roomBySession.lookup id = some roomId →
    ∃ room, service.lobby.rooms.lookup roomId = some room ∧ id ∈ room.members

section Lookups

variable (lobby : Lobby) (roomId other : RoomId) (room : Room)
  (id : SessionId)

theorem Lobby.lookup_setRoom :
    (lobby.setRoom roomId room).rooms.lookup other =
      if other = roomId then some room else lobby.rooms.lookup other :=
  lookup_insert_ite _ _ _ _

theorem Lobby.lookup_eraseIfEmpty_setRoom :
    ((lobby.setRoom roomId room).eraseIfEmpty roomId).rooms.lookup other =
      if other = roomId then if room.members = ∅ then none else some room
      else lobby.rooms.lookup other := by
  unfold eraseIfEmpty
  have hself := lobby.lookup_setRoom roomId roomId room
  rw [if_pos rfl] at hself
  simp only [hself, empty, decide_eq_true_eq]
  by_cases hother : other = roomId
  · subst hother
    by_cases hempty : room.members = ∅
    · simp only [hempty, if_true, lookup_erase]
    · simp only [hempty, if_false, if_true, hself]
  · have hset := lobby.lookup_setRoom roomId other room
    by_cases hempty : room.members = ∅
    · simp only [hempty, if_true, hother, if_false, lookup_erase_ne hother]
      rw [hset, if_neg hother]
    · simp only [hempty, if_false, hset, hother]

theorem Lobby.nextRoomId_eraseIfEmpty :
    (lobby.eraseIfEmpty roomId).nextRoomId = lobby.nextRoomId := by
  unfold eraseIfEmpty
  split
  · split <;> rfl
  · rfl

theorem Room.mem_leave {member : SessionId} :
    member ∈ (room.leave id).2.members ↔ member ≠ id ∧ member ∈ room.members := by
  unfold leave
  split
  next hnone =>
    constructor
    · intro hmember
      refine ⟨?_, hmember⟩
      rintro rfl
      exact lookup_eq_none.mp hnone hmember
    · exact And.right
  next =>
    exact mem_erase

theorem Room.lookup_leave {member : SessionId} {user : User}
    (hlookup : (room.leave id).2.members.lookup member = some user) :
    room.members.lookup member = some user := by
  unfold leave at hlookup
  split at hlookup
  · exact hlookup
  · exact (of_lookup_erase hlookup).2

theorem Room.positions_leave {member : SessionId}
    (hpositioned : ∀ other, other ∈ room.positions → other ∈ room.members)
    (hmember : member ∈ (room.leave id).2.positions) :
    member ∈ (room.leave id).2.members := by
  unfold leave at hmember ⊢
  split at hmember
  next _ =>
    exact hpositioned member hmember
  next _ =>
    have hboth := mem_erase.mp hmember
    exact mem_erase.mpr ⟨hboth.1, hpositioned member hboth.2⟩

@[simp] theorem Room.setPosition_members (position : PacketCodec.Position) :
    (room.setPosition id position).members = room.members := by
  unfold setPosition
  split <;> rfl

theorem Room.positions_setPosition {member : SessionId} {position : PacketCodec.Position}
    (hpositioned : ∀ other, other ∈ room.positions → other ∈ room.members)
    (hmember : member ∈ (room.setPosition id position).positions) :
    member ∈ room.members := by
  unfold setPosition at hmember
  split at hmember
  next hin =>
    rcases mem_insert.mp hmember with rfl | hold
    · exact hin
    · exact hpositioned member hold
  next =>
    exact hpositioned member hmember

end Lookups

namespace RoomService

variable {service after : RoomService} {id : SessionId} {user : User}
  {roomId : RoomId} {room : Room} {created : ℕ}

theorem initial_anchored : Anchored {} where
  own := by simp
  attached := by simp
  indexed := by simp
  recorded := by simp
  inhabited := by simp
  positioned := by simp

theorem initial_numbered : Numbered {} 0 where
  counter := rfl
  below := by simp
  housed := by simp

/-! ## Members are anchored -/

theorem Anchored.replace (hanchored : service.Anchored) (replaced : Option Room)
    (hrooms : ∀ other, after.lobby.rooms.lookup other =
      if other = roomId then replaced else service.lobby.rooms.lookup other)
    (husers : after.usersBySession = service.usersBySession)
    (hattached : ∀ member other, after.roomBySession.lookup member = some other →
      service.usersBySession.lookup member ≠ none)
    (hothers : ∀ member other, other ≠ roomId →
      service.roomBySession.lookup member = some other →
      after.roomBySession.lookup member = some other)
    (hindexed : ∀ room member, replaced = some room → member ∈ room.members →
      after.roomBySession.lookup member = some roomId)
    (hrecorded : ∀ room member user, replaced = some room →
      room.members.lookup member = some user →
      service.usersBySession.lookup member = some user)
    (hinhabited : ∀ room, replaced = some room → room.members ≠ ∅)
    (hpositioned : ∀ room member, replaced = some room → member ∈ room.positions →
      member ∈ room.members) :
    after.Anchored where
  own := by
    rw [husers]
    exact hanchored.own
  attached := by
    rw [husers]
    exact hattached
  indexed other found member hfound hmember := by
    rw [hrooms] at hfound
    split at hfound
    next hother =>
      rw [hother]
      exact hindexed found member hfound hmember
    next hother =>
      exact hothers member other hother (hanchored.indexed other found member hfound hmember)
  recorded other found member user hfound hlookup := by
    rw [hrooms] at hfound
    rw [husers]
    split at hfound
    · exact hrecorded found member user hfound hlookup
    · exact hanchored.recorded other found member user hfound hlookup
  inhabited other found hfound := by
    rw [hrooms] at hfound
    split at hfound
    · exact hinhabited found hfound
    · exact hanchored.inhabited other found hfound
  positioned other found member hfound hmember := by
    rw [hrooms] at hfound
    split at hfound
    · exact hpositioned found member hfound hmember
    · exact hanchored.positioned other found member hfound hmember

/-- A room that may be entered: one of the lobby, or a new one. -/
structure Enterable (service : RoomService) (roomId : RoomId) (room : Room) : Prop where
  indexed : ∀ member, member ∈ room.members → service.roomBySession.lookup member = some roomId
  recorded : ∀ member user, room.members.lookup member = some user →
    service.usersBySession.lookup member = some user
  positioned : ∀ member, member ∈ room.positions → member ∈ room.members

theorem Anchored.enterable (hanchored : service.Anchored)
    (hroom : service.lobby.rooms.lookup roomId = some room) :
    service.Enterable roomId room where
  indexed member hmember := hanchored.indexed roomId room member hroom hmember
  recorded member user hlookup := hanchored.recorded roomId room member user hroom hlookup
  positioned member hmember := hanchored.positioned roomId room member hroom hmember

theorem enterable_new (name : Bytes) : service.Enterable roomId { id := roomId, name := name } where
  indexed member hmember := (notMem_empty hmember).elim
  recorded := by simp
  positioned member hmember := (notMem_empty hmember).elim

section Anchored

variable (hanchored : service.Anchored)
include hanchored

theorem Anchored.enrol (huser : service.usersBySession.lookup id = some user)
    (hfree : service.roomBySession.lookup id = none) (henterable : service.Enterable roomId room)
    (hrooms : ∀ other, after.lobby.rooms.lookup other =
      if other = roomId then some (room.join user) else service.lobby.rooms.lookup other)
    (husers : after.usersBySession = service.usersBySession)
    (hindex : after.roomBySession = service.roomBySession.insert id roomId) :
    after.Anchored := by
  have hown := hanchored.own id user huser
  apply hanchored.replace (some (room.join user)) hrooms husers
  · intro member other hlookup
    rw [hindex] at hlookup
    rcases of_lookup_insert hlookup with ⟨hself, _⟩ | ⟨_, hbefore⟩
    · rw [hself, huser]
      exact Option.some_ne_none user
    · exact hanchored.attached member other hbefore
  · intro member _ _ hlookup
    have hself : member ≠ id := by
      rintro rfl
      simp [hfree] at hlookup
    rw [hindex, lookup_insert_ite, if_neg hself]
    exact hlookup
  · rintro _ member ⟨rfl⟩ hmember
    rw [hindex, lookup_insert_ite]
    split
    next => rfl
    next hself =>
      simp only [join, mem_insert, hown] at hmember
      exact henterable.indexed member (hmember.resolve_left hself)
  · rintro _ member found ⟨rfl⟩ hfound
    simp only [join, hown] at hfound
    rcases of_lookup_insert hfound with ⟨rfl, rfl⟩ | ⟨_, hbefore⟩
    · exact huser
    · exact henterable.recorded member found hbefore
  · rintro _ ⟨rfl⟩ hempty
    have hmem : user.sessionId ∈ (room.join user).members := mem_insert.mpr (.inl rfl)
    rw [hempty] at hmem
    exact notMem_empty hmem
  · rintro _ member ⟨rfl⟩ hmember
    exact mem_insert.mpr (.inr (henterable.positioned member hmember))

theorem Anchored.release (hmember : service.roomBySession.lookup id = some roomId)
    (hroom : service.lobby.rooms.lookup roomId = some room) :
    (service.release id roomId room).Anchored := by
  have henterable := hanchored.enterable hroom
  have hlookup (member : SessionId) :
      (service.release id roomId room).roomBySession.lookup member =
        if member = id then none else service.roomBySession.lookup member :=
    lookup_erase_ite service.roomBySession id member
  -- the room stays unless its last member left
  have hstays (found : Room)
      (hfound : (if (room.leave id).2.members = ∅ then none
        else some (room.leave id).2) = some found) :
      (room.leave id).2 = found ∧ found.members ≠ ∅ := by
    split at hfound
    · simp at hfound
    next hne =>
      cases hfound
      exact ⟨rfl, hne⟩
  apply hanchored.replace
  · intro other
    exact service.lobby.lookup_eraseIfEmpty_setRoom roomId other _
  · rfl
  · intro member other hindexed
    rw [hlookup] at hindexed
    split at hindexed
    · simp at hindexed
    · exact hanchored.attached member other hindexed
  · intro member _ hother hindexed
    have hself : member ≠ id := by
      rintro rfl
      rw [hmember, Option.some.injEq] at hindexed
      exact hother hindexed.symm
    rw [hlookup, if_neg hself]
    exact hindexed
  · intro found member hfound hin
    rw [← (hstays found hfound).1] at hin
    have hleave := (room.mem_leave id).mp hin
    rw [hlookup, if_neg hleave.1]
    exact henterable.indexed member hleave.2
  · intro found member user hfound hin
    rw [← (hstays found hfound).1] at hin
    exact henterable.recorded member user (room.lookup_leave id hin)
  · intro found hfound
    exact (hstays found hfound).2
  · intro found _ hfound hin
    rw [← (hstays found hfound).1] at hin ⊢
    exact room.positions_leave id henterable.positioned hin

theorem Anchored.move (hroom : service.lobby.rooms.lookup roomId = some room)
    (position : PacketCodec.Position) :
    Anchored { service with
      lobby := service.lobby.setRoom roomId (room.setPosition id position) } := by
  have henterable := hanchored.enterable hroom
  apply hanchored.replace (some (room.setPosition id position))
  · intro other
    exact service.lobby.lookup_setRoom roomId other _
  · rfl
  · exact hanchored.attached
  · intro member _ _ hindexed
    exact hindexed
  · rintro _ member ⟨rfl⟩ hin
    rw [setPosition_members] at hin
    exact henterable.indexed member hin
  · rintro _ member found ⟨rfl⟩ hfound
    rw [setPosition_members] at hfound
    exact henterable.recorded member found hfound
  · rintro _ ⟨rfl⟩
    rw [setPosition_members]
    exact hanchored.inhabited roomId room hroom
  · rintro _ _ ⟨rfl⟩ hin
    rw [setPosition_members]
    exact room.positions_setPosition id henterable.positioned hin

theorem Anchored.unindex (hmember : service.roomBySession.lookup id = some roomId)
    (hroom : service.lobby.rooms.lookup roomId = none) :
    Anchored { service with
      roomBySession := service.roomBySession.erase id } where
  own := hanchored.own
  recorded := hanchored.recorded
  inhabited := hanchored.inhabited
  positioned := hanchored.positioned
  attached member other hindexed := by
    exact hanchored.attached member other (of_lookup_erase hindexed).2
  indexed other found member hfound hin := by
    have hindexed := hanchored.indexed other found member hfound hin
    have hself : member ≠ id := by
      rintro rfl
      rw [hmember, Option.some.injEq] at hindexed
      rw [hindexed, hfound] at hroom
      simp at hroom
    rw [lookup_erase_ite, if_neg hself]
    exact hindexed

theorem Anchored.forget (hfree : service.roomBySession.lookup id = none) :
    (service.forget id).Anchored := by
  have hkept (member : SessionId) (other : RoomId)
      (hindexed : service.roomBySession.lookup member = some other) :
      (service.forget id).usersBySession.lookup member = service.usersBySession.lookup member := by
    apply lookup_erase_ne
    rintro rfl
    simp [hfree] at hindexed
  refine ⟨?_, ?_, hanchored.indexed, ?_, hanchored.inhabited, hanchored.positioned⟩
  · intro member user hlookup
    exact hanchored.own member user (of_lookup_erase hlookup).2
  · intro member other hindexed
    rw [hkept member other hindexed]
    exact hanchored.attached member other hindexed
  · intro other found member user hfound hlookup
    have hin : member ∈ found.members := mem_of_lookup_eq_some hlookup
    rw [hkept member other (hanchored.indexed other found member hfound hin)]
    exact hanchored.recorded other found member user hfound hlookup

theorem Anchored.attachUser (record : UserRecord) : (service.attachUser id record).2.Anchored := by
  unfold RoomService.attachUser
  split
  next => exact hanchored
  next hnone =>
    have hkept (member : SessionId)
        (hattached : service.usersBySession.lookup member ≠ none) (user : User) :
        (service.usersBySession.insert id user).lookup member =
          service.usersBySession.lookup member := by
      apply lookup_insert_of_ne
      rintro rfl
      exact hattached hnone
    refine ⟨?_, ?_, hanchored.indexed, ?_, hanchored.inhabited, hanchored.positioned⟩
    · intro member user hlookup
      rcases of_lookup_insert hlookup with ⟨rfl, rfl⟩ | ⟨_, hbefore⟩
      · rfl
      · exact hanchored.own member user hbefore
    · intro member other hindexed
      have hattached := hanchored.attached member other hindexed
      rw [hkept member hattached]
      exact hattached
    · intro other found member user hfound hlookup
      have hrecorded := hanchored.recorded other found member user hfound hlookup
      rw [hkept member (by simp [hrecorded])]
      exact hrecorded

end Anchored

theorem lookup_created (name : Bytes) (other : RoomId) :
    (enrol { service with lobby := (service.lobby.createRoom name).2 }
      id user service.lobby.nextRoomId
      (service.lobby.createRoom name).1).lobby.rooms.lookup other =
      if other = service.lobby.nextRoomId then
        some ((service.lobby.createRoom name).1.join user)
      else service.lobby.rooms.lookup other := by
  unfold enrol
  rw [lookup_setRoom]
  split
  next => rfl
  next hother => exact lookup_insert_of_ne _ hother

/-- Every operation keeps the members anchored, even when the room numbers
wrap around. -/
theorem Anchored.act (hanchored : service.Anchored) (order : Enumeration)
    (action : RoomAction) : (service.act order id action).2.Anchored := by
  have heffect := service.effect_act order id action
  generalize (service.act order id action).1 = result at heffect
  generalize (service.act order id action).2 = after at heffect ⊢
  cases heffect with
  | rejected | addressed => exact hanchored
  | created _ name _ _ huser hfree =>
    exact hanchored.enrol huser hfree (enterable_new name) (lookup_created name) rfl rfl
  | joined roomId _ _ huser hfree hroom =>
    apply hanchored.enrol huser hfree (hanchored.enterable hroom)
    · intro other
      exact service.lobby.lookup_setRoom roomId other _
    · rfl
    · rfl
  | left _ _ _ _ hmember hroom => exact hanchored.release hmember hroom
  | lost _ _ _ hmember hroom => exact hanchored.unindex hmember hroom
  | moved _ _ _ position _ _ hroom =>
    exact hanchored.move hroom position
  | gone _ _ hfree => exact hanchored.forget hfree
  | goneFrom _ _ _ _ hmember hroom =>
    apply (hanchored.release hmember hroom).forget
    exact lookup_erase _ _
  | goneFromLost _ _ _ hmember hroom =>
    apply (hanchored.unindex hmember hroom).forget
    exact lookup_erase _ _

/-! ## Room numbers do not repeat -/

section Replace

variable (hnumbered : service.Numbered created)
    (hroom : service.lobby.rooms.lookup roomId = some room)
include hnumbered hroom

/-- One room changes or goes, and whoever is indexed is still housed. -/
theorem Numbered.replace (replaced : Option Room)
    (hnext : after.lobby.nextRoomId = service.lobby.nextRoomId)
    (hrooms : ∀ other, after.lobby.rooms.lookup other =
      if other = roomId then replaced else service.lobby.rooms.lookup other)
    (hindexed : ∀ member other, after.roomBySession.lookup member = some other →
      if other = roomId then ∃ room, replaced = some room ∧ member ∈ room.members
      else service.roomBySession.lookup member = some other) :
    after.Numbered created where
  counter := by rw [hnext, hnumbered.counter]
  below other found hfound := by
    rw [hrooms] at hfound
    split at hfound
    next hself =>
      rw [hself]
      exact hnumbered.below roomId room hroom
    next =>
      exact hnumbered.below other found hfound
  housed member other hlookup := by
    have hcase := hindexed member other hlookup
    rw [hrooms]
    split
    next hself =>
      rwa [if_pos hself] at hcase
    next hself =>
      rw [if_neg hself] at hcase
      exact hnumbered.housed member other hcase

/-- Whoever is indexed to a room of the lobby is one of its members. -/
theorem Numbered.member (hindexed : service.roomBySession.lookup id = some roomId) :
    id ∈ room.members := by
  obtain ⟨_, hfound, hin⟩ := hnumbered.housed id roomId hindexed
  rw [hroom, Option.some.injEq] at hfound
  rw [hfound]
  exact hin

theorem Numbered.join (hown : user.sessionId = id) :
    (service.enrol id user roomId room).Numbered created := by
  apply hnumbered.replace hroom (some (room.join user))
  · rfl
  · intro other
    exact service.lobby.lookup_setRoom roomId other _
  · intro member _ hlookup
    rcases of_lookup_insert hlookup with ⟨hself, hhere⟩ | ⟨_, hbefore⟩
    · rw [if_pos hhere]
      refine ⟨_, rfl, mem_insert.mpr (.inl ?_)⟩
      rw [hself, hown]
    · split
      next hother =>
        rw [hother] at hbefore
        exact ⟨_, rfl, mem_insert.mpr (.inr (hnumbered.member hroom hbefore))⟩
      next => exact hbefore

theorem Numbered.release : (service.release id roomId room).Numbered created := by
  apply hnumbered.replace hroom
    (if (room.leave id).2.members = ∅ then none else some (room.leave id).2)
  · exact nextRoomId_eraseIfEmpty _ _
  · intro other
    exact service.lobby.lookup_eraseIfEmpty_setRoom roomId other _
  · intro member _ hlookup
    obtain ⟨hself, hbefore⟩ := of_lookup_erase hlookup
    split
    next hother =>
      rw [hother] at hbefore
      have hin := (room.mem_leave id).mpr ⟨hself, hnumbered.member hroom hbefore⟩
      have hne : (room.leave id).2.members ≠ ∅ := by
        intro hempty
        rw [hempty] at hin
        exact notMem_empty hin
      exact ⟨_, if_neg hne, hin⟩
    next => exact hbefore

theorem Numbered.move (position : PacketCodec.Position) :
    Numbered { service with
      lobby := service.lobby.setRoom roomId (room.setPosition id position) }
      created := by
  apply hnumbered.replace hroom (some (room.setPosition id position))
  · rfl
  · intro other
    exact service.lobby.lookup_setRoom roomId other _
  · intro member _ hlookup
    split
    next hother =>
      refine ⟨_, rfl, ?_⟩
      rw [hother] at hlookup
      rw [setPosition_members]
      exact hnumbered.member hroom hlookup
    next => exact hlookup

end Replace

variable (hnumbered : service.Numbered created)
include hnumbered

theorem Numbered.fresh : service.lobby.rooms.lookup service.lobby.nextRoomId = none := by
  cases hroom : service.lobby.rooms.lookup service.lobby.nextRoomId with
  | none => rfl
  | some room =>
    have hbelow := hnumbered.below _ room hroom
    have hcounter := hnumbered.counter
    omega

theorem Numbered.create (name : Bytes)
    (hown : user.sessionId = id) (hcreated : created + 1 < 2 ^ 32 - 1) :
    (enrol { service with lobby := (service.lobby.createRoom name).2 }
      id user service.lobby.nextRoomId
      (service.lobby.createRoom name).1).Numbered (created + 1) where
  counter := by
    have hcounter := hnumbered.counter
    change (service.lobby.nextRoomId + 1).toNat = created + 1 + 1
    rw [UInt32.toNat_add, hcounter]
    have hone : (1 : UInt32).toNat = 1 := rfl
    omega
  below other found hfound := by
    rw [lookup_created] at hfound
    split at hfound
    next hother =>
      rw [hother, hnumbered.counter]
    next =>
      have hbelow := hnumbered.below other found hfound
      omega
  housed member other hlookup := by
    rw [lookup_created]
    rcases of_lookup_insert hlookup with ⟨hself, hhere⟩ | ⟨_, hbefore⟩
    · rw [if_pos hhere]
      refine ⟨_, rfl, mem_insert.mpr (.inl ?_)⟩
      rw [hself, hown]
    · -- the new number was not in use
      obtain ⟨found, hfound, hin⟩ := hnumbered.housed member other hbefore
      have hother : other ≠ service.lobby.nextRoomId := by
        rintro rfl
        simp [hnumbered.fresh] at hfound
      rw [if_neg hother]
      exact ⟨found, hfound, hin⟩

theorem Numbered.attachUser (record : UserRecord) :
    (service.attachUser id record).2.Numbered created := by
  unfold RoomService.attachUser
  split <;> exact ⟨hnumbered.counter, hnumbered.below, hnumbered.housed⟩

theorem Numbered.forget : (service.forget id).Numbered created :=
  ⟨hnumbered.counter, hnumbered.below, hnumbered.housed⟩

end RoomService

end SessionServer
