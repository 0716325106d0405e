import SessionServer.RoomServiceRun

/-!
# The numbers of new rooms

A new room gets the counter's value, and the counter is the number of rooms
created so far, plus one, modulo `2 ^ 32`.  Nothing in the lobby looks whether
the number is free: a room that has been there for `2 ^ 32 - 1` creations is
replaced.
-/

namespace SessionServer

open Protocol RoomService Finmap

variable {user : User}

/-! ## The counter -/

theorem RoomEffect.nextRoomId {order : Enumeration} {service after : RoomService}
    {id : SessionId} {action : RoomAction} {result : RoomActionResult}
    (heffect : RoomEffect order service id action result after) :
    after.lobby.nextRoomId =
      if action.creates && result.ok then service.lobby.nextRoomId + 1
      else service.lobby.nextRoomId := by
  cases heffect with
  | rejected _ _ hrejected =>
    rw [hrejected, Bool.and_false]
    rfl
  | created | joined | lost | addressed | moved | gone | goneFromLost => rfl
  | left | goneFrom => exact Lobby.nextRoomId_eraseIfEmpty _ _

theorem RoomService.createRoom_eq (service : RoomService) (order : Enumeration)
    (id : SessionId) {roomName name : Bytes} (hname : normalizeRoomName roomName = some name)
    (huser : service.usersBySession.lookup id = some user)
    (hfree : service.roomBySession.lookup id = none) :
    service.createRoom order id roomName =
      ({ ok := true
         roomId := service.lobby.nextRoomId
         actor := user
         recipients := Room.sessionIds order ((service.lobby.createRoom name).1.join user) },
        enrol { service with lobby := (service.lobby.createRoom name).2 } id
          user service.lobby.nextRoomId (service.lobby.createRoom name).1) := by
  have hout : id ∉ service.roomBySession := lookup_eq_none.mp hfree
  unfold createRoom requireUserLocked
  rw [hname, huser]
  simp only [Bool.not_true, Bool.false_eq_true, if_false, hout]
  rfl

theorem RoomService.leaveRoom_eq (service : RoomService) (order : Enumeration)
    (id : SessionId) {roomId : RoomId} {room : Room}
    (huser : service.usersBySession.lookup id = some user)
    (hmember : service.roomBySession.lookup id = some roomId)
    (hroom : service.lobby.rooms.lookup roomId = some room) :
    (service.leaveRoom order id).2 = service.release id roomId room := by
  unfold leaveRoom requireUserLocked
  rw [huser, hmember]
  simp only [Bool.not_true, Bool.false_eq_true, if_false, Lobby.findRoom, hroom]
  rfl

namespace RoomRun

variable {run : RoomRun}

theorem nextRoomId_attachUser (id : SessionId) (record : UserRecord) :
    (run.attachUser id record).2.service.lobby = run.service.lobby := by
  simp only [attachUser, RoomService.attachUser]
  split <;> rfl

theorem Reached.nextRoomId (hreached : run.Reached) :
    run.service.lobby.nextRoomId.toNat = (run.created + 1) % 2 ^ 32 := by
  apply TransitionSystem.Reaches.invariant hreached
  · rfl
  intro before operation _ hbefore _ hstep
  simp only [Option.some.injEq] at hstep
  rw [← hstep]
  cases operation with
  | attachUser id record =>
    change (before.attachUser id record).2.service.lobby.nextRoomId.toNat = _
    rw [nextRoomId_attachUser]
    exact hbefore
  | act order id action =>
    have heffect := before.service.effect_act order id action
    change (before.service.act order id action).2.lobby.nextRoomId.toNat =
      ((if action.creates && (before.service.act order id action).1.ok then
        before.created + 1 else before.created) + 1) % 2 ^ 32
    rw [heffect.nextRoomId]
    split
    · rw [UInt32.toNat_add, hbefore]
      change (_ + 1) % 2 ^ 32 = _
      omega
    · exact hbefore

/-! ## Fresh rooms -/

/-- Creating the room gives it a number other than zero that no room has, and
leaves all rooms as they are. -/
def FreshRoom (run : RoomRun) (order : Enumeration) (id : SessionId)
    (roomName : Bytes) : Prop :=
  (run.act order id (.createRoom roomName)).1.roomId ≠ 0 ∧
    run.service.lobby.rooms.lookup (run.act order id (.createRoom roomName)).1.roomId = none ∧
    ∀ roomId room, run.service.lobby.rooms.lookup roomId = some room →
      (run.act order id (.createRoom roomName)).2.service.lobby.rooms.lookup roomId = some room

/-- The next number, counted modulo `2 ^ 32`, is not zero and not in use. -/
def FreeNumber (run : RoomRun) : Prop :=
  (run.created + 1) % 2 ^ 32 ≠ 0 ∧
    ∀ roomId room, run.service.lobby.rooms.lookup roomId = some room →
      roomId.toNat ≠ (run.created + 1) % 2 ^ 32

theorem act_createRoom (order : Enumeration) (id : SessionId) (roomName : Bytes)
    (hok : (run.act order id (.createRoom roomName)).1.ok = true) :
    (run.act order id (.createRoom roomName)).1.roomId = run.service.lobby.nextRoomId ∧
      ∀ roomId, roomId ≠ run.service.lobby.nextRoomId →
        (run.act order id (.createRoom roomName)).2.service.lobby.rooms.lookup roomId =
          run.service.lobby.rooms.lookup roomId := by
  have heffect := run.service.effect_act order id (.createRoom roomName)
  simp only [RoomRun.act] at hok ⊢
  generalize (run.service.act order id (.createRoom roomName)).1 = result at *
  generalize (run.service.act order id (.createRoom roomName)).2 = after at *
  cases heffect with
  | rejected _ _ hrejected =>
    rw [hok] at hrejected
    cases hrejected
  | created =>
    refine ⟨rfl, ?_⟩
    intro _ hother
    exact (lookup_insert_of_ne _ hother).trans (lookup_insert_of_ne _ hother)

theorem FreeNumber.ne_nextRoomId (hfree : run.FreeNumber) (hreached : run.Reached)
    {roomId : RoomId} {room : Room} (hroom : run.service.lobby.rooms.lookup roomId = some room) :
    roomId ≠ run.service.lobby.nextRoomId := by
  rintro rfl
  exact hfree.2 _ room hroom hreached.nextRoomId

/-- A successful creation is fresh exactly when the next number is free. -/
theorem freshRoom_iff (hreached : run.Reached) {order : Enumeration} {id : SessionId}
    {roomName : Bytes} (hok : (run.act order id (.createRoom roomName)).1.ok = true) :
    run.FreshRoom order id roomName ↔ run.FreeNumber := by
  obtain ⟨hid, hothers⟩ := act_createRoom order id roomName hok
  have hnext := hreached.nextRoomId
  unfold FreshRoom
  rw [hid]
  constructor
  · rintro ⟨hzero, hnone, _⟩
    constructor
    · intro hwrapped
      rw [← hnext] at hwrapped
      exact hzero (UInt32.toNat_inj.mp hwrapped)
    · intro roomId room hroom hsame
      rw [← hnext] at hsame
      rw [UInt32.toNat_inj.mp hsame, hnone] at hroom
      cases hroom
  · intro hfree
    refine ⟨?_, ?_, ?_⟩
    · intro hzero
      apply hfree.1
      rw [← hnext, hzero]
      rfl
    · by_contra hsome
      obtain ⟨room, hroom⟩ := Option.ne_none_iff_exists'.mp hsome
      exact hfree.ne_nextRoomId hreached hroom rfl
    · intro roomId _ hroom
      rw [hothers roomId (hfree.ne_nextRoomId hreached hroom)]
      exact hroom

theorem freshRoom_iff_sharedRoom :
    ((replay (sharedRoom.take 2)).act .ascending 1 (.createRoom (ascii "hall"))).1.ok = true ∧
      (replay (sharedRoom.take 2)).FreshRoom .ascending 1 (ascii "hall") := by
  have hok : ((replay (sharedRoom.take 2)).act .ascending 1
      (.createRoom (ascii "hall"))).1.ok = true := by
    decide +kernel
  have hempty : (replay (sharedRoom.take 2)).service.lobby.rooms = ∅ := by decide +kernel
  have hcreated : (replay (sharedRoom.take 2)).created = 0 := by decide +kernel
  refine ⟨hok, (freshRoom_iff (reached_replay _) hok).mpr ⟨?_, ?_⟩⟩
  · rw [hcreated]
    decide
  · intro _ _ hroom
    cases hroom

/-! ## A room that is replaced -/

/-- Two users; the first has created a room and stays in it. -/
def hallRun : RoomRun :=
  replay (sharedRoom.take 3)

/-- The counter has moved on, and nothing else has changed. -/
def hallService (nextRoomId : RoomId) : RoomService :=
  { hallRun.service with lobby := { hallRun.service.lobby with nextRoomId } }

theorem hallService_facts :
    hallRun.service.usersBySession.lookup 2 = some ⟨{}, 2, ascii "bob"⟩ ∧
      hallRun.service.roomBySession.lookup 2 = none ∧
      hallRun.service.roomBySession.lookup 1 = some 1 ∧
      hallRun.service.lobby.rooms.keys = {1} ∧
      normalizeRoomName (ascii "attic") = some (ascii "attic") := by
  decide +kernel

theorem erase_insert_of_lookup_eq_none {α β : Type} [DecidableEq α]
    {entries : Finmap fun _ : α => β} {key : α} (value : β) (hnone : entries.lookup key = none) :
    (entries.insert key value).erase key = entries := by
  apply ext_lookup
  intro other
  by_cases hother : other = key
  · rw [hother, lookup_erase, hnone]
  · rw [lookup_erase_ne hother, lookup_insert_of_ne _ hother]

theorem leaveRoom_createRoom {service : RoomService} {order : Enumeration}
    {id : SessionId} {roomName name : Bytes} (hname : normalizeRoomName roomName = some name)
    (huser : service.usersBySession.lookup id = some user) (hown : user.sessionId = id)
    (hfree : service.roomBySession.lookup id = none)
    (hroom : service.lobby.rooms.lookup service.lobby.nextRoomId = none) :
    ((service.createRoom order id roomName).2.leaveRoom order id).2 =
      { service with
        lobby := { service.lobby with nextRoomId := service.lobby.nextRoomId + 1 } } := by
  rw [service.createRoom_eq order id hname huser hfree]
  generalize hentered : enrol { service with lobby := (service.lobby.createRoom name).2 }
    id user service.lobby.nextRoomId (service.lobby.createRoom name).1 = entered
  have hlisted : entered.usersBySession.lookup id = some user := by
    rw [← hentered]
    exact huser
  have hmember : entered.roomBySession.lookup id = some service.lobby.nextRoomId := by
    rw [← hentered]
    exact lookup_insert _
  have hcreated : entered.lobby.rooms.lookup service.lobby.nextRoomId =
      some ((service.lobby.createRoom name).1.join user) := by
    rw [← hentered]
    exact lookup_insert _
  have hempty : (((service.lobby.createRoom name).1.join user).leave id).2.members = ∅ := by
    subst hown
    have hjoined : ((service.lobby.createRoom name).1.join user).members.lookup user.sessionId =
        some user := lookup_insert _
    unfold Room.leave
    rw [hjoined]
    exact erase_insert_of_lookup_eq_none user (lookup_empty _)
  rw [entered.leaveRoom_eq order id hlisted hmember hcreated]
  have hnext : (entered.release id service.lobby.nextRoomId
      ((service.lobby.createRoom name).1.join user)).lobby.nextRoomId =
      service.lobby.nextRoomId + 1 := by
    rw [← hentered]
    exact Lobby.nextRoomId_eraseIfEmpty _ _
  have hrooms : (entered.release id service.lobby.nextRoomId
      ((service.lobby.createRoom name).1.join user)).lobby.rooms = service.lobby.rooms := by
    apply ext_lookup
    intro _
    refine (Lobby.lookup_eraseIfEmpty_setRoom _ _ _ _).trans ?_
    rw [if_pos hempty]
    split
    · next hother =>
      rw [hother, hroom]
    · next hother =>
      rw [← hentered]
      exact (lookup_insert_of_ne _ hother).trans (lookup_insert_of_ne _ hother)
  have hindex : (entered.release id service.lobby.nextRoomId
      ((service.lobby.createRoom name).1.join user)).roomBySession = service.roomBySession := by
    rw [← hentered]
    exact erase_insert_of_lookup_eq_none _ hfree
  have husers : (entered.release id service.lobby.nextRoomId
      ((service.lobby.createRoom name).1.join user)).usersBySession =
      service.usersBySession := by
    rw [← hentered]
    rfl
  generalize entered.release id service.lobby.nextRoomId
    ((service.lobby.createRoom name).1.join user) = after at hnext hrooms hindex husers ⊢
  obtain ⟨⟨_, _⟩, _, _⟩ := after
  subst hnext hrooms hindex husers
  rfl

theorem createAndLeave (run : RoomRun) (nextRoomId : RoomId)
    (hservice : run.service = hallService nextRoomId) (hnext : nextRoomId ≠ 1) :
    ((run.step (.act .ascending 2 (.createRoom (ascii "attic")))).step
      (.act .ascending 2 .leaveRoom)).service = hallService (nextRoomId + 1) := by
  obtain ⟨huser, hfree, _, hkeys, hname⟩ := hallService_facts
  generalize ascii "attic" = roomName at hname ⊢
  change ((run.service.createRoom .ascending 2 roomName).2.leaveRoom .ascending 2).2 = _
  rw [hservice]
  have hnone : hallRun.service.lobby.rooms.lookup nextRoomId = none := by
    rw [lookup_eq_none, ← mem_keys, hkeys, Finset.mem_singleton]
    exact hnext
  exact leaveRoom_createRoom hname huser rfl hfree hnone

theorem reached_hallService (rounds : ℕ) (hrounds : rounds < 2 ^ 32) :
    ∃ run : RoomRun, run.Reached ∧ run.service = hallService (UInt32.ofNat (rounds + 2)) := by
  induction rounds with
  | zero =>
    refine ⟨hallRun, reached_replay _, ?_⟩
    decide +kernel
  | succ rounds ih =>
    obtain ⟨run, hreached, hservice⟩ := ih (by omega)
    refine ⟨_, (hreached.next trivial rfl).next trivial rfl,
      (createAndLeave run _ hservice ?_).trans ?_⟩
    · intro hone
      have hsame : (UInt32.ofNat (rounds + 2)).toNat = 1 := by
        rw [hone]
        rfl
      rw [UInt32.toNat_ofNat'] at hsame
      omega
    · rw [Nat.add_right_comm, UInt32.ofNat_add (rounds + 2)]
      rfl

/-- The room that the second user creates does not list the first. -/
theorem createRoom_hallService {run : RoomRun} {nextRoomId : RoomId}
    (hservice : run.service = hallService nextRoomId) :
    (run.act .ascending 2 (.createRoom (ascii "attic"))).1.ok = true ∧
      (run.act .ascending 2 (.createRoom (ascii "attic"))).1.roomId = nextRoomId ∧
      ∀ room, (run.act .ascending 2
        (.createRoom (ascii "attic"))).2.service.lobby.rooms.lookup nextRoomId = some room →
        1 ∉ room.members := by
  obtain ⟨huser, hfree, _, _, hname⟩ := hallService_facts
  generalize ascii "attic" = roomName at hname ⊢
  change (run.service.createRoom .ascending 2 roomName).1.ok = true ∧
    (run.service.createRoom .ascending 2 roomName).1.roomId = nextRoomId ∧
    ∀ room, (run.service.createRoom .ascending 2 roomName).2.lobby.rooms.lookup
      nextRoomId = some room → 1 ∉ room.members
  have hcreate := (hallService nextRoomId).createRoom_eq .ascending 2 hname huser hfree
  rw [hservice, hcreate]
  refine ⟨rfl, rfl, ?_⟩
  intro _ hroom
  rw [← Option.some.inj ((lookup_insert _).symm.trans hroom)]
  change 1 ∉ (∅ : Finmap fun _ : SessionId => User).insert 2 _
  rw [mem_insert]
  rintro (hsame | hin)
  · cases hsame
  · exact notMem_empty hin

/-- After `2 ^ 32 - 1` creations a new room gets the number zero, and the next
one takes the place of the first room, whose member is in no room then. -/
theorem room_number_reused :
    (∃ run : RoomRun, run.Reached ∧
      (run.act .ascending 2 (.createRoom (ascii "attic"))).1.ok = true ∧
      (run.act .ascending 2 (.createRoom (ascii "attic"))).1.roomId = 0) ∧
    ∃ run : RoomRun, run.Reached ∧
      (∃ room, run.service.lobby.rooms.lookup 1 = some room ∧ 1 ∈ room.members) ∧
      (run.act .ascending 2 (.createRoom (ascii "attic"))).1.ok = true ∧
      (run.act .ascending 2 (.createRoom (ascii "attic"))).1.roomId = 1 ∧
      ∀ room, (run.act .ascending 2
        (.createRoom (ascii "attic"))).2.service.lobby.rooms.lookup 1 = some room →
        1 ∉ room.members := by
  constructor
  · obtain ⟨run, hreached, hservice⟩ := reached_hallService (2 ^ 32 - 2) (by omega)
    have hzero : UInt32.ofNat (2 ^ 32 - 2 + 2) = 0 := by decide
    obtain ⟨hok, hid, _⟩ := createRoom_hallService hservice
    exact ⟨run, hreached, hok, hid⟩
  · obtain ⟨run, hreached, hservice⟩ := reached_hallService (2 ^ 32 - 1) (by omega)
    have hone : UInt32.ofNat (2 ^ 32 - 1 + 2) = 1 := by decide
    refine ⟨run, hreached, ?_, createRoom_hallService hservice⟩
    have hmember : (hallRun.service.lobby.rooms.lookup 1).any
        (fun room => decide (room.members.lookup 1 ≠ none)) = true := by
      decide +kernel
    obtain ⟨room, hroom, hin⟩ := (Option.any_eq_true _ _).mp hmember
    rw [hservice]
    refine ⟨room, hroom, ?_⟩
    by_contra hout
    exact of_decide_eq_true hin (lookup_eq_none.mpr hout)

end RoomRun

end SessionServer
