import SessionServer.RoomServiceInvariant
import SessionServer.TransitionSystem

/-!
# Runs of the room service

Any sequence of calls, with arbitrary arguments, from the empty service.  The
number of rooms created is carried along, since room numbers are 32 bits wide.
-/

namespace SessionServer

open RoomService

/-- A service together with the number of rooms created in it. -/
structure RoomRun where
  service : RoomService := {}
  created : ℕ := 0

def RoomAction.creates : RoomAction → Bool
  | .createRoom _ => true
  | _ => false

namespace RoomRun

def attachUser (run : RoomRun) (id : SessionId) (record : UserRecord) :
    LoginResult × RoomRun :=
  let (result, service) := run.service.attachUser id record
  (result, { run with service := service })

def act (order : Enumeration) (run : RoomRun) (id : SessionId)
    (action : RoomAction) : RoomActionResult × RoomRun :=
  let (result, service) := run.service.act order id action
  (result, ⟨service, if action.creates && result.ok then run.created + 1 else run.created⟩)

/-- The numbering holds unless the room numbers ran out. -/
structure Sound (run : RoomRun) : Prop where
  anchored : run.service.Anchored
  numbered : run.created < 2 ^ 32 - 1 → run.service.Numbered run.created

variable {run : RoomRun}

theorem initial_sound : Sound {} where
  anchored := initial_anchored
  numbered _ := initial_numbered

theorem Sound.attachUser (hsound : run.Sound) (id : SessionId)
    (record : UserRecord) : (run.attachUser id record).2.Sound where
  anchored := hsound.anchored.attachUser record
  numbered hcreated := (hsound.numbered hcreated).attachUser record

theorem created_le (order : Enumeration) (id : SessionId) (action : RoomAction) :
    run.created ≤ (run.act order id action).2.created := by
  simp only [act]
  split
  · exact Nat.le_succ _
  · exact le_rfl

theorem Sound.act (hsound : run.Sound) (order : Enumeration) (id : SessionId)
    (action : RoomAction) : (run.act order id action).2.Sound := by
  refine ⟨hsound.anchored.act order action, ?_⟩
  intro hcreated
  have hbefore := Nat.lt_of_le_of_lt (created_le order id action) hcreated
  have hnumbered := hsound.numbered hbefore
  have hown := hsound.anchored.own
  have heffect := run.service.effect_act order id action
  simp only [RoomRun.act] at hcreated ⊢
  generalize (run.service.act order id action).1 = result at *
  generalize (run.service.act order id action).2 = after at *
  cases heffect with
  | rejected _ _ hrejected =>
    simp only [hrejected, Bool.and_false, Bool.false_eq_true, if_false]
    exact hnumbered
  | created _ name user _ huser =>
    exact hnumbered.create name (hown id user huser) hcreated
  | joined _ _ user huser _ hroom =>
    exact hnumbered.join hroom (hown id user huser)
  | left _ _ _ _ _ hroom => exact hnumbered.release hroom
  | lost roomId _ _ hmember hroom =>
    obtain ⟨room, hfound, _⟩ := hnumbered.housed id roomId hmember
    simp [hfound] at hroom
  | addressed => exact hnumbered
  | moved _ _ _ position _ _ hroom => exact hnumbered.move hroom position
  | gone => exact hnumbered.forget
  | goneFrom _ _ _ _ _ hroom => exact (hnumbered.release hroom).forget
  | goneFromLost roomId _ _ hmember hroom =>
    obtain ⟨_, hfound, _⟩ := hnumbered.housed id roomId hmember
    simp [hfound] at hroom

end RoomRun

theorem RoomRun.Sound.act_refused {run : RoomRun} (hsound : run.Sound)
    (hcreated : run.created < 2 ^ 32 - 1) (order : Enumeration) (id : SessionId)
    (action : RoomAction) (hrefused : (run.act order id action).1.ok = false) :
    (run.act order id action).2 = run := by
  have hnumbered := hsound.numbered hcreated
  have heffect := run.service.effect_act order id action
  simp only [RoomRun.act] at hrefused ⊢
  rw [hrefused, Bool.and_false]
  generalize (run.service.act order id action).1 = result at *
  generalize (run.service.act order id action).2 = after at *
  cases heffect with
  | rejected => rfl
  | lost roomId _ _ hmember hroom =>
    obtain ⟨_, hfound, _⟩ := hnumbered.housed id roomId hmember
    simp [hfound] at hroom
  | created | joined | left | addressed | moved | gone | goneFrom | goneFromLost =>
    simp at hrefused

theorem RoomRun.attachUser_refused (run : RoomRun) (id : SessionId)
    (record : UserRecord) (hrefused : (run.attachUser id record).1.ok = false) :
    (run.attachUser id record).2 = run := by
  simp only [RoomRun.attachUser, RoomService.attachUser] at hrefused ⊢
  split at hrefused
  · rfl
  · simp at hrefused

/-- A call that is served names the user of the session. -/
theorem RoomRun.act_actor {run : RoomRun} {order : Enumeration} {id : SessionId}
    {action : RoomAction} (hserved : (run.act order id action).1.ok = true) :
    run.service.usersBySession.lookup id = some (run.act order id action).1.actor := by
  have heffect := run.service.effect_act order id action
  simp only [RoomRun.act] at hserved ⊢
  generalize (run.service.act order id action).1 = result at *
  generalize (run.service.act order id action).2 = after at *
  cases heffect with
  | rejected _ _ hrejected => simp [hrejected] at hserved
  | lost => simp at hserved
  | created _ _ _ _ huser | joined _ _ _ huser | left _ _ _ huser | addressed _ _ _ huser
  | moved _ _ _ _ huser | gone _ huser | goneFrom _ _ _ huser | goneFromLost _ _ huser =>
    exact huser

theorem RoomService.users_act_subset (service : RoomService) (order : Enumeration)
    (id : SessionId) (action : RoomAction) {other : SessionId} {user : User}
    (hlookup : (service.act order id action).2.usersBySession.lookup other = some user) :
    service.usersBySession.lookup other = some user := by
  by_cases hother : other = id
  · subst hother
    have heffect := service.effect_act order other action
    generalize (service.act order other action).1 = result at *
    generalize (service.act order other action).2 = after at *
    cases heffect with
    | rejected | created | joined | left | lost | addressed | moved => exact hlookup
    | gone | goneFrom | goneFromLost =>
      simp only [forget, Finmap.lookup_erase, reduceCtorEq] at hlookup
  · rwa [service.lookup_users_act order id action hother] at hlookup

/-- A call of the service; each call finds the hash maps in some order. -/
inductive RoomOperation
  | attachUser (id : SessionId) (record : UserRecord)
  | act (order : Enumeration) (id : SessionId) (action : RoomAction)

def RoomRun.step (run : RoomRun) : RoomOperation → RoomRun
  | .attachUser id record => (run.attachUser id record).2
  | .act order id action => (run.act order id action).2

/-- The states any sequence of calls leads to. -/
def RoomRun.Reached (run : RoomRun) : Prop :=
  TransitionSystem.Reaches (fun before operation => some (RoomRun.step before operation))
    (fun _ _ => True) {} run

def RoomRun.replay (operations : List RoomOperation) : RoomRun :=
  operations.foldl RoomRun.step {}

theorem RoomRun.reached_replay (operations : List RoomOperation) :
    (RoomRun.replay operations).Reached := by
  have hfold : ∀ run : RoomRun, run.Reached → (operations.foldl RoomRun.step run).Reached := by
    induction operations with
    | nil => exact fun _ hreached => hreached
    | cons _ _ ih =>
      intro _ hreached
      exact ih _ (hreached.next trivial rfl)
  exact hfold {} .start

theorem RoomRun.Reached.sound {run : RoomRun} (hreached : run.Reached) : run.Sound := by
  apply TransitionSystem.Reaches.invariant hreached RoomRun.initial_sound
  intro _ operation _ hsound _ hstep
  simp only [Option.some.injEq] at hstep
  rw [← hstep]
  cases operation with
  | attachUser id record => exact hsound.attachUser id record
  | act order id action => exact hsound.act order id action

theorem RoomService.Anchored.room_unique {service : RoomService}
    (hanchored : service.Anchored) {id : SessionId} {first second : RoomId}
    {firstRoom secondRoom : Room} (hfirst : service.lobby.rooms.lookup first = some firstRoom)
    (hsecond : service.lobby.rooms.lookup second = some secondRoom)
    (hinFirst : id ∈ firstRoom.members)
    (hinSecond : id ∈ secondRoom.members) : first = second := by
  have hindexed := hanchored.indexed first firstRoom id hfirst hinFirst
  have hother := hanchored.indexed second secondRoom id hsecond hinSecond
  rw [hindexed] at hother
  exact Option.some.inj hother

/-- A session finds the room its index names, so only a request to join a room
that does not exist is told so. -/
theorem RoomService.Numbered.room_found {service : RoomService} {created : ℕ}
    (hnumbered : service.Numbered created) (order : Enumeration) (id : SessionId)
    (action : RoomAction) (hjoin : ∀ roomId, action ≠ .joinRoom roomId) :
    (service.act order id action).1.error ≠ "room not found" := by
  have hindexed (roomId : RoomId)
      (hmember : service.roomBySession.lookup id = some roomId) :
      service.lobby.rooms.lookup roomId ≠ none := by
    obtain ⟨_, hroom, _⟩ := hnumbered.housed id roomId hmember
    simp [hroom]
  have heffect := service.effect_act order id action
  generalize (service.act order id action).1 = result at *
  generalize (service.act order id action).2 = after at *
  cases heffect with
  | rejected _ _ _ herror =>
    rcases herror with hne | ⟨roomId, hroom, haction | hmember⟩
    · exact hne
    · exact (hjoin roomId haction).elim
    · exact (hindexed roomId hmember hroom).elim
  | lost roomId _ _ hmember hroom => exact (hindexed roomId hmember hroom).elim
  | created | joined | left | addressed | moved | gone | goneFrom | goneFromLost => simp

/-- The membership invariant of the service. -/
theorem RoomRun.membership {run : RoomRun} (hreached : run.Reached)
    (hcreated : run.created < 2 ^ 32 - 1) :
    (∀ id roomId, run.service.roomBySession.lookup id = some roomId ↔
      ∃ room, run.service.lobby.rooms.lookup roomId = some room ∧ id ∈ room.members) ∧
    (∀ id first second firstRoom secondRoom,
      run.service.lobby.rooms.lookup first = some firstRoom →
      run.service.lobby.rooms.lookup second = some secondRoom →
      id ∈ firstRoom.members → id ∈ secondRoom.members → first = second) ∧
    (∀ roomId room, run.service.lobby.rooms.lookup roomId = some room →
      room.members ≠ ∅ ∧
      (∀ id user, room.members.lookup id = some user →
        run.service.usersBySession.lookup id = some user) ∧
      (∀ id, id ∈ room.positions → id ∈ room.members)) ∧
    (∀ order id position,
      (run.service.leaveRoom order id).1.error ≠ "room not found" ∧
      (run.service.chat order id).1.error ≠ "room not found" ∧
      (run.service.updatePosition order id position).1.error ≠ "room not found") := by
  have hsound := hreached.sound
  have hanchored := hsound.anchored
  have hnumbered := hsound.numbered hcreated
  refine ⟨?_, ?_, ?_, ?_⟩
  · intro id roomId
    constructor
    · exact hnumbered.housed id roomId
    · rintro ⟨room, hroom, hin⟩
      exact hanchored.indexed roomId room id hroom hin
  · intro id _ _ _ _ hfirst hsecond hinFirst hinSecond
    exact hanchored.room_unique hfirst hsecond hinFirst hinSecond
  · intro roomId room hroom
    refine ⟨hanchored.inhabited roomId room hroom, ?_, ?_⟩
    · intro id user
      exact hanchored.recorded roomId room id user hroom
    · intro id
      exact hanchored.positioned roomId room id hroom
  · intro order id position
    refine ⟨?_, ?_, ?_⟩
    · exact hnumbered.room_found order id .leaveRoom (by simp)
    · exact hnumbered.room_found order id .chat (by simp)
    · exact hnumbered.room_found order id (.updatePosition position) (by simp)

/-- Two sessions log in, the second joins the room of the first and moves, and
the first disconnects. -/
def RoomRun.sharedRoom : List RoomOperation :=
  [ .attachUser 1 ⟨.zero, ascii "ann", ascii "ann"⟩,
    .attachUser 2 ⟨.zero, ascii "bob", ascii "bob"⟩,
    .act .ascending 1 (.createRoom (ascii "hall")),
    .act .ascending 2 (.joinRoom 1),
    .act .ascending 2 (.updatePosition ⟨0, 0⟩),
    .act .ascending 1 .disconnect ]

theorem RoomRun.membership_sharedRoom :
    (RoomRun.replay RoomRun.sharedRoom).created = 1 ∧
    (RoomRun.replay RoomRun.sharedRoom).service.roomBySession.lookup 2 = some 1 ∧
    ∃ room, (RoomRun.replay RoomRun.sharedRoom).service.lobby.rooms.lookup 1 = some room ∧
      2 ∈ room.members := by
  have hcreated : (RoomRun.replay RoomRun.sharedRoom).created = 1 := by decide +kernel
  have hindexed : (RoomRun.replay RoomRun.sharedRoom).service.roomBySession.lookup 2 =
      some 1 := by decide +kernel
  have hmembership := RoomRun.membership (RoomRun.reached_replay RoomRun.sharedRoom)
    (by rw [hcreated]; decide)
  exact ⟨hcreated, hindexed, (hmembership.1 2 1).mp hindexed⟩

/-! ## Who is told -/

theorem RoomRun.Sound.mem_sessionIds {run : RoomRun} (hsound : run.Sound)
    (hcreated : run.created < 2 ^ 32 - 1) (order : Enumeration) (roomId : RoomId) (room : Room)
    (hroom : run.service.lobby.rooms.lookup roomId = some room) (member : SessionId) :
    member ∈ room.sessionIds order ↔ run.service.roomBySession.lookup member = some roomId := by
  rw [Room.sessionIds, order.mem_list, Finmap.mem_keys]
  constructor
  · exact hsound.anchored.indexed roomId room member hroom
  · intro hindex
    obtain ⟨_, hfound, hin⟩ := (hsound.numbered hcreated).housed member roomId hindex
    rw [hroom, Option.some.injEq] at hfound
    rwa [hfound]

/-- A call that is served names, each once, the sessions that share the room of
the caller before the call or after it. -/
theorem RoomRun.recipients_share_room {run : RoomRun} (hreached : run.Reached)
    (order : Enumeration) (id : SessionId) (action : RoomAction)
    (hcreated : (run.act order id action).2.created < 2 ^ 32 - 1)
    (hserved : (run.act order id action).1.ok = true) :
    (run.act order id action).1.recipients.Nodup ∧
    ∀ member, member ∈ (run.act order id action).1.recipients ↔
      ∃ roomId, ∃ service ∈ [run.service, (run.act order id action).2.service],
        service.roomBySession.lookup id = some roomId ∧
          service.roomBySession.lookup member = some roomId := by
  have hsound := hreached.sound
  have hnumber := (created_le order id action).trans_lt hcreated
  have hbefore := hsound.mem_sessionIds hnumber order
  have hafter := (hsound.act order id action).mem_sessionIds hcreated order
  have heffect := run.service.effect_act order id action
  simp only [RoomRun.act] at hserved hafter ⊢
  generalize (run.service.act order id action).1 = result at *
  generalize (run.service.act order id action).2 = after at *
  cases heffect with
  | rejected _ _ hrejected => simp [hrejected] at hserved
  | lost => simp at hserved
  | gone _ _ hfree => simp [hfree, forget]
  | goneFromLost roomId _ _ hmember hroom =>
    obtain ⟨_, hfound, _⟩ := (hsound.numbered hnumber).housed id roomId hmember
    simp [hroom] at hfound
  | created _ _ _ _ _ hfree | joined _ _ _ _ hfree =>
    refine ⟨order.nodup _, fun member => ?_⟩
    rw [hafter _ _ (Finmap.lookup_insert _)]
    simp [hfree, enrol]
  | left _ _ _ _ hmember hroom | addressed _ _ _ _ hmember hroom
  | goneFrom _ _ _ _ hmember hroom =>
    refine ⟨order.nodup _, fun member => ?_⟩
    simp [hbefore _ _ hroom, release, forget, hmember]
  | moved _ room _ _ _ hmember hroom =>
    refine ⟨order.nodup _, fun member => ?_⟩
    rw [Room.sessionIds, room.setPosition_members, ← Room.sessionIds]
    simp [hbefore _ _ hroom, hmember]

theorem RoomRun.recipients_share_room_chat :
    ((replay (sharedRoom.take 4)).act .ascending 1 .chat).1.recipients.Nodup :=
  (recipients_share_room (reached_replay (sharedRoom.take 4)) _ _ _ (by decide +kernel)
    (by decide +kernel)).1

end SessionServer
