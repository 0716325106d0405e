import SessionServer.ObservedMachine
import SessionServer.UserRepository

/-!
# Identities from the repository in memory

Every call is answered with a user.  Names and ids correspond to each other,
and a name keeps the record of the first call for it.
-/

namespace SessionServer

open List

/-- What each callback of a sequence of calls receives. -/
def inMemoryUsers : ObservedMachine FindOrCreateUser UserResult InMemoryUserRepository where
  respond repository request :=
    let (user, repository) := repository.findOrCreate request
    ({ user := some user }, repository)

theorem userIdOf_injective : Function.Injective userIdOf := by
  intro first second hsame
  have hlow (value : ℕ) : value &&& 255 = value % 256 :=
    Nat.and_two_pow_sub_one_eq_mod value 8
  have hbytes := congrArg UserId.bytes hsame
  simp only [userIdOf, map_cons, map_nil, append_cancel_left_eq,
    List.cons.injEq, ← UInt8.toNat_inj] at hbytes
  simp [Nat.shiftRight_eq_div_pow, hlow] at hbytes
  have hfirst := first.toNat_lt
  have hsecond := second.toNat_lt
  apply UInt64.toNat_inj.mp
  omega

namespace InMemoryUserRepository

variable {repository after : InMemoryUserRepository} {request : FindOrCreateUser}
  {user : UserRecord}

theorem findOrCreate_cases (hcall : repository.findOrCreate request = (user, after)) :
    (repository.usersByNormalizedName.lookup request.normalizedName = some user ∧
      after = repository) ∨
    repository.usersByNormalizedName.lookup request.normalizedName = none ∧
      user = ⟨userIdOf repository.nextId, request.normalizedName, request.displayName⟩ ∧
      after = {
        usersByNormalizedName :=
          repository.usersByNormalizedName.insert request.normalizedName user
        nextId := repository.nextId + 1 } := by
  unfold findOrCreate at hcall
  cases hlookup : repository.usersByNormalizedName.lookup request.normalizedName with
  | some =>
    rw [hlookup] at hcall
    cases hcall
    exact .inl ⟨rfl, rfl⟩
  | none =>
    rw [hlookup] at hcall
    cases hcall
    exact .inr ⟨rfl, rfl, rfl⟩

/-- A call stores the user it answers with and changes nothing else. -/
theorem lookup_findOrCreate (hcall : repository.findOrCreate request = (user, after))
    (name : Bytes) :
    after.usersByNormalizedName.lookup name =
      if name = request.normalizedName then some user
      else repository.usersByNormalizedName.lookup name := by
  rcases findOrCreate_cases hcall with ⟨hfound, rfl⟩ | ⟨_, _, rfl⟩
  · split
    next hname => rw [hname, hfound]
    next => rfl
  · split
    next hname => rw [hname, Finmap.lookup_insert]
    next hname => exact Finmap.lookup_insert_of_ne _ hname

/-- The ids below the counter are in use, each for one name. -/
structure Assigned (repository : InMemoryUserRepository) : Prop where
  name : ∀ name user, repository.usersByNormalizedName.lookup name = some user →
    user.normalizedName = name
  used : ∀ name user, repository.usersByNormalizedName.lookup name = some user →
    ∃ value < repository.nextId, user.userId = userIdOf value
  unique : ∀ first second user other,
    repository.usersByNormalizedName.lookup first = some user →
    repository.usersByNormalizedName.lookup second = some other →
    user.userId = other.userId → first = second

theorem assigned_initial : Assigned {} := by
  constructor <;> simp

theorem Assigned.fresh (hassigned : repository.Assigned) {name : Bytes}
    (hlookup : repository.usersByNormalizedName.lookup name = some user) :
    user.userId ≠ userIdOf repository.nextId := by
  intro hsame
  obtain ⟨_, hlt, hvalue⟩ := hassigned.used name user hlookup
  rw [userIdOf_injective (hvalue.symm.trans hsame)] at hlt
  exact UInt64.lt_irrefl _ hlt

theorem Assigned.findOrCreate (hassigned : repository.Assigned)
    (hroom : repository.nextId.toNat + 1 < 2 ^ 64)
    (hcall : repository.findOrCreate request = (user, after)) :
    after.Assigned ∧ after.nextId.toNat ≤ repository.nextId.toNat + 1 := by
  have hlookup := lookup_findOrCreate hcall
  rcases findOrCreate_cases hcall with ⟨_, rfl⟩ | ⟨_, huser, hafter⟩
  · exact ⟨hassigned, Nat.le_succ _⟩
  have hnext : after.nextId.toNat = repository.nextId.toNat + 1 := by
    rw [hafter, UInt64.toNat_add]
    exact Nat.mod_eq_of_lt hroom
  refine ⟨⟨?_, ?_, ?_⟩, hnext.le⟩
  · intro name stored hstored
    rw [hlookup] at hstored
    split at hstored
    next hname =>
      rw [← Option.some.inj hstored, huser, hname]
    next => exact hassigned.name name stored hstored
  · intro name stored hstored
    rw [hlookup] at hstored
    split at hstored
    next =>
      refine ⟨repository.nextId, ?_, ?_⟩
      · rw [UInt64.lt_iff_toNat_lt, hnext]
        exact Nat.lt_succ_self _
      · rw [← Option.some.inj hstored, huser]
    next =>
      obtain ⟨value, hlt, hvalue⟩ := hassigned.used name stored hstored
      refine ⟨value, ?_, hvalue⟩
      rw [UInt64.lt_iff_toNat_lt] at hlt ⊢
      omega
  · intro first second stored other hfirst hsecond hsame
    rw [hlookup] at hfirst hsecond
    split at hfirst
    next hname =>
      split at hsecond
      next hother => rw [hname, hother]
      next =>
        apply absurd hsame.symm
        rw [← Option.some.inj hfirst, huser]
        exact hassigned.fresh hsecond
    next =>
      split at hsecond
      next =>
        apply absurd hsame
        rw [← Option.some.inj hsecond, huser]
        exact hassigned.fresh hfirst
      next => exact hassigned.unique first second stored other hfirst hsecond hsame

/-- The record of a name; a name without one is not asked for. -/
def recordOf (repository : InMemoryUserRepository) (name : Bytes) : UserRecord :=
  (repository.usersByNormalizedName.lookup name).getD ⟨.zero, [], []⟩

/-- What a run leaves in the table: the records that were there, and for every
other name that was asked for the record of the first call. -/
structure Recorded (before after : InMemoryUserRepository)
    (requests : List FindOrCreateUser) : Prop where
  assigned : after.Assigned
  kept : ∀ name user, before.usersByNormalizedName.lookup name = some user →
    after.usersByNormalizedName.lookup name = some user
  first : ∀ name request, requests.find? (·.normalizedName == name) = some request →
    ∃ user, after.usersByNormalizedName.lookup name = some user ∧
      (before.usersByNormalizedName.lookup name = none → user.displayName = request.displayName)

theorem recorded_run (requests : List FindOrCreateUser) (hassigned : repository.Assigned)
    (hroom : repository.nextId.toNat + requests.length < 2 ^ 64) :
    repository.Recorded (inMemoryUsers.run repository requests).2 requests ∧
      (inMemoryUsers.run repository requests).1 = requests.map fun request =>
        { user := some ((inMemoryUsers.run repository requests).2.recordOf
          request.normalizedName) } := by
  induction requests generalizing repository with
  | nil => exact ⟨⟨hassigned, fun _ _ => id, by simp⟩, rfl⟩
  | cons request rest ih =>
    rw [length_cons] at hroom
    cases hcall : repository.findOrCreate request with
    | mk user next =>
    have hlookup := lookup_findOrCreate hcall
    obtain ⟨hnext, hle⟩ := hassigned.findOrCreate (by omega) hcall
    obtain ⟨hrest, hanswers⟩ := ih hnext (by omega)
    have hrun : inMemoryUsers.run repository (request :: rest) =
        ({ user := some user } :: (inMemoryUsers.run next rest).1,
          (inMemoryUsers.run next rest).2) := by
      rw [ObservedMachine.run_cons]
      simp only [inMemoryUsers, hcall]
    have hstored : (inMemoryUsers.run next rest).2.usersByNormalizedName.lookup
        request.normalizedName = some user := by
      apply hrest.kept
      rw [hlookup, if_pos rfl]
    rw [hrun]
    refine ⟨⟨hrest.assigned, ?_, ?_⟩, ?_⟩
    · intro name stored hbefore
      by_cases hname : name = request.normalizedName
      · rcases findOrCreate_cases hcall with ⟨hfound, _⟩ | ⟨hnone, _⟩
        · rw [hname] at hbefore ⊢
          rw [hstored, ← hbefore, hfound]
        · rw [hname, hnone] at hbefore
          cases hbefore
      · apply hrest.kept
        rw [hlookup, if_neg hname, hbefore]
    · intro name asked hfind
      by_cases hname : request.normalizedName = name
      · rw [find?_cons_of_pos (by simp [hname])] at hfind
        refine ⟨user, hname ▸ hstored, ?_⟩
        intro hbefore
        rcases findOrCreate_cases hcall with ⟨hfound, _⟩ | ⟨_, huser, _⟩
        · rw [hname, hbefore] at hfound
          cases hfound
        · rw [huser, ← Option.some.inj hfind]
      · rw [find?_cons_of_neg (by simp [hname])] at hfind
        obtain ⟨stored, hafter, hdisplay⟩ := hrest.first name asked hfind
        refine ⟨stored, hafter, ?_⟩
        intro hbefore
        apply hdisplay
        rw [hlookup, if_neg (Ne.symm hname), hbefore]
    · rw [map_cons, hanswers, recordOf, hstored]
      rfl

end InMemoryUserRepository

/-- Along every run each name has one record, that of the first call for it,
and different names have different ids. -/
theorem inMemoryUsers_identity (requests : List FindOrCreateUser)
    (hcount : requests.length < 2 ^ 64 - 1) :
    Function.Injective userIdOf ∧
    ∃ record : Bytes → UserRecord,
      (inMemoryUsers.run {} requests).1 =
        requests.map (fun request => { user := some (record request.normalizedName) }) ∧
      (∀ first ∈ requests, ∀ second ∈ requests,
        (record first.normalizedName).userId = (record second.normalizedName).userId ↔
          first.normalizedName = second.normalizedName) ∧
      ∀ name first, requests.find? (·.normalizedName == name) = some first →
        (record name).normalizedName = name ∧
        (record name).displayName = first.displayName := by
  obtain ⟨hrecorded, hanswers⟩ := InMemoryUserRepository.recorded_run requests
    InMemoryUserRepository.assigned_initial (by change 1 + requests.length < _; omega)
  generalize (inMemoryUsers.run {} requests).2 = after at hrecorded hanswers
  have hasked (request : FindOrCreateUser) (hmem : request ∈ requests) :
      ∃ user, after.usersByNormalizedName.lookup request.normalizedName = some user := by
    cases hfind : requests.find? (·.normalizedName == request.normalizedName) with
    | some first =>
      obtain ⟨user, huser, _⟩ := hrecorded.first _ first hfind
      exact ⟨user, huser⟩
    | none =>
      have hnot := find?_eq_none.mp hfind request hmem
      simp at hnot
  refine ⟨userIdOf_injective, after.recordOf, hanswers, ?_, ?_⟩
  · intro first hfirst second hsecond
    constructor
    · intro hsame
      obtain ⟨user, huser⟩ := hasked first hfirst
      obtain ⟨other, hother⟩ := hasked second hsecond
      simp only [InMemoryUserRepository.recordOf, huser, hother, Option.getD_some] at hsame
      exact hrecorded.assigned.unique _ _ user other huser hother hsame
    · intro hname
      rw [hname]
  · intro name first hfind
    obtain ⟨user, huser, hdisplay⟩ := hrecorded.first name first hfind
    rw [InMemoryUserRepository.recordOf, huser]
    exact ⟨hrecorded.assigned.name name user huser, hdisplay (Finmap.lookup_empty _)⟩

theorem inMemoryUsers_identity_two_calls :
    let requests := [⟨[0x61], [0x41]⟩, ⟨[0x62], [0x42]⟩, ⟨[0x61], [0x61]⟩]
    ∃ record : Bytes → UserRecord, (inMemoryUsers.run {} requests).1 =
      requests.map fun request => { user := some (record request.normalizedName) } := by
  obtain ⟨_, record, hanswers, _⟩ :=
    inMemoryUsers_identity [⟨[0x61], [0x41]⟩, ⟨[0x62], [0x42]⟩, ⟨[0x61], [0x61]⟩] (by decide)
  exact ⟨record, hanswers⟩

end SessionServer
