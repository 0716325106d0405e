import SessionServer.FiniteMap
import SessionServer.TcpServerState

/-!
# The connection tables agree

Registering a connection under a descriptor that no session has, removing one,
and replacing a session by one with the same id keep the four tables in step.
-/

namespace SessionServer.TcpServer

open Finmap FiniteMap

variable {session : Session}

namespace ConnectionTables

structure Consistent (tables : ConnectionTables) : Prop where
  token_none : ∀ fd, tables.registrationTokenByFd.lookup fd = none ↔
    tables.sessionsByFd.lookup fd = none
  inverse : ∀ fd token, tables.registrationTokenByFd.lookup fd = some token ↔
    tables.fdByRegistrationToken.lookup token = some fd
  session_iff : ∀ id fd, tables.fdBySession.lookup id = some fd ↔
    ∃ session, tables.sessionsByFd.lookup fd = some session ∧ session.id = id
  session_fd : ∀ fd session, tables.sessionsByFd.lookup fd = some session → session.fd = fd
  id_lt : ∀ fd session, tables.sessionsByFd.lookup fd = some session →
    session.id < tables.nextSessionId
  token_lt : ∀ fd token, tables.registrationTokenByFd.lookup fd = some token →
    token < tables.nextRegistrationToken

namespace Consistent

variable {tables : ConnectionTables}

theorem keys_eq (hconsistent : tables.Consistent) :
    tables.sessionsByFd.keys = tables.registrationTokenByFd.keys := by
  ext fd
  rw [mem_keys_iff, mem_keys_iff, ne_eq, ne_eq, hconsistent.token_none fd]

theorem fd_unique (hconsistent : tables.Consistent) {fd other : Fd} {same : Session}
    (hsession : tables.sessionsByFd.lookup fd = some session)
    (hsame : tables.sessionsByFd.lookup other = some same) (hid : same.id = session.id) :
    other = fd := by
  have hfd := (hconsistent.session_iff session.id fd).mpr ⟨session, hsession, rfl⟩
  have hother := (hconsistent.session_iff session.id other).mpr ⟨same, hsame, hid⟩
  rw [hfd] at hother
  exact (Option.some.inj hother).symm

theorem clear (tables : ConnectionTables) : tables.clear.Consistent where
  token_none fd := by simp [ConnectionTables.clear]
  inverse fd token := by simp [ConnectionTables.clear]
  session_iff id fd := by simp [ConnectionTables.clear]
  session_fd fd session hsession := by simp [ConnectionTables.clear] at hsession
  id_lt fd session hsession := by simp [ConnectionTables.clear] at hsession
  token_lt fd token htoken := by simp [ConnectionTables.clear] at htoken

section Changes

variable (hconsistent : tables.Consistent)
include hconsistent

theorem storeCurrentSessions : tables.storeCurrentSessions.Consistent where
  token_none := hconsistent.token_none
  inverse := hconsistent.inverse
  session_iff := hconsistent.session_iff
  session_fd := hconsistent.session_fd
  id_lt := hconsistent.id_lt
  token_lt := hconsistent.token_lt

theorem fdByRegistrationToken_fresh {token : ℕ} (hfresh : tables.nextRegistrationToken ≤ token) :
    tables.fdByRegistrationToken.lookup token = none := by
  by_contra hsome
  obtain ⟨fd, hfd⟩ := Option.ne_none_iff_exists'.mp hsome
  have hlt := hconsistent.token_lt fd token ((hconsistent.inverse fd token).mpr hfd)
  omega

theorem register (config : ServerConfig) {fd : Fd} (hfd : tables.sessionsByFd.lookup fd = none) :
    (tables.register config fd).Consistent := by
  have htoken := (hconsistent.token_none fd).mpr hfd
  have hfreshToken := hconsistent.fdByRegistrationToken_fresh (Nat.le_refl _)
  constructor
  · intro other
    simp only [ConnectionTables.register, lookup_insert_ite]
    split
    · simp
    · exact hconsistent.token_none other
  · intro other token
    have hinverse := hconsistent.inverse other token
    simp only [ConnectionTables.register, lookup_insert_ite]
    grind
  · intro id other
    have hsession := hconsistent.session_iff id other
    have hlt := hconsistent.id_lt other
    simp only [ConnectionTables.register, lookup_insert_ite]
    by_cases hother : other = fd
    · simp only [if_pos hother, Option.some.injEq, exists_eq_left']
      grind
    · simp only [if_neg hother]
      grind
  · intro other session
    have hother := hconsistent.session_fd other session
    simp only [ConnectionTables.register, lookup_insert_ite]
    grind
  · intro other session
    have hother := hconsistent.id_lt other session
    simp only [ConnectionTables.register, lookup_insert_ite]
    grind
  · intro other token
    have hother := hconsistent.token_lt other token
    simp only [ConnectionTables.register, lookup_insert_ite]
    grind

theorem eraseMoved : tables.eraseMoved.Consistent where
  token_none := hconsistent.token_none
  inverse := hconsistent.inverse
  session_iff := hconsistent.session_iff
  session_fd := hconsistent.session_fd
  id_lt := hconsistent.id_lt
  token_lt := hconsistent.token_lt

theorem detach {fd : Fd} (hsession : tables.sessionsByFd.lookup fd = some session) :
    (tables.detach fd session).Consistent := by
  obtain ⟨token, htoken⟩ : ∃ token, tables.registrationTokenByFd.lookup fd = some token := by
    rw [← Option.ne_none_iff_exists', ne_eq, hconsistent.token_none fd, hsession]
    simp
  have hfd := (hconsistent.inverse fd token).mp htoken
  unfold ConnectionTables.detach
  constructor
  · intro other
    simp only [lookup_erase_ite]
    split
    · simp
    · exact hconsistent.token_none other
  · intro other others
    have hinverse := hconsistent.inverse other others
    simp only [htoken, lookup_erase_ite]
    grind
  · intro id other
    have hiff := hconsistent.session_iff id other
    have hhere := hconsistent.session_iff id fd
    simp only [lookup_erase_ite]
    grind
  · intro other same hsame
    exact hconsistent.session_fd other same (of_lookup_erase hsame).2
  · intro other same hsame
    exact hconsistent.id_lt other same (of_lookup_erase hsame).2
  · intro other others hothers
    exact hconsistent.token_lt other others (of_lookup_erase hothers).2

theorem replace {fd : Fd} {after : Session}
    (hsession : tables.sessionsByFd.lookup fd = some session)
    (hid : after.id = session.id) (hfd : after.fd = session.fd) :
    Consistent { tables with sessionsByFd := tables.sessionsByFd.insert fd after } := by
  constructor
  · intro other
    have hother := hconsistent.token_none other
    simp only [lookup_insert_ite]
    grind
  · exact hconsistent.inverse
  · intro id other
    have hother := hconsistent.session_iff id other
    simp only [lookup_insert_ite]
    grind
  · intro other same
    have hother := hconsistent.session_fd other same
    have hhere := hconsistent.session_fd fd session hsession
    simp only [lookup_insert_ite]
    grind
  · intro other same
    have hother := hconsistent.id_lt other same
    have hhere := hconsistent.id_lt fd session hsession
    simp only [lookup_insert_ite]
    grind
  · exact hconsistent.token_lt

end Changes

end Consistent

/-! ## The number of sessions -/

variable {tables : ConnectionTables} {fd : Fd}

theorem sessionCount_register (config : ServerConfig) (hfd : tables.sessionsByFd.lookup fd = none) :
    (tables.register config fd).sessionCount = tables.sessionCount + 1 := by
  have habsent : fd ∉ tables.sessionsByFd.keys := by
    rw [mem_keys_iff, not_not]
    exact hfd
  unfold sessionCount
  rw [ConnectionTables.register, keys_insert, Finset.card_insert_of_notMem habsent,
    Nat.add_right_comm]

/-- A session that is moved out of its table still counts. -/
theorem sessionCount_detach (hsession : tables.sessionsByFd.lookup fd = some session) :
    (tables.detach fd session).sessionCount = tables.sessionCount := by
  have hpresent : fd ∈ tables.sessionsByFd.keys := by
    rw [mem_keys_iff, hsession]
    simp
  change (tables.sessionsByFd.erase fd).keys.card + (tables.movedSessions + 1) = _
  rw [keys_erase, Nat.add_left_comm, Nat.add_comm, Finset.card_erase_add_one hpresent]
  rfl

theorem keys_replace {after : Session} (hsession : tables.sessionsByFd.lookup fd = some session) :
    (tables.sessionsByFd.insert fd after).keys = tables.sessionsByFd.keys := by
  have hpresent : fd ∈ tables.sessionsByFd.keys := by
    rw [mem_keys_iff, hsession]
    simp
  rw [keys_insert, Finset.insert_eq_self.mpr hpresent]

end ConnectionTables

end SessionServer.TcpServer
