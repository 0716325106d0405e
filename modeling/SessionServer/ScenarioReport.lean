import SessionServer.SessionEvent
import Mathlib.Algebra.BigOperators.Group.List.Basic

/-!
# The broadcasts a load scenario expects

Every successful send reaches every member of its room.  The total is computed
with 64-bit numbers, each product and each sum checked before it is formed.
-/

namespace SessionServer.Scenario

/-- The exceptions of the load tools. -/
inductive Failure
  | invalidArgument (message : String)
  | overflowError (message : String)
  deriving DecidableEq, Repr

def maximum : UInt64 := 0xffffffffffffffff

/-- The body of the loop of `expectedBroadcasts`. -/
def addRoom (broadcasts : UInt64) (room : UInt64 × UInt64) : Except Failure UInt64 :=
  let (roomSize, successfulSends) := room
  if roomSize ≠ 0 ∧ successfulSends > maximum / roomSize then
    .error (.overflowError "scenario expected broadcast overflow")
  else
    let roomBroadcasts := roomSize * successfulSends
    if roomBroadcasts > maximum - broadcasts then
      .error (.overflowError "scenario expected broadcast overflow")
    else .ok (broadcasts + roomBroadcasts)

def expectedBroadcasts (roomSizes successfulSendsByRoom : List UInt64) :
    Except Failure UInt64 :=
  if roomSizes.length ≠ successfulSendsByRoom.length then
    .error (.invalidArgument "room sizes and successful send counts must have equal lengths")
  else (roomSizes.zip successfulSendsByRoom).foldlM addRoom 0

/-- The sum without bounds. -/
def totalBroadcasts (rooms : List (UInt64 × UInt64)) : ℕ :=
  (rooms.map fun room => room.1.toNat * room.2.toNat).sum

/-- A number if it fits into 64 bits. -/
def checked (total : ℕ) : Except Failure UInt64 :=
  if total < 2 ^ 64 then .ok (UInt64.ofNat total)
  else .error (.overflowError "scenario expected broadcast overflow")

theorem addRoom_eq (broadcasts : UInt64) (room : UInt64 × UInt64) :
    addRoom broadcasts room = checked (broadcasts.toNat + room.1.toNat * room.2.toNat) := by
  obtain ⟨roomSize, sends⟩ := room
  have hmaximum : maximum.toNat = 2 ^ 64 - 1 := rfl
  have hbroadcasts := broadcasts.toNat_lt
  have hproduct : (roomSize ≠ 0 ∧ sends > maximum / roomSize) ↔
      2 ^ 64 ≤ roomSize.toNat * sends.toNat := by
    rw [gt_iff_lt, UInt64.lt_iff_toNat_lt, UInt64.toNat_div, hmaximum, Ne, ← UInt64.toNat_inj]
    by_cases hzero : roomSize.toNat = 0
    · simp [hzero]
    · have hpositive : 0 < roomSize.toNat := Nat.pos_of_ne_zero hzero
      rw [Nat.div_lt_iff_lt_mul hpositive, Nat.mul_comm]
      simp only [UInt64.toNat_zero]
      omega
  have hcapacity : (maximum - broadcasts).toNat = 2 ^ 64 - 1 - broadcasts.toNat := by
    rw [UInt64.toNat_sub_of_le _ _ (by rw [UInt64.le_iff_toNat_le]; omega), hmaximum]
  unfold addRoom checked
  dsimp only
  by_cases hlarge : 2 ^ 64 ≤ roomSize.toNat * sends.toNat
  · rw [if_pos (hproduct.mpr hlarge), if_neg (by omega)]
  · have hexact : (roomSize * sends).toNat = roomSize.toNat * sends.toNat := by
      rw [UInt64.toNat_mul]
      exact Nat.mod_eq_of_lt (by omega)
    rw [if_neg (mt hproduct.mp hlarge)]
    by_cases hfits : broadcasts.toNat + roomSize.toNat * sends.toNat < 2 ^ 64
    · rw [if_neg (by rw [gt_iff_lt, UInt64.lt_iff_toNat_lt]; omega), if_pos hfits]
      apply congrArg
      apply UInt64.toNat_inj.mp
      rw [UInt64.toNat_add, hexact, UInt64.toNat_ofNat']
    · rw [if_pos (by rw [gt_iff_lt, UInt64.lt_iff_toNat_lt]; omega), if_neg hfits]

theorem foldlM_addRoom (rooms : List (UInt64 × UInt64)) (broadcasts : UInt64) :
    rooms.foldlM addRoom broadcasts = checked (broadcasts.toNat + totalBroadcasts rooms) := by
  induction rooms generalizing broadcasts with
  | nil =>
    have hlt := broadcasts.toNat_lt
    simp [checked, totalBroadcasts, hlt, pure, Except.pure]
  | cons room rest ih =>
    have htotal : totalBroadcasts (room :: rest) =
        room.1.toNat * room.2.toNat + totalBroadcasts rest := by
      rw [totalBroadcasts, List.map_cons, List.sum_cons, totalBroadcasts]
    rw [List.foldlM_cons, addRoom_eq, htotal, ← Nat.add_assoc]
    generalize broadcasts.toNat + room.1.toNat * room.2.toNat = sum
    by_cases hfits : sum < 2 ^ 64
    · have hsum : (UInt64.ofNat sum).toNat = sum := UInt64.toNat_ofNat_of_lt' hfits
      rw [checked, if_pos hfits]
      exact (ih _).trans (by rw [hsum])
    · have hlarge : ¬ sum + totalBroadcasts rest < 2 ^ 64 := by omega
      rw [checked, if_neg hfits, checked, if_neg hlarge]
      rfl

/-- The total is exact, or an overflow is reported, whatever the order of the
rooms. -/
theorem expectedBroadcasts_exact (roomSizes sends : List UInt64) :
    (roomSizes.length ≠ sends.length →
      ∃ message, expectedBroadcasts roomSizes sends = .error (.invalidArgument message)) ∧
    (roomSizes.length = sends.length →
      ((∃ total, expectedBroadcasts roomSizes sends = .ok total ∧
        total.toNat = totalBroadcasts (roomSizes.zip sends)) ↔
          totalBroadcasts (roomSizes.zip sends) ≤ 2 ^ 64 - 1) ∧
      ((∃ message, expectedBroadcasts roomSizes sends = .error (.overflowError message)) ↔
        2 ^ 64 - 1 < totalBroadcasts (roomSizes.zip sends)) ∧
      ∀ otherSizes otherSends : List UInt64, otherSizes.length = otherSends.length →
        (otherSizes.zip otherSends).Perm (roomSizes.zip sends) →
        expectedBroadcasts otherSizes otherSends = expectedBroadcasts roomSizes sends) := by
  have hequal (sizes counts : List UInt64) (hlength : sizes.length = counts.length) :
      expectedBroadcasts sizes counts = checked (totalBroadcasts (sizes.zip counts)) := by
    rw [expectedBroadcasts, if_neg (not_not.mpr hlength), foldlM_addRoom, UInt64.toNat_zero,
      Nat.zero_add]
  constructor
  · intro hlength
    exact ⟨_, if_pos hlength⟩
  · intro hlength
    rw [hequal _ _ hlength]
    refine ⟨?_, ?_, ?_⟩
    · unfold checked
      constructor
      · rintro ⟨total, -, htotal⟩
        have hlt := total.toNat_lt
        omega
      · intro hfits
        have hlt : totalBroadcasts (roomSizes.zip sends) < 2 ^ 64 := by omega
        exact ⟨_, if_pos hlt, UInt64.toNat_ofNat_of_lt' hlt⟩
    · unfold checked
      split
      · next hlt =>
        simp
        omega
      · next hlarge =>
        simp
        omega
    · intro otherSizes otherSends hother hperm
      have htotal : totalBroadcasts (otherSizes.zip otherSends) =
          totalBroadcasts (roomSizes.zip sends) := (hperm.map _).sum_eq
      rw [hequal _ _ hother, htotal]

end SessionServer.Scenario
