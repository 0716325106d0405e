import Mathlib.Algebra.BigOperators.Intervals
import Mathlib.Data.Int.CardIntervalMod
import SessionServer.ScenarioReport
import SessionServer.VersionMessages

/-!
# The options of a load scenario

Options are valid if the host is an address in canonical notation and the
broadcasts that the fast clients will receive stay within a budget.  The budget
is computed from the number of rooms and clients alone.
-/

namespace SessionServer.Scenario

open Protocol StringView List

/-! ## IPv4 addresses -/

def isOctet (octet : Bytes) : Bool :=
  if octet.isEmpty || octet.length > 3 || (octet.length > 1 && octet.head? == some 0x30) then false
  else
    match fromChars 4294967295 octet with
    | some (value, []) => value ≤ 255
    | _ => false

/-- `remove_prefix` of a view; `none` if the view is shorter. -/
def removePrefix (text : Bytes) (count : ℕ) : Option Bytes :=
  if count ≤ text.length then some (text.drop count) else none

/-- The loop of `isIpv4Address`, by the number of octets to come. -/
def isIpv4From : ℕ → Bytes → Option Bool
  | 0, _ => some false
  | left + 1, host =>
    let separator := find host 0x2e 0
    let octet := substr host 0 (separator.getD host.length)
    if !isOctet octet then some false
    else if left = 0 then some separator.isNone
    else
      match separator with
      | none => some false
      | some index => (removePrefix host (index + 1)).bind (isIpv4From left)

def isIpv4Address (host : Bytes) : Option Bool := isIpv4From 4 host

theorem isIpv4From_eq (left : ℕ) (host : Bytes) :
    isIpv4From (left + 1) host =
      some (decide ((host.splitOn 0x2e).length = left + 1) && (host.splitOn 0x2e).all isOctet) := by
  induction left generalizing host with
  | zero =>
    rw [isIpv4From]
    cases hfind : find host 0x2e 0 with
    | none =>
      have hsplit : host.splitOn 0x2e = [host] := splitOn_of_find_none hfind
      rw [hsplit]
      cases hoctet : isOctet host with
      | false => simp [substr, hoctet]
      | true => simp [substr, hoctet]
    | some index =>
      have hsplit : host.splitOn 0x2e = _ := splitOn_of_find hfind
      have hrest : (host.drop (index + 1)).splitOn 0x2e ≠ [] := splitOn_ne_nil _ _
      rw [hsplit]
      cases hoctet : isOctet (substr host 0 index) with
      | false => simp [hoctet]
      | true => simp [hoctet, hrest]
  | succ left ih =>
    rw [isIpv4From]
    cases hfind : find host 0x2e 0 with
    | none =>
      have hsplit : host.splitOn 0x2e = [host] := splitOn_of_find_none hfind
      rw [hsplit]
      simp
    | some index =>
      have hsplit : host.splitOn 0x2e = _ := splitOn_of_find hfind
      obtain ⟨_, _, hindex⟩ := find_eq_some hfind
      have hremove : removePrefix host (index + 1) = some (host.drop (index + 1)) :=
        if_pos hindex
      rw [hsplit]
      cases hoctet : isOctet (substr host 0 index) with
      | false => simp [hoctet]
      | true => simp [hoctet, hremove, ih]

/-- Text that is not empty, consists of digits and has no leading zero is the
decimal notation of its value. -/
theorem decimal_decimalValue {text : Bytes} (hsome : text ≠ [])
    (hdigits : ∀ character ∈ text, isDigit character = true)
    (hlead : text.head? = some 0x30 → text.length = 1) :
    decimal (decimalValue text) = text := by
  have hrange (character : UInt8) (hcharacter : character ∈ text) :
      0x30 ≤ character.toNat ∧ character.toNat ≤ 0x39 := by
    simpa [isDigit, UInt8.le_iff_toNat_le] using hdigits character hcharacter
  have htext : (text.map digitValue).map (fun digit => UInt8.ofNat (0x30 + digit)) = text := by
    rw [map_map]
    conv_rhs => rw [← map_id text]
    apply map_congr_left
    intro character hcharacter
    rw [Function.comp_apply, digitValue, Nat.add_sub_cancel' (hrange character hcharacter).1,
      UInt8.ofNat_toNat, id_eq]
  cases text with
  | nil => exact absurd rfl hsome
  | cons lead rest =>
    have hlower := (hrange lead mem_cons_self).1
    by_cases hzero : lead.toNat = 0x30
    · obtain rfl : lead = 0x30 := UInt8.toNat_inj.mp hzero
      rw [eq_nil_of_length_eq_zero (Nat.succ.inj (hlead rfl))]
      rfl
    · have hdigitsValue : Nat.digits 10 (decimalValue (lead :: rest)) =
          ((lead :: rest).map digitValue).reverse := by
        apply Nat.digits_ofDigits 10 (by decide)
        · intro digit hdigit
          obtain ⟨character, hcharacter, rfl⟩ := mem_map.mp (mem_reverse.mp hdigit)
          have hupper := (hrange character hcharacter).2
          unfold digitValue
          omega
        · intro _
          rw [getLast_reverse, head_map, head_cons]
          unfold digitValue
          omega
      have hvalue : decimalValue (lead :: rest) ≠ 0 := by
        apply Nat.digits_ne_nil_iff_ne_zero.mp
        rw [hdigitsValue]
        simp
      rw [decimal, if_neg hvalue, hdigitsValue, reverse_reverse, htext]

theorem isOctet_iff {octet : Bytes} :
    isOctet octet = true ↔ ∃ number ≤ 255, octet = decimal number := by
  constructor
  · intro hoctet
    unfold isOctet at hoctet
    split at hoctet
    · cases hoctet
    · next hshape =>
      simp only [Bool.or_eq_true, List.isEmpty_iff, decide_eq_true_eq, Bool.and_eq_true,
        beq_iff_eq, not_or, not_and] at hshape
      split at hoctet
      · next value hchars =>
        obtain ⟨hsome, hdigits, hvalue, _⟩ := (fromChars_eq_whole_iff _ _ _).mp hchars
        refine ⟨value, of_decide_eq_true hoctet, ?_⟩
        rw [← hvalue, decimal_decimalValue hsome hdigits]
        intro hzero
        have hshort : ¬ octet.length > 1 := fun hlong => hshape.2 hlong hzero
        have hpositive := List.length_pos_of_ne_nil hsome
        omega
      · cases hoctet
  · rintro ⟨number, hnumber, rfl⟩
    have hall : ∀ number < 256, isOctet (decimal number) = true := by decide +kernel
    exact hall number (by omega)

/-- Exactly four numbers up to 255 in canonical notation, joined by dots, are
an address, and no view is shortened past its end. -/
theorem isIpv4Address_iff (host : Bytes) :
    ∃ accepted, isIpv4Address host = some accepted ∧
      (accepted = true ↔ ∃ numbers : List ℕ, numbers.length = 4 ∧
        (∀ number ∈ numbers, number ≤ 255) ∧ host = [0x2e].intercalate (numbers.map decimal)) := by
  refine ⟨_, isIpv4From_eq 3 host, ?_⟩
  rw [Bool.and_eq_true, decide_eq_true_eq, all_eq_true]
  constructor
  · rintro ⟨hcount, hoctets⟩
    refine ⟨(host.splitOn 0x2e).map decimalValue, by rw [length_map, hcount], ?_, ?_⟩
    · intro number hnumber
      obtain ⟨octet, hoctet, rfl⟩ := mem_map.mp hnumber
      obtain ⟨number, hle, rfl⟩ := isOctet_iff.mp (hoctets octet hoctet)
      rwa [decimalValue_decimal]
    · have hjoin : [0x2e].intercalate (host.splitOn 0x2e) = host := intercalate_splitOn 0x2e
      have hsame : ((host.splitOn 0x2e).map decimalValue).map decimal = host.splitOn 0x2e := by
        rw [map_map]
        conv_rhs => rw [← map_id (host.splitOn 0x2e)]
        apply map_congr_left
        intro octet hoctet
        obtain ⟨number, _, rfl⟩ := isOctet_iff.mp (hoctets octet hoctet)
        rw [Function.comp_apply, decimalValue_decimal, id_eq]
      rw [hsame, hjoin]
  · rintro ⟨numbers, hcount, hnumbers, rfl⟩
    have hsplit : ([0x2e].intercalate (numbers.map decimal)).splitOn 0x2e =
        numbers.map decimal := by
      apply splitOn_intercalate
      · intro octet hoctet hdot
        obtain ⟨number, _, rfl⟩ := mem_map.mp hoctet
        cases decimal_digits _ hdot
      · rintro hnil
        rw [map_eq_nil_iff.mp hnil] at hcount
        cases hcount
    rw [hsplit, length_map]
    refine ⟨hcount, ?_⟩
    intro octet hoctet
    obtain ⟨number, hnumber, rfl⟩ := mem_map.mp hoctet
    exact isOctet_iff.mpr ⟨number, hnumbers number hnumber, rfl⟩

/-! ## Options -/

inductive ScenarioKind
  | broadcast
  | multiRoom
  | slowClient
  deriving DecidableEq, Repr

structure ScenarioOptions where
  host : Bytes := []
  port : UInt16 := 0
  scenario : ScenarioKind := .broadcast
  clients : UInt64 := 10
  rooms : UInt64 := 2
  messagesPerSender : UInt64 := 100
  payloadBytes : UInt64 := 256
  slowClients : UInt64 := 1
  repeats : UInt64 := 5
  workerCount : UInt64 := 4
  ratePerClient : UInt64 := 0
  timeoutSeconds : UInt64 := 30

namespace ScenarioOptions

def fastClients (options : ScenarioOptions) : UInt64 :=
  if options.scenario = .slowClient then options.clients - options.slowClients
  else options.clients

def roomCount (options : ScenarioOptions) : UInt64 :=
  if options.scenario = .multiRoom then options.rooms else 1

def receiptsPerSequence (fastClients rooms : UInt64) : UInt64 :=
  let smallRoom := fastClients / rooms
  let largeRooms := fastClients % rooms
  (rooms - largeRooms) * smallRoom * smallRoom + largeRooms * (smallRoom + 1) * (smallRoom + 1)

def maxReceiptSamples : UInt64 := 5000000

def reject (condition : Prop) [Decidable condition] (message : String) : Except Failure Unit :=
  if condition then .error (.invalidArgument message) else .ok ()

def validateScenarioOptions (options : ScenarioOptions) : Except Failure Unit := do
  reject ((options.host = []) ≠ (options.port = 0)) "host and port must be provided together"
  reject (options.host ≠ [] ∧ isIpv4Address options.host ≠ some true)
    "host must be a numeric IPv4 address"
  reject (options.host ≠ [] ∧ options.scenario = .slowClient)
    "slow-client requires embedded server statistics"
  reject (options.clients = 0 ∨ options.clients > 1000 ∨ options.workerCount = 0 ∨
    options.workerCount > 1000) "clients and workers must be between 1 and 1000"
  reject (options.messagesPerSender = 0 ∨ options.rooms = 0 ∨ options.repeats = 0)
    "messages, rooms and repeat must be positive"
  reject (options.ratePerClient > 1000000 ∨ options.timeoutSeconds = 0 ∨
    options.timeoutSeconds > 3600)
    "rate per client must be 0..1000000 and timeout seconds 1..3600"
  reject (options.payloadBytes < 64 ∨ options.payloadBytes.toNat > maxChatMessageBytes)
    "payload bytes must be between 64 and 1291"
  reject (options.scenario = .multiRoom ∧ options.rooms > options.clients)
    "rooms cannot exceed clients"
  reject (options.scenario = .slowClient ∧
    (options.slowClients = 0 ∨ options.slowClients ≥ options.clients))
    "slow clients must be fewer than clients"
  reject (options.messagesPerSender >
    maxReceiptSamples / receiptsPerSequence options.fastClients options.roomCount)
    "expected broadcast samples cannot exceed 5000000"

/-- The closed form on numbers without bounds. -/
def receipts (clients rooms : ℕ) : ℕ :=
  (rooms - clients % rooms) * (clients / rooms) * (clients / rooms) +
    clients % rooms * (clients / rooms + 1) * (clients / rooms + 1)

/-- The sizes of the rooms: `runOnce` puts each client into the room with its
index modulo the number of rooms. -/
def roomSizes (clients rooms : ℕ) : List ℕ :=
  (range clients).foldl (fun sizes index => sizes.modify (index % rooms) (· + 1))
    (replicate rooms 0)

theorem roomSizes_eq (clients rooms : ℕ) :
    roomSizes clients rooms =
      (range rooms).map fun room => Nat.count (· % rooms = room) clients := by
  induction clients with
  | zero => simp [roomSizes, map_const']
  | succ clients ih =>
    unfold roomSizes at ih ⊢
    rw [range_succ, foldl_append, ih]
    apply ext_getElem
    · simp
    · intro room hleft hright
      simp only [foldl_cons, foldl_nil, getElem_modify, getElem_map, getElem_range, Nat.count_succ]
      split
      · rfl
      · rfl

theorem count_room {clients rooms room : ℕ} (hroom : room < rooms) :
    Nat.count (· % rooms = room) clients =
      clients / rooms + if room < clients % rooms then 1 else 0 := by
  have hcount := Nat.count_modEq_card clients (by omega : 0 < rooms) room
  rw [Nat.mod_eq_of_lt hroom] at hcount
  rw [← hcount]
  congr
  funext client
  rw [Nat.ModEq, Nat.mod_eq_of_lt hroom]

theorem receipts_eq_sum {clients rooms : ℕ} (hrooms : 0 < rooms) :
    receipts clients rooms =
      ∑ room ∈ Finset.range rooms, Nat.count (· % rooms = room) clients ^ 2 := by
  have hlarge := Nat.mod_lt clients hrooms
  have hsquare (room : ℕ) (hroom : room ∈ Finset.range rooms) :
      Nat.count (· % rooms = room) clients ^ 2 =
        if room < clients % rooms then (clients / rooms + 1) ^ 2 else (clients / rooms) ^ 2 := by
    rw [count_room (Finset.mem_range.mp hroom)]
    split
    · rfl
    · rfl
  rw [Finset.sum_congr rfl hsquare, receipts]
  generalize clients % rooms = large at hlarge ⊢
  generalize clients / rooms = small
  obtain ⟨others, rfl⟩ := Nat.exists_eq_add_of_le hlarge.le
  have hlargeSum : (∑ room ∈ Finset.range large,
      if room < large then (small + 1) ^ 2 else small ^ 2) = large * (small + 1) ^ 2 := by
    rw [Finset.sum_ite_of_true (fun room hroom => Finset.mem_range.mp hroom)]
    simp
  rw [Finset.sum_range_add, hlargeSum]
  simp only [add_lt_iff_neg_left, not_lt_zero, if_false, Finset.sum_const, Finset.card_range,
    smul_eq_mul, Nat.add_sub_cancel_left]
  ring

theorem receipts_pos {clients rooms : ℕ} (hclients : 0 < clients) (hrooms : 0 < rooms) :
    0 < receipts clients rooms := by
  have hlarge := Nat.mod_lt clients hrooms
  have hdivision := Nat.div_add_mod clients rooms
  unfold receipts
  rcases Nat.eq_zero_or_pos (clients % rooms) with hmod | hmod
  · have hsmall : 0 < clients / rooms := by
      apply Nat.pos_of_ne_zero
      intro hzero
      rw [hzero, hmod] at hdivision
      omega
    have hrooms : 0 < rooms - clients % rooms := by omega
    positivity
  · positivity

/-! ## Valid options -/

theorem reject_eq_ok_iff {condition : Prop} [Decidable condition] {message : String}
    {value : Unit} : reject condition message = .ok value ↔ ¬ condition := by
  unfold reject
  split
  · next hcondition =>
    simp [hcondition]
  · next hcondition =>
    simp [hcondition]

structure Valid (options : ScenarioOptions) : Prop where
  fast_pos : 0 < options.fastClients.toNat
  fast_le : options.fastClients.toNat ≤ 1000
  rooms_pos : 0 < options.roomCount.toNat
  rooms_le : options.roomCount.toNat ≤ 1000
  budget : options.messagesPerSender.toNat ≤
    (maxReceiptSamples / receiptsPerSequence options.fastClients options.roomCount).toNat

theorem valid_of_validate {options : ScenarioOptions}
    (hvalidate : options.validateScenarioOptions = .ok ()) : options.Valid := by
  simp only [validateScenarioOptions, bind_eq_ok_iff, reject_eq_ok_iff, not_or, not_and,
    exists_const] at hvalidate
  obtain ⟨-, -, -, ⟨hclients, hmany, -⟩, ⟨-, hrooms, -⟩, -, -, hmulti, hslow, hbudget⟩ := hvalidate
  simp only [UInt64.lt_iff_toNat_lt, UInt64.le_iff_toNat_le, gt_iff_lt, ge_iff_le, not_lt,
    ← UInt64.toNat_inj, UInt64.reduceToNat] at hclients hmany hrooms hmulti hslow
  have hfast : 0 < options.fastClients.toNat ∧ options.fastClients.toNat ≤ 1000 := by
    unfold fastClients
    split
    · next hscenario =>
      have hfewer := (hslow hscenario).2
      rw [UInt64.toNat_sub_of_le _ _ (UInt64.le_iff_toNat_le.mpr (by omega))]
      omega
    · omega
  have hcount : 0 < options.roomCount.toNat ∧ options.roomCount.toNat ≤ 1000 := by
    unfold roomCount
    split
    · next hscenario =>
      have hfewer := hmulti hscenario
      omega
    · exact ⟨by decide, by decide⟩
  refine ⟨hfast.1, hfast.2, hcount.1, hcount.2, ?_⟩
  exact UInt64.le_iff_toNat_le.mp (UInt64.not_lt.mp hbudget)

/-- The numbers that the closed form multiplies and adds up. -/
structure Fits (clients rooms : ℕ) : Prop where
  small_rooms : (rooms - clients % rooms) * (clients / rooms) < 2 ^ 64
  small : (rooms - clients % rooms) * (clients / rooms) * (clients / rooms) < 2 ^ 64
  large_rooms : clients % rooms * (clients / rooms + 1) < 2 ^ 64
  large : clients % rooms * (clients / rooms + 1) * (clients / rooms + 1) < 2 ^ 64
  total : receipts clients rooms < 2 ^ 64

theorem fits_of_le {clients rooms : ℕ} (hclients : clients ≤ 1000) (hrooms : 0 < rooms)
    (hmany : rooms ≤ 1000) : Fits clients rooms := by
  have hsmall : clients / rooms ≤ 1000 := (Nat.div_le_self _ _).trans hclients
  have hlarge := Nat.mod_lt clients hrooms
  have hfirst : (rooms - clients % rooms) * (clients / rooms) ≤ 1000 * 1000 :=
    Nat.mul_le_mul (by omega) hsmall
  have hsecond : clients % rooms * (clients / rooms + 1) ≤ 1000 * 1001 :=
    Nat.mul_le_mul (by omega) (by omega)
  have hthird := Nat.mul_le_mul hfirst hsmall
  have hfourth := Nat.mul_le_mul hsecond (Nat.add_le_add_right hsmall 1)
  refine ⟨by omega, by omega, by omega, by omega, ?_⟩
  unfold receipts
  omega

theorem toNat_receiptsPerSequence {fastClients rooms : UInt64}
    (hrooms : 0 < rooms.toNat) (hfits : Fits fastClients.toNat rooms.toNat) :
    (receiptsPerSequence fastClients rooms).toNat = receipts fastClients.toNat rooms.toNat := by
  have hsub : (rooms - fastClients % rooms).toNat =
      rooms.toNat - fastClients.toNat % rooms.toNat := by
    rw [UInt64.toNat_sub_of_le, UInt64.toNat_mod]
    rw [UInt64.le_iff_toNat_le, UInt64.toNat_mod]
    exact (Nat.mod_lt _ hrooms).le
  simp only [receiptsPerSequence, UInt64.toNat_add, UInt64.toNat_mul, UInt64.toNat_mod,
    UInt64.toNat_div, UInt64.toNat_one, hsub, Nat.mod_mul_mod, Nat.mul_mod_mod, Nat.mod_add_mod,
    Nat.add_mod_mod]
  exact Nat.mod_eq_of_lt hfits.total

/-- The receipts that are budgeted are those of the actual rooms, and valid
options stay within the budget. -/
theorem receipt_budget :
    (∀ clients rooms : ℕ, 0 < clients → 0 < rooms →
      receipts clients rooms =
        ∑ room ∈ Finset.range rooms, Nat.count (· % rooms = room) clients ^ 2 ∧
      roomSizes clients rooms =
        (range rooms).map (fun room => Nat.count (· % rooms = room) clients) ∧
      0 < receipts clients rooms) ∧
    ∀ options : ScenarioOptions, options.validateScenarioOptions = .ok () →
      Fits options.fastClients.toNat options.roomCount.toNat ∧
      (receiptsPerSequence options.fastClients options.roomCount).toNat =
        receipts options.fastClients.toNat options.roomCount.toNat ∧
      options.messagesPerSender.toNat *
        receipts options.fastClients.toNat options.roomCount.toNat ≤ 5000000 := by
  constructor
  · intro clients rooms hclients hrooms
    exact ⟨receipts_eq_sum hrooms, roomSizes_eq clients rooms, receipts_pos hclients hrooms⟩
  · intro options hvalidate
    have hvalid := valid_of_validate hvalidate
    have hfits := fits_of_le hvalid.fast_le hvalid.rooms_pos hvalid.rooms_le
    have hreceipts := toNat_receiptsPerSequence hvalid.rooms_pos hfits
    refine ⟨hfits, hreceipts, ?_⟩
    have hbudget := hvalid.budget
    rw [UInt64.toNat_div, hreceipts] at hbudget
    exact (Nat.le_div_iff_mul_le (receipts_pos hvalid.fast_pos hvalid.rooms_pos)).mp hbudget

end ScenarioOptions

end SessionServer.Scenario
