import Mathlib.Data.List.Pairwise
import Mathlib.Data.List.Basic
import Mathlib.Order.Defs.LinearOrder
import Mathlib.Tactic

/-!
# Ordered maps

The entries of a map kept in strictly increasing key order.  Iteration goes
through the keys in that order, and `emplace` inserts only when the key is
absent.  Counting the values that satisfy a predicate is the interface the
accounting arguments use.
-/

structure OrderedMap (κ ν : Type*) [LinearOrder κ] where
  entries : List (κ × ν)
  sorted : entries.Pairwise (fun first second => first.1 < second.1)

namespace OrderedMap

open List

variable {κ ν : Type*} [LinearOrder κ]
variable {key : κ} {value : ν} {map : OrderedMap κ ν}

def empty : OrderedMap κ ν where
  entries := []
  sorted := List.Pairwise.nil

def size (map : OrderedMap κ ν) : ℕ :=
  map.entries.length

def find? (map : OrderedMap κ ν) (key : κ) : Option ν :=
  (map.entries.find? fun entry => entry.1 == key).map Prod.snd

def contains (map : OrderedMap κ ν) (key : κ) : Bool :=
  (map.find? key).isSome

/-- The first value, in key order, that satisfies the predicate. -/
def firstValue? (map : OrderedMap κ ν) (predicate : ν → Bool) : Option ν :=
  (map.entries.find? fun entry => predicate entry.2).map Prod.snd

def countValues (map : OrderedMap κ ν) (predicate : ν → Bool) : ℕ :=
  map.entries.countP fun entry => predicate entry.2

private def insertEntry (key : κ) (value : ν) : List (κ × ν) → List (κ × ν)
  | [] => [(key, value)]
  | entry :: rest =>
    if key < entry.1 then (key, value) :: entry :: rest
    else entry :: insertEntry key value rest

private theorem perm_insertEntry (key : κ) (value : ν) (entries : List (κ × ν)) :
    (insertEntry key value entries).Perm ((key, value) :: entries) := by
  induction entries with
  | nil => exact List.Perm.refl _
  | cons entry _ ih =>
    unfold insertEntry
    split
    · exact List.Perm.refl _
    · exact (ih.cons entry).trans (List.Perm.swap _ _ _)

private theorem sorted_insertEntry {entries : List (κ × ν)}
    (hsorted : entries.Pairwise (fun first second => first.1 < second.1))
    (habsent : ∀ entry ∈ entries, entry.1 ≠ key) :
    (insertEntry key value entries).Pairwise (fun first second => first.1 < second.1) := by
  induction entries with
  | nil => simp [insertEntry]
  | cons entry rest ih =>
    have hrest := pairwise_cons.mp hsorted
    unfold insertEntry
    split
    next hlt =>
      refine pairwise_cons.mpr ⟨?_, hsorted⟩
      intro other hother
      rcases mem_cons.mp hother with heq | hmem
      · rw [heq]
        exact hlt
      · exact hlt.trans (hrest.1 other hmem)
    next hge =>
      have htail := ih hrest.2 (fun other hother => habsent other (mem_cons_of_mem _ hother))
      refine pairwise_cons.mpr ⟨?_, htail⟩
      intro other hother
      have hmem := (perm_insertEntry key value rest).mem_iff.mp hother
      rcases mem_cons.mp hmem with heq | hold
      · rw [heq]
        exact lt_of_le_of_ne (not_lt.mp hge) (habsent entry (by simp))
      · exact hrest.1 other hold

theorem find?_eq_none_iff (map : OrderedMap κ ν) (key : κ) :
    map.find? key = none ↔ ∀ entry ∈ map.entries, entry.1 ≠ key := by
  simp [find?, find?_eq_none]

/-- Insert the value unless the key is present; the flag reports whether it
was inserted. -/
def emplace (map : OrderedMap κ ν) (key : κ) (value : ν) :
    OrderedMap κ ν × Bool :=
  if habsent : map.find? key = none then
    ({ entries := insertEntry key value map.entries
       sorted := sorted_insertEntry map.sorted ((map.find?_eq_none_iff key).mp habsent) }, true)
  else
    (map, false)

def erase (map : OrderedMap κ ν) (key : κ) : OrderedMap κ ν where
  entries := map.entries.filter fun entry => !(entry.1 == key)
  sorted := map.sorted.filter _

@[simp] theorem empty_entries : (empty : OrderedMap κ ν).entries = [] := rfl

@[simp] theorem countValues_empty (predicate : ν → Bool) :
    (empty : OrderedMap κ ν).countValues predicate = 0 := rfl

@[simp] theorem size_empty : (empty : OrderedMap κ ν).size = 0 := rfl

@[simp] theorem find?_empty (key : κ) :
    (empty : OrderedMap κ ν).find? key = none := rfl

theorem emplace_of_absent (value : ν) (habsent : map.contains key = false) :
    (map.emplace key value).2 = true ∧
      (map.emplace key value).1.entries.Perm ((key, value) :: map.entries) := by
  have hnone : map.find? key = none := by
    simpa [contains] using habsent
  unfold emplace
  rw [dif_pos hnone]
  exact ⟨rfl, perm_insertEntry key value map.entries⟩

theorem mem_emplace (habsent : map.contains key = false) (entry : κ × ν) :
    entry ∈ (map.emplace key value).1.entries ↔ entry = (key, value) ∨ entry ∈ map.entries := by
  rw [(emplace_of_absent value habsent).2.mem_iff, mem_cons]

theorem countValues_emplace (habsent : map.contains key = false) (predicate : ν → Bool) :
    (map.emplace key value).1.countValues predicate =
      map.countValues predicate + (if predicate value then 1 else 0) := by
  unfold countValues
  rw [(emplace_of_absent value habsent).2.countP_eq, countP_cons]

theorem find?_some_mem (hfind : map.find? key = some value) : (key, value) ∈ map.entries := by
  obtain ⟨_, hentry, hvalue⟩ := Option.map_eq_some_iff.mp hfind
  have hkey := find?_some hentry
  have hmem := mem_of_find?_eq_some hentry
  simp only [beq_iff_eq] at hkey
  rwa [← hkey, ← hvalue]

theorem mem_erase (map : OrderedMap κ ν) (key : κ) (entry : κ × ν) :
    entry ∈ (map.erase key).entries ↔ entry ∈ map.entries ∧ entry.1 ≠ key := by
  simp [erase, mem_filter]

private theorem countP_filter_key {entries : List (κ × ν)}
    (hsorted : entries.Pairwise (fun first second => first.1 < second.1))
    (hmem : (key, value) ∈ entries) (predicate : ν → Bool) :
    (entries.filter fun entry => !(entry.1 == key)).countP
        (fun entry => predicate entry.2) + (if predicate value then 1 else 0) =
      entries.countP fun entry => predicate entry.2 := by
  induction entries with
  | nil => simp at hmem
  | cons entry rest ih =>
    have hrest := pairwise_cons.mp hsorted
    rcases mem_cons.mp hmem with heq | htail
    · subst heq
      have hkeep : rest.filter (fun entry => !(entry.1 == key)) = rest := by
        apply filter_eq_self.mpr
        intro other hother
        simpa using (ne_of_gt (hrest.1 other hother))
      simp [hkeep, countP_cons]
    · have hne : entry.1 ≠ key := ne_of_lt (hrest.1 _ htail)
      have hih := ih hrest.2 htail
      simp only [filter_cons, beq_eq_false_iff_ne.mpr hne,
        Bool.not_false, if_true, countP_cons] at hih ⊢
      omega

theorem countValues_erase (hfind : map.find? key = some value) (predicate : ν → Bool) :
    (map.erase key).countValues predicate + (if predicate value then 1 else 0) =
      map.countValues predicate :=
  countP_filter_key map.sorted (find?_some_mem hfind) predicate

theorem firstValue?_some {predicate : ν → Bool} (hfirst : map.firstValue? predicate = some value) :
    predicate value = true ∧ ∃ key, (key, value) ∈ map.entries := by
  obtain ⟨entry, hentry, hvalue⟩ := Option.map_eq_some_iff.mp hfirst
  subst hvalue
  have hpredicate : predicate entry.2 = true := by
    simpa using find?_some hentry
  exact ⟨hpredicate, entry.1, mem_of_find?_eq_some hentry⟩

theorem firstValue?_none_iff (map : OrderedMap κ ν) (predicate : ν → Bool) :
    map.firstValue? predicate = none ↔ map.countValues predicate = 0 := by
  simp [firstValue?, countValues, find?_eq_none, countP_eq_zero]

theorem countValues_pos_of_mem {entry : κ × ν} (hmem : entry ∈ map.entries) {predicate : ν → Bool}
    (hvalue : predicate entry.2 = true) :
    0 < map.countValues predicate :=
  countP_pos_iff.mpr ⟨entry, hmem, hvalue⟩

end OrderedMap
