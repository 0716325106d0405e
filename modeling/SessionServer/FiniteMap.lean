import Mathlib.Data.Finmap
import Mathlib.Tactic

/-!
# Finite maps

What a lookup finds after an entry was written or erased, read forwards as an
equation and backwards from the entry that was found.
-/

namespace FiniteMap

open Finmap

variable {κ ν : Type*} [DecidableEq κ] {map : Finmap fun _ : κ => ν}
variable {key other : κ} {value found : ν}

theorem lookup_insert_ite (map : Finmap fun _ : κ => ν) (key other : κ) (value : ν) :
    (map.insert key value).lookup other = if other = key then some value else map.lookup other := by
  by_cases hother : other = key
  · rw [if_pos hother, hother]
    exact lookup_insert map
  · rw [if_neg hother]
    exact lookup_insert_of_ne map hother

theorem lookup_erase_ite (map : Finmap fun _ : κ => ν) (key other : κ) :
    (map.erase key).lookup other = if other = key then none else map.lookup other := by
  by_cases hother : other = key
  · rw [if_pos hother, hother]
    exact lookup_erase key map
  · rw [if_neg hother]
    exact lookup_erase_ne hother

theorem of_lookup_insert (hlookup : (map.insert key value).lookup other = some found) :
    other = key ∧ found = value ∨ other ≠ key ∧ map.lookup other = some found := by
  rw [lookup_insert_ite] at hlookup
  split at hlookup
  · next hsame => exact .inl ⟨hsame, (Option.some.inj hlookup).symm⟩
  · next hother => exact .inr ⟨hother, hlookup⟩

theorem of_lookup_erase (hlookup : (map.erase key).lookup other = some found) :
    other ≠ key ∧ map.lookup other = some found := by
  rw [lookup_erase_ite] at hlookup
  split at hlookup
  · cases hlookup
  · next hother => exact ⟨hother, hlookup⟩

theorem keys_insert (map : Finmap fun _ : κ => ν) (key : κ) (value : ν) :
    (map.insert key value).keys = insert key map.keys := by
  ext other
  rw [mem_keys, mem_insert, Finset.mem_insert, mem_keys]

theorem mem_keys_iff (map : Finmap fun _ : κ => ν) (key : κ) :
    key ∈ map.keys ↔ map.lookup key ≠ none := by
  rw [mem_keys, ne_eq, lookup_eq_none, not_not]

end FiniteMap
