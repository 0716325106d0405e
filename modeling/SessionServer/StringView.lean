import Mathlib.Data.List.Basic

/-!
# Searching and cutting text

`find` and `substr` of a string view, and how a search for a separator cuts off
the first segment.
-/

namespace StringView

open List

variable {α : Type} [DecidableEq α]

/-- The first index from `position` on at which the character stands. -/
def find (text : List α) (character : α) (position : ℕ) : Option ℕ :=
  ((text.drop position).idxOf? character).map (position + ·)

def substr (text : List α) (position count : ℕ) : List α :=
  (text.drop position).take count

variable {text : List α} {character : α} {position index : ℕ}

theorem find_eq_none_iff :
    find text character position = none ↔ character ∉ text.drop position := by
  rw [find, Option.map_eq_none_iff, idxOf?_eq_none_iff]

theorem le_of_find (hfind : find text character position = some index) : position ≤ index := by
  obtain ⟨offset, _, rfl⟩ := Option.map_eq_some_iff.mp hfind
  exact Nat.le_add_right position offset

/-- The text from a position on is the segment before the character, the
character and the text behind it. -/
theorem find_eq_some (hfind : find text character position = some index) :
    text.drop position = substr text position (index - position) ++
        character :: text.drop (index + 1) ∧
      character ∉ substr text position (index - position) ∧ index < text.length := by
  obtain ⟨offset, hoffset, rfl⟩ := Option.map_eq_some_iff.mp hfind
  obtain ⟨hlt, hget, hbefore⟩ := idxOf?_eq_some_iff.mp hoffset
  rw [Nat.add_sub_cancel_left, substr]
  refine ⟨?_, ?_, ?_⟩
  · calc text.drop position
        = (text.drop position).take offset ++ (text.drop position).drop offset :=
          (take_append_drop offset _).symm
      _ = (text.drop position).take offset ++ character :: text.drop (position + offset + 1) := by
          rw [drop_eq_getElem_cons hlt, hget, drop_drop, Nat.add_assoc]
  · intro hmem
    obtain ⟨earlier, hearlier, hsame⟩ := mem_iff_getElem.mp hmem
    rw [length_take] at hearlier
    rw [getElem_take] at hsame
    exact hbefore earlier (by omega) hsame
  · rw [length_drop] at hlt
    omega

/-- The first segment when the separator is found, and what is left to split. -/
theorem splitOn_of_find (hfind : find text character position = some index) :
    (text.drop position).splitOn character =
      substr text position (index - position) :: (text.drop (index + 1)).splitOn character := by
  obtain ⟨hsplit, habsent, _⟩ := find_eq_some hfind
  rw [hsplit]
  apply splitOnP_append_cons_of_forall_mem
  · intro _ hother
    rw [beq_eq_false_iff_ne]
    rintro rfl
    exact habsent hother
  · exact beq_self_eq_true character

theorem splitOn_of_find_none (hfind : find text character position = none) :
    (text.drop position).splitOn character = [text.drop position] := by
  apply splitOnP_eq_singleton
  intro _ hother
  rw [beq_eq_false_iff_ne]
  rintro rfl
  exact find_eq_none_iff.mp hfind hother

end StringView
