import Mathlib.Data.List.Basic

/-!
# Chronicles

A list that only grows at its end is a chronicle of what has happened.  What
holds of each entry, given the entries before it, is proved once per entry and
then holds at every place of the list.
-/

/-- Every entry meets the condition, given those before it. -/
def Chronicle {Entry : Type*} (holds : List Entry → Entry → Prop) (entries : List Entry) :
    Prop :=
  ∀ earlier entry later, entries = earlier ++ entry :: later → holds earlier entry

namespace Chronicle

variable {Entry : Type*} {holds : List Entry → Entry → Prop} {entries : List Entry}

theorem nil : Chronicle holds [] := by
  intro _ _ _ hentries
  simp at hentries

theorem concat (hchronicle : Chronicle holds entries) {entry : Entry}
    (hentry : holds entries entry) : Chronicle holds (entries ++ [entry]) := by
  intro earlier other later hentries
  cases List.eq_nil_or_concat later with
  | inl hnil =>
    subst hnil
    obtain ⟨hearlier, hother⟩ := List.append_inj' hentries rfl
    cases hother
    rw [← hearlier]
    exact hentry
  | inr hconcat =>
    obtain ⟨rest, _, hlater⟩ := hconcat
    rw [hlater, List.concat_eq_append, ← List.cons_append, ← List.append_assoc] at hentries
    exact hchronicle earlier other rest (List.append_inj' hentries rfl).1

end Chronicle
