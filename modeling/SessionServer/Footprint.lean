import Mathlib

/-!
# Operations with a footprint

A state is read location by location.  An operation is local to some locations
at a state if, started in any state that agrees with this one there, it gives
the same answer, writes the same values there, and leaves every other location
as it found it.  Operations that are local to disjoint locations commute.
-/

namespace Footprint

variable {Location State Answer Reply : Type*} {Value : Location → Type*}

def Agree (read : State → ∀ location, Value location) (locations : Set Location)
    (state other : State) : Prop :=
  ∀ location ∈ locations, read other location = read state location

structure LocalAt (read : State → ∀ location, Value location)
    (operation : State → Answer × State) (locations : Set Location) (state : State) :
    Prop where
  answer_eq : ∀ other, Agree read locations state other → (operation other).1 = (operation state).1
  effect_eq : ∀ other, Agree read locations state other → ∀ location ∈ locations,
    read (operation other).2 location = read (operation state).2 location
  frame : ∀ other, Agree read locations state other → ∀ location ∉ locations,
    read (operation other).2 location = read other location

variable {read : State → ∀ location, Value location}
  {operation : State → Answer × State} {partner : State → Reply × State}
  {locations others : Set Location} {state : State}

theorem Agree.refl (locations : Set Location) (state : State) :
    Agree read locations state state := by
  intro _ _
  rfl

theorem LocalAt.still
    (hstill : ∀ other, Agree read locations state other →
      operation other = ((operation state).1, other)) :
    LocalAt read operation locations state where
  answer_eq := by
    intro other hagree
    rw [hstill other hagree]
  effect_eq := by
    intro other hagree location hlocation
    rw [hstill other hagree, hstill state (Agree.refl locations state)]
    exact hagree location hlocation
  frame := by
    intro other hagree _ _
    rw [hstill other hagree]

/-- An operation that answers alike and writes alike, value by value, and only
into its locations. -/
theorem LocalAt.writes (write : ∀ location, Value location → Value location)
    (houtside : ∀ location ∉ locations, ∀ value, write location value = value)
    (hanswer : ∀ other, Agree read locations state other →
      (operation other).1 = (operation state).1)
    (heffect : ∀ other, Agree read locations state other → ∀ location,
      read (operation other).2 location = write location (read other location)) :
    LocalAt read operation locations state where
  answer_eq := hanswer
  effect_eq := by
    intro other hagree location hlocation
    rw [heffect other hagree, heffect state (Agree.refl locations state), hagree location hlocation]
  frame := by
    intro other hagree location hlocation
    rw [heffect other hagree, houtside location hlocation]

theorem LocalAt.map (hlocal : LocalAt read operation locations state) (form : Answer → Reply) :
    LocalAt read (fun before => (form (operation before).1, (operation before).2))
      locations state where
  answer_eq := by
    intro other hagree
    rw [hlocal.answer_eq other hagree]
  effect_eq := hlocal.effect_eq
  frame := hlocal.frame

/-- An operation leaves the partner's locations alone. -/
theorem LocalAt.agree (hlocal : LocalAt read operation locations state)
    (hdisjoint : Disjoint locations others) :
    Agree read others state (operation state).2 := by
  intro _ hlocation
  apply hlocal.frame state (Agree.refl locations state)
  exact Set.disjoint_right.mp hdisjoint hlocation

/-- Local operations on disjoint locations commute: each gives the answer it
would give alone, and the order does not show in the state. -/
theorem LocalAt.commute
    (hread : ∀ left right : State, (∀ location, read left location = read right location) →
      left = right)
    (hoperation : LocalAt read operation locations state)
    (hpartner : LocalAt read partner others state) (hdisjoint : Disjoint locations others) :
    (operation (partner state).2).1 = (operation state).1 ∧
      (partner (operation state).2).1 = (partner state).1 ∧
      (partner (operation state).2).2 = (operation (partner state).2).2 := by
  have hfirst : Agree read locations state (partner state).2 := hpartner.agree hdisjoint.symm
  have hsecond : Agree read others state (operation state).2 := hoperation.agree hdisjoint
  refine ⟨hoperation.answer_eq _ hfirst, hpartner.answer_eq _ hsecond, ?_⟩
  apply hread
  intro location
  by_cases hlocation : location ∈ locations
  · have houtside : location ∉ others := Set.disjoint_left.mp hdisjoint hlocation
    rw [hpartner.frame _ hsecond location houtside,
      hoperation.effect_eq _ hfirst location hlocation]
  · rw [hoperation.frame _ hfirst location hlocation]
    by_cases hother : location ∈ others
    · exact hpartner.effect_eq _ hsecond location hother
    · rw [hpartner.frame _ hsecond location hother,
        hpartner.frame state (Agree.refl others state) location hother,
        hoperation.frame state (Agree.refl locations state) location hlocation]

end Footprint
