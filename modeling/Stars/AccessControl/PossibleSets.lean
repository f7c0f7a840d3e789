import Mathlib.Data.Set.Basic

namespace Stars
namespace AccessControl

/-!
# Possible sets

A set of which some elements are certain and others may or may not be held: any
of the optional elements can be added to the certain ones.  A list of elements is
met by every possible set exactly when it holds a certain one, and by some
possible set exactly when it holds a certain or an optional one.
-/

variable {α : Type}

/-- The certain elements with any of the optional ones. -/
def PossibleSet (certain optional held : Set α) : Prop :=
  ∃ further ⊆ optional, held = certain ∪ further

/-- A set holds one of the elements of a list. -/
def Meets (elements : List α) (held : Set α) : Prop := ∃ element ∈ elements, element ∈ held

variable {certain optional : Set α}

theorem possibleSet_certain : PossibleSet certain optional certain :=
  ⟨∅, Set.empty_subset optional, (Set.union_empty certain).symm⟩

theorem possibleSet_all : PossibleSet certain optional (certain ∪ optional) :=
  ⟨optional, subset_rfl, rfl⟩

theorem PossibleSet.certain_subset {held : Set α} (possible : PossibleSet certain optional held) :
    certain ⊆ held := by
  rcases possible with ⟨further, _, rfl⟩
  exact Set.subset_union_left

theorem PossibleSet.subset_all {held : Set α} (possible : PossibleSet certain optional held) :
    held ⊆ certain ∪ optional := by
  rcases possible with ⟨further, inside, rfl⟩
  exact Set.union_subset_union_right certain inside

/-- An element is in every possible set exactly when it is certain. -/
theorem mem_every_iff {element : α} :
    (∀ held, PossibleSet certain optional held → element ∈ held) ↔ element ∈ certain :=
  ⟨fun every => every certain possibleSet_certain,
    fun known _ possible => possible.certain_subset known⟩

/-- An element is in some possible set exactly when it is certain or optional. -/
theorem mem_some_iff {element : α} :
    (∃ held, PossibleSet certain optional held ∧ element ∈ held) ↔
      element ∈ certain ∨ element ∈ optional := by
  constructor
  · rintro ⟨held, possible, inside⟩
    exact possible.subset_all inside
  · exact fun inside => ⟨_, possibleSet_all, inside⟩

theorem meets_every_iff {elements : List α} :
    (∀ held, PossibleSet certain optional held → Meets elements held) ↔ Meets elements certain := by
  constructor
  · exact fun every => every certain possibleSet_certain
  · rintro ⟨element, member, known⟩ held possible
    exact ⟨element, member, possible.certain_subset known⟩

theorem meets_some_iff {elements : List α} :
    (∃ held, PossibleSet certain optional held ∧ Meets elements held) ↔
      Meets elements certain ∨ Meets elements optional := by
  constructor
  · rintro ⟨held, possible, element, member, inside⟩
    rcases possible.subset_all inside with known | undecided
    · exact Or.inl ⟨element, member, known⟩
    · exact Or.inr ⟨element, member, undecided⟩
  · rintro (⟨element, member, known⟩ | ⟨element, member, undecided⟩)
    · exact ⟨_, possibleSet_all, element, member, Or.inl known⟩
    · exact ⟨_, possibleSet_all, element, member, Or.inr undecided⟩

end AccessControl
end Stars
