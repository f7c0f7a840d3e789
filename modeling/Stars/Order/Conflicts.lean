import Mathlib.Data.List.Induction
import Mathlib.Data.Nat.Find
import Mathlib.Order.Bounds.Basic

namespace Stars
namespace Order

/-!
# First conflicts in a list

A relation between an earlier and a later element says when the two must not
stand in this order.  A position is in conflict when an element before it
conflicts with the one it holds.  A list without a position in conflict is
pairwise free of conflicts, and the first position in conflict ends the first
prefix that is not.
-/

universe u

variable {α : Type u} (conflicts : α → α → Prop)

/-- An element before the position conflicts with the one it holds. -/
def ConflictAt (list : List α) (position : Nat) : Prop :=
  ∃ later, list[position]? = some later ∧ ∃ earlier ∈ list.take position, conflicts earlier later

/-- No two elements are in conflict. -/
def ConflictFree (list : List α) : Prop :=
  list.Pairwise (fun earlier later => ¬ conflicts earlier later)

variable {conflicts}

theorem ConflictAt.lt_length {list : List α} {position : Nat}
    (conflict : ConflictAt conflicts list position) : position < list.length := by
  rcases conflict with ⟨later, found, _⟩
  exact (List.getElem?_eq_some_iff.mp found).1

theorem not_conflictAt_nil (position : Nat) : ¬ ConflictAt conflicts [] position :=
  fun conflict => Nat.not_lt_zero position conflict.lt_length

/-- What follows a position does not matter for it. -/
theorem conflictAt_append_left {left right : List α} {position : Nat}
    (inside : position < left.length) :
    ConflictAt conflicts (left ++ right) position ↔ ConflictAt conflicts left position := by
  rw [ConflictAt, ConflictAt, List.getElem?_append_left inside,
    List.take_append_of_le_length (Nat.le_of_lt inside)]

theorem conflictAt_append_cons {left right : List α} {element : α} :
    ConflictAt conflicts (left ++ element :: right) left.length ↔
      ∃ earlier ∈ left, conflicts earlier element := by
  rw [ConflictAt, List.getElem?_append_right (Nat.le_refl _), Nat.sub_self,
    List.getElem?_cons_zero, List.take_left]
  constructor
  · rintro ⟨later, same, found⟩
    cases same
    exact found
  · intro found
    exact ⟨element, rfl, found⟩

theorem conflictAt_snoc {left : List α} {element : α} {position : Nat} :
    ConflictAt conflicts (left ++ [element]) position ↔
      ConflictAt conflicts left position ∨
        (position = left.length ∧ ∃ earlier ∈ left, conflicts earlier element) := by
  constructor
  · intro conflict
    have bounded := conflict.lt_length
    rw [List.length_append, List.length_singleton] at bounded
    rcases Nat.lt_succ_iff_lt_or_eq.mp bounded with inside | same
    · exact Or.inl ((conflictAt_append_left inside).mp conflict)
    · subst same
      exact Or.inr ⟨rfl, conflictAt_append_cons.mp conflict⟩
  · rintro (conflict | ⟨rfl, found⟩)
    · exact (conflictAt_append_left conflict.lt_length).mpr conflict
    · exact conflictAt_append_cons.mpr found

theorem conflictFree_snoc {left : List α} {element : α} :
    ConflictFree conflicts (left ++ [element]) ↔
      ConflictFree conflicts left ∧ ¬ ∃ earlier ∈ left, conflicts earlier element := by
  rw [ConflictFree, ConflictFree, List.pairwise_append]
  simp only [List.pairwise_singleton, true_and, List.mem_singleton, forall_eq, not_exists, not_and]

theorem conflictFree_iff {list : List α} :
    ConflictFree conflicts list ↔ ∀ position, ¬ ConflictAt conflicts list position := by
  induction list using List.reverseRecOn with
  | nil => exact iff_of_true List.Pairwise.nil not_conflictAt_nil
  | append_singleton left element ih =>
      rw [conflictFree_snoc, ih]
      constructor
      · rintro ⟨free, absent⟩ position conflict
        rcases conflictAt_snoc.mp conflict with before | ⟨_, found⟩
        · exact free position before
        · exact absent found
      · intro free
        exact ⟨fun position conflict => free position (conflictAt_snoc.mpr (Or.inl conflict)),
          fun found => free left.length (conflictAt_snoc.mpr (Or.inr ⟨rfl, found⟩))⟩

/-- A list that is not free of conflicts has a first position in conflict. -/
theorem conflictFree_of_no_first {list : List α}
    (noLeast : ∀ position, ¬ IsLeast {place | ConflictAt conflicts list place} position) :
    ConflictFree conflicts list := by
  classical
  refine conflictFree_iff.mpr (fun place conflict => ?_)
  have found : ∃ position, ConflictAt conflicts list position := ⟨place, conflict⟩
  exact noLeast (Nat.find found) ⟨Nat.find_spec found, fun _ => Nat.find_min' found⟩

theorem conflictFree_iff_getElem? {list : List α} :
    ConflictFree conflicts list ↔ ∀ first second : Nat, first < second → ∀ earlier later,
      list[first]? = some earlier → list[second]? = some later → ¬ conflicts earlier later := by
  rw [ConflictFree, List.pairwise_iff_getElem]
  constructor
  · intro free first second below earlier later found other
    rcases List.getElem?_eq_some_iff.mp found with ⟨bounded, rfl⟩
    rcases List.getElem?_eq_some_iff.mp other with ⟨within, rfl⟩
    exact free first second bounded within below
  · intro free first second bounded within below
    exact free first second below _ _ (List.getElem?_eq_getElem bounded)
      (List.getElem?_eq_getElem within)

/-- A prefix is free of conflicts when its positions are. -/
theorem conflictFree_take_iff {list : List α} {count : Nat} :
    ConflictFree conflicts (list.take count) ↔
      ∀ position < count, ¬ ConflictAt conflicts list position := by
  rw [conflictFree_iff]
  have same : ∀ position, ConflictAt conflicts (list.take count) position ↔
      position < count ∧ ConflictAt conflicts list position := by
    intro position
    constructor
    · intro conflict
      have bounded := conflict.lt_length
      have whole : ConflictAt conflicts (list.take count ++ list.drop count) position :=
        (conflictAt_append_left bounded).mpr conflict
      rw [List.take_append_drop] at whole
      rw [List.length_take] at bounded
      exact ⟨Nat.lt_of_lt_of_le bounded (Nat.min_le_left _ _), whole⟩
    · rintro ⟨below, conflict⟩
      have bounded : position < (list.take count).length := by
        rw [List.length_take]
        exact Nat.lt_min.mpr ⟨below, conflict.lt_length⟩
      rw [← List.take_append_drop count list] at conflict
      exact (conflictAt_append_left bounded).mp conflict
  simp only [same, not_and]

/-- The first position in conflict ends the first prefix with a conflict. -/
theorem isLeast_conflictAt_iff {list : List α} {position : Nat} :
    IsLeast {place | ConflictAt conflicts list place} position ↔
      IsLeast {place | place < list.length ∧ ¬ ConflictFree conflicts (list.take (place + 1))}
        position := by
  constructor
  · rintro ⟨conflict, least⟩
    refine ⟨⟨conflict.lt_length, ?_⟩, ?_⟩
    · intro free
      exact conflictFree_take_iff.mp free position (Nat.lt_succ_self _) conflict
    · rintro place ⟨_, broken⟩
      by_contra below
      refine broken (conflictFree_take_iff.mpr (fun other before conflicted => ?_))
      have reached := least conflicted
      omega
  · rintro ⟨⟨_, broken⟩, least⟩
    have earlier : ∀ place < position, ¬ ConflictAt conflicts list place := by
      intro place below conflict
      have reached := least (a := place) ⟨conflict.lt_length, fun free =>
        conflictFree_take_iff.mp free place (Nat.lt_succ_self _) conflict⟩
      omega
    refine ⟨?_, ?_⟩
    · by_contra absent
      refine broken (conflictFree_take_iff.mpr (fun place below conflict => ?_))
      rcases Nat.lt_succ_iff_lt_or_eq.mp below with before | rfl
      · exact earlier place before conflict
      · exact absent conflict
    · intro place conflict
      by_contra below
      exact earlier place (Nat.lt_of_not_le below) conflict

end Order
end Stars
