import Mathlib.Data.List.Nodup
import Mathlib.Data.List.Sort

namespace Stars
namespace Order

/-!
# Sorting by a key

A stable sort whose comparison reads only a key of each element.  When no two
elements share a key, the sorted list depends on the set of elements alone: any
order in which they were collected gives the same list.
-/

open Std

variable {α β κ : Type} {cmp : κ → κ → Ordering} {key : α → κ}

/-- The relation a comparison of keys sorts by. -/
def NotAfter (cmp : κ → κ → Ordering) (key : α → κ) (left right : α) : Prop :=
  (cmp (key left) (key right)).isLE = true

instance : DecidableRel (NotAfter cmp key) :=
  fun left right => inferInstanceAs (Decidable ((cmp (key left) (key right)).isLE = true))

def sortBy (cmp : κ → κ → Ordering) (key : α → κ) (elements : List α) : List α :=
  elements.insertionSort (NotAfter cmp key)

theorem perm_sortBy (elements : List α) : (sortBy cmp key elements).Perm elements :=
  List.perm_insertionSort _ elements

@[simp]
theorem mem_sortBy {element : α} {elements : List α} :
    element ∈ sortBy cmp key elements ↔ element ∈ elements :=
  (perm_sortBy elements).mem_iff

section Lawful

variable [TransCmp cmp]

instance : Std.Total (NotAfter cmp key) where
  total := by
    intro left right
    cases outcome : cmp (key left) (key right) with
    | lt => exact Or.inl (by rw [NotAfter, outcome]; rfl)
    | eq => exact Or.inl (by rw [NotAfter, outcome]; rfl)
    | gt =>
        have swapped := OrientedCmp.lt_of_gt outcome
        exact Or.inr (by rw [NotAfter, swapped]; rfl)

instance : IsTrans α (NotAfter cmp key) where
  trans := by
    intro first second third before after
    exact TransCmp.isLE_trans before after

theorem pairwise_sortBy (elements : List α) :
    (sortBy cmp key elements).Pairwise (NotAfter cmp key) :=
  List.pairwise_insertionSort _ elements

/-- With distinct keys the sorted list does not depend on the order of
collection. -/
theorem sortBy_eq_of_perm [LawfulEqCmp cmp] {first second : List α}
    (distinct : (first.map key).Nodup) (perm : first.Perm second) :
    sortBy cmp key first = sortBy cmp key second := by
  have sorted : (sortBy cmp key first).Perm (sortBy cmp key second) :=
    (perm_sortBy first).trans (perm.trans (perm_sortBy second).symm)
  refine sorted.eq_of_pairwise ?_ (pairwise_sortBy first) (pairwise_sortBy second)
  intro left right leftMem rightMem before after
  apply List.inj_on_of_nodup_map distinct (mem_sortBy.mp leftMem)
  · exact perm.mem_iff.mpr (mem_sortBy.mp rightMem)
  · exact LawfulEqCmp.eq_of_compare (OrientedCmp.isLE_antisymm before after)

/-- With distinct keys the sorted list is determined by its elements. -/
theorem sortBy_eq_of_mem_iff [LawfulEqCmp cmp] {first second : List α}
    (firstDistinct : (first.map key).Nodup) (secondDistinct : (second.map key).Nodup)
    (same : ∀ element, element ∈ first ↔ element ∈ second) :
    sortBy cmp key first = sortBy cmp key second := by
  apply sortBy_eq_of_perm firstDistinct
  exact (List.perm_ext_iff_of_nodup firstDistinct.of_map secondDistinct.of_map).mpr same

end Lawful

/-- Sorting commutes with a change of the elements that keeps their keys. -/
theorem map_sortBy {other : β → κ} {change : α → β} {elements : List α}
    (same : ∀ element ∈ elements, other (change element) = key element) :
    (sortBy cmp key elements).map change = sortBy cmp other (elements.map change) := by
  apply List.map_insertionSort
  intro left leftMem right rightMem
  rw [NotAfter, NotAfter, same left leftMem, same right rightMem]

section Dedup

variable [DecidableEq α]

/-- Drop each element that equals the one before it. -/
def dedupAdjacent : List α → List α
  | [] => []
  | [element] => [element]
  | first :: second :: rest =>
      if first = second then dedupAdjacent (second :: rest)
      else first :: dedupAdjacent (second :: rest)

theorem dedupAdjacent_sublist (elements : List α) :
    (dedupAdjacent elements).Sublist elements := by
  induction elements using dedupAdjacent.induct with
  | case1 => exact List.Sublist.refl []
  | case2 element => exact List.Sublist.refl [element]
  | case3 second rest known =>
      rw [dedupAdjacent, if_pos rfl]
      exact known.cons _
  | case4 first second rest apart known =>
      rw [dedupAdjacent, if_neg apart]
      exact known.cons_cons _

@[simp]
theorem mem_dedupAdjacent {element : α} {elements : List α} :
    element ∈ dedupAdjacent elements ↔ element ∈ elements := by
  induction elements using dedupAdjacent.induct with
  | case1 => exact Iff.rfl
  | case2 _ => exact Iff.rfl
  | case3 second rest known =>
      rw [dedupAdjacent, if_pos rfl, known, List.mem_cons, List.mem_cons, List.mem_cons]
      exact ⟨Or.inr, fun member => member.elim Or.inl id⟩
  | case4 first second rest apart known =>
      rw [dedupAdjacent, if_neg apart, List.mem_cons, known, List.mem_cons, List.mem_cons,
        List.mem_cons]

/-- Equal elements of a sorted list stand side by side. -/
theorem nodup_dedupAdjacent {le : α → α → Prop}
    (antisymm : ∀ left right, le left right → le right left → left = right)
    {elements : List α} (sorted : elements.Pairwise le) : (dedupAdjacent elements).Nodup := by
  induction elements using dedupAdjacent.induct with
  | case1 => exact List.nodup_nil
  | case2 element => exact List.nodup_singleton element
  | case3 second rest known =>
      rw [dedupAdjacent, if_pos rfl]
      exact known sorted.of_cons
  | case4 first second rest apart known =>
      rw [dedupAdjacent, if_neg apart, List.nodup_cons]
      refine ⟨?_, known sorted.of_cons⟩
      intro member
      rcases List.mem_cons.mp (mem_dedupAdjacent.mp member) with same | later
      · exact apart same
      · apply apart
        have before := (List.pairwise_cons.mp sorted).1 second List.mem_cons_self
        have after := (List.pairwise_cons.mp sorted.of_cons).1 first later
        exact antisymm first second before after

/-- Keep an element and drop the copies of it that follow. -/
def dedupFrom {β : Type} (same : β → β → Bool) (kept : β) : List β → List β
  | [] => [kept]
  | next :: rest =>
      if same next kept then dedupFrom same kept rest else kept :: dedupFrom same next rest

/-- Drop each element that is the same as the last one kept. -/
def dedupBy {β : Type} (same : β → β → Bool) : List β → List β
  | [] => []
  | first :: rest => dedupFrom same first rest

/-- What is the same only when it comes from one element is dropped like that element. -/
theorem dedupBy_map {β : Type} {same : β → β → Bool} {change : α → β}
    (agree : ∀ left right, same (change left) (change right) = decide (left = right))
    (elements : List α) :
    dedupBy same (elements.map change) = (dedupAdjacent elements).map change := by
  cases elements with
  | nil => rfl
  | cons first rest =>
      change dedupFrom same (change first) (rest.map change) = _
      induction rest generalizing first with
      | nil => rfl
      | cons next rest ih =>
          rw [List.map_cons, dedupFrom, agree, dedupAdjacent]
          by_cases repeated : next = first
          · rw [decide_eq_true repeated, if_pos rfl, if_pos repeated.symm, ih, repeated]
          · rw [decide_eq_false repeated, if_neg Bool.false_ne_true, if_neg (Ne.symm repeated), ih,
              List.map_cons]

variable {compare : α → α → Ordering}

/-- The elements of a list in order, each once. -/
def sortedSet (compare : α → α → Ordering) (elements : List α) : List α :=
  dedupAdjacent (sortBy compare id elements)

@[simp]
theorem mem_sortedSet {element : α} {elements : List α} :
    element ∈ sortedSet compare elements ↔ element ∈ elements := by
  rw [sortedSet, mem_dedupAdjacent, mem_sortBy]

variable [TransCmp compare]

theorem pairwise_sortedSet (elements : List α) :
    (sortedSet compare elements).Pairwise (NotAfter compare id) :=
  (pairwise_sortBy elements).sublist (dedupAdjacent_sublist _)

variable [LawfulEqCmp compare]

theorem nodup_sortedSet (elements : List α) : (sortedSet compare elements).Nodup := by
  have sorted : (sortBy compare id elements).Pairwise (NotAfter compare id) :=
    pairwise_sortBy elements
  apply nodup_dedupAdjacent _ sorted
  intro left right before after
  exact LawfulEqCmp.eq_of_compare (OrientedCmp.isLE_antisymm before after)

/-- A sorted set is determined by its elements. -/
theorem sortedSet_eq_of_mem_iff {first second : List α}
    (same : ∀ element, element ∈ first ↔ element ∈ second) :
    sortedSet compare first = sortedSet compare second := by
  have perm : (sortedSet compare first).Perm (sortedSet compare second) := by
    apply (List.perm_ext_iff_of_nodup (nodup_sortedSet first) (nodup_sortedSet second)).mpr
    intro element
    rw [mem_sortedSet, mem_sortedSet, same]
  refine perm.eq_of_pairwise ?_ (pairwise_sortedSet first) (pairwise_sortedSet second)
  intro left right _ _ before after
  exact LawfulEqCmp.eq_of_compare (OrientedCmp.isLE_antisymm before after)

end Dedup

/-- The first hit in a sorted list comes before every other hit. -/
theorem find?_least {le : α → α → Prop} {elements : List α} {holds : α → Bool} {first : α}
    (reflexive : le first first) (sorted : elements.Pairwise le)
    (found : elements.find? holds = some first) {other : α} (member : other ∈ elements)
    (hit : holds other = true) : le first other := by
  rcases List.find?_eq_some_iff_append.mp found with ⟨_, before, after, divided, misses⟩
  rw [divided] at sorted member
  rcases List.mem_append.mp member with early | late
  · have miss := misses other early
    rw [hit] at miss
    cases miss
  · rcases List.mem_cons.mp late with same | later
    · exact same ▸ reflexive
    · exact (List.pairwise_cons.mp (List.pairwise_append.mp sorted).2.1).1 other later

/-! ## Related lists -/

section Related

variable {γ : Type} {related : α → γ → Prop} {le : α → α → Prop} [DecidableRel le]
  {other : γ → γ → Prop} [DecidableRel other]

theorem forall₂_orderedInsert {item : α} {partner : γ} {items : List α} {partners : List γ}
    (agree : ∀ first second first' second', related first first' → related second second' →
      (le first second ↔ other first' second')) (pair : related item partner)
    (pairs : List.Forall₂ related items partners) :
    List.Forall₂ related (items.orderedInsert le item) (partners.orderedInsert other partner) := by
  induction pairs with
  | nil => exact .cons pair .nil
  | @cons first second _ _ head tail known =>
      rw [List.orderedInsert_cons, List.orderedInsert_cons]
      by_cases before : le item first
      · rw [if_pos before, if_pos ((agree _ _ _ _ pair head).mp before)]
        exact .cons pair (.cons head tail)
      · rw [if_neg before, if_neg (fun after => before ((agree _ _ _ _ pair head).mpr after))]
        exact .cons head known

/-- Related lists are sorted alike when their comparisons agree. -/
theorem forall₂_insertionSort {items : List α} {partners : List γ}
    (agree : ∀ first second first' second', related first first' → related second second' →
      (le first second ↔ other first' second'))
    (pairs : List.Forall₂ related items partners) :
    List.Forall₂ related (items.insertionSort le) (partners.insertionSort other) := by
  induction pairs with
  | nil => exact .nil
  | cons head _ known => exact forall₂_orderedInsert agree head known

end Related

end Order
end Stars
