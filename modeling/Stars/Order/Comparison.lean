import Mathlib.Data.List.Basic
import Mathlib.Data.List.GetD
import Mathlib.Data.Ordering.Basic

namespace Stars
namespace Order

/-!
# Comparison loops

A hand-written comparison walks two sequences and returns at the first position
whose elements differ.  The loops below keep that shape.  Each of them is
`List.compareLex` on suitable lists, and so a transitive comparison whenever the
comparison of the elements is one.
-/

open Std

/-- The first outcome that is not equality. -/
def firstUnequal : List Ordering → Ordering
  | [] => .eq
  | .eq :: rest => firstUnequal rest
  | outcome :: _ => outcome

@[simp]
theorem firstUnequal_nil : firstUnequal [] = .eq := rfl

@[simp]
theorem firstUnequal_cons (outcome : Ordering) (rest : List Ordering) :
    firstUnequal (outcome :: rest) = outcome.then (firstUnequal rest) := by
  cases outcome <;> rfl

theorem firstUnequal_append (earlier later : List Ordering) :
    firstUnequal (earlier ++ later) = (firstUnequal earlier).then (firstUnequal later) := by
  induction earlier with
  | nil => rfl
  | cons outcome rest ih =>
      rw [List.cons_append, firstUnequal_cons, firstUnequal_cons, ih, Ordering.then_assoc]

theorem firstUnequal_eq_iff {outcomes : List Ordering} :
    firstUnequal outcomes = .eq ↔ ∀ outcome ∈ outcomes, outcome = .eq := by
  induction outcomes with
  | nil => exact iff_of_true rfl (fun _ listed => absurd listed List.not_mem_nil)
  | cons outcome rest ih =>
      rw [firstUnequal_cons, Ordering.then_eq_eq, ih, List.forall_mem_cons]

section Loops

variable {α β : Type} {cmp : α → α → Ordering}

/-- Compare the shared positions; the shorter of two equal beginnings is less. -/
def sharedThenLength (cmp : α → α → Ordering) (left right : List α) : Ordering :=
  (firstUnequal (List.zipWith cmp left right)).then (compare left.length right.length)

theorem sharedThenLength_eq_compareLex (left right : List α) :
    sharedThenLength cmp left right = List.compareLex cmp left right := by
  rw [sharedThenLength]
  induction left generalizing right with
  | nil =>
      cases right with
      | nil => rfl
      | cons head rest =>
          simp [List.compareLex_nil_cons, Nat.compare_eq_lt]
  | cons head rest ih =>
      cases right with
      | nil => simp [List.compareLex_cons_nil, Nat.compare_eq_gt]
      | cons other others =>
          rw [List.compareLex_cons_cons, ← ih others, List.zipWith_cons_cons, firstUnequal_cons,
            Ordering.then_assoc]
          simp [Nat.compare_eq_ite_lt]

theorem sharedThenLength_cons (first second : α) (firsts seconds : List α) :
    sharedThenLength cmp (first :: firsts) (second :: seconds) =
      (cmp first second).then (sharedThenLength cmp firsts seconds) := by
  rw [sharedThenLength_eq_compareLex, List.compareLex_cons_cons, ← sharedThenLength_eq_compareLex]

/-- Lists compare equal only when they are equal, if their elements do. -/
theorem sharedThenLength_eq_iff (lawful : ∀ first second, cmp first second = .eq ↔ first = second)
    {left right : List α} : sharedThenLength cmp left right = .eq ↔ left = right := by
  induction left generalizing right with
  | nil =>
      cases right with
      | nil => exact iff_of_true rfl rfl
      | cons head rest => simp [sharedThenLength]
  | cons head rest ih =>
      cases right with
      | nil => simp [sharedThenLength]
      | cons other others =>
          rw [sharedThenLength_cons, Ordering.then_eq_eq, lawful, ih, List.cons.injEq]

instance [TransCmp cmp] : TransCmp (sharedThenLength cmp) := by
  have same : sharedThenLength cmp = List.compareLex cmp := by
    funext left right
    exact sharedThenLength_eq_compareLex left right
  rw [same]
  infer_instance

/-- Compare position by position up to the longer length, a missing element
counting as the fallback. -/
def padded (cmp : α → α → Ordering) (fallback : α) (left right : List α) : Ordering :=
  firstUnequal ((List.range (max left.length right.length)).map
    (fun place => cmp (left.getD place fallback) (right.getD place fallback)))

/-- The first positions of a sequence, continued with the fallback. -/
def padTo (bound : Nat) (fallback : α) (elements : List α) : List α :=
  (List.range bound).map (fun place => elements.getD place fallback)

variable {fallback : α}

/-- Positions past both sequences compare equal, so any larger bound gives the
same answer. -/
theorem padded_eq_of_bound [ReflCmp cmp] {left right : List α} {bound : Nat}
    (leftFits : left.length ≤ bound) (rightFits : right.length ≤ bound) :
    padded cmp fallback left right =
      firstUnequal ((List.range bound).map
        (fun place => cmp (left.getD place fallback) (right.getD place fallback))) := by
  have fits : max left.length right.length ≤ bound := Nat.max_le.mpr ⟨leftFits, rightFits⟩
  rcases Nat.exists_eq_add_of_le fits with ⟨extra, rfl⟩
  rw [padded, List.range_add, List.map_append, firstUnequal_append]
  have rest : firstUnequal ((List.map (fun place => max left.length right.length + place)
      (List.range extra)).map
        (fun place => cmp (left.getD place fallback) (right.getD place fallback))) = .eq := by
    apply firstUnequal_eq_iff.mpr
    intro outcome member
    rw [List.map_map, List.mem_map] at member
    rcases member with ⟨place, -, rfl⟩
    have leftOut : left.length ≤ max left.length right.length + place := by omega
    have rightOut : right.length ≤ max left.length right.length + place := by omega
    rw [Function.comp_apply, List.getD_eq_default _ _ leftOut, List.getD_eq_default _ _ rightOut]
    exact ReflCmp.compare_self
  rw [rest, Ordering.then_eq]

theorem padded_eq_compareLex [ReflCmp cmp] {left right : List α} {bound : Nat}
    (leftFits : left.length ≤ bound) (rightFits : right.length ≤ bound) :
    padded cmp fallback left right =
      List.compareLex cmp (padTo bound fallback left) (padTo bound fallback right) := by
  rw [padded_eq_of_bound leftFits rightFits, ← sharedThenLength_eq_compareLex, sharedThenLength,
    padTo, padTo, List.zipWith_map, List.zipWith_self]
  simp

instance [TransCmp cmp] : TransCmp (padded cmp fallback) where
  eq_swap := by
    intro left right
    have leftFits := Nat.le_max_left left.length right.length
    have rightFits := Nat.le_max_right left.length right.length
    rw [padded_eq_compareLex leftFits rightFits, padded_eq_compareLex rightFits leftFits]
    exact OrientedCmp.eq_swap
  isLE_trans := by
    intro first second third before after
    let bound := max first.length (max second.length third.length)
    have firstFits : first.length ≤ bound := by omega
    have secondFits : second.length ≤ bound := by omega
    have thirdFits : third.length ≤ bound := by omega
    rw [padded_eq_compareLex firstFits secondFits] at before
    rw [padded_eq_compareLex secondFits thirdFits] at after
    rw [padded_eq_compareLex firstFits thirdFits]
    exact TransCmp.isLE_trans before after

/-- Comparing by a part keeps a comparison transitive. -/
theorem transCmp_on (part : β → α) [TransCmp cmp] :
    TransCmp (fun left right => cmp (part left) (part right)) where
  eq_swap := OrientedCmp.eq_swap
  isLE_trans := TransCmp.isLE_trans

end Loops

/-! ## Texts -/

def codePoints (text : String) : List Nat := text.toList.map Char.toNat

theorem codePoints_injective : Function.Injective codePoints := by
  intro left right same
  apply String.toList_injective
  exact List.map_injective_iff.mpr (fun _ _ => Char.toNat_inj.mp) same

/-- Texts by code points, which is also their order byte by byte. -/
def compareText (left right : String) : Ordering := compare (codePoints left) (codePoints right)

instance : TransCmp compareText := transCmp_on codePoints

instance : LawfulEqCmp compareText where
  compare_self := ReflCmp.compare_self
  eq_of_compare := by
    intro left right same
    exact codePoints_injective (LawfulEqCmp.eq_of_compare same)

end Order
end Stars
