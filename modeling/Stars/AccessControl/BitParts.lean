import Stars.AccessControl.DecidedBits

namespace Stars
namespace AccessControl

/-!
# Masks and their parts

A mask is split into parts when the parts together are the mask and no two of them
share a bit.  A pass over a list of single bits that takes every bit it finds off
the rest splits the mask into the bits found and the rest; the listed bits need
not be distinct for that.
-/

variable {w : Nat}

theorem joined_append (first second : List (BitVec w)) :
    joined (first ++ second) = joined first ||| joined second := by
  induction first with
  | nil => rw [List.nil_append, joined_nil, BitVec.zero_or]
  | cons mask masks ih => rw [List.cons_append, joined_cons, joined_cons, ih, BitVec.or_assoc]

theorem within_joined {mask : BitVec w} {masks : List (BitVec w)} (listed : mask ∈ masks) :
    Within mask (joined masks) := by
  induction listed with
  | head rest => exact Within.or_left mask (joined rest)
  | tail first _ ih => exact ih.trans (Within.or_right first _)

theorem Apart.symm {left right : BitVec w} (apart : Apart left right) : Apart right left :=
  (BitVec.and_comm right left).trans apart

theorem Apart.of_within {part whole other : BitVec w} (included : Within part whole)
    (apart : Apart whole other) : Apart part other := by
  unfold Apart
  rw [← show part &&& whole = part from included, BitVec.and_assoc,
    show whole &&& other = 0#w from apart, BitVec.and_zero]

/-- What is left of a mask without a part. -/
theorem apart_without (part mask : BitVec w) : Apart part (mask &&& ~~~part) := by
  calc part &&& (mask &&& ~~~part)
      = (part &&& ~~~part) &&& mask := by rw [BitVec.and_comm mask, BitVec.and_assoc]
    _ = 0#w := by simp

theorem or_without {part mask : BitVec w} (included : Within part mask) :
    part ||| (mask &&& ~~~part) = mask := by
  apply BitVec.eq_of_getLsbD_eq
  intro bit bounded
  have listed := within_iff.mp included bit
  simp only [BitVec.getLsbD_or, BitVec.getLsbD_and, BitVec.getLsbD_not, bounded, decide_true,
    Bool.true_and]
  grind

/-- The parts are the mask, and no two of them share a bit. -/
structure Splits (mask : BitVec w) (parts : List (BitVec w)) : Prop where
  whole : joined parts = mask
  apart : parts.Pairwise Apart

namespace Splits

theorem within {mask part : BitVec w} {parts : List (BitVec w)} (splits : Splits mask parts)
    (listed : part ∈ parts) : Within part mask := by
  rw [← splits.whole]
  exact within_joined listed

theorem single (mask : BitVec w) : Splits mask [mask] where
  whole := BitVec.or_zero
  apart := List.pairwise_singleton _ _

theorem nil : Splits 0#w [] where
  whole := rfl
  apart := .nil

/-- Split off one part and the rest behind it. -/
theorem cons {mask part : BitVec w} {parts : List (BitVec w)} (included : Within part mask)
    (rest : Splits (mask &&& ~~~part) parts) : Splits mask (part :: parts) where
  whole := by rw [joined_cons, rest.whole, or_without included]
  apart := by
    refine List.pairwise_cons.mpr ⟨?_, rest.apart⟩
    intro other listed
    exact (Apart.of_within (rest.within listed) (apart_without part mask).symm).symm

end Splits

section Take

variable {Item : Type} (bitOf : Item → BitVec w)

/-- Take every listed bit that is left off the mask.  What is left after the
list comes last. -/
def takeBits : List Item → BitVec w → List Item × BitVec w
  | [], mask => ([], mask)
  | item :: rest, mask =>
      if mask &&& bitOf item ≠ 0#w then
        (item :: (takeBits rest (mask &&& ~~~bitOf item)).1,
          (takeBits rest (mask &&& ~~~bitOf item)).2)
      else takeBits rest mask

theorem mem_of_takeBits {items : List Item} {mask : BitVec w} {item : Item}
    (taken : item ∈ (takeBits bitOf items mask).1) : item ∈ items := by
  induction items generalizing mask with
  | nil => exact taken
  | cons first rest ih =>
      rw [takeBits] at taken
      split at taken
      · rcases List.mem_cons.mp taken with rfl | later
        · exact .head _
        · exact .tail _ (ih later)
      · exact .tail _ (ih taken)

/-- A mask with one bit is in another mask wholly or not at all. -/
theorem within_of_meets {place : Nat} {mask : BitVec w}
    (meets : mask &&& BitVec.twoPow w place ≠ 0#w) : Within (BitVec.twoPow w place) mask := by
  rw [BitVec.and_twoPow] at meets
  unfold Within
  rw [BitVec.and_comm, BitVec.and_twoPow]
  split
  · rfl
  · rename_i absent
    rw [if_neg absent] at meets
    exact absurd rfl meets

/-- The bits taken and the rest split the mask. -/
theorem splits_takeBits {items : List Item}
    (single : ∀ item ∈ items, ∃ place, bitOf item = BitVec.twoPow w place) (mask : BitVec w) :
    Splits mask ((takeBits bitOf items mask).1.map bitOf ++ [(takeBits bitOf items mask).2]) := by
  induction items generalizing mask with
  | nil => exact Splits.single mask
  | cons item rest ih =>
      rcases List.forall_mem_cons.mp single with ⟨⟨place, first⟩, later⟩
      rw [takeBits]
      split
      · rename_i meets
        rw [first] at meets
        have included : Within (bitOf item) mask := first ▸ within_of_meets meets
        exact Splits.cons included (ih later _)
      · exact ih later mask

end Take

end AccessControl
end Stars
