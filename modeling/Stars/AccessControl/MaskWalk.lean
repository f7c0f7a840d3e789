import Stars.AccessControl.FirstMatch
import Mathlib.Data.BitVec

namespace Stars
namespace AccessControl

/-!
# Walking an ordered rule list with bit masks

Implementations decide all rights of a fixed-width mask in one pass: each
applying rule decides those bits of its mask that no earlier rule decided.  A
walk carries the granted and the denied bits.  `Decision.walk_granted` reads
the result bit by bit as the first-match decision of the same list, which turns
every question about the walk into a question about one bit.

Inclusion of masks is `Within`.  It is stated by bitwise conjunction, so that
it can be evaluated, and used through its reading bit by bit.
-/

universe u

variable {w : Nat}

/-- Every bit of the left mask is a bit of the right mask. -/
def Within (left right : BitVec w) : Prop := left &&& right = left

instance (left right : BitVec w) : Decidable (Within left right) :=
  inferInstanceAs (Decidable (left &&& right = left))

theorem within_iff {left right : BitVec w} :
    Within left right ↔ ∀ bit, left.getLsbD bit = true → right.getLsbD bit = true := by
  constructor
  · intro included bit selected
    have equal := congrArg (fun mask => mask.getLsbD bit) included
    simp only [BitVec.getLsbD_and, selected, Bool.true_and] at equal
    exact equal
  · intro included
    apply BitVec.eq_of_getLsbD_eq
    intro bit _
    rw [BitVec.getLsbD_and]
    cases selected : left.getLsbD bit with
    | false => rfl
    | true => rw [included bit selected]; rfl

namespace Within

variable {first second third : BitVec w}

theorem refl (mask : BitVec w) : Within mask mask := BitVec.and_self

theorem trans (left : Within first second) (right : Within second third) : Within first third :=
  within_iff.mpr (fun bit selected => within_iff.mp right bit (within_iff.mp left bit selected))

theorem antisymm (left : Within first second) (right : Within second first) : first = second := by
  have forward : first &&& second = first := left
  have backward : second &&& first = second := right
  rw [← forward, BitVec.and_comm, backward]

theorem zero (mask : BitVec w) : Within 0#w mask :=
  within_iff.mpr (by simp)

theorem or_left (first second : BitVec w) : Within first (first ||| second) :=
  within_iff.mpr (by intro bit selected; rw [BitVec.getLsbD_or, selected]; rfl)

theorem or_right (first second : BitVec w) : Within second (first ||| second) :=
  within_iff.mpr (by intro bit selected; rw [BitVec.getLsbD_or, selected, Bool.or_true])

theorem or_mono (included : Within first second) (extra : BitVec w) :
    Within (first ||| extra) (second ||| extra) := by
  rw [within_iff] at included ⊢
  intro bit selected
  rw [BitVec.getLsbD_or, Bool.or_eq_true] at selected ⊢
  exact selected.imp_left (included bit)

theorem or_le (left : Within first third) (right : Within second third) :
    Within (first ||| second) third := by
  rw [within_iff] at left right ⊢
  intro bit selected
  rw [BitVec.getLsbD_or, Bool.or_eq_true] at selected
  exact selected.elim (left bit) (right bit)

theorem and_mono (included : Within first second) (limit : BitVec w) :
    Within (first &&& limit) (second &&& limit) := by
  rw [within_iff] at included ⊢
  intro bit selected
  rw [BitVec.getLsbD_and, Bool.and_eq_true] at selected ⊢
  exact ⟨included bit selected.1, selected.2⟩

theorem and_left (first second : BitVec w) : Within (first &&& second) first :=
  within_iff.mpr (by
    intro bit selected
    rw [BitVec.getLsbD_and, Bool.and_eq_true] at selected
    exact selected.1)

end Within

/-! ## The walk -/

/-- The bits a walk has decided so far. -/
structure Decision (w : Nat) where
  granted : BitVec w
  denied : BitVec w
deriving DecidableEq

namespace Decision

/-- Nothing is decided before the first rule. -/
def start : Decision w := ⟨0#w, 0#w⟩

/-- The bits of a rule's mask that it decides itself. -/
def fresh (decision : Decision w) (mask : BitVec w) : BitVec w :=
  mask &&& ~~~(decision.granted ||| decision.denied)

/-- Add the bits an applying rule decides. -/
def extend (decision : Decision w) (allow : Bool) (mask : BitVec w) : Decision w :=
  if allow then { decision with granted := decision.granted ||| decision.fresh mask }
  else { decision with denied := decision.denied ||| decision.fresh mask }

variable {Rule : Type u} (allows : Rule → Bool) (mask : Rule → BitVec w)

/-- Walk a list from an intermediate decision. -/
def walk (applies : Rule → Bool) (decision : Decision w) (rules : List Rule) : Decision w :=
  rules.foldl
    (fun current rule =>
      if applies rule then current.extend (allows rule) (mask rule) else current)
    decision

/-- The first-match policy a mask walk implements: a rule covers the bits of
its mask. -/
def bitPolicy : Policy Rule Nat where
  allows := allows
  covers := fun rule bit => (mask rule).getLsbD bit

@[simp] theorem walk_nil (applies : Rule → Bool) (decision : Decision w) :
    walk allows mask applies decision [] = decision := rfl

theorem walk_cons (applies : Rule → Bool) (decision : Decision w) (rule : Rule)
    (rest : List Rule) :
    walk allows mask applies decision (rule :: rest) =
      walk allows mask applies
        (if applies rule then decision.extend (allows rule) (mask rule) else decision) rest :=
  rfl

/-- A bit outside the mask width is in no rule. -/
theorem fresh_getLsbD (decision : Decision w) (value : BitVec w) (bit : Nat) :
    (decision.fresh value).getLsbD bit =
      (value.getLsbD bit && !(decision.granted.getLsbD bit || decision.denied.getLsbD bit)) := by
  rw [fresh, BitVec.getLsbD_and, BitVec.getLsbD_not, BitVec.getLsbD_or]
  by_cases bounded : bit < w
  · simp [bounded]
  · have outside := BitVec.getLsbD_of_ge value bit (Nat.le_of_not_lt bounded)
    simp [outside]

/-- One step on one bit: a decided bit keeps its decision, and an undecided
bit of the mask takes the kind of the rule. -/
theorem extend_getLsbD (decision : Decision w) (allow : Bool) (value : BitVec w) (bit : Nat) :
    (decision.extend allow value).granted.getLsbD bit =
        (decision.granted.getLsbD bit ||
          (allow && value.getLsbD bit && !decision.denied.getLsbD bit)) ∧
      (decision.extend allow value).denied.getLsbD bit =
        (decision.denied.getLsbD bit ||
          (!allow && value.getLsbD bit && !decision.granted.getLsbD bit)) := by
  cases allow with
  | true =>
      simp only [extend, if_true, BitVec.getLsbD_or, fresh_getLsbD]
      cases decision.granted.getLsbD bit <;> cases decision.denied.getLsbD bit <;>
        cases value.getLsbD bit <;> decide
  | false =>
      simp only [extend, Bool.false_eq_true, if_false, BitVec.getLsbD_or, fresh_getLsbD]
      cases decision.granted.getLsbD bit <;> cases decision.denied.getLsbD bit <;>
        cases value.getLsbD bit <;> decide

/-- The result of a walk on one bit, from any intermediate decision: a bit
that is already decided stays as it is, every other bit is decided by its first
match in the list. -/
theorem walk_getLsbD (applies : Rule → Bool) (rules : List Rule) (decision : Decision w)
    (bit : Nat) :
    (walk allows mask applies decision rules).granted.getLsbD bit =
        (decision.granted.getLsbD bit || (!decision.denied.getLsbD bit &&
          (bitPolicy allows mask).grants applies rules bit)) ∧
      (walk allows mask applies decision rules).denied.getLsbD bit =
        (decision.denied.getLsbD bit || (!decision.granted.getLsbD bit &&
          (bitPolicy allows mask).refuses applies rules bit)) := by
  induction rules generalizing decision with
  | nil => simp
  | cons rule rest ih =>
      rw [walk_cons, Policy.grants_cons, Policy.refuses_cons]
      by_cases applied : applies rule = true
      · rw [if_pos applied]
        have step := extend_getLsbD decision (allows rule) (mask rule) bit
        have tail := ih (decision.extend (allows rule) (mask rule))
        rw [tail.1, tail.2, step.1, step.2]
        simp only [applied, Bool.true_and, bitPolicy]
        cases decision.granted.getLsbD bit <;> cases decision.denied.getLsbD bit <;>
          cases (mask rule).getLsbD bit <;> cases allows rule <;> simp
      · rw [if_neg applied]
        have refused : applies rule = false := Bool.eq_false_iff.mpr applied
        have tail := ih decision
        rw [tail.1, tail.2, refused]
        simp

/-- The granted bits of a whole walk are exactly the bits whose first match is
an allow rule. -/
theorem walk_granted (applies : Rule → Bool) (rules : List Rule) (bit : Nat) :
    (walk allows mask applies start rules).granted.getLsbD bit =
      (bitPolicy allows mask).grants applies rules bit := by
  rw [(walk_getLsbD allows mask applies rules start bit).1]
  simp [start]

/-- The denied bits of a whole walk are exactly the bits whose first match is
a refuse rule. -/
theorem walk_denied (applies : Rule → Bool) (rules : List Rule) (bit : Nat) :
    (walk allows mask applies start rules).denied.getLsbD bit =
      (bitPolicy allows mask).refuses applies rules bit := by
  rw [(walk_getLsbD allows mask applies rules start bit).2]
  simp [start]

/-- More applying allow rules and fewer applying refuse rules never lose a
granted bit. -/
theorem walk_granted_mono {lower upper : Rule → Bool} {rules : List Rule}
    (allowed : ∀ rule ∈ rules, allows rule = true → lower rule = true → upper rule = true)
    (refused : ∀ rule ∈ rules, allows rule = false → upper rule = true → lower rule = true) :
    Within (walk allows mask lower start rules).granted
      (walk allows mask upper start rules).granted := by
  rw [within_iff]
  intro bit selected
  rw [walk_granted] at selected ⊢
  exact (bitPolicy allows mask).grants_mono allowed refused selected

/-- Only the rules on the list matter for the walk. -/
theorem walk_congr {applies other : Rule → Bool} {rules : List Rule}
    (agree : ∀ rule ∈ rules, applies rule = other rule) (decision : Decision w) :
    walk allows mask applies decision rules = walk allows mask other decision rules := by
  induction rules generalizing decision with
  | nil => rfl
  | cons rule rest ih =>
      rw [walk_cons, walk_cons, agree rule List.mem_cons_self,
        ih (fun next member => agree next (List.mem_cons_of_mem _ member))]

end Decision

end AccessControl
end Stars
