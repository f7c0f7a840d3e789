import Mathlib.Data.Set.Function

namespace Stars
namespace Collections

/-!
# Marking the values that need it

A value that a reader would misunderstand gets a mark, every other value stays as it is.
Marking tells the values of a set apart exactly when no value that needs the mark is
listed together with the value that already looks marked.
-/

universe u

variable {Value : Type u} {needs : Value → Bool} {mark : Value → Value}

def markWhere (needs : Value → Bool) (mark : Value → Value) (value : Value) : Value :=
  if needs value then mark value else value

theorem markWhere_of_needs {value : Value} (needed : needs value = true) :
    markWhere needs mark value = mark value := if_pos needed

theorem markWhere_of_plain {value : Value} (unneeded : needs value = false) :
    markWhere needs mark value = value := if_neg (Bool.eq_false_iff.mp unneeded)

/-- A marked value needs no further mark. -/
theorem not_needs_markWhere (plain : ∀ value, needs (mark value) = false) (value : Value) :
    needs (markWhere needs mark value) = false := by
  cases needed : needs value with
  | true => rw [markWhere_of_needs needed, plain]
  | false => rw [markWhere_of_plain needed, needed]

theorem markWhere_injOn_iff (injective : Function.Injective mark)
    (plain : ∀ value, needs (mark value) = false) (values : Set Value) :
    Set.InjOn (markWhere needs mark) values ↔
      ∀ value ∈ values, needs value = true → mark value ∉ values := by
  constructor
  · intro apart value listed needed marked
    have same : markWhere needs mark value = markWhere needs mark (mark value) := by
      rw [markWhere_of_needs needed, markWhere_of_plain (plain value)]
    have equal := apart listed marked same
    rw [equal, plain] at needed
    cases needed
  · intro apart first firstListed second secondListed same
    cases firstNeeds : needs first with
    | true =>
        rw [markWhere_of_needs firstNeeds] at same
        cases secondNeeds : needs second with
        | true =>
            rw [markWhere_of_needs secondNeeds] at same
            exact injective same
        | false =>
            rw [markWhere_of_plain secondNeeds] at same
            exact absurd (same ▸ secondListed) (apart first firstListed firstNeeds)
    | false =>
        rw [markWhere_of_plain firstNeeds] at same
        cases secondNeeds : needs second with
        | true =>
            rw [markWhere_of_needs secondNeeds] at same
            exact absurd (same ▸ firstListed) (apart second secondListed secondNeeds)
        | false =>
            rw [markWhere_of_plain secondNeeds] at same
            exact same

end Collections
end Stars
