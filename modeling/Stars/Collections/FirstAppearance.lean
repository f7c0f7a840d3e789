import Mathlib.Data.List.Induction
import Mathlib.Data.List.Nodup

namespace Stars
namespace Collections

/-!
# Keys in the order of their first appearance

Repeated keys are dropped, and each key keeps the place where it stands first.
-/

universe u

variable {Key : Type u} [DecidableEq Key]

/-- One more key is added at the end when it is new. -/
theorem eraseDups_snoc (keys : List Key) (key : Key) :
    (keys ++ [key]).eraseDups = keys.eraseDups ++ if key ∈ keys then [] else [key] := by
  rw [List.eraseDups_append]
  by_cases member : key ∈ keys
  · rw [if_pos member, List.removeAll, List.filter_cons_of_neg (by simp [member])]
    rfl
  · rw [if_neg member, List.removeAll, List.filter_cons_of_pos (by simp [member])]
    rfl

theorem nodup_eraseDups (keys : List Key) : keys.eraseDups.Nodup := by
  induction keys using List.reverseRecOn with
  | nil => exact List.nodup_nil
  | append_singleton keys key ih =>
      rw [eraseDups_snoc]
      split
      · rwa [List.append_nil]
      · rename_i fresh
        refine List.nodup_append.mpr ⟨ih, List.nodup_singleton key, ?_⟩
        intro first member second same equal
        rw [List.mem_singleton.mp same] at equal
        exact fresh (List.mem_eraseDups.mp (equal ▸ member))

end Collections
end Stars
