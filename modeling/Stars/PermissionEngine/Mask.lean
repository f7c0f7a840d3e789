import Stars.Core.FileSystem

namespace Stars
namespace PermissionEngine

/-!
# NTFS access masks

Bit values and the expansion of generic rights.  A generic bit stands for a set
of specific file bits and is replaced by them before any comparison, so bits 28
to 31 never reach a result.
-/

def fileReadControl : AccessMask := 0x00020000#32

def fileWriteDac : AccessMask := 0x00040000#32

def fileSynchronize : AccessMask := 0x00100000#32

def genericAll : AccessMask := 0x10000000#32

def genericExecute : AccessMask := 0x20000000#32

def genericWrite : AccessMask := 0x40000000#32

def genericRead : AccessMask := 0x80000000#32

def fileGenericRead : AccessMask := 0x00120089#32

def fileGenericWrite : AccessMask := 0x00120116#32

def fileGenericExecute : AccessMask := 0x001200a0#32

/-- The inheritance flag of an entry that applies to children only. -/
def inheritOnlyAce : BitVec 32 := 0x08#32

def maskFullControl : AccessMask := 0x001f01ff#32

/-- Replace one generic bit of `mask`, when it is set, in an output that
already holds the earlier replacements. -/
def replaceGeneric (mask generic specific out : AccessMask) : AccessMask :=
  if mask &&& generic ≠ 0#32 then (out &&& ~~~generic) ||| specific else out

/-- Expand the generic bits of a mask into specific file bits. -/
def expandGenericRights (mask : AccessMask) : AccessMask :=
  let out := replaceGeneric mask genericRead fileGenericRead mask
  let out := replaceGeneric mask genericWrite fileGenericWrite out
  let out := replaceGeneric mask genericExecute fileGenericExecute out
  replaceGeneric mask genericAll maskFullControl out

/-- READ_CONTROL and WRITE_DAC, the rights an owner holds without any entry. -/
def ownerGrant : AccessMask := fileReadControl ||| fileWriteDac

theorem ownerGrant_getLsbD (bit : Nat) :
    ownerGrant.getLsbD bit = true ↔ bit = 17 ∨ bit = 18 := by
  constructor
  · intro selected
    have bounded : bit < 32 := by
      rcases Nat.lt_or_ge bit 32 with below | above
      · exact below
      · rw [BitVec.getLsbD_of_ge _ _ above] at selected
        cases selected
    revert selected
    revert bit
    decide
  · rintro (rfl | rfl) <;> decide

/-! ## The expansion bit by bit -/

private theorem bit_of_eq {left right : AccessMask} (same : left = right) (bit : Nat) :
    left.getLsbD bit = right.getLsbD bit := by rw [same]

section Replace

variable {mask generic specific out other : AccessMask}

/-- A replacement leaves the other generic bits of the output as they are. -/
theorem and_replaceGeneric_other (apart : generic &&& other = 0#32)
    (outside : specific &&& other = 0#32) :
    replaceGeneric mask generic specific out &&& other = out &&& other := by
  unfold replaceGeneric
  split
  · apply BitVec.eq_of_getLsbD_eq
    intro bit bounded
    have first := bit_of_eq apart bit
    have second := bit_of_eq outside bit
    simp only [BitVec.getLsbD_and, BitVec.getLsbD_or, BitVec.getLsbD_not, BitVec.getLsbD_zero,
      bounded, decide_true, Bool.true_and] at first second ⊢
    grind
  · rfl

/-- A generic bit that is still as in the mask is gone after its replacement. -/
theorem and_replaceGeneric_self (settled : out &&& generic = mask &&& generic)
    (outside : specific &&& generic = 0#32) :
    replaceGeneric mask generic specific out &&& generic = 0#32 := by
  unfold replaceGeneric
  split
  · apply BitVec.eq_of_getLsbD_eq
    intro bit bounded
    have apart := bit_of_eq outside bit
    simp only [BitVec.getLsbD_and, BitVec.getLsbD_or, BitVec.getLsbD_not, BitVec.getLsbD_zero,
      bounded, decide_true, Bool.true_and] at apart ⊢
    grind
  · rename_i absent
    rw [settled]
    exact not_not.mp absent

/-- A replacement in a mask that lacks the generic bit does nothing. -/
theorem replaceGeneric_of_absent (absent : mask &&& generic = 0#32) :
    replaceGeneric mask generic specific out = out := by
  unfold replaceGeneric
  rw [if_neg (not_not.mpr absent)]

/-- A replacement of two masks together, whose generic bit is still as in the
masks, is their replacement one by one. -/
theorem replaceGeneric_or {left right leftOut rightOut : AccessMask}
    (leftSettled : leftOut &&& generic = left &&& generic)
    (rightSettled : rightOut &&& generic = right &&& generic) :
    replaceGeneric (left ||| right) generic specific (leftOut ||| rightOut) =
      replaceGeneric left generic specific leftOut |||
        replaceGeneric right generic specific rightOut := by
  have split : (left ||| right) &&& generic = left &&& generic ||| right &&& generic := by
    rw [BitVec.and_comm, BitVec.and_or_distrib_left, BitVec.and_comm generic left,
      BitVec.and_comm generic right]
  unfold replaceGeneric
  rw [split]
  by_cases first : left &&& generic = 0#32
  · by_cases second : right &&& generic = 0#32
    · simp only [first, second, BitVec.or_self, ne_eq, not_true_eq_false, if_false]
    · simp only [first, second, BitVec.zero_or, ne_eq, not_true_eq_false, if_false,
        not_false_eq_true, if_true]
      apply BitVec.eq_of_getLsbD_eq
      intro bit bounded
      have absent := bit_of_eq (leftSettled.trans first) bit
      simp only [BitVec.getLsbD_and, BitVec.getLsbD_or, BitVec.getLsbD_not, BitVec.getLsbD_zero,
        bounded, decide_true, Bool.true_and] at absent ⊢
      grind
  · by_cases second : right &&& generic = 0#32
    · simp only [first, second, BitVec.or_zero, ne_eq, not_true_eq_false, if_false,
        not_false_eq_true, if_true]
      apply BitVec.eq_of_getLsbD_eq
      intro bit bounded
      have absent := bit_of_eq (rightSettled.trans second) bit
      simp only [BitVec.getLsbD_and, BitVec.getLsbD_or, BitVec.getLsbD_not, BitVec.getLsbD_zero,
        bounded, decide_true, Bool.true_and] at absent ⊢
      grind
    · have both : left &&& generic ||| right &&& generic ≠ 0#32 :=
        fun nothing => first (BitVec.or_eq_zero_iff.mp nothing).1
      simp only [first, second, both, ne_eq, not_false_eq_true, if_true]
      apply BitVec.eq_of_getLsbD_eq
      intro bit bounded
      simp only [BitVec.getLsbD_and, BitVec.getLsbD_or, BitVec.getLsbD_not, bounded, decide_true,
        Bool.true_and]
      grind

end Replace

theorem expandGenericRights_or (left right : AccessMask) :
    expandGenericRights (left ||| right) =
      expandGenericRights left ||| expandGenericRights right := by
  -- The generic bits that later replacements look for are untouched so far.
  have write (mask : AccessMask) :
      replaceGeneric mask genericRead fileGenericRead mask &&& genericWrite =
        mask &&& genericWrite :=
    and_replaceGeneric_other (by decide) (by decide)
  have execute (mask : AccessMask) :
      replaceGeneric mask genericWrite fileGenericWrite
          (replaceGeneric mask genericRead fileGenericRead mask) &&& genericExecute =
        mask &&& genericExecute := by
    rw [and_replaceGeneric_other (by decide) (by decide),
      and_replaceGeneric_other (by decide) (by decide)]
  have all (mask : AccessMask) :
      replaceGeneric mask genericExecute fileGenericExecute
          (replaceGeneric mask genericWrite fileGenericWrite
            (replaceGeneric mask genericRead fileGenericRead mask)) &&& genericAll =
        mask &&& genericAll := by
    rw [and_replaceGeneric_other (by decide) (by decide),
      and_replaceGeneric_other (by decide) (by decide),
      and_replaceGeneric_other (by decide) (by decide)]
  unfold expandGenericRights
  simp only [replaceGeneric_or rfl rfl, replaceGeneric_or (write left) (write right),
    replaceGeneric_or (execute left) (execute right), replaceGeneric_or (all left) (all right)]

/-- No generic bit is left after the expansion. -/
theorem expandGenericRights_absent (mask : AccessMask) :
    expandGenericRights mask &&& genericRead = 0#32 ∧
      expandGenericRights mask &&& genericWrite = 0#32 ∧
      expandGenericRights mask &&& genericExecute = 0#32 ∧
      expandGenericRights mask &&& genericAll = 0#32 := by
  unfold expandGenericRights
  refine ⟨?_, ?_, ?_, ?_⟩
  · rw [and_replaceGeneric_other (by decide) (by decide),
      and_replaceGeneric_other (by decide) (by decide),
      and_replaceGeneric_other (by decide) (by decide)]
    exact and_replaceGeneric_self rfl (by decide)
  · rw [and_replaceGeneric_other (by decide) (by decide),
      and_replaceGeneric_other (by decide) (by decide)]
    exact and_replaceGeneric_self
      (and_replaceGeneric_other (by decide) (by decide)) (by decide)
  · rw [and_replaceGeneric_other (by decide) (by decide)]
    apply and_replaceGeneric_self _ (by decide)
    rw [and_replaceGeneric_other (by decide) (by decide),
      and_replaceGeneric_other (by decide) (by decide)]
  · apply and_replaceGeneric_self _ (by decide)
    rw [and_replaceGeneric_other (by decide) (by decide),
      and_replaceGeneric_other (by decide) (by decide),
      and_replaceGeneric_other (by decide) (by decide)]

theorem expandGenericRights_idem (mask : AccessMask) :
    expandGenericRights (expandGenericRights mask) = expandGenericRights mask := by
  rcases expandGenericRights_absent mask with ⟨read, write, execute, all⟩
  generalize expandGenericRights mask = expanded at read write execute all
  simp only [expandGenericRights, replaceGeneric_of_absent read, replaceGeneric_of_absent write,
    replaceGeneric_of_absent execute, replaceGeneric_of_absent all]

end PermissionEngine
end Stars
