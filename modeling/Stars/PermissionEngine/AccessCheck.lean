import Stars.PermissionEngine.Evaluate

namespace Stars
namespace PermissionEngine

open AccessControl

/-!
# The reference access check

What an in-order access check grants to a logon token, one right at a time: the
first entry in stored order that applies to the object, matches the token and
holds the right decides it.  The reference is stated without any walk or
accumulated mask.  `walkGrantedWith_eq_decidingAce` connects the walks of the
engine to it, and `evaluate_refines_accessCheck` the whole evaluation.
-/

/-- The first entry in stored order that is not inherit-only, matches and
holds the right. -/
def decidingAce (matching : AceEntry → Bool) (dacl : List AceEntry) (bit : Nat) :
    Option AceEntry :=
  dacl.find? (fun ace =>
    aceAppliesToCurrentObject ace && matching ace && (expandGenericRights ace.mask).getLsbD bit)

/-- The right is granted: its deciding entry is an Allow. -/
def allowedBy (matching : AceEntry → Bool) (dacl : List AceEntry) (bit : Nat) : Bool :=
  (decidingAce matching dacl bit).any aceAllows

/-- An entry matches by its kind and trustee. -/
def matchingWith (allowMatches denyMatches : Sid → Bool) (ace : AceEntry) : Bool :=
  match ace.kind with
  | .allow => allowMatches ace.sid
  | .deny => denyMatches ace.sid

theorem allowedBy_eq (allowMatches denyMatches : Sid → Bool) (dacl : List AceEntry) (bit : Nat) :
    allowedBy (matchingWith allowMatches denyMatches) dacl bit =
      acePolicy.grants (appliesWith allowMatches denyMatches) dacl bit := rfl

/-- The walk with separate predicates grants exactly the rights the reference
grants. -/
theorem walkGrantedWith_eq_allowedBy (dacl : List AceEntry) (allowMatches denyMatches : Sid → Bool)
    (bit : Nat) :
    (walkGrantedWith dacl allowMatches denyMatches).getLsbD bit =
      allowedBy (matchingWith allowMatches denyMatches) dacl bit := by
  rw [walkGrantedWith_getLsbD, allowedBy_eq]

theorem decidingAce_congr {matching other : AceEntry → Bool} {dacl : List AceEntry} (bit : Nat)
    (agree : ∀ ace ∈ dacl, aceAppliesToCurrentObject ace = true → matching ace = other ace) :
    decidingAce matching dacl bit = decidingAce other dacl bit := by
  have same : ∀ ace ∈ dacl, (aceAppliesToCurrentObject ace && matching ace) =
      (aceAppliesToCurrentObject ace && other ace) := by
    intro ace member
    cases applies : aceAppliesToCurrentObject ace with
    | false => rfl
    | true => rw [agree ace member applies]
  exact acePolicy.deciding_congr bit same

theorem allowedBy_congr {matching other : AceEntry → Bool} {dacl : List AceEntry} (bit : Nat)
    (agree : ∀ ace ∈ dacl, aceAppliesToCurrentObject ace = true → matching ace = other ace) :
    allowedBy matching dacl bit = allowedBy other dacl bit := by
  rw [allowedBy, allowedBy, decidingAce_congr bit agree]

/-- A logon token.  A deny-only SID matches Deny entries only. -/
structure LogonToken where
  enabled : Finset Sid
  denyOnly : Finset Sid

namespace LogonToken

def matchesAce (token : LogonToken) (ace : AceEntry) : Bool :=
  ace.sid ∈ token.enabled ∨ (ace.kind = .deny ∧ ace.sid ∈ token.denyOnly)

/-- The token of an owner: OWNER RIGHTS names it as well. -/
def withOwnerRights (token : LogonToken) : LogonToken :=
  { token with enabled := insert sidOwnerRights token.enabled }

theorem matchesAce_eq (token : LogonToken) :
    token.matchesAce = matchingWith (fun sid => sid ∈ token.enabled)
      (fun sid => sid ∈ token.enabled || sid ∈ token.denyOnly) := by
  funext ace
  unfold matchesAce matchingWith
  cases ace.kind with
  | allow => simp
  | deny => simp

end LogonToken

/-! ## The shown NTFS mask -/

/-- The owner is certainly in the token. -/
def OwnerInToken (input : PermissionEvaluationInput) : Prop :=
  ∃ owner, input.fileSystemObject.ownerSid = some owner ∧ owner ∈ input.userSids

/-- No entry for OWNER RIGHTS applies to the object. -/
def NoOwnerRightsAce (dacl : List AceEntry) : Prop :=
  ∀ ace ∈ dacl, ace.sid = sidOwnerRights → aceAppliesToCurrentObject ace = false

/-- An entry matches the built token: its trustee is an enabled SID, or it is
a Deny for a deny-only SID, or it names OWNER RIGHTS and the owner is in the
token. -/
def matchesBuiltToken (input : PermissionEvaluationInput) (ace : AceEntry) : Bool :=
  ace.sid ∈ input.userSids ∨ (ace.kind = .deny ∧ ace.sid ∈ input.denyOnlySids) ∨
    (ace.sid = sidOwnerRights ∧ input.userIsOwner = true)

theorem userIsOwner_eq_true_iff (input : PermissionEvaluationInput) :
    input.userIsOwner = true ↔ OwnerInToken input := by
  unfold PermissionEvaluationInput.userIsOwner OwnerInToken
  rw [Option.any_eq_true]
  simp only [decide_eq_true_iff]

theorem ownerRightsAce_eq_false_iff (dacl : List AceEntry) :
    ownerRightsAce dacl = false ↔ NoOwnerRightsAce dacl := by
  unfold ownerRightsAce NoOwnerRightsAce
  rw [List.any_eq_false]
  constructor
  · intro absent ace member named
    have refused := absent ace member
    simp only [named, decide_true, Bool.true_and, Bool.not_eq_true] at refused
    exact refused
  · intro absent ace member both
    rw [Bool.and_eq_true, decide_eq_true_iff] at both
    rw [absent ace member both.1] at both
    cases both.2

theorem ownerImplicitBits_getLsbD (input : PermissionEvaluationInput) (bit : Nat) :
    input.ownerImplicitBits.getLsbD bit = true ↔
      OwnerInToken input ∧ NoOwnerRightsAce input.fileSystemObject.dacl ∧
        (bit = 17 ∨ bit = 18) := by
  unfold PermissionEvaluationInput.ownerImplicitBits PermissionEvaluationInput.ownerRightsAcePresent
  rw [← userIsOwner_eq_true_iff, ← ownerRightsAce_eq_false_iff, ← ownerGrant_getLsbD]
  cases input.userIsOwner <;> cases ownerRightsAce input.fileSystemObject.dacl <;>
    simp [ownerGrant]

theorem matchesBuiltToken_eq (input : PermissionEvaluationInput) :
    matchesBuiltToken input =
      matchingWith (fun sid => sid ∈ input.matchSids)
        (fun sid => sid ∈ input.matchSids || sid ∈ input.denyOnlySids) := by
  funext ace
  unfold matchesBuiltToken matchingWith PermissionEvaluationInput.matchSids
  cases input.userIsOwner <;> cases ace.kind <;>
    simp [Finset.mem_insert, Bool.or_assoc, Bool.or_comm, Bool.or_left_comm]

/-- Without a NULL DACL the shown mask is the reference check of the built
token, together with the implicit owner grant. -/
theorem ntfsRaw_getLsbD {input : PermissionEvaluationInput}
    (present : input.fileSystemObject.nullDacl = false) (bit : Nat) :
    input.ntfsRaw.getLsbD bit =
      (allowedBy (matchesBuiltToken input) input.fileSystemObject.dacl bit ||
        input.ownerImplicitBits.getLsbD bit) := by
  rw [PermissionEvaluationInput.ntfsRaw_of_dacl present, BitVec.getLsbD_or, matchesBuiltToken_eq,
    ← walkGrantedWith_eq_allowedBy, walkDaclStoredOrder_granted]

theorem ntfsRaw_of_nullDacl {input : PermissionEvaluationInput}
    (absent : input.fileSystemObject.nullDacl = true) :
    input.ntfsRaw = maskFullControl ||| input.ownerImplicitBits := by
  unfold PermissionEvaluationInput.ntfsRaw PermissionEvaluationInput.walk
  rw [if_pos absent]

/-- The evaluation refines the per-right reference check. -/
theorem evaluate_refines_accessCheck (input : PermissionEvaluationInput) :
    (input.fileSystemObject.nullDacl = false → ∀ bit,
      ((evaluate input).ntfsMask.getLsbD bit = true ↔
        (∃ ace, decidingAce (matchesBuiltToken input) input.fileSystemObject.dacl bit = some ace ∧
          ace.kind = .allow) ∨
        (OwnerInToken input ∧ NoOwnerRightsAce input.fileSystemObject.dacl ∧
          (bit = 17 ∨ bit = 18)))) ∧
    (input.fileSystemObject.nullDacl = true →
      (evaluate input).ntfsMask = maskFullControl ||| input.ownerImplicitBits ∧
        ∀ bit, (input.ownerImplicitBits.getLsbD bit = true ↔
          OwnerInToken input ∧ NoOwnerRightsAce input.fileSystemObject.dacl ∧
            (bit = 17 ∨ bit = 18))) ∧
    ((∃ server, input.selectiveAuthentication = some (.denied server)) →
      (evaluate input).effectiveMask = 0#32) ∧
    ((¬ ∃ server, input.selectiveAuthentication = some (.denied server)) →
      (evaluate input).effectiveMask =
        match input.shareStatus with
        | .applied share => (evaluate input).ntfsMask &&& share
        | _ => (evaluate input).ntfsMask) := by
  refine ⟨?_, ?_, ?_, ?_⟩
  · intro present bit
    rw [evaluate_ntfsMask, ntfsRaw_getLsbD present, Bool.or_eq_true, ownerImplicitBits_getLsbD,
      allowedBy, Option.any_eq_true]
    simp only [aceAllows, decide_eq_true_iff]
  · intro absent
    rw [evaluate_ntfsMask]
    exact ⟨ntfsRaw_of_nullDacl absent, ownerImplicitBits_getLsbD input⟩
  · rintro ⟨server, refused⟩
    rw [evaluate_effectiveMask, PermissionEvaluationInput.logonRefused, refused]
    rfl
  · intro admitted
    have notRefused : input.logonRefused = false := by
      unfold PermissionEvaluationInput.logonRefused
      split
      · rename_i server refused
        exact absurd ⟨server, refused⟩ admitted
      · rfl
    rw [evaluate_effectiveMask, notRefused, evaluate_ntfsMask]
    rfl

/-! The reference lets an entry for OWNER RIGHTS match a token that lists that
SID itself.  A check that gives the entry to owners alone is a different one. -/

/-- OWNER RIGHTS as a name for the owner and nothing else. -/
def matchesOwnerOnly (input : PermissionEvaluationInput) (ace : AceEntry) : Bool :=
  if ace.sid = sidOwnerRights then input.userIsOwner
  else ace.sid ∈ input.userSids ∨ (ace.kind = .deny ∧ ace.sid ∈ input.denyOnlySids)

/-- OWNER RIGHTS is evaluated as an identity of its own, on an object of
another owner. -/
def ownerRightsAsIdentity : PermissionEvaluationInput where
  identity := { sid := sidOwnerRights }
  fileSystemObject :=
    { path := "D:\\Data"
      ownerSid := some ⟨"S-1-5-21-1-2-3-1001"⟩
      dacl := [{ kind := .allow, sid := sidOwnerRights, mask := 0x1#32 }] }

theorem ownerRightsAsIdentity_granted :
    ¬ ((evaluate ownerRightsAsIdentity).ntfsMask.getLsbD 0 = true ↔
      (∃ ace, decidingAce (matchesOwnerOnly ownerRightsAsIdentity)
          ownerRightsAsIdentity.fileSystemObject.dacl 0 = some ace ∧ ace.kind = .allow) ∨
      (OwnerInToken ownerRightsAsIdentity ∧
        NoOwnerRightsAce ownerRightsAsIdentity.fileSystemObject.dacl ∧
          ((0 : Nat) = 17 ∨ (0 : Nat) = 18))) := by
  intro agree
  have granted : (evaluate ownerRightsAsIdentity).ntfsMask.getLsbD 0 = true := by decide
  have undecided : decidingAce (matchesOwnerOnly ownerRightsAsIdentity)
      ownerRightsAsIdentity.fileSystemObject.dacl 0 = none := by decide
  rcases agree.mp granted with ⟨ace, decided, _⟩ | ⟨_, _, outside⟩
  · rw [undecided] at decided
    cases decided
  · omega

end PermissionEngine
end Stars
