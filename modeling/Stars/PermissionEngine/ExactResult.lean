import Stars.PermissionEngine.LogonRefusal
import Stars.PermissionEngine.Ownership

namespace Stars
namespace PermissionEngine

open AccessControl AdResolver EffectivePermission

/-!
# Results without uncertainty

A result without a reason of uncertainty is one value for many tokens.  Every token that the
lists of the evaluation leave possible gets the shown NTFS rights from the access check,
whether or not it holds the owner, as far as an uncertain owner is covered.  An undeterminable
logon leaves no reason only where there is no access.
-/

section Known

variable {input : PermissionEvaluationInput}

/-- The markers of a finished result begin with those of the permissions. -/
theorem exists_reportedFrom_evaluate : ∃ back, ReportedFrom input (evaluate input) back ∧
    ∀ marker ∈ (if input.effectiveRaw = 0#32 &&
        input.draft.uncertainty.all (fun entry => entry.layer = .logon) then
      input.logonMarkers.map withoutEffect else input.logonMarkers), marker ∈ back := by
  have settled := @settleLogon_draft_diagnostics input
  by_cases refused : input.logonRefused = true
  · refine ⟨_, ⟨evaluate_shareStatus input, ?_, ?_, ?_⟩, fun marker member => member⟩
    · exact congrArg EffectivePermission.unsupportedAceCount (evaluate_eq_draft input)
    · exact congrArg EffectivePermission.localGroupStatus (evaluate_eq_draft input)
    · rw [evaluate, if_pos refused]
      exact settled
  · refine ⟨_, ⟨evaluate_shareStatus input, ?_, ?_, ?_⟩,
      fun marker member => List.mem_append_left
        (synchronizeMarkers (settleLogon input.draft) input.ntfsRaw input.deniedRaw) member⟩
    · exact congrArg EffectivePermission.unsupportedAceCount (evaluate_eq_draft input)
    · exact congrArg EffectivePermission.localGroupStatus (evaluate_eq_draft input)
    · rw [evaluate, if_neg refused]
      dsimp only
      rw [settled, List.append_assoc]

variable (certain : (evaluate input).uncertainty = [])

include certain

/-- A result without uncertainty comes from an input that leaves nothing open. -/
theorem not_unknown_of_certain : ¬Unknown input (fun _ => True) := by
  rcases @exists_reportedFrom_evaluate input with ⟨back, reported, _⟩
  have quiet : ¬Marked (fun _ => True) back := by
    rintro ⟨marker, member, layer, classified, _⟩
    have noLayer := uncertainLayer_of_uncertainty_nil certain
      (reported.markers ▸ List.mem_append_right _ member)
    rw [classified] at noLayer
    cases noLayer
  rw [← openIn_of_reportedFrom reported quiet]
  exact (uncertainty_eq_nil_iff _).mp certain

theorem ntfsKnown_of_certain : NtfsKnown input := by
  by_contra unknown
  exact not_unknown_of_certain certain (.inr (.inl ⟨unknown, trivial⟩))

theorem shareKnown_of_certain : ShareKnown input := by
  by_contra unknown
  exact not_unknown_of_certain certain (.inr (.inr (.inl ⟨unknown, trivial⟩)))

/-- An undeterminable logon leaves no uncertainty only where there is no access. -/
theorem effectiveRaw_of_unknownLogon {server reason : String}
    (undecided : input.selectiveAuthentication = some (.unknown server reason)) :
    input.effectiveRaw = 0#32 := by
  by_contra access
  rcases @exists_reportedFrom_evaluate input with ⟨back, reported, logon⟩
  have markers : input.logonMarkers = [.selectiveAuthenticationUnknown server reason true] := by
    rw [PermissionEvaluationInput.logonMarkers, undecided]
  have kept : ¬(input.effectiveRaw = 0#32 &&
      input.draft.uncertainty.all (fun entry => entry.layer = .logon)) = true := by
    intro both
    exact access (of_decide_eq_true (Bool.and_eq_true_iff.mp both).1)
  rw [if_neg kept, markers] at logon
  have listed := logon _ (List.mem_singleton_self _)
  have noLayer := uncertainLayer_of_uncertainty_nil certain
    (reported.markers ▸ List.mem_append_right _ listed)
  cases noLayer

end Known

/-! ## The tokens of a logon -/

/-- A logon token that the lists of an evaluation leave possible.  A group that is certainly
filtered is not enabled. -/
structure PossibleLogon (input : PermissionEvaluationInput) (token : LogonToken) : Prop where
  contains : ∀ sid ∈ input.userSids, sid ∈ token.enabled
  further : ∀ sid ∈ token.enabled,
    sid ∈ input.userSids ∨ input.logonFacts.mayBeEnabled sid = true
  refusing : ∀ sid ∈ token.denyOnly,
    sid ∈ input.userSids ∨ input.logonFacts.mayBeEnabled sid = true ∨ sid ∈ input.denyOnlySids
  filtered : ∀ sid ∈ input.denyOnlySids, sid ∈ token.enabled ∨ sid ∈ token.denyOnly
  settled : input.uacFilterCertain = true → ∀ sid ∈ input.denyOnlySids,
    sid ∈ token.enabled → sid ∈ input.userSids

/-- What an access check grants to a token on an object. -/
def LogonToken.objectRights (token : LogonToken) (object : FileSystemObject) (bit : Nat) : Bool :=
  match object.ownerSid with
  | some owner => token.ownedRights owner object bit
  | none =>
      if object.nullDacl then maskFullControl.getLsbD bit
      else allowedBy token.matchesAce object.dacl bit

section Rights

variable {input : PermissionEvaluationInput} {token : LogonToken}

theorem subset_matchSids (sid : Sid) (member : sid ∈ input.userSids) : sid ∈ input.matchSids := by
  rw [PermissionEvaluationInput.matchSids]
  split
  · exact Finset.mem_insert_of_mem member
  · exact member

/-- A possible logon whose owner is not certain is a token of the bounds. -/
def PossibleLogon.unowned (possible : PossibleLogon input token)
    (other : input.userIsOwner = false) : PossibleToken input.logonFacts where
  toLogonToken := token
  contains := fun sid member => possible.contains sid (by
    have same : input.matchSids = input.userSids := by
      rw [PermissionEvaluationInput.matchSids, other, if_neg Bool.false_ne_true]
    exact same ▸ member)
  further := fun sid member => (possible.further sid member).imp_left (subset_matchSids sid)
  refusing := fun sid member => (possible.refusing sid member).imp_left (subset_matchSids sid)
  filtered := possible.filtered

/-- A possible logon of the owner, with OWNER RIGHTS, is a token of the bounds. -/
def PossibleLogon.owned (possible : PossibleLogon input token) (owner : input.userIsOwner = true) :
    PossibleToken input.logonFacts where
  toLogonToken := token.withOwnerRights
  contains := fun sid member => by
    have inside : sid ∈ insert sidOwnerRights input.userSids := by
      have same : input.matchSids = insert sidOwnerRights input.userSids := by
        rw [PermissionEvaluationInput.matchSids, owner, if_pos rfl]
      exact same ▸ member
    rcases Finset.mem_insert.mp inside with rights | own
    · exact rights ▸ Finset.mem_insert_self _ _
    · exact Finset.mem_insert_of_mem (possible.contains sid own)
  further := fun sid member => by
    rcases Finset.mem_insert.mp member with rights | own
    · left
      change sid ∈ input.matchSids
      rw [PermissionEvaluationInput.matchSids, owner, if_pos rfl, rights]
      exact Finset.mem_insert_self _ _
    · exact (possible.further sid own).imp_left (subset_matchSids sid)
  refusing := fun sid member => (possible.refusing sid member).imp_left (subset_matchSids sid)
  filtered := fun sid member => (possible.filtered sid member).imp_left Finset.mem_insert_of_mem

/-- A covered owner is bracketed. -/
theorem bracketed_of_covered {owner : Sid} (uncertain : OwnerUncertain input owner)
    (covered : OwnerCovered input owner) : OwnershipBracketed input owner := by
  by_cases absent : input.fileSystemObject.nullDacl = true
  · exact bracketed_of_nullDacl uncertain absent
  have present : input.fileSystemObject.nullDacl = false := Bool.eq_false_iff.mpr absent
  by_cases listed : owner ∈ input.denyOnlySids
  · exact bracketed_of_filtered uncertain present listed
  rcases covered with undecided | filtered | ⟨ungoverned, readControl, writeDac⟩ | ⟨governed, agree⟩
  · exact absurd undecided absent
  · exact absurd filtered listed
  · exact bracketed_of_grantAllowed uncertain present listed ungoverned readControl writeDac
  · exact bracketed_of_entriesAgree uncertain present listed governed agree

theorem userIsOwner_of_named {owner : Sid} (named : input.fileSystemObject.ownerSid = some owner) :
    input.userIsOwner = decide (owner ∈ input.userSids) := by
  rw [PermissionEvaluationInput.userIsOwner, named, Option.any_some]

/-- The implicit grant of a certain owner, unless OWNER RIGHTS governs it. -/
theorem ownerImplicitBits_of_owner (owner : input.userIsOwner = true) (bit : Nat) :
    input.ownerImplicitBits.getLsbD bit =
      (!ownerRightsAce input.fileSystemObject.dacl && ownerGrant.getLsbD bit) := by
  rw [PermissionEvaluationInput.ownerImplicitBits, PermissionEvaluationInput.ownerRightsAcePresent,
    owner, Bool.true_and, Bool.true_and]
  cases ownerRightsAce input.fileSystemObject.dacl with
  | true => simp
  | false => rfl

theorem ownerImplicitBits_of_other (other : input.userIsOwner = false) :
    input.ownerImplicitBits = 0#32 := by
  rw [PermissionEvaluationInput.ownerImplicitBits, other]
  rfl

/-- The implicit grant is part of full control. -/
theorem fullControl_or_ownerImplicitBits :
    maskFullControl ||| input.ownerImplicitBits = maskFullControl := by
  rw [PermissionEvaluationInput.ownerImplicitBits]
  split
  · decide
  · decide

variable (certain : (evaluate input).uncertainty = [])

include certain

/-- Without uncertainty every token of the bounds has the shown mask. -/
theorem mask_of_certain (present : input.fileSystemObject.nullDacl = false)
    (held : PossibleToken input.logonFacts) :
    held.mask input.fileSystemObject.dacl ||| input.ownerImplicitBits =
      (evaluate input).ntfsMask := by
  have range := evaluate_ntfsRange present
  rw [ntfsRange_of_exact certain] at range
  rcases Prod.mk.inj range with ⟨low, high⟩
  apply Within.antisymm
  · rw [high]
    exact Within.or_le ((mask_within_highest _ held _).trans (Within.or_left _ _))
      ((ownerBits_within_upper _ _ _).trans (Within.or_right _ _))
  · rw [low]
    exact (lowest_within_mask _ held _).or_mono _

/-- The access check grants every possible token the shown NTFS rights. -/
theorem objectRights_of_certain (possible : PossibleLogon input token)
    (covered : ∀ owner, OwnerUncertain input owner → OwnerCovered input owner) (bit : Nat) :
    token.objectRights input.fileSystemObject bit = (evaluate input).ntfsMask.getLsbD bit := by
  unfold LogonToken.objectRights LogonToken.ownedRights
  by_cases absent : input.fileSystemObject.nullDacl = true
  · rw [evaluate_ntfsMask, ntfsRaw_of_nullDacl absent, fullControl_or_ownerImplicitBits]
    simp only [absent, if_true]
    split <;> rfl
  have present : input.fileSystemObject.nullDacl = false := Bool.eq_false_iff.mpr absent
  simp only [present, Bool.false_eq_true, if_false]
  cases known : input.userIsOwner with
  | true =>
      rcases (userIsOwner_eq_true_iff input).mp known with ⟨owner, named, inside⟩
      rw [named, ← mask_of_certain certain present (possible.owned known), BitVec.getLsbD_or,
        ownerImplicitBits_of_owner known]
      dsimp only
      rw [if_pos (possible.contains owner inside), allowedBy_token]
      rfl
  | false =>
      have unowned : allowedBy token.matchesAce input.fileSystemObject.dacl bit =
          (evaluate input).ntfsMask.getLsbD bit := by
        rw [← mask_of_certain certain present (possible.unowned known),
          ownerImplicitBits_of_other known, BitVec.or_zero, allowedBy_token]
        rfl
      cases named : input.fileSystemObject.ownerSid with
      | none => exact unowned
      | some owner =>
          dsimp only
          split
          · next held =>
              -- The token holds an owner that is not certain.
              have other : owner ∉ input.userSids := by
                rw [userIsOwner_of_named named] at known
                exact of_decide_eq_false known
              have uncertain : OwnerUncertain input owner :=
                ⟨named, other, (possible.further owner held).resolve_left other,
                  fun filtered => other (possible.settled filtered.2 owner filtered.1 held)⟩
              have inside := bracketed_of_covered uncertain (covered owner uncertain)
                (possible.unowned known) bit
              rw [ntfsRange_of_exact certain] at inside
              have rights : (possible.unowned known).ownedRights owner input.fileSystemObject bit =
                  (allowedBy token.withOwnerRights.matchesAce input.fileSystemObject.dacl bit ||
                    (!ownerRightsAce input.fileSystemObject.dacl && ownerGrant.getLsbD bit)) := by
                rw [LogonToken.ownedRights, present, if_neg Bool.false_ne_true]
                exact if_pos held
              rw [← rights, Bool.eq_iff_iff]
              exact ⟨inside.2, inside.1⟩
          · exact unowned

end Rights

end PermissionEngine
end Stars
