import Stars.PermissionEngine.Provenance
import Stars.PermissionEngine.Withdrawal
import Stars.Text.Numbers

namespace Stars

open PermissionEngine AccessControl

/-!
# User Account Control narrows the shown result

A filtered group leaves the enabled SIDs of the token and stays in it for Deny
entries only.  Allow entries of the list lose matches and Deny entries lose none,
so the shown mask can only shrink.  There is one way around it: a filtered owner is
no owner any more, and then a Deny entry for OWNER RIGHTS no longer applies.
-/

namespace PermissionEngine

/-- Builtin groups that are deny-only in a filtered token. -/
def uacFilteredBuiltinGroups : List Sid :=
  [⟨"S-1-5-32-544"⟩, ⟨"S-1-5-32-547"⟩, ⟨"S-1-5-32-548"⟩, ⟨"S-1-5-32-549"⟩, ⟨"S-1-5-32-550"⟩,
    ⟨"S-1-5-32-551"⟩, ⟨"S-1-5-32-554"⟩, ⟨"S-1-5-32-556"⟩]

/-- Relative identifiers of domain groups that are deny-only in a filtered
token. -/
def uacFilteredDomainRids : List Nat := [498, 512, 516, 517, 518, 519, 520, 521]

/-- Local account and member of Administrators. -/
def sidLocalAccountAndAdmin : Sid := ⟨"S-1-5-114"⟩

/-- Whether User Account Control may turn the group deny-only. -/
def isUacFilteredGroup (sid : Sid) : Bool :=
  if uacFilteredBuiltinGroups.contains sid then true
  else
    match Text.stripPrefix "S-1-5-21-" sid.value.toList with
    | none => false
    | some rest =>
        match Text.rsplitOnce '-' rest with
        | none => false
        | some (domain, rid) =>
            (Text.split '-' domain).length == 3 &&
              (Text.parseUnsigned (2 ^ 32) rid).any
                (fun value => uacFilteredDomainRids.contains value)

/-- The token groups that may be filtered for an access.  Over the network only a
local account is filtered. -/
def uacFilteredGroups (tokenGroups : List Sid) (localAccount : Bool) (context : AccessContext) :
    List Sid :=
  if context = .remoteSmb ∧ localAccount = false then []
  else
    let filtered := tokenGroups.filter isUacFilteredGroup
    sortedDistinct
      (if localAccount && filtered.any (fun sid => sid.value = "S-1-5-32-544") then
        filtered ++ [sidLocalAccountAndAdmin]
      else filtered)

/-- The groups of the directory with their historical SIDs, and the local
groups. -/
def uacFilteredTokenGroups (domainMemberships : List GroupMembership) (localGroupSids : List Sid)
    (localAccount : Bool) (context : AccessContext) : List Sid :=
  uacFilteredGroups (domainMemberships.flatMap GroupMembership.tokenSids ++ localGroupSids)
    localAccount context

/-- A derived list holds groups that may be filtered, and nothing else. -/
theorem mem_uacFilteredTokenGroups {memberships : List GroupMembership} {locals : List Sid}
    {localAccount : Bool} {context : AccessContext} {sid : Sid}
    (member : sid ∈ uacFilteredTokenGroups memberships locals localAccount context) :
    isUacFilteredGroup sid = true ∨ sid = sidLocalAccountAndAdmin := by
  rw [uacFilteredTokenGroups, uacFilteredGroups] at member
  split at member
  · cases member
  · dsimp only at member
    rw [sortedDistinct, List.mem_dedup, List.mem_mergeSort] at member
    split at member
    · rcases List.mem_append.mp member with kept | added
      · exact Or.inl (List.mem_filter.mp kept).2
      · exact Or.inr (List.mem_singleton.mp added)
    · exact Or.inl (List.mem_filter.mp member).2

/-- No derived list holds Everyone or OWNER RIGHTS. -/
theorem wellKnowns_not_derived (memberships : List GroupMembership) (locals : List Sid)
    (localAccount : Bool) (context : AccessContext) :
    sidEveryone ∉ uacFilteredTokenGroups memberships locals localAccount context ∧
      sidOwnerRights ∉ uacFilteredTokenGroups memberships locals localAccount context := by
  constructor
  · intro member
    rcases mem_uacFilteredTokenGroups member with filtered | same
    · exact absurd filtered (by decide)
    · exact absurd same (by decide)
  · intro member
    rcases mem_uacFilteredTokenGroups member with filtered | same
    · exact absurd filtered (by decide)
    · exact absurd same (by decide)

end PermissionEngine

namespace PermissionEvaluationInput

/-- The same input with another list of filtered groups. -/
def withFiltered (input : PermissionEvaluationInput) (filtered : List Sid) :
    PermissionEvaluationInput :=
  { input with uacFilteredGroupSids := filtered }

end PermissionEvaluationInput

namespace PermissionEngine

/-- No Deny entry for OWNER RIGHTS applies to the object. -/
def NoOwnerRightsDeny (dacl : List AceEntry) : Prop :=
  ¬ ∃ ace ∈ dacl, ace.kind = .deny ∧ ace.sid = sidOwnerRights ∧
    aceAppliesToCurrentObject ace = true

section Token

variable {input : PermissionEvaluationInput} {small large : List Sid}

theorem mem_enabledSids_withFiltered_iff (filtered : List Sid) (sid : Sid) :
    sid ∈ (input.withFiltered filtered).enabledSids ↔
      (sid ∈ collectUserSids input.identity input.groupMemberships input.localGroupSids
          input.accessContext ∧ sid ∉ filtered) ∨
        (anonymousGetsEveryone input.identity.sid input.anonymousEveryone = true ∧
          sid = sidEveryone) := by
  rw [mem_enabledSids_iff, PermissionEvaluationInput.denyOnlySids, List.mem_toFinset]
  exact Iff.rfl

theorem mem_userSids_withFiltered_iff (filtered : List Sid) (sid : Sid) :
    sid ∈ (input.withFiltered filtered).userSids ↔
      sid ≠ sidCryptographicOperators ∧ sid ∈ (input.withFiltered filtered).enabledSids := by
  rw [PermissionEvaluationInput.userSids, Finset.mem_erase]

theorem userSids_withFiltered_subset (included : ∀ sid ∈ small, sid ∈ large) :
    (input.withFiltered large).userSids ⊆ (input.withFiltered small).userSids := by
  intro sid
  rw [mem_userSids_withFiltered_iff, mem_userSids_withFiltered_iff,
    mem_enabledSids_withFiltered_iff, mem_enabledSids_withFiltered_iff]
  apply And.imp_right
  apply Or.imp_left
  apply And.imp_right
  exact fun absent member => absent (included sid member)

/-- A SID leaves the enabled ones only by being newly filtered. -/
theorem userSids_or_filtered {sid : Sid} (enabled : sid ∈ (input.withFiltered small).userSids) :
    sid ∈ (input.withFiltered large).userSids ∨ (sid ∈ large ∧ sid ∉ small) := by
  rw [mem_userSids_withFiltered_iff, mem_enabledSids_withFiltered_iff] at enabled ⊢
  rcases enabled with ⟨other, ⟨collected, kept⟩ | anonymous⟩
  · by_cases filtered : sid ∈ large
    · exact Or.inr ⟨filtered, kept⟩
    · exact Or.inl ⟨other, Or.inl ⟨collected, filtered⟩⟩
  · exact Or.inl ⟨other, Or.inr anonymous⟩

theorem ownerInToken_of_large (included : ∀ sid ∈ small, sid ∈ large)
    (owns : (input.withFiltered large).userIsOwner = true) :
    (input.withFiltered small).userIsOwner = true := by
  rw [userIsOwner_eq_true_iff] at owns ⊢
  rcases owns with ⟨owner, owned, enabled⟩
  exact ⟨owner, owned, userSids_withFiltered_subset included enabled⟩

/-- An owner that is not newly filtered stays the owner. -/
theorem userIsOwner_withFiltered_eq (included : ∀ sid ∈ small, sid ∈ large)
    (other : ∀ owner, input.fileSystemObject.ownerSid = some owner → owner ∈ large →
      owner ∈ small) :
    (input.withFiltered large).userIsOwner = (input.withFiltered small).userIsOwner := by
  rw [Bool.eq_iff_iff]
  refine ⟨ownerInToken_of_large included, ?_⟩
  rw [userIsOwner_eq_true_iff, userIsOwner_eq_true_iff]
  rintro ⟨owner, owned, enabled⟩
  refine ⟨owner, owned, (userSids_or_filtered enabled).resolve_right ?_⟩
  exact fun newly => newly.2 (other owner owned newly.1)

theorem matchSids_withFiltered_subset (included : ∀ sid ∈ small, sid ∈ large) :
    (input.withFiltered large).matchSids ⊆ (input.withFiltered small).matchSids := by
  intro sid
  rw [PermissionEvaluationInput.matchSids, PermissionEvaluationInput.matchSids]
  cases owns : (input.withFiltered large).userIsOwner with
  | true =>
      rw [ownerInToken_of_large included owns, if_pos rfl, if_pos rfl, Finset.mem_insert,
        Finset.mem_insert]
      exact Or.imp_right (fun member => userSids_withFiltered_subset included member)
  | false =>
      rw [if_neg Bool.false_ne_true]
      intro member
      have enabled := userSids_withFiltered_subset included member
      split
      · exact Finset.mem_insert_of_mem enabled
      · exact enabled

/-! ## The shown mask of a longer list -/

/-- A longer list keeps every Deny match, as long as the owner keeps OWNER RIGHTS
where a Deny entry names it. -/
theorem refused_withFiltered (kept : (input.withFiltered large).userIsOwner =
      (input.withFiltered small).userIsOwner ∨ NoOwnerRightsDeny input.fileSystemObject.dacl)
    (included : ∀ sid ∈ small, sid ∈ large) {ace : AceEntry}
    (member : ace ∈ input.fileSystemObject.dacl) (applies : aceAppliesToCurrentObject ace = true)
    (kind : ace.kind = .deny)
    (refused : ace.sid ∈ (input.withFiltered small).matchSids ∨ ace.sid ∈ small) :
    ace.sid ∈ (input.withFiltered large).matchSids ∨ ace.sid ∈ large := by
  rcases refused with matched | filtered
  · rw [PermissionEvaluationInput.matchSids] at matched ⊢
    have enabled : ace.sid ∈ (input.withFiltered small).userSids →
        ace.sid ∈ (if (input.withFiltered large).userIsOwner = true then
          insert sidOwnerRights (input.withFiltered large).userSids
        else (input.withFiltered large).userSids) ∨ ace.sid ∈ large := by
      intro inside
      refine (userSids_or_filtered inside).imp (fun still => ?_) And.left
      split
      · exact Finset.mem_insert_of_mem still
      · exact still
    split at matched
    · rename_i owned
      rcases Finset.mem_insert.mp matched with named | inside
      · rcases kept with same | absent
        · rw [same, owned, if_pos rfl, named]
          exact Or.inl (Finset.mem_insert_self _ _)
        · exact absurd ⟨ace, member, kind, named, applies⟩ absent
      · exact enabled inside
    · exact enabled matched
  · exact Or.inr (included ace.sid filtered)

theorem ownerImplicitBits_within (included : ∀ sid ∈ small, sid ∈ large) :
    Within (input.withFiltered large).ownerImplicitBits
      (input.withFiltered small).ownerImplicitBits := by
  rw [within_iff]
  intro bit
  rw [ownerImplicitBits_getLsbD, ownerImplicitBits_getLsbD, ← userIsOwner_eq_true_iff,
    ← userIsOwner_eq_true_iff]
  exact And.imp_left (ownerInToken_of_large included)

/-- A longer list of filtered groups never adds a right. -/
theorem ntfsRaw_withFiltered_within (included : ∀ sid ∈ small, sid ∈ large)
    (kept : (input.withFiltered large).userIsOwner = (input.withFiltered small).userIsOwner ∨
      NoOwnerRightsDeny input.fileSystemObject.dacl) :
    Within (input.withFiltered large).ntfsRaw (input.withFiltered small).ntfsRaw := by
  have owner : Within (input.withFiltered large).ownerImplicitBits
      (input.withFiltered small).ownerImplicitBits := ownerImplicitBits_within included
  rw [PermissionEvaluationInput.ntfsRaw, PermissionEvaluationInput.ntfsRaw]
  refine Within.or_le (Within.trans ?_ (Within.or_left _ _)) (owner.trans (Within.or_right _ _))
  rw [PermissionEvaluationInput.walk, PermissionEvaluationInput.walk]
  have object : ∀ filtered, (input.withFiltered filtered).fileSystemObject =
      input.fileSystemObject := fun _ => rfl
  rw [object, object]
  split
  · exact Within.refl _
  · rw [walkDaclStoredOrder_granted, walkDaclStoredOrder_granted]
    apply walkGrantedWith_le
    · intro ace _ _ _ matched
      rw [decide_eq_true_iff] at matched ⊢
      exact matchSids_withFiltered_subset included matched
    · intro ace member applies kind refused
      have lists : ∀ filtered, ace.sid ∈ (input.withFiltered filtered).denyOnlySids ↔
          ace.sid ∈ filtered := fun _ => List.mem_toFinset
      simp only [Bool.or_eq_true, decide_eq_true_iff, lists] at refused ⊢
      exact refused_withFiltered kept included member applies kind refused

/-- The effective right follows the shown mask. -/
theorem effectiveMask_withFiltered_within
    (shown : Within (input.withFiltered large).ntfsRaw (input.withFiltered small).ntfsRaw) :
    Within (evaluate (input.withFiltered large)).effectiveMask
      (evaluate (input.withFiltered small)).effectiveMask := by
  rw [evaluate_effectiveMask, evaluate_effectiveMask]
  have refused : (input.withFiltered large).logonRefused = (input.withFiltered small).logonRefused :=
    rfl
  have share : (input.withFiltered large).shareStatus = (input.withFiltered small).shareStatus := rfl
  rw [refused, PermissionEvaluationInput.effectiveRaw, PermissionEvaluationInput.effectiveRaw, share]
  split
  · exact Within.refl _
  · cases (input.withFiltered small).shareStatus with
    | applied mask => exact shown.and_mono mask
    | _ => exact shown

end Token

/-! ## The entries of a filtered group -/

section Entries

variable {input : PermissionEvaluationInput} {sid : Sid}

/-- A filtered SID is enabled only as Everyone of an anonymous token or as OWNER
RIGHTS of an owner. -/
theorem not_mem_matchSids_of_filtered (filtered : sid ∈ input.uacFilteredGroupSids)
    (named : ¬ (sid = sidEveryone ∧
      anonymousGetsEveryone input.identity.sid input.anonymousEveryone = true))
    (foreign : ¬ (sid = sidOwnerRights ∧ OwnerInToken input)) : sid ∉ input.matchSids := by
  have disabled : sid ∉ input.userSids := by
    intro enabled
    rw [PermissionEvaluationInput.userSids, Finset.mem_erase, mem_enabledSids_iff] at enabled
    rcases enabled.2 with ⟨_, kept⟩ | ⟨anonymous, everyone⟩
    · exact kept (List.mem_toFinset.mpr filtered)
    · exact named ⟨everyone, anonymous⟩
  rw [PermissionEvaluationInput.matchSids]
  split
  · rename_i owned
    intro member
    rcases Finset.mem_insert.mp member with same | enabled
    · exact foreign ⟨same, (userIsOwner_eq_true_iff input).mp owned⟩
    · exact disabled enabled
  · exact disabled

/-- An Allow entry for a trustee outside the token decides nothing. -/
theorem decided_eq_zero_of_outside (outside : sid ∉ input.matchSids)
    {entry : AceEntry × AccessMask}
    (member : entry ∈ input.fileSystemObject.dacl.zip input.walk.decidedPerAce)
    (kind : entry.1.kind = .allow) (trustee : entry.1.sid = sid) : entry.2 = 0#32 := by
  rw [PermissionEvaluationInput.walk] at member
  split at member
  · rw [List.zip_nil_right] at member
    cases member
  · refine (walkProvenance _ _ _).unmatched entry member ?_
    have unmatched : aceMatches entry.1 input.matchSids input.denyOnlySids = false := by
      rw [aceMatches, kind, trustee]
      simp [outside]
    rw [unmatched, Bool.and_false]

/-- A trustee outside the token contributes nothing. -/
theorem contribution_ne_of_outside (outside : sid ∉ input.matchSids) {contribution : ContributingAce}
    (member : contribution ∈ (evaluate input).contributingSids) : contribution.sid ≠ sid := by
  have listed : contribution ∈ input.walk.contributions := by
    rw [evaluate_eq_draft] at member
    exact member
  rintro rfl
  rw [PermissionEvaluationInput.walk] at listed
  split at listed
  · cases listed
  · rename_i present
    rw [(walkProvenance _ _ _).contributions] at listed
    rcases List.mem_map.mp listed with ⟨sid, contributor, rfl⟩
    rcases List.mem_map.mp (List.mem_eraseDups.mp contributor) with ⟨pair, allowed, rfl⟩
    rcases List.mem_map.mp allowed with ⟨entry, kept, rfl⟩
    rcases List.mem_filter.mp kept with ⟨inside, both⟩
    rw [Bool.and_eq_true, decide_eq_true_iff] at both
    rw [← PermissionEvaluationInput.walk_of_dacl (Bool.eq_false_iff.mpr present)] at inside
    exact both.2 (decided_eq_zero_of_outside outside inside (of_decide_eq_true both.1) rfl)

/-- An applicable Deny entry for a filtered group decides every bit that no earlier
entry granted. -/
theorem denied_of_filtered (present : input.fileSystemObject.nullDacl = false)
    {before after : List AceEntry} {ace : AceEntry}
    (divided : input.fileSystemObject.dacl = before ++ ace :: after) (kind : ace.kind = .deny)
    (filtered : ace.sid ∈ input.uacFilteredGroupSids)
    (applies : aceAppliesToCurrentObject ace = true) {bit : Nat}
    (holds : (expandGenericRights ace.mask).getLsbD bit = true)
    (undecided :
      (walkDaclStoredOrder before input.matchSids input.denyOnlySids).granted.getLsbD bit =
      false) :
    input.deniedRaw.getLsbD bit = true ∧ input.walk.granted.getLsbD bit = false := by
  have matched : counts input.matchSids input.denyOnlySids ace = true := by
    rw [counts, aceMatches, kind, applies]
    simp [PermissionEvaluationInput.denyOnlySids, filtered]
  have walked := PermissionEvaluationInput.walk_of_dacl present
  have whole := walkDaclStoredOrder_decision input.fileSystemObject.dacl input.matchSids
    input.denyOnlySids
  have front := walkDaclStoredOrder_decision before input.matchSids input.denyOnlySids
  have granted := congrArg (fun decision => decision.granted.getLsbD bit) front
  have denied := congrArg (fun decision => decision.denied.getLsbD bit) whole
  dsimp only [DaclWalkOutcome.decision] at granted denied
  rw [Decision.walk_granted, undecided] at granted
  rw [Decision.walk_denied] at denied
  have refuses : aceAllows ace = false := by
    rw [aceAllows, kind]
    rfl
  have refused : input.walk.denied.getLsbD bit = true := by
    rw [walked, denied, divided]
    exact acePolicy.refuses_of_split refuses matched holds granted.symm
  refine ⟨refused, ?_⟩
  have apart := apart_iff.mp (walkProvenance input.fileSystemObject.dacl input.matchSids
    input.denyOnlySids).apart bit
  rw [← walked] at apart
  exact Bool.eq_false_iff.mpr (fun both => apart ⟨both, refused⟩)

theorem matchedAces_of_filtered {ace : AceEntry} (member : ace ∈ input.fileSystemObject.dacl)
    (kind : ace.kind = .deny) (filtered : ace.sid ∈ input.uacFilteredGroupSids)
    (applies : aceAppliesToCurrentObject ace = true) : ace ∈ (evaluate input).matchedAces := by
  have listed : ace ∈ collectMatchedAces input.fileSystemObject.dacl input.matchSids
      input.denyOnlySids := by
    refine List.mem_filter.mpr ⟨member, ?_⟩
    rw [applies, aceMatches, kind]
    simp [PermissionEvaluationInput.denyOnlySids, filtered]
  rw [evaluate_eq_draft]
  exact listed

/-- A further filtered SID leaves the ownership as it is, where no Deny entry for
OWNER RIGHTS applies to an owner of this SID. -/
theorem ownership_kept_of_filtered
    (owned : ¬ (input.fileSystemObject.ownerSid = some sid ∧ OwnerInToken input ∧
      ∃ ace ∈ input.fileSystemObject.dacl, ace.kind = .deny ∧ ace.sid = sidOwnerRights ∧
        aceAppliesToCurrentObject ace = true)) :
    (input.withFiltered (sid :: input.uacFilteredGroupSids)).userIsOwner =
        (input.withFiltered input.uacFilteredGroupSids).userIsOwner ∨
      NoOwnerRightsDeny input.fileSystemObject.dacl := by
  have included : ∀ known ∈ input.uacFilteredGroupSids, known ∈ sid :: input.uacFilteredGroupSids :=
    fun known member => List.mem_cons_of_mem sid member
  by_cases owns : input.fileSystemObject.ownerSid = some sid
  · by_cases holds : OwnerInToken input
    · exact Or.inr (fun denied => owned ⟨owns, holds, denied⟩)
    · apply Or.inl
      rw [Bool.eq_iff_iff]
      refine ⟨ownerInToken_of_large included, fun enabled => ?_⟩
      exact absurd ((userIsOwner_eq_true_iff input).mp enabled) holds
  · refine Or.inl (userIsOwner_withFiltered_eq included (fun owner same listed => ?_))
    rcases List.mem_cons.mp listed with rfl | known
    · exact absurd same owns
    · exact known

end Entries

/-- Filtered groups count for Deny entries only, and filtering narrows the shown
mask.  A further filtered SID adds no right, unless it takes the ownership away
while a Deny entry for OWNER RIGHTS applies.  The lists that are derived from the
token hold neither of the two SIDs that are enabled in spite of being listed. -/
theorem uacFiltering_narrows (input : PermissionEvaluationInput) :
    (∀ sid ∈ input.uacFilteredGroupSids,
      ¬ (sid = sidEveryone ∧
          anonymousGetsEveryone input.identity.sid input.anonymousEveryone = true) →
        ¬ (sid = sidOwnerRights ∧ OwnerInToken input) →
          (∀ contribution ∈ (evaluate input).contributingSids, contribution.sid ≠ sid) ∧
            ∀ entry ∈ input.fileSystemObject.dacl.zip input.walk.decidedPerAce,
              entry.1.kind = .allow → entry.1.sid = sid → entry.2 = 0#32) ∧
    (input.fileSystemObject.nullDacl = false → ∀ before ace after,
      input.fileSystemObject.dacl = before ++ ace :: after → ace.kind = .deny →
        ace.sid ∈ input.uacFilteredGroupSids → aceAppliesToCurrentObject ace = true →
          ace ∈ (evaluate input).matchedAces ∧
            ∀ bit, (expandGenericRights ace.mask).getLsbD bit = true →
              (walkDaclStoredOrder before input.matchSids input.denyOnlySids).granted.getLsbD bit =
                  false →
                input.deniedRaw.getLsbD bit = true ∧ input.walk.granted.getLsbD bit = false) ∧
    ((∀ owner, input.fileSystemObject.ownerSid = some owner →
        owner ∉ input.uacFilteredGroupSids) →
      Within (evaluate input).ntfsMask (evaluate (input.withFiltered [])).ntfsMask ∧
        Within (evaluate input).effectiveMask (evaluate (input.withFiltered [])).effectiveMask) ∧
    (∀ sid, ¬ (input.fileSystemObject.ownerSid = some sid ∧ OwnerInToken input ∧
          ∃ ace ∈ input.fileSystemObject.dacl, ace.kind = .deny ∧ ace.sid = sidOwnerRights ∧
            aceAppliesToCurrentObject ace = true) →
      Within (evaluate (input.withFiltered (sid :: input.uacFilteredGroupSids))).ntfsMask
          (evaluate input).ntfsMask ∧
        Within (evaluate (input.withFiltered (sid :: input.uacFilteredGroupSids))).effectiveMask
          (evaluate input).effectiveMask) ∧
    (∀ (localAccount : Bool) (context : AccessContext),
      sidEveryone ∉ uacFilteredTokenGroups input.groupMemberships input.localGroupSids localAccount
          context ∧
        sidOwnerRights ∉ uacFilteredTokenGroups input.groupMemberships input.localGroupSids
          localAccount context) := by
  have self : input.withFiltered input.uacFilteredGroupSids = input := rfl
  refine ⟨?_, ?_, ?_, ?_, ?_⟩
  · intro sid filtered named foreign
    have outside := not_mem_matchSids_of_filtered filtered named foreign
    exact ⟨fun contribution member => contribution_ne_of_outside outside member,
      fun entry member kind trustee => decided_eq_zero_of_outside outside member kind trustee⟩
  · intro present before ace after divided kind filtered applies
    have member : ace ∈ input.fileSystemObject.dacl := by
      rw [divided]
      exact List.mem_append_right _ List.mem_cons_self
    exact ⟨matchedAces_of_filtered member kind filtered applies,
      fun bit holds undecided =>
        denied_of_filtered present divided kind filtered applies holds undecided⟩
  · intro other
    have included : ∀ sid ∈ ([] : List Sid), sid ∈ input.uacFilteredGroupSids :=
      fun sid member => absurd member List.not_mem_nil
    have narrowed : Within input.ntfsRaw (input.withFiltered []).ntfsRaw :=
      ntfsRaw_withFiltered_within included (Or.inl (userIsOwner_withFiltered_eq included
        (fun owner owned filtered => absurd filtered (other owner owned))))
    rw [evaluate_ntfsMask, evaluate_ntfsMask]
    exact ⟨narrowed, @effectiveMask_withFiltered_within input [] input.uacFilteredGroupSids narrowed⟩
  · intro sid owned
    have narrowed := ntfsRaw_withFiltered_within (fun known => List.mem_cons_of_mem sid)
      (ownership_kept_of_filtered owned)
    have effective := effectiveMask_withFiltered_within narrowed
    rw [evaluate_ntfsMask, evaluate_ntfsMask]
    exact ⟨narrowed, effective⟩
  · intro localAccount context
    exact wellKnowns_not_derived _ _ localAccount context

/-- Members of Administrators own the object, and OWNER RIGHTS are denied a right
that Users are allowed. -/
def deniedOwnerRights : PermissionEvaluationInput where
  identity := { sid := ⟨"S-1-5-21-1-2-3-1001"⟩ }
  localGroupSids := [⟨"S-1-5-32-544"⟩, ⟨"S-1-5-32-545"⟩]
  fileSystemObject :=
    { path := "D:\\Data"
      ownerSid := some ⟨"S-1-5-32-544"⟩
      dacl := [{ kind := .deny, sid := sidOwnerRights, mask := 0x2#32 },
        { kind := .allow, sid := ⟨"S-1-5-32-545"⟩, mask := 0x2#32 }] }

/-- An account with a list that names a SID which no derived list holds. -/
def listedWellKnown (account listed owner : Sid) : PermissionEvaluationInput where
  identity := { sid := account }
  uacFilteredGroupSids := [listed]
  anonymousEveryone := some true
  fileSystemObject :=
    { path := "D:\\Data"
      ownerSid := some owner
      dacl := [{ kind := .allow, sid := listed, mask := 0x1#32 }] }

/-- Filtering Administrators takes the ownership away, and with it the Deny.
Everyone of an anonymous token and OWNER RIGHTS of an owner contribute in spite of
being listed. -/
theorem uacFiltering_exceptions :
    ¬ Within (evaluate (deniedOwnerRights.withFiltered [⟨"S-1-5-32-544"⟩])).ntfsMask
        (evaluate deniedOwnerRights).ntfsMask ∧
      (evaluate (listedWellKnown sidAnonymousLogon sidEveryone
        ⟨"S-1-5-18"⟩)).contributingSids = [⟨sidEveryone, 0x1#32⟩] ∧
      (evaluate (listedWellKnown ⟨"S-1-5-21-1-2-3-1001"⟩ sidOwnerRights
        ⟨"S-1-5-21-1-2-3-1001"⟩)).contributingSids = [⟨sidOwnerRights, 0x1#32⟩] := by
  refine ⟨?_, ?_, ?_⟩
  · decide
  · decide
  · decide

end PermissionEngine

end Stars
