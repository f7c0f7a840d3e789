import Stars.PermissionEngine.CompactRows
import Stars.PermissionEngine.Provenance

namespace Stars

open AccessControl Collections EffectivePermission PermissionEngine

/-!
# Collapsed memberships

In a long path the membership steps without a marker may be hidden as not decisive.
The marker looks at the entries for the group's own SID.  A group also reaches entries
through its historical SIDs, through OWNER RIGHTS and the owner grant where it owns the
object, and, being one of the two organization SIDs, by ruling out the other one.
`collapsedSteps_idle_iff` says when the hidden groups change nothing.
-/

namespace PermissionEngine

/-- Up to so many membership steps a path is shown in full. -/
def membershipCollapseThreshold : Nat := 10

/-- Which steps of a path may be collapsed. -/
def collapsibleSteps (steps : List String) : List Bool :=
  if (steps.filter (Text.startsWith "Member of ")).length ≤ membershipCollapseThreshold then
    steps.map (fun _ => false)
  else steps.map isCollapsibleMembershipStep

/-- How an access list is read: for the shown mask, or for one end of the range. -/
inductive ListReading where
  | shown
  | upper
  | lower
deriving DecidableEq

end PermissionEngine

namespace PermissionEvaluationInput

variable (input : PermissionEvaluationInput)

/-- The trustees whose Allow entries count in a reading. -/
def allowTrustees : ListReading → Sid → Bool
  | .upper => input.logonFacts.maybeAllow input.uncertainOwner.isSome
  | _ => input.logonFacts.certainAllow

/-- The trustees whose Deny entries count in a reading. -/
def denyTrustees : ListReading → Sid → Bool
  | .lower => input.logonFacts.maybeDeny input.uncertainOwner.isSome
  | _ => input.logonFacts.certainDeny

def reads (reading : ListReading) : AceEntry → Bool :=
  appliesWith (input.allowTrustees reading) (input.denyTrustees reading)

/-- The rights of the owner in a reading. -/
def ownerBits : ListReading → AccessMask
  | .upper => upperOwnerBits input.uncertainOwner input.fileSystemObject.dacl
      input.ownerImplicitBits
  | _ => input.ownerImplicitBits

/-- Only the group makes the account the owner. -/
def OwnerOnlyThrough (group : Sid) : Prop :=
  input.userIsOwner = true ∧ (input.withoutGroup group).userIsOwner = false

/-- The trustees a group can reach beside its own SID. -/
def ReachedThrough (group sid : Sid) : Prop :=
  (∃ membership ∈ input.groupMemberships, membership.groupSid = group ∧
      sid ∈ membership.groupSidHistory) ∨
    (sid = sidOwnerRights ∧ input.OwnerOnlyThrough group) ∨
      sid = sidThisOrganization ∨ sid = sidOtherOrganization

/-- The group grants no owner rights, and an entry it reaches that is the first one for
a right, in some reading with the group or without it, concurs with the entries after
it. -/
structure GroupIdle (group : Sid) : Prop where
  owner : input.OwnerOnlyThrough group →
    ownerRightsAce input.fileSystemObject.dacl = true
  entries : input.fileSystemObject.nullDacl = false →
    ∀ before ace after, input.fileSystemObject.dacl = before ++ ace :: after →
      input.ReachedThrough group ace.sid → ∀ reading bit,
        (input.ownerBits reading).getLsbD bit = false →
          acePolicy.Concurs ((input.withoutGroup group).reads reading) (input.reads reading)
            before ace after bit

end PermissionEvaluationInput

namespace PermissionEngine

/-- The values of a result without the bounds that follow from the share, and the rights
of the owner. -/
structure SameRights (first second : PermissionEvaluationInput) : Prop where
  ntfsMask : (evaluate first).ntfsMask = (evaluate second).ntfsMask
  effectiveMask : (evaluate first).effectiveMask = (evaluate second).effectiveMask
  ownerBits : first.ownerImplicitBits = second.ownerImplicitBits
  ntfsRange : (evaluate first).ntfsRange = (evaluate second).ntfsRange

section Readings

variable {input : PermissionEvaluationInput}

/-- The rights of a reading. -/
def readMask (input : PermissionEvaluationInput) (reading : ListReading) : AccessMask :=
  walkGrantedWith input.fileSystemObject.dacl (input.allowTrustees reading)
    (input.denyTrustees reading) ||| input.ownerBits reading

theorem readMask_getLsbD (reading : ListReading) (bit : Nat) :
    (readMask input reading).getLsbD bit =
      (acePolicy.grants (input.reads reading) input.fileSystemObject.dacl bit ||
        (input.ownerBits reading).getLsbD bit) := by
  rw [readMask, BitVec.getLsbD_or, walkGrantedWith_getLsbD]
  rfl

theorem ntfsRaw_eq_readMask (present : input.fileSystemObject.nullDacl = false) :
    input.ntfsRaw = readMask input .shown := by
  rw [PermissionEvaluationInput.ntfsRaw_of_dacl present, walkDaclStoredOrder_granted]
  rfl

theorem ntfsRange_eq_readMask (present : input.fileSystemObject.nullDacl = false) :
    (evaluate input).ntfsRange = (readMask input .lower, readMask input .upper) :=
  evaluate_ntfsRange present

theorem allowTrustees_of_shown {sid : Sid} (certain : input.allowTrustees .shown sid = true)
    (reading : ListReading) : input.allowTrustees reading sid = true := by
  cases reading with
  | upper =>
      rw [PermissionEvaluationInput.allowTrustees, LogonFacts.maybeAllow,
        show input.logonFacts.certainAllow sid = true from certain]
      rfl
  | _ => exact certain

theorem denyTrustees_of_shown {sid : Sid} (certain : input.denyTrustees .shown sid = true)
    (reading : ListReading) : input.denyTrustees reading sid = true := by
  cases reading with
  | lower =>
      rw [PermissionEvaluationInput.denyTrustees, LogonFacts.maybeDeny,
        show input.logonFacts.certainDeny sid = true from certain]
      rfl
  | _ => exact certain

/-- What counts for the shown mask counts in every reading. -/
theorem reads_of_shown {ace : AceEntry} (counted : input.reads .shown ace = true)
    (reading : ListReading) : input.reads reading ace = true := by
  rw [PermissionEvaluationInput.reads, appliesWith, Bool.and_eq_true] at counted ⊢
  refine ⟨counted.1, ?_⟩
  cases kind : ace.kind with
  | allow =>
      rw [kind] at counted
      exact allowTrustees_of_shown counted.2 reading
  | deny =>
      rw [kind] at counted
      exact denyTrustees_of_shown counted.2 reading

/-- A held trustee counts in every reading. -/
theorem reads_of_held {ace : AceEntry} (held : ace.sid ∈ input.matchSids)
    (applies : aceAppliesToCurrentObject ace = true) (reading : ListReading) :
    input.reads reading ace = true := by
  refine reads_of_shown ?_ reading
  rw [PermissionEvaluationInput.reads, appliesWith, applies, Bool.true_and]
  cases ace.kind with
  | allow => exact decide_eq_true held
  | deny => exact Bool.or_eq_true_iff.mpr (Or.inl (decide_eq_true held))

end Readings

section Decisive

variable {input : PermissionEvaluationInput}

/-- An entry for a held trustee that is the first one for a right in some reading is
decisive. -/
theorem mem_decisiveSids_of_first (present : input.fileSystemObject.nullDacl = false)
    {before after : List AceEntry} {ace : AceEntry} {reading : ListReading} {bit : Nat}
    (divided : input.fileSystemObject.dacl = before ++ ace :: after)
    (held : ace.sid ∈ input.matchSids) (applies : aceAppliesToCurrentObject ace = true)
    (covered : acePolicy.covers ace bit = true)
    (free : acePolicy.deciding (input.reads reading) before bit = none) :
    ace.sid ∈ input.decisiveSids := by
  have same : counts input.matchSids input.denyOnlySids = input.reads .shown := by
    funext other
    exact aceMatches_eq other input.matchSids input.denyOnlySids
  have shownFree : acePolicy.deciding (input.reads .shown) before bit = none := by
    rw [acePolicy.deciding_eq_none_iff] at free ⊢
    exact fun earlier member counted => free earlier member (reads_of_shown counted reading)
  have walked : input.walk.decidedPerAce = Decision.decidedBits aceAllows aceMask
      (input.reads .shown) Decision.start input.fileSystemObject.dacl := by
    rw [PermissionEvaluationInput.walk_of_dacl present, ← same]
    exact decidedPerAce_eq input.fileSystemObject.dacl input.matchSids input.denyOnlySids
  have counted := reads_of_held held applies .shown
  rcases Decision.exists_decidedBits aceAllows aceMask counted covered shownFree Decision.start
    (by simp [Decision.decides, Decision.start]) with ⟨bits, member, selected⟩
  rw [← divided, ← walked, ← decidedAces_eq present] at member
  rw [PermissionEvaluationInput.decisiveSids, List.mem_map]
  refine ⟨(ace, bits), List.mem_filter.mpr ⟨member, ?_⟩, rfl⟩
  have something : bits ≠ 0#32 := by
    rintro rfl
    rw [BitVec.getLsbD_zero] at selected
    cases selected
  have matched := congrFun same ace
  rw [counted, counts] at matched
  rw [matched, Bool.true_and]
  exact decide_eq_true something

end Decisive

section Unreached

variable {input : PermissionEvaluationInput} {group : Sid}

theorem mem_matchSids_iff (sid : Sid) :
    sid ∈ input.matchSids ↔
      sid ∈ input.userSids ∨ (input.userIsOwner = true ∧ sid = sidOwnerRights) := by
  rw [PermissionEvaluationInput.matchSids]
  split
  · rename_i owner
    rw [Finset.mem_insert, or_comm, owner]
    simp
  · rename_i stranger
    simp [stranger]

theorem userIsOwner_of_withoutGroup (owner : (input.withoutGroup group).userIsOwner = true) :
    input.userIsOwner = true := by
  rw [PermissionEvaluationInput.userIsOwner, Option.any_eq_true] at owner ⊢
  rcases owner with ⟨sid, found, inside⟩
  exact ⟨sid, found, decide_eq_true (userSids_withoutGroup_subset (of_decide_eq_true inside))⟩

theorem unsupplied_of_unreached {sid : Sid} (unreached : ¬ input.ReachedThrough group sid)
    (other : sid ≠ group) : input.Unsupplied group sid := by
  intro membership member same inside
  rcases List.mem_cons.mp inside with own | old
  · exact other (own.trans same)
  · exact unreached (Or.inl ⟨membership, member, same, old⟩)

theorem mem_matchSids_of_unreached {sid : Sid} (unreached : ¬ input.ReachedThrough group sid)
    (other : sid ≠ group) :
    sid ∈ (input.withoutGroup group).matchSids ↔ sid ∈ input.matchSids := by
  rw [mem_matchSids_iff, mem_matchSids_iff,
    mem_userSids_withoutGroup_iff (unsupplied_of_unreached unreached other)]
  refine or_congr_right (and_congr_left (fun rights => ?_))
  refine ⟨userIsOwner_of_withoutGroup, fun owner => ?_⟩
  by_contra stranger
  exact unreached (Or.inr (Or.inl ⟨rights, owner, Bool.eq_false_iff.mpr stranger⟩))

theorem organizationDecidedAbsent_of_other {sid : Sid} (notThis : sid ≠ sidThisOrganization)
    (notOther : sid ≠ sidOtherOrganization) (token : Finset Sid) :
    organizationDecidedAbsent sid token = false := by
  rw [organizationDecidedAbsent, if_neg notThis, if_neg notOther]

theorem mayBeEnabled_of_unreached {sid : Sid} (unreached : ¬ input.ReachedThrough group sid)
    (other : sid ≠ group) :
    (input.withoutGroup group).logonFacts.mayBeEnabled sid = input.logonFacts.mayBeEnabled sid := by
  have groups : decide (sid ∈ (input.withoutGroup group).logonDependentGroups) =
      decide (sid ∈ input.logonDependentGroups) :=
    decide_eq_decide.mpr (mem_logonDependentGroups_withoutGroup_iff
      (unsupplied_of_unreached unreached other))
  have settled : ∀ token, organizationDecidedAbsent sid token = false := by
    refine organizationDecidedAbsent_of_other ?_ ?_
    · exact fun this => unreached (Or.inr (Or.inr (Or.inl this)))
    · exact fun same => unreached (Or.inr (Or.inr (Or.inr same)))
  have filtered : (input.withoutGroup group).denyOnlySids = input.denyOnlySids := rfl
  have certain : (input.withoutGroup group).uacFilterCertain = input.uacFilterCertain := rfl
  have context : (input.withoutGroup group).accessContext = input.accessContext := rfl
  rw [LogonFacts.mayBeEnabled, LogonFacts.mayBeEnabled, PermissionEvaluationInput.logonFacts,
    PermissionEvaluationInput.logonFacts]
  dsimp only
  rw [context, filtered, certain, groups, isLogonDependentFor, isLogonDependentFor, settled,
    settled]

/-- Every reading reads an entry that the group does not reach as without the group. -/
theorem reads_of_unreached {ace : AceEntry} (unreached : ¬ input.ReachedThrough group ace.sid)
    (other : ace.sid ≠ group) (reading : ListReading) :
    (input.withoutGroup group).reads reading ace = input.reads reading ace := by
  have certain : (input.withoutGroup group).logonFacts.certainAllow ace.sid =
      input.logonFacts.certainAllow ace.sid :=
    decide_eq_decide.mpr (mem_matchSids_of_unreached unreached other)
  have denied : (input.withoutGroup group).logonFacts.certainDeny ace.sid =
      input.logonFacts.certainDeny ace.sid := by
    rw [LogonFacts.certainAllow, LogonFacts.certainAllow] at certain
    rw [LogonFacts.certainDeny, LogonFacts.certainDeny, certain]
    rfl
  have enabled := mayBeEnabled_of_unreached unreached other
  have owner : (input.withoutGroup group).uncertainOwner = input.uncertainOwner := rfl
  rw [PermissionEvaluationInput.reads, PermissionEvaluationInput.reads, appliesWith, appliesWith]
  refine congrArg (fun counted => aceAppliesToCurrentObject ace && counted) ?_
  cases ace.kind with
  | allow =>
      dsimp only
      cases reading with
      | upper =>
          rw [PermissionEvaluationInput.allowTrustees, PermissionEvaluationInput.allowTrustees,
            LogonFacts.maybeAllow, LogonFacts.maybeAllow, certain, enabled, owner]
      | _ => exact certain
  | deny =>
      dsimp only
      cases reading with
      | lower =>
          rw [PermissionEvaluationInput.denyTrustees, PermissionEvaluationInput.denyTrustees,
            LogonFacts.maybeDeny, LogonFacts.maybeDeny, denied, enabled, owner]
      | _ => exact denied

end Unreached

section Idle

variable {input : PermissionEvaluationInput} {group : Sid}

theorem ownerImplicitBits_eq_iff :
    (input.withoutGroup group).ownerImplicitBits = input.ownerImplicitBits ↔
      (input.OwnerOnlyThrough group → ownerRightsAce input.fileSystemObject.dacl = true) := by
  have object : (input.withoutGroup group).fileSystemObject = input.fileSystemObject := rfl
  rw [PermissionEvaluationInput.ownerImplicitBits, PermissionEvaluationInput.ownerImplicitBits,
    PermissionEvaluationInput.ownerRightsAcePresent,
    PermissionEvaluationInput.ownerRightsAcePresent, object,
    PermissionEvaluationInput.OwnerOnlyThrough]
  cases without : (input.withoutGroup group).userIsOwner with
  | true =>
      rw [userIsOwner_of_withoutGroup without]
      simp
  | false =>
      cases input.userIsOwner with
      | false => simp
      | true =>
          cases ownerRightsAce input.fileSystemObject.dacl with
          | true => simp
          | false => decide

theorem ownerBits_withoutGroup
    (same : (input.withoutGroup group).ownerImplicitBits = input.ownerImplicitBits)
    (reading : ListReading) :
    (input.withoutGroup group).ownerBits reading = input.ownerBits reading := by
  cases reading with
  | upper =>
      have owner : (input.withoutGroup group).uncertainOwner = input.uncertainOwner := rfl
      have object : (input.withoutGroup group).fileSystemObject = input.fileSystemObject := rfl
      rw [PermissionEvaluationInput.ownerBits, PermissionEvaluationInput.ownerBits, same, owner,
        object]
  | _ => exact same

/-- The rights of a reading stay when each right beside the owner's is decided alike. -/
theorem readMask_eq_iff
    (same : (input.withoutGroup group).ownerImplicitBits = input.ownerImplicitBits)
    (reading : ListReading) :
    readMask (input.withoutGroup group) reading = readMask input reading ↔
      ∀ bit, (input.ownerBits reading).getLsbD bit = false →
        ∀ before ace after, input.fileSystemObject.dacl = before ++ ace :: after →
          acePolicy.Concurs ((input.withoutGroup group).reads reading) (input.reads reading)
            before ace after bit := by
  have object : (input.withoutGroup group).fileSystemObject = input.fileSystemObject := rfl
  rw [mask_eq_iff]
  refine forall_congr' (fun bit => ?_)
  rw [readMask_getLsbD, readMask_getLsbD, ownerBits_withoutGroup same, object,
    ← Bool.eq_iff_iff, ← acePolicy.grants_eq_iff]
  cases (input.ownerBits reading).getLsbD bit with
  | true => simp
  | false => simp

/-- Where the group's own SID is held and not decisive, only the other trustees it
reaches matter. -/
theorem concurs_iff_reached (present : input.fileSystemObject.nullDacl = false)
    (held : group ∈ input.matchSids) (silent : group ∉ input.decisiveSids)
    (reading : ListReading) (bit : Nat) :
    (∀ before ace after, input.fileSystemObject.dacl = before ++ ace :: after →
        acePolicy.Concurs ((input.withoutGroup group).reads reading) (input.reads reading)
          before ace after bit) ↔
      ∀ before ace after, input.fileSystemObject.dacl = before ++ ace :: after →
        input.ReachedThrough group ace.sid →
          acePolicy.Concurs ((input.withoutGroup group).reads reading) (input.reads reading)
            before ace after bit := by
  refine ⟨fun concurs before ace after divided _ => concurs before ace after divided, ?_⟩
  intro concurs before ace after divided
  by_cases reached : input.ReachedThrough group ace.sid
  · exact concurs before ace after divided reached
  · by_cases own : ace.sid = group
    · intro covered _ free
      have counted : aceAppliesToCurrentObject ace = true → input.reads reading ace = true :=
        fun applies => reads_of_held (by rw [own]; exact held) applies reading
      constructor
      · intro without skipped
        rw [PermissionEvaluationInput.reads, appliesWith, Bool.and_eq_true] at without
        rw [counted without.1] at skipped
        cases skipped
      · intro _ compared
        rw [PermissionEvaluationInput.reads, appliesWith, Bool.and_eq_true] at compared
        refine absurd ?_ silent
        rw [← own]
        exact mem_decisiveSids_of_first present divided (by rw [own]; exact held) compared.1 covered
          free
    · exact acePolicy.concurs_of_eq (reads_of_unreached reached own reading)

/-- A group whose own SID is held and not decisive can be withdrawn exactly when it is
idle. -/
theorem sameRights_withoutGroup_iff (held : group ∈ input.matchSids)
    (silent : group ∉ input.decisiveSids) :
    SameRights (input.withoutGroup group) input ↔ input.GroupIdle group := by
  have kept : (input.withoutGroup group).fileSystemObject = input.fileSystemObject := rfl
  constructor
  · rintro ⟨shown, _, owner, range⟩
    refine ⟨ownerImplicitBits_eq_iff.mp owner, ?_⟩
    intro present before ace after divided reached reading bit beside
    have same : readMask (input.withoutGroup group) reading = readMask input reading := by
      rw [ntfsRange_eq_readMask present, ntfsRange_eq_readMask (kept ▸ present),
        Prod.mk.injEq] at range
      rw [evaluate_ntfsMask, evaluate_ntfsMask, ntfsRaw_eq_readMask present,
        ntfsRaw_eq_readMask (kept ▸ present)] at shown
      cases reading with
      | shown => exact shown
      | upper => exact range.2
      | lower => exact range.1
    exact (readMask_eq_iff owner reading).mp same bit beside before ace after divided
  · rintro ⟨owner, entries⟩
    have ownerSame := ownerImplicitBits_eq_iff.mpr owner
    have shown : (input.withoutGroup group).ntfsRaw = input.ntfsRaw ∧
        (evaluate (input.withoutGroup group)).ntfsRange = (evaluate input).ntfsRange := by
      cases present : input.fileSystemObject.nullDacl with
      | true =>
          have withoutPresent : (input.withoutGroup group).fileSystemObject.nullDacl = true :=
            present
          have same : (input.withoutGroup group).ntfsRaw = input.ntfsRaw := by
            rw [ntfsRaw_of_nullDacl present, ntfsRaw_of_nullDacl withoutPresent, ownerSame]
          rw [evaluate_ntfsRange_of_nullDacl present,
            evaluate_ntfsRange_of_nullDacl withoutPresent, same]
          exact ⟨rfl, rfl⟩
      | false =>
          have same : ∀ reading, readMask (input.withoutGroup group) reading =
              readMask input reading := by
            intro reading
            refine (readMask_eq_iff ownerSame reading).mpr (fun bit beside => ?_)
            refine (concurs_iff_reached present held silent reading bit).mpr ?_
            exact fun before ace after divided reached =>
              entries present before ace after divided reached reading bit beside
          rw [ntfsRange_eq_readMask present, ntfsRange_eq_readMask (kept ▸ present),
            ntfsRaw_eq_readMask present, ntfsRaw_eq_readMask (kept ▸ present), same, same, same]
          exact ⟨rfl, rfl⟩
    refine ⟨?_, ?_, ownerSame, shown.2⟩
    · rw [evaluate_ntfsMask, evaluate_ntfsMask, shown.1]
    · rw [evaluate_effectiveMask, evaluate_effectiveMask,
        PermissionEvaluationInput.effectiveRaw, PermissionEvaluationInput.effectiveRaw, shown.1]
      rfl

end Idle

/-! ## Hidden steps -/

section Hidden

variable (toLowercase : String → String) (request : ExplanationRequest)
  (before after : List String)

/-- The path with its membership steps between the other ones. -/
def explanationSteps : List String :=
  before ++ (request.membershipListing toLowercase).steps ++ after

/-- The step of the membership may be collapsed in the path. -/
def HiddenStep (membership : GroupMembership) : Prop :=
  ∃ index, (request.membershipListing toLowercase).steps[index]? =
      some (request.membershipStep membership) ∧
    (collapsibleSteps (explanationSteps toLowercase request before after))[before.length +
      index]? = some true

/-- The path has more membership steps than are shown in full. -/
def LongPath : Prop :=
  membershipCollapseThreshold < ((explanationSteps toLowercase request before after).filter
    (Text.startsWith "Member of ")).length

variable {toLowercase request before after}

theorem hiddenStep_iff {membership : GroupMembership} :
    HiddenStep toLowercase request before after membership ↔
      LongPath toLowercase request before after ∧
        request.membershipStep membership ∈ (request.membershipListing toLowercase).steps ∧
          isCollapsibleMembershipStep (request.membershipStep membership) = true := by
  have placed : ∀ index step, (request.membershipListing toLowercase).steps[index]? = some step →
      (explanationSteps toLowercase request before after)[before.length + index]? = some step := by
    intro index step found
    have bounded := (List.getElem?_eq_some_iff.mp found).1
    rw [explanationSteps, List.append_assoc, List.getElem?_append_right (Nat.le_add_right _ _),
      Nat.add_sub_cancel_left, List.getElem?_append_left bounded]
    exact found
  rw [HiddenStep, LongPath, collapsibleSteps]
  split
  · rename_i short
    refine iff_of_false ?_ (fun long => absurd short (Nat.not_le.mpr long.1))
    rintro ⟨index, found, flagged⟩
    rw [List.getElem?_map, placed index _ found] at flagged
    cases flagged
  · rename_i long
    rw [and_iff_right (Nat.not_le.mp long)]
    constructor
    · rintro ⟨index, found, flagged⟩
      rw [List.getElem?_map, placed index _ found, Option.map_some, Option.some_inj] at flagged
      exact ⟨List.mem_of_getElem? found, flagged⟩
    · rintro ⟨listed, collapsible⟩
      rcases List.getElem?_of_mem listed with ⟨index, found⟩
      refine ⟨index, found, ?_⟩
      rw [List.getElem?_map, placed index _ found, Option.map_some, collapsible]

/-- The own SID of a group whose step may be collapsed is held. -/
theorem mem_matchSids_of_quiet {membership : GroupMembership}
    (member : membership ∈ request.mergedMemberships toLowercase)
    (quiet : request.isQuiet membership = true) :
    membership.groupSid ∈ request.matchSids := by
  rw [ExplanationRequest.isQuiet, Bool.and_eq_true, Bool.and_eq_true, decide_eq_true_iff,
    decide_eq_true_iff] at quiet
  rcases (mem_map_groupSid_merged toLowercase request.groupMemberships).mp
    (List.mem_map_of_mem member) with ⟨entry, arrived, same⟩
  have enabled : membership.groupSid ∈ request.enabledSids := by
    refine (mem_enabledSids_iff _).mpr (Or.inl ⟨?_, quiet.1.1⟩)
    simp only [collectUserSids, buildTokenSidsWithContext, List.mem_toFinset, List.mem_append,
      List.mem_flatMap]
    refine Or.inl (Or.inl (Or.inl (Or.inr ⟨entry, arrived, ?_⟩)))
    rw [← same]
    exact List.mem_cons_self
  refine (mem_matchSids_iff _).mpr (Or.inl ?_)
  rw [PermissionEvaluationInput.userSids, Finset.mem_erase]
  refine ⟨?_, enabled⟩
  -- An enabled Cryptographic Operators group is marked as uncertain.
  intro crypto
  rw [crypto] at enabled quiet
  refine quiet.1.2 ?_
  rw [PermissionEvaluationInput.logonDependentGroups,
    if_pos (show request.cryptoOperatorsUncertain = true from decide_eq_true enabled)]
  exact Finset.mem_union_left _ (Finset.mem_insert_self _ _)

end Hidden

/-- Every membership whose step may be collapsed belongs to a group that changes no right
exactly when, in a long path, the groups of the unmarked steps are idle. -/
theorem collapsedSteps_idle_iff (toLowercase : String → String) (request : ExplanationRequest)
    (before after : List String) :
    (∀ membership ∈ request.mergedMemberships toLowercase,
        HiddenStep toLowercase request before after membership →
          SameRights (request.withoutGroup membership.groupSid)
            request.toPermissionEvaluationInput) ↔
      (LongPath toLowercase request before after →
        ∀ membership ∈ request.mergedMemberships toLowercase,
          request.membershipStep membership ∈ (request.membershipListing toLowercase).steps →
            isCollapsibleMembershipStep (request.membershipStep membership) = true →
              request.GroupIdle membership.groupSid) := by
  have idle : ∀ membership ∈ request.mergedMemberships toLowercase,
      isCollapsibleMembershipStep (request.membershipStep membership) = true →
        (SameRights (request.withoutGroup membership.groupSid)
            request.toPermissionEvaluationInput ↔ request.GroupIdle membership.groupSid) := by
    intro membership member collapsible
    exact sameRights_withoutGroup_iff
      (mem_matchSids_of_quiet member (isQuiet_of_collapsible request collapsible))
      (not_decisive_of_collapsible request collapsible)
  constructor
  · intro same long membership member listed collapsible
    exact (idle membership member collapsible).mp
      (same membership member (hiddenStep_iff.mpr ⟨long, listed, collapsible⟩))
  · intro settled membership member hidden
    rcases hiddenStep_iff.mp hidden with ⟨long, listed, collapsible⟩
    exact (idle membership member collapsible).mpr
      (settled long membership member listed collapsible)

/-! ## A migrated group among many -/

/-- A group of the account with the historical SIDs it carries. -/
def groupOf (rid : String) (history : List Sid) : GroupMembership where
  memberSid := ⟨"S-1-5-21-1-2-3-1105"⟩
  groupSid := ⟨"S-1-5-21-1-2-3-" ++ rid⟩
  direct := true
  groupSidHistoryCount := history.length
  groupSidHistory := history

/-- An account in eleven groups, one of them migrated, and an entry for the SID the
migrated group had before. -/
def migratedAmongMany : ExplanationRequest where
  identity := { sid := ⟨"S-1-5-21-1-2-3-1105"⟩ }
  groupMemberships := groupOf "1200" [⟨"S-1-5-21-9-9-9-1200"⟩] ::
    (["1201", "1202", "1203", "1204", "1205", "1206", "1207", "1208", "1209", "1210"].map
      (fun rid => groupOf rid []))
  fileSystemObject :=
    { path := "D:\\Data"
      dacl := [{ kind := .allow, sid := ⟨"S-1-5-21-9-9-9-1200"⟩, mask := 0x1#32 }] }

/-- The step of the migrated group may be collapsed, and without the group the entry
grants nothing. -/
theorem migratedAmongMany_hidden :
    ¬ ∀ membership ∈ migratedAmongMany.mergedMemberships Text.toAsciiLowercase,
      HiddenStep Text.toAsciiLowercase migratedAmongMany [] [] membership →
        SameRights (migratedAmongMany.withoutGroup membership.groupSid)
          migratedAmongMany.toPermissionEvaluationInput := by
  intro kept
  have hidden : HiddenStep Text.toAsciiLowercase migratedAmongMany [] []
      (groupOf "1200" [⟨"S-1-5-21-9-9-9-1200"⟩]) := ⟨0, by decide +kernel, by decide +kernel⟩
  have same := (kept (groupOf "1200" [⟨"S-1-5-21-9-9-9-1200"⟩]) (by decide +kernel) hidden).ntfsMask
  revert same
  decide

end PermissionEngine

end Stars
