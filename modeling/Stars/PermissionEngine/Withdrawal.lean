import Stars.PermissionEngine.LogonRefusal

namespace Stars

open PermissionEngine

/-!
# Withdrawing a group from the input

When no entry of the object names a SID of a group, and none of its SIDs owns the
object, the entries match the token with the group as they match the token
without it.  Only one thing can still change.  The two organization SIDs exclude
each other, so a group that is one of them decides that the other one is absent,
and without the group the entries for the other one only bound the result.
`sameValues_withoutGroup_iff` says when that changes no value.
-/

namespace PermissionEvaluationInput

variable (input : PermissionEvaluationInput) (group : Sid)

/-- The input without the entries of one group. -/
def withoutGroup : PermissionEvaluationInput :=
  { input with groupMemberships :=
      input.groupMemberships.filter (fun membership => membership.groupSid ≠ group) }

/-- An entry of the object names the SID, or it owns the object. -/
def Regards (sid : Sid) : Prop :=
  (∃ ace ∈ input.fileSystemObject.dacl, ace.sid = sid) ∨
    input.fileSystemObject.ownerSid = some sid

/-- No SID of the group's entries is regarded. -/
def Unregarded : Prop :=
  ∀ membership ∈ input.groupMemberships, membership.groupSid = group →
    ∀ sid ∈ membership.tokenSids, ¬ input.Regards sid

/-- No entry of the group puts the SID into the token. -/
def Unsupplied (sid : Sid) : Prop :=
  ∀ membership ∈ input.groupMemberships, membership.groupSid = group →
    sid ∉ membership.tokenSids

/-- The group alone decides that the other organization SID is absent. -/
def undecidedWithout (sid : Sid) : Bool :=
  organizationDecidedAbsent sid input.matchSids &&
    !organizationDecidedAbsent sid (input.withoutGroup group).matchSids

end PermissionEvaluationInput

namespace PermissionEngine

open AccessControl EffectivePermission

/-- The masks and the bounds of a result. -/
structure SameValues (first second : EffectivePermission) : Prop where
  ntfsMask : first.ntfsMask = second.ntfsMask
  shareMask : first.shareMask = second.shareMask
  effectiveMask : first.effectiveMask = second.effectiveMask
  ntfsRange : first.ntfsRange = second.ntfsRange
  effectiveUpperBound : first.effectiveUpperBound = second.effectiveUpperBound

section Token

variable {input : PermissionEvaluationInput} {group : Sid}

theorem collectUserSids_subset :
    collectUserSids input.identity (input.withoutGroup group).groupMemberships
        input.localGroupSids input.accessContext ⊆
      collectUserSids input.identity input.groupMemberships input.localGroupSids
        input.accessContext := by
  intro sid
  simp only [collectUserSids, buildTokenSidsWithContext, List.mem_toFinset, List.mem_append,
    List.mem_cons, List.mem_flatMap]
  rintro (((((same | ⟨membership, kept, inside⟩) | tail) | tail) | tail))
  · exact Or.inl (Or.inl (Or.inl (Or.inl same)))
  · exact Or.inl (Or.inl (Or.inl (Or.inr ⟨membership, (List.mem_filter.mp kept).1, inside⟩)))
  · exact Or.inl (Or.inl (Or.inr tail))
  · exact Or.inl (Or.inr tail)
  · exact Or.inr tail

theorem unsupplied_of_regards (unregarded : input.Unregarded group) {sid : Sid}
    (regarded : input.Regards sid) : input.Unsupplied group sid :=
  fun membership member same inside => unregarded membership member same sid inside regarded

theorem mem_collectUserSids_iff {sid : Sid} (unsupplied : input.Unsupplied group sid) :
    sid ∈ collectUserSids input.identity (input.withoutGroup group).groupMemberships
        input.localGroupSids input.accessContext ↔
      sid ∈ collectUserSids input.identity input.groupMemberships input.localGroupSids
        input.accessContext := by
  refine ⟨fun inside => collectUserSids_subset inside, ?_⟩
  simp only [collectUserSids, buildTokenSidsWithContext, List.mem_toFinset, List.mem_append,
    List.mem_cons, List.mem_flatMap]
  rintro (((((same | ⟨membership, member, inside⟩) | tail) | tail) | tail))
  · exact Or.inl (Or.inl (Or.inl (Or.inl same)))
  · have other : membership.groupSid ≠ group := by
      intro same
      exact unsupplied membership member same inside
    refine Or.inl (Or.inl (Or.inl (Or.inr ⟨membership, ?_, inside⟩)))
    exact List.mem_filter.mpr ⟨member, decide_eq_true other⟩
  · exact Or.inl (Or.inl (Or.inr tail))
  · exact Or.inl (Or.inr tail)
  · exact Or.inr tail

theorem mem_enabledSids_iff (sid : Sid) :
    sid ∈ input.enabledSids ↔
      (sid ∈ collectUserSids input.identity input.groupMemberships input.localGroupSids
          input.accessContext ∧ sid ∉ input.denyOnlySids) ∨
        (anonymousGetsEveryone input.identity.sid input.anonymousEveryone = true ∧
          sid = sidEveryone) := by
  rw [PermissionEvaluationInput.enabledSids]
  split
  · rename_i anonymous
    rw [Finset.mem_insert, Finset.mem_sdiff, or_comm]
    simp only [anonymous, true_and]
  · rename_i named
    simp only [Finset.mem_sdiff, named, false_and, or_false, Bool.false_eq_true]

theorem enabledSids_subset : (input.withoutGroup group).enabledSids ⊆ input.enabledSids := by
  intro sid
  rw [mem_enabledSids_iff, mem_enabledSids_iff]
  exact Or.imp_left (And.imp_left (fun inside => collectUserSids_subset inside))

theorem mem_enabledSids_withoutGroup_iff {sid : Sid} (unsupplied : input.Unsupplied group sid) :
    sid ∈ (input.withoutGroup group).enabledSids ↔ sid ∈ input.enabledSids := by
  have collected := mem_collectUserSids_iff unsupplied
  rw [mem_enabledSids_iff, mem_enabledSids_iff]
  exact or_congr_left (and_congr_left' collected)

theorem userSids_withoutGroup_subset : (input.withoutGroup group).userSids ⊆ input.userSids := by
  rw [PermissionEvaluationInput.userSids, PermissionEvaluationInput.userSids]
  exact Finset.erase_subset_erase _ enabledSids_subset

theorem mem_userSids_withoutGroup_iff {sid : Sid} (unsupplied : input.Unsupplied group sid) :
    sid ∈ (input.withoutGroup group).userSids ↔ sid ∈ input.userSids := by
  rw [PermissionEvaluationInput.userSids, PermissionEvaluationInput.userSids, Finset.mem_erase,
    Finset.mem_erase, mem_enabledSids_withoutGroup_iff unsupplied]

theorem userIsOwner_withoutGroup (unregarded : input.Unregarded group) :
    (input.withoutGroup group).userIsOwner = input.userIsOwner := by
  have owners : (input.withoutGroup group).fileSystemObject.ownerSid =
      input.fileSystemObject.ownerSid := rfl
  rw [PermissionEvaluationInput.userIsOwner, PermissionEvaluationInput.userIsOwner, owners]
  cases owner : input.fileSystemObject.ownerSid with
  | none => rfl
  | some sid =>
      rw [Option.any_some, Option.any_some, Bool.eq_iff_iff, decide_eq_true_iff,
        decide_eq_true_iff]
      exact mem_userSids_withoutGroup_iff (unsupplied_of_regards unregarded (Or.inr owner))

theorem mem_matchSids_withoutGroup_iff (unregarded : input.Unregarded group) {sid : Sid}
    (regarded : input.Regards sid) :
    sid ∈ (input.withoutGroup group).matchSids ↔ sid ∈ input.matchSids := by
  rw [PermissionEvaluationInput.matchSids, PermissionEvaluationInput.matchSids,
    userIsOwner_withoutGroup unregarded]
  have users := mem_userSids_withoutGroup_iff (unsupplied_of_regards unregarded regarded)
  split
  · rw [Finset.mem_insert, Finset.mem_insert, users]
  · exact users

theorem matchSids_withoutGroup_subset (unregarded : input.Unregarded group) :
    (input.withoutGroup group).matchSids ⊆ input.matchSids := by
  rw [PermissionEvaluationInput.matchSids, PermissionEvaluationInput.matchSids,
    userIsOwner_withoutGroup unregarded]
  split
  · exact Finset.insert_subset_insert _ userSids_withoutGroup_subset
  · exact userSids_withoutGroup_subset

theorem ownerImplicitBits_withoutGroup (unregarded : input.Unregarded group) :
    (input.withoutGroup group).ownerImplicitBits = input.ownerImplicitBits := by
  have owns := userIsOwner_withoutGroup unregarded
  rw [PermissionEvaluationInput.ownerImplicitBits, PermissionEvaluationInput.ownerImplicitBits,
    PermissionEvaluationInput.ownerRightsAcePresent,
    PermissionEvaluationInput.ownerRightsAcePresent, owns]
  rfl

/-- The uncertain groups that an entry names stay the same. -/
theorem mem_logonDependentGroups_withoutGroup_iff {sid : Sid}
    (unsupplied : input.Unsupplied group sid) :
    sid ∈ (input.withoutGroup group).logonDependentGroups ↔ sid ∈ input.logonDependentGroups := by
  have read : ∀ other : PermissionEvaluationInput, sid ∈ other.logonDependentGroups ↔
      (sid ∈ other.logonDependentGroupSids ∨
        (sidCryptographicOperators ∈ other.enabledSids ∧ sid = sidCryptographicOperators)) ∨
        sid ∈ uncertainWellKnownsWith other.identity.sid other.anonymousEveryone := by
    intro other
    rw [PermissionEvaluationInput.logonDependentGroups,
      PermissionEvaluationInput.cryptoOperatorsUncertain]
    rw [Finset.mem_union, List.mem_toFinset]
    split
    · rename_i uncertain
      rw [decide_eq_true_iff] at uncertain
      simp only [Finset.mem_insert, List.mem_toFinset, uncertain, true_and]
      exact or_congr_left or_comm
    · rename_i absent
      rw [decide_eq_true_iff] at absent
      simp only [List.mem_toFinset, absent, false_and, or_false]
  rw [read, read]
  refine or_congr_left (or_congr_right ?_)
  by_cases crypto : sid = sidCryptographicOperators
  · rw [← crypto, mem_enabledSids_withoutGroup_iff unsupplied]
  · simp only [crypto, and_false]

theorem organizationDecidedAbsent_mono {small large : Finset Sid} (included : small ⊆ large)
    {sid : Sid} (decided : organizationDecidedAbsent sid small = true) :
    organizationDecidedAbsent sid large = true := by
  rw [organizationDecidedAbsent] at decided ⊢
  split
  · rename_i this
    rw [if_pos this, decide_eq_true_iff] at decided
    exact decide_eq_true (included decided)
  · rename_i notThis
    rw [if_neg notThis] at decided
    split
    · rename_i other
      rw [if_pos other, decide_eq_true_iff] at decided
      exact decide_eq_true (included decided)
    · rename_i notOther
      rw [if_neg notOther] at decided
      cases decided

/-- Only an organization SID is decided to be absent. -/
theorem isLogonDependentSid_of_decided {token : Finset Sid} {sid : Sid} (context : AccessContext)
    (decided : organizationDecidedAbsent sid token = true) :
    isLogonDependentSid sid context = true := by
  have organization : sid = sidThisOrganization ∨ sid = sidOtherOrganization := by
    rw [organizationDecidedAbsent] at decided
    by_contra neither
    rcases not_or.mp neither with ⟨notThis, notOther⟩
    rw [if_neg notThis, if_neg notOther] at decided
    cases decided
  rcases organization with rfl | rfl
  · rfl
  · rfl

theorem isLogonDependentFor_withoutGroup (unregarded : input.Unregarded group) (sid : Sid) :
    isLogonDependentFor sid input.accessContext (input.withoutGroup group).matchSids =
      (isLogonDependentFor sid input.accessContext input.matchSids ||
        input.undecidedWithout group sid) := by
  have before : organizationDecidedAbsent sid (input.withoutGroup group).matchSids = true →
      organizationDecidedAbsent sid input.matchSids = true :=
    organizationDecidedAbsent_mono (matchSids_withoutGroup_subset unregarded)
  rw [isLogonDependentFor, isLogonDependentFor, PermissionEvaluationInput.undecidedWithout]
  cases decidedAbsent : organizationDecidedAbsent sid input.matchSids with
  | false =>
      have without : organizationDecidedAbsent sid (input.withoutGroup group).matchSids = false := by
        by_contra decided
        rw [before (Bool.eq_true_of_not_eq_false decided)] at decidedAbsent
        cases decidedAbsent
      rw [without, Bool.false_and, Bool.or_false]
  | true =>
      rw [isLogonDependentSid_of_decided input.accessContext decidedAbsent, Bool.not_true,
        Bool.false_and, Bool.false_or, Bool.true_and, Bool.and_true]

/-- Without the group the same trustees may be enabled, and the organization SIDs
that only the group decided. -/
theorem mayBeEnabled_withoutGroup (unregarded : input.Unregarded group) {sid : Sid}
    (regarded : input.Regards sid) :
    (input.withoutGroup group).logonFacts.mayBeEnabled sid =
      (input.logonFacts.mayBeEnabled sid || input.undecidedWithout group sid) := by
  have groups : decide (sid ∈ (input.withoutGroup group).logonDependentGroups) =
      decide (sid ∈ input.logonDependentGroups) :=
    decide_eq_decide.mpr (mem_logonDependentGroups_withoutGroup_iff
      (unsupplied_of_regards unregarded regarded))
  have filtered : (input.withoutGroup group).denyOnlySids = input.denyOnlySids := rfl
  have certain : (input.withoutGroup group).uacFilterCertain = input.uacFilterCertain := rfl
  have context : (input.withoutGroup group).accessContext = input.accessContext := rfl
  rw [LogonFacts.mayBeEnabled, LogonFacts.mayBeEnabled, PermissionEvaluationInput.logonFacts,
    PermissionEvaluationInput.logonFacts]
  dsimp only
  rw [context, filtered, certain, groups, isLogonDependentFor_withoutGroup unregarded]
  cases input.undecidedWithout group sid
  · simp only [Bool.or_false]
  · simp only [Bool.or_true, Bool.true_or]

/-- The upper reading without the group counts the Allow entries of the
organization SIDs that only the group decided. -/
def highestWithout (input : PermissionEvaluationInput) (group sid : Sid) : Bool :=
  input.logonFacts.maybeAllow input.uncertainOwner.isSome sid || input.undecidedWithout group sid

/-- The lower reading without the group counts their Deny entries. -/
def lowestWithout (input : PermissionEvaluationInput) (group sid : Sid) : Bool :=
  input.logonFacts.maybeDeny input.uncertainOwner.isSome sid || input.undecidedWithout group sid

section Readings

variable (unregarded : input.Unregarded group)

include unregarded

theorem certainAllow_withoutGroup {sid : Sid} (regarded : input.Regards sid) :
    (input.withoutGroup group).logonFacts.certainAllow sid = input.logonFacts.certainAllow sid :=
  decide_eq_decide.mpr (mem_matchSids_withoutGroup_iff unregarded regarded)

theorem certainDeny_withoutGroup {sid : Sid} (regarded : input.Regards sid) :
    (input.withoutGroup group).logonFacts.certainDeny sid = input.logonFacts.certainDeny sid := by
  have certain := certainAllow_withoutGroup unregarded regarded
  rw [LogonFacts.certainAllow, LogonFacts.certainAllow] at certain
  rw [LogonFacts.certainDeny, LogonFacts.certainDeny, certain]
  rfl

theorem highest_withoutGroup (ownerUncertain : Bool) (owner : ownerUncertain =
    input.uncertainOwner.isSome) :
    (input.withoutGroup group).logonFacts.highest ownerUncertain input.fileSystemObject.dacl =
      walkGrantedWith input.fileSystemObject.dacl (highestWithout input group)
        input.logonFacts.certainDeny := by
  refine walkGrantedWith_congr _ ?_ ?_
  · intro ace member _ _
    have regarded : input.Regards ace.sid := Or.inl ⟨ace, member, rfl⟩
    rw [highestWithout, LogonFacts.maybeAllow, LogonFacts.maybeAllow, owner,
      certainAllow_withoutGroup unregarded regarded, mayBeEnabled_withoutGroup unregarded regarded]
    ac_rfl
  · intro ace member _ _
    exact certainDeny_withoutGroup unregarded (Or.inl ⟨ace, member, rfl⟩)

theorem lowest_withoutGroup (ownerUncertain : Bool) (owner : ownerUncertain =
    input.uncertainOwner.isSome) :
    (input.withoutGroup group).logonFacts.lowest ownerUncertain input.fileSystemObject.dacl =
      walkGrantedWith input.fileSystemObject.dacl input.logonFacts.certainAllow
        (lowestWithout input group) := by
  refine walkGrantedWith_congr _ ?_ ?_
  · intro ace member _ _
    exact certainAllow_withoutGroup unregarded (Or.inl ⟨ace, member, rfl⟩)
  · intro ace member _ _
    have regarded : input.Regards ace.sid := Or.inl ⟨ace, member, rfl⟩
    rw [lowestWithout, LogonFacts.maybeDeny, LogonFacts.maybeDeny, owner,
      certainDeny_withoutGroup unregarded regarded, mayBeEnabled_withoutGroup unregarded regarded]
    ac_rfl

/-- The shown NTFS mask stays. -/
theorem ntfsRaw_withoutGroup : (input.withoutGroup group).ntfsRaw = input.ntfsRaw := by
  have owned := ownerImplicitBits_withoutGroup unregarded
  have object : (input.withoutGroup group).fileSystemObject = input.fileSystemObject := rfl
  rw [PermissionEvaluationInput.ntfsRaw, PermissionEvaluationInput.ntfsRaw, owned,
    PermissionEvaluationInput.walk, PermissionEvaluationInput.walk, object]
  split
  · rfl
  · rw [walkDaclStoredOrder_granted, walkDaclStoredOrder_granted]
    refine congrArg (fun mask => mask ||| _) (walkGrantedWith_congr _ ?_ ?_)
    · intro ace member _ _
      exact certainAllow_withoutGroup unregarded (Or.inl ⟨ace, member, rfl⟩)
    · intro ace member _ _
      exact certainDeny_withoutGroup unregarded (Or.inl ⟨ace, member, rfl⟩)

theorem effectiveRaw_withoutGroup :
    (input.withoutGroup group).effectiveRaw = input.effectiveRaw := by
  rw [PermissionEvaluationInput.effectiveRaw, PermissionEvaluationInput.effectiveRaw,
    ntfsRaw_withoutGroup unregarded]
  rfl

/-- The range without the group. -/
theorem ntfsRange_withoutGroup (present : input.fileSystemObject.nullDacl = false) :
    (evaluate (input.withoutGroup group)).ntfsRange =
      (walkGrantedWith input.fileSystemObject.dacl input.logonFacts.certainAllow
          (lowestWithout input group) ||| input.ownerImplicitBits,
        walkGrantedWith input.fileSystemObject.dacl (highestWithout input group)
            input.logonFacts.certainDeny |||
          upperOwnerBits input.uncertainOwner input.fileSystemObject.dacl
            input.ownerImplicitBits) := by
  have kept : (input.withoutGroup group).fileSystemObject.nullDacl = false := present
  have owner : (input.withoutGroup group).uncertainOwner = input.uncertainOwner := rfl
  have object : (input.withoutGroup group).fileSystemObject = input.fileSystemObject := rfl
  rw [evaluate_ntfsRange kept, owner, object, ownerImplicitBits_withoutGroup unregarded,
    lowest_withoutGroup unregarded _ rfl, highest_withoutGroup unregarded _ rfl]

end Readings

end Token

section Widened

variable {narrow extra fixed : Sid → Bool} {dacl : List AceEntry} {bit : Nat}

theorem matchingWith_allow_wider (ace : AceEntry) (matched : matchingWith narrow fixed ace = true) :
    matchingWith (fun sid => narrow sid || extra sid) fixed ace = true := by
  rw [matchingWith] at matched ⊢
  cases kind : ace.kind with
  | allow =>
      rw [kind] at matched
      exact Bool.or_eq_true_iff.mpr (Or.inl matched)
  | deny =>
      rw [kind] at matched
      exact matched

theorem matchingWith_deny_wider (ace : AceEntry) (matched : matchingWith fixed narrow ace = true) :
    matchingWith fixed (fun sid => narrow sid || extra sid) ace = true := by
  rw [matchingWith] at matched ⊢
  cases kind : ace.kind with
  | allow =>
      rw [kind] at matched
      exact matched
  | deny =>
      rw [kind] at matched
      exact Bool.or_eq_true_iff.mpr (Or.inl matched)

/-- An entry that decides for the wider requesters and matches the narrower ones
decides for them as well. -/
theorem decidingAce_of_wider {wide narrow : AceEntry → Bool} {ace : AceEntry}
    (wider : ∀ next, narrow next = true → wide next = true)
    (decided : decidingAce wide dacl bit = some ace) (matched : narrow ace = true) :
    decidingAce narrow dacl bit = some ace := by
  have applies : aceAppliesToCurrentObject ace = true := by
    have found := List.find?_some decided
    simp only [Bool.and_eq_true] at found
    exact found.1.1
  refine acePolicy.deciding_of_wider ?_ decided (by rw [applies, matched]; rfl)
  intro next _ both
  rw [Bool.and_eq_true] at both ⊢
  exact ⟨both.1, wider next both.2⟩

theorem matched_of_deciding {matching : AceEntry → Bool} {ace : AceEntry}
    (decided : decidingAce matching dacl bit = some ace) : matching ace = true := by
  have found := List.find?_some decided
  simp only [Bool.and_eq_true] at found
  exact found.1.2

theorem allowedBy_of_deciding {matching : AceEntry → Bool} {ace : AceEntry}
    (decided : decidingAce matching dacl bit = some ace) :
    allowedBy matching dacl bit = true ↔ ace.kind = .allow := by
  rw [allowedBy, decided, Option.any_some, aceAllows, decide_eq_true_iff]

/-- Further trustees of Allow entries allow the rights that their entries decide. -/
theorem allowedBy_widened_allow_iff :
    allowedBy (matchingWith (fun sid => narrow sid || extra sid) fixed) dacl bit = true ↔
      allowedBy (matchingWith narrow fixed) dacl bit = true ∨
        ∃ ace, decidingAce (matchingWith (fun sid => narrow sid || extra sid) fixed) dacl bit =
          some ace ∧ ace.kind = .allow ∧ extra ace.sid = true := by
  constructor
  · intro allowed
    rw [allowedBy, Option.any_eq_true] at allowed
    rcases allowed with ⟨ace, decided, allows⟩
    have kind : ace.kind = .allow := of_decide_eq_true allows
    have matched := matched_of_deciding decided
    rw [matchingWith, kind] at matched
    rcases Bool.or_eq_true_iff.mp matched with known | added
    · refine Or.inl ((allowedBy_of_deciding (decidingAce_of_wider matchingWith_allow_wider decided
        ?_)).mpr kind)
      rw [matchingWith, kind]
      exact known
    · exact Or.inr ⟨ace, decided, kind, added⟩
  · rintro (allowed | ⟨ace, decided, kind, _⟩)
    · rw [← walkGrantedWith_eq_allowedBy] at allowed ⊢
      refine within_iff.mp (walkGrantedWith_le ?_ ?_) bit allowed
      · exact fun _ _ _ _ known => Bool.or_eq_true_iff.mpr (Or.inl known)
      · exact fun _ _ _ _ known => known
    · exact (allowedBy_of_deciding decided).mpr kind

/-- Further trustees of Deny entries take away the rights that their entries
decide. -/
theorem allowedBy_widened_deny_iff :
    allowedBy (matchingWith fixed (fun sid => narrow sid || extra sid)) dacl bit = true ↔
      allowedBy (matchingWith fixed narrow) dacl bit = true ∧
        ∀ ace, decidingAce (matchingWith fixed (fun sid => narrow sid || extra sid)) dacl bit =
          some ace → ace.kind = .deny → extra ace.sid = false := by
  constructor
  · intro allowed
    constructor
    · rw [← walkGrantedWith_eq_allowedBy] at allowed ⊢
      refine within_iff.mp (walkGrantedWith_le ?_ ?_) bit allowed
      · exact fun _ _ _ _ known => known
      · exact fun _ _ _ _ known => Bool.or_eq_true_iff.mpr (Or.inl known)
    · intro ace decided kind
      have allows := (allowedBy_of_deciding decided).mp allowed
      rw [kind] at allows
      cases allows
  · rintro ⟨allowed, settled⟩
    cases decided : decidingAce (matchingWith fixed (fun sid => narrow sid || extra sid)) dacl
        bit with
    | none =>
        -- Every entry that matches the narrower requesters matches the wider ones.
        rw [allowedBy, Option.any_eq_true] at allowed
        rcases allowed with ⟨ace, found, _⟩
        rw [decidingAce, List.find?_eq_none] at decided
        have holds := List.find?_some found
        simp only [Bool.and_eq_true] at holds
        refine absurd ?_ (decided ace (List.mem_of_find?_eq_some found))
        simp only [Bool.and_eq_true]
        exact ⟨⟨holds.1.1, matchingWith_deny_wider ace holds.1.2⟩, holds.2⟩
    | some ace =>
        rw [allowedBy_of_deciding decided]
        cases kind : ace.kind with
        | allow => rfl
        | deny =>
            have matched := matched_of_deciding decided
            rw [matchingWith, kind] at matched
            have known : narrow ace.sid = true :=
              (Bool.or_eq_true_iff.mp matched).resolve_right
                (fun added => by rw [settled ace decided kind] at added; cases added)
            have same := decidingAce_of_wider matchingWith_deny_wider decided
              (by rw [matchingWith, kind]; exact known)
            rw [(allowedBy_of_deciding same).mp allowed] at kind
            cases kind

end Widened

/-- The entries for an organization SID that only the group decides change no
bound: one that would decide a right in the upper or the lower reading agrees with
the reading without it. -/
def OrganizationSettled (input : PermissionEvaluationInput) (group : Sid) : Prop :=
  input.fileSystemObject.nullDacl = true ∨ ∀ bit ace, input.undecidedWithout group ace.sid = true →
    (decidingAce (matchingWith (highestWithout input group) input.logonFacts.certainDeny)
        input.fileSystemObject.dacl bit = some ace → ace.kind = .allow →
      GrantedAtMost input bit) ∧
    (decidingAce (matchingWith input.logonFacts.certainAllow (lowestWithout input group))
        input.fileSystemObject.dacl bit = some ace → ace.kind = .deny →
      allowedBy (matchingWith input.logonFacts.certainAllow
          (input.logonFacts.maybeDeny input.uncertainOwner.isSome)) input.fileSystemObject.dacl bit
            = true →
        OwnerInToken input ∧ NoOwnerRightsAce input.fileSystemObject.dacl ∧ (bit = 17 ∨ bit = 18))

section Settled

variable {input : PermissionEvaluationInput} {group : Sid}

theorem highestRange_getLsbD (bit : Nat) :
    (input.logonFacts.highest input.uncertainOwner.isSome input.fileSystemObject.dacl |||
        upperOwnerBits input.uncertainOwner input.fileSystemObject.dacl
          input.ownerImplicitBits).getLsbD bit = true ↔ GrantedAtMost input bit := by
  rw [BitVec.getLsbD_or, Bool.or_eq_true, upperOwnerBits_getLsbD, LogonFacts.highest,
    walkGrantedWith_eq_allowedBy, GrantedAtMost]

theorem mask_eq_iff {first second : AccessMask} :
    first = second ↔ ∀ bit, first.getLsbD bit = true ↔ second.getLsbD bit = true := by
  constructor
  · intro same bit
    rw [same]
  · intro same
    exact BitVec.eq_of_getLsbD_eq (fun bit _ => Bool.eq_iff_iff.mpr (same bit))

theorem highestWithout_getLsbD (bit : Nat) :
    (walkGrantedWith input.fileSystemObject.dacl (highestWithout input group)
          input.logonFacts.certainDeny |||
        upperOwnerBits input.uncertainOwner input.fileSystemObject.dacl
          input.ownerImplicitBits).getLsbD bit = true ↔
      GrantedAtMost input bit ∨
        ∃ ace, decidingAce (matchingWith (highestWithout input group) input.logonFacts.certainDeny)
            input.fileSystemObject.dacl bit = some ace ∧
          ace.kind = .allow ∧ input.undecidedWithout group ace.sid = true := by
  have widened : allowedBy (matchingWith (highestWithout input group) input.logonFacts.certainDeny)
      input.fileSystemObject.dacl bit = true ↔ _ := allowedBy_widened_allow_iff
  rw [BitVec.getLsbD_or, Bool.or_eq_true, upperOwnerBits_getLsbD, walkGrantedWith_eq_allowedBy,
    widened, GrantedAtMost, or_right_comm]
  exact Iff.rfl

theorem lowestRange_getLsbD (bit : Nat) :
    (input.logonFacts.lowest input.uncertainOwner.isSome input.fileSystemObject.dacl |||
        input.ownerImplicitBits).getLsbD bit = true ↔ GrantedAtLeast input bit := by
  rw [BitVec.getLsbD_or, Bool.or_eq_true, ownerImplicitBits_getLsbD, LogonFacts.lowest,
    walkGrantedWith_eq_allowedBy, GrantedAtLeast]

theorem lowestWithout_getLsbD (bit : Nat) :
    (walkGrantedWith input.fileSystemObject.dacl input.logonFacts.certainAllow
        (lowestWithout input group) ||| input.ownerImplicitBits).getLsbD bit = true ↔
      (allowedBy (matchingWith input.logonFacts.certainAllow
            (input.logonFacts.maybeDeny input.uncertainOwner.isSome))
          input.fileSystemObject.dacl bit = true ∧
        ∀ ace, decidingAce (matchingWith input.logonFacts.certainAllow (lowestWithout input group))
            input.fileSystemObject.dacl bit = some ace → ace.kind = .deny →
          input.undecidedWithout group ace.sid = false) ∨
        (OwnerInToken input ∧ NoOwnerRightsAce input.fileSystemObject.dacl ∧
          (bit = 17 ∨ bit = 18)) := by
  have widened : allowedBy (matchingWith input.logonFacts.certainAllow (lowestWithout input group))
      input.fileSystemObject.dacl bit = true ↔ _ := allowedBy_widened_deny_iff
  rw [BitVec.getLsbD_or, Bool.or_eq_true, ownerImplicitBits_getLsbD, walkGrantedWith_eq_allowedBy,
    widened]
  exact Iff.rfl

/-- The range stays exactly when the organization SIDs are settled. -/
theorem ntfsRange_withoutGroup_eq_iff (unregarded : input.Unregarded group) :
    (evaluate (input.withoutGroup group)).ntfsRange = (evaluate input).ntfsRange ↔
      OrganizationSettled input group := by
  cases absent : input.fileSystemObject.nullDacl with
  | true =>
      refine iff_of_true ?_ (Or.inl absent)
      have withoutAbsent : (input.withoutGroup group).fileSystemObject.nullDacl = true := absent
      rw [evaluate_ntfsRange_of_nullDacl absent, evaluate_ntfsRange_of_nullDacl withoutAbsent,
        ntfsRaw_withoutGroup unregarded]
  | false =>
      rw [ntfsRange_withoutGroup unregarded absent, evaluate_ntfsRange absent, Prod.mk.injEq,
        OrganizationSettled, absent, or_iff_right Bool.false_ne_true, mask_eq_iff, mask_eq_iff]
      simp only [lowestWithout_getLsbD, lowestRange_getLsbD, highestWithout_getLsbD,
        highestRange_getLsbD]
      constructor
      · rintro ⟨low, high⟩ bit ace undecided
        constructor
        · intro decided kind
          exact (high bit).mp (Or.inr ⟨ace, decided, kind, undecided⟩)
        · intro decided kind allowed
          rcases (low bit).mpr (Or.inl allowed) with ⟨_, settled⟩ | owned
          · rw [settled ace decided kind] at undecided
            cases undecided
          · exact owned
      · intro settled
        constructor
        · intro bit
          rw [GrantedAtLeast]
          constructor
          · rintro (⟨allowed, _⟩ | owned)
            · exact Or.inl allowed
            · exact Or.inr owned
          · rintro (allowed | owned)
            · by_cases owned : OwnerInToken input ∧ NoOwnerRightsAce input.fileSystemObject.dacl ∧
                (bit = 17 ∨ bit = 18)
              · exact Or.inr owned
              · refine Or.inl ⟨allowed, fun ace decided kind => ?_⟩
                apply Bool.eq_false_iff.mpr
                intro undecided
                exact owned ((settled bit ace undecided).2 decided kind allowed)
            · exact Or.inr owned
        · intro bit
          constructor
          · rintro (granted | ⟨ace, decided, kind, undecided⟩)
            · exact granted
            · exact (settled bit ace undecided).1 decided kind
          · exact Or.inl

/-! ## The upper bound -/

theorem evaluate_eq_of_noCheck (unchecked : input.selectiveAuthentication = none) :
    evaluate input = { input.draft with
      diagnostics := input.diagnostics ++
        synchronizeMarkers input.draft input.ntfsRaw input.deniedRaw } := by
  have decided : settleLogon input.draft = input.draft := by
    apply settleLogon_of_decided
    rw [PermissionEvaluationInput.logonMarkers, unchecked]
    rfl
  rw [evaluate, decided, PermissionEvaluationInput.logonRefused, unchecked]
  rfl

theorem synchronizeMarkers_quiet {result : EffectivePermission} {ntfsRaw deniedRaw : AccessMask} :
    ∀ marker ∈ synchronizeMarkers result ntfsRaw deniedRaw, marker.uncertainLayer = none := by
  intro marker member
  rw [synchronizeMarkers, Option.toList_map, List.mem_map] at member
  rcases member with ⟨cause, _, built⟩
  rw [← built]
  rfl

theorem reportedFrom_noCheck (unchecked : input.selectiveAuthentication = none) :
    ReportedFrom input (evaluate input)
      (synchronizeMarkers input.draft input.ntfsRaw input.deniedRaw) := by
  have nothing : input.logonMarkers = [] := by
    rw [PermissionEvaluationInput.logonMarkers, unchecked]
  rw [evaluate_eq_of_noCheck unchecked]
  refine ⟨rfl, rfl, rfl, ?_⟩
  dsimp only
  rw [diagnostics_eq_front, nothing, List.append_nil]

theorem foldl_joinUpper_between {front between back : List PermissionDiagnostic}
    (upper : AccessMask) (before : Rangeless front) (after : Rangeless back) :
    (front ++ (between ++ back)).foldl joinUpper upper = between.foldl joinUpper upper := by
  rw [List.foldl_append, foldl_joinUpper_of_rangeless _ before, List.foldl_append,
    foldl_joinUpper_of_rangeless _ after]

theorem ntfsMask_within_upper :
    Within (evaluate input).ntfsMask (evaluate input).ntfsRange.2 := by
  cases absent : input.fileSystemObject.nullDacl with
  | true =>
      rw [evaluate_ntfsRange_of_nullDacl absent, evaluate_ntfsMask]
      exact Within.refl _
  | false =>
      rw [evaluate_ntfsRange absent]
      exact ntfsMask_within_highest absent

/-- The marker of the bounds follows the other markers of the access list. -/
theorem daclMarkers_eq :
    input.daclMarkers = ((if input.fileSystemObject.nullDacl then []
          else collectDiagnostics input.fileSystemObject.dacl) ++
        markerIf (input.unsupportedShareAceCount > 0)
          (.unsupportedShareAces input.unsupportedShareAceCount) ++
        markerIf (input.fileSystemObject.unsupportedAces.length > 0)
          (.unsupportedNtfsAces input.fileSystemObject.unsupportedAces.length)) ++
      (input.logonDependent.map (fun bounds =>
        .logonDependentTrustees bounds.sids bounds.min bounds.max)).toList := by
  rw [PermissionEvaluationInput.daclMarkers]
  cases input.logonDependent with
  | none => rfl
  | some bounds => rfl

/-- The NTFS rights left open are the upper end of the range. -/
theorem ntfsUpper_eq (unchecked : input.selectiveAuthentication = none) :
    (evaluate input).ntfsUpper = (evaluate input).ntfsRange.2 := by
  have back := (rangeless_backMarkers input).append
    (rangeless_synchronizeMarkers input.draft input.ntfsRaw input.deniedRaw)
  have joined : (evaluate input).ntfsUpper =
      (input.logonDependent.map (fun bounds =>
        PermissionDiagnostic.logonDependentTrustees bounds.sids bounds.min
          bounds.max)).toList.foldl joinUpper input.ntfsRaw := by
    rw [← foldl_joinUpper_between input.ntfsRaw (rangeless_daclFront input) back, ntfsUpper,
      evaluate_ntfsMask, evaluate_eq_of_noCheck unchecked]
    simp only [PermissionEvaluationInput.diagnostics, daclMarkers_eq, List.append_assoc]
  have below : Within (evaluate input).ntfsMask (evaluate input).ntfsRange.2 :=
    ntfsMask_within_upper
  rw [evaluate_ntfsMask, ntfsRange, evaluate_logonDependentRange] at below
  rw [joined, ntfsRange, evaluate_logonDependentRange]
  cases bounded : input.logonDependent with
  | none =>
      rw [evaluate_ntfsMask]
      rfl
  | some bounds =>
      rw [bounded] at below
      exact (Within.or_le below (Within.refl _)).antisymm (Within.or_right _ _)

/-- What the upper bound of an evaluation without a logon check holds. -/
theorem upperBound_getLsbD_iff (unchecked : input.selectiveAuthentication = none)
    (shareKnown : ShareKnown input) (bit : Nat) :
    (evaluate input).effectiveUpperBound.getLsbD bit = true ↔
      ((evaluate input).ntfsRange.2.getLsbD bit = true ∧
        ¬ (TargetKnown input ∧ WithheldByShare input bit)) ∨
        input.effectiveRaw.getLsbD bit = true := by
  have reported := reportedFrom_noCheck unchecked
  have shown : (evaluate input).effectiveMask = input.effectiveRaw := by
    rw [evaluate_eq_of_noCheck unchecked]
    rfl
  have target := uncertainIn_share_target_iff reported synchronizeMarkers_quiet shareKnown
  by_cases noUncertainty : (evaluate input).uncertainty = []
  · rw [effectiveUpperBound_of_exact noUncertainty, shown]
    refine ⟨Or.inr, ?_⟩
    rintro (⟨granted, limited⟩ | granted)
    · have known : TargetKnown input := by
        rw [uncertainty_eq_nil_iff,
          openIn_of_reportedFrom reported (not_marked_of_exact synchronizeMarkers_quiet),
          not_open_iff] at noUncertainty
        exact noUncertainty.2.2.2
      rw [ntfsRange_of_exact noUncertainty, evaluate_ntfsMask] at granted
      rw [PermissionEvaluationInput.effectiveRaw]
      cases status : input.shareStatus with
      | applied share =>
          dsimp only
          rw [BitVec.getLsbD_and, Bool.and_eq_true]
          refine ⟨granted, ?_⟩
          by_contra withheld
          exact limited ⟨known, share, status, Bool.eq_false_iff.mpr withheld⟩
      | _ => exact granted
    · exact granted
  · have undecided : ¬ (evaluate input).uncertainty.isEmpty = true := by
      rw [List.isEmpty_iff]
      exact noUncertainty
    rw [effectiveUpperBound, if_neg undecided, shown, BitVec.getLsbD_or, Bool.or_eq_true,
      ntfsUpper_eq unchecked, evaluate_shareStatus, evaluate_shareMask,
      PermissionEvaluationInput.outputShareStatus, PermissionEvaluationInput.shareMaskForOutput,
      WithheldByShare]
    refine or_congr_left ?_
    cases status : input.shareStatus with
    | applied share =>
        dsimp only
        split
        · rename_i doubtful
          rw [and_iff_left]
          exact fun both => target.mp doubtful both.1
        · rename_i settled
          have single : TargetKnown input := by
            by_contra unknown
            exact settled (target.mpr unknown)
          rw [BitVec.getLsbD_and, Bool.and_eq_true]
          simp [single]
    | _ => simp

/-! ## When the values stay -/

/-- Without a group that nothing regards the values are the same exactly when the
organization SIDs are settled. -/
theorem sameValues_withoutGroup_iff (unregarded : input.Unregarded group)
    (unchecked : input.selectiveAuthentication = none) (shareKnown : ShareKnown input) :
    SameValues (evaluate (input.withoutGroup group)) (evaluate input) ↔
      OrganizationSettled input group := by
  constructor
  · intro same
    exact (ntfsRange_withoutGroup_eq_iff unregarded).mp same.ntfsRange
  · intro settled
    have range := (ntfsRange_withoutGroup_eq_iff unregarded).mpr settled
    have withoutUnchecked : (input.withoutGroup group).selectiveAuthentication = none := unchecked
    have withoutShare : ShareKnown (input.withoutGroup group) :=
      ⟨shareKnown.evaluated, shareKnown.readable⟩
    refine ⟨?_, ?_, ?_, range, ?_⟩
    · rw [evaluate_ntfsMask, evaluate_ntfsMask, ntfsRaw_withoutGroup unregarded]
    · rw [evaluate_shareMask, evaluate_shareMask]
      rfl
    · rw [evaluate_effectiveMask, evaluate_effectiveMask, effectiveRaw_withoutGroup unregarded]
      rfl
    · rw [mask_eq_iff]
      intro bit
      rw [upperBound_getLsbD_iff withoutUnchecked withoutShare,
        upperBound_getLsbD_iff unchecked shareKnown, range, effectiveRaw_withoutGroup unregarded]
      exact Iff.rfl

end Settled

end PermissionEngine

end Stars
