import Stars.ShareScanner.ShareWalk

namespace Stars
namespace ShareScanner

open PermissionEngine AccessControl EffectivePermission

/-!
# Agreement of the share and the NTFS evaluation

Both sides evaluate one list of entries alike exactly when they treat every
trustee alike.  A list with a single Allow entry shows how a side treats its
trustee, and no longer list can show more.  The two tokens are built from the
same lists, but they resolve overlaps of the lists differently;
`share_ntfs_agree_iff` names the overlaps.
-/

/-- Two sets of facts treat a trustee alike: it is certain for both or for
none, and otherwise uncertain for both or for none. -/
def Alike (left right : LogonFacts) (sid : Sid) : Prop :=
  (sid ∈ left.matchSids ↔ sid ∈ right.matchSids) ∧
    (sid ∉ left.matchSids → (left.mayBeEnabled sid = true ↔ right.mayBeEnabled sid = true))

/-- Two sets of facts give one shown mask and one answer to whether it is a
range. -/
def SameResult (left right : LogonFacts) (dacl : List AceEntry) : Prop :=
  (walkDaclStoredOrder dacl left.matchSids left.denyOnlyGroups).granted =
      (walkDaclStoredOrder dacl right.matchSids right.denyOnlyGroups).granted ∧
    (left.lowest false dacl ≠ left.highest false dacl ↔
      right.lowest false dacl ≠ right.highest false dacl)

section Alike

variable {left right : LogonFacts} (sameGroups : left.denyOnlyGroups = right.denyOnlyGroups)

include sameGroups

theorem sameResult_of_alike {dacl : List AceEntry}
    (alike : ∀ ace ∈ dacl, Alike left right ace.sid) : SameResult left right dacl := by
  have certain : ∀ ace ∈ dacl, left.certainAllow ace.sid = right.certainAllow ace.sid :=
    fun ace member => decide_eq_decide.mpr (alike ace member).1
  have denied : ∀ ace ∈ dacl, left.certainDeny ace.sid = right.certainDeny ace.sid := by
    intro ace member
    have same := certain ace member
    unfold LogonFacts.certainAllow at same
    unfold LogonFacts.certainDeny
    rw [same, sameGroups]
  have possible : ∀ ace ∈ dacl, (left.certainAllow ace.sid || left.mayBeEnabled ace.sid) =
      (right.certainAllow ace.sid || right.mayBeEnabled ace.sid) := by
    intro ace member
    rw [certain ace member]
    cases enabled : right.certainAllow ace.sid with
    | true => rfl
    | false =>
        have outside : ace.sid ∉ left.matchSids := by
          rw [← certain ace member] at enabled
          exact of_decide_eq_false enabled
        rw [Bool.false_or, Bool.false_or, Bool.eq_iff_iff]
        exact (alike ace member).2 outside
  have high : left.highest false dacl = right.highest false dacl := by
    refine walkGrantedWith_congr dacl ?_ (fun ace member _ _ => denied ace member)
    intro ace member _ _
    unfold LogonFacts.maybeAllow
    rw [possible ace member, Bool.false_and]
  have low : left.lowest false dacl = right.lowest false dacl := by
    refine walkGrantedWith_congr dacl (fun ace member _ _ => certain ace member) ?_
    intro ace member _ _
    have both := possible ace member
    have filtered := denied ace member
    unfold LogonFacts.certainAllow at both
    unfold LogonFacts.maybeDeny
    unfold LogonFacts.certainDeny at filtered ⊢
    rw [sameGroups] at filtered ⊢
    grind
  refine ⟨?_, by rw [high, low]⟩
  rw [walkDaclStoredOrder_granted, walkDaclStoredOrder_granted]
  exact walkGrantedWith_congr dacl (fun ace member _ _ => certain ace member)
    (fun ace member _ _ => denied ace member)

omit sameGroups

/-- The list that shows how a trustee is treated. -/
def allowOne (sid : Sid) : List AceEntry := [{ kind := .allow, sid := sid, mask := 0x1#32 }]

theorem applies_allowOne (sid : Sid) :
    aceAppliesToCurrentObject { kind := .allow, sid := sid, mask := 0x1#32 } = true := by
  change (0#32 &&& inheritOnlyAce == 0#32) = true
  decide

theorem plain_allowOne {sid : Sid} (other : sid ≠ sidOwnerRights) : PlainDacl (allowOne sid) := by
  intro ace member
  rw [allowOne, List.mem_singleton] at member
  subst member
  exact ⟨applies_allowOne sid, other⟩

theorem walkGrantedWith_allowOne (sid : Sid) (allowMatches denyMatches : Sid → Bool) :
    walkGrantedWith (allowOne sid) allowMatches denyMatches =
      if allowMatches sid then 0x1#32 else 0#32 := by
  have whole : expandGenericRights 0x1#32 &&& ~~~(0#32 ||| 0#32) = 0x1#32 := by decide
  unfold walkGrantedWith allowOne
  simp only [List.foldl_cons, List.foldl_nil, applies_allowOne, whole]
  cases allowMatches sid <;> simp

theorem alike_of_sameResult {sid : Sid} (same : SameResult left right (allowOne sid)) :
    Alike left right sid := by
  rcases same with ⟨shown, ranges⟩
  have bit : ∀ condition other : Bool,
      ((if condition then 0x1#32 else 0#32) = (if other then 0x1#32 else 0#32) ↔
        condition = other) := by decide
  rw [walkDaclStoredOrder_granted, walkDaclStoredOrder_granted, walkGrantedWith_allowOne,
    walkGrantedWith_allowOne, bit, decide_eq_decide] at shown
  refine ⟨shown, fun outside => ?_⟩
  unfold LogonFacts.lowest LogonFacts.highest at ranges
  simp only [walkGrantedWith_allowOne, ne_eq, bit] at ranges
  have outsideRight : sid ∉ right.matchSids := fun member => outside (shown.mpr member)
  unfold LogonFacts.maybeAllow LogonFacts.certainAllow at ranges
  simp only [outside, outsideRight, decide_false, Bool.false_or, Bool.false_and,
    Bool.or_false] at ranges
  grind

end Alike

/-! ## The two tokens of one input -/

section Tokens

variable (input : PermissionEvaluationInput)

/-- The share token of the lists and policies of an evaluation. -/
def inputShareToken : ShareToken :=
  (shareToken input.identity.sid input.identity.sidHistory input.groupMemberships
    input.localGroupSids input.logonDependentGroupSids input.uacFilteredGroupSids
    input.accessContext).withPolicies input.identity.sid input.uacFilterCertain
      input.anonymousEveryone

/-- The same evaluation for another list of entries. -/
def withDacl (dacl : List AceEntry) : PermissionEvaluationInput :=
  { input with
    fileSystemObject := { input.fileSystemObject with dacl := dacl, nullDacl := false } }

/-- Every list of entries gives one shown mask and one answer to whether it is
certain, as a share list and as an NTFS list. -/
def ShareNtfsAgree : Prop :=
  ∀ (dacl : List AceEntry) (shareName : String), PlainDacl dacl →
    let result := evaluate (withDacl input dacl)
    let share := evaluateShareDacl (.acl (dacl.map (asSharePermission shareName)))
      (inputShareToken input) input.accessContext
    share.1 = some result.ntfsMask ∧ (share.2 ≠ 0 ↔ result.logonDependentRange.isSome = true)

/-- The object's owner is neither an enabled nor a deny-only SID. -/
def NotOwned : Prop :=
  ∀ owner, input.fileSystemObject.ownerSid = some owner →
    owner ∉ input.userSids ∧ owner ∉ input.denyOnlySids

/-- The SIDs of the lists that make up the token, before any is removed. -/
def collectedSids : Finset Sid :=
  collectUserSids input.identity input.groupMemberships input.localGroupSids input.accessContext

/-- Everyone of an anonymous logon, which a policy of its own decides. -/
def AnonymousEveryone (sid : Sid) : Prop :=
  input.identity.sid = sidAnonymousLogon ∧ sid = sidEveryone

/-- The lists do not overlap where the two tokens resolve an overlap
differently. -/
structure ListsApart : Prop where
  /-- A group that is certain through one list is not logon-dependent through
  the other. -/
  certainNotDependent : ∀ sid, sid ≠ sidOwnerRights → sid ≠ sidCryptographicOperators →
    ¬ AnonymousEveryone input sid → sid ∈ collectedSids input →
    sid ∈ input.logonDependentGroupSids → sid ∈ input.denyOnlySids
  /-- A certainly filtered group is not logon-dependent through the other
  list, unless it is a logon-dependent well-known SID anyway. -/
  filteredNotDependent : input.uacFilterCertain = true → ∀ sid, sid ≠ sidOwnerRights →
    ¬ AnonymousEveryone input sid → sid ∈ input.logonDependentGroupSids →
    sid ∈ input.denyOnlySids → isLogonDependentFor sid input.accessContext input.userSids = true
  /-- While its policy is not read, no list puts Everyone into an anonymous
  token. -/
  policyUnread : input.identity.sid = sidAnonymousLogon → input.anonymousEveryone = none →
    sidEveryone ∈ collectedSids input → sidEveryone ∈ input.denyOnlySids
  /-- Where the policy leaves Everyone out, no list brings it back. -/
  policyAbsent : input.identity.sid = sidAnonymousLogon → input.anonymousEveryone = some false →
    (sidEveryone ∈ collectedSids input → sidEveryone ∈ input.denyOnlySids) ∧
      (sidEveryone ∈ input.logonDependentGroupSids →
        sidEveryone ∈ input.denyOnlySids ∧ input.uacFilterCertain = false)

theorem mem_userSids_iff (sid : Sid) :
    sid ∈ input.userSids ↔ sid ≠ sidCryptographicOperators ∧
      ((sid ∈ collectedSids input ∧ sid ∉ input.denyOnlySids) ∨
        (AnonymousEveryone input sid ∧ input.anonymousEveryone = some true)) := by
  unfold PermissionEvaluationInput.userSids PermissionEvaluationInput.enabledSids
    anonymousGetsEveryone AnonymousEveryone collectedSids
  by_cases anonymous : input.identity.sid = sidAnonymousLogon ∧
      input.anonymousEveryone = some true
  · simp only [anonymous, and_self, decide_true, if_true, Finset.mem_erase, Finset.mem_insert,
      Finset.mem_sdiff, true_and, and_true]
    tauto
  · rw [if_neg (by rw [decide_eq_true_iff]; exact anonymous), Finset.mem_erase, Finset.mem_sdiff]
    tauto

theorem everyone_ne_cryptographicOperators : sidEveryone ≠ sidCryptographicOperators := by decide

theorem mem_logonDependentGroups_iff (sid : Sid) :
    sid ∈ input.logonDependentGroups ↔ sid ∈ input.logonDependentGroupSids ∨
      (sid = sidCryptographicOperators ∧ sid ∈ collectedSids input ∧
        sid ∉ input.denyOnlySids) ∨
      (AnonymousEveryone input sid ∧ input.anonymousEveryone = none) := by
  have operators : input.cryptoOperatorsUncertain = true ↔
      sidCryptographicOperators ∈ collectedSids input ∧
        sidCryptographicOperators ∉ input.denyOnlySids := by
    unfold PermissionEvaluationInput.cryptoOperatorsUncertain
      PermissionEvaluationInput.enabledSids collectedSids
    rw [decide_eq_true_iff]
    split
    · rw [Finset.mem_insert, Finset.mem_sdiff]
      exact or_iff_right everyone_ne_cryptographicOperators.symm
    · rw [Finset.mem_sdiff]
  have wellKnown : sid ∈ uncertainWellKnownsWith input.identity.sid input.anonymousEveryone ↔
      AnonymousEveryone input sid ∧ input.anonymousEveryone = none := by
    unfold uncertainWellKnownsWith identityUncertainWellKnowns AnonymousEveryone
    cases input.anonymousEveryone with
    | none => by_cases anonymous : input.identity.sid = sidAnonymousLogon <;> simp [anonymous]
    | some value => by_cases anonymous : input.identity.sid = sidAnonymousLogon <;> simp [anonymous]
  unfold PermissionEvaluationInput.logonDependentGroups
  rw [Finset.mem_union, List.mem_toFinset, wellKnown]
  by_cases uncertain : input.cryptoOperatorsUncertain = true
  · rw [if_pos uncertain, Finset.mem_insert, List.mem_toFinset]
    rw [operators] at uncertain
    constructor
    · rintro ((rfl | listed) | everyone)
      · exact Or.inr (Or.inl ⟨rfl, uncertain⟩)
      · exact Or.inl listed
      · exact Or.inr (Or.inr everyone)
    · rintro (listed | ⟨same, _⟩ | everyone)
      · exact Or.inl (Or.inr listed)
      · exact Or.inl (Or.inl same)
      · exact Or.inr everyone
  · rw [if_neg uncertain, List.mem_toFinset]
    rw [operators] at uncertain
    constructor
    · rintro (listed | everyone)
      · exact Or.inl listed
      · exact Or.inr (Or.inr everyone)
    · rintro (listed | ⟨rfl, certain⟩ | everyone)
      · exact Or.inl listed
      · exact absurd certain uncertain
      · exact Or.inr everyone

/-- The share token before the policies of the target are applied. -/
private def plainShareToken : ShareToken :=
  shareToken input.identity.sid input.identity.sidHistory input.groupMemberships
    input.localGroupSids input.logonDependentGroupSids input.uacFilteredGroupSids
    input.accessContext

private theorem mem_identityUncertainWellKnowns_iff (sid : Sid) :
    sid ∈ (identityUncertainWellKnowns input.identity.sid).toFinset ↔
      AnonymousEveryone input sid := by
  unfold identityUncertainWellKnowns AnonymousEveryone
  rw [List.mem_toFinset]
  split
  · rename_i anonymous
    rw [List.mem_singleton]
    exact (and_iff_right anonymous).symm
  · rename_i named
    exact iff_of_false List.not_mem_nil (fun both => named both.1)

private theorem plainShareToken_spec (sid : Sid) :
    (sid ∈ (plainShareToken input).enabled ↔ sid ≠ sidCryptographicOperators ∧
      sid ∈ collectedSids input ∧ sid ∉ input.denyOnlySids ∧
      sid ∉ input.logonDependentGroupSids ∧ ¬ AnonymousEveryone input sid) ∧
    (sid ∈ (plainShareToken input).uncertain ↔
      (sid ∈ input.logonDependentGroupSids ∧ sid ∉ input.denyOnlySids) ∨
      AnonymousEveryone input sid ∨
      (sid = sidCryptographicOperators ∧ sid ∈ collectedSids input ∧
        sid ∉ input.denyOnlySids)) ∧
    (plainShareToken input).denyOnly = input.denyOnlySids := by
  have listed : sid ∈ (input.logonDependentGroupSids.toFinset.filter
      (fun sid => sid ∉ input.uacFilteredGroupSids.toFinset)) ∪
        (identityUncertainWellKnowns input.identity.sid).toFinset ↔
      (sid ∈ input.logonDependentGroupSids ∧ sid ∉ input.denyOnlySids) ∨
        AnonymousEveryone input sid := by
    rw [Finset.mem_union, Finset.mem_filter, List.mem_toFinset,
      mem_identityUncertainWellKnowns_iff]
    rfl
  have kept : sid ∉ input.uacFilteredGroupSids.toFinset ∪
      ((input.logonDependentGroupSids.toFinset.filter
        (fun sid => sid ∉ input.uacFilteredGroupSids.toFinset)) ∪
          (identityUncertainWellKnowns input.identity.sid).toFinset) ↔
      sid ∉ input.denyOnlySids ∧ sid ∉ input.logonDependentGroupSids ∧
        ¬ AnonymousEveryone input sid := by
    rw [Finset.mem_union, listed, not_or, not_or]
    constructor
    · rintro ⟨unfiltered, independent, named⟩
      exact ⟨unfiltered, fun dependent => independent ⟨dependent, unfiltered⟩, named⟩
    · rintro ⟨unfiltered, unlisted, named⟩
      exact ⟨unfiltered, fun dependent => unlisted dependent.1, named⟩
  have operatorsNotEveryone : ¬ AnonymousEveryone input sidCryptographicOperators :=
    fun both => everyone_ne_cryptographicOperators both.2.symm
  unfold plainShareToken shareToken
  dsimp only
  split
  · rename_i certain
    rw [Finset.mem_sdiff, Finset.mem_union, not_or] at certain
    refine ⟨?_, ?_, rfl⟩
    · rw [Finset.mem_erase, Finset.mem_sdiff, kept]
      rfl
    · rw [Finset.mem_insert, listed]
      constructor
      · rintro (rfl | dependent | everyone)
        · exact Or.inr (Or.inr ⟨rfl, certain.1, certain.2.1⟩)
        · exact Or.inl dependent
        · exact Or.inr (Or.inl everyone)
      · rintro (dependent | everyone | ⟨same, _⟩)
        · exact Or.inr (Or.inl dependent)
        · exact Or.inr (Or.inr everyone)
        · exact Or.inl same
  · rename_i absent
    -- Cryptographic Operators that are collected and not filtered are listed.
    have excluded : sidCryptographicOperators = sid → sid ∈ collectedSids input →
        sid ∉ input.denyOnlySids → sid ∈ input.logonDependentGroupSids := by
      rintro rfl member unfiltered
      by_contra independent
      exact absent (Finset.mem_sdiff.mpr
        ⟨member, kept.mpr ⟨unfiltered, independent, operatorsNotEveryone⟩⟩)
    refine ⟨?_, ?_, rfl⟩
    · rw [Finset.mem_sdiff, kept]
      constructor
      · rintro ⟨member, unfiltered, unlisted, named⟩
        refine ⟨fun same => ?_, member, unfiltered, unlisted, named⟩
        exact unlisted (excluded same.symm member unfiltered)
      · rintro ⟨_, rest⟩
        exact rest
    · rw [listed]
      constructor
      · rintro (dependent | everyone)
        · exact Or.inl dependent
        · exact Or.inr (Or.inl everyone)
      · rintro (dependent | everyone | ⟨same, member, unfiltered⟩)
        · exact Or.inl dependent
        · exact Or.inr everyone
        · exact Or.inl ⟨excluded same.symm member unfiltered, unfiltered⟩

theorem inputShareToken_denyOnly : (inputShareToken input).denyOnly = input.denyOnlySids := by
  have own := (plainShareToken_spec input sidEveryone).2.2
  unfold inputShareToken ShareToken.withPolicies
  split
  · exact own
  · exact own

theorem inputShareToken_denyOnlyCertain :
    (inputShareToken input).denyOnlyCertain = input.uacFilterCertain := by
  unfold inputShareToken ShareToken.withPolicies
  split
  · rfl
  · rfl

theorem mem_shareEnabled_iff (sid : Sid) :
    sid ∈ (inputShareToken input).enabled ↔ sid ≠ sidCryptographicOperators ∧
      ((sid ∈ collectedSids input ∧ sid ∉ input.denyOnlySids ∧
          sid ∉ input.logonDependentGroupSids ∧ ¬ AnonymousEveryone input sid) ∨
        (AnonymousEveryone input sid ∧ input.anonymousEveryone = some true)) := by
  have own : sid ∈ (plainShareToken input).enabled ↔ _ := (plainShareToken_spec input sid).1
  unfold plainShareToken at own
  unfold inputShareToken ShareToken.withPolicies
  by_cases read : input.identity.sid = sidAnonymousLogon ∧ input.anonymousEveryone.isSome
  · simp only [if_pos read]
    by_cases includes : input.anonymousEveryone = some true
    · rw [if_pos includes, Finset.mem_insert, own]
      constructor
      · rintro (rfl | ⟨other, rest⟩)
        · exact ⟨everyone_ne_cryptographicOperators, Or.inr ⟨⟨read.1, rfl⟩, includes⟩⟩
        · exact ⟨other, Or.inl rest⟩
      · rintro ⟨other, rest | ⟨everyone, _⟩⟩
        · exact Or.inr ⟨other, rest⟩
        · exact Or.inl everyone.2
    · rw [if_neg includes, own]
      exact and_congr_right fun _ => (or_iff_left fun both => includes both.2).symm
  · simp only [if_neg read]
    rw [own]
    refine and_congr_right fun _ => (or_iff_left ?_).symm
    rintro ⟨everyone, includes⟩
    exact read ⟨everyone.1, by rw [includes]; rfl⟩

theorem mem_shareUncertain_iff (sid : Sid) :
    sid ∈ (inputShareToken input).uncertain ↔
      ((sid ∈ input.logonDependentGroupSids ∧ sid ∉ input.denyOnlySids) ∨
        AnonymousEveryone input sid ∨
        (sid = sidCryptographicOperators ∧ sid ∈ collectedSids input ∧
          sid ∉ input.denyOnlySids)) ∧
      ¬ (AnonymousEveryone input sid ∧ input.anonymousEveryone.isSome = true) := by
  have own : sid ∈ (plainShareToken input).uncertain ↔ _ := (plainShareToken_spec input sid).2.1
  unfold plainShareToken at own
  unfold inputShareToken ShareToken.withPolicies
  by_cases read : input.identity.sid = sidAnonymousLogon ∧ input.anonymousEveryone.isSome
  · simp only [if_pos read]
    rw [Finset.mem_erase, own, and_comm]
    refine and_congr_right fun _ => ?_
    constructor
    · intro other both
      exact other both.1.2
    · rintro outside rfl
      exact outside ⟨⟨read.1, rfl⟩, read.2⟩
  · simp only [if_neg read]
    rw [own]
    refine (and_iff_left ?_).symm
    rintro ⟨everyone, known⟩
    exact read ⟨everyone.1, known⟩

end Tokens

/-! ## When every list of entries agrees -/

section Agree

variable {input : PermissionEvaluationInput}

/-- The share token as facts for the readings. -/
abbrev shareFacts (input : PermissionEvaluationInput) : LogonFacts :=
  (inputShareToken input).logonFacts input.accessContext

theorem matchSids_of_notOwned (foreign : NotOwned input) : input.matchSids = input.userSids := by
  have stranger : input.userIsOwner = false := by
    unfold PermissionEvaluationInput.userIsOwner
    cases named : input.fileSystemObject.ownerSid with
    | none => rfl
    | some owner =>
        rw [Option.any_some, decide_eq_false_iff_not]
        exact (foreign owner named).1
  unfold PermissionEvaluationInput.matchSids
  rw [stranger]
  rfl

/-- Logon dependence looks at the certain token only through the two
organization SIDs. -/
theorem isLogonDependentFor_congr {left right : Finset Sid} (sid : Sid) (context : AccessContext)
    (this : sidThisOrganization ∈ left ↔ sidThisOrganization ∈ right)
    (other : sidOtherOrganization ∈ left ↔ sidOtherOrganization ∈ right) :
    isLogonDependentFor sid context left = isLogonDependentFor sid context right := by
  unfold isLogonDependentFor organizationDecidedAbsent
  rw [decide_eq_decide.mpr this, decide_eq_decide.mpr other]

/-- Everyone and Cryptographic Operators are not logon-dependent by
themselves. -/
theorem isLogonDependentFor_everyone (context : AccessContext) (token : Finset Sid) :
    isLogonDependentFor sidEveryone context token = false ∧
      isLogonDependentFor sidCryptographicOperators context token = false := by
  have independent : isLogonDependentSid sidEveryone context = false ∧
      isLogonDependentSid sidCryptographicOperators context = false := by
    cases context <;> decide
  unfold isLogonDependentFor
  rw [independent.1, independent.2, Bool.and_false, Bool.and_false]
  exact ⟨rfl, rfl⟩

/-- One SID outside the certain token, as the NTFS side classifies it. -/
theorem ntfs_mayBeEnabled_iff (foreign : NotOwned input) (sid : Sid) :
    input.logonFacts.mayBeEnabled sid = true ↔
      isLogonDependentFor sid input.accessContext input.userSids = true ∨
      (sid ∈ input.logonDependentGroupSids ∨
        (sid = sidCryptographicOperators ∧ sid ∈ collectedSids input ∧
          sid ∉ input.denyOnlySids) ∨
        (AnonymousEveryone input sid ∧ input.anonymousEveryone = none)) ∨
      (sid ∈ input.denyOnlySids ∧ input.uacFilterCertain = false) := by
  rw [← mem_logonDependentGroups_iff]
  unfold LogonFacts.mayBeEnabled PermissionEvaluationInput.logonFacts
  rw [matchSids_of_notOwned foreign]
  simp only [Bool.or_eq_true, Bool.and_eq_true, decide_eq_true_iff, Bool.not_eq_true', or_assoc]

/-- One SID outside the certain token, as the share side classifies it. -/
theorem share_mayBeEnabled_iff (sid : Sid) :
    (shareFacts input).mayBeEnabled sid = true ↔
      isLogonDependentFor sid input.accessContext (inputShareToken input).enabled = true ∨
      (((sid ∈ input.logonDependentGroupSids ∧ sid ∉ input.denyOnlySids) ∨
        AnonymousEveryone input sid ∨
        (sid = sidCryptographicOperators ∧ sid ∈ collectedSids input ∧
          sid ∉ input.denyOnlySids)) ∧
        ¬ (AnonymousEveryone input sid ∧ input.anonymousEveryone.isSome = true)) ∨
      (sid ∈ input.denyOnlySids ∧ input.uacFilterCertain = false) := by
  rw [← mem_shareUncertain_iff, ← inputShareToken_denyOnly, ← inputShareToken_denyOnlyCertain]
  unfold LogonFacts.mayBeEnabled shareFacts ShareToken.logonFacts
  simp only [Bool.or_eq_true, Bool.and_eq_true, decide_eq_true_iff, Bool.not_eq_true', or_assoc]

/-- Both sides hold the same certain SIDs wherever the lists are apart. -/
theorem certain_iff_of_listsApart (apart : ListsApart input) {sid : Sid}
    (other : sid ≠ sidOwnerRights) :
    sid ∈ input.userSids ↔ sid ∈ (inputShareToken input).enabled := by
  rw [mem_userSids_iff, mem_shareEnabled_iff]
  refine and_congr_right fun independent => ?_
  constructor
  · rintro (⟨member, unfiltered⟩ | included)
    · by_cases everyone : AnonymousEveryone input sid
      · rcases everyone with ⟨anonymous, rfl⟩
        cases policy : input.anonymousEveryone with
        | none => exact absurd (apart.policyUnread anonymous policy member) unfiltered
        | some value =>
            cases value with
            | true => exact Or.inr ⟨⟨anonymous, rfl⟩, rfl⟩
            | false => exact absurd ((apart.policyAbsent anonymous policy).1 member) unfiltered
      · refine Or.inl ⟨member, unfiltered, fun dependent => unfiltered ?_, everyone⟩
        exact apart.certainNotDependent sid other independent everyone member dependent
    · exact Or.inr included
  · rintro (⟨member, unfiltered, _, _⟩ | included)
    · exact Or.inl ⟨member, unfiltered⟩
    · exact Or.inr included

theorem thisOrganization_ne : sidThisOrganization ≠ sidOwnerRights := by decide

theorem otherOrganization_ne : sidOtherOrganization ≠ sidOwnerRights := by decide

/-- Lists that are apart make both sides treat every trustee alike. -/
theorem alike_of_listsApart (foreign : NotOwned input) (apart : ListsApart input) {sid : Sid}
    (other : sid ≠ sidOwnerRights) : Alike input.logonFacts (shareFacts input) sid := by
  have certain := certain_iff_of_listsApart apart other
  have dependent := isLogonDependentFor_congr sid input.accessContext
    (certain_iff_of_listsApart apart thisOrganization_ne)
    (certain_iff_of_listsApart apart otherOrganization_ne)
  unfold Alike
  rw [ntfs_mayBeEnabled_iff foreign, share_mayBeEnabled_iff, ← dependent]
  change (sid ∈ input.matchSids ↔ _) ∧ (sid ∉ input.matchSids → _)
  rw [matchSids_of_notOwned foreign]
  refine ⟨certain, fun outside => ?_⟩
  by_cases everyone : AnonymousEveryone input sid
  · -- Everyone of an anonymous logon: decided by the policy, if it was read.
    rcases everyone with ⟨anonymous, rfl⟩
    have unnamed := everyone_ne_cryptographicOperators
    cases policy : input.anonymousEveryone with
    | none => simp [AnonymousEveryone, anonymous]
    | some value =>
        cases value with
        | true =>
            refine absurd ?_ outside
            rw [mem_userSids_iff]
            exact ⟨unnamed, Or.inr ⟨⟨anonymous, rfl⟩, policy⟩⟩
        | false =>
            have absent := (apart.policyAbsent anonymous policy).2
            simp only [AnonymousEveryone, anonymous, unnamed, Option.isSome_some, false_and,
              and_true, or_false, not_true_eq_false, and_false, false_or, reduceCtorEq]
            constructor
            · rintro (wellKnown | listed | filtered)
              · exact Or.inl wellKnown
              · exact Or.inr (absent listed)
              · exact Or.inr filtered
            · rintro (wellKnown | filtered)
              · exact Or.inl wellKnown
              · exact Or.inr (Or.inr filtered)
  · simp only [everyone, false_and, not_false_eq_true, and_true, or_false, false_or]
    constructor
    · rintro (wellKnown | (listed | operators) | filtered)
      · exact Or.inl wellKnown
      · by_cases filtered : sid ∈ input.denyOnlySids
        · cases decided : input.uacFilterCertain with
          | true =>
              exact Or.inl (apart.filteredNotDependent decided sid other everyone listed filtered)
          | false => exact Or.inr (Or.inr ⟨filtered, rfl⟩)
        · exact Or.inr (Or.inl (Or.inl ⟨listed, filtered⟩))
      · exact Or.inr (Or.inl (Or.inr operators))
      · exact Or.inr (Or.inr filtered)
    · rintro (wellKnown | (⟨listed, _⟩ | operators) | filtered)
      · exact Or.inl wellKnown
      · exact Or.inr (Or.inl (Or.inl listed))
      · exact Or.inr (Or.inl (Or.inr operators))
      · exact Or.inr (Or.inr filtered)

/-- Sides that treat every trustee alike have lists that are apart. -/
theorem listsApart_of_alike (foreign : NotOwned input)
    (alike : ∀ sid, sid ≠ sidOwnerRights → Alike input.logonFacts (shareFacts input) sid) :
    ListsApart input := by
  have certain : ∀ sid, sid ≠ sidOwnerRights →
      (sid ∈ input.userSids ↔ sid ∈ (inputShareToken input).enabled) := by
    intro sid other
    rw [← matchSids_of_notOwned foreign]
    exact (alike sid other).1
  have possible : ∀ sid, sid ≠ sidOwnerRights → sid ∉ input.userSids →
      (input.logonFacts.mayBeEnabled sid = true ↔ (shareFacts input).mayBeEnabled sid = true) := by
    intro sid other outside
    rw [← matchSids_of_notOwned foreign] at outside
    exact (alike sid other).2 outside
  have dependent : ∀ sid, isLogonDependentFor sid input.accessContext input.userSids =
      isLogonDependentFor sid input.accessContext (inputShareToken input).enabled :=
    fun sid => isLogonDependentFor_congr sid input.accessContext
      (certain _ thisOrganization_ne) (certain _ otherOrganization_ne)
  -- A certain SID of the NTFS side that the share side does not enable.
  have refute : ∀ sid, sid ≠ sidOwnerRights → sid ≠ sidCryptographicOperators →
      sid ∈ collectedSids input → sid ∉ input.denyOnlySids →
      (sid ∈ input.logonDependentGroupSids ∨ AnonymousEveryone input sid) →
      ¬ (AnonymousEveryone input sid ∧ input.anonymousEveryone = some true) → False := by
    intro sid other independent member unfiltered doubtful unread
    have enabled := (certain sid other).mp
      ((mem_userSids_iff input sid).mpr ⟨independent, Or.inl ⟨member, unfiltered⟩⟩)
    rcases ((mem_shareEnabled_iff input sid).mp enabled).2 with ⟨_, _, unlisted, named⟩ | included
    · exact doubtful.elim unlisted named
    · exact unread included
  have everyoneOther : sidEveryone ≠ sidOwnerRights := by decide
  refine ⟨?_, ?_, ?_, ?_⟩
  · intro sid other independent named member listed
    by_contra unfiltered
    exact refute sid other independent member unfiltered (Or.inl listed) (fun both => named both.1)
  · intro decided sid other named listed filtered
    have outside : sid ∉ input.userSids := by
      rw [mem_userSids_iff]
      rintro ⟨_, ⟨_, unfiltered⟩ | included⟩
      · exact unfiltered filtered
      · exact named included.1
    have both := (possible sid other outside).mp
      ((ntfs_mayBeEnabled_iff foreign sid).mpr (Or.inr (Or.inl (Or.inl listed))))
    rw [share_mayBeEnabled_iff, ← dependent] at both
    rcases both with wellKnown | ⟨(⟨_, unfiltered⟩ | everyone | ⟨_, _, unfiltered⟩), _⟩ |
      ⟨_, undecided⟩
    · exact wellKnown
    · exact absurd filtered unfiltered
    · exact absurd everyone named
    · exact absurd filtered unfiltered
    · rw [decided] at undecided
      cases undecided
  · intro anonymous policy member
    by_contra unfiltered
    exact refute sidEveryone everyoneOther everyone_ne_cryptographicOperators member unfiltered
      (Or.inr ⟨anonymous, rfl⟩) (by rw [policy]; rintro ⟨_, read⟩; cases read)
  · intro anonymous policy
    have kept : sidEveryone ∈ collectedSids input → sidEveryone ∈ input.denyOnlySids := by
      intro member
      by_contra unfiltered
      exact refute sidEveryone everyoneOther everyone_ne_cryptographicOperators member unfiltered
        (Or.inr ⟨anonymous, rfl⟩) (by rw [policy]; rintro ⟨_, read⟩; cases read)
    refine ⟨kept, fun listed => ?_⟩
    have outside : sidEveryone ∉ input.userSids := by
      rw [mem_userSids_iff, policy]
      rintro ⟨_, ⟨member, unfiltered⟩ | ⟨_, read⟩⟩
      · exact unfiltered (kept member)
      · cases read
    have both := (possible sidEveryone everyoneOther outside).mp
      ((ntfs_mayBeEnabled_iff foreign sidEveryone).mpr (Or.inr (Or.inl (Or.inl listed))))
    rw [share_mayBeEnabled_iff, (isLogonDependentFor_everyone _ _).1, policy] at both
    rcases both with wellKnown | ⟨_, unread⟩ | filtered
    · cases wellKnown
    · exact absurd ⟨⟨anonymous, rfl⟩, rfl⟩ unread
    · exact filtered

/-- Both evaluations of one list are the two readings of the two sides. -/
theorem agree_iff_sameResult (foreign : NotOwned input) {dacl : List AceEntry}
    (plain : PlainDacl dacl) (shareName : String) :
    ((evaluateShareDacl (.acl (dacl.map (asSharePermission shareName))) (inputShareToken input)
        input.accessContext).1 = some (evaluate (withDacl input dacl)).ntfsMask ∧
      ((evaluateShareDacl (.acl (dacl.map (asSharePermission shareName))) (inputShareToken input)
          input.accessContext).2 ≠ 0 ↔
        (evaluate (withDacl input dacl)).logonDependentRange.isSome = true)) ↔
      SameResult input.logonFacts (shareFacts input) dacl := by
  rcases evaluateShareDacl_eq plain shareName (inputShareToken input) input.accessContext with
    ⟨shown, counted⟩
  have stranger : input.userIsOwner = false := by
    by_contra owned
    have matched := matchSids_of_notOwned foreign
    rw [Bool.not_eq_false, userIsOwner_eq_true_iff] at owned
    rcases owned with ⟨owner, named, member⟩
    exact (foreign owner named).1 member
  have ownerBits : (withDacl input dacl).ownerImplicitBits = 0#32 := by
    unfold PermissionEvaluationInput.ownerImplicitBits
    change (if input.userIsOwner && _ then _ else _) = _
    rw [stranger]
    rfl
  have noOwner : (withDacl input dacl).uncertainOwner = none := by
    unfold PermissionEvaluationInput.uncertainOwner
    rw [Option.filter_eq_none_iff]
    intro owner named
    have unfiltered : owner ∉ (withDacl input dacl).denyOnlySids := (foreign owner named).2
    simp [unfiltered]
  have mask : (evaluate (withDacl input dacl)).ntfsMask =
      (walkDaclStoredOrder dacl input.logonFacts.matchSids
        input.logonFacts.denyOnlyGroups).granted := by
    rw [evaluate_ntfsMask]
    unfold PermissionEvaluationInput.ntfsRaw
    rw [ownerBits, BitVec.or_zero]
    rfl
  have range : (evaluate (withDacl input dacl)).logonDependentRange.isSome = true ↔
      input.logonFacts.lowest false dacl ≠ input.logonFacts.highest false dacl := by
    rw [evaluate_logonDependentRange]
    unfold PermissionEvaluationInput.logonDependent
    have present : (withDacl input dacl).fileSystemObject.nullDacl = false := rfl
    rw [present, if_neg Bool.false_ne_true, ownerBits, noOwner]
    have reported := logonDependentBounds_eq input.logonFacts none dacl 0#32
    have bits : upperOwnerBits none dacl 0#32 = 0#32 := rfl
    rw [bits, BitVec.or_zero, BitVec.or_zero, Option.isSome_none] at reported
    refine (congrArg (fun found => found.isSome = true) reported).to_iff.trans ?_
    split
    · rename_i equal
      simp [equal]
    · rename_i differ
      simp [differ]
  rw [shown, counted, mask, range, Option.some.injEq]
  have groups : (inputShareToken input).denyOnly = input.denyOnlySids :=
    inputShareToken_denyOnly input
  unfold SameResult
  constructor
  · rintro ⟨masks, ranges⟩
    exact ⟨masks.symm, ranges.symm⟩
  · rintro ⟨masks, ranges⟩
    exact ⟨masks.symm, ranges.symm⟩

/-- Every list of entries is evaluated alike as a share list and as an NTFS
list exactly when the lists of the token are apart. -/
theorem share_ntfs_agree_iff (foreign : NotOwned input) :
    ShareNtfsAgree input ↔ ListsApart input := by
  have groups : input.logonFacts.denyOnlyGroups = (shareFacts input).denyOnlyGroups :=
    (inputShareToken_denyOnly input).symm
  constructor
  · intro agree
    refine listsApart_of_alike foreign fun sid other => alike_of_sameResult ?_
    exact (agree_iff_sameResult foreign (plain_allowOne other) "").mp
      (agree (allowOne sid) "" (plain_allowOne other))
  · intro apart dacl shareName plain
    refine (agree_iff_sameResult foreign plain shareName).mpr (sameResult_of_alike groups ?_)
    intro ace member
    exact alike_of_listsApart foreign apart (plain ace member).2

end Agree

/-- A local account with a filtered administrative group and no logon-dependent
group. -/
def localAdministrator : PermissionEvaluationInput where
  identity := { sid := ⟨"S-1-5-21-1-2-3-1000"⟩ }
  fileSystemObject := { path := "D:\\Data" }
  localGroupSids := [⟨"S-1-5-32-544"⟩]
  uacFilteredGroupSids := [⟨"S-1-5-32-544"⟩]
  accessContext := .remoteSmb

theorem share_ntfs_agree_iff_localAdministrator : ShareNtfsAgree localAdministrator := by
  have foreign : NotOwned localAdministrator := by
    intro owner named
    cases named
  have known : localAdministrator.identity.sid ≠ sidAnonymousLogon := by decide
  refine (share_ntfs_agree_iff foreign).mpr ⟨?_, ?_, ?_, ?_⟩
  · intro sid _ _ _ _ listed
    cases listed
  · intro decided
    cases decided
  · intro anonymous
    exact absurd anonymous known
  · intro anonymous
    exact absurd anonymous known

/-- A local group that is listed both as certain and as logon-dependent. -/
def groupListedTwice : PermissionEvaluationInput where
  identity := { sid := ⟨"S-1-5-21-1-2-3-1000"⟩ }
  fileSystemObject := { path := "D:\\Data" }
  localGroupSids := [⟨"S-1-5-21-1-2-3-2000"⟩]
  logonDependentGroupSids := [⟨"S-1-5-21-1-2-3-2000"⟩]

/-- The NTFS side shows the group's right without a range, the share side shows
nothing and counts one uncertain entry. -/
theorem groupListedTwice_disagree :
    NotOwned groupListedTwice ∧
      (evaluate (withDacl groupListedTwice (allowOne ⟨"S-1-5-21-1-2-3-2000"⟩))).ntfsMask =
        0x1#32 ∧
      evaluateShareDacl (.acl ((allowOne ⟨"S-1-5-21-1-2-3-2000"⟩).map (asSharePermission "data")))
        (inputShareToken groupListedTwice) groupListedTwice.accessContext = (some 0#32, 1) ∧
      ¬ ShareNtfsAgree groupListedTwice := by
  have shown : (evaluate (withDacl groupListedTwice
      (allowOne ⟨"S-1-5-21-1-2-3-2000"⟩))).ntfsMask = 0x1#32 := by decide
  have share : evaluateShareDacl
      (.acl ((allowOne ⟨"S-1-5-21-1-2-3-2000"⟩).map (asSharePermission "data")))
      (inputShareToken groupListedTwice) groupListedTwice.accessContext = (some 0#32, 1) := by
    decide
  refine ⟨?_, shown, share, ?_⟩
  · intro owner named
    cases named
  · intro agree
    have masks := (agree (allowOne ⟨"S-1-5-21-1-2-3-2000"⟩) "data"
      (plain_allowOne (by decide))).1
    rw [shown, share] at masks
    exact absurd masks (by decide)

end ShareScanner
end Stars
