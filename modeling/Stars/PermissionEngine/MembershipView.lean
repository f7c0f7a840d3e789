import Stars.AdResolver.Silence
import Stars.PermissionEngine.LogonRefusal

namespace Stars
namespace PermissionEngine

open AdResolver Collections

/-!
# The membership view and the access result

Both surfaces list the markers of a resolved identity, one from the resolution
itself and one from the flags an evaluation receives.  They are written out
separately, so their agreement is a property of two lists of conditions.

The lists agree marker by marker, three kinds apart.  A Selective Authentication
check of the target replaces the general remark on trust boundaries.  Which
well-knowns a Guest or anonymous token lacks depends on a policy of the target.
And the two surfaces treat a disabled account differently when its state counts
as unknown.  None of the three makes a result incomplete.
-/

/-- The markers about the identity and its groups.  The others concern the
object, the share, the target or the logon. -/
def aboutIdentity : PermissionDiagnostic → Bool
  | .domainGroupRecursionIncomplete | .identityDisabled | .identityNotInConfiguredLdapBase
  | .identityDisabledStatusUnknown | .identityLookupFailed _ | .groupResolutionFailed _
  | .identityResolvedViaForeignSecurityPrincipal | .groupResolutionViaGlobalCatalog
  | .sidHistoryPresent _ | .sidHistoryEvaluated _ | .groupSidHistoryEvaluated _ _
  | .groupSidHistoryPresent _ | .trustBoundaryEffectsNotModeled | .identityNotResolvable _
  | .trustedDomainAccountResolved _ _ _ | .identityOrphaned | .groupResolutionIncomplete _
  | .nonSecurityGroupsExcluded _ | .guestOrAnonymousToken _ => true
  | _ => false

/-- The evaluation of an object for a resolved identity.  The local groups of the
target are joined to its memberships. -/
def forResolution (object : PermissionEvaluationInput) (resolution : PrincipalResolution)
    (localGroups : List GroupMembership) : PermissionEvaluationInput :=
  { object with
    identity := resolution.identity
    groupMemberships := resolution.memberships ++ localGroups
    resolution := resolution.engineFlags }

section Evaluated

variable (input : PermissionEvaluationInput)

/-- A marker behind those of the identity and the object: it is about the logon or
about SYNCHRONIZE. -/
def Behind (marker : PermissionDiagnostic) : Prop :=
  aboutIdentity marker = false ∧ ∀ layer, marker.uncertainLayer = some layer → layer = .logon

theorem behind_of_none {marker : PermissionDiagnostic} (own : aboutIdentity marker = false)
    (certain : marker.uncertainLayer = none) : Behind marker := by
  refine ⟨own, ?_⟩
  intro layer same
  rw [certain] at same
  cases same

/-- Whatever the outcome of the logon, the markers before the one of the logon
are those of the result. -/
theorem exists_reportedFrom : ∃ back, ReportedFrom input (evaluate input) back ∧
    ∀ marker ∈ back, Behind marker := by
  have logon : ∀ marker ∈ input.logonMarkers, Behind marker ∧ Behind (withoutEffect marker) := by
    rw [PermissionEvaluationInput.logonMarkers]
    rcases input.selectiveAuthentication with _ | check
    · exact fun _ absent => absurd absent List.not_mem_nil
    · cases check with
      | allowed server via =>
          exact fun _ member =>
            List.mem_singleton.mp member ▸ ⟨behind_of_none rfl rfl, behind_of_none rfl rfl⟩
      | denied server =>
          exact fun _ member =>
            List.mem_singleton.mp member ▸ ⟨behind_of_none rfl rfl, behind_of_none rfl rfl⟩
      | unknown server reason =>
          exact fun _ member => List.mem_singleton.mp member ▸
            ⟨⟨rfl, fun _ same => (Option.some.inj same).symm⟩, behind_of_none rfl rfl⟩
  have settled : ∃ back, (settleLogon input.draft).diagnostics = frontMarkers input ++ back ∧
      ∀ marker ∈ back, Behind marker := by
    refine ⟨_, settleLogon_draft_diagnostics, ?_⟩
    split
    · rw [List.forall_mem_map]
      exact fun marker member => (logon marker member).2
    · exact fun marker member => (logon marker member).1
  have synchronize : ∀ marker ∈ synchronizeMarkers (settleLogon input.draft) input.ntfsRaw
      input.deniedRaw, Behind marker := by
    rw [synchronizeMarkers, Option.toList_map, List.forall_mem_map]
    exact fun _ _ => behind_of_none rfl rfl
  have listed : ∃ back, (evaluate input).diagnostics = frontMarkers input ++ back ∧
      ∀ marker ∈ back, Behind marker := by
    rcases settled with ⟨back, markers, others⟩
    rw [evaluate]
    split
    · exact ⟨back, markers, others⟩
    · refine ⟨back ++ synchronizeMarkers (settleLogon input.draft) input.ntfsRaw input.deniedRaw,
        ?_, List.forall_mem_append.mpr ⟨others, synchronize⟩⟩
      dsimp only
      rw [markers, List.append_assoc]
  rcases listed with ⟨back, markers, others⟩
  refine ⟨back, ⟨?_, ?_, ?_, markers⟩, others⟩
  · exact congrArg EffectivePermission.shareStatus (evaluate_eq_draft input)
  · exact congrArg EffectivePermission.unsupportedAceCount (evaluate_eq_draft input)
  · exact congrArg EffectivePermission.localGroupStatus (evaluate_eq_draft input)

end Evaluated

/-- The markers both surfaces take from the same conditions. -/
def sharedMarkers (flags : ResolutionProvenance) (identity : Identity)
    (memberships : List GroupMembership) : List PermissionDiagnostic :=
  markerIf flags.identityNotInConfiguredLdapBase .identityNotInConfiguredLdapBase ++
  markerIf flags.groupResolutionViaSamFallback .domainGroupRecursionIncomplete ++
  flags.identityLookupFailureReason.toList.map .identityLookupFailed ++
  flags.groupResolutionFailureReason.toList.map .groupResolutionFailed ++
  flags.groupResolutionGaps.map .groupResolutionIncomplete ++
  markerIf (!flags.excludedNonSecurityGroups.isEmpty)
    (.nonSecurityGroupsExcluded flags.excludedNonSecurityGroups) ++
  flags.identityUnresolvableReason.toList.map .identityNotResolvable ++
  markerIf (identity.kind = .orphaned) .identityOrphaned ++
  markerIf flags.identityResolvedViaFsp .identityResolvedViaForeignSecurityPrincipal ++
  markerIf flags.groupResolutionViaGlobalCatalog .groupResolutionViaGlobalCatalog ++
  identity.sidHistoryDiagnostics ++ groupSidHistoryDiagnostics memberships ++
  flags.trustedDomain.toList.map (fun trusted =>
    .trustedDomainAccountResolved trusted.domain trusted.homeOnlyGroups trusted.sidFiltered)

/-- The trust of the account's domain uses Selective Authentication. -/
def SelectiveTrust (flags : ResolutionProvenance) : Prop :=
  ∃ trusted, flags.trustedDomain = some trusted ∧ trusted.selectiveAuthentication = true

/-- The account reached this domain across a boundary whose effects are unknown. -/
def CrossesBoundary (flags : ResolutionProvenance) : Prop :=
  flags.identityResolvedViaFsp = true ∨ flags.identityNotInConfiguredLdapBase = true

theorem mem_membershipDiagnostics (resolution : PrincipalResolution)
    (marker : PermissionDiagnostic) :
    marker ∈ resolution.membershipDiagnostics ↔
      (resolution.engineFlags.identityDisabledStatusUnknown = true ∧
          marker = .identityDisabledStatusUnknown) ∨
        (resolution.engineFlags.identityDisabledStatusUnknown = false ∧
          resolution.identity.disabled = true ∧ marker = .identityDisabled) ∨
        marker ∈ sharedMarkers resolution.engineFlags resolution.identity
          resolution.memberships ∨
        ((CrossesBoundary resolution.engineFlags ∨ SelectiveTrust resolution.engineFlags) ∧
          marker = .trustBoundaryEffectsNotModeled) := by
  generalize flagsIs : resolution.engineFlags = flags
  have single : ∀ (condition : Bool) (other : PermissionDiagnostic),
      marker ∈ (if condition = true then [other] else []) ↔
        condition = true ∧ marker = other := fun _ _ => mem_markerIf
  have account : marker ∈ (if flags.identityDisabledStatusUnknown then
        [.identityDisabledStatusUnknown]
      else if resolution.identity.disabled then [.identityDisabled] else []) ↔
      (flags.identityDisabledStatusUnknown = true ∧ marker = .identityDisabledStatusUnknown) ∨
        (flags.identityDisabledStatusUnknown = false ∧ resolution.identity.disabled = true ∧
          marker = .identityDisabled) := by
    cases flags.identityDisabledStatusUnknown <;> simp
  have boundary : marker ∈ PrincipalResolution.boundaryDiagnostics flags ↔
      (CrossesBoundary flags ∧ marker = .trustBoundaryEffectsNotModeled) ∨
        marker ∈ flags.trustedDomain.toList.map (fun trusted =>
          .trustedDomainAccountResolved trusted.domain trusted.homeOnlyGroups
            trusted.sidFiltered) ∨
        (SelectiveTrust flags ∧ marker = .trustBoundaryEffectsNotModeled) := by
    rw [PrincipalResolution.boundaryDiagnostics, List.mem_append, single, Bool.or_eq_true,
      CrossesBoundary, SelectiveTrust]
    cases flags.trustedDomain with
    | none => simp
    | some trusted =>
        rw [Option.toList_some, List.flatMap_singleton,
          PrincipalResolution.trustedDomainDiagnostics, List.mem_cons, single]
        simp
  have excluded : marker ∈ (if flags.excludedNonSecurityGroups.isEmpty then []
      else [.nonSecurityGroupsExcluded flags.excludedNonSecurityGroups]) ↔
      (!flags.excludedNonSecurityGroups.isEmpty) = true ∧
        marker = .nonSecurityGroupsExcluded flags.excludedNonSecurityGroups := by
    cases flags.excludedNonSecurityGroups <;> simp
  have orphaned : marker ∈ (if resolution.identity.kind = .orphaned then [.identityOrphaned]
      else []) ↔ decide (resolution.identity.kind = .orphaned) = true ∧
        marker = .identityOrphaned := by
    by_cases kind : resolution.identity.kind = .orphaned <;> simp [kind]
  rw [PrincipalResolution.membershipDiagnostics, flagsIs]
  simp only [PrincipalResolution.failureDiagnostics, PrincipalResolution.gapDiagnostics,
    PrincipalResolution.originDiagnostics, sharedMarkers, List.mem_append, mem_markerIf, single,
    account, boundary, excluded, orphaned, or_and_right]
  exact iff_of_eq (by ac_rfl)

theorem mem_identityPart (input : PermissionEvaluationInput) (marker : PermissionDiagnostic) :
    marker ∈ input.resolutionMarkers ++ input.identityMarkers ++ input.trustMarkers ↔
      (input.resolution.identityDisabledStatusUnknown = true ∧
          marker = .identityDisabledStatusUnknown) ∨
        (input.identity.disabled = true ∧ marker = .identityDisabled) ∨
        marker ∈ sharedMarkers input.resolution input.identity input.groupMemberships ∨
        ((CrossesBoundary input.resolution ∨
            SelectiveTrust input.resolution ∧ input.selectiveAuthentication = none) ∧
          marker = .trustBoundaryEffectsNotModeled) ∨
        (input.guestSids ≠ [] ∧ marker = .guestOrAnonymousToken input.guestSids) ∨
        (input.ownerRightsAcePresent = true ∧ marker = .ownerRightsAceApplied) := by
  have boundary : marker ∈ input.trustMarkers ↔
      (CrossesBoundary input.resolution ∧ marker = .trustBoundaryEffectsNotModeled) ∨
        marker ∈ input.resolution.trustedDomain.toList.map (fun trusted =>
          .trustedDomainAccountResolved trusted.domain trusted.homeOnlyGroups
            trusted.sidFiltered) ∨
        (SelectiveTrust input.resolution ∧ input.selectiveAuthentication = none) ∧
          marker = .trustBoundaryEffectsNotModeled := by
    rw [PermissionEvaluationInput.trustMarkers, List.mem_append, mem_markerIf, Bool.or_eq_true,
      CrossesBoundary, SelectiveTrust]
    cases input.resolution.trustedDomain with
    | none => simp
    | some trusted => simp [mem_markerIf, and_assoc]
  have guest : (!input.guestSids.isEmpty) = true ↔ input.guestSids ≠ [] := by simp
  rw [List.mem_append, List.mem_append, boundary]
  simp only [PermissionEvaluationInput.resolutionMarkers,
    PermissionEvaluationInput.identityMarkers, sharedMarkers, List.mem_append, mem_markerIf,
    Option.toList_map, guest, or_and_right]
  exact iff_of_eq (by ac_rfl)

/-- The parts about the object, the share and the target hold no marker about the
identity. -/
theorem mem_frontMarkers_iff (input : PermissionEvaluationInput) {marker : PermissionDiagnostic}
    (about : aboutIdentity marker = true) :
    marker ∈ frontMarkers input ↔
      marker ∈ input.resolutionMarkers ++ input.identityMarkers ++ input.trustMarkers := by
  have listedOnly : ∀ {markers : List PermissionDiagnostic},
      (∀ listed ∈ markers, aboutIdentity listed = false) → marker ∉ markers := by
    intro markers others member
    rw [others marker member] at about
    cases about
  have dacl : marker ∉ input.daclMarkers := by
    apply listedOnly
    rw [PermissionEvaluationInput.daclMarkers, List.forall_mem_append, List.forall_mem_append,
      List.forall_mem_append]
    refine ⟨⟨⟨?_, forall_mem_markerIf _ rfl⟩, forall_mem_markerIf _ rfl⟩, ?_⟩
    · split
      · exact fun _ absent => absurd absent List.not_mem_nil
      · rw [collectDiagnostics]
        split
        · exact fun _ member => List.mem_singleton.mp member ▸ rfl
        · exact fun _ member => List.mem_singleton.mp member ▸ rfl
        · exact fun _ absent => absurd absent List.not_mem_nil
    · cases input.logonDependent with
      | none => exact fun _ absent => absurd absent List.not_mem_nil
      | some bounds => exact fun _ member => List.mem_singleton.mp member ▸ rfl
  have uac : marker ∉ input.uacMarkers := by
    apply listedOnly
    rw [PermissionEvaluationInput.uacMarkers, List.forall_mem_append]
    refine ⟨forall_mem_markerIf _ rfl, ?_⟩
    cases input.remoteUac with
    | unknown => exact fun _ absent => absurd absent List.not_mem_nil
    | _ => exact fun _ member => List.mem_singleton.mp member ▸ rfl
  have object : marker ∉ input.objectMarkers := by
    apply listedOnly
    simp only [PermissionEvaluationInput.objectMarkers, List.forall_mem_append,
      Option.toList_map, List.forall_mem_map]
    exact ⟨⟨fun _ _ => rfl, fun _ _ => rfl⟩, fun _ _ => rfl⟩
  simp only [frontMarkers, List.mem_append, dacl, uac, object, false_or, or_false]

/-- The kinds one surface lists under a condition of its own. -/
def ownCondition : PermissionDiagnostic → Bool
  | .identityDisabled | .identityDisabledStatusUnknown | .trustBoundaryEffectsNotModeled
  | .guestOrAnonymousToken _ => true
  | _ => false

/-- The shared markers are about the identity and none of these kinds. -/
theorem sharedMarkers_kind (flags : ResolutionProvenance) (identity : Identity)
    (memberships : List GroupMembership) :
    ∀ marker ∈ sharedMarkers flags identity memberships,
      (aboutIdentity marker && !ownCondition marker) = true := by
  have single : ∀ (condition : Prop) [Decidable condition] (marker : PermissionDiagnostic),
      (aboutIdentity marker && !ownCondition marker) = true →
      ∀ listed ∈ (if condition then [marker] else []),
        (aboutIdentity listed && !ownCondition listed) = true := by
    intro condition _ marker own
    split
    · exact fun _ member => List.mem_singleton.mp member ▸ own
    · exact fun _ absent => absurd absent List.not_mem_nil
  simp only [sharedMarkers, Identity.sidHistoryDiagnostics, groupSidHistoryDiagnostics,
    List.forall_mem_append, List.forall_mem_map]
  exact ⟨⟨⟨⟨⟨⟨⟨⟨⟨⟨⟨⟨forall_mem_markerIf _ rfl, forall_mem_markerIf _ rfl⟩, fun _ _ => rfl⟩,
    fun _ _ => rfl⟩, fun _ _ => rfl⟩, forall_mem_markerIf _ rfl⟩, fun _ _ => rfl⟩,
    forall_mem_markerIf _ rfl⟩, forall_mem_markerIf _ rfl⟩, forall_mem_markerIf _ rfl⟩,
    single _ _ rfl, single _ _ rfl⟩, single _ _ rfl, single _ _ rfl⟩, fun _ _ => rfl⟩

/-- Groups without historical SIDs at the end of the list leave the markers of the
groups' historical SIDs as they are. -/
theorem groupSidHistoryDiagnostics_append (memberships : List GroupMembership)
    {further : List GroupMembership}
    (unmoved : ∀ membership ∈ further, membership.groupSidHistoryCount = 0) :
    groupSidHistoryDiagnostics (memberships ++ further) =
      groupSidHistoryDiagnostics memberships := by
  have run : ∀ (rest : List GroupMembership) (totals : GroupSidHistoryTotals),
      (∀ membership ∈ rest, membership.groupSidHistoryCount = 0) →
      ∃ seen, rest.foldl GroupSidHistoryTotals.add totals = { totals with seen := seen } := by
    intro rest
    induction rest with
    | nil => exact fun totals _ => ⟨totals.seen, rfl⟩
    | cons membership rest ih =>
        intro totals counts
        rcases List.forall_mem_cons.mp counts with ⟨nothing, others⟩
        rw [List.foldl_cons, GroupSidHistoryTotals.add]
        by_cases met : membership.groupSid ∈ totals.seen
        · rw [if_pos met]
          exact ih totals others
        · rw [if_neg met, if_pos nothing]
          exact ih { totals with seen := membership.groupSid :: totals.seen } others
  rcases run further (memberships.foldl GroupSidHistoryTotals.add {}) unmoved with ⟨seen, same⟩
  rw [groupSidHistoryDiagnostics, groupSidHistoryDiagnostics, List.foldl_append, same]

/-! ## The agreement -/

/-- What the membership view of a resolution and the result of an evaluation say
about the identity. -/
structure ViewsAgree (resolution : PrincipalResolution) (input : PermissionEvaluationInput) :
    Prop where
  /-- The markers that do not depend on the target and not on the account's state. -/
  same : ∀ marker, aboutIdentity marker = true → marker ≠ .identityDisabled →
    marker ≠ .trustBoundaryEffectsNotModeled → (∀ sids, marker ≠ .guestOrAnonymousToken sids) →
    (marker ∈ resolution.membershipDiagnostics ↔ marker ∈ (evaluate input).diagnostics)
  /-- A disabled account whose state is known. -/
  disabled : ¬ (resolution.engineFlags.identityDisabledStatusUnknown = true ∧
      resolution.identity.disabled = true) →
    (.identityDisabled ∈ resolution.membershipDiagnostics ↔
      .identityDisabled ∈ (evaluate input).diagnostics)
  /-- A Selective Authentication check stands for the remark on the trust. -/
  boundary : .trustBoundaryEffectsNotModeled ∈ (evaluate input).diagnostics ↔
    .trustBoundaryEffectsNotModeled ∈ resolution.membershipDiagnostics ∧
      (input.selectiveAuthentication = none ∨ CrossesBoundary resolution.engineFlags)
  /-- The target decides what a Guest or anonymous token holds. -/
  guest : ∀ sids, .guestOrAnonymousToken sids ∉ resolution.membershipDiagnostics ∧
    (.guestOrAnonymousToken sids ∈ (evaluate input).diagnostics ↔
      sids = input.guestSids ∧ sids ≠ [])
  complete : (∃ marker ∈ resolution.membershipDiagnostics,
      marker.isIncompletenessTrigger = true) ↔
    ∃ marker ∈ (evaluate input).diagnostics, aboutIdentity marker = true ∧
      marker.isIncompletenessTrigger = true

section Agreement

variable (object : PermissionEvaluationInput) (resolution : PrincipalResolution)
  {localGroups : List GroupMembership}

/-- What an evaluation for a resolution lists about the identity. -/
theorem mem_evaluate_iff
    (unmoved : ∀ membership ∈ localGroups, membership.groupSidHistoryCount = 0)
    {marker : PermissionDiagnostic} (about : aboutIdentity marker = true) :
    marker ∈ (evaluate (forResolution object resolution localGroups)).diagnostics ↔
      (resolution.engineFlags.identityDisabledStatusUnknown = true ∧
          marker = .identityDisabledStatusUnknown) ∨
        (resolution.identity.disabled = true ∧ marker = .identityDisabled) ∨
        marker ∈ sharedMarkers resolution.engineFlags resolution.identity
          resolution.memberships ∨
        ((CrossesBoundary resolution.engineFlags ∨
            SelectiveTrust resolution.engineFlags ∧ object.selectiveAuthentication = none) ∧
          marker = .trustBoundaryEffectsNotModeled) ∨
        ((forResolution object resolution localGroups).guestSids ≠ [] ∧
          marker = .guestOrAnonymousToken
            (forResolution object resolution localGroups).guestSids) := by
  rcases exists_reportedFrom (forResolution object resolution localGroups) with
    ⟨back, reported, others⟩
  have behind : marker ∉ back := by
    intro member
    rw [(others marker member).1] at about
    cases about
  have owner : marker ≠ .ownerRightsAceApplied := by
    rintro rfl
    cases about
  have groups : sharedMarkers (forResolution object resolution localGroups).resolution
      (forResolution object resolution localGroups).identity
      (forResolution object resolution localGroups).groupMemberships =
        sharedMarkers resolution.engineFlags resolution.identity resolution.memberships := by
    rw [sharedMarkers, sharedMarkers]
    change _ ++ groupSidHistoryDiagnostics (resolution.memberships ++ localGroups) ++ _ = _
    rw [groupSidHistoryDiagnostics_append _ unmoved]
    rfl
  rw [reported.markers, List.mem_append, or_iff_left behind, mem_frontMarkers_iff _ about,
    mem_identityPart, groups]
  simp only [owner, and_false, or_false]
  rfl

theorem membershipDiagnostics_aboutIdentity :
    ∀ marker ∈ resolution.membershipDiagnostics, aboutIdentity marker = true := by
  intro marker member
  rcases (mem_membershipDiagnostics resolution marker).mp member with
    ⟨_, rfl⟩ | ⟨_, _, rfl⟩ | shared | ⟨_, rfl⟩
  · rfl
  · rfl
  · exact (Bool.and_eq_true_iff.mp (sharedMarkers_kind _ _ _ marker shared)).1
  · rfl

/-- For every resolution, and for every object, target and logon it is evaluated
with, the two surfaces agree. -/
theorem viewsAgree
    (unmoved : ∀ membership ∈ localGroups, membership.groupSidHistoryCount = 0) :
    ViewsAgree resolution (forResolution object resolution localGroups) := by
  have absent : ∀ marker, ownCondition marker = true →
      marker ∉ sharedMarkers resolution.engineFlags resolution.identity resolution.memberships := by
    intro marker own member
    have kind := sharedMarkers_kind _ _ _ marker member
    rw [own, Bool.not_true, Bool.and_false] at kind
    cases kind
  have same : ∀ marker, aboutIdentity marker = true → marker ≠ .identityDisabled →
      marker ≠ .trustBoundaryEffectsNotModeled → (∀ sids, marker ≠ .guestOrAnonymousToken sids) →
      (marker ∈ resolution.membershipDiagnostics ↔
        marker ∈ (evaluate (forResolution object resolution localGroups)).diagnostics) := by
    intro marker about notDisabled notBoundary notGuest
    rw [mem_membershipDiagnostics, mem_evaluate_iff object resolution unmoved about]
    simp only [notDisabled, notBoundary, notGuest, and_false, or_false, false_or]
  refine ⟨same, ?_, ?_, ?_, ?_⟩
  · intro known
    rw [mem_membershipDiagnostics, mem_evaluate_iff object resolution unmoved rfl]
    simp only [absent .identityDisabled rfl, reduceCtorEq, and_false, and_true, or_false, false_or]
    constructor
    · exact And.right
    · intro disabled
      exact ⟨Bool.eq_false_iff.mpr (fun unknown => known ⟨unknown, disabled⟩), disabled⟩
  · rw [mem_membershipDiagnostics, mem_evaluate_iff object resolution unmoved rfl]
    simp only [absent .trustBoundaryEffectsNotModeled rfl, reduceCtorEq, and_false, and_true, or_false, false_or]
    have check : (forResolution object resolution localGroups).selectiveAuthentication =
        object.selectiveAuthentication := rfl
    rw [check]
    constructor
    · rintro (crosses | ⟨selective, unchecked⟩)
      · exact ⟨.inl crosses, .inr crosses⟩
      · exact ⟨.inr selective, .inl unchecked⟩
    · rintro ⟨crosses | selective, unchecked | crossing⟩
      · exact .inl crosses
      · exact .inl crosses
      · exact .inr ⟨selective, unchecked⟩
      · exact .inl crossing
  · intro sids
    rw [mem_membershipDiagnostics, mem_evaluate_iff object resolution unmoved rfl]
    simp only [absent (.guestOrAnonymousToken sids) rfl, reduceCtorEq, and_false, or_false, false_or, not_false_eq_true,
      true_and, PermissionDiagnostic.guestOrAnonymousToken.injEq]
    constructor
    · rintro ⟨present, listed⟩
      exact ⟨listed, listed ▸ present⟩
    · rintro ⟨listed, present⟩
      exact ⟨listed ▸ present, listed⟩
  · -- A trigger is none of the three kinds that differ.
    have shared : ∀ marker : PermissionDiagnostic, marker.isIncompletenessTrigger = true →
        marker ≠ .identityDisabled ∧ marker ≠ .trustBoundaryEffectsNotModeled ∧
          ∀ sids, marker ≠ .guestOrAnonymousToken sids := by
      intro marker trigger
      refine ⟨?_, ?_, ?_⟩
      · rintro rfl
        cases trigger
      · rintro rfl
        cases trigger
      · rintro sids rfl
        cases trigger
    constructor
    · rintro ⟨marker, member, trigger⟩
      rcases shared marker trigger with ⟨notDisabled, notBoundary, notGuest⟩
      have about := membershipDiagnostics_aboutIdentity resolution marker member
      exact ⟨marker, (same marker about notDisabled notBoundary notGuest).mp member, about, trigger⟩
    · rintro ⟨marker, member, about, trigger⟩
      rcases shared marker trigger with ⟨notDisabled, notBoundary, notGuest⟩
      exact ⟨marker, (same marker about notDisabled notBoundary notGuest).mpr member, trigger⟩

end Agreement

/-! ## A trust with Selective Authentication -/

section Selective

open MovedAccount SilentOutcomes

/-- A directory whose forest trust uses Selective Authentication. -/
def selectiveCatalog : LdapResolver :=
  { catalog with
    searchDomainTrusts := fun _ => .ok
      [{ trust :=
          { partner := "partner.test"
            attributes := ⟨0x18#32⟩
            sid := some ⟨"S-1-5-21-1-1-1"⟩
            forestDomains := [⟨"partner.test", "PARTNER", ⟨"S-1-5-21-1-1-1"⟩, 0#32⟩] }
         holder := "DC=corp,DC=test" }] }

/-- A folder on a server the account may authenticate to. -/
def checkedFolder : PermissionEvaluationInput where
  identity := { sid := accountSid }
  fileSystemObject := { path := "\\\\fs01\\data" }
  selectiveAuthentication := some (.allowed "fs01" "Domain Users")

/-- Whether each surface remarks on the trust boundary. -/
def boundaryRemarks (resolver : PrincipalResolver) (principal : PrincipalInput)
    (object : PermissionEvaluationInput) : Option (Bool × Bool) :=
  (resolver.resolve principal).toOption.map (fun resolution =>
    (resolution.membershipDiagnostics.contains .trustBoundaryEffectsNotModeled,
      (evaluate (forResolution object resolution [])).diagnostics.contains
        .trustBoundaryEffectsNotModeled))

/-- For an account of the trusted domain only the membership view keeps the remark
on the trust. -/
theorem surfaces_differ_selective :
    ¬ ∀ (resolver : PrincipalResolver) (principal : PrincipalInput)
      (resolution : PrincipalResolution), resolver.resolve principal = .ok resolution →
      ∀ object : PermissionEvaluationInput, ∀ marker, aboutIdentity marker = true →
        (marker ∈ resolution.membershipDiagnostics ↔
          marker ∈ (evaluate (forResolution object resolution [])).diagnostics) := by
  intro alike
  have remarks : boundaryRemarks
      { ldap := selectiveCatalog, trustedBackend := some ⟨partnerController, selectiveCatalog⟩ }
      (.sid accountSid) checkedFolder = some (true, false) := by
    decide +kernel
  rw [boundaryRemarks] at remarks
  cases resolved : PrincipalResolver.resolve
      { ldap := selectiveCatalog, trustedBackend := some ⟨partnerController, selectiveCatalog⟩ }
      (.sid accountSid) with
  | error reason =>
      rw [resolved] at remarks
      cases remarks
  | ok resolution =>
      rw [resolved] at remarks
      rcases Prod.mk.inj (Option.some.inj remarks) with ⟨remarked, unremarked⟩
      have same := alike _ _ resolution resolved checkedFolder .trustBoundaryEffectsNotModeled rfl
      have listed := same.mp (List.contains_iff_mem.mp remarked)
      rw [List.contains_iff_mem.mpr listed] at unremarked
      cases unremarked

/-- A local group of that server is joined to the memberships of the account. -/
theorem viewsAgree_selective :
    ∃ resolution, PrincipalResolver.resolve
        { ldap := selectiveCatalog, trustedBackend := some ⟨partnerController, selectiveCatalog⟩ }
        (.sid accountSid) = .ok resolution ∧
      ViewsAgree resolution (forResolution checkedFolder resolution
        [membershipIn accountSid ⟨"S-1-5-32-545"⟩]) := by
  cases resolved : PrincipalResolver.resolve
      { ldap := selectiveCatalog, trustedBackend := some ⟨partnerController, selectiveCatalog⟩ }
      (.sid accountSid) with
  | error reason =>
      have found : (PrincipalResolver.resolve
          { ldap := selectiveCatalog
            trustedBackend := some ⟨partnerController, selectiveCatalog⟩ }
          (.sid accountSid)).isOk = true := by
        decide
      rw [resolved] at found
      cases found
  | ok resolution =>
      exact ⟨resolution, rfl, viewsAgree checkedFolder resolution
        (List.forall_mem_singleton.mpr rfl)⟩

end Selective

end PermissionEngine
end Stars
