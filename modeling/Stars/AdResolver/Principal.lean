import Stars.AdResolver.Trusts
import Stars.Core.GroupHistory
import Stars.Core.Input

namespace Stars
namespace AdResolver

open Collections

/-!
# The outcome of a principal resolution

A resolution keeps how the identity was found and how its groups were read.  The
engine flags and the markers of the membership view are derived from it, so that
an incomplete outcome reaches the reader.  `marked_iff` lists the outcomes that
carry a marker, which always concerns the token.
-/

/-- The identity resolution relative to the configured base. -/
inductive IdentityScopeStatus where
  | insideConfiguredLdapBase
  | outsideConfiguredLdapBase
  | orphanedSid
  | unresolvable (reason : String)
  | lookupFailed (reason : String)
  | resolvedInTrustedDomain (domain : String)
deriving DecidableEq

inductive GroupResolutionStatus where
  | ldapRecursive
  | samFlat
  | localAccount
  | failed (reason : String)
  | notAttempted
deriving DecidableEq

inductive DisabledStatus where
  | known (disabled : Bool)
  | unknown
deriving DecidableEq

structure PrincipalResolution where
  sid : Sid
  identity : Identity
  memberships : List GroupMembership := []
  scopeStatus : IdentityScopeStatus
  groupResolutionStatus : GroupResolutionStatus := .notAttempted
  disabledStatus : DisabledStatus := .unknown
  diagnostics : List PermissionDiagnostic := []
  resolvedViaFsp : Bool := false
  resolvedViaGlobalCatalog : Bool := false
  groupResolutionGaps : List String := []
  excludedGroups : List String := []
  trustedDomain : Option TrustedDomainProvenance := none
deriving DecidableEq

/-- Reads the disabled state from an identity of the directory. -/
def disabledFromLdap (identity : Identity) : DisabledStatus := .known identity.disabled

/-- The markers that match the scope and the disabled state. -/
def pushDiagnostics (scope : IdentityScopeStatus) (disabledStatus : DisabledStatus)
    (identityDisabled : Bool) : List PermissionDiagnostic :=
  (if scope = .outsideConfiguredLdapBase then [.identityNotInConfiguredLdapBase] else []) ++
    (if disabledStatus = .unknown then [.identityDisabledStatusUnknown]
      else if identityDisabled then [.identityDisabled]
      else [])

namespace PrincipalResolution

def lookupFailureReason (resolution : PrincipalResolution) : Option String :=
  match resolution.scopeStatus with
  | .lookupFailed reason => some reason
  | _ => none

/-- Skipping the groups of an identity outside the base is a failure as well. -/
def groupFailureReason (resolution : PrincipalResolution) : Option String :=
  match resolution.groupResolutionStatus with
  | .failed reason => some reason
  | .notAttempted =>
      if resolution.scopeStatus = .outsideConfiguredLdapBase then
        some "group resolution skipped: identity is outside the configured LDAP base"
      else none
  | _ => none

def unresolvableReason (resolution : PrincipalResolution) : Option String :=
  match resolution.scopeStatus with
  | .unresolvable reason => some reason
  | _ => none

/-- An orphaned SID has no account whose state could be unknown. -/
def engineFlags (resolution : PrincipalResolution) : ResolutionProvenance where
  identityUnresolvableReason := resolution.unresolvableReason
  groupResolutionGaps := resolution.groupResolutionGaps
  excludedNonSecurityGroups := resolution.excludedGroups
  identityNotInConfiguredLdapBase := resolution.scopeStatus = .outsideConfiguredLdapBase
  identityDisabledStatusUnknown :=
    resolution.disabledStatus = .unknown && resolution.scopeStatus ≠ .orphanedSid
  groupResolutionViaSamFallback := resolution.groupResolutionStatus = .samFlat
  identityLookupFailureReason := resolution.lookupFailureReason
  groupResolutionFailureReason := resolution.groupFailureReason
  identityResolvedViaFsp := resolution.resolvedViaFsp
  groupResolutionViaGlobalCatalog := resolution.resolvedViaGlobalCatalog
  trustedDomain := resolution.trustedDomain

/-- How a group resolution of a trusted domain is shown. -/
def trustedDomainDiagnostics (provenance : TrustedDomainProvenance) : List PermissionDiagnostic :=
  .trustedDomainAccountResolved provenance.domain provenance.homeOnlyGroups
      provenance.sidFiltered ::
    (if provenance.selectiveAuthentication then [.trustBoundaryEffectsNotModeled] else [])

/-- State of the account and what failed. -/
def failureDiagnostics (flags : ResolutionProvenance) (identity : Identity) :
    List PermissionDiagnostic :=
  (if flags.identityDisabledStatusUnknown then [.identityDisabledStatusUnknown]
    else if identity.disabled then [.identityDisabled] else []) ++
  (if flags.identityNotInConfiguredLdapBase then [.identityNotInConfiguredLdapBase] else []) ++
  (if flags.groupResolutionViaSamFallback then [.domainGroupRecursionIncomplete] else []) ++
  flags.identityLookupFailureReason.toList.map .identityLookupFailed ++
  flags.groupResolutionFailureReason.toList.map .groupResolutionFailed

/-- Missing groups, left-out groups and a SID without an account. -/
def gapDiagnostics (flags : ResolutionProvenance) (identity : Identity) :
    List PermissionDiagnostic :=
  flags.groupResolutionGaps.map .groupResolutionIncomplete ++
  (if flags.excludedNonSecurityGroups.isEmpty then []
    else [.nonSecurityGroupsExcluded flags.excludedNonSecurityGroups]) ++
  flags.identityUnresolvableReason.toList.map .identityNotResolvable ++
  (if identity.kind = .orphaned then [.identityOrphaned] else [])

/-- Where identity and groups come from. -/
def originDiagnostics (flags : ResolutionProvenance) : List PermissionDiagnostic :=
  (if flags.identityResolvedViaFsp then [.identityResolvedViaForeignSecurityPrincipal] else []) ++
  (if flags.groupResolutionViaGlobalCatalog then [.groupResolutionViaGlobalCatalog] else [])

def boundaryDiagnostics (flags : ResolutionProvenance) : List PermissionDiagnostic :=
  (if flags.identityResolvedViaFsp || flags.identityNotInConfiguredLdapBase then
    [.trustBoundaryEffectsNotModeled] else []) ++
  flags.trustedDomain.toList.flatMap trustedDomainDiagnostics

/-- The markers of an identity and its resolution, in the order of the engine. -/
def membershipDiagnostics (resolution : PrincipalResolution) : List PermissionDiagnostic :=
  failureDiagnostics resolution.engineFlags resolution.identity ++
  gapDiagnostics resolution.engineFlags resolution.identity ++
  originDiagnostics resolution.engineFlags ++
  resolution.identity.sidHistoryDiagnostics ++
  groupSidHistoryDiagnostics resolution.memberships ++
  boundaryDiagnostics resolution.engineFlags

end PrincipalResolution

/-! ## Markers for the token -/

/-- Some marker makes a part of the result not determinable, and the part is
one of those asked for. -/
def Marked (affected : UncertainLayer → Prop) (markers : List PermissionDiagnostic) : Prop :=
  ∃ marker ∈ markers, ∃ layer, marker.uncertainLayer = some layer ∧ affected layer

/-- More historical SIDs were reported than could be read. -/
def HistoryUnread (identity : Identity) : Prop :=
  identity.sidHistory.length < identity.sidHistoryCount

/-- The first membership of some group reports more historical SIDs than could
be read. -/
def GroupHistoryUnread (memberships : List GroupMembership) : Prop :=
  ∃ membership ∈ distinctBy GroupMembership.groupSid [] memberships,
    membership.groupSidHistory.length < membership.groupSidHistoryCount

section Marked

variable (affected : UncertainLayer → Prop)

@[simp]
theorem marked_nil : ¬Marked affected [] := by
  rintro ⟨marker, member, _⟩
  cases member

@[simp]
theorem marked_append (left right : List PermissionDiagnostic) :
    Marked affected (left ++ right) ↔ Marked affected left ∨ Marked affected right := by
  constructor
  · rintro ⟨marker, member, concerned⟩
    rcases List.mem_append.mp member with inLeft | inRight
    · exact .inl ⟨marker, inLeft, concerned⟩
    · exact .inr ⟨marker, inRight, concerned⟩
  · rintro (⟨marker, member, concerned⟩ | ⟨marker, member, concerned⟩)
    · exact ⟨marker, List.mem_append_left right member, concerned⟩
    · exact ⟨marker, List.mem_append_right left member, concerned⟩

@[simp]
theorem marked_cons (marker : PermissionDiagnostic) (rest : List PermissionDiagnostic) :
    Marked affected (marker :: rest) ↔
      (∃ layer, marker.uncertainLayer = some layer ∧ affected layer) ∨ Marked affected rest := by
  constructor
  · rintro ⟨found, member, concerned⟩
    rcases List.mem_cons.mp member with same | later
    · rw [same] at concerned
      exact .inl concerned
    · exact .inr ⟨found, later, concerned⟩
  · rintro (concerned | ⟨found, later, concerned⟩)
    · exact ⟨marker, List.mem_cons_self, concerned⟩
    · exact ⟨found, List.mem_cons_of_mem marker later, concerned⟩

/-- A marker under a condition. -/
theorem marked_ite (condition : Prop) [Decidable condition] (markers : List PermissionDiagnostic) :
    Marked affected (if condition then markers else []) ↔
      condition ∧ Marked affected markers := by
  by_cases holds : condition <;> simp [holds]

/-- A marker for the token, under a condition. -/
theorem marked_token (marker : PermissionDiagnostic) (condition : Prop) [Decidable condition]
    (token : marker.uncertainLayer = some .token) :
    Marked affected (if condition then [marker] else []) ↔ condition ∧ affected .token := by
  rw [marked_ite, marked_cons, token]
  simp

/-- A marker of an exact result, whatever its condition. -/
theorem not_marked_exact (marker : PermissionDiagnostic) (condition : Prop) [Decidable condition]
    (exact : marker.uncertainLayer = none) :
    ¬Marked affected (if condition then [marker] else []) := by
  rw [marked_ite, marked_cons, exact]
  simp

/-- Markers built from texts, all of which concern the token. -/
theorem marked_map (build : String → PermissionDiagnostic)
    (token : ∀ text, (build text).uncertainLayer = some .token) (texts : List String) :
    Marked affected (texts.map build) ↔ texts ≠ [] ∧ affected .token := by
  cases texts with
  | nil => simp
  | cons text texts =>
      rw [List.map_cons, marked_cons, token]
      constructor
      · rintro (⟨layer, same, concerned⟩ | ⟨marker, member, layer, known, concerned⟩)
        · exact ⟨List.cons_ne_nil _ _, Option.some.inj same ▸ concerned⟩
        · rcases List.mem_map.mp member with ⟨found, _, built⟩
          rw [← built, token] at known
          exact ⟨List.cons_ne_nil _ _, Option.some.inj known ▸ concerned⟩
      · rintro ⟨_, concerned⟩
        exact .inl ⟨.token, rfl, concerned⟩

theorem marked_reason (build : String → PermissionDiagnostic)
    (token : ∀ text, (build text).uncertainLayer = some .token) (reason : Option String) :
    Marked affected (reason.toList.map build) ↔ reason ≠ none ∧ affected .token := by
  rw [marked_map affected build token]
  cases reason <;> simp

/-- Of the markers of historical SIDs only the one for unread values concerns
the token. -/
theorem marked_sidHistory (identity : Identity) :
    Marked affected identity.sidHistoryDiagnostics ↔
      HistoryUnread identity ∧ affected .token := by
  have evaluated := not_marked_exact affected
    (.sidHistoryEvaluated identity.sidHistory.length) (identity.sidHistory.length > 0) rfl
  have unread := marked_token affected
    (.sidHistoryPresent (identity.sidHistoryCount - identity.sidHistory.length))
    (identity.sidHistoryCount - identity.sidHistory.length > 0) rfl
  rw [Identity.sidHistoryDiagnostics, marked_append, or_iff_right evaluated, unread,
    HistoryUnread]
  exact and_congr_left' Nat.sub_pos_iff_lt

theorem groupHistoryUnread_iff (memberships : List GroupMembership) :
    GroupHistoryUnread memberships ↔
      0 < (memberships.foldl GroupSidHistoryTotals.add {}).unevaluated := by
  have totals := (foldl_totals memberships {}).2.2
  rw [Nat.zero_add] at totals
  rw [totals, sum_pos_iff, GroupHistoryUnread]
  exact exists_congr (fun _ => and_congr_right' Nat.sub_pos_iff_lt.symm)

theorem marked_groupSidHistory (memberships : List GroupMembership) :
    Marked affected (groupSidHistoryDiagnostics memberships) ↔
      GroupHistoryUnread memberships ∧ affected .token := by
  rw [groupSidHistoryDiagnostics, marked_append, groupHistoryUnread_iff]
  have evaluated : ∀ groups count, ¬Marked affected
      (if count > 0 then [.groupSidHistoryEvaluated groups count] else []) :=
    fun groups count => not_marked_exact affected _ (count > 0) rfl
  have unread : ∀ count, Marked affected
      (if count > 0 then [.groupSidHistoryPresent count] else []) ↔ 0 < count ∧ affected .token :=
    fun count => marked_token affected _ (count > 0) rfl
  rw [or_iff_right (evaluated _ _), unread]

/-- The markers of the scope say only that an identity is outside the base. -/
theorem marked_pushDiagnostics (scope : IdentityScopeStatus) (disabledStatus : DisabledStatus)
    (disabled : Bool) :
    Marked affected (pushDiagnostics scope disabledStatus disabled) ↔
      scope = .outsideConfiguredLdapBase ∧ affected .token := by
  have state : ¬Marked affected (if disabledStatus = .unknown then [.identityDisabledStatusUnknown]
      else if disabled then [.identityDisabled] else []) := by
    split
    · exact not_marked_exact affected _ True rfl
    · exact not_marked_exact affected _ _ rfl
  rw [pushDiagnostics, marked_append, marked_token affected _ _ rfl, or_iff_left state]

/-- An incompleteness trigger is a marker for any part of the result. -/
theorem trigger_iff_marked (markers : List PermissionDiagnostic) :
    (∃ marker ∈ markers, marker.isIncompletenessTrigger = true) ↔
      Marked (fun _ => True) markers := by
  simp only [Marked, PermissionDiagnostic.isIncompletenessTrigger, Option.isSome_iff_exists,
    and_true]

end Marked

namespace PrincipalResolution

/-- The outcomes that say that the token may be incomplete. -/
def Incomplete (resolution : PrincipalResolution) : Prop :=
  resolution.scopeStatus = .outsideConfiguredLdapBase ∨
  resolution.groupResolutionStatus = .samFlat ∨
  resolution.lookupFailureReason ≠ none ∨
  resolution.groupFailureReason ≠ none ∨
  resolution.groupResolutionGaps ≠ [] ∨
  resolution.unresolvableReason ≠ none ∨
  resolution.resolvedViaFsp = true ∨
  resolution.resolvedViaGlobalCatalog = true ∨
  HistoryUnread resolution.identity ∨
  GroupHistoryUnread resolution.memberships

section Parts

variable (affected : UncertainLayer → Prop) (flags : ResolutionProvenance) (identity : Identity)

theorem marked_failureDiagnostics :
    Marked affected (failureDiagnostics flags identity) ↔
      (flags.identityNotInConfiguredLdapBase = true ∨
        flags.groupResolutionViaSamFallback = true ∨
        flags.identityLookupFailureReason ≠ none ∨
        flags.groupResolutionFailureReason ≠ none) ∧ affected .token := by
  have disabled : ¬Marked affected
      (if flags.identityDisabledStatusUnknown then [.identityDisabledStatusUnknown]
        else if identity.disabled then [.identityDisabled] else []) := by
    split
    · exact not_marked_exact affected _ True rfl
    · exact not_marked_exact affected _ _ rfl
  rw [failureDiagnostics, marked_append, marked_append, marked_append, marked_append,
    or_iff_right disabled, marked_token affected _ _ rfl, marked_token affected _ _ rfl,
    marked_reason affected _ (fun _ => rfl), marked_reason affected _ (fun _ => rfl)]
  simp only [← or_and_right, or_assoc]

theorem marked_gapDiagnostics :
    Marked affected (gapDiagnostics flags identity) ↔
      (flags.groupResolutionGaps ≠ [] ∨ flags.identityUnresolvableReason ≠ none) ∧
        affected .token := by
  have excluded : ¬Marked affected (if flags.excludedNonSecurityGroups.isEmpty then []
      else [.nonSecurityGroupsExcluded flags.excludedNonSecurityGroups]) := by
    split
    · exact marked_nil affected
    · exact not_marked_exact affected _ True rfl
  rw [gapDiagnostics, marked_append, marked_append, marked_append, or_iff_left excluded,
    marked_map affected _ (fun _ => rfl), marked_reason affected _ (fun _ => rfl),
    or_iff_left (not_marked_exact affected _ _ rfl), or_and_right]

theorem marked_originDiagnostics :
    Marked affected (originDiagnostics flags) ↔
      (flags.identityResolvedViaFsp = true ∨ flags.groupResolutionViaGlobalCatalog = true) ∧
        affected .token := by
  rw [originDiagnostics, marked_append, marked_token affected _ _ rfl,
    marked_token affected _ _ rfl, or_and_right]

theorem not_marked_boundaryDiagnostics : ¬Marked affected (boundaryDiagnostics flags) := by
  rw [boundaryDiagnostics, marked_append]
  rintro (effects | resolved)
  · exact not_marked_exact affected _ _ rfl effects
  · cases domain : flags.trustedDomain with
    | none =>
        rw [domain] at resolved
        exact marked_nil affected resolved
    | some provenance =>
        rw [domain, Option.toList_some, List.flatMap_singleton, trustedDomainDiagnostics,
          marked_cons] at resolved
        rcases resolved with ⟨layer, impossible, _⟩ | effects
        · cases impossible
        · exact not_marked_exact affected _ _ rfl effects

end Parts

/-- A marker of the membership view concerns the token, and one is there exactly
when the outcome is incomplete. -/
theorem marked_iff (affected : UncertainLayer → Prop) (resolution : PrincipalResolution) :
    Marked affected resolution.membershipDiagnostics ↔
      resolution.Incomplete ∧ affected .token := by
  rw [membershipDiagnostics]
  simp only [marked_append, marked_failureDiagnostics, marked_gapDiagnostics,
    marked_originDiagnostics, marked_sidHistory, marked_groupSidHistory,
    or_iff_left (not_marked_boundaryDiagnostics affected _)]
  simp only [← or_and_right, or_assoc, Incomplete, engineFlags, decide_eq_true_eq]

end PrincipalResolution
end AdResolver
end Stars
