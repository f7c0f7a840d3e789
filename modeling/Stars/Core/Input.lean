import Stars.Core.Diagnostics

namespace Stars

/-!
# Input of an evaluation

Everything one evaluation reads: the resolved identity with its groups, the
object, the state of the share side, the facts of the target server and the
provenance of the resolution.  The defaults are those of a caller that knows
nothing beyond the identity and the object.
-/

/-- How an account of a trusted domain was resolved. -/
structure TrustedDomainProvenance where
  domain : String := ""
  homeOnlyGroups : List String := []
  sidFiltered : List String := []
  selectiveAuthentication : Bool := false
deriving DecidableEq

/-- Provenance and incompleteness flags of identity and group resolution. -/
structure ResolutionProvenance where
  groupResolutionViaSamFallback : Bool := false
  identityNotInConfiguredLdapBase : Bool := false
  identityDisabledStatusUnknown : Bool := false
  identityLookupFailureReason : Option String := none
  groupResolutionFailureReason : Option String := none
  identityResolvedViaFsp : Bool := false
  groupResolutionViaGlobalCatalog : Bool := false
  identityUnresolvableReason : Option String := none
  groupResolutionGaps : List String := []
  excludedNonSecurityGroups : List String := []
  trustedDomain : Option TrustedDomainProvenance := none
deriving DecidableEq

/-- Outcome of the Selective Authentication check on the target server. -/
inductive SelectiveAuthenticationCheck where
  | allowed (server via : String)
  | denied (server : String)
  | unknown (server reason : String)
deriving DecidableEq

/-- Memberships of a principal with every reason the set may be incomplete.
`tokenSetGaps` are the gaps that only concern which groups the token holds. -/
structure GroupMembershipResolution where
  memberships : List GroupMembership := []
  gaps : List String := []
  excludedGroups : List String := []
  tokenSetGaps : List String := []
deriving DecidableEq

structure PermissionEvaluationInput where
  identity : Identity
  groupMemberships : List GroupMembership := []
  fileSystemObject : FileSystemObject
  shareStatus : ShareMaskStatus := .notApplicable
  localGroupSids : List Sid := []
  localGroupStatus : LocalGroupEvalStatus := .notQueried
  /-- Local groups the account is in only through a logon-dependent SID. -/
  logonDependentGroupSids : List Sid := []
  /-- Groups User Account Control may filter out of the token. -/
  uacFilteredGroupSids : List Sid := []
  remoteUac : RemoteUacFiltering := .unknown
  /-- `EveryoneIncludesAnonymous` as read from the target. -/
  anonymousEveryone : Option Bool := none
  selectiveAuthentication : Option SelectiveAuthenticationCheck := none
  dfs : Option DfsEvaluation := none
  accessContext : AccessContext := .unspecified
  unsupportedShareAceCount : Nat := 0
  /-- Display names by SID. -/
  sidNames : List (Sid × String) := []
  resolution : ResolutionProvenance := {}
deriving DecidableEq

end Stars
