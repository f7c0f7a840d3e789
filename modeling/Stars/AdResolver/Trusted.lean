import Stars.AdResolver.Resolver
import Stars.AdResolver.Principal

namespace Stars
namespace AdResolver

open Collections

/-!
# Accounts of a trusted domain

The account is resolved on a domain controller of its own domain.  Its token for
the configured domain is built in three steps: the groups the trusted domain
hands to other domains, the SID filtering of the trust, and the groups of the
resource domain that contain one of the remaining SIDs as a Foreign Security
Principal.
-/

/-- `name (SID)` or the bare SID. -/
def display (sid : Sid) (name : Option String) : String :=
  let value := sid.value
  match name with
  | some name => if name = "" then value else s!"{name} ({value})"
  | none => value

/-- SIDs are compared without regard to case. -/
def sidKey (sid : Sid) : String := Text.toAsciiUppercase sid.value

/-- The trust a SID belongs to, as the configured domain's trust object
describes it. -/
structure TrustContext where
  partner : String
  domainSid : String
  attributes : TrustAttributes
  forest : Option TrustedForest
deriving DecidableEq

/-- Memberships that cross the trust, the names of those that apply only inside
the home domain, and the crossing SIDs without a membership. -/
structure CrossTrustSelection where
  kept : List GroupMembership
  homeOnly : List String
  withoutChain : List Sid
deriving DecidableEq

def selectCrossDomainMemberships (memberships : List GroupMembership)
    (globalAndUniversal : List String) : CrossTrustSelection :=
  let crossing := globalAndUniversal.map Text.toAsciiUppercase
  let crosses := fun membership : GroupMembership => crossing.contains (sidKey membership.groupSid)
  let kept := memberships.filter crosses
  let seenKept := kept.map (fun membership => sidKey membership.groupSid)
  { kept := kept
    homeOnly := (distinctBy (fun membership : GroupMembership => sidKey membership.groupSid) []
      (memberships.filter (fun membership => !crosses membership))).map
        (fun membership => display membership.groupSid membership.groupName)
    withoutChain := (globalAndUniversal.filter (fun sid =>
      !seenKept.contains (Text.toAsciiUppercase sid))).map Sid.mk }

/-- SIDs the quarantine removes and SIDs whose fate is not modelled. -/
structure SidFilterOutcome where
  filtered : List String := []
  notModelled : List String := []
deriving DecidableEq

/-- The identity and the memberships after the filtering, with its outcome. -/
structure FilteredToken where
  identity : Identity
  memberships : List GroupMembership
  outcome : SidFilterOutcome
deriving DecidableEq

def ofDomain (sid : Sid) (domainSid : String) : Bool :=
  (accountDomainOf sid).any (fun domain => Text.eqIgnoreAsciiCase domain domainSid)

/-- SIDs of the account's own domain pass, on a forest trust also those of the
enabled domains of the trusted forest. -/
def passesFilter (domainSid : String) (attributes : TrustAttributes)
    (forest : Option TrustedForest) (sid : Sid) : Bool :=
  ofDomain sid domainSid ||
    (forest.filter (fun _ => attributes.forestTransitive)).any
      (fun forest => (accountDomainOf sid).any forest.contains)

/-- A group keeps the historical SIDs that pass. -/
def filterGroupHistory (passes : Sid → Bool) (membership : GroupMembership) : GroupMembership :=
  let kept := membership.groupSidHistory.filter passes
  { membership with
    groupSidHistory := kept
    groupSidHistoryCount :=
      membership.groupSidHistoryCount - (membership.groupSidHistory.length - kept.length) }

/-- Removed historical values leave both the list and the count. -/
def filterIdentityHistory (passes : Sid → Bool) (identity : Identity) : Identity :=
  let kept := identity.sidHistory.filter passes
  { identity with
    sidHistory := kept
    sidHistoryCount := identity.sidHistoryCount - (identity.sidHistory.length - kept.length) }

/-- The removed SIDs: historical SIDs of the account, groups, and historical
SIDs of the groups that stay. -/
def removedSids (passes : Sid → Bool) (identity : Identity) (memberships : List GroupMembership) :
    List String :=
  (identity.sidHistory.filter (fun sid => !passes sid)).map
      (fun sid => display sid (some "sIDHistory of the account")) ++
    (memberships.filter (fun membership => !passes membership.groupSid)).map
      (fun membership => display membership.groupSid membership.groupName) ++
    (memberships.filter (fun membership => passes membership.groupSid)).flatMap (fun membership =>
      let owner := membership.groupName.getD membership.groupSid.value
      (membership.groupSidHistory.filter (fun sid => !passes sid)).map
        (fun sid => display sid (some s!"sIDHistory of {owner}")))

/-- Only the quarantine of a trust that is no forest trust removes SIDs for
certain. -/
def applySidFiltering (identity : Identity) (memberships : List GroupMembership)
    (domainSid : String) (attributes : TrustAttributes) (forest : Option TrustedForest) :
    FilteredToken :=
  let quarantined := attributes.sidFilteringEnabled && !attributes.forestTransitive
  let passes := passesFilter domainSid attributes forest
  let removed := removedSids passes identity memberships
  { identity := filterIdentityHistory passes identity
    memberships := (memberships.filter (fun membership => passes membership.groupSid)).map
      (filterGroupHistory passes)
    outcome := if quarantined then { filtered := removed } else { notModelled := removed } }

/-- Reader-facing gap for a SID whose fate is not modelled. -/
def notModelledGap (shown : String) (trust : TrustContext) : String :=
  let partner := trust.partner
  match trust.forest.filter (fun _ => trust.attributes.forestTransitive) with
  | some forest =>
      let root := forest.trustPartner
      match forest.infoError with
      | none => s!"{shown} belongs to no domain of the trusted forest {root} whose SID its forest " ++
          "trust information lists as enabled; whether the trust's SID filtering lets it " ++
          "through is not modelled, so it was left out"
      | some reason => s!"{shown} belongs to another domain than {partner}; the domains of the " ++
          s!"trusted forest {root} are not known ({reason}), so whether the trust's SID filtering " ++
          "lets it through is not known — it was left out"
  | none => s!"{shown} belongs to neither {partner} nor the configured domain; whether the " ++
      "trust's SID filtering lets it through is not modelled, so it was left out"

/-- As many names as there are nodes. -/
def resizeNames (names : List (Option String)) (length : Nat) : List (Option String) :=
  (names ++ List.replicate length none).take length

/-- The resource chain continues the home chain at its last node. -/
def joinPaths (home resource : MembershipPath) : MembershipPath where
  nodes := home.nodes ++ resource.nodes.drop 1
  names := resizeNames home.names home.nodes.length ++
    (resizeNames resource.names resource.nodes.length).drop 1
  source := .domainGroup
  complete := home.complete && resource.complete
  alsoVia := resource.alsoVia

/-- A resource membership seen from the account.  Without a home path the
resource chain starts at the account itself. -/
def chainThrough (account : Sid) (homePath : Option GroupMembership) (resource : GroupMembership) :
    GroupMembership :=
  match homePath with
  | none => { resource with memberSid := account }
  | some home =>
      { resource with
        memberSid := account
        direct := false
        path := match home.path, resource.path with
          | some homeChain, some resourceChain => some (joinPaths homeChain resourceChain)
          | _, _ => none }

/-! ## Resolving the account -/

/-- The connection to the trusted domain and the one to the resource domain. -/
structure LdapTrustedDomainBackend where
  trusted : LdapResolver
  resource : LdapResolver

/-- What the trusted domain answers about the account. -/
structure HomeAnswers where
  identity : Identity
  home : GroupMembershipResolution
  globalAndUniversal : List String
deriving DecidableEq

/-- A group that crosses the trust although no chain to it is known. -/
def membershipWithoutChain (trusted : LdapResolver) (account groupSid : Sid) : GroupMembership where
  memberSid := account
  groupSid := groupSid
  direct := false
  groupName := match trusted.resolveIdentity groupSid with
    | .ok identity => identity.name
    | .error _ => none

/-- The SIDs looked up in the resource domain: the account and every kept group
once, each with the membership that leads to it. -/
def crossingSids (account : Sid) (memberships : List GroupMembership) :
    List (Sid × Option GroupMembership) :=
  (account, none) ::
    (distinctBy (fun membership : GroupMembership => sidKey membership.groupSid) []
      memberships).map (fun membership => (membership.groupSid, some membership))

/-- The resource domain's answer for one SID; without an object there is no
group. -/
def resourceAnswer (resource : LdapResolver) (via : Sid) :
    Except CoreError GroupMembershipResolution := do
  if ← resource.hasObjectForSid via then resource.resolveGroupMemberships via
  else pure {}

/-- An answer together with the home membership that leads to its SID. -/
structure ResourceLookup where
  homePath : Option GroupMembership
  answer : GroupMembershipResolution
deriving DecidableEq

def resourceLookups (resource : LdapResolver) (crossing : List (Sid × Option GroupMembership)) :
    Except CoreError (List ResourceLookup) :=
  crossing.mapM (fun entry => do
    let answer ← resourceAnswer resource entry.1
    pure { homePath := entry.2, answer := answer })

/-- The well-known SID a network logon across the trust adds. -/
def organizationSid (attributes : TrustAttributes) : Sid :=
  if attributes.selectiveAuthentication then ⟨"S-1-5-1000"⟩ else ⟨"S-1-5-15"⟩

def organizationName (attributes : TrustAttributes) : String :=
  if attributes.selectiveAuthentication then "NT AUTHORITY\\Other Organization"
  else "NT AUTHORITY\\This Organization"

def organizationMembership (account : Sid) (accountName : Option String)
    (attributes : TrustAttributes) : GroupMembership where
  memberSid := account
  groupSid := organizationSid attributes
  direct := true
  groupName := some (organizationName attributes)
  path := some
    { nodes := [account, organizationSid attributes]
      names := [accountName, some (organizationName attributes)]
      source := .trustedDomainLogon
      complete := true
      alsoVia := [] }

/-- The gaps that do not only concern which groups the token holds: that set
comes from the domain controller itself. -/
def homeGaps (home : GroupMembershipResolution) : List String :=
  home.gaps.filter (fun gap => !home.tokenSetGaps.contains gap)

namespace LdapTrustedDomainBackend

/-- Domain SID of the trusted domain the connection serves. -/
def servedDomainSid (backend : LdapTrustedDomainBackend) : Except String String :=
  match backend.trusted.configuredDomainSid with
  | .ok (some domainSid) => .ok domainSid
  | .ok none => .error "the directory returned no domain SID for the configured base"
  | .error reason => .error reason.display

/-- The account in its own domain, its groups there and the set its domain
controller hands to other domains. -/
def homeAnswers (backend : LdapTrustedDomainBackend) (sid : Sid) (trust : TrustContext) :
    Except CoreError HomeAnswers := do
  let identity ← backend.trusted.resolveIdentity sid
  if identity.kind = .orphaned then
    let value := sid.value
    let partner := trust.partner
    .error (.validation s!"no account with SID {value} exists in {partner}")
  else
    let home ← backend.trusted.resolveGroupMemberships sid
    match ← backend.trusted.tokenGroupsGlobalAndUniversal sid with
    | none =>
        let value := sid.value
        let partner := trust.partner
        .error (.ldapQuery (s!"the domain controller of {partner} did not return " ++
          s!"tokenGroupsGlobalAndUniversal for {value} — which of its groups cross the trust " ++
          "is unknown"))
    | some globalAndUniversal =>
        pure
          { identity := { identity with domain := identity.domain.or (some trust.partner) }
            home := home
            globalAndUniversal := globalAndUniversal }

/-- The groups of the account that cross the trust. -/
def crossingMemberships (backend : LdapTrustedDomainBackend) (sid : Sid) (answers : HomeAnswers) :
    List GroupMembership :=
  let selection :=
    selectCrossDomainMemberships answers.home.memberships answers.globalAndUniversal
  selection.kept ++ selection.withoutChain.map (membershipWithoutChain backend.trusted sid)

/-- The account's token after the SID filtering of the trust. -/
def homeToken (backend : LdapTrustedDomainBackend) (sid : Sid) (trust : TrustContext)
    (answers : HomeAnswers) : FilteredToken :=
  applySidFiltering answers.identity (backend.crossingMemberships sid answers) trust.domainSid
    trust.attributes trust.forest

/-- The memberships of the resource domain, seen from the account. -/
def resourceMemberships (sid : Sid) (lookups : List ResourceLookup) : List GroupMembership :=
  lookups.flatMap (fun lookup => lookup.answer.memberships.map (chainThrough sid lookup.homePath))

def accountResolution (sid : Sid) (trust : TrustContext) (answers : HomeAnswers)
    (token : FilteredToken) (lookups : List ResourceLookup) : PrincipalResolution :=
  let scope := IdentityScopeStatus.resolvedInTrustedDomain trust.partner
  let disabledStatus := disabledFromLdap token.identity
  { sid := sid
    identity := token.identity
    memberships := token.memberships ++ resourceMemberships sid lookups ++
      [organizationMembership sid token.identity.name trust.attributes]
    scopeStatus := scope
    groupResolutionStatus := .ldapRecursive
    disabledStatus := disabledStatus
    diagnostics := pushDiagnostics scope disabledStatus token.identity.disabled
    resolvedViaFsp := false
    resolvedViaGlobalCatalog := false
    groupResolutionGaps := homeGaps answers.home ++
      token.outcome.notModelled.map (fun shown => notModelledGap shown trust) ++
      lookups.flatMap (fun lookup => lookup.answer.gaps)
    excludedGroups := answers.home.excludedGroups ++
      lookups.flatMap (fun lookup => lookup.answer.excludedGroups)
    trustedDomain := some
      { domain := trust.partner
        homeOnlyGroups := (selectCrossDomainMemberships answers.home.memberships
          answers.globalAndUniversal).homeOnly
        sidFiltered := token.outcome.filtered
        selectiveAuthentication := trust.attributes.selectiveAuthentication } }

def resolveAccount (backend : LdapTrustedDomainBackend) (sid : Sid) (trust : TrustContext) :
    Except CoreError PrincipalResolution := do
  let answers ← backend.homeAnswers sid trust
  let token := backend.homeToken sid trust answers
  let lookups ← resourceLookups backend.resource (crossingSids sid token.memberships)
  pure (accountResolution sid trust answers token lookups)

end LdapTrustedDomainBackend
end AdResolver
end Stars
