import Stars.AdResolver.Trusts
import Stars.Collections.Fallible
import Stars.Core.Input

namespace Stars
namespace AdResolver

open Collections

/-!
# The directory resolver

One directory connection with the answers of its searches.  An answer is an
error, nothing or an entry, and a failing connection fails every operation.
The operations below are the ones the identity resolution consumes.
-/

structure LdapConfig where
  baseDn : String
  globalCatalog : Bool
  timeoutSecs : Nat := 10
deriving DecidableEq

/-- A connection as it answers.  The group search returns its memberships with
the reasons why some may be missing. -/
structure LdapResolver where
  config : LdapConfig
  connect : Except CoreError Unit
  searchBySid : Sid → Except CoreError (Option RawEntry)
  searchByUpn : String → Except CoreError (Option RawEntry)
  searchAllBySamaccount : String → Except CoreError (List RawEntry)
  /-- Domain SIDs of the domain heads under the base. -/
  searchForestDomainSids : Except CoreError (List String)
  searchDomainSid : String → Except CoreError (Option String)
  searchDomainTrusts : String → Except CoreError (List HeldTrust)
  searchRootDomainNc : Except CoreError (Option String)
  searchTokenGroupsGlobalAndUniversal : String → Except CoreError (Option (List String))
  resolveGroupMemberships : Sid → Except CoreError GroupMembershipResolution

/-- The domain of a distinguished name: its `DC=` components. -/
def dnToDomain (dn : String) : Option String :=
  let parts := (Text.split ',' dn.toList).filterMap (fun part => Text.stripPrefix "DC=" (Text.trim part))
  if parts.isEmpty then none else some (Text.join "." (parts.map String.ofList))

def classifyIdentity (objectClasses : List String) : IdentityKind :=
  if objectClasses.contains "computer" then .computer
  else if objectClasses.contains "group" then .group
  else if objectClasses.contains "user" then .user
  else if objectClasses.contains "foreignSecurityPrincipal" then .foreignSecurityPrincipal
  else .unknown

/-- An identity from its entry.  An account is disabled by the bit 0x2 of
`userAccountControl`. -/
def parseIdentityFromEntry (entry : RawEntry) (sid : Sid) : Identity :=
  let history := parseSidHistory entry
  { sid := sid
    name := entryDisplayName entry
    domain := dnToDomain entry.dn
    kind := classifyIdentity (entry.allAttr "objectClass")
    disabled := ((entry.firstAttr "userAccountControl").bind
      (fun text => Text.parseUnsigned (2 ^ 32) text.toList)).any (fun control => control.testBit 1)
    userPrincipalName := (entry.firstAttr "userPrincipalName").filter (fun text => text ≠ "")
    sidHistoryCount := history.1
    sidHistory := history.2 }

/-- The placeholder of a SID without an object. -/
def bareIdentity (sid : Sid) (kind : IdentityKind) : Identity where
  sid := sid
  kind := kind

namespace LdapResolver

def resolveIdentity (ldap : LdapResolver) (sid : Sid) : Except CoreError Identity := do
  ldap.connect
  match ← ldap.searchBySid sid with
  | some entry => pure (parseIdentityFromEntry entry sid)
  | none => pure (bareIdentity sid .orphaned)

def lookupByUpnRaw (ldap : LdapResolver) (upn : String) :
    Except CoreError (Option (Sid × Identity)) := do
  ldap.connect
  match ← ldap.searchByUpn upn with
  | none => pure none
  | some entry =>
      match extractSidFromEntry entry with
      | some sid => pure (some (sid, parseIdentityFromEntry entry sid))
      | none => .error (.sidResolution s!"No objectSid for UPN: {upn}")

/-- All matches; an entry without a readable SID is skipped. -/
def lookupAllBySamRaw (ldap : LdapResolver) (sam : String) :
    Except CoreError (List (Sid × Identity)) := do
  ldap.connect
  let entries ← ldap.searchAllBySamaccount sam
  pure (entries.filterMap (fun entry =>
    (extractSidFromEntry entry).map (fun sid => (sid, parseIdentityFromEntry entry sid))))

def hasObjectForSid (ldap : LdapResolver) (sid : Sid) : Except CoreError Bool := do
  ldap.connect
  let found ← ldap.searchBySid sid
  pure found.isSome

/-- The groups the domain of an account hands to other domains. -/
def tokenGroupsGlobalAndUniversal (ldap : LdapResolver) (sid : Sid) :
    Except CoreError (Option (List String)) := do
  ldap.connect
  match ← ldap.searchBySid sid with
  | some entry => ldap.searchTokenGroupsGlobalAndUniversal entry.dn
  | none => pure none

/-- The domain SID of the configured base. -/
def configuredDomainSid (ldap : LdapResolver) : Except CoreError (Option String) :=
  match domainRootDn ldap.config.baseDn with
  | none => .ok none
  | some root => do
      ldap.connect
      let domainSid ← ldap.searchDomainSid root
      pure (domainSid.filter isDomainSid)

/-- A domain with several in its forest holds the forest trusts only when it is
the root. -/
def readForestRoot (ldap : LdapResolver) (root : String) (trusts : List HeldTrust) : Option Bool :=
  if trusts.any (fun held => held.trust.attributes.withinForest) then
    match ldap.searchRootDomainNc with
    | .ok (some context) => some (dnEq context root)
    | .ok none | .error _ => none
  else some true

/-- A forest-wide bind: the identity search covered every domain of the forest
under the base. -/
def classifyInForest (ldap : LdapResolver) (sidDomain : String) :
    Except CoreError SidDomainRelation := do
  let forest ← ldap.searchForestDomainSids
  if (forest.filter isDomainSid).any (fun domain => Text.eqIgnoreAsciiCase domain sidDomain) then
    pure .configuredDomainWholeBase
  else
    let trusts ← ldap.searchDomainTrusts ldap.config.baseDn
    pure (classifyAgainstTrusts sidDomain trusts .forest)

/-- A domain bind whose base names a domain. -/
def classifyInDomain (ldap : LdapResolver) (root sidDomain : String) :
    Except CoreError SidDomainRelation := do
  let domainSid ← ldap.searchDomainSid root
  match domainSid.filter isDomainSid with
  | none => pure (.unknown s!"the domain SID of '{root}' could not be read")
  | some domain =>
      if Text.eqIgnoreAsciiCase domain sidDomain then
        if dnEq ldap.config.baseDn root then pure .configuredDomainWholeBase
        else pure (.configuredDomainPartialBase ldap.config.baseDn)
      else
        let trusts ← ldap.searchDomainTrusts root
        pure (classifyAgainstTrusts sidDomain trusts (.domain (ldap.readForestRoot root trusts)))

def classifyWith (ldap : LdapResolver) (sidDomain : String) : Except CoreError SidDomainRelation :=
  if ldap.config.globalCatalog then ldap.classifyInForest sidDomain
  else
    match domainRootDn ldap.config.baseDn with
    | none =>
        let base := ldap.config.baseDn
        .ok (.unknown s!"the configured base '{base}' names no domain (no DC= components)")
    | some root => ldap.classifyInDomain root sidDomain

/-- Every read problem is unknown, so that a miss alone proves nothing. -/
def classifyUnresolvedSid (ldap : LdapResolver) (sid : Sid) : SidDomainRelation :=
  match accountDomainOf sid with
  | none =>
      let value := sid.value
      .unknown s!"{value} is not a domain account SID"
  | some sidDomain =>
      match ldap.connect >>= fun _ => ldap.classifyWith sidDomain with
      | .ok relation => relation
      | .error reason =>
          let shown := reason.display
          .unknown s!"the directory context could not be read: {shown}"

/-! ## When a miss proves an account gone -/

/-- The domain that the search base covers completely: on a domain bind the
configured one with the whole of it as the base, on a forest-wide bind each
whose head is under the base. -/
def CoversDomain (ldap : LdapResolver) (sidDomain : String) : Prop :=
  if ldap.config.globalCatalog then
    ∃ forest domain, ldap.searchForestDomainSids = .ok forest ∧ domain ∈ forest ∧
      isDomainSid domain ∧ Text.eqIgnoreAsciiCase domain sidDomain
  else
    ∃ root domain, domainRootDn ldap.config.baseDn = some root ∧
      dnEq ldap.config.baseDn root ∧ ldap.searchDomainSid root = .ok (some domain) ∧
      isDomainSid domain ∧ Text.eqIgnoreAsciiCase domain sidDomain

theorem classifyInForest_wholeBase {ldap : LdapResolver} {sidDomain : String}
    (proven : ldap.classifyInForest sidDomain = .ok .configuredDomainWholeBase) :
    ∃ forest domain, ldap.searchForestDomainSids = .ok forest ∧ domain ∈ forest ∧
      isDomainSid domain ∧ Text.eqIgnoreAsciiCase domain sidDomain := by
  rcases bind_eq_ok_iff.mp proven with ⟨forest, answered, decided⟩
  split at decided
  · next listed =>
      rcases List.any_eq_true.mp listed with ⟨domain, member, same⟩
      rcases List.mem_filter.mp member with ⟨inForest, shaped⟩
      exact ⟨forest, domain, answered, inForest, shaped, same⟩
  · rcases bind_eq_ok_iff.mp decided with ⟨trusts, _, classified⟩
    exact absurd (Except.ok.inj classified) (classifyAgainstTrusts_unresolvable sidDomain trusts _)

theorem classifyInDomain_wholeBase {ldap : LdapResolver} {root sidDomain : String}
    (proven : ldap.classifyInDomain root sidDomain = .ok .configuredDomainWholeBase) :
    dnEq ldap.config.baseDn root ∧ ∃ domain, ldap.searchDomainSid root = .ok (some domain) ∧
      isDomainSid domain ∧ Text.eqIgnoreAsciiCase domain sidDomain := by
  rcases bind_eq_ok_iff.mp proven with ⟨domainSid, answered, decided⟩
  split at decided
  · cases decided
  · next domain read =>
      rcases Option.filter_eq_some_iff.mp read with ⟨known, shaped⟩
      split at decided
      · next same =>
          split at decided
          · next whole => exact ⟨whole, domain, by rw [answered, known], shaped, same⟩
          · cases decided
      · rcases bind_eq_ok_iff.mp decided with ⟨trusts, _, classified⟩
        exact absurd (Except.ok.inj classified)
          (classifyAgainstTrusts_unresolvable sidDomain trusts _)

/-- A SID counts as gone only when it is the SID of a domain account and the
search base covers its domain. -/
theorem covers_of_wholeBase {ldap : LdapResolver} {sid : Sid}
    (proven : ldap.classifyUnresolvedSid sid = .configuredDomainWholeBase) :
    ∃ sidDomain, accountDomainOf sid = some sidDomain ∧ ldap.CoversDomain sidDomain := by
  rw [classifyUnresolvedSid] at proven
  split at proven
  · cases proven
  · next sidDomain shaped =>
      refine ⟨sidDomain, shaped, ?_⟩
      split at proven
      · next relation classified =>
          rw [proven] at classified
          rcases bind_eq_ok_iff.mp classified with ⟨_, _, decided⟩
          rw [classifyWith] at decided
          split at decided
          · next forestWide =>
              rw [CoversDomain, if_pos forestWide]
              exact classifyInForest_wholeBase decided
          · next single =>
              rw [CoversDomain, if_neg single]
              split at decided
              · cases decided
              · next root named =>
                  rcases classifyInDomain_wholeBase decided with ⟨whole, domain, read⟩
                  exact ⟨root, domain, named, whole, read⟩
      · cases proven

end LdapResolver
end AdResolver
end Stars
