import Stars.AdResolver.Trusted

namespace Stars

/-- An unsigned decimal number that fits into 64 bits. -/
def AdResolver.parsesAsU64 (text : List Char) : Bool :=
  (Text.parseUnsigned (2 ^ 64) text).isSome

/-- The canonical syntax check: `S-1-` and then at least two numbers. -/
def Sid.tryNew (input : String) : Except CoreError Sid :=
  let trimmed := String.ofList (Text.trim input.toList)
  let parts := Text.split '-' trimmed.toList
  if trimmed = "" then .error (.validation "SID must not be empty")
  else if !Text.startsWith "S-1-" trimmed then
    .error (.validation s!"Invalid SID format (must start with 'S-1-'): {trimmed}")
  else if parts.length < 4 then
    .error (.validation s!"SID has too few components (minimum S-1-X-Y): {trimmed}")
  else
    match (parts.drop 1).find? (fun part => !AdResolver.parsesAsU64 part) with
    | some part =>
        let shown := String.ofList part
        .error (.validation s!"SID contains non-numeric component '{shown}': {trimmed}")
    | none => .ok ⟨trimmed⟩

namespace AdResolver

open Collections

/-!
# The resolution pipeline

One pipeline for all forms of input.  A name is looked up in the directory or by
the local authority; a SID is looked up in the directory, then by the local
authority, and what remains is classified by its domain.

`resolve_silent_only_if_known` is what an outcome without a marker is worth.  A
SID counts as orphaned only when the directory found nothing and the search base
covers its domain, and groups can be missing only behind a marker.
-/

inductive PrincipalInput where
  | auto (raw : String)
  | domainQualified (name : String)
  | upn (upn : String)
  | samAccount (sam : String)
  | sid (sid : Sid)
  | displayName (name : String)
deriving DecidableEq

/-- Classifies `auto` by syntax; any other form is kept. -/
def PrincipalInput.classify : PrincipalInput → Except CoreError PrincipalInput
  | .auto raw =>
      let trimmed := String.ofList (Text.trim raw.toList)
      if trimmed = "" then
        .error (.validation ("Empty identity input — provide DOMAIN\\user, user@domain.tld, " ++
          "sAMAccountName or SID"))
      else if Text.startsWith "S-1-" trimmed then (Sid.tryNew trimmed).map .sid
      else if trimmed.toList.contains '\\' then .ok (.domainQualified trimmed)
      else if trimmed.toList.contains '@' then .ok (.upn trimmed)
      else .ok (.samAccount trimmed)
  | other => .ok other

/-- Reduced account info of the local authority. -/
structure LsaAccountInfo where
  name : String
  domain : String
  kind : IdentityKind
deriving DecidableEq

/-- The local authority as it answers. -/
structure LsaBackend where
  lookupSidForName : String → Except CoreError Sid
  lookupAccountForSid : Sid → Except CoreError LsaAccountInfo

/-- The directory, the local authority and the optional connection to a trusted
domain. -/
structure PrincipalResolver where
  ldap : LdapResolver
  lsaBackend : Option LsaBackend := none
  trustedBackend : Option LdapTrustedDomainBackend := none

/-- An outcome of the recursive group resolution. -/
structure ResolvedGroups where
  memberships : List GroupMembership := []
  status : GroupResolutionStatus
  gaps : List String := []
  excluded : List String := []
deriving DecidableEq

/-- The directory's translation of a miss. -/
def LdapResolver.lookupIdentityBySid (ldap : LdapResolver) (sid : Sid) :
    Except CoreError (Option Identity) := do
  let identity ← ldap.resolveIdentity sid
  pure (if identity.kind = .orphaned then none else some identity)

def LdapResolver.resolveGroups (ldap : LdapResolver) (sid : Sid) : ResolvedGroups :=
  match ldap.resolveGroupMemberships sid with
  | .ok answer =>
      { memberships := answer.memberships
        status := .ldapRecursive
        gaps := answer.gaps
        excluded := answer.excludedGroups }
  | .error reason => { status := .failed reason.display }

/-- A text unless it is empty. -/
def nonEmpty (text : String) : Option String := if text = "" then none else some text

def missingLsa : CoreError :=
  .validation
    "Name-based identity input requires Windows LSA — not available on this platform"

namespace PrincipalResolver

/-- A SID that is proven gone. -/
def orphanedResolution (sid : Sid) : PrincipalResolution where
  sid := sid
  identity := bareIdentity sid .orphaned
  scopeStatus := .orphanedSid

/-- A SID nobody could resolve and that is not proven gone. -/
def unresolvableResolution (sid : Sid) (reason : String) : PrincipalResolution where
  sid := sid
  identity := bareIdentity sid .unknown
  scopeStatus := .unresolvable reason
  diagnostics := [.identityDisabledStatusUnknown]

def failedLookupResolution (sid : Sid) (reason : String) : PrincipalResolution where
  sid := sid
  identity := bareIdentity sid .unknown
  scopeStatus := .lookupFailed reason

/-- An account the directory holds. -/
def insideResolution (ldap : LdapResolver) (sid : Sid) (identity : Identity) :
    PrincipalResolution :=
  let groups := ldap.resolveGroups sid
  { sid := sid
    identity := identity
    memberships := groups.memberships
    scopeStatus := .insideConfiguredLdapBase
    groupResolutionStatus := groups.status
    disabledStatus := disabledFromLdap identity
    diagnostics := pushDiagnostics .insideConfiguredLdapBase (disabledFromLdap identity)
      identity.disabled
    resolvedViaGlobalCatalog := ldap.config.globalCatalog
    groupResolutionGaps := groups.gaps
    excludedGroups := groups.excluded }

/-- An account only the local authority knows. -/
def outsideResolution (sid : Sid) (account : LsaAccountInfo) : PrincipalResolution where
  sid := sid
  identity :=
    { sid := sid
      name := nonEmpty account.name
      domain := nonEmpty account.domain
      kind := account.kind }
  scopeStatus := .outsideConfiguredLdapBase
  diagnostics := pushDiagnostics .outsideConfiguredLdapBase .unknown false

/-- A Foreign Security Principal with the name and kind the local authority
gives. -/
def enrichedIdentity (lsaBackend : Option LsaBackend) (sid : Sid) (fspIdentity : Identity) :
    Identity :=
  match lsaBackend with
  | none => fspIdentity
  | some lsa =>
      match lsa.lookupAccountForSid sid with
      | .error _ => fspIdentity
      | .ok account =>
          { sid := sid
            name := (nonEmpty account.name).or fspIdentity.name
            domain := (nonEmpty account.domain).or fspIdentity.domain
            kind := account.kind
            sidHistoryCount := fspIdentity.sidHistoryCount
            sidHistory := fspIdentity.sidHistory }

/-- A hit on a Foreign Security Principal: the memberships in its own forest are
unknown. -/
def resolveFspHit (resolver : PrincipalResolver) (sid : Sid) (fspIdentity : Identity) :
    PrincipalResolution :=
  let groups := resolver.ldap.resolveGroups sid
  { sid := sid
    identity := enrichedIdentity resolver.lsaBackend sid fspIdentity
    memberships := groups.memberships
    scopeStatus := .insideConfiguredLdapBase
    groupResolutionStatus := groups.status
    disabledStatus := .unknown
    diagnostics := pushDiagnostics .insideConfiguredLdapBase .unknown false ++
      [.identityResolvedViaForeignSecurityPrincipal]
    resolvedViaFsp := true
    resolvedViaGlobalCatalog := resolver.ldap.config.globalCatalog
    groupResolutionGaps := groups.gaps
    excludedGroups := groups.excluded }

/-- Asks the connection to the trusted domain; a failure there is a reason, not
a guess. -/
def askTrustedDomain (backend : LdapTrustedDomainBackend) (sid : Sid) (trust : TrustContext) :
    PrincipalResolution :=
  match backend.resolveAccount sid trust with
  | .ok resolution => resolution
  | .error failure =>
      let value := sid.value
      let partner := trust.partner
      let reason := failure.display
      unresolvableResolution sid (s!"SID {value} belongs to the trusted domain {partner}; " ++
        s!"resolving it on the configured domain controller of {partner} failed: {reason}")

/-- The connection serves another domain, or its domain is not readable. -/
def servedElsewhereReason (sid : Sid) (trust : TrustContext) (served : Except String String) :
    String :=
  let value := sid.value
  let partner := trust.partner
  let domainSid := trust.domainSid
  let suffix := forestSuffix trust.partner trust.forest
  match served with
  | .ok other =>
      s!"SID {value} belongs to the trusted domain {partner}{suffix} ({domainSid}), but " ++
        s!"the configured trusted-domain connection serves another domain ({other})"
  | .error reason =>
      s!"SID {value} belongs to the trusted domain {partner}{suffix}; the domain SID of " ++
        s!"the configured trusted-domain connection could not be read ({reason}), so it is " ++
        s!"not known to serve {partner}"

def serves (served : Except String String) (domainSid : String) : Bool :=
  match served with
  | .ok domain => Text.eqIgnoreAsciiCase domain domainSid
  | .error _ => false

/-- A SID of a trusted domain, when a connection is configured. -/
def resolveInTrustedDomain (resolver : PrincipalResolver) (sid : Sid)
    (relation : SidDomainRelation) : Option PrincipalResolution :=
  match relation, resolver.trustedBackend with
  | .trustedDomain partner domainSid attributes forest, some backend =>
      let trust : TrustContext :=
        { partner := partner, domainSid := domainSid, attributes := attributes, forest := forest }
      some
        (if serves backend.servedDomainSid domainSid then askTrustedDomain backend sid trust
          else unresolvableResolution sid
            (servedElsewhereReason sid trust backend.servedDomainSid))
  | _, _ => none

/-- The trusted domain is asked only when the connection serves the domain of
the SID. -/
def resolveWithServingConnection (resolver : PrincipalResolver) (sid : Sid) :
    Option PrincipalResolution :=
  let relation := resolver.ldap.classifyUnresolvedSid sid
  match relation, resolver.trustedBackend with
  | .trustedDomain _ domainSid _ _, some backend =>
      if serves backend.servedDomainSid domainSid then resolver.resolveInTrustedDomain sid relation
      else none
  | _, _ => none

/-! ## The paths -/

/-- Neither the directory nor the local authority knows the SID. -/
def classifyUnresolved (resolver : PrincipalResolver) (sid : Sid) : PrincipalResolution :=
  let relation := resolver.ldap.classifyUnresolvedSid sid
  match resolver.resolveInTrustedDomain sid relation with
  | some resolution => resolution
  | none =>
      match relation.unresolvableReason sid with
      | none => orphanedResolution sid
      | some reason => unresolvableResolution sid reason

/-- The directory holds no object; the local authority may know the account. -/
def fallBackToLsa (resolver : PrincipalResolver) (sid : Sid) : PrincipalResolution :=
  match resolver.lsaBackend with
  | none => resolver.classifyUnresolved sid
  | some lsa =>
      match lsa.lookupAccountForSid sid with
      | .error _ => resolver.classifyUnresolved sid
      | .ok account =>
          (resolver.resolveWithServingConnection sid).getD (outsideResolution sid account)

/-- The directory holds an object for the SID. -/
def resolveHit (resolver : PrincipalResolver) (sid : Sid) (identity : Identity) :
    PrincipalResolution :=
  if identity.kind = .foreignSecurityPrincipal then
    (resolver.resolveWithServingConnection sid).getD (resolver.resolveFspHit sid identity)
  else insideResolution resolver.ldap sid identity

def resolveBySid (resolver : PrincipalResolver) (sid : Sid) : PrincipalResolution :=
  match resolver.ldap.lookupIdentityBySid sid with
  | .ok (some identity) => resolver.resolveHit sid identity
  | .ok none => resolver.fallBackToLsa sid
  | .error reason => failedLookupResolution sid reason.display

def resolveByLsaName (resolver : PrincipalResolver) (name : String) :
    Except CoreError PrincipalResolution :=
  match resolver.lsaBackend with
  | none => .error missingLsa
  | some lsa => (lsa.lookupSidForName name).map resolver.resolveBySid

def upnMissing (ldap : LdapResolver) (upn : String) : CoreError :=
  if ldap.config.globalCatalog then
    .validation (s!"UPN '{upn}' not found in the Global Catalog — the " ++
      "search was forest-wide. Check the spelling or use " ++
      "DOMAIN\\user / direct SID.")
  else
    .validation (s!"UPN '{upn}' not found under the configured LDAP base. " ++
      "For forest-wide UPN resolution bind against a Global " ++
      "Catalog (--global-catalog, port 3269/3268) or use " ++
      "DOMAIN\\user / direct SID.")

def resolveByUpn (resolver : PrincipalResolver) (upn : String) :
    Except CoreError PrincipalResolution := do
  match ← resolver.ldap.lookupByUpnRaw upn with
  | some (sid, identity) => pure (insideResolution resolver.ldap sid identity)
  | none => .error (upnMissing resolver.ldap upn)

def samMissing (sam : String) : CoreError :=
  .validation s!"sAMAccountName '{sam}' not found under the configured LDAP base."

def samAmbiguous (sam : String) (count : Nat) : CoreError :=
  .validation (s!"Ambiguous sAMAccountName '{sam}' — {count} matches found. " ++
    "Use 'DOMAIN\\user' or 'user@domain.tld' to disambiguate.")

/-- A name with several matches is refused. -/
def resolveBySam (resolver : PrincipalResolver) (sam : String) :
    Except CoreError PrincipalResolution := do
  match ← resolver.ldap.lookupAllBySamRaw sam with
  | [(sid, identity)] => pure (insideResolution resolver.ldap sid identity)
  | [] => .error (samMissing sam)
  | entries => .error (samAmbiguous sam entries.length)

def unclassified : CoreError :=
  .validation "internal: PrincipalInput::Auto reached resolve() after classify()"

/-- Full resolution, the single entry point. -/
def resolve (resolver : PrincipalResolver) (input : PrincipalInput) :
    Except CoreError PrincipalResolution := do
  match ← input.classify with
  | .auto _ => .error unclassified
  | .domainQualified name => resolver.resolveByLsaName name
  | .displayName name => resolver.resolveByLsaName name
  | .upn upn => resolver.resolveByUpn upn
  | .samAccount sam => resolver.resolveBySam sam
  | .sid sid => pure (resolver.resolveBySid sid)

end PrincipalResolver
end AdResolver
end Stars
