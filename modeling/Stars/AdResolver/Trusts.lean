import Stars.AdResolver.RawEntry

namespace Stars
namespace AdResolver

/-!
# Trusts and the domain of a SID

How the domain of a SID relates to the configured domain.  The answer decides
whether a SID without an object is the SID of a deleted account: only a domain
the search base covers completely can prove that.  Every other relation carries
a reason for the reader.
-/

/-- The bits of `trustAttributes`. -/
structure TrustAttributes where
  raw : BitVec 32
deriving DecidableEq

namespace TrustAttributes

def quarantinedDomain : BitVec 32 := 0x4#32

def forestTransitiveFlag : BitVec 32 := 0x8#32

def crossOrganization : BitVec 32 := 0x10#32

def withinForestFlag : BitVec 32 := 0x20#32

def has (attributes : TrustAttributes) (flag : BitVec 32) : Bool :=
  attributes.raw &&& flag ≠ 0#32

def sidFilteringEnabled (attributes : TrustAttributes) : Bool := attributes.has quarantinedDomain

def selectiveAuthentication (attributes : TrustAttributes) : Bool :=
  attributes.has crossOrganization

def forestTransitive (attributes : TrustAttributes) : Bool := attributes.has forestTransitiveFlag

def withinForest (attributes : TrustAttributes) : Bool := attributes.has withinForestFlag

end TrustAttributes

/-- One domain of a trusted forest, as the forest trust information lists it. -/
structure ForestTrustDomain where
  dnsName : String
  netbiosName : String
  sid : Sid
  flags : BitVec 32
deriving DecidableEq

/-- Neither disabled by an administrator nor because of a conflict. -/
def ForestTrustDomain.sidEnabled (domain : ForestTrustDomain) : Bool :=
  domain.flags &&& 0x3#32 = 0#32

/-- A trust object.  `forestInfoError` is the reason why the forest trust
information of a forest trust is not known. -/
structure DomainTrust where
  partner : String
  attributes : TrustAttributes
  sid : Option Sid
  forestDomains : List ForestTrustDomain := []
  forestInfoError : Option String := none
deriving DecidableEq

/-- A trust object with the domain that holds it. -/
structure HeldTrust where
  trust : DomainTrust
  holder : String
deriving DecidableEq

/-- The trusted forest behind a forest trust: its root and the SIDs of its
domains whose SID is enabled. -/
structure TrustedForest where
  trustPartner : String
  domainSids : List String
  infoError : Option String
deriving DecidableEq

namespace TrustedForest

/-- The forest of a forest trust; `none` for any other trust. -/
def of (trust : DomainTrust) : Option TrustedForest :=
  if trust.attributes.forestTransitive then
    some
      { trustPartner := trust.partner
        domainSids := (trust.forestDomains.filter ForestTrustDomain.sidEnabled).map
          (fun domain => domain.sid.value)
        infoError := trust.forestInfoError }
  else none

def contains (forest : TrustedForest) (domainSid : String) : Bool :=
  forest.domainSids.any (fun listed => Text.eqIgnoreAsciiCase listed domainSid)

end TrustedForest

/-- The components of a domain SID or of an account in one: `S-1-5-21` and then
numbers. -/
def startsAsDomainSid (parts : List (List Char)) : Bool :=
  Text.eqIgnoreAsciiCase (String.ofList (parts.headD [])) "S" &&
    (parts.drop 1).take 3 == [['1'], ['5'], ['2', '1']] &&
    (parts.drop 4).all (fun part => (Text.parseUnsigned (2 ^ 32) part).isSome)

/-- Domain part of the SID of a domain account, `none` for any other shape. -/
def accountDomainOf (sid : Sid) : Option String :=
  let parts := Text.split '-' sid.value.toList
  if parts.length = 8 && startsAsDomainSid parts then
    some (Text.join "-" ((parts.take 7).map String.ofList))
  else none

/-- A domain SID of the shape `S-1-5-21-a-b-c`. -/
def isDomainSid (value : String) : Bool :=
  let parts := Text.split '-' value.toList
  parts.length == 7 && startsAsDomainSid parts

/-- The distinguished name of the domain: the `DC=` components of a base. -/
def domainRootDn (baseDn : String) : Option String :=
  let dcs := ((Text.split ',' baseDn.toList).map Text.trim).filter
    (fun rdn => Text.eqIgnoreAsciiCase (String.ofList (rdn.take 3)) "DC=")
  if dcs.isEmpty then none else some (Text.join "," (dcs.map String.ofList))

/-- Every occurrence of two adjacent characters replaced by a single one. -/
def replacePair (first second single : Char) : List Char → List Char
  | here :: next :: rest =>
      if here = first ∧ next = second then single :: replacePair first second single rest
      else here :: replacePair first second single (next :: rest)
  | short => short

/-- The components of a distinguished name without regard to case and to spaces
at their ends and around the equals sign. -/
def normalizedDn (dn : String) : List String :=
  (Text.split ',' dn.toList).map (fun rdn =>
    Text.toAsciiLowercase
      (String.ofList (replacePair '=' ' ' '=' (replacePair ' ' '=' '=' (Text.trim rdn)))))

def dnEq (left right : String) : Bool := normalizedDn left == normalizedDn right

/-! ## Relation to the configured domain -/

/-- What the configured directory can tell about a SID it holds no object for. -/
inductive SidDomainRelation where
  | configuredDomainWholeBase
  | configuredDomainPartialBase (baseDn : String)
  | trustedDomain (partner domainSid : String) (attributes : TrustAttributes)
      (forest : Option TrustedForest)
  | forestDomainSidDisabled (domain domainSid forest : String) (flags : BitVec 32)
  | trustedByForestDomain (partner domainSid holder : String)
  | otherDomain (domainSid : String)
  | unknown (reason : String)
deriving DecidableEq

/-- Names the forest when the domain is not its root. -/
def forestSuffix (partner : String) (forest : Option TrustedForest) : String :=
  match forest with
  | some forest =>
      let root := forest.trustPartner
      if Text.eqIgnoreAsciiCase root partner then ""
      else s!" (a domain of the trusted forest {root}, through the forest trust)"
  | none => ""

/-- A number in upper-case hexadecimal digits without leading zeros. -/
def upperHex (value : BitVec 32) : String :=
  String.ofList ((Nat.toDigits 16 value.toNat).map Char.toUpper)

namespace SidDomainRelation

/-- Reader-facing reason for an unresolvable SID, `none` for the one case that
proves the account gone. -/
def unresolvableReason (sid : Sid) : SidDomainRelation → Option String
  | .configuredDomainWholeBase => none
  | .configuredDomainPartialBase baseDn =>
      let value := sid.value
      some (s!"SID {value} belongs to the configured domain but has no object under the " ++
        s!"configured LDAP base '{baseDn}', which does not cover the whole domain — " ++
        "whether the account exists elsewhere in the domain is unknown")
  | .trustedDomain partner _ _ forest =>
      let value := sid.value
      let suffix := forestSuffix partner forest
      some (s!"SID {value} belongs to the trusted domain {partner}{suffix}; its group " ++
        s!"memberships in {partner} are unknown — they can be resolved with a connection to a " ++
        s!"domain controller of {partner} (CLI --trust-server, ADR 0078)")
  | .forestDomainSidDisabled domain domainSid forest flags =>
      let value := sid.value
      let digits := upperHex flags
      some (s!"SID {value} belongs to {domain} ({domainSid}), a domain of the trusted forest " ++
        s!"{forest}, whose SID the forest trust information marks as disabled (flags " ++
        s!"0x{digits}) — whether Windows still accepts SIDs of that domain is not " ++
        "modelled, so the account and its memberships are unknown")
  | .trustedByForestDomain partner domainSid holder =>
      let value := sid.value
      some (s!"SID {value} belongs to {partner} ({domainSid}), which the domain {holder} of this " ++
        "forest trusts (a trust that is not forest-wide); with a Global Catalog bind " ++
        "it is not known whether the resource's domain trusts it too — the account and " ++
        "its memberships are unknown")
  | .otherDomain domainSid =>
      let value := sid.value
      some (s!"SID {value} belongs to domain {domainSid}, which is neither the configured domain " ++
        "nor one of its trusts — the account and its memberships are unknown")
  | .unknown reason =>
      let value := sid.value
      some (s!"SID {value} has no object under the configured LDAP base, the local LSA cannot " ++
        "resolve it, and how its domain relates to the configured domain could not be " ++
        s!"determined ({reason}) — whether the account exists is unknown")

theorem unresolvableReason_eq_none_iff (sid : Sid) (relation : SidDomainRelation) :
    unresolvableReason sid relation = none ↔ relation = .configuredDomainWholeBase := by
  cases relation <;> simp [unresolvableReason]

end SidDomainRelation

/-- Which trust objects the classification sees.  `isForestRoot` is `none` when
it could not be read. -/
inductive TrustView where
  | domain (isForestRoot : Option Bool)
  | forest
deriving DecidableEq

/-- The relation through a trust object for the SID's own domain. -/
def directTrustRelation (sidDomain : String) (view : TrustView) (held : HeldTrust) :
    SidDomainRelation :=
  if view = .forest ∧ !held.trust.attributes.forestTransitive then
    .trustedByForestDomain held.trust.partner sidDomain held.holder
  else
    .trustedDomain held.trust.partner sidDomain held.trust.attributes (TrustedForest.of held.trust)

/-- The relation through a domain that a forest trust lists. -/
def forestDomainRelation (sidDomain : String) (trust : DomainTrust) (domain : ForestTrustDomain) :
    SidDomainRelation :=
  if domain.sidEnabled then
    .trustedDomain domain.dnsName sidDomain trust.attributes (TrustedForest.of trust)
  else .forestDomainSidDisabled domain.dnsName sidDomain trust.partner domain.flags

/-- The trusted forests whose domains are not known. -/
def unknownForests (trusts : List HeldTrust) : List String :=
  ((trusts.map HeldTrust.trust).filter (fun trust => trust.attributes.forestTransitive)).filterMap
    (fun trust => trust.forestInfoError.map (fun reason =>
      let partner := trust.partner
      s!"{partner}: {reason}"))

/-- The relation of a domain that no trust object mentions. -/
def unmentionedRelation (sidDomain : String) : TrustView → SidDomainRelation
  | .forest | .domain (some true) => .otherDomain sidDomain
  | .domain (some false) => .unknown
      (s!"domain {sidDomain} is not one of the configured domain's trust " ++
        "objects, but the configured domain is not the root of its forest — " ++
        "a trust held by another domain of the forest (such as a forest trust " ++
        "of the forest root) may cover it and is not read through a domain " ++
        "bind (a Global Catalog bind reads it)")
  | .domain none => .unknown
      (s!"domain {sidDomain} is not one of the configured domain's trust " ++
        "objects; the configured domain belongs to a forest with several " ++
        "domains, and whether it is the forest root (which holds the forest " ++
        "trusts) could not be read")

/-- The relation of a domain that neither a trust object nor a forest trust
lists: it may belong to a forest whose domains are not known. -/
def unlistedRelation (sidDomain : String) (trusts : List HeldTrust) (view : TrustView) :
    SidDomainRelation :=
  let unknown := unknownForests trusts
  let count := unknown.length
  let names := Text.join "; " unknown
  if unknown.isEmpty then unmentionedRelation sidDomain view
  else
    .unknown
      (s!"domain {sidDomain} is neither the configured domain nor one of its trust " ++
        s!"objects, and the domains of {count} trusted forest(s) are not known ({names}) " ++
        "— it may be a domain of such a forest")

/-- The first trust object for a domain. -/
def trustOfDomain (sidDomain : String) (trusts : List HeldTrust) : Option HeldTrust :=
  trusts.find? (fun held =>
    held.trust.sid.any (fun sid => Text.eqIgnoreAsciiCase sid.value sidDomain))

/-- The first forest trust that lists a domain, with its entry for it. -/
def forestTrustOfDomain (sidDomain : String) (trusts : List HeldTrust) :
    Option (DomainTrust × ForestTrustDomain) :=
  ((trusts.map HeldTrust.trust).filter (fun trust => trust.attributes.forestTransitive)).findSome?
    (fun trust => (trust.forestDomains.find? (fun domain =>
      Text.eqIgnoreAsciiCase domain.sid.value sidDomain)).map (fun domain => (trust, domain)))

/-- The domain SID of an unresolved SID against the trusts: a trust object for
it, then a domain of a trusted forest, then what the view leaves open. -/
def classifyAgainstTrusts (sidDomain : String) (trusts : List HeldTrust) (view : TrustView) :
    SidDomainRelation :=
  match trustOfDomain sidDomain trusts with
  | some held => directTrustRelation sidDomain view held
  | none =>
      match forestTrustOfDomain sidDomain trusts with
      | some (trust, domain) => forestDomainRelation sidDomain trust domain
      | none => unlistedRelation sidDomain trusts view

theorem directTrustRelation_unresolvable (sidDomain : String) (view : TrustView)
    (held : HeldTrust) :
    directTrustRelation sidDomain view held ≠ .configuredDomainWholeBase := by
  intro proven
  rw [directTrustRelation] at proven
  split at proven <;> cases proven

theorem forestDomainRelation_unresolvable (sidDomain : String) (trust : DomainTrust)
    (domain : ForestTrustDomain) :
    forestDomainRelation sidDomain trust domain ≠ .configuredDomainWholeBase := by
  intro proven
  rw [forestDomainRelation] at proven
  split at proven <;> cases proven

theorem unlistedRelation_unresolvable (sidDomain : String) (trusts : List HeldTrust)
    (view : TrustView) :
    unlistedRelation sidDomain trusts view ≠ .configuredDomainWholeBase := by
  intro proven
  by_cases known : (unknownForests trusts).isEmpty
  · rw [unlistedRelation, if_pos known] at proven
    rcases view with (_ | _ | _) | _ <;> cases proven
  · rw [unlistedRelation, if_neg known] at proven
    cases proven

/-- The trusts never prove an account gone. -/
theorem classifyAgainstTrusts_unresolvable (sidDomain : String) (trusts : List HeldTrust)
    (view : TrustView) :
    classifyAgainstTrusts sidDomain trusts view ≠ .configuredDomainWholeBase := by
  rw [classifyAgainstTrusts]
  split
  · exact directTrustRelation_unresolvable sidDomain view _
  · split
    · exact forestDomainRelation_unresolvable sidDomain _ _
    · exact unlistedRelation_unresolvable sidDomain trusts view

end AdResolver
end Stars
