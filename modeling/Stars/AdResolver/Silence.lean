import Stars.AdResolver.Pipeline
import Stars.AdResolver.ResourceGroups

namespace Stars
namespace AdResolver

open Collections

/-!
# Silence is never a fact

The outcomes of the pipeline, by where they come from, and what an outcome
without a marker is worth.  What the directory answers leaves open which groups
an account has: an answer with gaps, a Global Catalog and a Foreign Security
Principal all allow more groups than they show.

A SID counts as orphaned only when the directory found nothing and its search
base covers the domain of the SID.  On every other outcome of the configured
directory groups can be missing only behind a marker for the token.  Left out
are an account resolved in its trusted domain and a name that hits a Foreign
Security Principal.
-/

theorem classifyIdentity_ne_orphaned (objectClasses : List String) :
    classifyIdentity objectClasses ≠ .orphaned := by
  intro impossible
  rw [classifyIdentity] at impossible
  split_ifs at impossible

/-- Only a search that found nothing gives an orphaned identity. -/
theorem lookupIdentityBySid_none {ldap : LdapResolver} {sid : Sid}
    (missed : ldap.lookupIdentityBySid sid = .ok none) : ldap.searchBySid sid = .ok none := by
  rcases bind_eq_ok_iff.mp missed with ⟨identity, resolved, settled⟩
  rcases bind_eq_ok_iff.mp resolved with ⟨_, _, searched⟩
  rcases bind_eq_ok_iff.mp searched with ⟨found, answered, parsed⟩
  cases found with
  | none => exact answered
  | some entry =>
      have same : parseIdentityFromEntry entry sid = identity := Except.ok.inj parsed
      have kind : identity.kind ≠ .orphaned := by
        rw [← same]
        exact classifyIdentity_ne_orphaned _
      rw [if_neg kind] at settled
      cases settled

namespace LdapResolver

/-- Some search of the directory shows an account under a SID. -/
inductive Shows (ldap : LdapResolver) (sid : Sid) (identity : Identity) : Prop where
  | bySid (found : ldap.lookupIdentityBySid sid = .ok (some identity))
  | byUpn (upn : String) (found : ldap.lookupByUpnRaw upn = .ok (some (sid, identity)))
  | bySam (sam : String) (found : ldap.lookupAllBySamRaw sam = .ok [(sid, identity)])

end LdapResolver

/-- What is true about accounts: their groups, and whether they belong to
another forest, so that the directory holds at most a Foreign Security Principal
for them. -/
structure AccountTruth where
  groups : Sid → List Sid
  foreign : Sid → Prop

/-- The answers of a directory are compatible with a truth.  An account shown as
anything but a Foreign Security Principal is an account of the forest, and for
such an account a group answer of a domain bind without gaps is complete. -/
structure Allows (ldap : LdapResolver) (truth : AccountTruth) : Prop where
  home : ∀ sid identity, ldap.Shows sid identity →
    identity.kind ≠ .foreignSecurityPrincipal → ¬truth.foreign sid
  complete : ∀ sid answer, ldap.resolveGroupMemberships sid = .ok answer → answer.gaps = [] →
    ldap.config.globalCatalog = false → ¬truth.foreign sid →
      ∀ group ∈ truth.groups sid, group ∈ answer.memberships.map GroupMembership.groupSid

/-- As far as the directory's answers go, some group of the account may be
missing from the returned memberships. -/
def MayMissGroups (ldap : LdapResolver) (resolution : PrincipalResolution) : Prop :=
  ∃ truth, Allows ldap truth ∧ ∃ group ∈ truth.groups resolution.sid,
    group ∉ resolution.memberships.map GroupMembership.groupSid

/-- The search for a name hits a Foreign Security Principal. -/
def NameHitsForeign (resolver : PrincipalResolver) (input : PrincipalInput) : Prop :=
  ∃ sid identity, identity.kind = .foreignSecurityPrincipal ∧
    ((∃ upn, input.classify = .ok (.upn upn) ∧
        resolver.ldap.lookupByUpnRaw upn = .ok (some (sid, identity))) ∨
      ∃ sam, input.classify = .ok (.samAccount sam) ∧
        resolver.ldap.lookupAllBySamRaw sam = .ok [(sid, identity)])

/-- The outcomes of the pipeline. -/
inductive Outcome (resolver : PrincipalResolver) (input : PrincipalInput) :
    PrincipalResolution → Prop where
  | inside (sid : Sid) (identity : Identity) (shown : resolver.ldap.Shows sid identity)
      (named : identity.kind = .foreignSecurityPrincipal → NameHitsForeign resolver input) :
      Outcome resolver input (PrincipalResolver.insideResolution resolver.ldap sid identity)
  | throughFsp (sid : Sid) (identity : Identity) :
      Outcome resolver input (resolver.resolveFspHit sid identity)
  | outside (sid : Sid) (account : LsaAccountInfo) :
      Outcome resolver input (PrincipalResolver.outsideResolution sid account)
  | failed (sid : Sid) (reason : String) :
      Outcome resolver input (PrincipalResolver.failedLookupResolution sid reason)
  | unresolvable (sid : Sid) (reason : String) :
      Outcome resolver input (PrincipalResolver.unresolvableResolution sid reason)
  | orphaned (sid : Sid) (missed : resolver.ldap.searchBySid sid = .ok none)
      (covered : ∃ sidDomain, accountDomainOf sid = some sidDomain ∧
        resolver.ldap.CoversDomain sidDomain) :
      Outcome resolver input (PrincipalResolver.orphanedResolution sid)
  | trusted (sid : Sid) (trust : TrustContext) (backend : LdapTrustedDomainBackend)
      (resolution : PrincipalResolution)
      (asked : backend.resolveAccount sid trust = .ok resolution) :
      Outcome resolver input resolution

namespace PrincipalResolver

variable {resolver : PrincipalResolver} {input : PrincipalInput} {resolution : PrincipalResolution}

theorem askTrustedDomain_outcome (resolver : PrincipalResolver) (input : PrincipalInput)
    (backend : LdapTrustedDomainBackend) (sid : Sid) (trust : TrustContext) :
    Outcome resolver input (askTrustedDomain backend sid trust) := by
  rw [askTrustedDomain]
  split
  · next resolution asked => exact .trusted sid trust backend resolution asked
  · exact .unresolvable sid _

theorem resolveInTrustedDomain_outcome {sid : Sid} {relation : SidDomainRelation}
    (resolved : resolver.resolveInTrustedDomain sid relation = some resolution) :
    Outcome resolver input resolution := by
  rw [resolveInTrustedDomain.eq_def] at resolved
  split at resolved
  · next partner domainSid attributes forest backend _ =>
      rw [← Option.some.inj resolved]
      split
      · exact askTrustedDomain_outcome resolver input backend sid _
      · exact .unresolvable sid _
  · cases resolved

theorem resolveWithServingConnection_outcome {sid : Sid}
    (resolved : resolver.resolveWithServingConnection sid = some resolution) :
    Outcome resolver input resolution := by
  rw [resolveWithServingConnection] at resolved
  split at resolved
  · split at resolved
    · exact resolveInTrustedDomain_outcome resolved
    · cases resolved
  · cases resolved

theorem classifyUnresolved_outcome {sid : Sid} (missed : resolver.ldap.searchBySid sid = .ok none) :
    Outcome resolver input (resolver.classifyUnresolved sid) := by
  rw [classifyUnresolved]
  split
  · next resolution resolved => exact resolveInTrustedDomain_outcome resolved
  · split
    · next proven =>
        have whole := (SidDomainRelation.unresolvableReason_eq_none_iff sid _).mp proven
        exact .orphaned sid missed (LdapResolver.covers_of_wholeBase whole)
    · exact .unresolvable sid _

theorem fallBackToLsa_outcome {sid : Sid} (missed : resolver.ldap.searchBySid sid = .ok none) :
    Outcome resolver input (resolver.fallBackToLsa sid) := by
  rw [fallBackToLsa]
  split
  · exact classifyUnresolved_outcome missed
  · split
    · exact classifyUnresolved_outcome missed
    · next account _ =>
        cases served : resolver.resolveWithServingConnection sid with
        | none => exact .outside sid account
        | some resolution => exact resolveWithServingConnection_outcome served

theorem resolveHit_outcome {sid : Sid} {identity : Identity}
    (found : resolver.ldap.lookupIdentityBySid sid = .ok (some identity)) :
    Outcome resolver input (resolver.resolveHit sid identity) := by
  rw [resolveHit]
  split
  · cases served : resolver.resolveWithServingConnection sid with
    | none => exact .throughFsp sid identity
    | some resolution => exact resolveWithServingConnection_outcome served
  · next home => exact .inside sid identity (.bySid found) (fun foreign => absurd foreign home)

theorem resolveBySid_outcome (resolver : PrincipalResolver) (input : PrincipalInput) (sid : Sid) :
    Outcome resolver input (resolver.resolveBySid sid) := by
  rw [resolveBySid]
  split
  · next identity found => exact resolveHit_outcome found
  · next missed => exact fallBackToLsa_outcome (lookupIdentityBySid_none missed)
  · exact .failed sid _

theorem resolveByLsaName_outcome {name : String}
    (resolved : resolver.resolveByLsaName name = .ok resolution) :
    Outcome resolver input resolution := by
  rw [resolveByLsaName] at resolved
  split at resolved
  · cases resolved
  · next lsa _ =>
      cases looked : lsa.lookupSidForName name with
      | error reason =>
          rw [looked] at resolved
          cases resolved
      | ok sid =>
          rw [looked] at resolved
          rw [← Except.ok.inj resolved]
          exact resolveBySid_outcome resolver input sid

theorem resolveByUpn_outcome {upn : String} (classified : input.classify = .ok (.upn upn))
    (resolved : resolver.resolveByUpn upn = .ok resolution) :
    Outcome resolver input resolution := by
  rcases bind_eq_ok_iff.mp resolved with ⟨answer, found, settled⟩
  split at settled
  · next sid identity =>
      rw [← Except.ok.inj settled]
      exact .inside sid identity (.byUpn upn found)
        (fun foreign => ⟨sid, identity, foreign, .inl ⟨upn, classified, found⟩⟩)
  · cases settled

theorem resolveBySam_outcome {sam : String} (classified : input.classify = .ok (.samAccount sam))
    (resolved : resolver.resolveBySam sam = .ok resolution) :
    Outcome resolver input resolution := by
  rcases bind_eq_ok_iff.mp resolved with ⟨entries, found, settled⟩
  split at settled
  · next sid identity =>
      rw [← Except.ok.inj settled]
      exact .inside sid identity (.bySam sam found)
        (fun foreign => ⟨sid, identity, foreign, .inr ⟨sam, classified, found⟩⟩)
  · cases settled
  · cases settled

theorem resolve_outcome (resolved : resolver.resolve input = .ok resolution) :
    Outcome resolver input resolution := by
  rcases bind_eq_ok_iff.mp resolved with ⟨form, classified, continued⟩
  cases form with
  | auto raw => cases continued
  | domainQualified name => exact resolveByLsaName_outcome continued
  | displayName name => exact resolveByLsaName_outcome continued
  | upn upn => exact resolveByUpn_outcome classified continued
  | samAccount sam => exact resolveBySam_outcome classified continued
  | sid sid =>
      rw [← Except.ok.inj continued]
      exact resolveBySid_outcome resolver input sid

end PrincipalResolver

/-! ## Outcomes without a marker -/

/-- Some marker of the resolution says that the token may be incomplete. -/
def TokenMarked (resolution : PrincipalResolution) : Prop :=
  ∃ marker ∈ resolution.membershipDiagnostics, marker.uncertainLayer = some .token

theorem tokenMarked_iff (resolution : PrincipalResolution) :
    TokenMarked resolution ↔ resolution.Incomplete := by
  have marked := PrincipalResolution.marked_iff (fun layer => layer = .token) resolution
  rw [and_iff_left rfl] at marked
  rw [← marked, TokenMarked, Marked]
  simp

/-- A group resolution that failed or has gaps, or a forest-wide bind, is
marked.  Without a marker the directory's answer is complete for an account of
the forest. -/
theorem complete_of_unmarked {ldap : LdapResolver} {sid : Sid} {identity : Identity}
    (unmarked : ¬TokenMarked (PrincipalResolver.insideResolution ldap sid identity)) :
    ∃ answer, ldap.resolveGroupMemberships sid = .ok answer ∧ answer.gaps = [] ∧
      ldap.config.globalCatalog = false ∧
      (PrincipalResolver.insideResolution ldap sid identity).memberships =
        answer.memberships := by
  rw [tokenMarked_iff, PrincipalResolution.Incomplete] at unmarked
  simp only [not_or, not_not, PrincipalResolver.insideResolution, LdapResolver.resolveGroups,
    PrincipalResolution.groupFailureReason] at unmarked
  rcases unmarked with ⟨_, _, _, succeeded, gapless, _, _, domainBind, _⟩
  cases answered : ldap.resolveGroupMemberships sid with
  | error reason =>
      rw [answered] at succeeded
      cases succeeded
  | ok answer =>
      rw [answered] at gapless
      refine ⟨answer, rfl, gapless, Bool.not_eq_true _ ▸ domainBind, ?_⟩
      rw [PrincipalResolver.insideResolution, LdapResolver.resolveGroups, answered]

/-- A SID is orphaned only when the directory found nothing and the search base
covers its domain.  On every other outcome of the configured directory, unless a
name hit a Foreign Security Principal, groups can be missing only behind a
marker for the token. -/
theorem resolve_silent_only_if_known {resolver : PrincipalResolver} {input : PrincipalInput}
    {resolution : PrincipalResolution} (resolved : resolver.resolve input = .ok resolution) :
    (resolution.scopeStatus = .orphanedSid →
      resolver.ldap.searchBySid resolution.sid = .ok none ∧
      ∃ sidDomain, accountDomainOf resolution.sid = some sidDomain ∧
        resolver.ldap.CoversDomain sidDomain) ∧
    (resolution.scopeStatus ≠ .orphanedSid →
      (∀ domain, resolution.scopeStatus ≠ .resolvedInTrustedDomain domain) →
      ¬NameHitsForeign resolver input →
      MayMissGroups resolver.ldap resolution → TokenMarked resolution) := by
  cases PrincipalResolver.resolve_outcome resolved with
  | inside sid identity shown named =>
      refine ⟨fun impossible => (by cases impossible), fun _ _ byName missing => ?_⟩
      by_contra unmarked
      rcases complete_of_unmarked unmarked with ⟨answer, answered, gapless, domainBind, same⟩
      rcases missing with ⟨truth, allowed, group, member, absent⟩
      have home : ¬truth.foreign sid :=
        allowed.home sid identity shown (fun foreign => byName (named foreign))
      rw [same] at absent
      exact absent (allowed.complete sid answer answered gapless domainBind home group member)
  | throughFsp sid identity =>
      refine ⟨fun impossible => (by cases impossible), fun _ _ _ _ => ?_⟩
      rw [tokenMarked_iff, PrincipalResolution.Incomplete]
      exact .inr (.inr (.inr (.inr (.inr (.inr (.inl rfl))))))
  | outside sid account =>
      refine ⟨fun impossible => (by cases impossible), fun _ _ _ _ => ?_⟩
      rw [tokenMarked_iff, PrincipalResolution.Incomplete]
      exact .inl rfl
  | failed sid reason =>
      refine ⟨fun impossible => (by cases impossible), fun _ _ _ _ => ?_⟩
      rw [tokenMarked_iff, PrincipalResolution.Incomplete]
      exact .inr (.inr (.inl (Option.some_ne_none reason)))
  | unresolvable sid reason =>
      refine ⟨fun impossible => (by cases impossible), fun _ _ _ _ => ?_⟩
      rw [tokenMarked_iff, PrincipalResolution.Incomplete]
      exact .inr (.inr (.inr (.inr (.inr (.inl (Option.some_ne_none reason))))))
  | orphaned sid missed covered =>
      exact ⟨fun _ => ⟨missed, covered⟩, fun impossible => absurd rfl impossible⟩
  | trusted sid trust backend resolution asked =>
      rcases LdapTrustedDomainBackend.resolveAccount_spec asked with
        ⟨answers, lookups, _, _, same⟩
      have scope : resolution.scopeStatus = .resolvedInTrustedDomain trust.partner := by
        rw [same]
        rfl
      refine ⟨fun orphaned => ?_, fun _ elsewhere => absurd scope (elsewhere trust.partner)⟩
      rw [scope] at orphaned
      cases orphaned

/-! ## A forest-wide bind, a name and a trusted domain -/

namespace SilentOutcomes

open MovedAccount

/-- The entry of a Foreign Security Principal. -/
def principalEntry : RawEntry where
  dn := "CN=FSP,CN=ForeignSecurityPrincipals,DC=corp,DC=test"
  attrs := [("objectClass", ["top", "foreignSecurityPrincipal"])]
  binAttrs := [("objectSid", [[1, 5, 0, 0, 0, 0, 0, 5, 21, 0, 0, 0, 1, 0, 0, 0, 1, 0, 0, 0,
    1, 0, 0, 0, 79, 4, 0, 0]])]

/-- An account of the second domain of the forest. -/
def childSid : Sid := ⟨"S-1-5-21-8-8-8-1200"⟩

/-- A Global Catalog of a forest with two domains and a forest trust. -/
def catalog : LdapResolver :=
  { resourceController true accountSid [] with
    searchForestDomainSids := .ok ["S-1-5-21-9-9-9", "S-1-5-21-8-8-8"]
    searchBySid := fun sid => .ok (if sid = accountSid then some principalEntry else none)
    searchDomainTrusts := fun _ => .ok
      [{ trust :=
          { partner := "partner.test"
            attributes := ⟨0x8#32⟩
            sid := some ⟨"S-1-5-21-1-1-1"⟩
            forestDomains :=
              [⟨"partner.test", "PARTNER", ⟨"S-1-5-21-1-1-1"⟩, 0#32⟩,
                ⟨"child.partner.test", "CHILD", ⟨"S-1-5-21-2-2-2"⟩, 0#32⟩] }
         holder := "DC=corp,DC=test" }] }

/-- A directory whose search by name returns a Foreign Security Principal. -/
def namedPrincipal : LdapResolver :=
  { resourceController false accountSid [] with
    searchBySid := fun _ => .ok none
    searchAllBySamaccount := fun _ => .ok [principalEntry] }

/-- Scope, groups and marker of a resolution. -/
def summary (resolver : PrincipalResolver) (input : PrincipalInput) :
    Option (IdentityScopeStatus × Sid × List Sid × Bool) :=
  (resolver.resolve input).toOption.map (fun resolution =>
    (resolution.scopeStatus, resolution.sid,
      resolution.memberships.map GroupMembership.groupSid,
      (resolution.diagnostics ++ resolution.membershipDiagnostics).any
        PermissionDiagnostic.isIncompletenessTrigger))

theorem resolved_of_summary {resolver : PrincipalResolver} {input : PrincipalInput}
    {scope : IdentityScopeStatus} {sid : Sid} {groups : List Sid} {marked : Bool}
    (computed : summary resolver input = some (scope, sid, groups, marked)) :
    ∃ resolution, resolver.resolve input = .ok resolution ∧ resolution.scopeStatus = scope ∧
      resolution.sid = sid ∧ resolution.memberships.map GroupMembership.groupSid = groups ∧
      (resolution.diagnostics ++ resolution.membershipDiagnostics).any
        PermissionDiagnostic.isIncompletenessTrigger = marked := by
  rw [summary] at computed
  cases resolved : resolver.resolve input with
  | error reason =>
      rw [resolved] at computed
      cases computed
  | ok resolution =>
      rw [resolved] at computed
      cases Option.some.inj computed
      exact ⟨resolution, rfl, rfl, rfl, rfl, rfl⟩

theorem unmarked_of_untriggered {resolution : PrincipalResolution}
    (untriggered : (resolution.diagnostics ++ resolution.membershipDiagnostics).any
      PermissionDiagnostic.isIncompletenessTrigger = false) : ¬TokenMarked resolution := by
  rintro ⟨marker, member, token⟩
  refine List.any_eq_false.mp untriggered marker (List.mem_append_right _ member) ?_
  rw [PermissionDiagnostic.isIncompletenessTrigger, token]
  rfl

/-- As far as its answers go, the directory knows no account of its own forest. -/
theorem namedPrincipal_allows :
    Allows namedPrincipal ⟨fun _ => [projectGroup], fun _ => True⟩ where
  home := by
    intro sid identity shown home
    have principal : parseIdentityFromEntry principalEntry accountSid = identity → False := by
      intro same
      rw [← same] at home
      exact home (by decide)
    have readable : extractSidFromEntry principalEntry = some accountSid := by decide
    cases shown with
    | bySid found => cases found
    | byUpn upn found => cases found
    | bySam sam found =>
        have entries : namedPrincipal.lookupAllBySamRaw sam =
            .ok ([principalEntry].filterMap (fun entry => (extractSidFromEntry entry).map
              (fun sid => (sid, parseIdentityFromEntry entry sid)))) := rfl
        rw [entries, List.filterMap_cons, readable] at found
        exact absurd (Prod.mk.inj (List.cons.inj (Except.ok.inj found)).1).2 principal
  complete := by
    intro sid answer _ _ _ home
    exact absurd trivial home

/-- On a forest-wide bind a SID of another domain of the forest counts as
orphaned.  A name that hits a Foreign Security Principal and an account of a
trusted domain behind a Global Catalog lack a group without a marker. -/
theorem silent_outcomes :
    (∃ resolution, PrincipalResolver.resolve { ldap := catalog } (.sid childSid) =
        .ok resolution ∧ resolution.scopeStatus = .orphanedSid ∧
      catalog.configuredDomainSid.toOption = some (some "S-1-5-21-9-9-9") ∧
      ofDomain resolution.sid "S-1-5-21-9-9-9" = false) ∧
    (∃ resolution, PrincipalResolver.resolve { ldap := namedPrincipal } (.samAccount "anna") =
        .ok resolution ∧ resolution.scopeStatus = .insideConfiguredLdapBase ∧
      MayMissGroups namedPrincipal resolution ∧ ¬TokenMarked resolution) ∧
    ∃ resolution, PrincipalResolver.resolve
        { ldap := catalog, trustedBackend := some ⟨partnerController, catalog⟩ }
        (.sid accountSid) = .ok resolution ∧
      resolution.scopeStatus = .resolvedInTrustedDomain "partner.test" ∧
      projectGroup ∈ (groundTruth accountSid).localGroups accountSid ∧
      projectGroup ∉ resolution.memberships.map GroupMembership.groupSid ∧
      ¬TokenMarked resolution := by
  have gone : summary { ldap := catalog } (.sid childSid) =
      some (.orphanedSid, childSid, [], false) := by
    decide
  have named : summary { ldap := namedPrincipal } (.samAccount "anna") =
      some (.insideConfiguredLdapBase, accountSid, [], false) := by
    decide
  have abroad : summary
      { ldap := catalog, trustedBackend := some ⟨partnerController, catalog⟩ } (.sid accountSid) =
      some (.resolvedInTrustedDomain "partner.test", accountSid,
        [domainUsers, ⟨"S-1-5-15"⟩], false) := by
    decide +kernel
  rcases resolved_of_summary gone with ⟨child, childResolved, childScope, childIs, _⟩
  rcases resolved_of_summary named with ⟨anna, annaResolved, annaScope, annaIs, annaGroups, annaQuiet⟩
  rcases resolved_of_summary abroad with ⟨there, thereResolved, thereScope, _, thereGroups, thereQuiet⟩
  refine ⟨⟨child, childResolved, childScope, by decide, ?_⟩,
    ⟨anna, annaResolved, annaScope, ⟨_, namedPrincipal_allows, projectGroup,
      List.mem_singleton_self _, ?_⟩, unmarked_of_untriggered annaQuiet⟩,
    there, thereResolved, thereScope, by decide, ?_, unmarked_of_untriggered thereQuiet⟩
  · rw [childIs]
    decide
  · rw [annaGroups]
    exact List.not_mem_nil
  · rw [thereGroups]
    decide

/-- The trusted domain seen through its own Global Catalog. -/
def partnerCatalog : LdapResolver :=
  { partnerController with config := { baseDn := "", globalCatalog := true } }

theorem partnerCatalog_allows :
    Allows partnerCatalog ⟨fun _ => [projectGroup], fun _ => False⟩ where
  home := fun _ _ _ _ impossible => impossible
  complete := by
    intro sid answer _ _ domainBind
    cases domainBind

/-- The orphaned SID belongs to a domain the base covers, and the groups a
Global Catalog may leave out are marked. -/
theorem resolve_silent_only_if_known_catalogs :
    (∃ resolution, PrincipalResolver.resolve { ldap := catalog } (.sid childSid) =
        .ok resolution ∧
      catalog.searchBySid resolution.sid = .ok none ∧
      ∃ sidDomain, accountDomainOf resolution.sid = some sidDomain ∧
        catalog.CoversDomain sidDomain) ∧
    ∃ resolution, PrincipalResolver.resolve { ldap := partnerCatalog } (.sid accountSid) =
        .ok resolution ∧ MayMissGroups partnerCatalog resolution ∧ TokenMarked resolution := by
  have gone : summary { ldap := catalog } (.sid childSid) =
      some (.orphanedSid, childSid, [], false) := by
    decide
  have home : summary { ldap := partnerCatalog } (.sid accountSid) =
      some (.insideConfiguredLdapBase, accountSid, [domainUsers], true) := by
    decide
  rcases resolved_of_summary gone with ⟨child, childResolved, childScope, _⟩
  rcases resolved_of_summary home with ⟨anna, annaResolved, annaScope, _, annaGroups, _⟩
  have missing : MayMissGroups partnerCatalog anna := by
    refine ⟨_, partnerCatalog_allows, projectGroup, List.mem_singleton_self _, ?_⟩
    rw [annaGroups]
    decide
  refine ⟨⟨child, childResolved, (resolve_silent_only_if_known childResolved).1 childScope⟩,
    anna, annaResolved, missing,
    (resolve_silent_only_if_known annaResolved).2 ?_ ?_ ?_ missing⟩
  · rw [annaScope]
    exact IdentityScopeStatus.noConfusion
  · intro domain
    rw [annaScope]
    exact IdentityScopeStatus.noConfusion
  · rintro ⟨sid, identity, _, ⟨upn, classified, _⟩ | ⟨sam, classified, _⟩⟩
    · cases classified
    · cases classified

end SilentOutcomes
end AdResolver
end Stars
