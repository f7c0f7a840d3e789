import Stars.AdResolver.Trusted

namespace Stars
namespace AdResolver

open Collections

/-!
# Resource-domain groups of a trusted account

The token of a trusted account holds the account, the groups its domain hands to
other domains and the historical SIDs of both, as far as the SID filtering lets
them through.  Each of these SIDs can stand as a Foreign Security Principal in
domain-local groups of the resource domain.

The resolution looks up the account and the kept groups, but no historical SID,
and it takes an answer without a gap as complete whatever the connection shows.
`keepsOrReports_iff` says when every such group is nevertheless returned or the
outcome carries a marker.
-/

/-- What the two domains hold: the groups the trusted domain hands to other
domains, the historical SIDs of an account or group, and the domain-local groups
of the resource domain that contain a SID as a Foreign Security Principal. -/
structure TrustGroundTruth where
  tokenGroups : Sid → List Sid
  sidHistory : Sid → List Sid
  localGroups : Sid → List Sid

namespace TrustGroundTruth

variable (truth : TrustGroundTruth)

/-- The SIDs of the account's token after the SID filtering of the trust. -/
def tokenSids (account : Sid) (trust : TrustContext) : List Sid :=
  let passes := passesFilter trust.domainSid trust.attributes trust.forest
  account :: (truth.sidHistory account).filter passes ++
    ((truth.tokenGroups account).filter passes).flatMap (fun group =>
      group :: (truth.sidHistory group).filter passes)

/-- Every group of the resource domain that contains a SID of the token is among
the returned memberships, or a marker says that the result may be incomplete. -/
def KeepsOrReports (account : Sid) (trust : TrustContext) (resolution : PrincipalResolution) :
    Prop :=
  (∀ via ∈ truth.tokenSids account trust, ∀ group ∈ truth.localGroups via,
    group ∈ resolution.memberships.map GroupMembership.groupSid) ∨
  ∃ marker ∈ resolution.diagnostics ++ resolution.membershipDiagnostics,
    marker.isIncompletenessTrigger = true

end TrustGroundTruth

namespace LdapTrustedDomainBackend

variable (backend : LdapTrustedDomainBackend) (truth : TrustGroundTruth) (account : Sid)
  (trust : TrustContext) (answers : HomeAnswers)

/-- The SIDs looked up in the resource domain. -/
def lookedUp : List Sid :=
  (crossingSids account (backend.homeToken account trust answers).memberships).map Prod.fst

/-- The answer of the resource domain to some lookup. -/
def AnsweredBy (holds : GroupMembershipResolution → Prop) : Prop :=
  ∃ via ∈ backend.lookedUp account trust answers, ∃ answer,
    resourceAnswer backend.resource via = .ok answer ∧ holds answer

/-- A group that some answer names: a group that crosses the trust, a group
answered for a SID that was looked up, or the organization SID of the logon. -/
def Answered (group : Sid) : Prop :=
  group ∈ (backend.homeToken account trust answers).memberships.map GroupMembership.groupSid ∨
  backend.AnsweredBy account trust answers (fun answer =>
    group ∈ answer.memberships.map GroupMembership.groupSid) ∨
  group = organizationSid trust.attributes

/-- The memberships of the resource domain as it answers for the SIDs looked
up. -/
def answeredMemberships : List GroupMembership :=
  (backend.lookedUp account trust answers).flatMap (fun via =>
    match resourceAnswer backend.resource via with
    | .ok answer => answer.memberships
    | .error _ => [])

/-- Some answer says itself that it is incomplete: a gap of the home domain
beyond the token set, a SID whose filtering is not modelled, a gap of the
resource domain, or historical SIDs that could not be read. -/
def Reported : Prop :=
  homeGaps answers.home ≠ [] ∨
  (backend.homeToken account trust answers).outcome.notModelled ≠ [] ∨
  backend.AnsweredBy account trust answers (fun answer => answer.gaps ≠ []) ∨
  HistoryUnread (backend.homeToken account trust answers).identity ∨
  GroupHistoryUnread ((backend.homeToken account trust answers).memberships ++
    backend.answeredMemberships account trust answers)

/-- The resource connection shows all groups of a SID, or says in a gap that it
does not. -/
def ShowsGroups (via : Sid) : Prop :=
  ∀ answer, resourceAnswer backend.resource via = .ok answer → answer.gaps = [] →
    ∀ group ∈ truth.localGroups via, group ∈ answer.memberships.map GroupMembership.groupSid

/-- Every group of a token SID that is never looked up, or whose groups the
resource connection shows only in part, is named by another answer. -/
def NothingUnseen : Prop :=
  ∀ via ∈ truth.tokenSids account trust,
    via ∉ backend.lookedUp account trust answers ∨ ¬backend.ShowsGroups truth via →
      ∀ group ∈ truth.localGroups via, backend.Answered account trust answers group

/-- The account was found in its own domain, and the answers say that they are
incomplete or leave no group unseen. -/
def DirectoriesSuffice : Prop :=
  ∃ answers, backend.homeAnswers account trust = .ok answers ∧
    (backend.Reported account trust answers ∨
      backend.NothingUnseen truth account trust answers)

variable {backend truth account trust answers}

theorem resolveAccount_spec {resolution : PrincipalResolution}
    (resolved : backend.resolveAccount account trust = .ok resolution) :
    ∃ answers lookups, backend.homeAnswers account trust = .ok answers ∧
      resourceLookups backend.resource (crossingSids account
        (backend.homeToken account trust answers).memberships) = .ok lookups ∧
      resolution = accountResolution account trust answers
        (backend.homeToken account trust answers) lookups := by
  rcases bind_eq_ok_iff.mp resolved with ⟨answers, answered, continued⟩
  rcases bind_eq_ok_iff.mp continued with ⟨lookups, lookedUp, settled⟩
  exact ⟨answers, lookups, answered, lookedUp, (Except.ok.inj settled).symm⟩

/-- What the answers hold, whether read for each SID or from the lookups. -/
theorem flatMap_lookups {resource : LdapResolver} {crossing : List (Sid × Option GroupMembership)}
    {lookups : List ResourceLookup} (finished : resourceLookups resource crossing = .ok lookups) :
    (crossing.map Prod.fst).flatMap (fun via =>
      match resourceAnswer resource via with
      | .ok answer => answer.memberships
      | .error _ => []) = lookups.flatMap (fun lookup => lookup.answer.memberships) := by
  have pairs := mapM_eq_ok_iff.mp finished
  clear finished
  induction pairs with
  | nil => rfl
  | cons done _ known =>
      rcases bind_eq_ok_iff.mp done with ⟨answer, answered, same⟩
      rw [List.map_cons, List.flatMap_cons, List.flatMap_cons, known, answered,
        ← Except.ok.inj same]

section Lookups

variable {lookups : List ResourceLookup}
  (finished : resourceLookups backend.resource (crossingSids account
    (backend.homeToken account trust answers).memberships) = .ok lookups)

include finished

/-- The lookups hold the answers for the SIDs looked up. -/
theorem answeredBy_iff (holds : GroupMembershipResolution → Prop) :
    backend.AnsweredBy account trust answers holds ↔ ∃ lookup ∈ lookups, holds lookup.answer := by
  constructor
  · rintro ⟨via, inLookedUp, answer, answered, fact⟩
    rcases List.mem_map.mp inLookedUp with ⟨entry, inCrossing, same⟩
    rcases exists_result_of_mem finished inCrossing with ⟨lookup, member, done⟩
    rw [same, answered] at done
    exact ⟨lookup, member, (Except.ok.inj done) ▸ fact⟩
  · rintro ⟨lookup, member, fact⟩
    rcases exists_item_of_mem finished member with ⟨entry, inCrossing, done⟩
    rcases bind_eq_ok_iff.mp done with ⟨answer, answered, same⟩
    rw [← Except.ok.inj same] at fact
    exact ⟨entry.1, List.mem_map_of_mem inCrossing, answer, answered, fact⟩

end Lookups

/-- A chain changes neither the group of a membership nor its historical SIDs. -/
theorem foldl_resourceMemberships (lookups : List ResourceLookup)
    (totals : GroupSidHistoryTotals) :
    (resourceMemberships account lookups).foldl GroupSidHistoryTotals.add totals =
      (lookups.flatMap (fun lookup => lookup.answer.memberships)).foldl
        GroupSidHistoryTotals.add totals := by
  induction lookups generalizing totals with
  | nil => rfl
  | cons lookup rest known =>
      rw [resourceMemberships, List.flatMap_cons, List.flatMap_cons, List.foldl_append,
        List.foldl_append, List.foldl_map]
      have same : (fun totals membership => GroupSidHistoryTotals.add totals
          (chainThrough account lookup.homePath membership)) = GroupSidHistoryTotals.add := by
        funext totals membership
        cases lookup.homePath <;> rfl
      rw [same]
      exact known _

theorem resourceMemberships_groupSids (lookups : List ResourceLookup) (group : Sid) :
    group ∈ (resourceMemberships account lookups).map GroupMembership.groupSid ↔
      ∃ lookup ∈ lookups, group ∈ lookup.answer.memberships.map GroupMembership.groupSid := by
  have same : ∀ homePath membership,
      (chainThrough account homePath membership).groupSid = membership.groupSid := by
    intro homePath membership
    cases homePath <;> rfl
  simp only [resourceMemberships, List.map_flatMap, List.map_map, List.mem_flatMap,
    Function.comp_def, same]

section Outcome

variable {lookups : List ResourceLookup}
  (finished : resourceLookups backend.resource (crossingSids account
    (backend.homeToken account trust answers).memberships) = .ok lookups)

include finished

/-- The groups returned are the groups the answers name. -/
theorem returned_iff (group : Sid) :
    group ∈ (accountResolution account trust answers (backend.homeToken account trust answers)
        lookups).memberships.map GroupMembership.groupSid ↔
      backend.Answered account trust answers group := by
  rw [Answered, answeredBy_iff finished, ← resourceMemberships_groupSids, accountResolution,
    List.map_append, List.map_append, List.mem_append, List.mem_append, or_assoc,
    List.map_singleton, List.mem_singleton]
  exact Iff.rfl

/-- The organization SID of the logon has no historical SIDs. -/
theorem groupHistoryUnread_returned :
    GroupHistoryUnread (accountResolution account trust answers
        (backend.homeToken account trust answers) lookups).memberships ↔
      GroupHistoryUnread ((backend.homeToken account trust answers).memberships ++
        backend.answeredMemberships account trust answers) := by
  have organization : ∀ totals, (GroupSidHistoryTotals.add totals (organizationMembership account
      (backend.homeToken account trust answers).identity.name trust.attributes)).unevaluated =
        totals.unevaluated := by
    intro totals
    rw [GroupSidHistoryTotals.add]
    split <;> rfl
  rw [groupHistoryUnread_iff, groupHistoryUnread_iff, accountResolution, List.foldl_append,
    List.foldl_append, foldl_resourceMemberships, List.foldl_cons, List.foldl_nil, organization,
    List.foldl_append, answeredMemberships, lookedUp, flatMap_lookups finished]

/-- The outcome is incomplete exactly when an answer says so. -/
theorem incomplete_iff :
    (accountResolution account trust answers (backend.homeToken account trust answers)
        lookups).Incomplete ↔ backend.Reported account trust answers := by
  have gaps : (accountResolution account trust answers (backend.homeToken account trust answers)
      lookups).groupResolutionGaps ≠ [] ↔ homeGaps answers.home ≠ [] ∨
        (backend.homeToken account trust answers).outcome.notModelled ≠ [] ∨
        backend.AnsweredBy account trust answers (fun answer => answer.gaps ≠ []) := by
    rw [answeredBy_iff finished, accountResolution]
    simp only [ne_eq, List.append_eq_nil_iff, List.map_eq_nil_iff, List.flatMap_eq_nil_iff,
      not_and_or, not_forall, or_assoc, exists_prop]
  rw [PrincipalResolution.Incomplete, gaps, groupHistoryUnread_returned finished, Reported]
  simp [accountResolution, PrincipalResolution.lookupFailureReason,
    PrincipalResolution.groupFailureReason, PrincipalResolution.unresolvableReason, or_assoc]

/-- The markers of an account of a trusted domain. -/
theorem reported_iff :
    (∃ marker ∈ (accountResolution account trust answers (backend.homeToken account trust answers)
          lookups).diagnostics ++
        (accountResolution account trust answers (backend.homeToken account trust answers)
          lookups).membershipDiagnostics, marker.isIncompletenessTrigger = true) ↔
      backend.Reported account trust answers := by
  rw [trigger_iff_marked, marked_append, PrincipalResolution.marked_iff, incomplete_iff finished,
    accountResolution, marked_pushDiagnostics]
  simp

/-- A SID that was looked up and whose groups the connection shows leaves no
group unseen, unless its answer carries a gap. -/
theorem answered_of_shown (quiet : ¬backend.Reported account trust answers) {via : Sid}
    (inLookedUp : via ∈ backend.lookedUp account trust answers)
    (shown : backend.ShowsGroups truth via) {group : Sid} (contains : group ∈ truth.localGroups via) :
    backend.Answered account trust answers group := by
  rcases List.mem_map.mp inLookedUp with ⟨entry, inCrossing, same⟩
  rcases exists_result_of_mem finished inCrossing with ⟨lookup, member, done⟩
  rcases bind_eq_ok_iff.mp done with ⟨answer, answered, _⟩
  rw [same] at answered
  have complete : answer.gaps = [] := by
    by_contra incomplete
    exact quiet (.inr (.inr (.inl ⟨via, inLookedUp, answer, answered, incomplete⟩)))
  exact .inr (.inl ⟨via, inLookedUp, answer, answered, shown answer answered complete group contains⟩)

end Outcome

/-- Every resource-domain group of the token is returned, or a marker says that
the result may be incomplete, exactly when some answer says that it is
incomplete or no group stays unseen.  A historical SID is never looked up, so
its groups count as unseen, and so do the groups that a Global Catalog or a
partial base leaves out without a gap. -/
theorem keepsOrReports_iff {resolution : PrincipalResolution}
    (resolved : backend.resolveAccount account trust = .ok resolution) :
    truth.KeepsOrReports account trust resolution ↔
      backend.DirectoriesSuffice truth account trust := by
  rcases resolveAccount_spec resolved with ⟨answers, lookups, answered, finished, same⟩
  have unique : ∀ other, backend.homeAnswers account trust = .ok other → other = answers := by
    intro other again
    exact Except.ok.inj (again.symm.trans answered)
  rw [same, TrustGroundTruth.KeepsOrReports, reported_iff finished]
  simp only [returned_iff finished]
  constructor
  · rintro (kept | reported)
    · exact ⟨answers, answered, .inr (fun via inToken _ => kept via inToken)⟩
    · exact ⟨answers, answered, .inl reported⟩
  · rintro ⟨other, again, enough⟩
    rw [unique other again] at enough
    by_cases reported : backend.Reported account trust answers
    · exact .inr reported
    · refine .inl (fun via inToken group contains => ?_)
      by_cases seen : via ∈ backend.lookedUp account trust answers ∧ backend.ShowsGroups truth via
      · exact answered_of_shown finished reported seen.1 seen.2 contains
      · exact (enough.resolve_left reported) via inToken (not_and_or.mp seen) group contains

end LdapTrustedDomainBackend

/-! ## An account that moved between the domains of a forest -/

namespace MovedAccount

open LdapTrustedDomainBackend

def accountSid : Sid := ⟨"S-1-5-21-1-1-1-1103"⟩

/-- The SID the account had in the other domain. -/
def formerSid : Sid := ⟨"S-1-5-21-2-2-2-1103"⟩

def domainUsers : Sid := ⟨"S-1-5-21-1-1-1-513"⟩

/-- A domain-local group of the resource domain. -/
def projectGroup : Sid := ⟨"S-1-5-21-9-9-9-2001"⟩

def accountEntry : RawEntry where
  dn := "CN=Anna,CN=Users,DC=partner,DC=test"
  attrs := [("objectClass", ["user"]), ("sAMAccountName", ["anna"])]
  binAttrs := [("sIDHistory", [[1, 5, 0, 0, 0, 0, 0, 5, 21, 0, 0, 0, 2, 0, 0, 0, 2, 0, 0, 0,
    2, 0, 0, 0, 79, 4, 0, 0]])]

def membershipIn (member group : Sid) : GroupMembership where
  memberSid := member
  groupSid := group
  direct := true

/-- A domain controller of the trusted domain. -/
def partnerController : LdapResolver where
  config := { baseDn := "DC=partner,DC=test", globalCatalog := false }
  connect := .ok ()
  searchBySid := fun sid => .ok (if sid = accountSid then some accountEntry else none)
  searchByUpn := fun _ => .ok none
  searchAllBySamaccount := fun _ => .ok []
  searchForestDomainSids := .ok []
  searchDomainSid := fun _ => .ok (some "S-1-5-21-1-1-1")
  searchDomainTrusts := fun _ => .ok []
  searchRootDomainNc := .ok none
  searchTokenGroupsGlobalAndUniversal := fun _ => .ok (some [domainUsers.value])
  resolveGroupMemberships := fun sid => .ok { memberships := [membershipIn sid domainUsers] }

/-- The resource domain with one Foreign Security Principal, whose group search
shows some of its groups. -/
def resourceController (globalCatalog : Bool) (principal : Sid) (shown : List Sid) :
    LdapResolver where
  config := { baseDn := "DC=corp,DC=test", globalCatalog := globalCatalog }
  connect := .ok ()
  searchBySid := fun sid => .ok (if sid = principal then
    some { dn := "CN=FSP,CN=ForeignSecurityPrincipals,DC=corp,DC=test" } else none)
  searchByUpn := fun _ => .ok none
  searchAllBySamaccount := fun _ => .ok []
  searchForestDomainSids := .ok []
  searchDomainSid := fun _ => .ok (some "S-1-5-21-9-9-9")
  searchDomainTrusts := fun _ => .ok []
  searchRootDomainNc := .ok none
  searchTokenGroupsGlobalAndUniversal := fun _ => .ok none
  resolveGroupMemberships := fun sid => .ok { memberships := shown.map (membershipIn sid) }

/-- A forest trust whose forest has a second domain. -/
def forestTrust : TrustContext where
  partner := "partner.test"
  domainSid := "S-1-5-21-1-1-1"
  attributes := ⟨0x8#32⟩
  forest := some
    { trustPartner := "partner.test"
      domainSids := ["S-1-5-21-1-1-1", "S-1-5-21-2-2-2"]
      infoError := none }

/-- The project group contains one SID as a Foreign Security Principal. -/
def groundTruth (principal : Sid) : TrustGroundTruth where
  tokenGroups := fun sid => if sid = accountSid then [domainUsers] else []
  sidHistory := fun sid => if sid = accountSid then [formerSid] else []
  localGroups := fun sid => if sid = principal then [projectGroup] else []

/-- The group of the former SID is not looked up. -/
def movedAway : LdapTrustedDomainBackend where
  trusted := partnerController
  resource := resourceController false formerSid [projectGroup]

/-- A Global Catalog shows no domain-local group. -/
def throughCatalog : LdapTrustedDomainBackend where
  trusted := partnerController
  resource := resourceController true accountSid []

/-- The groups of a resolution and whether a marker says that it may be
incomplete. -/
def outcome (backend : LdapTrustedDomainBackend) : Except CoreError (List Sid × Bool) :=
  (backend.resolveAccount accountSid forestTrust).map (fun resolution =>
    (resolution.memberships.map GroupMembership.groupSid,
      (resolution.diagnostics ++ resolution.membershipDiagnostics).any
        PermissionDiagnostic.isIncompletenessTrigger))

theorem resolved_of_outcome {backend : LdapTrustedDomainBackend} {groups : List Sid} {marked : Bool}
    (computed : (outcome backend).toOption = some (groups, marked)) :
    ∃ resolution, backend.resolveAccount accountSid forestTrust = .ok resolution ∧
      resolution.memberships.map GroupMembership.groupSid = groups ∧
      (resolution.diagnostics ++ resolution.membershipDiagnostics).any
        PermissionDiagnostic.isIncompletenessTrigger = marked := by
  rw [outcome] at computed
  cases resolved : backend.resolveAccount accountSid forestTrust with
  | error reason =>
      rw [resolved] at computed
      cases computed
  | ok resolution =>
      rw [resolved] at computed
      have pair := Prod.mk.inj (Option.some.inj computed)
      exact ⟨resolution, rfl, pair.1, pair.2⟩

/-- A token SID whose group is neither returned nor reported. -/
theorem dropped_of_outcome {backend : LdapTrustedDomainBackend} {principal : Sid}
    (groups : List Sid) (computed : (outcome backend).toOption = some (groups, false))
    (inToken : principal ∈ (groundTruth principal).tokenSids accountSid forestTrust)
    (absent : projectGroup ∉ groups) :
    ∃ resolution, backend.resolveAccount accountSid forestTrust = .ok resolution ∧
      ¬(groundTruth principal).KeepsOrReports accountSid forestTrust resolution := by
  rcases resolved_of_outcome computed with ⟨resolution, resolved, returned, unmarked⟩
  refine ⟨resolution, resolved, ?_⟩
  rintro (kept | ⟨marker, member, trigger⟩)
  · have contains : projectGroup ∈ (groundTruth principal).localGroups principal := by
      change projectGroup ∈ if principal = principal then [projectGroup] else []
      rw [if_pos rfl]
      exact List.mem_singleton_self projectGroup
    have found := kept principal inToken projectGroup contains
    rw [returned] at found
    exact absent found
  · exact List.any_eq_false.mp unmarked marker member trigger

/-- The group of the former SID is neither returned nor reported, and neither is
the group of the account itself when the resource domain answers through a
Global Catalog. -/
theorem projectGroup_unreported :
    (∃ resolution, movedAway.resolveAccount accountSid forestTrust = .ok resolution ∧
      ¬(groundTruth formerSid).KeepsOrReports accountSid forestTrust resolution) ∧
    ∃ resolution, throughCatalog.resolveAccount accountSid forestTrust = .ok resolution ∧
      ¬(groundTruth accountSid).KeepsOrReports accountSid forestTrust resolution := by
  constructor
  · refine dropped_of_outcome [domainUsers, ⟨"S-1-5-15"⟩] ?_ ?_ ?_
    · decide
    · decide
    · decide
  · refine dropped_of_outcome [domainUsers, ⟨"S-1-5-15"⟩] ?_ ?_ ?_
    · decide
    · decide
    · decide

/-- Where the account itself is the Foreign Security Principal and the resource
domain shows its group, the condition and the property are the same. -/
theorem keepsOrReports_iff_ownPrincipal :
    ∃ resolution, LdapTrustedDomainBackend.resolveAccount
        { trusted := partnerController
          resource := resourceController false accountSid [projectGroup] }
        accountSid forestTrust = .ok resolution ∧
      ((groundTruth accountSid).KeepsOrReports accountSid forestTrust resolution ↔
        DirectoriesSuffice
          { trusted := partnerController
            resource := resourceController false accountSid [projectGroup] }
          (groundTruth accountSid) accountSid forestTrust) := by
  have computed : (outcome
      { trusted := partnerController
        resource := resourceController false accountSid [projectGroup] }).toOption =
      some ([domainUsers, projectGroup, ⟨"S-1-5-15"⟩], false) := by
    decide
  rcases resolved_of_outcome computed with ⟨resolution, resolved, _⟩
  exact ⟨resolution, resolved, keepsOrReports_iff resolved⟩

end MovedAccount
end AdResolver
end Stars
