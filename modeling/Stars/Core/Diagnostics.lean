import Stars.Core.FileSystem

namespace Stars

/-!
# Diagnostic markers

A result carries structured markers next to its masks.  `uncertainLayer` is the
single classification of a marker: it names the part of the result the marker
makes not determinable, and `none` when the result stays exact.  The texts of
`summary` matter as data, because the reasons of a result are listed without
repeating an equal text.
-/

/-- Why an effective right lacks SYNCHRONIZE. -/
inductive SynchronizeGap where
  | deniedByNtfsAce
  | notGrantedByNtfs
  | notGrantedByShare
deriving DecidableEq

def SynchronizeGap.label : SynchronizeGap → String
  | .deniedByNtfsAce =>
      "a Deny ACE takes it away — e.g. the basic permission \"Write\" denied, which " ++
      "includes Synchronize"
  | .notGrantedByNtfs => "no NTFS ACE grants it"
  | .notGrantedByShare => "the share permission does not grant it"

/-- Which part of a result an uncertainty affects. -/
inductive UncertainLayer where
  | token
  | ntfs
  | share
  | logon
  | target
deriving DecidableEq

/-- One reason why a result is not determinable. -/
structure Uncertainty where
  layer : UncertainLayer
  reason : String
deriving DecidableEq

inductive PermissionDiagnostic where
  | nonCanonicalDaclOrder (atIndex : Nat)
  | inheritedDenyAfterInheritedAllow (atIndex : Nat)
  | unsupportedShareAces (count : Nat)
  | unsupportedNtfsAces (count : Nat)
  | domainGroupRecursionIncomplete
  | identityDisabled
  | identityNotInConfiguredLdapBase
  | identityDisabledStatusUnknown
  | identityLookupFailed (reason : String)
  | groupResolutionFailed (reason : String)
  | ownerRightsAceApplied
  | identityResolvedViaForeignSecurityPrincipal
  | groupResolutionViaGlobalCatalog
  | persistedEvidenceDecodeFailed (detail : String)
  | sidHistoryPresent (count : Nat)
  | sidHistoryEvaluated (count : Nat)
  | groupSidHistoryEvaluated (groups count : Nat)
  | groupSidHistoryPresent (count : Nat)
  | trustBoundaryEffectsNotModeled
  | membersViaPrimaryGroupIncluded (count : Nat)
  | groupMemberEnumerationIncomplete (reason : String)
  | universalGroupCrossDomainMembersNotVisible
  | identityNotResolvable (reason : String)
  | trustedDomainAccountResolved (domain : String) (homeOnlyGroups sidFiltered : List String)
  | selectiveAuthenticationAllowed (server via : String)
  | selectiveAuthenticationDenied (server : String)
  | selectiveAuthenticationUnknown (server reason : String) (affectsResult : Bool)
  | synchronizeNotGranted (cause : SynchronizeGap) (certain : Bool)
  | dfsTargetEvaluated (requested target : String) (folder : Option String)
      (otherTargets : List String) (otherTargetsKnown : Bool)
  | linkObject (linkKind : LinkKind) (target : String)
  | directoryIdentityUnknown (reason : String)
  | identityOrphaned
  | logonDependentTrustees (sids : List Sid) (minMask maxMask : AccessMask)
  | groupResolutionIncomplete (reason : String)
  | nonSecurityGroupsExcluded (groups : List String)
  | uacFilteredGroups (groups : List String)
  | guestOrAnonymousToken (sids : List Sid)
  | remoteUacPolicy (filtered : Bool) (reason : String)
deriving DecidableEq

namespace DfsEvaluation

/-- A namespace root has at most two path components; anything longer is a
folder. -/
def entryLabel (entry : String) : String :=
  let parts := (Text.split '\\' entry.toList).filter (fun part => !part.isEmpty)
  if parts.length ≤ 2 then s!"DFS namespace root {entry}" else s!"DFS folder {entry}"

/-- The marker the result carries. -/
def marker (dfs : DfsEvaluation) : PermissionDiagnostic :=
  .dfsTargetEvaluated dfs.requested dfs.target dfs.folder dfs.otherTargets dfs.otherTargetsKnown

end DfsEvaluation

namespace PermissionDiagnostic

open Text

/-- Left-out and filtered groups of a trusted-domain account, when there are
any. -/
private def trustedDomainRemarks (domain : String) (homeOnlyGroups sidFiltered : List String) :
    String :=
  let homeOnly := join ", " homeOnlyGroups
  let filtered := join ", " sidFiltered
  (if homeOnlyGroups.isEmpty then ""
    else s!" Left out because they apply only inside {domain}: its memberships in " ++
      s!"{homeOnly}.                          (Builtin groups of this domain, such " ++
      "as Users through Authenticated                          Users, are evaluated on their own.)") ++
  (if sidFiltered.isEmpty then ""
    else s!" Removed by the trust's SID filtering: {filtered}.")

/-- Concise, single-line reason, shared by every surface. -/
def summary : PermissionDiagnostic → String
  | .inheritedDenyAfterInheritedAllow atIndex =>
      s!"An inherited Allow ACE precedes an inherited Deny ACE (first at ACE #{atIndex}). This is " ++
      "canonical when they come from different ancestor levels (Windows orders inherited ACEs " ++
      "level by level) and non-canonical when they come from the same one — the DACL alone does " ++
      "not say which. The result is unaffected: it is evaluated in stored order like Windows."
  | .nonCanonicalDaclOrder atIndex =>
      s!"Non-canonical DACL order (first at ACE #{atIndex}); evaluated in stored order like " ++
      "Windows, may differ from canonical expectations."
  | .unsupportedShareAces count =>
      s!"{count} share ACE(s) could not be evaluated (unsupported type, unreadable trustee, or a " ++
      "trustee whose presence depends on how the user logs on) — the share mask is potentially " ++
      "incomplete."
  | .unsupportedNtfsAces count =>
      s!"{count} NTFS ACE(s) could not be evaluated (unsupported type, an unreadable trustee SID, " ++
      "or a DACL that could not be read at all) — a hidden Deny among them could change the result."
  | .domainGroupRecursionIncomplete =>
      "Group resolution used the SAM/LSA fallback (no LDAP); nested domain groups are not " ++
      "resolved recursively, ACEs on them may be missed."
  | .identityDisabled =>
      "Identity is flagged disabled in AD — rights are ACL-theoretically correct, but the account " ++
      "normally cannot authenticate."
  | .identityNotInConfiguredLdapBase =>
      "Identity resolved via LSA but the configured LDAP base DN does not index its SID; " ++
      "cross-domain nested memberships may be missing."
  | .identityDisabledStatusUnknown =>
      "The disabled flag for this identity could not be determined — rights are correct, but " ++
      "whether the account is enabled is unknown."
  | .identityLookupFailed reason =>
      s!"LDAP identity lookup failed ({reason}); analysis ran with a placeholder identity, ACEs " ++
      "on domain groups may be missing."
  | .groupResolutionFailed reason =>
      s!"Recursive group resolution failed or was skipped ({reason}); ACEs on domain groups may " ++
      "be missing."
  | .ownerRightsAceApplied =>
      "OWNER RIGHTS (S-1-3-4) ACE governs the owner's rights; the implicit READ_CONTROL + " ++
      "WRITE_DAC owner grant was suppressed. Exact — informational."
  | .identityResolvedViaForeignSecurityPrincipal =>
      "Identity is a trust-forest principal resolved via a Foreign Security Principal; its " ++
      "memberships in its own forest are unknown."
  | .groupResolutionViaGlobalCatalog =>
      "Memberships came from a Global Catalog bind; only universal groups replicate fully to the " ++
      "GC, foreign-domain global/domain-local may be missing."
  | .persistedEvidenceDecodeFailed detail =>
      s!"A persisted (historical) row could not be fully decoded ({detail}); the reconstructed " ++
      "result may be less complete than the original."
  | .sidHistoryPresent count =>
      s!"Identity carries {count} historical SID(s) (sIDHistory) that were NOT evaluated into the " ++
      "token — effective rights may be understated."
  | .sidHistoryEvaluated count =>
      s!"{count} historical SID(s) (sIDHistory) of this identity were evaluated into the token — " ++
      "ACEs referencing an old SID match like in the real logon token (see the explanation path)."
  | .groupSidHistoryEvaluated groups count =>
      s!"{count} historical SID(s) (sIDHistory) carried by {groups} token group(s) were evaluated " ++
      "into the token — ACEs referencing a migrated group's old SID match like in the real logon " ++
      "token (see the membership steps)."
  | .groupSidHistoryPresent count =>
      s!"{count} historical SID(s) (sIDHistory) on token groups could NOT be evaluated into the " ++
      "token — effective rights may be understated."
  | .trustBoundaryEffectsNotModeled =>
      "Identity resolved across a domain/trust boundary; if it is a forest trust, SID filtering " ++
      "and Selective Authentication may reduce actual access (not modeled)."
  | .membersViaPrimaryGroupIncluded count =>
      s!"{count} member(s) were found via their primaryGroupID — accounts whose primary group is " ++
      "this group do not appear in the 'member' attribute and are included here so the count is " ++
      "complete."
  | .groupMemberEnumerationIncomplete reason =>
      s!"Group members could not be enumerated completely ({reason}); the member list is a lower " ++
      "bound and may be missing entries."
  | .universalGroupCrossDomainMembersNotVisible =>
      "This is a universal group queried over a domain bind — members from other domains of the " ++
      "forest are not visible here, so in a multi-domain forest the list may be incomplete."
  | .trustedDomainAccountResolved domain homeOnlyGroups sidFiltered =>
      s!"Account of the trusted domain {domain}, resolved on a domain controller of {domain}: its " ++
      "global and universal groups there count (as Windows hands them to other domains), plus the " ++
      "domain-local groups of this domain it reaches through a Foreign Security Principal." ++
        trustedDomainRemarks domain homeOnlyGroups sidFiltered
  | .selectiveAuthenticationAllowed server via =>
      s!"The trust uses Selective Authentication; the account may authenticate to {server} — " ++
      s!"\"Allowed to authenticate\" is granted to {via}."
  | .selectiveAuthenticationDenied server =>
      "The trust uses Selective Authentication, and neither the account nor a group in its " ++
      s!"token has \"Allowed to authenticate\" on {server}: Windows refuses the logon (error 1935), " ++
      "so the account has no access there, whatever the permissions grant."
  | .selectiveAuthenticationUnknown server reason true =>
      "The trust uses Selective Authentication, and whether the account may authenticate to " ++
      s!"{server} is not determinable ({reason}) — the effective right lies between No access and " ++
      "what the permissions grant."
  | .selectiveAuthenticationUnknown server reason false =>
      "The trust uses Selective Authentication, and whether the account may authenticate to " ++
      s!"{server} is not determinable ({reason}) — the permissions grant nothing here, so the " ++
      "effective right is No access either way."
  | .linkObject linkKind target =>
      let what := match linkKind with
        | .junction => "a junction"
        | .symbolicLink => "a symbolic link"
      s!"This object is {what} to {target}: the rights shown are those on the link itself (who " ++
      "can delete it or change its permissions). Opening this path reaches the target, and the " ++
      "target's own permissions decide what an account can do there."
  | .directoryIdentityUnknown reason =>
      s!"The volume serial and file ID of this folder could not be read over SMB ({reason}), so a " ++
      "second route to it through a link in this scan is not recognized — its content may be " ++
      "listed twice. The values are exact."
  | .dfsTargetEvaluated requested target folder otherTargets otherTargetsKnown =>
      let folderText := match folder with
        | some entry => s!" ({DfsEvaluation.entryLabel entry})"
        | none => ""
      let others := join ", " otherTargets
      s!"DFS path {requested}{folderText}: evaluated on {target}, the target this machine is " ++
      "referred to — the share permissions, local groups and policies of that server apply, not " ++
      "those of the namespace server." ++
        (if !otherTargets.isEmpty then
          s!" The folder has further targets ({others}); a client referred to one " ++
          "of them can get other rights, so the result is not determinable for every client — scan " ++
          "each target's share on its own."
        else if !otherTargetsKnown then
          " Whether the folder has further targets could not be read, so a client referred " ++
          "elsewhere may get other rights."
        else "")
  | .synchronizeNotGranted cause certain =>
      let opening := if certain then "SYNCHRONIZE is not granted"
        else "From the known data, SYNCHRONIZE is not granted"
      s!"{opening} ({cause.label}). Explorer and most Windows programs request it with every open " ++
      "(CreateFile), locally and over SMB, so they get \"access denied\" for this object. The " ++
      "rights shown are nevertheless real: a program that opens without SYNCHRONIZE can use them " ++
      "(lab-measured: reading and listing through the native API, deleting, reading the " ++
      "permissions)."
  | .identityNotResolvable reason =>
      s!"The identity could not be resolved: {reason}. Its group memberships are unknown, so the " ++
      "rights computed for the bare SID can be too low or too high."
  | .identityOrphaned =>
      "The SID has no account in its domain any more (orphaned / deleted account): nobody can log " ++
      "on with it. The rights shown are what a logon with this SID would get; an ACE naming it is " ++
      "a dead entry."
  | .logonDependentTrustees sids minMask maxMask =>
      let trustees := join ", " (sids.map Sid.value)
      s!"ACE(s) for {trustees} apply only for certain logons " ++
      "(authentication type, organization, logon type, User Account Control filtering), which " ++
      s!"Stars does not model — the NTFS right lies between 0x{hex8 minMask} and 0x{hex8 maxMask}."
  | .groupResolutionIncomplete reason => s!"Group resolution is incomplete: {reason}."
  | .nonSecurityGroupsExcluded groups =>
      let names := join "; " groups
      s!"{groups.length} group(s) are not in the token and were left out — Windows ignores " ++
      s!"distribution groups and nesting through them: {names}."
  | .remoteUacPolicy filtered reason =>
      let effect := if filtered then
          "filters this local account's token: the administrative groups are deny-only, their " ++
          "Allow ACEs do not apply"
        else
          "does not filter this local account's token: the administrative groups are enabled"
      s!"User Account Control {effect} — {reason}."
  | .guestOrAnonymousToken sids =>
      let wellKnowns := join ", " (sids.map Sid.value)
      s!"Guest / anonymous logon: {wellKnowns} not in this token the way it is " ++
      "for other accounts — Authenticated Users is never in a Guest or anonymous token " ++
      "(lab-measured), so its ACEs do not apply; Everyone is in an anonymous token only when the " ++
      "target sets EveryoneIncludesAnonymous = 1. Stars reads that policy on the target; only " ++
      "where it cannot be read do ACEs for Everyone bound an anonymous result."
  | .uacFilteredGroups groups =>
      let names := join ", " groups
      s!"User Account Control may filter {names} out of the token (deny-only): in a " ++
      "local session that is not elevated, and for a local account over the network unless " ++
      "LocalAccountTokenFilterPolicy = 1 (built-in Administrator: only with " ++
      "FilterAdministratorToken = 1). Stars cannot see elevation or these settings: Deny ACEs for " ++
      "them apply, Allow ACEs bound the result."

/-- Which part of a result this marker makes not determinable. -/
def uncertainLayer : PermissionDiagnostic → Option UncertainLayer
  | .unsupportedShareAces _ => some .share
  | .unsupportedNtfsAces _ | .logonDependentTrustees _ _ _ => some .ntfs
  | .domainGroupRecursionIncomplete | .identityNotInConfiguredLdapBase
  | .identityLookupFailed _ | .groupResolutionFailed _
  | .identityResolvedViaForeignSecurityPrincipal | .groupResolutionViaGlobalCatalog
  | .persistedEvidenceDecodeFailed _ | .sidHistoryPresent _ | .groupSidHistoryPresent _
  | .groupMemberEnumerationIncomplete _ | .universalGroupCrossDomainMembersNotVisible
  | .identityNotResolvable _ | .groupResolutionIncomplete _ => some .token
  | .selectiveAuthenticationUnknown _ _ affectsResult =>
      if affectsResult then some .logon else none
  | .dfsTargetEvaluated _ _ _ otherTargets otherTargetsKnown =>
      if !otherTargets.isEmpty || !otherTargetsKnown then some .target else none
  | .nonCanonicalDaclOrder _ | .linkObject _ _ | .directoryIdentityUnknown _
  | .trustedDomainAccountResolved _ _ _ | .selectiveAuthenticationAllowed _ _
  | .selectiveAuthenticationDenied _ | .synchronizeNotGranted _ _
  | .inheritedDenyAfterInheritedAllow _ | .identityDisabled | .identityDisabledStatusUnknown
  | .ownerRightsAceApplied | .trustBoundaryEffectsNotModeled | .sidHistoryEvaluated _
  | .groupSidHistoryEvaluated _ _ | .membersViaPrimaryGroupIncluded _ | .identityOrphaned
  | .nonSecurityGroupsExcluded _ | .uacFilteredGroups _ | .guestOrAnonymousToken _
  | .remoteUacPolicy _ _ => none

/-- Whether the marker means that the computed rights may be wrong. -/
def isIncompletenessTrigger (diagnostic : PermissionDiagnostic) : Bool :=
  diagnostic.uncertainLayer.isSome

end PermissionDiagnostic

/-! ## Markers derived from historical SIDs -/

/-- The markers of an identity's own historical SIDs: parsed values are
evaluated, the remainder of the reported total is not. -/
def Identity.sidHistoryDiagnostics (identity : Identity) : List PermissionDiagnostic :=
  let evaluated := identity.sidHistory.length
  let unevaluated := identity.sidHistoryCount - evaluated
  (if evaluated > 0 then [.sidHistoryEvaluated evaluated] else []) ++
    (if unevaluated > 0 then [.sidHistoryPresent unevaluated] else [])

/-- Running totals over the memberships, with the group SIDs met so far. -/
structure GroupSidHistoryTotals where
  seen : List Sid := []
  groups : Nat := 0
  evaluated : Nat := 0
  unevaluated : Nat := 0

/-- One membership: a group SID that was met before is skipped, and so is a
group without historical SIDs. -/
def GroupSidHistoryTotals.add (totals : GroupSidHistoryTotals) (membership : GroupMembership) :
    GroupSidHistoryTotals :=
  if membership.groupSid ∈ totals.seen then totals
  else
    let totals := { totals with seen := membership.groupSid :: totals.seen }
    if membership.groupSidHistoryCount = 0 then totals
    else
      let parsed := membership.groupSidHistory.length
      { totals with
        groups := if parsed > 0 then totals.groups + 1 else totals.groups
        evaluated := totals.evaluated + parsed
        unevaluated := totals.unevaluated + (membership.groupSidHistoryCount - parsed) }

/-- The markers of the groups' historical SIDs across a membership list. -/
def groupSidHistoryDiagnostics (memberships : List GroupMembership) : List PermissionDiagnostic :=
  let totals := memberships.foldl GroupSidHistoryTotals.add {}
  (if totals.evaluated > 0 then
    [.groupSidHistoryEvaluated totals.groups totals.evaluated] else []) ++
    (if totals.unevaluated > 0 then [.groupSidHistoryPresent totals.unevaluated] else [])

end Stars
