import Stars.Core.Result
import Stars.PermissionEngine.DaclWalk

namespace Stars

open PermissionEngine

/-!
# Evaluation of effective permissions

One evaluation, from its input to the finished result.  The intermediate values
keep the names of the evaluation's own variables.  An evaluation has no error
path: every input gives a result, and whatever is missing becomes a marker of
it.  The markers are listed in the order in which they are pushed.
-/

namespace PermissionEvaluationInput

variable (input : PermissionEvaluationInput)

def denyOnlySids : Finset Sid := input.uacFilteredGroupSids.toFinset

/-- The collected token without the groups that may be filtered, and with
Everyone where the target's policy puts it into an anonymous token. -/
def enabledSids : Finset Sid :=
  let collected := collectUserSids input.identity input.groupMemberships input.localGroupSids
    input.accessContext \ input.denyOnlySids
  if anonymousGetsEveryone input.identity.sid input.anonymousEveryone then
    insert sidEveryone collected
  else collected

def cryptoOperatorsUncertain : Bool := sidCryptographicOperators ∈ input.enabledSids

/-- The SIDs that are certainly enabled in the token. -/
def userSids : Finset Sid := input.enabledSids.erase sidCryptographicOperators

def userIsOwner : Bool := input.fileSystemObject.ownerSid.any (fun owner => owner ∈ input.userSids)

/-- An OWNER RIGHTS entry replaces the implicit owner grant. -/
def ownerRightsAcePresent : Bool := input.userIsOwner && ownerRightsAce input.fileSystemObject.dacl

/-- The SIDs entries are matched against; OWNER RIGHTS names the owner. -/
def matchSids : Finset Sid :=
  if input.userIsOwner then insert sidOwnerRights input.userSids else input.userSids

/-- Remote User Account Control is decided: the filtered groups are certainly
deny-only. -/
def uacFilterCertain : Bool :=
  match input.remoteUac with
  | .filtered _ => true
  | _ => false

/-- The owner, when it is a group whose filtering is not decided. -/
def uncertainOwner : Option Sid :=
  input.fileSystemObject.ownerSid.filter
    (fun owner => owner ∈ input.denyOnlySids && !input.uacFilterCertain)

/-- The walk over the object's list.  A NULL DACL grants full access. -/
def walk : DaclWalkOutcome :=
  if input.fileSystemObject.nullDacl then { granted := maskFullControl }
  else walkDaclStoredOrder input.fileSystemObject.dacl input.matchSids input.denyOnlySids

def ownerImplicitBits : AccessMask :=
  if input.userIsOwner && !input.ownerRightsAcePresent then fileReadControl ||| fileWriteDac
  else 0#32

def ntfsRaw : AccessMask := input.walk.granted ||| input.ownerImplicitBits

def deniedRaw : AccessMask := input.walk.denied

/-- Groups that may be in the token, whichever reason makes them uncertain. -/
def logonDependentGroups : Finset Sid :=
  let listed := input.logonDependentGroupSids.toFinset
  (if input.cryptoOperatorsUncertain then insert sidCryptographicOperators listed else listed) ∪
    (uncertainWellKnownsWith input.identity.sid input.anonymousEveryone).toFinset

def logonDependent : Option LogonDependentBounds :=
  if input.fileSystemObject.nullDacl then none
  else
    logonDependentBounds input.fileSystemObject.dacl input.matchSids input.accessContext
      input.logonDependentGroups input.denyOnlySids input.ownerImplicitBits input.uncertainOwner
      input.uacFilterCertain

def shareMaskForOutput : Option AccessMask :=
  match input.shareStatus with
  | .applied mask => some mask
  | _ => none

def outputShareStatus : ShareEvalStatus :=
  match input.shareStatus with
  | .notApplicable => .notApplicable
  | .applied _ => .applied
  | .unrestricted => .unrestricted
  | .readFailed reason => .readFailed reason

def effectiveRaw : AccessMask :=
  match input.shareStatus with
  | .applied mask => input.ntfsRaw &&& mask
  | _ => input.ntfsRaw

end PermissionEvaluationInput

namespace PermissionEngine

/-- What the order of an access list says about canonical form. -/
inductive DaclOrderFinding where
  | nonCanonical (atIndex : Nat)
  | inheritedLevelsUnknown (atIndex : Nat)
deriving DecidableEq

/-- What the entries before a position leave behind. -/
structure DaclOrderState where
  seenInherited : Bool := false
  seenExplicitAllow : Bool := false
  seenInheritedAllow : Bool := false
  ambiguous : Option Nat := none

/-- The scan from an entry with a given index on. -/
def daclOrderFrom (state : DaclOrderState) (index : Nat) : List AceEntry → Option DaclOrderFinding
  | [] => state.ambiguous.map .inheritedLevelsUnknown
  | ace :: rest =>
      match ace.inherited, ace.kind with
      | false, .deny =>
          if state.seenInherited || state.seenExplicitAllow then some (.nonCanonical index)
          else daclOrderFrom state (index + 1) rest
      | false, .allow =>
          if state.seenInherited then some (.nonCanonical index)
          else daclOrderFrom { state with seenExplicitAllow := true } (index + 1) rest
      | true, .deny =>
          let ambiguous :=
            if state.seenInheritedAllow && state.ambiguous.isNone then some index
            else state.ambiguous
          daclOrderFrom { state with seenInherited := true, ambiguous := ambiguous } (index + 1) rest
      | true, .allow =>
          daclOrderFrom { state with seenInherited := true, seenInheritedAllow := true }
            (index + 1) rest

def daclOrderFinding (dacl : List AceEntry) : Option DaclOrderFinding := daclOrderFrom {} 0 dacl

def collectDiagnostics (dacl : List AceEntry) : List PermissionDiagnostic :=
  match daclOrderFinding dacl with
  | some (.nonCanonical atIndex) => [.nonCanonicalDaclOrder atIndex]
  | some (.inheritedLevelsUnknown atIndex) => [.inheritedDenyAfterInheritedAllow atIndex]
  | none => []

/-- One marker under a condition. -/
def markerIf (condition : Bool) (marker : PermissionDiagnostic) : List PermissionDiagnostic :=
  if condition then [marker] else []

end PermissionEngine

namespace PermissionEvaluationInput

variable (input : PermissionEvaluationInput)

def daclMarkers : List PermissionDiagnostic :=
  (if input.fileSystemObject.nullDacl then [] else collectDiagnostics input.fileSystemObject.dacl) ++
  markerIf (input.unsupportedShareAceCount > 0)
    (.unsupportedShareAces input.unsupportedShareAceCount) ++
  markerIf (input.fileSystemObject.unsupportedAces.length > 0)
    (.unsupportedNtfsAces input.fileSystemObject.unsupportedAces.length) ++
  (match input.logonDependent with
    | some bounds => [.logonDependentTrustees bounds.sids bounds.min bounds.max]
    | none => [])

/-- Name and SID where a name is known, the SID alone otherwise. -/
def displayWithSid (sid : Sid) : String :=
  match input.sidNames.lookup sid with
  | some name => s!"{name} ({sid.value})"
  | none => sid.value

def uacMarkers : List PermissionDiagnostic :=
  markerIf (!input.uacFilteredGroupSids.isEmpty)
    (.uacFilteredGroups (input.uacFilteredGroupSids.map input.displayWithSid)) ++
  (match input.remoteUac with
    | .filtered reason => [.remoteUacPolicy true reason]
    | .notFiltered reason => [.remoteUacPolicy false reason]
    | .unknown => [])

/-- The well-knowns a Guest or anonymous token lacks or may lack. -/
def guestSids : List Sid :=
  identityAbsentWellKnowns input.identity.sid ++
    uncertainWellKnownsWith input.identity.sid input.anonymousEveryone ++
    (if input.identity.sid = sidAnonymousLogon ∧ input.anonymousEveryone = some false then
      [sidEveryone] else [])

def resolutionMarkers : List PermissionDiagnostic :=
  markerIf input.resolution.groupResolutionViaSamFallback .domainGroupRecursionIncomplete ++
  markerIf input.identity.disabled .identityDisabled ++
  markerIf input.resolution.identityNotInConfiguredLdapBase .identityNotInConfiguredLdapBase ++
  markerIf input.resolution.identityDisabledStatusUnknown .identityDisabledStatusUnknown ++
  (input.resolution.identityLookupFailureReason.map .identityLookupFailed).toList ++
  (input.resolution.groupResolutionFailureReason.map .groupResolutionFailed).toList ++
  input.resolution.groupResolutionGaps.map .groupResolutionIncomplete

def identityMarkers : List PermissionDiagnostic :=
  markerIf (!input.guestSids.isEmpty) (.guestOrAnonymousToken input.guestSids) ++
  markerIf (!input.resolution.excludedNonSecurityGroups.isEmpty)
    (.nonSecurityGroupsExcluded input.resolution.excludedNonSecurityGroups) ++
  (input.resolution.identityUnresolvableReason.map .identityNotResolvable).toList ++
  markerIf (input.identity.kind = .orphaned) .identityOrphaned ++
  markerIf input.ownerRightsAcePresent .ownerRightsAceApplied ++
  markerIf input.resolution.identityResolvedViaFsp .identityResolvedViaForeignSecurityPrincipal ++
  markerIf input.resolution.groupResolutionViaGlobalCatalog .groupResolutionViaGlobalCatalog ++
  input.identity.sidHistoryDiagnostics ++
  groupSidHistoryDiagnostics input.groupMemberships

def trustMarkers : List PermissionDiagnostic :=
  markerIf (input.resolution.identityResolvedViaFsp ||
    input.resolution.identityNotInConfiguredLdapBase) .trustBoundaryEffectsNotModeled ++
  (match input.resolution.trustedDomain with
    | some trusted =>
        .trustedDomainAccountResolved trusted.domain trusted.homeOnlyGroups trusted.sidFiltered ::
          markerIf (trusted.selectiveAuthentication && input.selectiveAuthentication.isNone)
            .trustBoundaryEffectsNotModeled
    | none => [])

def objectMarkers : List PermissionDiagnostic :=
  (input.dfs.map DfsEvaluation.marker).toList ++
  (input.fileSystemObject.link.map (fun link => .linkObject link.kind link.target)).toList ++
  (input.fileSystemObject.identityUnknown.map .directoryIdentityUnknown).toList

/-- Whether an undeterminable logon matters is decided once the result is
known; it starts as affecting the result. -/
def logonMarkers : List PermissionDiagnostic :=
  match input.selectiveAuthentication with
  | some (.allowed server via) => [.selectiveAuthenticationAllowed server via]
  | some (.denied server) => [.selectiveAuthenticationDenied server]
  | some (.unknown server reason) => [.selectiveAuthenticationUnknown server reason true]
  | none => []

def logonRefused : Bool :=
  match input.selectiveAuthentication with
  | some (.denied _) => true
  | _ => false

def diagnostics : List PermissionDiagnostic :=
  input.daclMarkers ++ input.resolutionMarkers ++ input.uacMarkers ++ input.identityMarkers ++
    input.trustMarkers ++ input.objectMarkers ++ input.logonMarkers

/-- The result before the logon decision is taken into account. -/
def draft : EffectivePermission where
  identity := input.identity
  path := input.fileSystemObject.path
  ntfsMask := input.ntfsRaw
  shareMask := input.shareMaskForOutput
  effectiveMask := input.effectiveRaw
  shareStatus := input.outputShareStatus
  localGroupStatus := input.localGroupStatus
  contributingSids := input.walk.contributions
  unsupportedAceCount := input.fileSystemObject.unsupportedAces.length
  matchedAces := collectMatchedAces input.fileSystemObject.dacl input.matchSids input.denyOnlySids
  diagnostics := input.diagnostics

theorem walk_of_dacl {input : PermissionEvaluationInput}
    (present : input.fileSystemObject.nullDacl = false) :
    input.walk =
      walkDaclStoredOrder input.fileSystemObject.dacl input.matchSids input.denyOnlySids := by
  rw [walk, if_neg (Bool.eq_false_iff.mp present)]

theorem ntfsRaw_of_dacl {input : PermissionEvaluationInput}
    (present : input.fileSystemObject.nullDacl = false) :
    input.ntfsRaw =
      (walkDaclStoredOrder input.fileSystemObject.dacl input.matchSids
        input.denyOnlySids).granted ||| input.ownerImplicitBits := by
  rw [ntfsRaw, walk_of_dacl present]

end PermissionEvaluationInput

namespace PermissionEngine

/-- An undeterminable logon that cannot change the result. -/
def withoutEffect : PermissionDiagnostic → PermissionDiagnostic
  | .selectiveAuthenticationUnknown server reason _ =>
      .selectiveAuthenticationUnknown server reason false
  | diagnostic => diagnostic

/-- Nothing is granted and only the logon is uncertain: both ends of the range
are No access, so the result is exact. -/
def settleLogon (result : EffectivePermission) : EffectivePermission :=
  if result.effectiveMask = 0#32 && result.uncertainty.all (fun entry => entry.layer = .logon) then
    { result with diagnostics := result.diagnostics.map withoutEffect }
  else result

/-- Why the effective right holds rights but not SYNCHRONIZE. -/
def synchronizeGap (result : EffectivePermission) (ntfsRaw deniedRaw : AccessMask) :
    Option SynchronizeGap :=
  if result.effectiveMask &&& ~~~fileSynchronize = 0#32 ||
      result.effectiveUpperBound &&& fileSynchronize ≠ 0#32 then none
  else if ntfsRaw &&& fileSynchronize = 0#32 then
    if deniedRaw &&& fileSynchronize ≠ 0#32 then some .deniedByNtfsAce else some .notGrantedByNtfs
  else some .notGrantedByShare

/-- The SYNCHRONIZE marker of a result whose logon is not refused. -/
def synchronizeMarkers (result : EffectivePermission) (ntfsRaw deniedRaw : AccessMask) :
    List PermissionDiagnostic :=
  ((synchronizeGap result ntfsRaw deniedRaw).map
    (fun cause => .synchronizeNotGranted cause result.effectiveDeterminable)).toList

/-- A refused logon makes the effective right No access; the NTFS and share
masks stay what the permissions grant. -/
def evaluate (input : PermissionEvaluationInput) : EffectivePermission :=
  let result := settleLogon input.draft
  if input.logonRefused then { result with effectiveMask := 0#32 }
  else
    { result with
      diagnostics := result.diagnostics ++ synchronizeMarkers result input.ntfsRaw input.deniedRaw }

/-! ## What the last steps leave unchanged -/

theorem settleLogon_eq (result : EffectivePermission) :
    settleLogon result = { result with diagnostics := (settleLogon result).diagnostics } := by
  unfold settleLogon
  split
  · rfl
  · rfl

/-- Beside the markers the last steps change the effective mask only. -/
theorem evaluate_eq_draft (input : PermissionEvaluationInput) :
    evaluate input =
      { input.draft with
        effectiveMask := if input.logonRefused then 0#32 else input.effectiveRaw
        diagnostics := (evaluate input).diagnostics } := by
  unfold evaluate
  rw [settleLogon_eq]
  split
  · rfl
  · rfl

theorem evaluate_ntfsMask (input : PermissionEvaluationInput) :
    (evaluate input).ntfsMask = input.ntfsRaw :=
  congrArg EffectivePermission.ntfsMask (evaluate_eq_draft input)

theorem evaluate_identity (input : PermissionEvaluationInput) :
    (evaluate input).identity = input.identity :=
  congrArg EffectivePermission.identity (evaluate_eq_draft input)

theorem evaluate_shareMask (input : PermissionEvaluationInput) :
    (evaluate input).shareMask = input.shareMaskForOutput :=
  congrArg EffectivePermission.shareMask (evaluate_eq_draft input)

theorem evaluate_shareStatus (input : PermissionEvaluationInput) :
    (evaluate input).shareStatus = input.outputShareStatus :=
  congrArg EffectivePermission.shareStatus (evaluate_eq_draft input)

theorem evaluate_effectiveMask (input : PermissionEvaluationInput) :
    (evaluate input).effectiveMask = if input.logonRefused then 0#32 else input.effectiveRaw :=
  congrArg EffectivePermission.effectiveMask (evaluate_eq_draft input)

end PermissionEngine

end Stars
