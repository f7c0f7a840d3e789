import Stars.AdResolver.SidNames
import Stars.Analysis.Dfs
import Stars.PermissionEngine.ExactResult
import Stars.ShareScanner.Resolution
import Stars.Validation.PathChecks

namespace Stars

open PermissionEngine

/-- A UNC path is accessed over SMB, in its long form too. -/
def AccessContext.forPath (path : String) : AccessContext :=
  match Text.stripPrefix Validation.longPrefix path.toList with
  | some rest =>
      let shown := String.ofList rest
      if Text.startsWith "UNC\\" shown || Text.startsWith "UNC/" shown then .remoteSmb
      else .localInteractive
  | none => if Text.startsWith "\\\\" path then .remoteSmb else .localInteractive

/-- An explicit server or share makes every path a remote one. -/
def AccessContext.forPathWithSmb (path : String) (smbServer shareName : Option String) :
    AccessContext :=
  if smbServer.any (fun server => server ≠ "") || shareName.any (fun share => share ≠ "") then
    .remoteSmb
  else .forPath path

namespace Analysis

open AccessControl AdResolver EffectivePermission FsScanner ShareScanner Validation

/-!
# The analysis of one path

One analysis asks the redirector where the path is served, reads the object there, collects
the local groups of the server, resolves the share and evaluates.  Every call of it can fail;
what fails stops the analysis or leaves a reason of uncertainty.

`analyzePath_exact` is what a result without such a reason is worth: for every token that the
collected lists leave possible, it is what the two servers' own access checks grant.
-/

/-- What Windows, the servers and the redirector answer. -/
structure PathAnswers where
  finalPath : String → Option String
  dfsClientLink : String → DfsLookup
  reading : String → PathReading
  targets : LocalGroupTargets
  shares : String → String → ShareReading
  names : NameLookups
  /-- The Selective Authentication check on a server, where the trust of the account uses it. -/
  checkForTarget : Option String → PrincipalResolution → Option SelectiveAuthenticationCheck

/-- The path with the SMB options and the resolved account. -/
structure PathRequest where
  path : String
  smbServer : Option String
  shareName : Option String
  resolution : PrincipalResolution

/-- Where a path is evaluated; what the redirector returns is validated like any input. -/
def resolveEvaluationTarget (answers : PathAnswers) (path : String) : EvaluationTarget :=
  if (parseUncComponents path).isNone then .unchanged path
  else
    .decide path ((answers.finalPath path).filter (fun opened => (validatePath opened).isOk))
      (answers.dfsClientLink path)

/-- The share side of a resolved identity. -/
def resolveShareStatus (answers : PathAnswers) (path : String)
    (smbServer shareName : Option String) (identity : Identity)
    (memberships : List GroupMembership) (localGroups : LocalGroupResolution)
    (accessContext : AccessContext) : ShareResolution :=
  resolveShareMaskStatusExplained answers.shares path smbServer shareName identity.sid
    identity.sidHistory memberships localGroups.sids localGroups.logonDependent
    localGroups.uacFiltered accessContext
    (match localGroups.remoteUac with
      | .filtered _ => true
      | _ => false)
    localGroups.anonymousEveryone

/-- What an analysis has collected when it evaluates. -/
structure PathAnalysis where
  target : EvaluationTarget
  localGroups : LocalGroupResolution
  share : ShareResolution
  input : PermissionEvaluationInput
  result : EffectivePermission

section Analyzing

variable (toLowercase : String → String) (answers : PathAnswers) (request : PathRequest)

def collectedGroups (path : String) : LocalGroupResolution :=
  collectLocalGroupSidsForPath answers.targets toLowercase request.resolution.identity
    request.resolution.memberships
    (.forPathWithSmb path request.smbServer request.shareName)
    (request.resolution.groupResolutionStatus = .localAccount) path request.smbServer

def collectedShare (path : String) : ShareResolution :=
  resolveShareStatus answers path request.smbServer request.shareName request.resolution.identity
    request.resolution.memberships (collectedGroups toLowercase answers request path)
    (.forPathWithSmb path request.smbServer request.shareName)

/-- The token that the entries of the share are matched against. -/
def collectedShareToken (path : String) : ShareToken :=
  let identity := request.resolution.identity
  let localGroups := collectedGroups toLowercase answers request path
  resolvedShareToken identity.sid identity.sidHistory request.resolution.memberships
    localGroups.sids localGroups.logonDependent localGroups.uacFiltered
    (.forPathWithSmb path request.smbServer request.shareName)
    (match localGroups.remoteUac with
      | .filtered _ => true
      | _ => false)
    localGroups.anonymousEveryone

/-- The input of the evaluation: the local groups stand behind the groups of the directory. -/
def pathInput (target : EvaluationTarget) (object : FileSystemObject) :
    PermissionEvaluationInput :=
  let path := target.evaluatedPath
  let server := effectiveSmbTarget path request.smbServer
  let localGroups := collectedGroups toLowercase answers request path
  let share := collectedShare toLowercase answers request path
  let memberships := request.resolution.memberships ++ localGroups.memberships
  { identity := request.resolution.identity
    groupMemberships := memberships
    fileSystemObject := object
    shareStatus := share.status
    localGroupSids := localGroups.sids
    localGroupStatus := localGroups.status
    logonDependentGroupSids := localGroups.logonDependent
    uacFilteredGroupSids := localGroups.uacFiltered
    remoteUac := localGroups.remoteUac
    anonymousEveryone := localGroups.anonymousEveryone
    selectiveAuthentication := answers.checkForTarget server request.resolution
    dfs := target.dfs
    accessContext := .forPathWithSmb path request.smbServer request.shareName
    unsupportedShareAceCount := share.unevaluated
    sidNames := buildSidNameMapForTarget answers.names request.resolution.identity memberships
      (object.dacl.map AceEntry.sid ++ share.decisions.map ShareAceDecision.sid) server
    resolution := request.resolution.engineFlags }

/-- The report names the path as given, the marker of a DFS path its target. -/
def reportedObject (requested : String) (target : EvaluationTarget) (object : FileSystemObject) :
    FileSystemObject :=
  if target.dfs.isSome then { object with path := requested } else object

def analyzePath : Except CoreError PathAnalysis := do
  let requested ← validatePath request.path
  let target := resolveEvaluationTarget answers requested
  let path := target.evaluatedPath
  let object ← readFileSystemObject path (answers.reading path)
  let input := pathInput toLowercase answers request target (reportedObject requested target object)
  return {
    target := target
    localGroups := collectedGroups toLowercase answers request path
    share := collectedShare toLowercase answers request path
    input := input
    result := evaluate input }

end Analyzing

/-- What an access to a path is checked against: the descriptor of the object, and that of the
share when one is asked. -/
structure ServedPath (answers : PathAnswers) (request : PathRequest) (path : String) where
  descriptor : SecurityDescriptor
  calls : Win32Calls
  share : Option ShareDescriptor
  security : (answers.reading path).security = .ok (descriptor, calls)
  shared : ∀ list, share = some list →
    ServedShare answers.shares path request.smbServer request.shareName list
  unshared : share = none →
    SmbAuditContext.resolve path request.smbServer request.shareName = none

/-- A right is granted where the object and the share grant it. -/
def ServedPath.grants {answers : PathAnswers} {request : PathRequest} {path : String}
    (served : ServedPath answers request path) (token : LogonToken) (bit : Nat) : Bool :=
  served.descriptor.grants token bit && served.share.all (fun list => list.grants token bit)

/-- Whether the server admits the account; where that is not known, both are possible. -/
def Admission : Option SelectiveAuthenticationCheck → Bool → Prop
  | some (.denied _), admitted => admitted = false
  | some (.unknown _ _), _ => True
  | _, admitted => admitted = true

section Possible

variable (toLowercase : String → String) {answers : PathAnswers} {request : PathRequest}
  {path : String} (served : ServedPath answers request path) (input : PermissionEvaluationInput)

/-- The owner could be read and is covered where it is not certain, and every entry of the
share applies to it. -/
structure Comparable : Prop where
  owner : OwnerRead served.descriptor served.calls
  covered : ∀ owner, OwnerUncertain input owner → OwnerCovered input owner
  plain : ∀ list, served.share = some list → list.Plain

/-- A logon that the lists of the analysis leave possible, at the object and at the share. -/
structure PossibleAccess (token : LogonToken) : Prop where
  object : PossibleLogon input token
  share : served.share.isSome = true →
    ∃ held : PossibleToken ((collectedShareToken toLowercase answers request path).logonFacts
      input.accessContext), held.toLogonToken = token

end Possible

/-- The check on a descriptor is the check on the object that holds it. -/
theorem grants_of_holdsDescriptor {descriptor : SecurityDescriptor} {object : FileSystemObject}
    (holds : HoldsDescriptor descriptor object) (token : LogonToken) (bit : Nat) :
    descriptor.grants token bit = token.objectRights object bit := by
  unfold SecurityDescriptor.grants LogonToken.objectRights LogonToken.ownedRights
  rw [holds.owner]
  cases listed : descriptor.dacl with
  | none =>
      rw [holds.nullDacl.mpr listed]
      cases descriptor.owner with
      | none => rfl
      | some owner => rfl
  | some aces =>
      have present : object.nullDacl = false := by
        apply Bool.eq_false_iff.mpr
        intro absent
        rw [holds.nullDacl.mp absent] at listed
        cases listed
      have reads := holds.dacl aces listed
      dsimp only
      rw [present, rawAllowedBy_eq reads, rawAllowedBy_eq reads, any_namesOwnerRights reads]
      cases descriptor.owner with
      | none => rfl
      | some owner =>
          by_cases held : owner ∈ token.enabled
          · simp [held]
          · simp [held]

/-- An object comes from its attributes and its descriptor. -/
theorem objectRead_of_read {path : String} {reading : PathReading} {object : FileSystemObject}
    (read : readFileSystemObject path reading = .ok object) :
    ∃ attributes descriptor calls, reading.security = .ok (descriptor, calls) ∧
      objectRead path attributes reading.linkTarget descriptor calls = .ok object := by
  rcases reading with ⟨attributes, security, linkTarget⟩
  cases attributes with
  | error code => cases read
  | ok attributes =>
      cases security with
      | error code => cases read
      | ok found => exact ⟨attributes, found.1, found.2, rfl, read⟩

/-! ## The share -/

section Shared

variable {toLowercase : String → String} {answers : PathAnswers} {request : PathRequest}
  {path : String}

theorem servedShare_unique {left right : ShareDescriptor}
    (first : ServedShare answers.shares path request.smbServer request.shareName left)
    (second : ServedShare answers.shares path request.smbServer request.shareName right) :
    left = right := by
  rcases first with ⟨audit, resolved, information⟩
  rcases second with ⟨other, again, served⟩
  cases resolved.symm.trans again
  cases information.symm.trans served
  rfl

theorem collectedShare_exact :
    ShareExact answers.shares path request.smbServer request.shareName
      (collectedShareToken toLowercase answers request path)
      (.forPathWithSmb path request.smbServer request.shareName)
      (collectedShare toLowercase answers request path) :=
  resolveWithToken_exact answers.shares path request.smbServer request.shareName _ _

/-- The mask that a status applies. -/
def statusGrants : ShareMaskStatus → Nat → Bool
  | .applied mask, bit => mask.getLsbD bit
  | _, _ => true

variable (readable : ∀ reason, (collectedShare toLowercase answers request path).status ≠
    .readFailed reason)
  (evaluated : (collectedShare toLowercase answers request path).unevaluated = 0)

include readable evaluated

/-- Where the share is known, the server has returned its descriptor. -/
theorem exists_servedShare : ∃ share : Option ShareDescriptor,
    (∀ list, share = some list →
      ServedShare answers.shares path request.smbServer request.shareName list) ∧
    (share = none → SmbAuditContext.resolve path request.smbServer request.shareName = none) := by
  have collected := @collectedShare_exact toLowercase answers request path
  cases status : (collectedShare toLowercase answers request path).status with
  | notApplicable =>
      exact ⟨none, fun list listed => absurd listed.symm (Option.some_ne_none list),
        fun _ => collected.notApplicable.mp status⟩
  | unrestricted =>
      rcases collected.unrestricted status with ⟨list, served, _⟩
      exact ⟨some list, fun other same => Option.some.inj same ▸ served,
        fun missing => absurd missing (Option.some_ne_none list)⟩
  | applied mask =>
      rcases collected.applied mask status evaluated with ⟨list, served, _⟩
      exact ⟨some list, fun other same => Option.some.inj same ▸ served,
        fun missing => absurd missing (Option.some_ne_none list)⟩
  | readFailed reason => exact absurd status (readable reason)

/-- A known share lets through what its list grants. -/
theorem statusGrants_eq (served : ServedPath answers request path)
    (plain : ∀ list, served.share = some list → list.Plain) (token : LogonToken)
    (possible : served.share.isSome = true →
      ∃ held : PossibleToken ((collectedShareToken toLowercase answers request path).logonFacts
        (.forPathWithSmb path request.smbServer request.shareName)), held.toLogonToken = token)
    (bit : Nat) :
    statusGrants (collectedShare toLowercase answers request path).status bit =
      served.share.all (fun list => list.grants token bit) := by
  have collected := @collectedShare_exact toLowercase answers request path
  -- The descriptor of the result is the one that decides the access.
  have same : ∀ list, ServedShare answers.shares path request.smbServer request.shareName list →
      served.share = some list := by
    intro list returned
    cases known : served.share with
    | none =>
        rcases returned with ⟨audit, resolved, _⟩
        rw [served.unshared known] at resolved
        cases resolved
    | some other => rw [servedShare_unique (served.shared other known) returned]
  cases status : (collectedShare toLowercase answers request path).status with
  | notApplicable =>
      have unresolved := collected.notApplicable.mp status
      cases known : served.share with
      | none => rfl
      | some list =>
          rcases served.shared list known with ⟨audit, resolved, _⟩
          rw [unresolved] at resolved
          cases resolved
  | unrestricted =>
      rcases collected.unrestricted status with ⟨list, returned, grants⟩
      rw [same list returned, Option.all_some, grants]
      rfl
  | applied mask =>
      rcases collected.applied mask status evaluated with ⟨list, returned, grants⟩
      have shared := same list returned
      rcases possible (by rw [shared]; rfl) with ⟨held, rfl⟩
      rw [shared, Option.all_some, ← grants (plain list shared) held]
      rfl
  | readFailed reason => exact absurd status (readable reason)

end Shared

/-! ## What a result without uncertainty is worth -/

/-- The effective mask is what the servers decide, for every possible logon. -/
structure PathExact (toLowercase : String → String) (answers : PathAnswers)
    (request : PathRequest) (analysis : PathAnalysis) : Prop where
  served : Nonempty (ServedPath answers request analysis.target.evaluatedPath)
  effective : ∀ served : ServedPath answers request analysis.target.evaluatedPath,
    Comparable served analysis.input → ∀ token,
      PossibleAccess toLowercase served analysis.input token → ∀ admitted,
        Admission analysis.input.selectiveAuthentication admitted → ∀ bit,
          analysis.result.effectiveMask.getLsbD bit = (admitted && served.grants token bit)

/-- The effective mask holds what NTFS and the share hold, before the logon is regarded. -/
theorem effectiveRaw_bit (input : PermissionEvaluationInput) (bit : Nat) :
    input.effectiveRaw.getLsbD bit =
      ((evaluate input).ntfsMask.getLsbD bit && statusGrants input.shareStatus bit) := by
  rw [PermissionEvaluationInput.effectiveRaw, evaluate_ntfsMask]
  cases input.shareStatus with
  | applied mask => exact BitVec.getLsbD_and
  | notApplicable => exact (Bool.and_true _).symm
  | unrestricted => exact (Bool.and_true _).symm
  | readFailed reason => exact (Bool.and_true _).symm

/-- A logon that is possible decides between the evaluated mask and none. -/
theorem effectiveMask_bit {input : PermissionEvaluationInput}
    (certain : (evaluate input).uncertainty = []) {admitted : Bool}
    (admission : Admission input.selectiveAuthentication admitted) (bit : Nat) :
    (evaluate input).effectiveMask.getLsbD bit = (admitted && input.effectiveRaw.getLsbD bit) := by
  rw [evaluate_effectiveMask, PermissionEvaluationInput.logonRefused]
  cases check : input.selectiveAuthentication with
  | none =>
      rw [check] at admission
      change admitted = true at admission
      rw [admission, Bool.true_and]
      rfl
  | some found =>
      rw [check] at admission
      cases found with
      | allowed server via =>
          change admitted = true at admission
          rw [admission, Bool.true_and]
          rfl
      | denied server =>
          change admitted = false at admission
          rw [admission, Bool.false_and]
          exact BitVec.getLsbD_zero
      | unknown server reason =>
          have nothing := effectiveRaw_of_unknownLogon certain check
          rw [nothing, BitVec.getLsbD_zero, Bool.and_false]
          exact BitVec.getLsbD_zero

section Done

variable {toLowercase : String → String} {answers : PathAnswers} {request : PathRequest}
  {analysis : PathAnalysis}

/-- A finished analysis has read the object of the evaluated path, and evaluates what it has
collected there. -/
theorem analyzePath_cases (done : analyzePath toLowercase answers request = .ok analysis) :
    ∃ requested object, readFileSystemObject analysis.target.evaluatedPath
        (answers.reading analysis.target.evaluatedPath) = .ok object ∧
      analysis.input = pathInput toLowercase answers request analysis.target
        (reportedObject requested analysis.target object) ∧
      analysis.result = evaluate analysis.input := by
  rcases Collections.bind_eq_ok_iff.mp done with ⟨requested, _, rest⟩
  rcases Collections.bind_eq_ok_iff.mp rest with ⟨object, read, made⟩
  cases made
  exact ⟨requested, object, read, rfl, rfl⟩

theorem holdsDescriptor_reportedObject {descriptor : SecurityDescriptor}
    {object : FileSystemObject} (holds : HoldsDescriptor descriptor object) (requested : String)
    (target : EvaluationTarget) :
    HoldsDescriptor descriptor (reportedObject requested target object) := by
  rw [reportedObject]
  split
  · exact ⟨holds.owner, holds.nullDacl, holds.dacl⟩
  · exact holds

theorem unsupportedAces_reportedObject (requested : String) (target : EvaluationTarget)
    (object : FileSystemObject) :
    (reportedObject requested target object).unsupportedAces = object.unsupportedAces := by
  rw [reportedObject]
  split
  · rfl
  · rfl

/-- A result without uncertainty is what the object, the share and the logon decide together,
for every logon that the collected lists leave possible. -/
theorem analyzePath_exact (done : analyzePath toLowercase answers request = .ok analysis)
    (certain : analysis.result.uncertainty = []) :
    PathExact toLowercase answers request analysis := by
  rcases analyzePath_cases done with ⟨requested, object, read, collected, evaluated⟩
  rcases objectRead_of_read read with ⟨attributes, descriptor, calls, security, parsed⟩
  rw [evaluated] at certain
  have ntfs := ntfsKnown_of_certain certain
  have share := shareKnown_of_certain certain
  have readable : ∀ reason, (collectedShare toLowercase answers request
      analysis.target.evaluatedPath).status ≠ .readFailed reason := by
    have known := share.readable
    rwa [collected] at known
  have complete : (collectedShare toLowercase answers request
      analysis.target.evaluatedPath).unevaluated = 0 := by
    have known := share.evaluated
    rwa [collected] at known
  constructor
  · rcases exists_servedShare readable complete with ⟨list, shared, unshared⟩
    exact ⟨⟨descriptor, calls, list, security, shared, unshared⟩⟩
  · intro served comparable token possible admitted admission bit
    have same := Prod.mk.inj (Except.ok.inj (served.security.symm.trans security))
    have owner : OwnerRead descriptor calls := same.1 ▸ same.2 ▸ comparable.owner
    have unsupported : object.unsupportedAces = [] := by
      have known := ntfs.evaluated
      rw [collected] at known
      exact (unsupportedAces_reportedObject requested analysis.target object).symm.trans known
    have holds : HoldsDescriptor descriptor analysis.input.fileSystemObject := by
      rw [collected]
      exact holdsDescriptor_reportedObject (holdsDescriptor_of_read parsed owner unsupported)
        requested analysis.target
    have objectGrants : (evaluate analysis.input).ntfsMask.getLsbD bit =
        served.descriptor.grants token bit := by
      rw [← objectRights_of_certain certain possible.object comparable.covered, same.1]
      exact (grants_of_holdsDescriptor holds token bit).symm
    have shareGrants : statusGrants analysis.input.shareStatus bit =
        served.share.all (fun list => list.grants token bit) := by
      have held := possible.share
      rw [collected] at held ⊢
      exact statusGrants_eq readable complete served comparable.plain token held bit
    rw [evaluated, effectiveMask_bit certain admission, effectiveRaw_bit, objectGrants, shareGrants]
    rfl

end Done

/-- A folder on a share: the account may modify it, and everyone may read over the share. -/
def reportsFolder : PathAnswers where
  finalPath := fun _ => none
  dfsClientLink := fun _ => .notDfs
  reading := fun _ =>
    { attributes := .ok fileAttributeDirectory
      security := .ok
        ({ owner := some ⟨"S-1-5-18"⟩
           dacl := some [⟨accessAllowedAceType, 0#8, 0x1301bf#32, ⟨"S-1-5-21-1-2-3-1001"⟩⟩]
           control := 0#16 },
          ⟨true, true, fun _ => true, fun _ => true, true⟩)
      linkTarget := none }
  targets :=
    { server := fun _ => ⟨"srv", fun _ => ⟨0, []⟩, fun _ => none, fun _ => ⟨0, []⟩⟩
      registry := fun _ => ⟨2, fun _ => 2, fun _ _ => ⟨2, 0, 0, 0⟩⟩
      lookupAccount := fun _ => none }
  shares := fun _ _ =>
    { information := .ok (some (some
        { present := true
          dacl := some [⟨accessAllowedAceType, 0#8, 0x1200a9#32, sidEveryone⟩] }))
      securityDescriptorDacl := .ok ()
      aclInformation := .ok ()
      ace := fun _ => true
      trusteeConverted := fun _ => true }
  names := ⟨fun _ => none, fun _ _ => none⟩
  checkForTarget := fun _ _ => none

def reportsRequest : PathRequest where
  path := "\\\\srv\\data\\reports"
  smbServer := none
  shareName := none
  resolution :=
    { sid := ⟨"S-1-5-21-1-2-3-1001"⟩
      identity := { sid := ⟨"S-1-5-21-1-2-3-1001"⟩ }
      scopeStatus := .insideConfiguredLdapBase
      groupResolutionStatus := .ldapRecursive
      disabledStatus := .known false }

def reportsAnalysis : PathAnalysis :=
  let target := resolveEvaluationTarget reportsFolder reportsRequest.path
  let object : FileSystemObject :=
    { path := reportsRequest.path
      isDirectory := true
      ownerSid := some ⟨"S-1-5-18"⟩
      dacl := [{ kind := .allow, sid := ⟨"S-1-5-21-1-2-3-1001"⟩, mask := 0x1301bf#32 }] }
  let input := pathInput id reportsFolder reportsRequest target
    (reportedObject reportsRequest.path target object)
  { target := target
    localGroups := collectedGroups id reportsFolder reportsRequest target.evaluatedPath
    share := collectedShare id reportsFolder reportsRequest target.evaluatedPath
    input := input
    result := evaluate input }

/-- The share leaves only the rights to read, whatever else a token holds. -/
theorem analyzePath_exact_reports :
    reportsAnalysis.result.effectiveMask = 0x1200a9#32 ∧
      PathExact id reportsFolder reportsRequest reportsAnalysis := by
  have valid : validatePath reportsRequest.path = .ok reportsRequest.path := by decide +kernel
  have read : readFileSystemObject
      (resolveEvaluationTarget reportsFolder reportsRequest.path).evaluatedPath
      (reportsFolder.reading
        (resolveEvaluationTarget reportsFolder reportsRequest.path).evaluatedPath) =
        .ok { path := reportsRequest.path
              isDirectory := true
              ownerSid := some ⟨"S-1-5-18"⟩
              dacl := [{ kind := .allow
                         sid := ⟨"S-1-5-21-1-2-3-1001"⟩
                         mask := 0x1301bf#32 }] } := by
    decide +kernel
  have done : analyzePath id reportsFolder reportsRequest = .ok reportsAnalysis :=
    Collections.bind_eq_ok_iff.mpr ⟨reportsRequest.path, valid,
      Collections.bind_eq_ok_iff.mpr ⟨_, read, rfl⟩⟩
  exact ⟨by decide +kernel, analyzePath_exact done (by decide +kernel)⟩

end Analysis
end Stars
