import Stars.PermissionEngine.Provenance

namespace Stars

open PermissionEngine

/-!
# The explanation path

The path of a result in words, step by step: the account and its token, the entries,
the values and what they rest on.  Every value is worded by whether it is
determinable, and every reason against it has a step of its own.
`explanation_states_uncertainty` says that the path and the result never disagree
about this.
-/

namespace PermissionEngine

/-- A value as a fact, or as what the known data alone gives. -/
def rightsStatement (mask : AccessMask) (determinable : Bool) : String :=
  let label := rightsLabel mask
  if determinable then label
  else notDeterminable ++ s!" — the known data alone gives {label}; the real right may differ"

def accessContextSummary : AccessContext → String
  | .remoteSmb => "network logon over SMB"
  | .localInteractive => "interactive logon at the target computer, session not elevated"
  | .unspecified => "no specific logon type"

/-- The universal groups of the token in words. -/
def universalGroups (userSid : Sid) (anonymousEveryone : Option Bool) : String :=
  match (uncertainWellKnownsWith userSid anonymousEveryone).contains sidEveryone,
      (identityAbsentWellKnowns userSid).contains sidAuthenticatedUsers with
  | false, true =>
      if userSid = sidAnonymousLogon then
        if anonymousGetsEveryone userSid anonymousEveryone then
          "Everyone (S-1-1-0) — the target sets EveryoneIncludesAnonymous = 1; no " ++
            "Authenticated Users (anonymous logon)"
        else
          "no Everyone and no Authenticated Users — the target leaves " ++
            "EveryoneIncludesAnonymous at 0 (anonymous logon)"
      else "Everyone (S-1-1-0); no Authenticated Users (a Guest token never has it)"
  | false, false => "Everyone (S-1-1-0), Authenticated Users (S-1-5-11)"
  | true, _ =>
      "no Authenticated Users (anonymous logon); Everyone only if the target " ++
        "sets EveryoneIncludesAnonymous = 1 — not read, so bounded"

def accessContextStepWith (context : AccessContext) (userSid : Sid)
    (anonymousEveryone : Option Bool) : String :=
  let universal := universalGroups userSid anonymousEveryone
  let logon := accessContextSummary context
  match context with
  | .remoteSmb =>
      "Evaluated as: " ++ s!"{logon} — the token receives NETWORK (S-1-5-2), {universal}. " ++
        "User Account Control filters the groups of local accounts only. Logon rights " ++
        "(\"Access this computer from the network\") are not checked"
  | .localInteractive =>
      "Evaluated as: " ++ s!"{logon} — the token receives INTERACTIVE (S-1-5-4), {universal}; " ++
        "LOCAL (S-1-2-0) and the groups User Account Control filters are bounded (an " ++
        "elevated session may have more). Logon rights (\"Allow log on locally\") are not " ++
        "checked"
  | .unspecified =>
      "Evaluated as: " ++ s!"{logon} — the token receives {universal}; logon-type SIDs " ++
        "(NETWORK, INTERACTIVE) are not assumed, the groups User Account Control filters " ++
        "are bounded"

end PermissionEngine

namespace ExplanationRequest

variable (toLowercase : String → String) (request : ExplanationRequest)

/-- The result the path is built from, before its last marker and the refusal. -/
def settled : EffectivePermission := settleLogon request.draft

/-- The reasons of one layer. -/
def reasonsIn (layer : UncertainLayer) : List String :=
  (request.settled.uncertainty.filter (fun entry => entry.layer = layer)).map Uncertainty.reason

def userStep : String :=
  let name := request.identity.name.getD request.identity.sid.value
  "User: " ++ s!"{name} ({request.identity.sid.value})"

def historySteps : List String :=
  request.identity.sidHistory.map (fun old =>
    "Historical SID (sIDHistory): " ++ s!"{old.value} — included in the evaluated token " ++
      "(migrated account; Windows includes it in the logon token within the forest)")

def tokenSteps : List String :=
  [request.userStep] ++ request.historySteps ++
    [accessContextStepWith request.accessContext request.identity.sid request.anonymousEveryone] ++
    (request.membershipListing toLowercase).steps ++ (request.notListedStep toLowercase).toList

/-- Why the token may lack SIDs, and why another target may answer differently. -/
def tokenReasonSteps : List String :=
  (request.reasonsIn .token).map (fun reason =>
      notDeterminable ++ " — the token above may be incomplete: " ++ reason) ++
    (request.reasonsIn .target).map (fun reason => notDeterminable ++ " — " ++ reason)

/-- What the step of an entry says behind its rights. -/
def aceNote (kind : AceKind) : AceEffect → String
  | .decided bits =>
      let verb := match kind with
        | .allow => "granted"
        | .deny => "denied"
      s!" [{verb} {rightsLabel bits}]"
  | .noEffect => " [matched, no effective bits contributed]"
  | .inheritOnly => " [inherit-only — not applied to this object]"
  | .uncertain reason => s!" [UNCERTAIN — {reason}]"
  | .notApplied reason => s!" [not applied — {reason}]"

/-- The trustee of an entry that applies is named with its SID. -/
def aceTrustee (sid : Sid) : AceEffect → String
  | .uncertain _ => displayForSid request.sidNames sid none
  | .notApplied _ => displayForSid request.sidNames sid none
  | _ => trusteeWithSid request.sidNames sid

/-- The step of an entry with the bits it decided. -/
def aceStep (ace : AceEntry) (decided : AccessMask) : Option String :=
  (request.aceEffect ace decided).map (fun effect =>
    let kind := match ace.kind with
      | .allow => "Allow"
      | .deny => "Deny"
    let scope := if ace.inherited then "[inherited]" else "[explicit]"
    let rights := displayName (expandGenericRights ace.mask)
    kind ++ s!" ACE {scope} for {request.aceTrustee ace.sid effect} → {rights} " ++
      s!"(0x{Text.hex8 ace.mask})" ++ aceNote ace.kind effect)

def matchedAceSteps : Nat :=
  request.fileSystemObject.dacl.countP (fun ace => aceMatches ace request.matchSids
    request.denyOnlySids)

def uncertainAceSteps : Nat :=
  request.decidedAces.countP (fun entry =>
    match request.aceEffect entry.1 entry.2 with
    | some (.uncertain _) => true
    | _ => false)

/-- The states of a list that explain a result without a step of an entry. -/
def daclStateStep : Option String :=
  if request.fileSystemObject.nullDacl then
    some ("NULL DACL — the object has no access control list: Windows grants every access " ++
      "to everyone (Full Control)")
  else if request.fileSystemObject.dacl.isEmpty then
    some ("Empty DACL — the object's access control list has no entries: nobody is granted " ++
      "anything through it (only the owner rule below can apply)")
  else if request.matchedAceSteps = 0 ∧ request.uncertainAceSteps = 0 then
    some ("No ACE in the DACL applies to this token — " ++
      "nothing is granted or denied through it")
  else if request.matchedAceSteps = 0 then
    some ("No ACE in the DACL certainly applies to this token — only the UNCERTAIN ACE(s) " ++
      "listed above, which bound the result")
  else none

def denyStep : Option String :=
  (denyAggregation request.fileSystemObject.dacl request.matchSids request.denyOnlySids
    request.deniedRaw request.ownerImplicitBits).map DenyAggregation.text

/-- The owner rule, or the entry that replaces it. -/
def ownerStep : Option String :=
  if request.ownerImplicitBits ≠ 0#32 then
    let owner := match request.fileSystemObject.ownerSid with
      | some sid => displayForSid request.sidNames sid none
      | none => "(unknown)"
    some ("Owner special rule: " ++
      s!"READ_CONTROL + WRITE_DAC granted implicitly (owner: {owner})")
  else
    match request.uncertainOwner.filter (fun _ => !request.ownerRightsAcePresent) with
    | some owner =>
        some ("Owner special rule: " ++
          s!"UNCERTAIN — the owner {displayForSid request.sidNames owner none} is a group User " ++
          "Account Control filters; READ_CONTROL + WRITE_DAC are granted implicitly only while " ++
          "it is enabled (elevated session)")
    | none =>
        if request.ownerRightsAcePresent then
          some ("OWNER RIGHTS (S-1-3-4) ACE present — owner rights are governed by that DACL " ++
            "entry; the implicit owner grant is suppressed")
        else none

def entrySteps : List String :=
  request.decidedAces.filterMap (fun entry => request.aceStep entry.1 entry.2) ++
    request.daclStateStep.toList ++ request.denyStep.toList ++ request.ownerStep.toList

def ntfsValueStep : String :=
  "NTFS effective: " ++ rightsStatement request.ntfsRaw request.settled.ntfsDeterminable

def unsupportedStep : Option String :=
  let count := request.fileSystemObject.unsupportedAces.length
  if count > 0 then
    some ("WARNING: " ++ s!"{count} NTFS ACE(s) on this path could not be evaluated (object / " ++
      "callback / conditional / vendor-specific) — the NTFS effective mask above is a " ++
      "lower-confidence approximation and may be too permissive or too restrictive")
  else none

/-- A file can also be deleted through its folder. -/
def fileDeletionStep : Option String :=
  if !request.fileSystemObject.isDirectory ∧ request.ntfsRaw &&& fileDelete = 0#32 then
    some ("Note: this result has no DELETE on the file itself — Windows still lets anyone " ++
      "delete the file who has \"Delete subfolders and files\" (FILE_DELETE_CHILD) on " ++
      "its parent folder; that right is evaluated on the folder (finding " ++
      "DELETE_CHILD_RIGHT), not in this result")
  else none

def rangeStep : Option String :=
  request.logonDependent.map (fun bounds =>
    let names := Text.join ", " (bounds.sids.map (trusteeWithSid request.sidNames))
    notDeterminable ++ s!": ACE(s) for {names} count only for certain logons or session states " ++
      "(the reason is given at each UNCERTAIN step above) — the NTFS right lies between " ++
      s!"{rightsLabel bounds.min} and {rightsLabel bounds.max}")

def ntfsSteps : List String :=
  [request.ntfsValueStep] ++ request.unsupportedStep.toList ++ request.fileDeletionStep.toList ++
    request.rangeStep.toList

def shareReasonSteps : List String :=
  (request.reasonsIn .share).map (fun reason => notDeterminable ++ " — share: " ++ reason)

/-- Which side limits the result. -/
def limitStep (share : AccessMask) : String :=
  let known := if request.settled.effectiveDeterminable then "" else "From the known data: "
  let removedByShare := request.ntfsRaw &&& ~~~share
  if removedByShare ≠ 0#32 then
    known ++ "Limited by the share: NTFS grants " ++ rightsLabel request.ntfsRaw ++
      s!", the share allows {rightsLabel share} — the share removes {rightsLabel removedByShare}"
  else if share &&& ~~~request.ntfsRaw ≠ 0#32 then
    known ++ "Limited by NTFS: the share allows " ++ rightsLabel share ++
      s!", NTFS grants {rightsLabel request.ntfsRaw} — the result follows NTFS"
  else known ++ "NTFS and share allow the same — " ++ "neither side limits the other"

def unreadableShareStep (reason : String) : String :=
  "Share permissions not determinable (" ++ s!"{reason}): the share permission is " ++
    s!"{notDeterminable} — the displayed effective mask is NTFS-only and incomplete; the " ++
    "share can only restrict the NTFS right above, never extend it"

/-- Every state of the share side has a step. -/
def shareSteps : List String :=
  match request.outputShareStatus with
  | .applied =>
      match request.shareMaskForOutput with
      | some share =>
          ["Share permission: " ++ rightsStatement share request.settled.shareDeterminable] ++
            request.shareReasonSteps ++
            ["Effective (NTFS ∩ Share): " ++
              rightsStatement request.effectiveRaw request.settled.effectiveDeterminable,
              request.limitStep share]
      | none => []
  | .unrestricted =>
      ("Share DACL unrestricted (NULL share DACL): SMB does not reduce the NTFS rights — " ++
        "effective = NTFS") :: request.shareReasonSteps
  | .readFailed reason => [unreadableShareStep reason]
  | .notApplicable =>
      ("No SMB context: " ++ "effective permission is NTFS-only (no share combination applied)") ::
        request.shareReasonSteps

/-! ## What closes the path -/

def linkStep : Option String :=
  (request.settled.diagnostics.find? (fun marker =>
    match marker with
    | .linkObject _ _ => true
    | _ => false)).map (fun marker => "Link: " ++ marker.summary)

def synchronizeSteps : List String :=
  if request.logonRefused then []
  else
    (synchronizeMarkers request.settled request.ntfsRaw request.deniedRaw).map (fun marker =>
      "Note — " ++ marker.summary)

/-- The decision about the logon, as a marker that speaks of it words it. -/
def logonStepOf (marker : PermissionDiagnostic) : Option String :=
  match marker with
  | .selectiveAuthenticationDenied _ =>
      some ("Logon refused — " ++ s!"{marker.summary} Effective: No access (0x00000000); the " ++
        "lines above show what the permissions grant once the account may authenticate.")
  | .selectiveAuthenticationUnknown _ _ true =>
      some (notDeterminable ++ " — logon: " ++ marker.summary)
  | .selectiveAuthenticationUnknown _ _ false =>
      some ("Logon not determinable — " ++
        s!"{marker.summary} Effective: No access (0x00000000).")
  | .selectiveAuthenticationAllowed _ _ => some ("Logon allowed — " ++ marker.summary)
  | _ => none

def logonStep : Option String := request.settled.diagnostics.findSome? logonStepOf

/-- The steps of a path in their order. -/
def explanationSteps : List String :=
  request.tokenSteps toLowercase ++ request.tokenReasonSteps ++ request.entrySteps ++
    request.ntfsSteps ++ request.shareSteps ++ request.linkStep.toList ++
    request.synchronizeSteps ++ request.logonStep.toList

end ExplanationRequest

namespace PermissionEngine

/-- One evaluation with its whole explanation. -/
def evaluateWhole (toLowercase : String → String) (request : ExplanationRequest) :
    ExplainedPermission :=
  { evaluate request.toPermissionEvaluationInput with
    pathExplanation := request.explanationSteps toLowercase
    trace := request.traceGroups toLowercase }

end PermissionEngine

end Stars
