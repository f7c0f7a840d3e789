import Stars.Collections.Fallible
import Stars.Core.Explanation
import Stars.Core.Merging
import Stars.PermissionEngine.Evaluate

namespace Stars

open Collections PermissionEngine

/-!
# The explanation of a result

The membership steps of the explanation path and the structured trace.  A scan
row may list only the memberships that an entry of the object or of its share
names; the others are counted.  Of the path only the steps about memberships are
modelled, and of an entry's step its outcome in the trace.
-/

/-- How many of the memberships an explanation lists.  A compact row points to
the row with the full list. -/
inductive MembershipDetail where
  | all
  | namedOnly (fullListAt : String)
deriving DecidableEq

/-- What an evaluation with its explanation reads. -/
structure ExplanationRequest extends PermissionEvaluationInput where
  /-- The outcomes of the share entries, from the same read as the share mask. -/
  shareTrace : List AceOutcome := []
  membershipDetail : MembershipDetail := .all
deriving DecidableEq

namespace Text

/-- The text contains another one. -/
def containsText (part text : String) : Bool := decide (part.toList <:+: text.toList)

theorem containsText_append_left {part text : String} (inside : containsText part text = true)
    (before : String) : containsText part (before ++ text) = true := by
  rw [containsText, decide_eq_true_iff] at inside ⊢
  rw [String.toList_append]
  exact inside.trans (List.suffix_append _ _).isInfix

theorem containsText_append_right {part text : String} (inside : containsText part text = true)
    (after : String) : containsText part (text ++ after) = true := by
  rw [containsText, decide_eq_true_iff] at inside ⊢
  rw [String.toList_append]
  exact inside.trans (List.prefix_append _ _).isInfix

end Text

namespace PermissionEngine

/-- A name that is known and not empty. -/
def shownName (name : Option String) : Option String := name.filter (fun text => text ≠ "")

def nameWithSid (name : String) (sid : Sid) : String := s!"{name} ({sid.value})"

end PermissionEngine

def MembershipHop.display (hop : MembershipHop) : String :=
  match shownName hop.name with
  | some name => nameWithSid name hop.sid
  | none => hop.sid.value

def MembershipPathSource.label : MembershipPathSource → String
  | .primaryGroup => "PrimaryGroup"
  | .domainGroup => "DomainGroup"
  | .localGroup => "LocalGroup"
  | .ldapMatchingRule => "LdapMatchingRule"
  | .accountType => "AccountType"
  | .trustedDomainLogon => "TrustedDomainLogon"

namespace PermissionEngine

/-- The first five routes, then how many more there are. -/
def formatAlsoVia (alsoVia : List MembershipHop) : Option String :=
  if alsoVia.isEmpty then none
  else
    let shown := Text.join ", " ((alsoVia.take 5).map MembershipHop.display)
    some (if alsoVia.length > 5 then shown ++ s!" (+{alsoVia.length - 5} more)" else shown)

section Names

variable (sidNames : List (Sid × String))

def displayForSid (sid : Sid) (explicitName : Option String) : String :=
  match explicitName with
  | some name => name
  | none => (sidNames.lookup sid).getD sid.value

/-- Name and SID where a name is known. -/
def trusteeWithSid (sid : Sid) : String :=
  match sidNames.lookup sid with
  | some name => nameWithSid name sid
  | none => sid.value

def membershipTarget (membership : GroupMembership) : String :=
  match membership.groupName.or (sidNames.lookup membership.groupSid) with
  | some name => nameWithSid name membership.groupSid
  | none => membership.groupSid.value

def formatMembershipStepBase (membership : GroupMembership) : String :=
  let target := membershipTarget sidNames membership
  match membership.path with
  | none => s!"Member of {target}" ++ (if membership.direct then " [direct]" else " [transitive]")
  | some path =>
      if !path.complete then
        s!"Member of {target} [membership confirmed, exact " ++ ("chain unknown" ++
          (s!" — source: {path.source.label}; the route could not be reconstructed (e.g. " ++
            "truncated memberOf, unreadable or nested local group)]"))
      else if path.nodes.length ≤ 2 then
        s!"Member of {target} [direct, source: {path.source.label}]"
      else
        let chain := Text.join " → " (path.nodes.zipIdx.map (fun node =>
          displayForSid sidNames node.1 (shownName path.names[node.2]?.join)))
        s!"Member of {target} [via {chain}, source: {path.source.label}]"

/-- The further routes into the group, named where a name is known. -/
def alsoViaRemark (membership : GroupMembership) : String :=
  match membership.path with
  | none => ""
  | some path =>
      let hops := path.alsoVia.map (fun hop =>
        (⟨hop.sid, (shownName hop.name).or (sidNames.lookup hop.sid)⟩ : MembershipHop))
      match formatAlsoVia hops with
      | some list =>
          s!" [also a member through {list} — the shown chain is not the only route]"
      | none => ""

def sidHistoryRemark (membership : GroupMembership) : String :=
  if membership.groupSidHistory.isEmpty then ""
  else
    let sids := Text.join ", " (membership.groupSidHistory.map Sid.value)
    s!" [carries historical SID(s) (sIDHistory) in the evaluated token: {sids}]"

def formatMembershipStep (membership : GroupMembership) : String :=
  formatMembershipStepBase sidNames membership ++ alsoViaRemark sidNames membership ++
    sidHistoryRemark membership

/-- `direct`, the groups in between, or that the chain is unknown. -/
def membershipRoute (membership : GroupMembership) : String :=
  match membership.path with
  | none => if membership.direct then "direct" else "transitive"
  | some path =>
      if !path.complete then "membership confirmed, exact chain unknown"
      else if path.nodes.length ≤ 2 then "direct"
      else
        let middle := (path.nodes.drop 1).take (path.nodes.length - 2)
        let names := middle.zipIdx.map (fun node =>
          (path.names[node.2 + 1]?.join.or (sidNames.lookup node.1)).getD node.1.value)
        "via " ++ Text.join " → " names

end Names

/-- What User Account Control does to a filtered group. -/
def uacFilterReason : AccessContext → String
  | .remoteSmb =>
      "User Account Control makes this group deny-only in the remote token of a local account " ++
      "(unless the server sets LocalAccountTokenFilterPolicy) — its Allow ACEs count only " ++
      "without that filtering"
  | _ =>
      "User Account Control makes this group deny-only until the session is elevated — its " ++
      "Allow ACEs count only in an elevated session"

/-- Why a well-known SID is present only for certain logons. -/
def logonDependentReason (sid : Sid) : String :=
  if sid.value = "S-1-2-0" then "LOCAL is present only for some local logons (ADR 0069)"
  else if sid.value ∈ ["S-1-5-113", "S-1-5-114"] then
    "present only in the token of a local account of the target computer"
  else if sid.value ∈ ["S-1-5-15", "S-1-5-1000", "S-1-5-65-1"] then
    "depends on the account's organisation relative to the target (trusts, selective " ++
      "authentication)"
  else if sid.value ∈ ["S-1-5-14", "S-1-2-1", "S-1-5-13"] then
    "present only for a specific logon type (remote interactive, console, terminal server)"
  else if sid.value ∈ ["S-1-5-2", "S-1-5-4"] then
    "present only for a network or an interactive logon — the logon type is not specified"
  else if Text.startsWith "S-1-5-64-" sid.value then
    "present only for a specific authentication package (NTLM, SChannel, Digest)"
  else if Text.startsWith "S-1-18-" sid.value then "depends on how the logon was authenticated"
  else "present only for certain logons"

/-- Why an implicit well-known is in the token. -/
def implicitRoute (sid : Sid) (context : AccessContext) : String :=
  if sid = sidEveryone ∨ sid = sidAuthenticatedUsers then
    "implicit — in every token of this logon"
  else if sid = sidNetwork then "implicit — network logon over SMB"
  else if sid = sidInteractive then "implicit — interactive logon"
  else if sid = sidOwnerRights then "implicit — the account owns this object"
  else match context with
    | .remoteSmb => "implicit — network logon"
    | .localInteractive => "implicit — interactive logon"
    | .unspecified => "implicit"

/-- A step without a warning: neither decisive nor deny-only, uncertain or of an
unknown chain. -/
def isCollapsibleMembershipStep (step : String) : Bool :=
  Text.startsWith "Member of " step &&
    !(["[decisive", "[deny-only", "[uncertain", "chain unknown"].any
      (fun marker => Text.containsText marker step))

end PermissionEngine

namespace PermissionEvaluationInput

variable (input : PermissionEvaluationInput)

/-- Why the filtered groups are certainly deny-only. -/
def uacCertainReason : Option String :=
  match input.remoteUac with
  | .filtered reason => some reason
  | _ => none

/-- Why an applicable entry neither certainly applies nor certainly does not. -/
def uncertainAceReason (ace : AceEntry) : Option String :=
  if !aceAppliesToCurrentObject ace ∨ ace.sid ∈ input.matchSids then none
  else if ace.kind = .allow ∧ ace.sid ∈ input.denyOnlySids then
    some (uacFilterReason input.accessContext)
  else if ace.sid = sidCryptographicOperators ∧ ace.sid ∈ input.logonDependentGroups then
    some ("Windows may leave Cryptographic Operators out of the token or make it deny-only — " ++
      "not modelled")
  else if ace.sid ∈ identityUncertainWellKnowns input.identity.sid ∧
      ace.sid ∈ input.logonDependentGroups then
    some ("Everyone is in an anonymous token only if the target sets " ++
      "EveryoneIncludesAnonymous = 1 — Stars could not read that policy on the target " ++
      "(ADR 0072)")
  else if ace.sid ∈ input.logonDependentGroups then
    some "a local group reached only through a SID that is present only for certain logons"
  else if isLogonDependentFor ace.sid input.accessContext input.matchSids then
    some (logonDependentReason ace.sid)
  else if input.uncertainOwner.isSome ∧ ace.sid = sidOwnerRights then
    some ("OWNER RIGHTS applies only if the owner group is enabled in the token (User Account " ++
      "Control)")
  else none

/-- The effect of one entry, when it is part of the trace. -/
def aceEffect (ace : AceEntry) (decided : AccessMask) : Option AceEffect :=
  if !aceMatches ace input.matchSids input.denyOnlySids then
    match input.uacCertainReason.filter (fun _ =>
        ace.kind = .allow ∧ aceAppliesToCurrentObject ace ∧ ace.sid ∈ input.denyOnlySids) with
    | some reason => some (.notApplied s!"the group is deny-only in this token: {reason}")
    | none =>
        (input.uncertainAceReason ace).map (fun reason =>
          let effect := match input.logonDependent, ace.kind with
            | none, _ => "cannot change this result"
            | some _, .allow => "counted in the upper bound only, not in the shown value"
            | some _, .deny => "counted in the lower bound only, not in the shown value"
          .uncertain s!"{reason}; {effect}")
  else if !aceAppliesToCurrentObject ace then some .inheritOnly
  else if decided = 0#32 then some .noEffect
  else some (.decided decided)

/-- The entries of the object with the bits each of them decided. -/
def decidedAces : List (AceEntry × AccessMask) :=
  input.fileSystemObject.dacl.zipIdx.map (fun entry =>
    (entry.1, input.walk.decidedPerAce.getD entry.2 0#32))

def aceOutcomes : List AceOutcome :=
  input.decidedAces.filterMap (fun entry =>
    (input.aceEffect entry.1 entry.2).map (fun effect =>
      { layer := .ntfs
        kind := entry.1.kind
        sid := entry.1.sid
        trustee := trusteeWithSid input.sidNames entry.1.sid
        mask := entry.1.mask
        inherited := entry.1.inherited
        effect := effect }))

/-- The trustees whose entries decided bits of the result. -/
def decisiveSids : List Sid :=
  (input.decidedAces.filter (fun entry =>
    aceAppliesToCurrentObject entry.1 && aceMatches entry.1 input.matchSids input.denyOnlySids &&
      entry.2 ≠ 0#32)).map (fun entry => entry.1.sid)

end PermissionEvaluationInput

namespace ExplanationRequest

variable (request : ExplanationRequest)

/-- The trustees of the object and of its share, and the owner. -/
def namedSids : List Sid :=
  request.fileSystemObject.dacl.map AceEntry.sid ++ request.shareTrace.map AceOutcome.sid ++
    request.fileSystemObject.ownerSid.toList

/-- The group is named by its own SID or by a historical one. -/
def isNamed (membership : GroupMembership) : Bool :=
  membership.tokenSids.any (fun sid => request.namedSids.contains sid)

/-- Nothing but a name could make the membership worth a step: it is neither
deny-only nor uncertain, and its chain is known. -/
def isQuiet (membership : GroupMembership) : Bool :=
  decide (membership.groupSid ∉ request.denyOnlySids) &&
    decide (membership.groupSid ∉ request.logonDependentGroups) && !membership.chainUnknown

/-- What is said about the group beside its routes. -/
def membershipRemark (membership : GroupMembership) : String :=
  (if membership.groupSid ∈ request.decisiveSids then
    " [decisive — an ACE for this group decides bits of this result]"
  else "") ++
    (if membership.groupSid ∈ request.denyOnlySids then
      match request.uacCertainReason with
      | some reason => s!" [deny-only in this token — {reason}; its Allow ACEs do not apply]"
      | none => s!" [deny-only in a filtered token: {uacFilterReason request.accessContext}]"
    else if membership.groupSid ∈ request.logonDependentGroups then
      " [uncertain — present in the token only for certain logons]"
    else "")

def membershipStep (membership : GroupMembership) : String :=
  formatMembershipStep request.sidNames membership ++ request.membershipRemark membership

end ExplanationRequest

/-- The membership steps listed so far, and the memberships counted as not
listed. -/
structure MembershipListing where
  steps : List String := []
  notListed : List GroupMembership := []
deriving DecidableEq

namespace MembershipListing

def skip (listing : MembershipListing) (membership : GroupMembership) : MembershipListing :=
  { listing with notListed := listing.notListed ++ [membership] }

/-- Equal steps are listed once. -/
def push (listing : MembershipListing) (step : String) : MembershipListing :=
  if step ∈ listing.steps then listing else { listing with steps := listing.steps ++ [step] }

/-- One membership.  A compact row decides before the step is built, and once
more by its text. -/
def add (request : ExplanationRequest) (detail : MembershipDetail) (listing : MembershipListing)
    (membership : GroupMembership) : MembershipListing :=
  match detail with
  | .all => listing.push (request.membershipStep membership)
  | .namedOnly _ =>
      if !request.isNamed membership && request.isQuiet membership then listing.skip membership
      else
        let step := request.membershipStep membership
        if !request.isNamed membership && isCollapsibleMembershipStep step then
          listing.skip membership
        else listing.push step

end MembershipListing

namespace ExplanationRequest

variable (toLowercase : String → String) (request : ExplanationRequest)

def mergedMemberships : List GroupMembership :=
  mergedMembershipsPerGroup toLowercase request.groupMemberships

/-- Which groups can change a row is known only when every entry was evaluated,
the share could be read, and no check of the logon depends on the groups. -/
def effectiveDetail : MembershipDetail :=
  if request.fileSystemObject.unsupportedAces.isEmpty && request.unsupportedShareAceCount = 0 &&
      (match request.outputShareStatus with
        | .readFailed _ => false
        | _ => true) &&
      request.selectiveAuthentication.isNone then
    request.membershipDetail
  else .all

def membershipListing : MembershipListing :=
  (request.mergedMemberships toLowercase).foldl
    (MembershipListing.add request request.effectiveDetail) {}

/-- The counted step of a compact row. -/
def notListedStep : Option String :=
  match request.effectiveDetail with
  | .all => none
  | .namedOnly fullListAt =>
      let notListed := (request.membershipListing toLowercase).notListed.length
      if notListed > 0 then
        some (s!"Not listed: {notListed} further group membership(s) of this account — no ACE on " ++
          "this object or its share names these groups and none of them owns the object, so " ++
          s!"they cannot change this result; the full list is in the result for {fullListAt}")
      else none

/-! ## The trace -/

def groupState (sid : Sid) : TraceGroupState :=
  if sid ∈ request.denyOnlySids then .denyOnly
  else if sid ∈ request.logonDependentGroups then .uncertain
  else .member

/-- The group of a membership as the trace shows it. -/
def memberGroup (membership : GroupMembership) (decisive : Bool) : TraceGroup where
  sid := membership.groupSid
  display := match shownName membership.groupName with
    | some name => nameWithSid name membership.groupSid
    | none => trusteeWithSid request.sidNames membership.groupSid
  route := membershipRoute request.sidNames membership
  state := request.groupState membership.groupSid
  decisive := decisive

/-- The outcomes of the object's entries before those of the share. -/
def traceAces : List AceOutcome := request.aceOutcomes ++ request.shareTrace

/-- The first outcome of each trustee other than the account itself. -/
def traceTrustees : List AceOutcome :=
  distinctBy AceOutcome.sid [] (request.traceAces.filter (fun outcome =>
    outcome.sid ≠ request.identity.sid))

def membershipOf (sid : Sid) : Option GroupMembership :=
  (request.mergedMemberships toLowercase).find? (fun membership => membership.groupSid = sid)

/-- The group an outcome reaches the account through. -/
def traceGroup (outcome : AceOutcome) : Option TraceGroup :=
  match request.membershipOf toLowercase outcome.sid with
  | some membership =>
      some (request.memberGroup membership (outcome.sid ∈ request.decisiveSids))
  | none =>
      if outcome.sid ∈ request.matchSids then
        some
          { sid := outcome.sid
            display := trusteeWithSid request.sidNames outcome.sid
            route := implicitRoute outcome.sid request.accessContext
            state := .implicit
            decisive := outcome.sid ∈ request.decisiveSids }
      else
        match outcome.effect with
        | .uncertain _ =>
            some
              { sid := outcome.sid
                display := trusteeWithSid request.sidNames outcome.sid
                route := logonDependentReason outcome.sid
                state := .uncertain
                decisive := false }
        | _ => none

/-- A compact row keeps the count of the memberships without an outcome, not
their names. -/
def traceGroups : PermissionTrace :=
  let merged := request.mergedMemberships toLowercase
  let used := (request.traceTrustees.filter (fun outcome =>
    (request.membershipOf toLowercase outcome.sid).isSome)).length
  let others := merged.filter (fun membership =>
    !(request.traceTrustees.map AceOutcome.sid).contains membership.groupSid)
  { aces := request.traceAces
    groups := request.traceTrustees.filterMap (request.traceGroup toLowercase)
    otherGroups := merged.length - used
    other := match request.effectiveDetail with
      | .all => others.map (fun membership => request.memberGroup membership false)
      | .namedOnly _ => [] }

end ExplanationRequest

/-- The membership steps of a path with the counted step, and the trace. -/
structure Explanation where
  memberships : List String
  notListed : Option String
  trace : PermissionTrace
deriving DecidableEq

namespace PermissionEngine

def buildExplanation (toLowercase : String → String) (request : ExplanationRequest) :
    Explanation where
  memberships := (request.membershipListing toLowercase).steps
  notListed := request.notListedStep toLowercase
  trace := request.traceGroups toLowercase

/-- An evaluation with its explanation.  The values of the result do not read
how many memberships are listed. -/
def evaluateExplained (toLowercase : String → String) (request : ExplanationRequest) :
    EffectivePermission × Explanation :=
  (evaluate request.toPermissionEvaluationInput, buildExplanation toLowercase request)

end PermissionEngine

end Stars
