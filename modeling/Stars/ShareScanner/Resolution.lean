import Stars.Analysis.LocalGroups
import Stars.FsScanner.RawAccess
import Stars.ShareScanner.Decisions
import Stars.ShareScanner.ShareRead

namespace Stars
namespace ShareScanner

open AccessControl Analysis FsScanner PermissionEngine

/-!
# The share side of an analysis

From the path and the SMB options to the status of the share: which share is asked, the token
its entries are matched against, the list the server returns, and what every entry decided.

`shareMask_exact` compares an applied mask with the list on the server.  Where nothing was
left out, the mask is what the server grants to every token that is possible.
-/

/-- The status of the share, the entries that could not be evaluated, and the decisions. -/
structure ShareResolution where
  status : ShareMaskStatus
  unevaluated : Nat
  decisions : List ShareAceDecision

section Resolving

variable (shares : String → String → ShareReading) (path : String)
  (smbServer shareName : Option String) (token : ShareToken) (accessContext : AccessContext)

/-- The resolution of a share that was asked. -/
def resolveRead : Except CoreError ShareDaclScan → ShareResolution
  | .error reason => ⟨.readFailed reason.display, 0, []⟩
  | .ok scan =>
      if scan.dacl = .noSecurityDescriptor then ⟨.readFailed noSecurityDescriptorReason, 0, []⟩
      else
        let (mask, logonDependent) := evaluateShareDacl scan.dacl token accessContext
        { status := match mask with
            | some mask => .applied mask
            | none => .unrestricted
          unevaluated := scan.unsupportedCount + logonDependent
          decisions := shareAceDecisions scan.dacl token accessContext }

def resolveWithToken : ShareResolution :=
  match SmbAuditContext.resolve path smbServer shareName with
  | none => ⟨.notApplicable, 0, []⟩
  | some audit =>
      resolveRead token accessContext
        ((shares audit.server audit.share).getShareDacl audit.share audit.server)

end Resolving

section Account

variable (shares : String → String → ShareReading) (path : String)
  (smbServer shareName : Option String) (userSid : Sid) (sidHistory : List Sid)
  (memberships : List GroupMembership)
  (localGroupSids logonDependentGroupSids uacFilteredGroupSids : List Sid)
  (accessContext : AccessContext) (uacFilterCertain : Bool) (anonymousEveryone : Option Bool)

/-- The token with the policies of the target. -/
def resolvedShareToken : ShareToken :=
  (shareToken userSid sidHistory memberships localGroupSids logonDependentGroupSids
    uacFilteredGroupSids accessContext).withPolicies userSid uacFilterCertain anonymousEveryone

def resolveShareMaskStatusExplained : ShareResolution :=
  resolveWithToken shares path smbServer shareName
    (resolvedShareToken userSid sidHistory memberships localGroupSids logonDependentGroupSids
      uacFilteredGroupSids accessContext uacFilterCertain anonymousEveryone) accessContext

end Account

/-- The list of a descriptor, unless it restricts nobody. -/
def ShareDescriptor.list (descriptor : ShareDescriptor) : Option (List RawAce) :=
  if descriptor.present then descriptor.dacl else none

/-- What the list of a share grants to a token; everything without a list. -/
def ShareDescriptor.grants (descriptor : ShareDescriptor) (token : LogonToken) (bit : Nat) : Bool :=
  match descriptor.list with
  | none => true
  | some aces => rawAllowedBy token aces bit

/-- A share has no children that could inherit. -/
def ShareDescriptor.Plain (descriptor : ShareDescriptor) : Prop :=
  ∀ aces, descriptor.list = some aces → ∀ ace ∈ aces, ace.applies = true

/-- The descriptor the server returns for the share that is asked. -/
def ServedShare (shares : String → String → ShareReading) (path : String)
    (smbServer shareName : Option String) (descriptor : ShareDescriptor) : Prop :=
  ∃ audit, SmbAuditContext.resolve path smbServer shareName = some audit ∧
    (shares audit.server audit.share).information = .ok (some (some descriptor))

def SharePermission.asAceEntry (permission : SharePermission) : AceEntry where
  kind := permission.kind
  sid := permission.sid
  mask := permission.mask

theorem applies_asAceEntry (permission : SharePermission) :
    aceAppliesToCurrentObject permission.asAceEntry = true := by
  change (0#32 &&& PermissionEngine.inheritOnlyAce == 0#32) = true
  decide

theorem sameEntries_asAceEntry (permissions : List SharePermission) :
    List.Forall₂ SameEntry permissions (permissions.map SharePermission.asAceEntry) := by
  induction permissions with
  | nil => exact .nil
  | cons permission rest known => exact .cons ⟨rfl, rfl, rfl⟩ known

theorem shareWalk_eq_walkGrantedWith (permissions : List SharePermission)
    (allowMatches denyMatches : Sid → Bool) :
    shareWalk permissions allowMatches denyMatches =
      walkGrantedWith (permissions.map SharePermission.asAceEntry) allowMatches denyMatches := by
  refine shareWalk_of_sameEntries (sameEntries_asAceEntry permissions) ?_ allowMatches denyMatches
  intro ace member
  rcases List.mem_map.mp member with ⟨permission, _, rfl⟩
  exact applies_asAceEntry permission

/-- Counting more trustees for Allow entries and fewer for Deny entries never loses a right. -/
theorem shareWalk_le {permissions : List SharePermission}
    {lowAllow highAllow lowDeny highDeny : Sid → Bool}
    (allowed : ∀ permission ∈ permissions, permission.kind = .allow →
      lowAllow permission.sid = true → highAllow permission.sid = true)
    (denied : ∀ permission ∈ permissions, permission.kind = .deny →
      highDeny permission.sid = true → lowDeny permission.sid = true) :
    Within (shareWalk permissions lowAllow lowDeny) (shareWalk permissions highAllow highDeny) := by
  rw [shareWalk_eq_walkGrantedWith, shareWalk_eq_walkGrantedWith]
  refine walkGrantedWith_le ?_ ?_
  · intro ace member _ kind
    rcases List.mem_map.mp member with ⟨permission, inside, rfl⟩
    exact allowed permission inside kind
  · intro ace member _ kind
    rcases List.mem_map.mp member with ⟨permission, inside, rfl⟩
    exact denied permission inside kind

section Bracket

variable {token : ShareToken} {context : AccessContext} (permissions : List SharePermission)

/-- The rights of a token on a share. -/
def shareRights (held : LogonToken) : AccessMask :=
  shareWalk permissions (fun sid => sid ∈ held.enabled)
    (fun sid => sid ∈ held.enabled || sid ∈ held.denyOnly)

def uncertainSids (token : ShareToken) (context : AccessContext) : List Sid :=
  (permissions.filter (token.uncertainSid context)).map SharePermission.sid

def highestShare (token : ShareToken) (context : AccessContext) : AccessMask :=
  shareWalk permissions
    (fun sid => sid ∈ token.enabled || sid ∈ uncertainSids permissions token context)
    (fun sid => sid ∈ token.enabled || sid ∈ token.denyOnly)

def lowestShare (token : ShareToken) (context : AccessContext) : AccessMask :=
  shareWalk permissions (fun sid => sid ∈ token.enabled)
    (fun sid => sid ∈ token.enabled || sid ∈ token.denyOnly ||
      sid ∈ uncertainSids permissions token context)

variable {permissions} (held : PossibleToken (token.logonFacts context))

theorem shareRights_within_highest :
    Within (shareRights permissions held.toLogonToken) (highestShare permissions token context) := by
  refine shareWalk_le ?_ ?_
  · intro permission inside kind enabled
    rw [decide_eq_true_iff] at enabled
    simp only [Bool.or_eq_true, decide_eq_true_iff]
    by_cases certain : permission.sid ∈ token.enabled
    · exact .inl certain
    · right
      have possible := (held.further permission.sid enabled).resolve_left certain
      refine List.mem_map.mpr ⟨permission, List.mem_filter.mpr ⟨inside, ?_⟩, rfl⟩
      rw [ShareToken.uncertainSid, kind]
      unfold LogonFacts.mayBeEnabled ShareToken.logonFacts at possible
      grind
  · intro permission _ _ certain
    simp only [Bool.or_eq_true, decide_eq_true_iff] at certain ⊢
    rcases certain with matched | filtered
    · exact .inl (held.contains permission.sid matched)
    · exact held.filtered permission.sid filtered

theorem lowest_within_shareRights :
    Within (lowestShare permissions token context) (shareRights permissions held.toLogonToken) := by
  refine shareWalk_le ?_ ?_
  · intro permission _ _ certain
    rw [decide_eq_true_iff] at certain ⊢
    exact held.contains permission.sid certain
  · intro permission inside kind matched
    simp only [Bool.or_eq_true, decide_eq_true_iff] at matched ⊢
    have known : permission.sid ∈ token.enabled ∨
        (token.logonFacts context).mayBeEnabled permission.sid = true ∨
          permission.sid ∈ token.denyOnly := by
      rcases matched with enabled | refusing
      · exact (held.further permission.sid enabled).imp_right .inl
      · exact held.refusing permission.sid refusing
    by_cases counted : permission.sid ∈ token.enabled ∨ permission.sid ∈ token.denyOnly
    · exact .inl counted
    · right
      rcases not_or.mp counted with ⟨outside, unfiltered⟩
      have possible := (known.resolve_left outside).resolve_right unfiltered
      refine List.mem_map.mpr ⟨permission, List.mem_filter.mpr ⟨inside, ?_⟩, rfl⟩
      rw [ShareToken.uncertainSid, kind]
      unfold LogonFacts.mayBeEnabled ShareToken.logonFacts at possible
      grind

/-- A share without a counted entry grants every possible token the shown mask. -/
theorem evaluateShareDacl_exact
    (uncounted : (evaluateShareDacl (.acl permissions) token context).2 = 0) :
    (evaluateShareDacl (.acl permissions) token context).1 =
      some (shareRights permissions held.toLogonToken) := by
  have shown : (evaluateShareDacl (.acl permissions) token context).1 =
      some (shareRights permissions (token.logonFacts context).shownToken.toLogonToken) := by
    rw [evaluateShareDacl]
    dsimp only
    split <;> rfl
  have equal : lowestShare permissions token context = highestShare permissions token context := by
    rw [evaluateShareDacl] at uncounted
    dsimp only at uncounted
    by_cases nothing : (permissions.filter (token.uncertainSid context)).isEmpty = true
    · unfold lowestShare highestShare uncertainSids
      rw [List.isEmpty_iff.mp nothing]
      simp
    · rw [if_neg nothing] at uncounted
      dsimp only at uncounted
      split at uncounted
      · next same => exact same.symm
      · rw [List.length_eq_zero_iff] at uncounted
        exact absurd (List.isEmpty_iff.mpr uncounted) nothing
  -- Every possible token, the shown one too, lies between two equal readings.
  have pinned : ∀ any : PossibleToken (token.logonFacts context),
      shareRights permissions any.toLogonToken = highestShare permissions token context := by
    intro any
    refine (shareRights_within_highest any).antisymm ?_
    rw [← equal]
    exact lowest_within_shareRights any
  rw [shown, pinned, pinned]

end Bracket

section Served

variable {reading : ShareReading} {shareName server : String}

theorem reads_of_saysSame {aces : List RawAce} {permissions : List SharePermission}
    (same : List.Forall₂ ShareReading.SaysSame aces permissions)
    (plain : ∀ ace ∈ aces, ace.applies = true) :
    List.Forall₂ Reads aces (permissions.map SharePermission.asAceEntry) := by
  induction same with
  | nil => exact .nil
  | @cons ace permission _ _ head _ known =>
      refine .cons ⟨head.kind, head.trustee, head.mask, ?_⟩
        (known (fun other member => plain other (List.mem_cons_of_mem _ member)))
      rw [applies_asAceEntry, plain ace List.mem_cons_self]

theorem list_eq_none_of_parsed {descriptor : ShareDescriptor}
    (parsed : reading.parseShareDacl shareName descriptor = .ok none) : descriptor.list = none := by
  unfold ShareReading.parseShareDacl at parsed
  cases security : reading.securityDescriptorDacl with
  | error code =>
      rw [security] at parsed
      cases parsed
  | ok _ =>
      rw [security] at parsed
      rw [ShareDescriptor.list]
      cases dacl : descriptor.dacl with
      | none => exact ite_self none
      | some aces =>
          rw [dacl] at parsed
          cases counted : reading.aclInformation with
          | error code =>
              rw [counted] at parsed
              cases parsed
          | ok _ =>
              rw [counted] at parsed
              cases present : descriptor.present with
              | false => rfl
              | true =>
                  rw [present] at parsed
                  cases aces with
                  | nil => cases parsed
                  | cons first rest => cases parsed

/-- Only a descriptor whose list restricts nobody is taken for one. -/
theorem list_eq_none_of_nullDacl {unsupported : Nat}
    (read : reading.getShareDacl shareName server = .ok ⟨.nullDacl, unsupported⟩) :
    ∃ descriptor, reading.information = .ok (some (some descriptor)) ∧ descriptor.list = none := by
  unfold ShareReading.getShareDacl at read
  cases information : reading.information with
  | error status =>
      rw [information] at read
      cases read
  | ok found =>
      rw [information] at read
      dsimp only [Except.mapError] at read
      rw [Collections.ok_bind] at read
      cases joined : found.join with
      | none =>
          rw [joined] at read
          cases read
      | some descriptor =>
          rw [joined] at read
          refine ⟨descriptor, congrArg Except.ok (Option.join_eq_some_iff.mp joined), ?_⟩
          rcases Collections.bind_eq_ok_iff.mp read with ⟨parsed, parses, made⟩
          cases parsed with
          | none => exact list_eq_none_of_parsed parses
          | some entries => cases made

/-- A list read without losses holds the entries of the server's list. -/
theorem listRead_lossless {permissions : List SharePermission}
    (read : reading.getShareDacl shareName server = .ok ⟨.acl permissions, 0⟩) :
    ∃ descriptor aces, reading.information = .ok (some (some descriptor)) ∧
      descriptor.list = some aces ∧ List.Forall₂ ShareReading.SaysSame aces permissions := by
  rcases listRead_of_getShareDacl read with ⟨aces, listed⟩
  have known := @getShareDacl_of_listRead reading server shareName aces listed
  rw [read] at known
  rcases listed with ⟨descriptor, information, _, _, present, dacl⟩
  injection known with known
  injection known with entries losses
  injection entries with entries
  refine ⟨descriptor, aces, information, ?_, ?_⟩
  · rw [ShareDescriptor.list, present, if_pos rfl, dacl]
  · have kept : ∀ place ∈ aces.zipIdx, ¬reading.Lost place := by
      intro place member lost
      exact List.countP_eq_zero.mp losses.symm place member (decide_eq_true lost)
    have same := @ShareReading.permissions_of_kept reading shareName _ kept
    rw [List.zipIdx_map_fst, ← entries] at same
    exact same

end Served

section Status

variable {token : ShareToken} {context : AccessContext}

theorem evaluateShareDacl_isSome (permissions : List SharePermission) (token : ShareToken)
    (context : AccessContext) :
    ∃ mask, (evaluateShareDacl (.acl permissions) token context).1 = some mask := by
  rw [evaluateShareDacl]
  dsimp only
  split
  · exact ⟨_, rfl⟩
  · exact ⟨_, rfl⟩

theorem resolveRead_applied {read : Except CoreError ShareDaclScan} {mask : AccessMask}
    (applied : (resolveRead token context read).status = .applied mask) :
    ∃ permissions unsupported, read = .ok ⟨.acl permissions, unsupported⟩ ∧
      (evaluateShareDacl (.acl permissions) token context).1 = some mask ∧
      (resolveRead token context read).unevaluated =
        unsupported + (evaluateShareDacl (.acl permissions) token context).2 := by
  cases read with
  | error reason => cases applied
  | ok scan =>
      rcases scan with ⟨dacl, unsupported⟩
      cases dacl with
      | nullDacl => cases applied
      | noSecurityDescriptor => cases applied
      | acl permissions =>
          refine ⟨permissions, unsupported, rfl, ?_, rfl⟩
          rw [resolveRead, if_neg (by exact ShareDacl.noConfusion)] at applied
          dsimp only at applied
          cases shown : (evaluateShareDacl (.acl permissions) token context).1 with
          | none =>
              rw [shown] at applied
              cases applied
          | some other =>
              rw [shown] at applied
              cases applied
              rfl

theorem resolveRead_unrestricted {read : Except CoreError ShareDaclScan}
    (unrestricted : (resolveRead token context read).status = .unrestricted) :
    ∃ unsupported, read = .ok ⟨.nullDacl, unsupported⟩ := by
  cases read with
  | error reason => cases unrestricted
  | ok scan =>
      rcases scan with ⟨dacl, unsupported⟩
      cases dacl with
      | nullDacl => exact ⟨unsupported, rfl⟩
      | noSecurityDescriptor => cases unrestricted
      | acl permissions =>
          rcases evaluateShareDacl_isSome permissions token context with ⟨mask, shown⟩
          rw [resolveRead, if_neg (by exact ShareDacl.noConfusion)] at unrestricted
          dsimp only at unrestricted
          rw [shown] at unrestricted
          cases unrestricted

theorem resolveRead_ne_notApplicable (read : Except CoreError ShareDaclScan) :
    (resolveRead token context read).status ≠ .notApplicable := by
  intro impossible
  cases read with
  | error reason => cases impossible
  | ok scan =>
      rw [resolveRead] at impossible
      split at impossible
      · cases impossible
      · dsimp only at impossible
        split at impossible
        · cases impossible
        · cases impossible

end Status

/-! ## What an applied mask is worth -/

/-- Where every entry could be evaluated, an applied mask is what the list of the server grants
to every possible token.  Only a descriptor without a list restricts nobody, and only a path
without a share has no status. -/
structure ShareExact (shares : String → String → ShareReading) (path : String)
    (smbServer shareName : Option String) (token : ShareToken) (context : AccessContext)
    (resolution : ShareResolution) : Prop where
  applied : ∀ mask, resolution.status = .applied mask → resolution.unevaluated = 0 →
    ∃ descriptor, ServedShare shares path smbServer shareName descriptor ∧
      (descriptor.Plain → ∀ (held : PossibleToken (token.logonFacts context)) (bit : Nat),
        mask.getLsbD bit = descriptor.grants held.toLogonToken bit)
  unrestricted : resolution.status = .unrestricted →
    ∃ descriptor, ServedShare shares path smbServer shareName descriptor ∧
      ∀ (held : LogonToken) (bit : Nat), descriptor.grants held bit = true
  notApplicable : resolution.status = .notApplicable ↔
    SmbAuditContext.resolve path smbServer shareName = none

theorem shareRights_eq_grants {descriptor : ShareDescriptor} {aces : List RawAce}
    {permissions : List SharePermission} (listed : descriptor.list = some aces)
    (same : List.Forall₂ ShareReading.SaysSame aces permissions) (plain : descriptor.Plain)
    (held : LogonToken) (bit : Nat) :
    (shareRights permissions held).getLsbD bit = descriptor.grants held bit := by
  rw [shareRights, shareWalk_eq_walkGrantedWith, walkGrantedWith_eq_allowedBy,
    ← held.matchesAce_eq, ← rawAllowedBy_eq (reads_of_saysSame same (plain aces listed)),
    ShareDescriptor.grants, listed]

theorem resolveWithToken_exact (shares : String → String → ShareReading) (path : String)
    (smbServer shareName : Option String) (token : ShareToken) (context : AccessContext) :
    ShareExact shares path smbServer shareName token context
      (resolveWithToken shares path smbServer shareName token context) := by
  rw [resolveWithToken]
  cases resolved : SmbAuditContext.resolve path smbServer shareName with
  | none =>
      constructor
      · intro mask applied _
        cases applied
      · intro unrestricted
        cases unrestricted
      · exact iff_of_true rfl resolved
  | some audit =>
      constructor
      · intro mask applied evaluated
        rcases resolveRead_applied applied with ⟨permissions, unsupported, read, shown, counted⟩
        rw [counted, Nat.add_eq_zero_iff] at evaluated
        rcases evaluated with ⟨rfl, uncounted⟩
        rcases listRead_lossless read with ⟨descriptor, aces, served, listed, same⟩
        refine ⟨descriptor, ⟨audit, resolved, served⟩, fun plain held bit => ?_⟩
        have settled := evaluateShareDacl_exact held uncounted
        rw [shown] at settled
        rw [Option.some.inj settled]
        exact shareRights_eq_grants listed same plain held.toLogonToken bit
      · intro unrestricted
        rcases resolveRead_unrestricted unrestricted with ⟨unsupported, read⟩
        rcases list_eq_none_of_nullDacl read with ⟨descriptor, served, listed⟩
        refine ⟨descriptor, ⟨audit, resolved, served⟩, fun held bit => ?_⟩
        rw [ShareDescriptor.grants, listed]
      · rw [resolved]
        refine iff_of_false ?_ (Option.some_ne_none audit)
        exact resolveRead_ne_notApplicable _

/-- The share side of an analysis, for every account and whatever the server answers. -/
theorem shareMask_exact (shares : String → String → ShareReading) (path : String)
    (smbServer shareName : Option String) (userSid : Sid) (sidHistory : List Sid)
    (memberships : List GroupMembership)
    (localGroupSids logonDependentGroupSids uacFilteredGroupSids : List Sid)
    (accessContext : AccessContext) (uacFilterCertain : Bool) (anonymousEveryone : Option Bool) :
    ShareExact shares path smbServer shareName
      (resolvedShareToken userSid sidHistory memberships localGroupSids logonDependentGroupSids
        uacFilteredGroupSids accessContext uacFilterCertain anonymousEveryone) accessContext
      (resolveShareMaskStatusExplained shares path smbServer shareName userSid sidHistory
        memberships localGroupSids logonDependentGroupSids uacFilteredGroupSids accessContext
        uacFilterCertain anonymousEveryone) :=
  resolveWithToken_exact shares path smbServer shareName _ accessContext

end ShareScanner
end Stars
