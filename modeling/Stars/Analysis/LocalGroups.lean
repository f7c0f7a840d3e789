import Stars.AdResolver.LocalGroupTable
import Stars.AdResolver.Principal
import Stars.AdResolver.UacPolicy
import Stars.PermissionEngine.Filtering
import Stars.Validation.Path

namespace Stars
namespace Analysis

open AccessControl AdResolver PermissionEngine

/-!
# The local groups of an account on a target

The local groups of the target are read by SID and expanded against the token of the
account, as a logon does it.  What cannot be read never stops an analysis: the resolution
then says that it is not complete, and what it lists is still true.
-/

/-- What the calls on targets answer, and the names this machine knows. -/
structure LocalGroupTargets where
  server : Option String → LocalGroupServer
  registry : Option String → Registry
  lookupAccount : Sid → Option String

structure LocalGroupResolution where
  sids : List Sid
  memberships : List GroupMembership
  /-- Groups that are entered only by a SID that depends on the logon. -/
  logonDependent : List Sid
  logonDependentNames : List String
  uacFiltered : List Sid
  remoteUac : RemoteUacFiltering
  anonymousEveryone : Option Bool
  status : LocalGroupEvalStatus

/-- The names a chain is labelled with: those of the groups win over the account's. -/
def knownNames (identity : Identity) (memberships : List GroupMembership) (sid : Sid) :
    Option String :=
  ((memberships.filter (fun membership => membership.groupSid = sid)).filterMap
    GroupMembership.groupName).getLast?.or
      (if sid = identity.sid then identity.name else none)

def isBuiltinAdministrator (sid : Sid) : Bool := "-500".toList.isSuffixOf sid.value.toList

/-- The server whose local groups and share are read. -/
def effectiveSmbTarget (path : String) (explicitSmbServer : Option String) : Option String :=
  (explicitSmbServer.filter (fun server => server ≠ "")).or
    ((Validation.parseUncComponents path).map Prod.fst)

/-- The share that is read, and its server. -/
structure SmbAuditContext where
  server : String
  share : String
deriving DecidableEq

def SmbAuditContext.resolve (path : String) (explicitSmbServer explicitShareName : Option String) :
    Option SmbAuditContext := do
  let unc := Validation.parseUncComponents path
  let server ← (explicitSmbServer.filter (fun server => server ≠ "")).or (unc.map Prod.fst)
  let share ← (explicitShareName.filter (fun share => share ≠ "")).or (unc.map Prod.snd)
  return ⟨server, share⟩

section Collecting

variable (targets : LocalGroupTargets) (toLowercase : String → String) (server : Option String)
  (identity : Identity) (domainMemberships : List GroupMembership) (context : AccessContext)
  (localAccount : Bool)

/-- What User Account Control does with a local account that is in a filtered group. -/
def localAccountUac : RemoteUacFiltering :=
  let policy := readTargetUacPolicy targets.registry server
  match context with
  | .remoteSmb =>
      remoteUacFiltering (isBuiltinAdministrator identity.sid) policy.enableLua
        policy.localAccountTokenFilterPolicy policy.filterAdministratorToken
  | .localInteractive =>
      if isBuiltinAdministrator identity.sid then
        localUacFiltering true policy.enableLua policy.filterAdministratorToken
      else .unknown
  | .unspecified => .unknown

/-- Whether an anonymous token carries Everyone; read for an anonymous logon only. -/
def anonymousEveryoneOf : Option Bool :=
  if identity.sid = sidAnonymousLogon then
    anonymousEveryone (readEveryoneIncludesAnonymous targets.registry server)
  else none

def expansionAccountOf : ExpansionAccount :=
  expansionAccount identity domainMemberships context (anonymousEveryoneOf targets server identity)

def collectLocalGroupsOn : LocalGroupResolution :=
  match readLocalGroupTable (targets.server server) with
  | .error reason =>
      { sids := []
        memberships := []
        logonDependent := []
        logonDependentNames := []
        uacFiltered := uacFilteredTokenGroups domainMemberships [] localAccount context
        remoteUac := .unknown
        anonymousEveryone := anonymousEveryoneOf targets server identity
        status := .notAvailable reason.display }
  | .ok table =>
      let expansion := expandLocalGroupsWith toLowercase
        (expansionAccountOf targets server identity domainMemberships context) table.groups
      let memberships := localGroupMemberships identity expansion.certain
        (knownNames identity domainMemberships) targets.lookupAccount
      let sids := memberships.map GroupMembership.groupSid
      let filtered := uacFilteredTokenGroups domainMemberships sids localAccount context
      let remoteUac := if localAccount && !filtered.isEmpty then
          localAccountUac targets server identity context
        else .unknown
      { sids := sids
        memberships := memberships
        logonDependent := expansion.logonDependent.map LocalGroupEntry.group
        logonDependentNames := expansion.logonDependent.map LocalGroupEntry.name
        uacFiltered := if decision remoteUac = some false then [] else filtered
        remoteUac := remoteUac
        anonymousEveryone := anonymousEveryoneOf targets server identity
        status := if table.gaps.isEmpty then .applied
          else .notAvailable ("; ".intercalate table.gaps) }

def collectLocalGroupSidsForPath (path : String) (explicitSmbServer : Option String) :
    LocalGroupResolution :=
  collectLocalGroupsOn targets toLowercase (effectiveSmbTarget path explicitSmbServer) identity
    domainMemberships context localAccount

end Collecting

/-- The view of the memberships of a local account lists its local groups too; what is not
complete is a gap. -/
def addLocalGroupsForMembershipView (targets : LocalGroupTargets) (toLowercase : String → String)
    (resolution : PrincipalResolution) : PrincipalResolution :=
  let localGroups := collectLocalGroupsOn targets toLowercase none resolution.identity
    resolution.memberships .unspecified false
  let incomplete := match localGroups.status with
    | .notAvailable reason => [s!"the local groups could not be read completely ({reason})"]
    | _ => []
  let dependent := if localGroups.logonDependentNames.isEmpty then []
    else
      ["membership in " ++ ", ".intercalate localGroups.logonDependentNames ++
        " depends on how the account logs on (the group is entered only through a " ++
        "logon-dependent SID such as INTERACTIVE)"]
  { resolution with
    memberships := resolution.memberships ++ localGroups.memberships
    groupResolutionGaps := resolution.groupResolutionGaps ++ incomplete ++ dependent }

/-! ## What a resolution is worth -/

/-- A group of this name is among the local groups of the server. -/
def OnServer (server : LocalGroupServer) (name : String) : Prop :=
  ∃ count names, Served server count 0 names ∧ name ∈ names

/-- Everything was read: every name, every group with all of its members, and no name that
leads into another domain than the others. -/
def ReadCompletely (server : LocalGroupServer) : Prop :=
  ∃ count names, count ≤ maxLocalGroupPages ∧ Served server count 0 names ∧
    (∀ name ∈ names, ∃ sid members, ServerGroup server name sid members) ∧
    ∀ first ∈ names, ∀ second ∈ names, ∀ domain other, InDomain server first domain →
      InDomain server second other → domain = other

/-- What a resolution says of an account on a server. -/
structure AsServed (server : LocalGroupServer) (account : ExpansionAccount)
    (resolution : LocalGroupResolution) : Prop where
  applied_iff : resolution.status = .applied ↔ ReadCompletely server
  /-- Every possible token of the account holds a member of a listed group. -/
  certain : ∀ sid ∈ resolution.sids, ∃ name, OnServer server name ∧ StandsFor server name sid ∧
    ∀ held, account.PossibleToken held → ∃ member ∈ held, HasMember server name member
  dependent : ∀ sid ∈ resolution.logonDependent, ∃ name, OnServer server name ∧
    StandsFor server name sid ∧
    ∃ held, account.PossibleToken held ∧ ∃ member ∈ held, HasMember server name member
  /-- A resolution that says nothing of gaps has no group left out. -/
  complete : resolution.status = .applied → ∀ name sid members, OnServer server name →
    ServerGroup server name sid members →
      ((∀ held, account.PossibleToken held → Meets members held) → sid ∈ resolution.sids) ∧
      ((∃ held, account.PossibleToken held ∧ Meets members held) →
        sid ∈ resolution.sids ∨ sid ∈ resolution.logonDependent)

section Served

variable {server : LocalGroupServer} {name : String} {sid : Sid} {members : List Sid}

theorem hasMember_iff (group : ServerGroup server name sid members) {member : Sid} :
    HasMember server name member ↔ member ∈ members := by
  constructor
  · intro has
    have listed := has.listed
    rw [group.sids] at listed
    rcases List.mem_map.mp listed with ⟨other, inside, same⟩
    have equal : other = member := congrArg Sid.mk (Option.some.inj same)
    rw [← equal]
    exact inside
  · intro inside
    refine ⟨group.answered, ?_, group.readable member inside⟩
    rw [group.sids]
    exact List.mem_map_of_mem inside

/-- A group that is read completely is in the table with its members. -/
theorem groupOf_of_serverGroup (group : ServerGroup server name sid members) :
    ∃ found, groupOf server name = some found ∧ found.sid = sid ∧
      ∀ held, Meets found.members held ↔ Meets members held := by
  have made : groupOf server name = some ⟨sid, name, Order.sortedSet compareSids
      (((server.members name).sids.map memberOf).filterMap LocalGroupMember.readable)⟩ :=
    groupOf_eq_some_iff.mpr ⟨⟨group.account, group.valid⟩, group.answered, rfl, rfl⟩
  refine ⟨_, made, rfl, fun held => ?_⟩
  unfold Meets
  simp only [mem_groupOf made, hasMember_iff group]

theorem readLocalGroupTable_of_complete (complete : ReadCompletely server) :
    ∃ table, readLocalGroupTable server = .ok table := by
  rcases complete with ⟨count, names, room, served, _⟩
  exact ⟨_, readLocalGroupTable_iff.mpr ⟨count, names, room, served, rfl⟩⟩

theorem gaps_eq_nil_iff_complete {table : LocalGroupTable}
    (read : readLocalGroupTable server = .ok table) : table.gaps = [] ↔ ReadCompletely server := by
  rcases readLocalGroupTable_iff.mp read with ⟨count, names, room, served, _⟩
  rw [gaps_eq_nil_iff served read]
  constructor
  · exact fun whole => ⟨count, names, room, served, whole⟩
  · intro complete
    rcases complete with ⟨other, others, _, again, whole⟩
    rw [(served.unique again).2] at whole
    exact whole

/-- The groups of the table are groups of the server. -/
theorem onServer_of_mem {table : LocalGroupTable} (read : readLocalGroupTable server = .ok table)
    {group : LocalGroupDescriptor} (listed : group ∈ table.groups) :
    ∃ name, OnServer server name ∧ groupOf server name = some group := by
  rcases readLocalGroupTable_iff.mp read with ⟨count, names, _, served, _⟩
  rcases (mem_groups served read).mp listed with ⟨name, inside, found⟩
  exact ⟨name, ⟨count, names, served, inside⟩, found⟩

theorem mem_of_onServer {table : LocalGroupTable} (read : readLocalGroupTable server = .ok table)
    (known : OnServer server name) {group : LocalGroupDescriptor}
    (found : groupOf server name = some group) : group ∈ table.groups := by
  rcases known with ⟨count, names, served, inside⟩
  exact (mem_groups served read).mpr ⟨name, inside, found⟩

section Entries

variable {table : LocalGroupTable} {toLowercase : String → String} {account : ExpansionAccount}
  (read : readLocalGroupTable server = .ok table)

include read

/-- The certain groups of a table that was read, by the groups of the server. -/
theorem mem_certainSids_iff :
    sid ∈ (expandLocalGroupsWith toLowercase account table.groups).certain.map
        LocalGroupEntry.group ↔
      ∃ name group, OnServer server name ∧ groupOf server name = some group ∧ group.sid = sid ∧
        Meets group.members ↑account.token := by
  constructor
  · intro listed
    rcases List.mem_map.mp listed with ⟨entry, certain, same⟩
    rcases mem_certain_iff.mp certain with ⟨group, inside, meets, made⟩
    rcases onServer_of_mem read inside with ⟨name, known, found⟩
    rw [made] at same
    exact ⟨name, group, known, found, same, meets⟩
  · intro known
    rcases known with ⟨name, group, known, found, same, meets⟩
    have inside := mem_of_onServer read known found
    exact List.mem_map.mpr ⟨_, mem_certain_iff.mpr ⟨group, inside, meets, rfl⟩, same⟩

theorem mem_dependentSids_iff :
    sid ∈ (expandLocalGroupsWith toLowercase account table.groups).logonDependent.map
        LocalGroupEntry.group ↔
      ∃ name group, OnServer server name ∧ groupOf server name = some group ∧ group.sid = sid ∧
        ¬Meets group.members ↑account.token ∧ Meets group.members account.openSids := by
  constructor
  · intro listed
    rcases List.mem_map.mp listed with ⟨entry, dependent, same⟩
    rcases mem_logonDependent_iff.mp dependent with ⟨group, inside, unmet, possible, made⟩
    rcases onServer_of_mem read inside with ⟨name, known, found⟩
    rw [made] at same
    exact ⟨name, group, known, found, same, unmet, possible⟩
  · intro known
    rcases known with ⟨name, group, known, found, same, unmet, possible⟩
    have inside := mem_of_onServer read known found
    exact List.mem_map.mpr
      ⟨_, mem_logonDependent_iff.mpr ⟨group, inside, unmet, possible, rfl⟩, same⟩

end Entries

end Served

section Resolutions

variable {targets : LocalGroupTargets} {toLowercase : String → String} {server : Option String}
  {identity : Identity} {domainMemberships : List GroupMembership} {context : AccessContext}
  {localAccount : Bool}

theorem map_groupSid_localGroupMemberships (entries : List LocalGroupEntry)
    (names lookupAccount : Sid → Option String) :
    (localGroupMemberships identity entries names lookupAccount).map GroupMembership.groupSid =
      entries.map LocalGroupEntry.group := by
  unfold localGroupMemberships
  rw [List.map_map]
  rfl

/-- A resolution reports a gap, or the server was read completely. -/
theorem status_cases (targets : LocalGroupTargets) (toLowercase : String → String)
    (server : Option String) (identity : Identity) (domainMemberships : List GroupMembership)
    (context : AccessContext) (localAccount : Bool) :
    ((collectLocalGroupsOn targets toLowercase server identity domainMemberships context
        localAccount).status = .applied ∧ ReadCompletely (targets.server server)) ∨
      (∃ reason, (collectLocalGroupsOn targets toLowercase server identity domainMemberships context
        localAccount).status = .notAvailable reason) ∧ ¬ReadCompletely (targets.server server) := by
  unfold collectLocalGroupsOn
  cases read : readLocalGroupTable (targets.server server) with
  | error reason =>
      refine Or.inr ⟨⟨_, rfl⟩, fun complete => ?_⟩
      rcases readLocalGroupTable_of_complete complete with ⟨table, found⟩
      rw [read] at found
      cases found
  | ok table =>
      dsimp only
      rw [← gaps_eq_nil_iff_complete read, ← List.isEmpty_iff]
      cases table.gaps.isEmpty with
      | true => exact Or.inl ⟨rfl, rfl⟩
      | false => exact Or.inr ⟨⟨_, rfl⟩, Bool.false_ne_true⟩

theorem status_eq_applied_iff : (collectLocalGroupsOn targets toLowercase server identity
    domainMemberships context localAccount).status = .applied ↔
      ReadCompletely (targets.server server) := by
  rcases status_cases targets toLowercase server identity domainMemberships context localAccount with
    ⟨applied, complete⟩ | ⟨⟨reason, other⟩, gap⟩
  · exact iff_of_true applied complete
  · refine iff_of_false (fun applied => ?_) gap
    rw [applied] at other
    cases other

/-- Whatever the calls on the target answer, a resolution that reports no gap leaves no
group of the account out, and one that reports gaps lists only groups the account is in. -/
theorem localGroups_asServed (targets : LocalGroupTargets) (toLowercase : String → String)
    (server : Option String) (identity : Identity) (domainMemberships : List GroupMembership)
    (context : AccessContext) (localAccount : Bool) :
    AsServed (targets.server server)
      (expansionAccountOf targets server identity domainMemberships context)
      (collectLocalGroupsOn targets toLowercase server identity domainMemberships context
        localAccount) := by
  have applied_iff := @status_eq_applied_iff targets toLowercase server identity domainMemberships
    context localAccount
  unfold collectLocalGroupsOn at applied_iff ⊢
  generalize expansionAccountOf targets server identity domainMemberships context = account
    at applied_iff ⊢
  cases read : readLocalGroupTable (targets.server server) with
  | error reason =>
      rw [read] at applied_iff
      refine ⟨applied_iff, ?_, ?_, ?_⟩
      · exact fun _ listed => absurd listed List.not_mem_nil
      · exact fun _ listed => absurd listed List.not_mem_nil
      · intro impossible
        cases impossible
  | ok table =>
      rw [read] at applied_iff
      dsimp only at applied_iff ⊢
      rw [map_groupSid_localGroupMemberships]
      refine ⟨applied_iff, ?_, ?_, ?_⟩
      · intro sid listed
        rcases (mem_certainSids_iff read).mp listed with ⟨name, group, known, found, same, meets⟩
        refine ⟨name, known, ?_, fun held possible => ?_⟩
        · rw [← same]
          exact (groupOf_eq_some_iff.mp found).1
        · rcases meets_every_iff.mpr meets held possible with ⟨member, inside, holds⟩
          exact ⟨member, holds, (mem_groupOf found).mp inside⟩
      · intro sid listed
        rcases (mem_dependentSids_iff read).mp listed with
          ⟨name, group, known, found, same, _, maybe⟩
        rcases meets_some_iff.mpr (Or.inr maybe) with ⟨held, possible, member, inside, holds⟩
        refine ⟨name, known, ?_, held, possible, member, holds, (mem_groupOf found).mp inside⟩
        rw [← same]
        exact (groupOf_eq_some_iff.mp found).1
      · intro _ name sid members known whole
        rcases groupOf_of_serverGroup whole with ⟨group, found, same, meets_iff⟩
        have certain : Meets members ↑account.token →
            sid ∈ (expandLocalGroupsWith toLowercase account table.groups).certain.map
              LocalGroupEntry.group := fun token =>
          (mem_certainSids_iff read).mpr ⟨name, group, known, found, same, (meets_iff _).mpr token⟩
        refine ⟨fun every => certain (meets_every_iff.mp every), fun met => ?_⟩
        by_cases token : Meets members ↑account.token
        · exact Or.inl (certain token)
        · have maybe := (meets_some_iff.mp met).resolve_left token
          refine Or.inr ((mem_dependentSids_iff read).mpr ⟨name, group, known, found, same, ?_, ?_⟩)
          · exact fun again => token ((meets_iff _).mp again)
          · exact (meets_iff _).mpr maybe

/-- The view of the memberships names a gap unless the local groups of this machine were
read completely and none of them depends on the logon. -/
theorem membershipView_silent_iff (resolution : PrincipalResolution) :
    (addLocalGroupsForMembershipView targets toLowercase resolution).groupResolutionGaps =
        resolution.groupResolutionGaps ↔
      ReadCompletely (targets.server none) ∧
        (collectLocalGroupsOn targets toLowercase none resolution.identity resolution.memberships
          .unspecified false).logonDependentNames = [] := by
  have outcomes := status_cases targets toLowercase none resolution.identity resolution.memberships
    .unspecified false
  unfold addLocalGroupsForMembershipView
  generalize collectLocalGroupsOn targets toLowercase none resolution.identity
    resolution.memberships .unspecified false = localGroups at outcomes ⊢
  dsimp only
  rw [List.append_assoc, List.append_right_eq_self, List.append_eq_nil_iff]
  refine and_congr ?_ ?_
  · rcases outcomes with ⟨applied, complete⟩ | ⟨⟨reason, other⟩, gap⟩
    · rw [applied]
      exact iff_of_true rfl complete
    · rw [other]
      exact iff_of_false (List.cons_ne_nil _ _) gap
  · cases names : localGroups.logonDependentNames with
    | nil => exact iff_of_true rfl rfl
    | cons first rest => exact iff_of_false (List.cons_ne_nil _ _) (List.cons_ne_nil _ _)

end Resolutions

/-! ## What User Account Control does -/

section Filtering

variable {targets : LocalGroupTargets} {toLowercase : String → String} {server : Option String}
  {identity : Identity} {domainMemberships : List GroupMembership} {context : AccessContext}
  {localAccount : Bool}

/-- The policies of the target decide whether the groups of a local account are filtered. -/
def PolicyDecides (targets : LocalGroupTargets) (server : Option String) (identity : Identity)
    (context : AccessContext) (filtered : Bool) : Prop :=
  TargetHolds targets.registry server "EnableLUA" true true ∧
    match context with
    | .remoteSmb => ∃ latfp fat,
        TargetHolds targets.registry server "LocalAccountTokenFilterPolicy" false latfp ∧
          TargetHolds targets.registry server "FilterAdministratorToken" false fat ∧
            filtered = filtersNetworkToken (isBuiltinAdministrator identity.sid) latfp fat
    | .localInteractive => isBuiltinAdministrator identity.sid = true ∧
        TargetHolds targets.registry server "FilterAdministratorToken" false false ∧
          filtered = false
    | .unspecified => False

theorem decision_localAccountUac_iff {filtered : Bool} :
    decision (localAccountUac targets server identity context) = some filtered ↔
      PolicyDecides targets server identity context filtered := by
  unfold localAccountUac PolicyDecides
  rw [readTargetUacPolicy_eq]
  cases context with
  | remoteSmb =>
      dsimp only
      rw [decision_remoteUacFiltering_iff]
      simp only [flag_policyValue]
  | localInteractive =>
      dsimp only
      cases administrator : isBuiltinAdministrator identity.sid with
      | true =>
          rw [if_pos rfl, decision_localUacFiltering_iff]
          simp only [flag_policyValue]
          tauto
      | false =>
          rw [if_neg Bool.false_ne_true]
          exact iff_of_false (fun impossible => by cases impossible)
            (fun known => Bool.false_ne_true known.2.1)
  | unspecified =>
      exact iff_of_false (fun impossible => by cases impossible) (fun known => known.2)

/-- What a resolution says of the filtered groups. -/
structure UacSettled (targets : LocalGroupTargets) (server : Option String) (identity : Identity)
    (domainMemberships : List GroupMembership) (context : AccessContext) (localAccount : Bool)
    (resolution : LocalGroupResolution) : Prop where
  /-- Decided for a local account in a group that may be filtered, from policies the target
  holds, and then as Windows does it. -/
  decided_iff : ∀ filtered, decision resolution.remoteUac = some filtered ↔
    localAccount = true ∧
      uacFilteredTokenGroups domainMemberships resolution.sids localAccount context ≠ [] ∧
        (∃ table, readLocalGroupTable (targets.server server) = .ok table) ∧
          PolicyDecides targets server identity context filtered
  /-- Only the decision that nothing is filtered takes groups off the list. -/
  filtered_eq : resolution.uacFiltered =
    if decision resolution.remoteUac = some false then []
    else uacFilteredTokenGroups domainMemberships resolution.sids localAccount context
  filtered_nonempty : decision resolution.remoteUac = some true → resolution.uacFiltered ≠ []

theorem remoteUac_settled (targets : LocalGroupTargets) (toLowercase : String → String)
    (server : Option String) (identity : Identity) (domainMemberships : List GroupMembership)
    (context : AccessContext) (localAccount : Bool) :
    UacSettled targets server identity domainMemberships context localAccount
      (collectLocalGroupsOn targets toLowercase server identity domainMemberships context
        localAccount) := by
  unfold collectLocalGroupsOn
  cases read : readLocalGroupTable (targets.server server) with
  | error reason =>
      refine ⟨fun filtered => ?_, ?_, ?_⟩
      · refine iff_of_false (fun impossible => by cases impossible) (fun known => ?_)
        rcases known.2.2.1 with ⟨table, found⟩
        rw [read] at found
        cases found
      · rfl
      · intro impossible
        cases impossible
  | ok table =>
      dsimp only
      generalize (localGroupMemberships identity _ _ _).map GroupMembership.groupSid = sids
      generalize made : uacFilteredTokenGroups domainMemberships sids localAccount context =
        candidates
      have asked : (localAccount && !candidates.isEmpty) = true ↔
          localAccount = true ∧ candidates ≠ [] := by
        rw [Bool.and_eq_true, Bool.not_eq_true', List.isEmpty_eq_false_iff]
      refine ⟨fun filtered => ?_, ?_, fun decided => ?_⟩
      · dsimp only
        rw [made]
        by_cases needed : (localAccount && !candidates.isEmpty) = true
        · rw [if_pos needed, decision_localAccountUac_iff]
          have both := asked.mp needed
          exact ⟨fun known => ⟨both.1, both.2, ⟨table, read⟩, known⟩, fun known => known.2.2.2⟩
        · rw [if_neg needed]
          refine iff_of_false (fun impossible => by cases impossible) (fun known => ?_)
          exact needed (asked.mpr ⟨known.1, known.2.1⟩)
      · dsimp only
        rw [made]
      · dsimp only at decided ⊢
        by_cases needed : (localAccount && !candidates.isEmpty) = true
        · rw [decided, if_neg (by decide)]
          exact (asked.mp needed).2
        · rw [if_neg needed] at decided
          cases decided

end Filtering

end Analysis
end Stars
