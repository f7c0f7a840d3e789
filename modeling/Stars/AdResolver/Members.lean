import Stars.AdResolver.MembershipSearch
import Stars.AdResolver.SidText
import Stars.Order.Comparison
import Stars.Order.Sorting

namespace Stars
namespace AdResolver

open Collections

/-!
# The members of a group

Who is in a group takes two searches.  The back-link of `member` names its direct members.  The
accounts whose primary group it is are not among them; they are searched by the RID of the
group, which other domains have as well.  Either search may fail, and the report then says so.
One deadline covers the connection and all searches: what was found before it passes is lost.

`groupMembers_exact` is what a report is worth.
-/

inductive MemberVia where
  | direct
  | primaryGroup
deriving DecidableEq

structure MemberNode where
  identity : Identity
  via : MemberVia
deriving DecidableEq

structure GroupMembersReport where
  group : Identity
  members : List MemberNode
  diagnostics : List PermissionDiagnostic
deriving DecidableEq

structure GroupMemberEnumeration where
  members : List MemberNode
  incomplete : Option String
  universalOnDomainBind : Bool
deriving DecidableEq

/-- What the directory answers while the members of a group are searched. -/
structure MemberSearches where
  config : LdapConfig
  connect : Except CoreError Unit
  searchBySid : Sid → Except CoreError (Option RawEntry)
  searchMembersByBacklink : String → Except CoreError (List RawEntry)
  searchByPrimaryGroup : Nat → Except CoreError (List RawEntry)
  /-- The deadline passes before the last answer. -/
  expired : Bool := false

/-- An operation under a deadline. -/
def withTimeout {Value : Type} (operation : String) (config : LdapConfig) (expired : Bool)
    (outcome : Except CoreError Value) : Except CoreError Value :=
  if expired then
    let seconds := config.timeoutSecs
    .error (.ldapQuery s!"LDAP operation '{operation}' timed out after {seconds}s")
  else outcome

/-- The last component of a SID as a number. -/
def ridFromSid (sid : Sid) : Option Nat :=
  Text.parseUnsigned (2 ^ 32) ((Text.split '-' sid.value.toList).getLastD [])

/-- A SID without its last component. -/
def sidDomainPrefix (sid : Sid) : Option String :=
  (Text.rsplitOnce '-' sid.value.toList).map (fun pieces => String.ofList pieces.1)

def isUniversalGroupEntry (entry : RawEntry) : Bool :=
  ((entry.firstAttr "groupType").bind (fun text => Text.parseSigned (2 ^ 63) text.toList)).any
    (fun groupType => BitVec.ofInt 64 groupType &&& 0x8#64 ≠ 0#64)

/-- A RID is not unique in a forest: only the entries of the group's own domain are kept. -/
def filterSameDomain (entries : List RawEntry) (groupSid : Sid) : List RawEntry :=
  match sidDomainPrefix groupSid with
  | none => entries
  | some groupDomain =>
      entries.filter (fun entry =>
        ((extractSidFromEntry entry).bind sidDomainPrefix).any (fun domain => domain = groupDomain))

/-- Entries without a SID, and SIDs that are listed already, are skipped. -/
def pushMemberEntries (via : MemberVia) :
    List RawEntry → List MemberNode × List Sid → List MemberNode × List Sid
  | [], collected => collected
  | entry :: rest, (members, seen) =>
      match extractSidFromEntry entry with
      | none => pushMemberEntries via rest (members, seen)
      | some sid =>
          if sid ∈ seen then pushMemberEntries via rest (members, seen)
          else
            pushMemberEntries via rest
              (members ++ [⟨parseIdentityFromEntry entry sid, via⟩], sid :: seen)

/-- The reason of a failed search behind an earlier one. -/
def joinReason (earlier : Option String) (reason : String) : Option String :=
  match earlier with
  | some previous => some s!"{previous}; {reason}"
  | none => some reason

/-- The members of a group that was found. -/
def collectMembers (groupSid : Sid) (universalOnDomainBind : Bool)
    (backlink primary : Except CoreError (List RawEntry)) :
    Except CoreError GroupMemberEnumeration :=
  let (direct, incomplete) := match backlink with
    | .ok entries => (pushMemberEntries .direct entries ([], []), none)
    | .error reason =>
        (([], []), some s!"member back-link search failed: {reason.display}")
  let (collected, incomplete) := match primary with
    | .ok entries =>
        (pushMemberEntries .primaryGroup (filterSameDomain entries groupSid) direct, incomplete)
    | .error reason =>
        (direct, joinReason incomplete s!"primaryGroupID search failed: {reason.display}")
  match collected.1, incomplete with
  | [], some reason => .error (.ldapQuery s!"member enumeration failed: {reason}")
  | members, incomplete => .ok ⟨members, incomplete, universalOnDomainBind⟩

def enumerateGroupMembers (searches : MemberSearches) (groupSid : Sid) :
    Except CoreError GroupMemberEnumeration :=
  match ridFromSid groupSid with
  | none =>
      let value := groupSid.value
      .error (.sidResolution s!"Cannot derive RID from group SID: {value}")
  | some rid =>
      withTimeout "enumerate_group_members" searches.config searches.expired do
        searches.connect
        match ← searches.searchBySid groupSid with
        | none =>
            let value := groupSid.value
            .error (.sidResolution s!"Group not found in the configured base: {value}")
        | some groupEntry =>
            collectMembers groupSid
              (isUniversalGroupEntry groupEntry && !searches.config.globalCatalog)
              (searches.searchMembersByBacklink groupEntry.dn) (searches.searchByPrimaryGroup rid)

/-- Members by name, letter case aside, and then by SID. -/
def compareMembers (left right : String × String) : Ordering :=
  (Order.compareText left.1 right.1).then (Order.compareText left.2 right.2)

instance : Std.TransCmp compareMembers := by
  have byName : Std.TransCmp (fun left right : String × String =>
      Order.compareText left.1 right.1) := Order.transCmp_on Prod.fst
  have bySid : Std.TransCmp (fun left right : String × String =>
      Order.compareText left.2 right.2) := Order.transCmp_on Prod.snd
  exact inferInstanceAs (Std.TransCmp (compareLex
    (fun left right : String × String => Order.compareText left.1 right.1)
    (fun left right : String × String => Order.compareText left.2 right.2)))

section Report

variable (toLowercase : String → String)

def MemberNode.sortKey (node : MemberNode) : String × String :=
  (toLowercase (node.identity.name.getD ""), node.identity.sid.value)

def GroupMemberEnumeration.intoReport (enumeration : GroupMemberEnumeration) (group : Identity) :
    GroupMembersReport :=
  let viaPrimary := enumeration.members.countP (fun node => node.via = .primaryGroup)
  { group := group
    members :=
      Order.sortBy compareMembers (MemberNode.sortKey toLowercase) enumeration.members
    diagnostics :=
      (if 0 < viaPrimary then [.membersViaPrimaryGroupIncluded viaPrimary] else []) ++
        (enumeration.incomplete.map .groupMemberEnumerationIncomplete).toList ++
        (if enumeration.universalOnDomainBind then
            [.universalGroupCrossDomainMembersNotVisible] else []) }

/-- The members view of a group. -/
def groupMembers (searches : MemberSearches) (group : Identity) :
    Except CoreError GroupMembersReport :=
  (enumerateGroupMembers searches group.sid).map
    (fun enumeration => enumeration.intoReport toLowercase group)

end Report

section Pushed

variable {via : MemberVia} {entries : List RawEntry} {members : List MemberNode} {seen : List Sid}

/-- The entries with a SID. -/
def candidates (entries : List RawEntry) : List (Sid × RawEntry) :=
  entries.filterMap (fun entry => (extractSidFromEntry entry).map (fun sid => (sid, entry)))

def memberNode (via : MemberVia) (candidate : Sid × RawEntry) : MemberNode where
  identity := parseIdentityFromEntry candidate.2 candidate.1
  via := via

theorem mem_candidates_iff {sid : Sid} {entry : RawEntry} :
    (sid, entry) ∈ candidates entries ↔
      entry ∈ entries ∧ extractSidFromEntry entry = some sid := by
  rw [candidates, List.mem_filterMap]
  constructor
  · rintro ⟨other, listed, made⟩
    rcases Option.map_eq_some_iff.mp made with ⟨found, known, same⟩
    cases same
    exact ⟨listed, known⟩
  · rintro ⟨listed, known⟩
    exact ⟨entry, listed, by rw [known]; rfl⟩

/-- A search adds the first entry of each SID that was not listed before. -/
theorem pushMemberEntries_eq :
    pushMemberEntries via entries (members, seen) =
      (members ++ (distinctBy Prod.fst seen (candidates entries)).map (memberNode via),
        (distinctBy Prod.fst seen (candidates entries)).foldl
          (fun seen candidate => candidate.1 :: seen) seen) := by
  induction entries generalizing members seen with
  | nil => rw [pushMemberEntries, candidates, List.filterMap_nil, distinctBy, List.map_nil,
      List.append_nil, List.foldl_nil]
  | cons entry rest known =>
      rw [pushMemberEntries]
      cases found : extractSidFromEntry entry with
      | none =>
          have skipped : candidates (entry :: rest) = candidates rest :=
            List.filterMap_cons_none (by rw [found]; rfl)
          rw [skipped]
          exact known
      | some sid =>
          have first : candidates (entry :: rest) = (sid, entry) :: candidates rest :=
            List.filterMap_cons_some (by rw [found]; rfl)
          rw [first, distinctBy]
          dsimp only
          split
          · exact known
          · rw [known, List.map_cons, List.append_assoc, List.foldl_cons]
            rfl

/-- The SIDs that are listed after a search. -/
theorem mem_seen_iff {kept : List (Sid × RawEntry)} {sid : Sid} :
    sid ∈ kept.foldl (fun seen candidate => candidate.1 :: seen) seen ↔
      sid ∈ seen ∨ sid ∈ kept.map Prod.fst := by
  induction kept generalizing seen with
  | nil => simp
  | cons candidate rest known =>
      rw [List.foldl_cons, known, List.mem_cons, List.map_cons, List.mem_cons]
      constructor
      · rintro ((here | before) | later)
        · exact .inr (.inl here)
        · exact .inl before
        · exact .inr (.inr later)
      · rintro (before | here | later)
        · exact .inl (.inr before)
        · exact .inl (.inl here)
        · exact .inr later

/-- A SID is added exactly when it is one of an entry and was not listed before. -/
theorem mem_added_iff {sid : Sid} :
    sid ∈ (distinctBy Prod.fst seen (candidates entries)).map Prod.fst ↔
      sid ∉ seen ∧ ∃ entry ∈ entries, extractSidFromEntry entry = some sid := by
  constructor
  · intro inside
    rcases List.mem_map.mp inside with ⟨⟨found, entry⟩, kept, rfl⟩
    have fresh := ((mem_distinctBy_iff (candidates entries) seen).mp kept).1
    exact ⟨fresh, entry, mem_candidates_iff.mp ((distinctBy_sublist _ _ _).subset kept)⟩
  · rintro ⟨fresh, entry, listed, known⟩
    have candidate := mem_candidates_iff.mpr ⟨listed, known⟩
    rcases exists_key_of_mem Prod.fst (candidates entries) seen candidate fresh with
      ⟨kept, inside, same⟩
    exact List.mem_map.mpr ⟨kept, inside, same⟩

end Pushed

/-! ## What both searches say -/

section Collected

variable (groupSid : Sid) (backlink primary : Except CoreError (List RawEntry))

/-- The back-link names an entry with this SID. -/
def BacklinkNames (sid : Sid) : Prop :=
  ∃ entries, backlink = .ok entries ∧ ∃ entry ∈ entries, extractSidFromEntry entry = some sid

def SameDomain (sid : Sid) : Prop :=
  ∀ domain, sidDomainPrefix groupSid = some domain → sidDomainPrefix sid = some domain

/-- The search by the RID names an entry with this SID, in the domain of the group. -/
def PrimaryNames (sid : Sid) : Prop :=
  ∃ entries, primary = .ok entries ∧
    (∃ entry ∈ entries, extractSidFromEntry entry = some sid) ∧ SameDomain groupSid sid

/-- An entry of either answer. -/
def Answered (entry : RawEntry) : Prop :=
  (∃ entries, backlink = .ok entries ∧ entry ∈ entries) ∨
    ∃ entries, primary = .ok entries ∧ entry ∈ entries

def directCandidates : List (Sid × RawEntry) :=
  match backlink with
  | .ok entries => distinctBy Prod.fst [] (candidates entries)
  | .error _ => []

def primaryCandidates : List (Sid × RawEntry) :=
  match primary with
  | .ok entries =>
      distinctBy Prod.fst ((directCandidates backlink).foldl
        (fun seen candidate => candidate.1 :: seen) [])
        (candidates (filterSameDomain entries groupSid))
  | .error _ => []

def collectedNodes : List MemberNode :=
  (directCandidates backlink).map (memberNode .direct) ++
    (primaryCandidates groupSid backlink primary).map (memberNode .primaryGroup)

/-- The reason that names every failed search. -/
def failedSearches : Option String :=
  let earlier := match backlink with
    | .ok _ => none
    | .error reason => some s!"member back-link search failed: {reason.display}"
  match primary with
  | .ok _ => earlier
  | .error reason => joinReason earlier s!"primaryGroupID search failed: {reason.display}"

theorem collectMembers_eq (universal : Bool) :
    collectMembers groupSid universal backlink primary =
      match collectedNodes groupSid backlink primary, failedSearches backlink primary with
      | [], some reason => .error (.ldapQuery s!"member enumeration failed: {reason}")
      | members, incomplete => .ok ⟨members, incomplete, universal⟩ := by
  unfold collectMembers collectedNodes failedSearches primaryCandidates directCandidates
  cases backlink with
  | error first =>
      cases primary with
      | error second => rfl
      | ok entries =>
          dsimp only
          rw [pushMemberEntries_eq]
          rfl
  | ok direct =>
      cases primary with
      | error second =>
          dsimp only
          rw [pushMemberEntries_eq, List.nil_append, List.map_nil, List.append_nil]
      | ok entries =>
          dsimp only
          rw [pushMemberEntries_eq, pushMemberEntries_eq]
          rfl

theorem failedSearches_isSome_iff : (failedSearches backlink primary).isSome = true ↔
    (∃ reason, backlink = .error reason) ∨ ∃ reason, primary = .error reason := by
  unfold failedSearches
  cases backlink with
  | error first =>
      refine iff_of_true ?_ (.inl ⟨first, rfl⟩)
      cases primary with
      | error second => rfl
      | ok entries => rfl
  | ok direct =>
      cases primary with
      | error second => exact iff_of_true rfl (.inr ⟨second, rfl⟩)
      | ok entries =>
          refine iff_of_false Bool.false_ne_true ?_
          rintro (⟨reason, impossible⟩ | ⟨reason, impossible⟩)
          · cases impossible
          · cases impossible

variable {groupSid backlink primary}

theorem mem_filterSameDomain_iff {entries : List RawEntry} {entry : RawEntry} {sid : Sid}
    (known : extractSidFromEntry entry = some sid) :
    entry ∈ filterSameDomain entries groupSid ↔ entry ∈ entries ∧ SameDomain groupSid sid := by
  unfold filterSameDomain SameDomain
  cases sidDomainPrefix groupSid with
  | none =>
      refine (and_iff_left ?_).symm
      intro domain impossible
      cases impossible
  | some groupDomain =>
      dsimp only
      rw [List.mem_filter, known, Option.bind_some]
      refine and_congr_right (fun _ => ?_)
      cases sidDomainPrefix sid with
      | none =>
          refine iff_of_false Bool.false_ne_true ?_
          intro same
          cases same groupDomain rfl
      | some domain =>
          rw [Option.any_some, decide_eq_true_iff]
          constructor
          · intro same other named
            rw [same]
            exact named
          · intro same
            exact Option.some.inj (same groupDomain rfl)

theorem mem_directCandidates_iff {sid : Sid} :
    sid ∈ (directCandidates backlink).map Prod.fst ↔ BacklinkNames backlink sid := by
  unfold directCandidates BacklinkNames
  cases backlink with
  | error reason =>
      refine iff_of_false List.not_mem_nil ?_
      rintro ⟨entries, impossible, _⟩
      cases impossible
  | ok entries =>
      dsimp only
      rw [mem_added_iff, and_iff_right List.not_mem_nil]
      constructor
      · exact fun named => ⟨entries, rfl, named⟩
      · rintro ⟨other, same, named⟩
        cases same
        exact named

theorem mem_primaryCandidates_iff {sid : Sid} :
    sid ∈ (primaryCandidates groupSid backlink primary).map Prod.fst ↔
      PrimaryNames groupSid primary sid ∧ ¬BacklinkNames backlink sid := by
  rw [← mem_directCandidates_iff]
  unfold primaryCandidates PrimaryNames
  cases primary with
  | error reason =>
      refine iff_of_false List.not_mem_nil ?_
      rintro ⟨⟨entries, impossible, _⟩, _⟩
      cases impossible
  | ok entries =>
      dsimp only
      rw [mem_added_iff, mem_seen_iff, or_iff_right List.not_mem_nil, and_comm]
      refine and_congr_left (fun _ => ?_)
      constructor
      · rintro ⟨entry, kept, known⟩
        rcases (mem_filterSameDomain_iff known).mp kept with ⟨listed, same⟩
        exact ⟨entries, rfl, ⟨entry, listed, known⟩, same⟩
      · rintro ⟨other, found, ⟨entry, listed, known⟩, same⟩
        cases found
        exact ⟨entry, (mem_filterSameDomain_iff known).mpr ⟨listed, same⟩, known⟩

/-- The members of one kind are those of its search. -/
theorem exists_node_iff {via : MemberVia} {sid : Sid} :
    (∃ node ∈ collectedNodes groupSid backlink primary,
        node.via = via ∧ node.identity.sid = sid) ↔
      sid ∈ (match via with
        | .direct => directCandidates backlink
        | .primaryGroup => primaryCandidates groupSid backlink primary).map Prod.fst := by
  rw [collectedNodes]
  constructor
  · rintro ⟨node, inside, rfl, rfl⟩
    rcases List.mem_append.mp inside with direct | primary
    · rcases List.mem_map.mp direct with ⟨candidate, kept, rfl⟩
      exact List.mem_map.mpr ⟨candidate, kept, rfl⟩
    · rcases List.mem_map.mp primary with ⟨candidate, kept, rfl⟩
      exact List.mem_map.mpr ⟨candidate, kept, rfl⟩
  · intro inside
    rcases List.mem_map.mp inside with ⟨candidate, kept, rfl⟩
    cases via with
    | direct =>
        exact ⟨memberNode .direct candidate,
          List.mem_append_left _ (List.mem_map.mpr ⟨candidate, kept, rfl⟩), rfl, rfl⟩
    | primaryGroup =>
        exact ⟨memberNode .primaryGroup candidate,
          List.mem_append_right _ (List.mem_map.mpr ⟨candidate, kept, rfl⟩), rfl, rfl⟩

/-- No SID is listed twice. -/
theorem nodup_collectedNodes :
    ((collectedNodes groupSid backlink primary).map (fun node => node.identity.sid)).Nodup := by
  have sids : (collectedNodes groupSid backlink primary).map (fun node => node.identity.sid) =
      (directCandidates backlink).map Prod.fst ++
        (primaryCandidates groupSid backlink primary).map Prod.fst := by
    rw [collectedNodes, List.map_append, List.map_map, List.map_map]
    rfl
  rw [sids, List.nodup_append]
  refine ⟨?_, ?_, ?_⟩
  · unfold directCandidates
    cases backlink with
    | error reason => exact List.nodup_nil
    | ok entries => exact nodup_distinctBy Prod.fst (candidates entries) []
  · unfold primaryCandidates
    cases primary with
    | error reason => exact List.nodup_nil
    | ok entries => exact nodup_distinctBy Prod.fst _ _
  · intro sid direct other later same
    rw [← same] at later
    exact (mem_primaryCandidates_iff.mp later).2 (mem_directCandidates_iff.mp direct)

/-- Every member is read from an entry of an answer. -/
theorem identified_collectedNodes {node : MemberNode}
    (inside : node ∈ collectedNodes groupSid backlink primary) :
    ∃ entry, Answered backlink primary entry ∧
      extractSidFromEntry entry = some node.identity.sid ∧
      node.identity = parseIdentityFromEntry entry node.identity.sid := by
  rcases List.mem_append.mp inside with direct | later
  · rcases List.mem_map.mp direct with ⟨⟨sid, entry⟩, kept, rfl⟩
    unfold directCandidates at kept
    cases backlink with
    | error reason => cases kept
    | ok entries =>
        rcases mem_candidates_iff.mp ((distinctBy_sublist _ _ _).subset kept) with ⟨listed, known⟩
        exact ⟨entry, .inl ⟨entries, rfl, listed⟩, known, rfl⟩
  · rcases List.mem_map.mp later with ⟨⟨sid, entry⟩, kept, rfl⟩
    unfold primaryCandidates at kept
    cases primary with
    | error reason => cases kept
    | ok entries =>
        rcases mem_candidates_iff.mp ((distinctBy_sublist _ _ _).subset kept) with ⟨listed, known⟩
        have here := ((mem_filterSameDomain_iff known).mp listed).1
        exact ⟨entry, .inr ⟨entries, rfl, here⟩, known, rfl⟩

end Collected

/-! ## What a report is worth -/

/-- A report lists every member that a search names, once, as a direct member where the
back-link names it, and says which search has failed. -/
structure MembersExact (toLowercase : String → String) (groupSid : Sid)
    (universalOnDomainBind : Bool) (backlink primary : Except CoreError (List RawEntry))
    (report : GroupMembersReport) : Prop where
  once : (report.members.map (fun node => node.identity.sid)).Nodup
  direct : ∀ sid, (∃ node ∈ report.members, node.via = .direct ∧ node.identity.sid = sid) ↔
    BacklinkNames backlink sid
  primaryGroup : ∀ sid,
    (∃ node ∈ report.members, node.via = .primaryGroup ∧ node.identity.sid = sid) ↔
      PrimaryNames groupSid primary sid ∧ ¬BacklinkNames backlink sid
  identified : ∀ node ∈ report.members, ∃ entry, Answered backlink primary entry ∧
    extractSidFromEntry entry = some node.identity.sid ∧
      node.identity = parseIdentityFromEntry entry node.identity.sid
  ordered : report.members.Pairwise
    (Order.NotAfter compareMembers (MemberNode.sortKey toLowercase))
  incomplete : (∃ reason, .groupMemberEnumerationIncomplete reason ∈ report.diagnostics) ↔
    (∃ reason, backlink = .error reason) ∨ ∃ reason, primary = .error reason
  crossDomain : .universalGroupCrossDomainMembersNotVisible ∈ report.diagnostics ↔
    universalOnDomainBind = true
  counted : ∀ count, .membersViaPrimaryGroupIncluded count ∈ report.diagnostics ↔
    0 < count ∧ count = report.members.countP (fun node => node.via = .primaryGroup)

/-- The group is found, and both searches answer in time. -/
structure Searched (searches : MemberSearches) (groupSid : Sid) (rid : Nat)
    (groupEntry : RawEntry) : Prop where
  rid : ridFromSid groupSid = some rid
  inTime : searches.expired = false
  connected : searches.connect = .ok ()
  found : searches.searchBySid groupSid = .ok (some groupEntry)

/-- The members view of a group, whatever the directory answers. -/
structure MembersView (toLowercase : String → String) (searches : MemberSearches)
    (group : Identity) : Prop where
  reported : ∀ report, groupMembers toLowercase searches group = .ok report →
    ∃ rid groupEntry, Searched searches group.sid rid groupEntry ∧
      MembersExact toLowercase group.sid
        (isUniversalGroupEntry groupEntry && !searches.config.globalCatalog)
        (searches.searchMembersByBacklink groupEntry.dn) (searches.searchByPrimaryGroup rid) report
  /-- A failed search is an error only where the other one names nobody. -/
  answered : (∃ report, groupMembers toLowercase searches group = .ok report) ↔
    ∃ rid groupEntry, Searched searches group.sid rid groupEntry ∧
      ((∃ sid, BacklinkNames (searches.searchMembersByBacklink groupEntry.dn) sid ∨
          PrimaryNames group.sid (searches.searchByPrimaryGroup rid) sid) ∨
        ((∃ entries, searches.searchMembersByBacklink groupEntry.dn = .ok entries) ∧
          ∃ entries, searches.searchByPrimaryGroup rid = .ok entries))
  /-- Behind the deadline nothing is reported, whomever a search has named. -/
  late : searches.expired = true → ∀ rid, ridFromSid group.sid = some rid →
    ∃ reason, groupMembers toLowercase searches group = .error (.ldapQuery reason)

section Worth

variable {toLowercase : String → String} {searches : MemberSearches} {groupSid : Sid}

/-- An operation has a result when it ends in time with one. -/
theorem withTimeout_eq_ok_iff {Value : Type} {operation : String} {config : LdapConfig}
    {expired : Bool} {outcome : Except CoreError Value} {value : Value} :
    withTimeout operation config expired outcome = .ok value ↔
      expired = false ∧ outcome = .ok value := by
  cases expired with
  | true => simp [withTimeout]
  | false => simp [withTimeout]

/-- An enumeration comes from a group that was found. -/
theorem enumerateGroupMembers_eq_ok_iff {enumeration : GroupMemberEnumeration} :
    enumerateGroupMembers searches groupSid = .ok enumeration ↔
      ∃ rid groupEntry, Searched searches groupSid rid groupEntry ∧
        collectMembers groupSid
          (isUniversalGroupEntry groupEntry && !searches.config.globalCatalog)
          (searches.searchMembersByBacklink groupEntry.dn) (searches.searchByPrimaryGroup rid) =
            .ok enumeration := by
  unfold enumerateGroupMembers
  cases known : ridFromSid groupSid with
  | none =>
      constructor
      · intro impossible
        cases impossible
      · rintro ⟨rid, groupEntry, searched, _⟩
        cases known.symm.trans searched.rid
  | some rid =>
      dsimp only
      rw [withTimeout_eq_ok_iff, bind_eq_ok_iff]
      constructor
      · intro ⟨inTime, _, connected, rest⟩
        rcases bind_eq_ok_iff.mp rest with ⟨found, asked, made⟩
        cases found with
        | none => cases made
        | some groupEntry => exact ⟨rid, groupEntry, ⟨known, inTime, connected, asked⟩, made⟩
      · intro ⟨other, groupEntry, searched, made⟩
        cases known.symm.trans searched.rid
        exact ⟨searched.inTime, (), searched.connected,
          bind_eq_ok_iff.mpr ⟨some groupEntry, searched.found, made⟩⟩

variable {backlink primary : Except CoreError (List RawEntry)}

/-- An enumeration holds the members and the reason of the failed searches. -/
theorem collectMembers_eq_ok_iff {universal : Bool} {enumeration : GroupMemberEnumeration} :
    collectMembers groupSid universal backlink primary = .ok enumeration ↔
      enumeration = ⟨collectedNodes groupSid backlink primary,
          failedSearches backlink primary, universal⟩ ∧
        (collectedNodes groupSid backlink primary ≠ [] ∨
          failedSearches backlink primary = none) := by
  rw [collectMembers_eq]
  cases collectedNodes groupSid backlink primary with
  | nil =>
      cases failedSearches backlink primary with
      | none =>
          dsimp only
          rw [Except.ok.injEq, eq_comm]
          exact (and_iff_left (.inr rfl)).symm
      | some reason =>
          constructor
          · intro impossible
            cases impossible
          · rintro ⟨_, nobody | failed⟩
            · exact absurd rfl nobody
            · cases failed
  | cons node rest =>
      dsimp only
      rw [Except.ok.injEq, eq_comm]
      exact (and_iff_left (.inl (List.cons_ne_nil node rest))).symm

theorem collectedNodes_ne_nil_iff : collectedNodes groupSid backlink primary ≠ [] ↔
    ∃ sid, BacklinkNames backlink sid ∨ PrimaryNames groupSid primary sid := by
  constructor
  · intro something
    rcases List.exists_mem_of_ne_nil _ something with ⟨node, inside⟩
    refine ⟨node.identity.sid, ?_⟩
    cases via : node.via with
    | direct =>
        exact .inl (mem_directCandidates_iff.mp
          ((@exists_node_iff _ _ _ .direct _).mp ⟨node, inside, via, rfl⟩))
    | primaryGroup =>
        exact .inr (mem_primaryCandidates_iff.mp
          ((@exists_node_iff _ _ _ .primaryGroup _).mp ⟨node, inside, via, rfl⟩)).1
  · rintro ⟨sid, named⟩ nobody
    by_cases direct : BacklinkNames backlink sid
    · rcases (@exists_node_iff _ _ _ .direct _).mpr (mem_directCandidates_iff.mpr direct) with
        ⟨node, inside, _⟩
      rw [nobody] at inside
      cases inside
    · have later := named.resolve_left direct
      rcases (@exists_node_iff _ _ _ .primaryGroup _).mpr
        (mem_primaryCandidates_iff.mpr ⟨later, direct⟩) with ⟨node, inside, _⟩
      rw [nobody] at inside
      cases inside

theorem failedSearches_eq_none_iff : failedSearches backlink primary = none ↔
    (∃ entries, backlink = .ok entries) ∧ ∃ entries, primary = .ok entries := by
  rw [← Option.not_isSome_iff_eq_none, failedSearches_isSome_iff]
  cases backlink with
  | error first => simp
  | ok direct =>
      cases primary with
      | error second => simp
      | ok entries => simp

/-- The members over their primary group are counted where there are any. -/
theorem mem_counted_iff (enumeration : GroupMemberEnumeration) (group : Identity) (count : Nat) :
    .membersViaPrimaryGroupIncluded count ∈
        (enumeration.intoReport toLowercase group).diagnostics ↔
      0 < count ∧ count = enumeration.members.countP (fun node => node.via = .primaryGroup) := by
  rw [GroupMemberEnumeration.intoReport]
  generalize enumeration.members.countP (fun node => decide (node.via = .primaryGroup)) = found
  have others : PermissionDiagnostic.membersViaPrimaryGroupIncluded count ∉
      (enumeration.incomplete.map .groupMemberEnumerationIncomplete).toList ++
        (if enumeration.universalOnDomainBind then
            [.universalGroupCrossDomainMembersNotVisible] else []) := by
    rw [List.mem_append]
    rintro (reason | crossDomain)
    · rcases Option.map_eq_some_iff.mp (Option.mem_toList.mp reason) with ⟨_, _, impossible⟩
      cases impossible
    · split at crossDomain
      · cases List.mem_singleton.mp crossDomain
      · cases crossDomain
  dsimp only
  rw [List.append_assoc, List.mem_append, or_iff_left others]
  by_cases something : 0 < found
  · rw [if_pos something, List.mem_singleton]
    constructor
    · intro same
      injection same with same
      exact ⟨same ▸ something, same⟩
    · rintro ⟨_, same⟩
      rw [same]
  · rw [if_neg something]
    refine iff_of_false List.not_mem_nil ?_
    rintro ⟨positive, same⟩
    exact something (same ▸ positive)

/-- The report of an enumeration is exact. -/
theorem membersExact_intoReport (universal : Bool) (group : Identity) :
    MembersExact toLowercase groupSid universal backlink primary
      ((⟨collectedNodes groupSid backlink primary, failedSearches backlink primary,
        universal⟩ : GroupMemberEnumeration).intoReport toLowercase group) := by
  have arranged : (Order.sortBy compareMembers (MemberNode.sortKey toLowercase)
      (collectedNodes groupSid backlink primary)).Perm
        (collectedNodes groupSid backlink primary) := Order.perm_sortBy _
  have listed : ∀ condition : MemberNode → Prop,
      (∃ node ∈ Order.sortBy compareMembers (MemberNode.sortKey toLowercase)
          (collectedNodes groupSid backlink primary), condition node) ↔
        ∃ node ∈ collectedNodes groupSid backlink primary, condition node :=
    fun condition => exists_congr (fun node => and_congr_left' arranged.mem_iff)
  constructor
  · exact (arranged.map _).nodup_iff.mpr nodup_collectedNodes
  · intro sid
    exact (listed _).trans (exists_node_iff.trans mem_directCandidates_iff)
  · intro sid
    exact (listed _).trans (exists_node_iff.trans mem_primaryCandidates_iff)
  · intro node inside
    exact identified_collectedNodes (arranged.mem_iff.mp inside)
  · exact Order.pairwise_sortBy _
  · rw [← failedSearches_isSome_iff, GroupMemberEnumeration.intoReport]
    cases failedSearches backlink primary with
    | none => simp
    | some reason => simp
  · rw [GroupMemberEnumeration.intoReport]
    cases universal with
    | false => simp
    | true => simp
  · intro count
    have same : ((⟨collectedNodes groupSid backlink primary, failedSearches backlink primary,
        universal⟩ : GroupMemberEnumeration).intoReport toLowercase group).members.countP
          (fun node => node.via = .primaryGroup) =
        (collectedNodes groupSid backlink primary).countP
          (fun node => node.via = .primaryGroup) := arranged.countP_eq _
    rw [same]
    exact mem_counted_iff _ group count

theorem groupMembers_eq_ok_iff {group : Identity} {report : GroupMembersReport} :
    groupMembers toLowercase searches group = .ok report ↔
      ∃ enumeration, enumerateGroupMembers searches group.sid = .ok enumeration ∧
        enumeration.intoReport toLowercase group = report := by
  rw [groupMembers]
  cases enumerateGroupMembers searches group.sid with
  | error reason =>
      constructor
      · intro impossible
        cases impossible
      · rintro ⟨enumeration, impossible, _⟩
        cases impossible
  | ok enumeration =>
      constructor
      · exact fun made => ⟨enumeration, rfl, Except.ok.inj made⟩
      · rintro ⟨other, same, made⟩
        cases same
        exact congrArg Except.ok made

/-- A report comes from a group that was found, and is exact. -/
theorem membersExact_of_report {group : Identity} {report : GroupMembersReport}
    (made : groupMembers toLowercase searches group = .ok report) :
    ∃ rid groupEntry, Searched searches group.sid rid groupEntry ∧
      MembersExact toLowercase group.sid
        (isUniversalGroupEntry groupEntry && !searches.config.globalCatalog)
        (searches.searchMembersByBacklink groupEntry.dn) (searches.searchByPrimaryGroup rid)
        report := by
  rcases groupMembers_eq_ok_iff.mp made with ⟨enumeration, enumerated, rfl⟩
  rcases enumerateGroupMembers_eq_ok_iff.mp enumerated with
    ⟨rid, groupEntry, searched, collected⟩
  rw [(collectMembers_eq_ok_iff.mp collected).1]
  exact ⟨rid, groupEntry, searched, membersExact_intoReport _ group⟩

/-- For every group, whatever the directory answers. -/
theorem groupMembers_exact (toLowercase : String → String) (searches : MemberSearches)
    (group : Identity) : MembersView toLowercase searches group := by
  constructor
  · exact fun report made => membersExact_of_report made
  · constructor
    · intro ⟨report, made⟩
      rcases groupMembers_eq_ok_iff.mp made with ⟨enumeration, enumerated, _⟩
      rcases enumerateGroupMembers_eq_ok_iff.mp enumerated with
        ⟨rid, groupEntry, searched, collected⟩
      refine ⟨rid, groupEntry, searched, ?_⟩
      exact (collectMembers_eq_ok_iff.mp collected).2.imp collectedNodes_ne_nil_iff.mp
        failedSearches_eq_none_iff.mp
    · intro ⟨rid, groupEntry, searched, named⟩
      have known := named.imp collectedNodes_ne_nil_iff.mpr failedSearches_eq_none_iff.mpr
      exact ⟨_, groupMembers_eq_ok_iff.mpr ⟨_, enumerateGroupMembers_eq_ok_iff.mpr
        ⟨rid, groupEntry, searched, collectMembers_eq_ok_iff.mpr ⟨rfl, known⟩⟩, rfl⟩⟩
  · intro expired rid known
    rw [groupMembers, enumerateGroupMembers, known]
    dsimp only
    rw [withTimeout, expired, if_pos rfl]
    exact ⟨_, rfl⟩

end Worth

end AdResolver
end Stars
