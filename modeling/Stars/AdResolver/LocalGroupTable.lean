import Stars.AdResolver.LocalGroupPath
import Stars.AdResolver.Pipeline

namespace Stars
namespace AdResolver

open PermissionEngine

/-!
# The local groups of a server

The table of a server's local groups takes three kinds of calls: the names page by page,
then the SID and the members of every name.  A name can resolve to something else than a
local group, a SID can be unreadable, and every call can fail.  What is not read of a group
is a gap of the table; only a failing enumeration is an error of the whole.
-/

/-- One answer of the enumeration. -/
structure NamePage where
  status : Nat
  names : List String

/-- The members of one group: the text of each SID, where there is one. -/
structure MemberPage where
  status : Nat
  sids : List (Option String)

/-- What a server answers. -/
structure LocalGroupServer where
  /-- The server in the words of an error. -/
  shown : String
  /-- The answers of the enumeration, call by call. -/
  page : Nat → NamePage
  /-- The SID a name stands for, and what kind of account that is. -/
  account : String → Option (String × Int)
  members : String → MemberPage

def noError : Nat := 0

def errorAccessDenied : Nat := 5

def errorMoreData : Nat := 234

/-- A local group, builtin or not. -/
def sidTypeAlias : Int := 4

def maxLocalGroupPages : Nat := 10000

section Reading

variable (server : LocalGroupServer)

/-- The names of at most so many further pages, behind those of the pages before. -/
def enumerateFrom : Nat → Nat → List String → Except CoreError (List String)
  | 0, _, _ => .error (.ldapQuery (s!"NetLocalGroupEnum on {server.shown} did not finish after " ++
      s!"{maxLocalGroupPages} pages"))
  | pages + 1, call, names =>
      let answer := server.page call
      if answer.status ≠ noError ∧ answer.status ≠ errorMoreData then
        if answer.status = errorAccessDenied then
          .error (.accessDenied s!"NetLocalGroupEnum: access denied on {server.shown}")
        else
          .error (.ldapQuery (s!"NetLocalGroupEnum on {server.shown} failed with status " ++
            s!"{answer.status}"))
      else if "" ∈ answer.names then
        .error (.ldapQuery
          s!"NetLocalGroupEnum on {server.shown} returned a local group without a name")
      else if answer.status = noError then
        .ok (Order.sortedSet Order.compareText (names ++ answer.names))
      else enumerateFrom pages (call + 1) (names ++ answer.names)

def enumerateLocalGroupNames : Except CoreError (List String) :=
  enumerateFrom server maxLocalGroupPages 0 []

/-- A member without a text has no SID. -/
def memberOf (text : Option String) : LocalGroupMember where
  sid := (text.filter (fun shown => shown ≠ "")).map Sid.mk

def getLocalGroupMembers (groupName : String) : Except CoreError (List LocalGroupMember) :=
  let answer := server.members groupName
  if answer.status ≠ noError then
    if answer.status = errorAccessDenied then
      .error (.accessDenied (s!"NetLocalGroupGetMembers: access denied for '{groupName}' on " ++
        server.shown))
    else
      .error (.ldapQuery (s!"NetLocalGroupGetMembers('{groupName}') failed with status " ++
        s!"{answer.status}"))
  else
    .ok (answer.sids.map memberOf)

/-- The SID of a local group, or why it is not known. -/
def readAlias (name : String) : Except String Sid :=
  match server.account name with
  | some (sid, kind) =>
      if kind = sidTypeAlias then
        match Sid.tryNew sid with
        | .ok _ => .ok ⟨sid⟩
        | .error reason =>
            .error s!"the local group '{name}' returned an invalid SID ({reason.display})"
      else
        .error (s!"the name of the local group '{name}' resolves to {sid}, which is not a " ++
          s!"local group (SID type {kind})")
  | none => .error s!"the SID of the local group '{name}' could not be read"

end Reading

/-- The domain of a group that is not builtin. -/
def accountDomain (sid : Sid) : Option String :=
  if Text.startsWith "S-1-5-32-" sid.value then none
  else (Text.rsplitOnce '-' sid.value.toList).map (fun pieces => String.ofList pieces.1)

/-- The SID of a member, where it can be read. -/
def LocalGroupMember.readable (member : LocalGroupMember) : Option Sid :=
  member.sid.filter (fun sid => (Sid.tryNew sid.value).isOk)

def compareSids (left right : Sid) : Ordering := Order.compareText left.value right.value

/-- Every local group of a server with its members, and what could not be read. -/
structure LocalGroupTable where
  groups : List LocalGroupDescriptor := []
  gaps : List String := []

/-- The table while it is read, with the domains of the groups so far. -/
structure TableDraft extends LocalGroupTable where
  accountDomains : List String := []

def addGroup (server : LocalGroupServer) (draft : TableDraft) (name : String) : TableDraft :=
  match readAlias server name with
  | .error gap => { draft with gaps := draft.gaps ++ [gap] }
  | .ok sid =>
      let accountDomains := draft.accountDomains ++ (accountDomain sid).toList
      match getLocalGroupMembers server name with
      | .error reason =>
          { draft with
            accountDomains := accountDomains
            gaps := draft.gaps ++
              [s!"the members of the local group '{name}' could not be read ({reason.display})"] }
      | .ok members =>
          let unreadable := members.countP (fun member => member.readable.isNone)
          let gaps := if 0 < unreadable then
              draft.gaps ++
                [s!"{unreadable} member(s) of the local group '{name}' have no readable SID"]
            else draft.gaps
          { accountDomains := accountDomains
            gaps := gaps
            groups := draft.groups ++
              [{ sid := sid
                 name := name
                 members := Order.sortedSet compareSids
                   (members.filterMap LocalGroupMember.readable) }] }

/-- A name that resolves to another domain than the others is no local group. -/
def domainGap (accountDomains : List String) : List String :=
  let distinct := Order.sortedSet Order.compareText accountDomains
  let shown := ", ".intercalate distinct
  if 1 < distinct.length then
    [s!"the local groups resolve to {distinct.length} different account domains ({shown}) — a " ++
      "group name may have resolved to a non-local group"]
  else []

def readLocalGroupTable (server : LocalGroupServer) : Except CoreError LocalGroupTable :=
  (enumerateLocalGroupNames server).map (fun names =>
    let draft := names.foldl (addGroup server) {}
    { groups := Order.sortBy Order.compareText (fun group => group.sid.value) draft.groups
      gaps := draft.gaps ++ domainGap draft.accountDomains })

/-- From one call on, so many answers with these names, up to the end of the list. -/
inductive Served (server : LocalGroupServer) : Nat → Nat → List String → Prop where
  | last {call : Nat} (done : (server.page call).status = noError)
      (named : "" ∉ (server.page call).names) : Served server 1 call (server.page call).names
  | more {count call : Nat} {rest : List String}
      (more : (server.page call).status = errorMoreData)
      (named : "" ∉ (server.page call).names) (further : Served server count (call + 1) rest) :
      Served server (count + 1) call ((server.page call).names ++ rest)

section Names

variable {server : LocalGroupServer} {pages count call : Nat} {names rest found : List String}

theorem enumerateFrom_of_served (served : Served server count call rest) (room : count ≤ pages)
    (names : List String) :
    enumerateFrom server pages call names =
      .ok (Order.sortedSet Order.compareText (names ++ rest)) := by
  induction served generalizing pages names with
  | @last call done named =>
      cases pages with
      | zero => exact absurd room (Nat.not_succ_le_zero 0)
      | succ pages =>
          unfold enumerateFrom
          dsimp only
          rw [if_neg (fun both => both.1 done), if_neg named, if_pos done]
  | @more count call rest more named _ further =>
      cases pages with
      | zero => exact absurd room (Nat.not_succ_le_zero count)
      | succ pages =>
          have goes : (server.page call).status ≠ noError := by
            rw [more]
            decide
          unfold enumerateFrom
          dsimp only
          rw [if_neg (fun both => both.2 more), if_neg named, if_neg goes,
            further (Nat.le_of_succ_le_succ room), List.append_assoc]

theorem served_of_enumerateFrom (done : enumerateFrom server pages call names = .ok found) :
    ∃ count rest, count ≤ pages ∧ Served server count call rest ∧
      found = Order.sortedSet Order.compareText (names ++ rest) := by
  induction pages generalizing call names with
  | zero => cases done
  | succ pages further =>
      unfold enumerateFrom at done
      dsimp only at done
      split_ifs at done with failed denied unnamed ended
      · cases done
        exact ⟨1, _, Nat.succ_le_succ (Nat.zero_le pages), .last ended unnamed, rfl⟩
      · have more : (server.page call).status = errorMoreData :=
          not_not.mp (fun other => failed ⟨ended, other⟩)
        rcases further done with ⟨count, rest, room, served, same⟩
        refine ⟨count + 1, _, Nat.succ_le_succ room, .more more unnamed served, ?_⟩
        rw [same, List.append_assoc]

/-- The names are those of all answers up to the last one. -/
theorem enumerateLocalGroupNames_iff :
    enumerateLocalGroupNames server = .ok found ↔
      ∃ count names, count ≤ maxLocalGroupPages ∧ Served server count 0 names ∧
        found = Order.sortedSet Order.compareText names := by
  constructor
  · exact served_of_enumerateFrom
  · intro listed
    rcases listed with ⟨count, names, room, served, same⟩
    rw [same]
    exact enumerateFrom_of_served served room []

/-- There is one list of names from a call on. -/
theorem Served.unique {other : Nat} {others : List String} (served : Served server count call names)
    (again : Served server other call others) : other = count ∧ others = names := by
  induction served generalizing other others with
  | @last call done named =>
      cases again with
      | last _ _ => exact ⟨rfl, rfl⟩
      | more more _ _ =>
          rw [done] at more
          cases more
  | @more count call rest more named _ further =>
      cases again with
      | last done _ =>
          rw [more] at done
          cases done
      | more _ _ later =>
          rcases further later with ⟨sameCount, sameNames⟩
          rw [sameCount, sameNames]
          exact ⟨rfl, rfl⟩

end Names

/-! ## The table -/

/-- A local group as the server has it, with all of its members. -/
structure ServerGroup (server : LocalGroupServer) (name : String) (sid : Sid)
    (members : List Sid) : Prop where
  account : server.account name = some (sid.value, sidTypeAlias)
  valid : (Sid.tryNew sid.value).isOk = true
  answered : (server.members name).status = noError
  sids : (server.members name).sids = members.map (fun member => some member.value)
  readable : ∀ member ∈ members, (Sid.tryNew member.value).isOk = true

/-- A name stands for a local group. -/
structure StandsFor (server : LocalGroupServer) (name : String) (sid : Sid) : Prop where
  account : server.account name = some (sid.value, sidTypeAlias)
  valid : (Sid.tryNew sid.value).isOk = true

/-- The server lists this SID as a member of a group. -/
structure HasMember (server : LocalGroupServer) (name : String) (member : Sid) : Prop where
  answered : (server.members name).status = noError
  listed : some member.value ∈ (server.members name).sids
  valid : (Sid.tryNew member.value).isOk = true

section Groups

variable (server : LocalGroupServer) (name : String)

/-- The group of a name in the table. -/
def groupOf : Option LocalGroupDescriptor :=
  match readAlias server name, getLocalGroupMembers server name with
  | .ok sid, .ok members =>
      some ⟨sid, name, Order.sortedSet compareSids (members.filterMap LocalGroupMember.readable)⟩
  | _, _ => none

def gapsOf : List String := (addGroup server {} name).gaps

def domainOf : Option String :=
  match readAlias server name with
  | .ok sid => accountDomain sid
  | .error _ => none

variable {server name}

theorem readAlias_eq_ok_iff {sid : Sid} : readAlias server name = .ok sid ↔
    StandsFor server name sid := by
  unfold readAlias
  constructor
  · intro found
    split at found
    · rename_i text kind known
      split_ifs at found with aliasRead
      split at found
      · rename_i valid made
        cases found
        refine ⟨?_, ?_⟩
        · rw [known, aliasRead]
        · dsimp only
          rw [made]
          rfl
      · cases found
    · cases found
  · intro known
    rw [known.account]
    dsimp only
    rw [if_pos rfl]
    cases made : Sid.tryNew sid.value with
    | ok _ => rfl
    | error reason =>
        have valid := known.valid
        rw [made] at valid
        cases valid

theorem addGroup_eq (draft : TableDraft) :
    addGroup server draft name =
      { groups := draft.groups ++ (groupOf server name).toList
        gaps := draft.gaps ++ gapsOf server name
        accountDomains := draft.accountDomains ++ (domainOf server name).toList } := by
  unfold gapsOf groupOf domainOf addGroup
  cases readAlias server name with
  | error gap => simp
  | ok sid =>
      cases getLocalGroupMembers server name with
      | error reason => simp
      | ok members =>
          dsimp only
          split_ifs
          · simp
          · simp

theorem toList_filterMap {Item Kept : Type} (keep : Item → Option Kept) (front : List Kept)
    (first : Item) (rest : List Item) :
    front ++ (keep first).toList ++ rest.filterMap keep = front ++ (first :: rest).filterMap keep := by
  rw [List.append_assoc, List.filterMap_cons]
  cases keep first with
  | none => rfl
  | some kept => rfl

theorem foldl_addGroup (names : List String) (draft : TableDraft) :
    names.foldl (addGroup server) draft =
      { groups := draft.groups ++ names.filterMap (groupOf server)
        gaps := draft.gaps ++ names.flatMap (gapsOf server)
        accountDomains := draft.accountDomains ++ names.filterMap (domainOf server) } := by
  induction names generalizing draft with
  | nil => simp only [List.foldl_nil, List.filterMap_nil, List.flatMap_nil, List.append_nil]
  | cons name rest further =>
      rw [List.foldl_cons, further, addGroup_eq]
      dsimp only
      rw [toList_filterMap, toList_filterMap, List.flatMap_cons, List.append_assoc]

theorem members_of_ok {members : List LocalGroupMember}
    (known : getLocalGroupMembers server name = .ok members) :
    (server.members name).status = noError ∧
      members = (server.members name).sids.map memberOf := by
  unfold getLocalGroupMembers at known
  dsimp only at known
  split_ifs at known with failed denied
  cases known
  exact ⟨not_not.mp failed, rfl⟩

theorem members_ok (answered : (server.members name).status = noError) :
    getLocalGroupMembers server name = .ok ((server.members name).sids.map memberOf) := by
  unfold getLocalGroupMembers
  dsimp only
  rw [if_neg (not_not.mpr answered)]

/-- A text that is a SID is not empty. -/
theorem readable_text {text : Option String} {sid : Sid} :
    (memberOf text).readable = some sid ↔
      text = some sid.value ∧ (Sid.tryNew sid.value).isOk = true := by
  unfold LocalGroupMember.readable memberOf
  rw [Option.filter_eq_some_iff, Option.map_eq_some_iff]
  constructor
  · intro found
    rcases found with ⟨⟨shown, kept, same⟩, valid⟩
    rw [← same]
    rw [← same] at valid
    exact ⟨(Option.filter_eq_some_iff.mp kept).1, valid⟩
  · intro known
    rcases known with ⟨known, valid⟩
    refine ⟨⟨sid.value, Option.filter_eq_some_iff.mpr ⟨known, ?_⟩, rfl⟩, valid⟩
    refine decide_eq_true (fun empty => ?_)
    rw [empty] at valid
    exact absurd valid (by decide)

theorem groupOf_eq_some_iff {group : LocalGroupDescriptor} :
    groupOf server name = some group ↔
      StandsFor server name group.sid ∧ (server.members name).status = noError ∧
        group.name = name ∧ group.members = Order.sortedSet compareSids
          (((server.members name).sids.map memberOf).filterMap LocalGroupMember.readable) := by
  unfold groupOf
  constructor
  · intro found
    split at found
    · rename_i sid members aliasRead known
      cases found
      rcases members_of_ok known with ⟨answered, same⟩
      rw [same]
      exact ⟨readAlias_eq_ok_iff.mp aliasRead, answered, rfl, rfl⟩
    · cases found
  · intro known
    rcases known with ⟨stands, answered, named, members⟩
    rw [readAlias_eq_ok_iff.mpr stands, members_ok answered]
    dsimp only
    rw [← members, ← named]

theorem mem_groupOf {group : LocalGroupDescriptor} (found : groupOf server name = some group)
    {member : Sid} : member ∈ group.members ↔ HasMember server name member := by
  rcases groupOf_eq_some_iff.mp found with ⟨_, answered, _, members⟩
  rw [members, Order.mem_sortedSet, List.mem_filterMap]
  constructor
  · intro listed
    rcases listed with ⟨entry, inside, readable⟩
    rcases List.mem_map.mp inside with ⟨text, given, same⟩
    rw [← same] at readable
    rcases readable_text.mp readable with ⟨known, valid⟩
    rw [known] at given
    exact ⟨answered, given, valid⟩
  · intro has
    exact ⟨_, List.mem_map.mpr ⟨_, has.listed, rfl⟩, readable_text.mpr ⟨rfl, has.valid⟩⟩

theorem unreadable_eq_zero_iff {texts : List (Option String)} :
    (texts.map memberOf).countP (fun member => member.readable.isNone) = 0 ↔
      ∃ members : List Sid, texts = members.map (fun member => some member.value) ∧
        ∀ member ∈ members, (Sid.tryNew member.value).isOk = true := by
  rw [List.countP_eq_zero, List.forall_mem_map]
  constructor
  · intro all
    induction texts with
    | nil => exact ⟨[], rfl, fun _ listed => absurd listed List.not_mem_nil⟩
    | cons text texts further =>
        rcases List.forall_mem_cons.mp all with ⟨first, others⟩
        rcases further others with ⟨members, same, valid⟩
        cases readable : (memberOf text).readable with
        | none =>
            rw [readable] at first
            exact absurd rfl first
        | some sid =>
            rcases readable_text.mp readable with ⟨known, validHead⟩
            refine ⟨sid :: members, ?_, List.forall_mem_cons.mpr ⟨validHead, valid⟩⟩
            rw [known, same, List.map_cons]
  · intro whole text given unreadable
    rcases whole with ⟨members, same, valid⟩
    rw [same] at given
    rcases List.mem_map.mp given with ⟨member, listed, known⟩
    rw [readable_text.mpr ⟨known.symm, valid member listed⟩] at unreadable
    cases unreadable

/-- A name without a gap is a group whose members can all be read. -/
theorem gapsOf_eq_nil_iff :
    gapsOf server name = [] ↔ ∃ sid members, ServerGroup server name sid members := by
  unfold gapsOf addGroup
  constructor
  · intro none
    cases aliasRead : readAlias server name with
    | error gap =>
        rw [aliasRead] at none
        cases none
    | ok sid =>
        cases known : getLocalGroupMembers server name with
        | error reason =>
            rw [aliasRead, known] at none
            cases none
        | ok members =>
            rw [aliasRead, known] at none
            dsimp only at none
            split_ifs at none with something
            · cases none
            · rcases members_of_ok known with ⟨answered, same⟩
              have stands := readAlias_eq_ok_iff.mp aliasRead
              rw [same] at something
              rcases unreadable_eq_zero_iff.mp (Nat.eq_zero_of_not_pos something) with
                ⟨sids, texts, valid⟩
              exact ⟨sid, sids, stands.account, stands.valid, answered, texts, valid⟩
  · intro whole
    rcases whole with ⟨sid, members, whole⟩
    have none := unreadable_eq_zero_iff.mpr ⟨members, whole.sids, whole.readable⟩
    rw [readAlias_eq_ok_iff.mpr ⟨whole.account, whole.valid⟩, members_ok whole.answered]
    dsimp only
    rw [none, if_neg (Nat.lt_irrefl 0)]

end Groups

/-! ## The table as a whole -/

section Table

variable {server : LocalGroupServer} {table : LocalGroupTable} {count : Nat} {names : List String}

/-- The domain of a local group. -/
def InDomain (server : LocalGroupServer) (name : String) (domain : String) : Prop :=
  ∃ sid, StandsFor server name sid ∧ accountDomain sid = some domain

theorem domainOf_eq_some_iff {name domain : String} :
    domainOf server name = some domain ↔ InDomain server name domain := by
  unfold domainOf InDomain
  constructor
  · intro found
    split at found
    · rename_i sid known
      exact ⟨sid, readAlias_eq_ok_iff.mp known, found⟩
    · cases found
  · intro known
    rcases known with ⟨sid, stands, domain⟩
    rw [readAlias_eq_ok_iff.mpr stands]
    exact domain

theorem domainGap_eq_nil_iff {domains : List String} :
    domainGap domains = [] ↔ ∀ first ∈ domains, ∀ second ∈ domains, first = second := by
  have distinct : (Order.sortedSet Order.compareText domains).Nodup := Order.nodup_sortedSet domains
  have listed : ∀ domain, domain ∈ Order.sortedSet Order.compareText domains ↔ domain ∈ domains :=
    fun _ => Order.mem_sortedSet
  unfold domainGap
  dsimp only
  generalize Order.sortedSet Order.compareText domains = found at distinct listed ⊢
  have few : ¬1 < found.length ↔ ∀ first ∈ found, ∀ second ∈ found, first = second := by
    rw [Nat.not_lt]
    match found, distinct with
    | [], _ => simp
    | [only], _ => simp
    | first :: second :: rest, distinct =>
        have other : first ≠ second := by
          intro same
          rw [same] at distinct
          exact (List.nodup_cons.mp distinct).1 List.mem_cons_self
        refine iff_of_false (by simp) (fun same => other ?_)
        exact same first List.mem_cons_self second (List.mem_cons_of_mem _ List.mem_cons_self)
  simp only [listed] at few
  constructor
  · intro none
    split_ifs at none with several
    exact few.mp several
  · intro same
    rw [if_neg (few.mpr same)]

/-- What is in a table that was read from a server. -/
theorem readLocalGroupTable_iff : readLocalGroupTable server = .ok table ↔
    ∃ count names, count ≤ maxLocalGroupPages ∧ Served server count 0 names ∧
      table = { groups := Order.sortBy Order.compareText (fun group => group.sid.value)
                  ((Order.sortedSet Order.compareText names).filterMap (groupOf server))
                gaps := (Order.sortedSet Order.compareText names).flatMap (gapsOf server) ++
                  domainGap ((Order.sortedSet Order.compareText names).filterMap
                    (domainOf server)) } := by
  unfold readLocalGroupTable
  constructor
  · intro read
    cases listed : enumerateLocalGroupNames server with
    | error reason =>
        rw [listed] at read
        cases read
    | ok found =>
        rcases enumerateLocalGroupNames_iff.mp listed with ⟨count, names, room, served, same⟩
        refine ⟨count, names, room, served, ?_⟩
        rw [listed, same] at read
        cases read
        dsimp only
        rw [foldl_addGroup]
        rfl
  · intro known
    rcases known with ⟨count, names, room, served, same⟩
    rw [enumerateLocalGroupNames_iff.mpr ⟨count, names, room, served, rfl⟩, same, Except.map]
    dsimp only
    rw [foldl_addGroup]
    rfl

theorem mem_groups (served : Served server count 0 names)
    (read : readLocalGroupTable server = .ok table) {group : LocalGroupDescriptor} :
    group ∈ table.groups ↔ ∃ name ∈ names, groupOf server name = some group := by
  rcases readLocalGroupTable_iff.mp read with ⟨other, others, _, again, same⟩
  rw [same, Order.mem_sortBy, List.mem_filterMap, (served.unique again).2]
  simp only [Order.mem_sortedSet]

/-- A table without gaps: every name is a group with all its members, in one domain. -/
theorem gaps_eq_nil_iff (served : Served server count 0 names)
    (read : readLocalGroupTable server = .ok table) :
    table.gaps = [] ↔ (∀ name ∈ names, ∃ sid members, ServerGroup server name sid members) ∧
      ∀ first ∈ names, ∀ second ∈ names, ∀ domain other, InDomain server first domain →
        InDomain server second other → domain = other := by
  rcases readLocalGroupTable_iff.mp read with ⟨other, others, _, again, same⟩
  rw [same, (served.unique again).2]
  dsimp only
  rw [List.append_eq_nil_iff, List.flatMap_eq_nil_iff, domainGap_eq_nil_iff]
  simp only [Order.mem_sortedSet, gapsOf_eq_nil_iff, List.mem_filterMap, domainOf_eq_some_iff]
  refine and_congr_right (fun _ => ⟨?_, ?_⟩)
  · intro same first firstListed second secondListed domain other inFirst inSecond
    exact same domain ⟨first, firstListed, inFirst⟩ other ⟨second, secondListed, inSecond⟩
  · intro same domain found other further
    rcases found with ⟨first, firstListed, inFirst⟩
    rcases further with ⟨second, secondListed, inSecond⟩
    exact same first firstListed second secondListed domain other inFirst inSecond

end Table

end AdResolver
end Stars
