import Stars.AccessControl.PossibleSets
import Stars.Collections.KeyedList
import Stars.Order.Comparison
import Stars.Order.Sorting
import Stars.PermissionEngine.Token

namespace Stars
namespace PermissionEngine

open AccessControl Std

/-!
# Local groups of a target server

Windows puts a local group into a logon token when one of its direct members is
already there.  Which members are there is partly open: the token certainly holds
the SIDs of the account, its history, its domain groups and the well-knowns of
the access context, and may hold the SIDs that depend on the logon or that this
identity may lack.

The possible tokens are the certain SIDs with any of the open ones.  The
expansion lists a group as certain when every possible token meets its members,
and as logon-dependent when some tokens do and others do not.
-/

/-- One local group of a target server with its direct members. -/
structure LocalGroupDescriptor where
  sid : Sid
  name : String
  members : List Sid
deriving DecidableEq

/-- One local group the account is in, with the token SIDs that put it there. -/
structure LocalGroupEntry where
  group : Sid
  name : String
  via : List Sid
deriving DecidableEq

structure LocalGroupExpansion where
  certain : List LocalGroupEntry
  logonDependent : List LocalGroupEntry
deriving DecidableEq

/-- What is known of an account when the local groups of a target are expanded. -/
structure ExpansionAccount where
  userSid : Sid
  sidHistory : List Sid
  memberships : List GroupMembership
  accessContext : AccessContext
  anonymousEveryone : Option Bool

namespace ExpansionAccount

variable (account : ExpansionAccount)

/-- The SIDs that are certainly in the token before any local group. -/
def token : Finset Sid :=
  let built := buildTokenSidsWithContext account.userSid account.sidHistory account.memberships []
    account.accessContext
  if anonymousGetsEveryone account.userSid account.anonymousEveryone then insert sidEveryone built
  else built

/-- Outside the certain token, and there for some logons. -/
def mayHold (member : Sid) : Bool :=
  member ∉ account.token &&
    (isLogonDependentFor member account.accessContext account.token ||
      (uncertainWellKnownsWith account.userSid account.anonymousEveryone).contains member)

/-- The account itself first, then by SID. -/
def compareVia (left right : Sid) : Ordering :=
  (compare (decide (left ≠ account.userSid)) (decide (right ≠ account.userSid))).then
    (Order.compareText left.value right.value)

def sortVia (via : List Sid) : List Sid := Order.sortedSet account.compareVia via

def entryOf (group : LocalGroupDescriptor) (via : List Sid) : LocalGroupEntry where
  group := group.sid
  name := group.name
  via := account.sortVia via

/-- The entry of a group with a certain member. -/
def certainEntry (group : LocalGroupDescriptor) : Option LocalGroupEntry :=
  let certain := group.members.filter (fun member => member ∈ account.token)
  if certain.isEmpty then none else some (account.entryOf group certain)

/-- The entry of a group whose members are at most uncertain. -/
def logonDependentEntry (group : LocalGroupDescriptor) : Option LocalGroupEntry :=
  let certain := group.members.filter (fun member => member ∈ account.token)
  let uncertain := group.members.filter account.mayHold
  if certain.isEmpty && !uncertain.isEmpty then some (account.entryOf group uncertain) else none

end ExpansionAccount

/-- By name in lower case, then by SID. -/
def compareEntries (left right : String × Sid) : Ordering :=
  (Order.compareText left.1 right.1).then (Order.compareText left.2.value right.2.value)

def LocalGroupEntry.sortKey (toLowercase : String → String) (entry : LocalGroupEntry) :
    String × Sid :=
  (toLowercase entry.name, entry.group)

/-- Which local groups of a target server an account is in. -/
def expandLocalGroupsWith (toLowercase : String → String) (account : ExpansionAccount)
    (groups : List LocalGroupDescriptor) : LocalGroupExpansion where
  certain := Order.sortBy compareEntries (LocalGroupEntry.sortKey toLowercase)
    (groups.filterMap account.certainEntry)
  logonDependent := Order.sortBy compareEntries (LocalGroupEntry.sortKey toLowercase)
    (groups.filterMap account.logonDependentEntry)

instance : TransCmp compareEntries := by
  have byName : TransCmp (fun left right : String × Sid => Order.compareText left.1 right.1) :=
    Order.transCmp_on Prod.fst
  have bySid : TransCmp (fun left right : String × Sid =>
      Order.compareText left.2.value right.2.value) := Order.transCmp_on (fun key : String × Sid => key.2.value)
  exact inferInstanceAs (TransCmp (compareLex
    (fun left right : String × Sid => Order.compareText left.1 right.1)
    (fun left right : String × Sid => Order.compareText left.2.value right.2.value)))

theorem sid_eq_of_compareText {left right : Sid}
    (same : Order.compareText left.value right.value = .eq) : left = right := by
  cases left
  cases right
  exact congrArg Sid.mk (LawfulEqCmp.eq_of_compare same)

instance : LawfulEqCmp compareEntries where
  compare_self := ReflCmp.compare_self
  eq_of_compare := by
    intro left right same
    rw [compareEntries, Ordering.then_eq_eq] at same
    exact Prod.ext (LawfulEqCmp.eq_of_compare same.1) (sid_eq_of_compareText same.2)

instance (account : ExpansionAccount) : TransCmp account.compareVia := by
  have own : TransCmp (fun left right : Sid =>
      compare (decide (left ≠ account.userSid)) (decide (right ≠ account.userSid))) :=
    Order.transCmp_on (fun sid => decide (sid ≠ account.userSid))
  have bySid : TransCmp (fun left right : Sid => Order.compareText left.value right.value) :=
    Order.transCmp_on Sid.value
  exact inferInstanceAs (TransCmp (compareLex
    (fun left right : Sid =>
      compare (decide (left ≠ account.userSid)) (decide (right ≠ account.userSid)))
    (fun left right : Sid => Order.compareText left.value right.value)))

instance (account : ExpansionAccount) : LawfulEqCmp account.compareVia where
  compare_self := ReflCmp.compare_self
  eq_of_compare := by
    intro left right same
    rw [ExpansionAccount.compareVia, Ordering.then_eq_eq] at same
    exact sid_eq_of_compareText same.2

namespace ExpansionAccount

variable {account : ExpansionAccount} {group : LocalGroupDescriptor}

/-- The account stands first where it is listed at all. -/
theorem head_sortVia {via : List Sid} (member : account.userSid ∈ account.sortVia via) :
    (account.sortVia via).head? = some account.userSid := by
  have sorted : (account.sortVia via).Pairwise (Order.NotAfter account.compareVia id) :=
    Order.pairwise_sortedSet via
  cases listed : account.sortVia via with
  | nil =>
      rw [listed] at member
      cases member
  | cons first rest =>
      rw [listed] at member sorted
      rcases List.mem_cons.mp member with same | later
      · rw [same, List.head?_cons]
      · have before := (List.pairwise_cons.mp sorted).1 account.userSid later
        by_cases own : first = account.userSid
        · rw [own, List.head?_cons]
        · rw [Order.NotAfter, compareVia, id, id, decide_eq_true own,
            decide_eq_false (not_not_intro rfl)] at before
          cases before

/-- The via list depends on the members alone. -/
theorem sortVia_filter_eq {keep : Sid → Bool} {members others : List Sid}
    (perm : members.Perm others) :
    account.sortVia (members.filter keep) = account.sortVia (others.filter keep) :=
  Order.sortedSet_eq_of_mem_iff (fun _ => (perm.filter keep).mem_iff)

end ExpansionAccount

/-- The local groups of a target server, read by SID. -/
structure LocalGroupList where
  groups : List LocalGroupDescriptor
  sids_distinct : (groups.map LocalGroupDescriptor.sid).Nodup

theorem LocalGroupList.eq_of_sid {list : LocalGroupList} {left right : LocalGroupDescriptor}
    (leftMem : left ∈ list.groups) (rightMem : right ∈ list.groups) (same : left.sid = right.sid) :
    left = right :=
  List.inj_on_of_nodup_map list.sids_distinct leftMem rightMem same

/-- One group with its members in two orders. -/
structure SameGroup (group other : LocalGroupDescriptor) : Prop where
  sid : group.sid = other.sid
  name : group.name = other.name
  members : group.members.Perm other.members

/-- The same groups in another order, and the members of each in another order. -/
def Rearranged (groups other : List LocalGroupDescriptor) : Prop :=
  ∃ middle, groups.Perm middle ∧ List.Forall₂ SameGroup middle other

/-- A list has an entry of this group. -/
def Listed (entries : List LocalGroupEntry) (group : Sid) : Prop :=
  ∃ entry ∈ entries, entry.group = group

namespace ExpansionAccount

variable (account : ExpansionAccount)

/-- The SIDs that depend on the logon or that this identity may lack. -/
def openSids : Set Sid :=
  {sid | isLogonDependentFor sid account.accessContext account.token = true ∨
    sid ∈ uncertainWellKnownsWith account.userSid account.anonymousEveryone}

/-- A token the account may have: the certain SIDs with any of the open ones. -/
def PossibleToken (held : Set Sid) : Prop := PossibleSet (↑account.token) account.openSids held

variable {account} {group : LocalGroupDescriptor}

theorem mayHold_iff {member : Sid} :
    account.mayHold member = true ↔ member ∉ account.token ∧ member ∈ account.openSids := by
  rw [mayHold, Bool.and_eq_true, decide_eq_true_iff, Bool.or_eq_true, List.contains_iff_mem]
  exact Iff.rfl

theorem certain_isEmpty_iff :
    (group.members.filter (fun member => member ∈ account.token)).isEmpty = true ↔
      ¬Meets group.members ↑account.token := by
  rw [List.isEmpty_iff, List.filter_eq_nil_iff, Meets]
  push Not
  simp

/-- A group is listed as certain when a certain SID is its member. -/
theorem certainEntry_eq_some_iff {entry : LocalGroupEntry} :
    account.certainEntry group = some entry ↔
      Meets group.members ↑account.token ∧
        entry = account.entryOf group
          (group.members.filter (fun member => member ∈ account.token)) := by
  rw [certainEntry]
  by_cases meets : Meets group.members ↑account.token
  · rw [if_neg (fun empty => certain_isEmpty_iff.mp empty meets), Option.some.injEq]
    exact ⟨fun same => ⟨meets, same.symm⟩, fun both => both.2.symm⟩
  · rw [if_pos (certain_isEmpty_iff.mpr meets)]
    exact ⟨nofun, fun both => absurd both.1 meets⟩

/-- It is listed as logon-dependent when an open SID is its member and no certain
one. -/
theorem logonDependentEntry_eq_some_iff {entry : LocalGroupEntry} :
    account.logonDependentEntry group = some entry ↔
      ¬Meets group.members ↑account.token ∧ Meets group.members account.openSids ∧
        entry = account.entryOf group (group.members.filter account.mayHold) := by
  rw [logonDependentEntry]
  by_cases meets : Meets group.members ↑account.token
  · have nonempty : (group.members.filter (fun member => member ∈ account.token)).isEmpty = false :=
      Bool.eq_false_iff.mpr (fun empty => certain_isEmpty_iff.mp empty meets)
    rw [nonempty, Bool.false_and]
    exact ⟨nofun, fun all => absurd meets all.1⟩
  · have someOpen : (!(group.members.filter account.mayHold).isEmpty) = true ↔
        Meets group.members account.openSids := by
      rw [Bool.not_eq_true', List.isEmpty_eq_false_iff, ne_eq, List.filter_eq_nil_iff, Meets]
      push Not
      constructor
      · rintro ⟨member, listed, held⟩
        exact ⟨member, listed, (mayHold_iff.mp held).2⟩
      · rintro ⟨member, listed, uncertainMember⟩
        exact ⟨member, listed,
          mayHold_iff.mpr ⟨fun known => meets ⟨member, listed, known⟩, uncertainMember⟩⟩
    rw [certain_isEmpty_iff.mpr meets, Bool.true_and]
    by_cases uncertainMember : Meets group.members account.openSids
    · rw [if_pos (someOpen.mpr uncertainMember), Option.some.injEq]
      exact ⟨fun same => ⟨meets, uncertainMember, same.symm⟩, fun all => all.2.2.symm⟩
    · rw [if_neg (fun held => uncertainMember (someOpen.mp held))]
      exact ⟨nofun, fun all => absurd all.2.1 uncertainMember⟩

end ExpansionAccount

/-! ## The lists of the expansion -/

section Lists

variable {toLowercase : String → String} {account : ExpansionAccount}
  {groups : List LocalGroupDescriptor} {entry : LocalGroupEntry}

theorem mem_certain_iff :
    entry ∈ (expandLocalGroupsWith toLowercase account groups).certain ↔
      ∃ group ∈ groups, Meets group.members ↑account.token ∧
        entry = account.entryOf group
          (group.members.filter (fun member => member ∈ account.token)) := by
  rw [expandLocalGroupsWith, Order.mem_sortBy, List.mem_filterMap]
  simp only [ExpansionAccount.certainEntry_eq_some_iff]

theorem mem_logonDependent_iff :
    entry ∈ (expandLocalGroupsWith toLowercase account groups).logonDependent ↔
      ∃ group ∈ groups, ¬Meets group.members ↑account.token ∧
        Meets group.members account.openSids ∧
        entry = account.entryOf group (group.members.filter account.mayHold) := by
  rw [expandLocalGroupsWith, Order.mem_sortBy, List.mem_filterMap]
  simp only [ExpansionAccount.logonDependentEntry_eq_some_iff]

theorem listed_certain_iff (list : LocalGroupList) {group : LocalGroupDescriptor}
    (member : group ∈ list.groups) :
    Listed (expandLocalGroupsWith toLowercase account list.groups).certain group.sid ↔
      Meets group.members ↑account.token := by
  constructor
  · rintro ⟨entry, listed, same⟩
    rcases mem_certain_iff.mp listed with ⟨other, otherMem, meets, rfl⟩
    rw [← list.eq_of_sid otherMem member same]
    exact meets
  · intro meets
    exact ⟨_, mem_certain_iff.mpr ⟨group, member, meets, rfl⟩, rfl⟩

theorem listed_logonDependent_iff (list : LocalGroupList) {group : LocalGroupDescriptor}
    (member : group ∈ list.groups) :
    Listed (expandLocalGroupsWith toLowercase account list.groups).logonDependent group.sid ↔
      ¬Meets group.members ↑account.token ∧ Meets group.members account.openSids := by
  constructor
  · rintro ⟨entry, listed, same⟩
    rcases mem_logonDependent_iff.mp listed with ⟨other, otherMem, unmet, uncertainMember, rfl⟩
    rw [← list.eq_of_sid otherMem member same]
    exact ⟨unmet, uncertainMember⟩
  · rintro ⟨unmet, uncertainMember⟩
    exact ⟨_, mem_logonDependent_iff.mpr ⟨group, member, unmet, uncertainMember, rfl⟩, rfl⟩

/-- Each list names a group at most once. -/
theorem groups_nodup {build : LocalGroupDescriptor → Option LocalGroupEntry}
    (keeps : ∀ group entry, build group = some entry → entry.group = group.sid)
    (distinct : (groups.map LocalGroupDescriptor.sid).Nodup) :
    ((groups.filterMap build).map LocalGroupEntry.group).Nodup := by
  have further : ((groups.filterMap build).map LocalGroupEntry.group).Sublist
      (groups.map LocalGroupDescriptor.sid) :=
    Collections.map_filterMap_sublist_of_mem (fun group _ entry found => keeps group entry found)
  exact distinct.sublist further

theorem certainEntry_group (group : LocalGroupDescriptor) (entry : LocalGroupEntry)
    (found : account.certainEntry group = some entry) : entry.group = group.sid := by
  rw [(ExpansionAccount.certainEntry_eq_some_iff.mp found).2]
  rfl

theorem logonDependentEntry_group (group : LocalGroupDescriptor) (entry : LocalGroupEntry)
    (found : account.logonDependentEntry group = some entry) : entry.group = group.sid := by
  rw [(ExpansionAccount.logonDependentEntry_eq_some_iff.mp found).2.2]
  rfl

/-- Entries of distinct groups are sorted alike in every order. -/
theorem sortEntries_eq_of_perm {first second : List LocalGroupEntry}
    (distinct : (first.map LocalGroupEntry.group).Nodup) (perm : first.Perm second) :
    Order.sortBy compareEntries (LocalGroupEntry.sortKey toLowercase) first =
      Order.sortBy compareEntries (LocalGroupEntry.sortKey toLowercase) second := by
  apply Order.sortBy_eq_of_perm _ perm
  apply List.Nodup.of_map Prod.snd
  rw [List.map_map]
  exact distinct

/-- The same group with its members in another order. -/
theorem entries_eq_of_sameGroup {group other : LocalGroupDescriptor} (same : SameGroup group other) :
    account.certainEntry group = account.certainEntry other ∧
      account.logonDependentEntry group = account.logonDependentEntry other := by
  have via : ∀ keep : Sid → Bool, account.entryOf group (group.members.filter keep) =
      account.entryOf other (other.members.filter keep) := by
    intro keep
    rw [ExpansionAccount.entryOf, ExpansionAccount.entryOf, same.sid, same.name,
      ExpansionAccount.sortVia_filter_eq same.members]
  have empty : ∀ keep : Sid → Bool, (group.members.filter keep).isEmpty =
      (other.members.filter keep).isEmpty := by
    intro keep
    rw [Bool.eq_iff_iff, List.isEmpty_iff_length_eq_zero, List.isEmpty_iff_length_eq_zero,
      (same.members.filter keep).length_eq]
  constructor
  · rw [ExpansionAccount.certainEntry, ExpansionAccount.certainEntry, via, empty]
  · rw [ExpansionAccount.logonDependentEntry, ExpansionAccount.logonDependentEntry, via, empty,
      empty]

/-- The output does not depend on the order of the groups or of their members. -/
theorem expand_eq_of_rearranged (list : LocalGroupList) {other : List LocalGroupDescriptor}
    (rearranged : Rearranged list.groups other) :
    expandLocalGroupsWith toLowercase account other =
      expandLocalGroupsWith toLowercase account list.groups := by
  rcases rearranged with ⟨middle, perm, pairs⟩
  have certain : middle.filterMap account.certainEntry = other.filterMap account.certainEntry :=
    Collections.filterMap_eq_of_forall₂ (fun _ _ same => (entries_eq_of_sameGroup same).1) pairs
  have dependent : middle.filterMap account.logonDependentEntry =
      other.filterMap account.logonDependentEntry :=
    Collections.filterMap_eq_of_forall₂ (fun _ _ same => (entries_eq_of_sameGroup same).2) pairs
  rw [expandLocalGroupsWith, expandLocalGroupsWith, ← certain, ← dependent,
    sortEntries_eq_of_perm (groups_nodup certainEntry_group list.sids_distinct)
      (perm.filterMap account.certainEntry),
    sortEntries_eq_of_perm (groups_nodup logonDependentEntry_group list.sids_distinct)
      (perm.filterMap account.logonDependentEntry)]

end Lists

/-! ## The expansion is exact -/

/-- What the expansion of a list of local groups says about the possible tokens
of an account. -/
structure ExpansionExact (account : ExpansionAccount) (groups : List LocalGroupDescriptor)
    (out : LocalGroupExpansion) : Prop where
  /-- Certain: every possible token meets the members, by a certain SID. -/
  certain : ∀ group ∈ groups, Listed out.certain group.sid ↔
    ∀ held, account.PossibleToken held →
      ∃ member ∈ group.members, member ∈ account.token ∧ member ∈ held
  certain_iff_every : ∀ group ∈ groups, Listed out.certain group.sid ↔
    ∀ held, account.PossibleToken held → Meets group.members held
  /-- Logon-dependent: some tokens meet the members and others do not. -/
  logonDependent : ∀ group ∈ groups, Listed out.logonDependent group.sid ↔
    (∃ held, account.PossibleToken held ∧ Meets group.members held) ∧
      ∃ held, account.PossibleToken held ∧ ¬Meets group.members held
  neither : ∀ group ∈ groups,
    ¬Listed out.certain group.sid ∧ ¬Listed out.logonDependent group.sid ↔
      ∀ held, account.PossibleToken held → ¬Meets group.members held
  disjoint : ∀ sid, ¬(Listed out.certain sid ∧ Listed out.logonDependent sid)
  /-- The via list of a certain group: its members in every possible token. -/
  certain_via : ∀ entry ∈ out.certain, ∃ group ∈ groups, entry.group = group.sid ∧
    entry.name = group.name ∧ ∀ member, member ∈ entry.via ↔ member ∈ group.members ∧
      ∀ held, account.PossibleToken held → member ∈ held
  /-- The via list of another listed group: its members in some possible token. -/
  logonDependent_via : ∀ entry ∈ out.logonDependent, ∃ group ∈ groups, entry.group = group.sid ∧
    entry.name = group.name ∧ ∀ member, member ∈ entry.via ↔ member ∈ group.members ∧
      ∃ held, account.PossibleToken held ∧ member ∈ held
  via_nodup : ∀ entry ∈ out.certain ++ out.logonDependent, entry.via.Nodup
  account_first : ∀ entry ∈ out.certain ++ out.logonDependent, account.userSid ∈ entry.via →
    entry.via.head? = some account.userSid

section Tokens

variable {toLowercase : String → String} {account : ExpansionAccount}
  {entry : LocalGroupEntry} (list : LocalGroupList) {group : LocalGroupDescriptor}

theorem listed_certain_iff_known (member : group ∈ list.groups) :
    Listed (expandLocalGroupsWith toLowercase account list.groups).certain group.sid ↔
      ∀ held, account.PossibleToken held →
        ∃ sid ∈ group.members, sid ∈ account.token ∧ sid ∈ held := by
  rw [listed_certain_iff list member]
  constructor
  · rintro ⟨sid, listed, known⟩ held possible
    exact ⟨sid, listed, known, possible.certain_subset known⟩
  · intro every
    rcases every _ possibleSet_certain with ⟨sid, listed, known, _⟩
    exact ⟨sid, listed, known⟩

theorem listed_certain_iff_every (member : group ∈ list.groups) :
    Listed (expandLocalGroupsWith toLowercase account list.groups).certain group.sid ↔
      ∀ held, account.PossibleToken held → Meets group.members held := by
  rw [listed_certain_iff list member]
  exact meets_every_iff.symm

theorem listed_logonDependent_iff_both (member : group ∈ list.groups) :
    Listed (expandLocalGroupsWith toLowercase account list.groups).logonDependent group.sid ↔
      (∃ held, account.PossibleToken held ∧ Meets group.members held) ∧
        ∃ held, account.PossibleToken held ∧ ¬Meets group.members held := by
  have every : (∀ held, account.PossibleToken held → Meets group.members held) ↔
      Meets group.members ↑account.token := meets_every_iff
  have someToken : (∃ held, account.PossibleToken held ∧ Meets group.members held) ↔
      Meets group.members ↑account.token ∨ Meets group.members account.openSids := meets_some_iff
  have missed : (∃ held, account.PossibleToken held ∧ ¬Meets group.members held) ↔
      ¬Meets group.members ↑account.token := by
    rw [← every]
    push Not
    exact Iff.rfl
  rw [listed_logonDependent_iff list member, someToken, missed]
  constructor
  · exact fun both => ⟨Or.inr both.2, both.1⟩
  · exact fun both => ⟨both.2, both.1.resolve_left both.2⟩

theorem listed_neither_iff (member : group ∈ list.groups) :
    ¬Listed (expandLocalGroupsWith toLowercase account list.groups).certain group.sid ∧
        ¬Listed (expandLocalGroupsWith toLowercase account list.groups).logonDependent
          group.sid ↔
      ∀ held, account.PossibleToken held → ¬Meets group.members held := by
  have someToken : (∃ held, account.PossibleToken held ∧ Meets group.members held) ↔
      Meets group.members ↑account.token ∨ Meets group.members account.openSids := meets_some_iff
  have never : (∀ held, account.PossibleToken held → ¬Meets group.members held) ↔
      ¬(Meets group.members ↑account.token ∨ Meets group.members account.openSids) := by
    rw [← someToken]
    push Not
    exact Iff.rfl
  rw [listed_certain_iff list member, listed_logonDependent_iff list member, never]
  tauto

theorem not_listed_twice (sid : Sid) :
    ¬(Listed (expandLocalGroupsWith toLowercase account list.groups).certain sid ∧
      Listed (expandLocalGroupsWith toLowercase account list.groups).logonDependent sid) := by
  rintro ⟨⟨entry, certain, same⟩, ⟨other, dependent, again⟩⟩
  rcases mem_certain_iff.mp certain with ⟨group, member, meets, rfl⟩
  rcases mem_logonDependent_iff.mp dependent with ⟨otherGroup, otherMember, unmet, _, rfl⟩
  have equal : group = otherGroup := list.eq_of_sid member otherMember (same.trans again.symm)
  exact unmet (equal ▸ meets)

theorem via_of_certain
    (certain : entry ∈ (expandLocalGroupsWith toLowercase account list.groups).certain) :
    ∃ group ∈ list.groups, entry.group = group.sid ∧ entry.name = group.name ∧
      ∀ sid, sid ∈ entry.via ↔ sid ∈ group.members ∧
        ∀ held, account.PossibleToken held → sid ∈ held := by
  rcases mem_certain_iff.mp certain with ⟨group, member, meets, rfl⟩
  refine ⟨group, member, rfl, rfl, ?_⟩
  intro sid
  have every : (∀ held, account.PossibleToken held → sid ∈ held) ↔ sid ∈ account.token :=
    mem_every_iff
  rw [every, ExpansionAccount.entryOf, ExpansionAccount.sortVia, Order.mem_sortedSet,
    List.mem_filter, decide_eq_true_iff]

theorem via_of_logonDependent
    (dependent : entry ∈ (expandLocalGroupsWith toLowercase account list.groups).logonDependent) :
    ∃ group ∈ list.groups, entry.group = group.sid ∧ entry.name = group.name ∧
      ∀ sid, sid ∈ entry.via ↔ sid ∈ group.members ∧
        ∃ held, account.PossibleToken held ∧ sid ∈ held := by
  rcases mem_logonDependent_iff.mp dependent with ⟨group, member, unmet, _, rfl⟩
  refine ⟨group, member, rfl, rfl, ?_⟩
  intro sid
  have someToken : (∃ held, account.PossibleToken held ∧ sid ∈ held) ↔
      sid ∈ account.token ∨ sid ∈ account.openSids := mem_some_iff
  rw [someToken, ExpansionAccount.entryOf, ExpansionAccount.sortVia, Order.mem_sortedSet,
    List.mem_filter, ExpansionAccount.mayHold_iff]
  constructor
  · exact fun both => ⟨both.1, Or.inr both.2.2⟩
  · rintro ⟨listed, known | uncertainMember⟩
    · exact absurd ⟨sid, listed, known⟩ unmet
    · exact ⟨listed, fun known => unmet ⟨sid, listed, known⟩, uncertainMember⟩

/-- The via list of every entry is sorted. -/
theorem exists_sortVia
    (member : entry ∈ (expandLocalGroupsWith toLowercase account list.groups).certain ++
      (expandLocalGroupsWith toLowercase account list.groups).logonDependent) :
    ∃ via, entry.via = account.sortVia via := by
  rcases List.mem_append.mp member with certain | dependent
  · rcases mem_certain_iff.mp certain with ⟨_, _, _, rfl⟩
    exact ⟨_, rfl⟩
  · rcases mem_logonDependent_iff.mp dependent with ⟨_, _, _, _, rfl⟩
    exact ⟨_, rfl⟩

theorem expansionExact : ExpansionExact account list.groups
    (expandLocalGroupsWith toLowercase account list.groups) where
  certain _ member := listed_certain_iff_known list member
  certain_iff_every _ member := listed_certain_iff_every list member
  logonDependent _ member := listed_logonDependent_iff_both list member
  neither _ member := listed_neither_iff list member
  disjoint sid := not_listed_twice list sid
  certain_via _ certain := via_of_certain list certain
  logonDependent_via _ dependent := via_of_logonDependent list dependent
  via_nodup entry member := by
    rcases exists_sortVia list member with ⟨via, same⟩
    rw [same]
    exact Order.nodup_sortedSet via
  account_first entry member own := by
    rcases exists_sortVia list member with ⟨via, same⟩
    rw [same] at own ⊢
    exact ExpansionAccount.head_sortVia own

end Tokens

/-- The expansion of every account and every list of local groups is exact, and
does not depend on the order of the groups or of their members. -/
theorem localGroupExpansion_exact (toLowercase : String → String) (account : ExpansionAccount)
    (list : LocalGroupList) :
    ExpansionExact account list.groups (expandLocalGroupsWith toLowercase account list.groups) ∧
      ∀ other, Rearranged list.groups other →
        expandLocalGroupsWith toLowercase account other =
          expandLocalGroupsWith toLowercase account list.groups :=
  ⟨expansionExact list, fun _ rearranged => expand_eq_of_rearranged list rearranged⟩

end PermissionEngine
end Stars
