import Stars.AdResolver.Memberships

namespace Stars
namespace AdResolver

open Collections Stars.Graph

/-!
# Membership is reachability

A directory is its group objects, with distinct names and distinct readable
SIDs.  Memberships among them form a graph that may hold cycles and may lead
back to the principal.  An answer to the resolver's searches returns groups of
the directory, at least all that can be reached from the principal.

`memberships_iff_reachable` compares the assembled memberships with the graph.
They are the primary group and the groups reached through security groups
alone, and besides them those returned groups that no chain explains.  A group
that only the primary-group lookup returned counts as a security group whatever
its type says, and an unreadable type of it is no gap.
-/

/-- The group objects of a directory. -/
structure GroupDirectory where
  groups : List RawEntry
  readable : ∀ group ∈ groups, (extractSidFromEntry group).isSome
  dns_distinct : (groups.map RawEntry.key).Nodup
  sids_distinct : (groups.map extractSidFromEntry).Nodup

namespace GroupDirectory

theorem eq_of_key {directory : GroupDirectory} {left right : RawEntry}
    (leftMember : left ∈ directory.groups) (rightMember : right ∈ directory.groups)
    (same : left.key = right.key) : left = right :=
  List.inj_on_of_nodup_map directory.dns_distinct leftMember rightMember same

theorem eq_of_sid {directory : GroupDirectory} {left right : RawEntry}
    (leftMember : left ∈ directory.groups) (rightMember : right ∈ directory.groups)
    (same : extractSidFromEntry left = extractSidFromEntry right) : left = right :=
  List.inj_on_of_nodup_map directory.sids_distinct leftMember rightMember same

/-- The groups a chain of memberships reaches from some seeds, every group of
the chain satisfying a condition. -/
inductive MemberThrough (directory : GroupDirectory) (seeds : List String)
    (counts : RawEntry → Prop) : RawEntry → Prop where
  | direct {group : RawEntry} (member : group ∈ directory.groups) (counted : counts group)
      (seed : group.key ∈ seeds) : MemberThrough directory seeds counts group
  | nested {inner outer : RawEntry} (reached : MemberThrough directory seeds counts inner)
      (member : outer ∈ directory.groups) (counted : counts outer)
      (edge : outer.key ∈ sortedMemberOf inner) : MemberThrough directory seeds counts outer

namespace MemberThrough

variable {directory : GroupDirectory} {seeds : List String} {counts : RawEntry → Prop}
  {group : RawEntry}

theorem member (reached : MemberThrough directory seeds counts group) :
    group ∈ directory.groups := by
  cases reached with
  | direct member _ _ => exact member
  | nested _ member _ _ => exact member

theorem counted (reached : MemberThrough directory seeds counts group) : counts group := by
  cases reached with
  | direct _ counted _ => exact counted
  | nested _ _ counted _ => exact counted

theorem mono {wider : RawEntry → Prop} (weaker : ∀ entry, counts entry → wider entry)
    (reached : MemberThrough directory seeds counts group) :
    MemberThrough directory seeds wider group := by
  induction reached with
  | direct member counted seed => exact .direct member (weaker _ counted) seed
  | nested _ member counted edge known => exact .nested known member (weaker _ counted) edge

end MemberThrough
end GroupDirectory

/-- What the searches for one principal return: its own entry, the entry of the
primary group and the groups of the two transitive searches.  Every group that
can be reached is among them, and a group object with the principal's SID is the
principal. -/
structure MembershipAnswer (directory : GroupDirectory) where
  sid : Sid
  principal : RawEntry
  primary : Option (Sid × Option RawEntry)
  transitiveGroups : List RawEntry
  pgParents : List RawEntry
  searched : ∀ group ∈ transitiveGroups ++ pgParents, group ∈ directory.groups
  primary_found : ∀ groupSid group, primary = some (groupSid, some group) →
    group ∈ directory.groups ∧ extractSidFromEntry group = some groupSid
  self : ∀ group ∈ directory.groups, extractSidFromEntry group = some sid →
    sortedMemberOf group = sortedMemberOf principal
  complete : ∀ group,
    directory.MemberThrough (seedKeys principal (primary.bind Prod.snd)) (fun _ => True) group →
      group ∈ transitiveGroups ++ pgParents ++ (primary.bind Prod.snd).toList

namespace MembershipAnswer

variable {directory : GroupDirectory} (answer : MembershipAnswer directory)

def primaryEntry : Option RawEntry := answer.primary.bind Prod.snd

/-- The groups of the transitive searches. -/
def transitiveResult : List RawEntry := answer.transitiveGroups ++ answer.pgParents

def returned : List RawEntry := answer.transitiveResult ++ answer.primaryEntry.toList

/-- The principal's direct groups and its primary group. -/
def seeds : List String := seedKeys answer.principal answer.primaryEntry

/-- Not known to be a distribution group, or returned by the primary-group
lookup alone. -/
def CountsAsSecurity (group : RawEntry) : Prop :=
  groupIsSecurity group ≠ some false ∨ group ∉ answer.transitiveResult

/-- Reached from the principal by a chain of any groups. -/
def Reachable (group : RawEntry) : Prop :=
  directory.MemberThrough answer.seeds (fun _ => True) group

/-- Reached from the principal by a chain of security groups. -/
def SecurityReachable (group : RawEntry) : Prop :=
  directory.MemberThrough answer.seeds answer.CountsAsSecurity group

/-- Returned as a group of the principal although no chain leads to it. -/
def Unexplained (group : RawEntry) : Prop :=
  group ∈ answer.returned ∧ answer.CountsAsSecurity group ∧ ¬answer.Reachable group

def assemble (toLowercase : String → String) : AssembledMemberships :=
  assembleMemberships toLowercase answer.sid answer.principal answer.primary
    answer.transitiveGroups answer.pgParents

/-- A returned group other than the principal itself. -/
def IsOther (group : RawEntry) : Prop :=
  group ∈ answer.returned ∧ extractSidFromEntry group ≠ some answer.sid

theorem member_of_returned {group : RawEntry} (inside : group ∈ answer.returned) :
    group ∈ directory.groups := by
  rcases List.mem_append.mp inside with searched | looked
  · exact answer.searched group searched
  · have found : answer.primaryEntry = some group := Option.mem_toList.mp looked
    rcases Option.bind_eq_some_iff.mp found with ⟨⟨groupSid, stored⟩, primary, entry⟩
    exact (answer.primary_found groupSid group (by rw [primary, ← entry])).1

theorem Reachable.returned {answer : MembershipAnswer directory} {group : RawEntry}
    (reached : answer.Reachable group) : group ∈ answer.returned :=
  answer.complete group reached

theorem SecurityReachable.reachable {answer : MembershipAnswer directory} {group : RawEntry}
    (reached : answer.SecurityReachable group) : answer.Reachable group :=
  reached.mono (fun _ _ => trivial)

end MembershipAnswer

/-- The new entries of the closure after some more returned entries. -/
structure Collected (sid : Sid) (before : Closure) (returned : List (RawEntry × Bool))
    (fresh : Closure) : Prop where
  distinct : ((before ++ fresh).map Prod.fst).Nodup
  stored : ∀ dn group, (dn, group) ∈ fresh →
    ∃ entry ∈ returned, extractSidFromEntry entry.1 = some group.sid ∧ group.sid ≠ sid ∧
      dn = entry.1.key ∧ group = closureGroup entry.1 entry.2 group.sid
  covers : ∀ entry ∈ returned, ∀ groupSid, extractSidFromEntry entry.1 = some groupSid →
    groupSid ≠ sid → entry.1.key ∈ (before ++ fresh).map Prod.fst

/-- One returned entry adds at most itself. -/
theorem collectEntry_spec (sid : Sid) (closure : Closure) (withoutSid : List String)
    (entry : RawEntry × Bool) (distinct : (closure.map Prod.fst).Nodup) :
    ∃ fresh rest, collectEntry sid (closure, withoutSid) entry = (closure ++ fresh, rest) ∧
      Collected sid closure [entry] fresh := by
  by_cases known : closure.containsKey entry.1.key
  · refine ⟨[], withoutSid, by simp [collectEntry, known], by simpa using distinct, ?_, ?_⟩
    · intro dn group impossible
      cases impossible
    · intro again inside groupSid _ _
      rw [List.mem_singleton.mp inside, List.append_nil]
      exact (lookup_isSome_iff_mem closure).mp known
  · have absent : entry.1.key ∉ closure.map Prod.fst := fun member =>
      known ((lookup_isSome_iff_mem closure).mpr member)
    cases read : extractSidFromEntry entry.1 with
    | none =>
        refine ⟨[], withoutSid ++ [entry.1.dn], by simp [collectEntry, known, read],
          by simpa using distinct, ?_, ?_⟩
        · intro dn group impossible
          cases impossible
        · intro again inside groupSid readable _
          rw [List.mem_singleton.mp inside, read] at readable
          cases readable
    | some groupSid =>
        by_cases self : groupSid = sid
        · refine ⟨[], withoutSid, by simp [collectEntry, known, read, self],
            by simpa using distinct, ?_, ?_⟩
          · intro dn group impossible
            cases impossible
          · intro again inside foundSid readable other
            rw [List.mem_singleton.mp inside, read] at readable
            exact absurd (Option.some.inj readable ▸ self) other
        · refine ⟨[(entry.1.key, closureGroup entry.1 entry.2 groupSid)], withoutSid,
            by simp [collectEntry, known, read, self], ?_, ?_, ?_⟩
          · rw [List.map_append, List.nodup_append]
            refine ⟨distinct, by simp, ?_⟩
            intro left inside right atEnd equal
            have last : right = entry.1.key := by simpa using atEnd
            exact absent (last ▸ equal ▸ inside)
          · intro dn group inside
            rcases Prod.mk.inj (List.mem_singleton.mp inside) with ⟨rfl, rfl⟩
            exact ⟨entry, List.mem_singleton_self entry, read, self, rfl, rfl⟩
          · intro again inside foundSid _ _
            rw [List.mem_singleton.mp inside]
            simp

/-- A list of returned entries is collected one after the other. -/
theorem collect_spec (sid : Sid) (returned : List (RawEntry × Bool)) :
    ∀ (closure : Closure) (withoutSid : List String), (closure.map Prod.fst).Nodup →
      ∃ fresh rest, returned.foldl (collectEntry sid) (closure, withoutSid) =
          (closure ++ fresh, rest) ∧ Collected sid closure returned fresh := by
  induction returned with
  | nil =>
      intro closure withoutSid distinct
      exact ⟨[], withoutSid, by simp, by simpa using distinct, by simp, by simp⟩
  | cons head tail known =>
      intro closure withoutSid distinct
      rcases collectEntry_spec sid closure withoutSid head distinct with
        ⟨first, between, stepEq, atHead⟩
      rcases known (closure ++ first) between atHead.distinct with ⟨later, rest, runEq, atTail⟩
      refine ⟨first ++ later, rest, ?_, ?_, ?_, ?_⟩
      · rw [List.foldl_cons, stepEq, runEq, List.append_assoc]
      · rw [← List.append_assoc]
        exact atTail.distinct
      · intro dn group inside
        rcases List.mem_append.mp inside with early | late
        · rcases atHead.stored dn group early with ⟨entry, member, facts⟩
          exact ⟨entry, List.mem_singleton.mp member ▸ List.mem_cons_self, facts⟩
        · rcases atTail.stored dn group late with ⟨entry, member, facts⟩
          exact ⟨entry, List.mem_cons_of_mem _ member, facts⟩
      · intro entry inside groupSid readable other
        rw [← List.append_assoc]
        rcases List.mem_cons.mp inside with equal | later
        · have covered := atHead.covers entry (equal ▸ List.mem_singleton_self head) groupSid
            readable other
          rw [List.map_append]
          exact List.mem_append_left _ covered
        · exact atTail.covers entry later groupSid readable other

/-- A closure that holds exactly the groups of a directory with a property. -/
structure Represents (directory : GroupDirectory) (closure : Closure)
    (holds : RawEntry → Prop) : Prop where
  distinct : (closure.map Prod.fst).Nodup
  stored : ∀ dn group, (dn, group) ∈ closure →
    group.entry ∈ directory.groups ∧ holds group.entry ∧ dn = group.entry.key ∧
      extractSidFromEntry group.entry = some group.sid ∧
      group.parents = sortedMemberOf group.entry
  covers : ∀ entry ∈ directory.groups, holds entry →
    ∃ group, (entry.key, group) ∈ closure ∧ group.entry = entry

namespace Represents

variable {directory : GroupDirectory} {closure : Closure} {holds : RawEntry → Prop}

/-- A condition on the entries of the closure narrows what it represents. -/
theorem filter (represents : Represents directory closure holds)
    (keep : String × ClosureGroup → Bool) (narrower : RawEntry → Prop)
    (reads : ∀ dn group, (dn, group) ∈ closure →
      (keep (dn, group) = true ↔ narrower group.entry)) :
    Represents directory (closure.filter keep) (fun entry => holds entry ∧ narrower entry) where
  distinct := represents.distinct.sublist (List.filter_sublist.map Prod.fst)
  stored := by
    intro dn group inside
    rcases List.mem_filter.mp inside with ⟨member, kept⟩
    rcases represents.stored dn group member with ⟨known, held, rest⟩
    exact ⟨known, ⟨held, (reads dn group member).mp kept⟩, rest⟩
  covers := by
    intro entry member condition
    rcases represents.covers entry member condition.1 with ⟨group, stored, same⟩
    refine ⟨group, List.mem_filter.mpr ⟨stored, (reads _ group stored).mpr ?_⟩, same⟩
    rw [same]
    exact condition.2

/-- The key of a group is in the closure exactly when the group has the
property. -/
theorem containsKey_iff (represents : Represents directory closure holds) {entry : RawEntry}
    (member : entry ∈ directory.groups) :
    closure.containsKey entry.key = true ↔ holds entry := by
  rw [Closure.containsKey, lookup_isSome_iff_mem, List.mem_map]
  constructor
  · rintro ⟨⟨dn, group⟩, inside, key⟩
    rcases represents.stored dn group inside with ⟨known, held, name, _⟩
    rw [GroupDirectory.eq_of_key member known (key.symm.trans name)]
    exact held
  · intro held
    rcases represents.covers entry member held with ⟨group, inside, _⟩
    exact ⟨(entry.key, group), inside, rfl⟩

/-- Every key of the closure is the key of a group with the property. -/
theorem exists_of_containsKey (represents : Represents directory closure holds) {dn : String}
    (contained : closure.containsKey dn = true) :
    ∃ entry ∈ directory.groups, holds entry ∧ dn = entry.key := by
  rcases List.mem_map.mp ((lookup_isSome_iff_mem closure).mp contained) with
    ⟨⟨stored, group⟩, inside, same⟩
  rcases represents.stored stored group inside with ⟨known, held, name, _⟩
  exact ⟨group.entry, known, held, same.symm.trans name⟩

/-- The edges of the closure are the memberships of the group. -/
theorem mem_parentsIn_iff (represents : Represents directory closure holds) {inner : RawEntry}
    (member : inner ∈ directory.groups) (held : holds inner) (dn : String) :
    dn ∈ RouteTable.parentsIn closure inner.key ↔
      dn ∈ sortedMemberOf inner ∧ closure.containsKey dn = true := by
  rcases represents.covers inner member held with ⟨group, inside, same⟩
  have found : closure.lookup inner.key = some group :=
    (lookup_eq_some_iff_mem represents.distinct).mpr inside
  rcases represents.stored inner.key group inside with ⟨_, _, _, _, parents⟩
  rw [RouteTable.parentsIn, found]
  change dn ∈ group.parents.filter closure.containsKey ↔ _
  rw [List.mem_filter, parents, same]

end Represents

namespace MembershipAnswer

variable {directory : GroupDirectory} (answer : MembershipAnswer directory)

theorem isOther_of_member {counts : RawEntry → Prop} {group : RawEntry}
    (reached : directory.MemberThrough answer.seeds counts group)
    (other : extractSidFromEntry group ≠ some answer.sid) : answer.IsOther group :=
  ⟨Reachable.returned (reached.mono (fun _ _ => trivial)), other⟩

/-- The table over the returned groups with some property reaches the groups
that a chain of such groups reaches.  A chain through the principal's own entry
starts again at its direct groups, because these are seeds. -/
theorem reached_iff_member {closure : Closure} {holds counts : RawEntry → Prop}
    (represents : Represents directory closure holds)
    (reads : ∀ entry, holds entry ↔ answer.IsOther entry ∧ counts entry)
    {entry : RawEntry} (inDirectory : entry ∈ directory.groups) :
    (RouteTable.build closure answer.seeds).reached entry.key = true ↔
      answer.IsOther entry ∧ directory.MemberThrough answer.seeds counts entry := by
  rw [RouteTable.reached_build_iff]
  constructor
  · intro chain
    have claim : ∃ group ∈ directory.groups, holds group ∧ entry.key = group.key ∧
        directory.MemberThrough answer.seeds counts group := by
      refine Reached.induction (motive := fun dn => ∃ group ∈ directory.groups, holds group ∧
        dn = group.key ∧ directory.MemberThrough answer.seeds counts group) ?_ ?_ chain
      · intro node inside
        rcases List.mem_filter.mp inside with ⟨seed, contained⟩
        rcases represents.exists_of_containsKey contained with ⟨group, member, held, name⟩
        exact ⟨group, member, held, name, .direct member ((reads group).mp held).2 (name ▸ seed)⟩
      · rintro here there _ ⟨inner, innerMember, innerHeld, rfl, innerReached⟩ edge
        rcases (represents.mem_parentsIn_iff innerMember innerHeld there).mp edge with
          ⟨listed, contained⟩
        rcases represents.exists_of_containsKey contained with ⟨outer, member, held, rfl⟩
        exact ⟨outer, member, held, rfl,
          .nested innerReached member ((reads outer).mp held).2 listed⟩
    rcases claim with ⟨group, member, held, name, reached⟩
    rw [GroupDirectory.eq_of_key inDirectory member name]
    exact ⟨((reads group).mp held).1, reached⟩
  · rintro ⟨other, reached⟩
    induction reached with
    | direct member counted seed =>
        refine .seed (List.mem_filter.mpr ⟨seed, ?_⟩)
        exact (represents.containsKey_iff member).mpr ((reads _).mpr ⟨other, counted⟩)
    | @nested inner outer innerReached member counted edge known =>
        have contained : closure.containsKey outer.key = true :=
          (represents.containsKey_iff member).mpr ((reads _).mpr ⟨other, counted⟩)
        by_cases self : extractSidFromEntry inner = some answer.sid
        · refine .seed (List.mem_filter.mpr ⟨?_, contained⟩)
          rw [answer.self inner innerReached.member self] at edge
          simp [seeds, seedKeys, edge]
        · have innerOther := answer.isOther_of_member innerReached self
          have innerHeld := (reads inner).mpr ⟨innerOther, innerReached.counted⟩
          exact (known innerReached.member innerOther).step
            ((represents.mem_parentsIn_iff innerReached.member innerHeld outer.key).mpr
              ⟨edge, contained⟩)

/-- The closure the resolver builds from the answer. -/
def closure : Closure :=
  (collectClosure answer.sid
    (returnedEntries answer.transitiveGroups answer.pgParents answer.primaryEntry)).1

/-- What the closure holds for each key: the returned entry with that key, read
as the result of the primary-group lookup only if no transitive search returned
it. -/
theorem mem_closure (dn : String) (group : ClosureGroup)
    (inside : (dn, group) ∈ answer.closure) :
    answer.IsOther group.entry ∧ dn = group.entry.key ∧
      extractSidFromEntry group.entry = some group.sid ∧
      (group.entry ∈ answer.transitiveResult ∧
          group = closureGroup group.entry false group.sid ∨
        group.entry ∉ answer.transitiveResult ∧
          group = closureGroup group.entry true group.sid) := by
  obtain ⟨first, between, firstEq, atFirst⟩ := collect_spec answer.sid
    (answer.transitiveResult.map (fun entry => (entry, false))) [] [] (by simp)
  rcases collect_spec answer.sid
      (answer.primaryEntry.toList.map (fun entry => (entry, true))) ([] ++ first) between
      atFirst.distinct with ⟨second, rest, secondEq, atSecond⟩
  have listed : (dn, group) ∈ first ∨ (dn, group) ∈ second := by
    rw [closure, collectClosure, returnedEntries, List.foldl_append] at inside
    change (dn, group) ∈ List.insertionSort _ (List.foldl _ (List.foldl _ ([], [])
      (answer.transitiveResult.map (fun entry => (entry, false)))) _).1 at inside
    rw [firstEq, secondEq, List.mem_insertionSort] at inside
    simpa using inside
  rcases listed with early | late
  · rcases atFirst.stored dn group early with ⟨returned, member, read, other, key, shape⟩
    rcases List.mem_map.mp member with ⟨entry, searched, rfl⟩
    have same : group.entry = entry := by rw [shape]; rfl
    rw [same]
    refine ⟨⟨List.mem_append_left _ searched, ?_⟩, key, read, Or.inl ⟨searched, shape⟩⟩
    rw [read]
    exact fun equal => other (Option.some.inj equal)
  · rcases atSecond.stored dn group late with ⟨returned, member, read, other, key, shape⟩
    rcases List.mem_map.mp member with ⟨entry, looked, rfl⟩
    have same : group.entry = entry := by rw [shape]; rfl
    rw [same]
    refine ⟨⟨List.mem_append_right _ looked, ?_⟩, key, read, Or.inr ⟨?_, shape⟩⟩
    · rw [read]
      exact fun equal => other (Option.some.inj equal)
    · intro searched
      have earlier := atFirst.covers (entry, false) (List.mem_map_of_mem searched) group.sid
        read other
      have distinct := atSecond.distinct
      rw [List.map_append, List.nodup_append] at distinct
      exact distinct.2.2 entry.key earlier dn (List.mem_map_of_mem late) key.symm

theorem closure_keys :
    (answer.closure.map Prod.fst).Nodup ∧
      ∀ entry, answer.IsOther entry → entry.key ∈ answer.closure.map Prod.fst := by
  obtain ⟨fresh, rest, runEq, collected⟩ := collect_spec answer.sid
    (returnedEntries answer.transitiveGroups answer.pgParents answer.primaryEntry) [] [] (by simp)
  have sorted : answer.closure.Perm fresh := by
    rw [closure, collectClosure, runEq, List.nil_append]
    exact List.perm_insertionSort _ fresh
  have distinct := collected.distinct
  have covers := collected.covers
  rw [List.nil_append] at distinct covers
  refine ⟨(sorted.map Prod.fst).nodup_iff.mpr distinct, ?_⟩
  rintro entry ⟨returned, other⟩
  rcases Option.isSome_iff_exists.mp
      (directory.readable entry (answer.member_of_returned returned)) with ⟨groupSid, read⟩
  have listed : (entry, false) ∈ returnedEntries answer.transitiveGroups answer.pgParents
        answer.primaryEntry ∨
      (entry, true) ∈ returnedEntries answer.transitiveGroups answer.pgParents
        answer.primaryEntry := by
    rcases List.mem_append.mp returned with searched | looked
    · exact Or.inl (List.mem_append_left _ (List.mem_map_of_mem searched))
    · exact Or.inr (List.mem_append_right _ (List.mem_map_of_mem looked))
  have apart : groupSid ≠ answer.sid := fun equal => other (equal ▸ read)
  rw [(sorted.map Prod.fst).mem_iff]
  rcases listed with searched | looked
  · exact covers (entry, false) searched groupSid read apart
  · exact covers (entry, true) looked groupSid read apart

/-- The closure is the returned groups other than the principal. -/
theorem closure_represents : Represents directory answer.closure answer.IsOther where
  distinct := answer.closure_keys.1
  stored := by
    intro dn group inside
    rcases answer.mem_closure dn group inside with ⟨other, key, read, shape⟩
    refine ⟨answer.member_of_returned other.1, other, key, read, ?_⟩
    rcases shape with ⟨_, shape⟩ | ⟨_, shape⟩
    · exact congrArg ClosureGroup.parents shape
    · exact congrArg ClosureGroup.parents shape
  covers := by
    intro entry member other
    rcases List.mem_map.mp (answer.closure_keys.2 entry other) with ⟨⟨dn, group⟩, inside, key⟩
    rcases answer.mem_closure dn group inside with ⟨found, name, _⟩
    have same : group.entry = entry :=
      GroupDirectory.eq_of_key (answer.member_of_returned found.1) member (name.symm.trans key)
    exact ⟨group, key ▸ inside, same⟩

theorem security_of_mem_closure {dn : String} {group : ClosureGroup}
    (inside : (dn, group) ∈ answer.closure) :
    group.security ≠ some false ↔ answer.CountsAsSecurity group.entry := by
  rcases answer.mem_closure dn group inside with ⟨_, _, _, shape⟩
  rcases shape with ⟨searched, shape⟩ | ⟨unsearched, shape⟩
  · have security : group.security = groupIsSecurity group.entry :=
      congrArg ClosureGroup.security shape
    rw [security, CountsAsSecurity]
    exact ⟨Or.inl, fun counted => counted.resolve_right (fun absent => absent searched)⟩
  · have security : group.security = some true := congrArg ClosureGroup.security shape
    rw [security]
    exact ⟨fun _ => Or.inr unsearched, fun _ => by decide⟩

theorem candidates_represent :
    Represents directory (securityCandidates answer.closure)
      (fun entry => answer.IsOther entry ∧ answer.CountsAsSecurity entry) := by
  refine answer.closure_represents.filter _ answer.CountsAsSecurity ?_
  intro dn group inside
  rw [decide_eq_true_iff]
  exact answer.security_of_mem_closure inside

/-- In the token: reached through security groups, or returned without any
chain. -/
def Counted (entry : RawEntry) : Prop := answer.SecurityReachable entry ∨ answer.Unexplained entry

theorem isExcluded_iff {dn : String} {group : ClosureGroup}
    (inside : (dn, group) ∈ answer.closure) :
    isExcluded answer.closure answer.seeds (dn, group) = true ↔
      ¬answer.CountsAsSecurity group.entry ∨
        ¬answer.SecurityReachable group.entry ∧ answer.Reachable group.entry := by
  rcases answer.closure_represents.stored dn group inside with ⟨member, other, rfl, _⟩
  have bySecurity := answer.reached_iff_member answer.candidates_represent (fun _ => Iff.rfl) member
  have anyCounts : ∀ entry, answer.IsOther entry ↔ answer.IsOther entry ∧ True :=
    fun _ => (and_iff_left trivial).symm
  have byAny := answer.reached_iff_member answer.closure_represents anyCounts member
  have securityReached : (RouteTable.build (securityCandidates answer.closure) answer.seeds).reached
      group.entry.key = true ↔ answer.SecurityReachable group.entry :=
    bySecurity.trans (and_iff_right other)
  have anyReached : (RouteTable.build answer.closure answer.seeds).reached group.entry.key = true ↔
      answer.Reachable group.entry := byAny.trans (and_iff_right other)
  have distribution := not_congr (answer.security_of_mem_closure inside)
  rw [not_not] at distribution
  rw [isExcluded, Bool.or_eq_true, Bool.and_eq_true, Bool.not_eq_true', beq_iff_eq, anyReached,
    ← Bool.not_eq_true, securityReached, distribution]

theorem kept_represents :
    Represents directory (keptClosure answer.closure answer.seeds)
      (fun entry => (answer.IsOther entry ∧ answer.CountsAsSecurity entry) ∧
        (answer.SecurityReachable entry ∨ ¬answer.Reachable entry)) := by
  refine answer.candidates_represent.filter _ _ ?_
  intro dn group inside
  have stored := (List.mem_filter.mp inside).1
  have counted := (answer.candidates_represent.stored dn group inside).2.1.2
  rw [Bool.not_eq_true', ← Bool.not_eq_true, answer.isExcluded_iff stored, not_or, not_not,
    not_and_or, not_not]
  exact and_iff_right counted

theorem mem_kept_iff {entry : RawEntry} :
    ((answer.IsOther entry ∧ answer.CountsAsSecurity entry) ∧
        (answer.SecurityReachable entry ∨ ¬answer.Reachable entry)) ↔
      extractSidFromEntry entry ≠ some answer.sid ∧ answer.Counted entry := by
  constructor
  · rintro ⟨⟨⟨returned, other⟩, counted⟩, reached | unreached⟩
    · exact ⟨other, Or.inl reached⟩
    · exact ⟨other, Or.inr ⟨returned, counted, unreached⟩⟩
  · rintro ⟨other, reached | ⟨returned, counted, unreached⟩⟩
    · exact ⟨⟨⟨Reachable.returned reached.reachable, other⟩, reached.counted⟩, Or.inl reached⟩
    · exact ⟨⟨⟨returned, other⟩, counted⟩, Or.inr unreached⟩

/-! ## The assembled memberships -/

/-- The primary group, unless it is the principal itself. -/
def primarySids : List Sid :=
  (answer.primary.map Prod.fst).toList.filter (fun groupSid => groupSid ≠ answer.sid)

/-- The kept groups other than the primary group. -/
def restGroups : Closure :=
  (keptClosure answer.closure answer.seeds).filter
    (fun entry => some entry.2.sid ≠ answer.primary.map Prod.fst)

theorem assemble_groupSids (toLowercase : String → String) :
    ((answer.assemble toLowercase).memberships.map GroupMembership.groupSid).Perm
      (answer.primarySids ++ answer.restGroups.map (fun entry => entry.2.sid)) := by
  have shape : (answer.assemble toLowercase).memberships.map GroupMembership.groupSid =
      answer.primarySids ++ (answer.restGroups.insertionSort
        (fun left right => membershipLe toLowercase
          (RouteTable.build (keptClosure answer.closure answer.seeds) answer.seeds) left right =
            true)).map (fun entry => entry.2.sid) := by
    rw [assemble, assembleMemberships, List.map_append, List.map_map]
    congr 1
    rw [primarySids]
    cases primary : answer.primary with
    | none => rfl
    | some found =>
        by_cases self : found.1 = answer.sid
        · simp [self]
        · simp [self, primaryMembership]
  rw [shape]
  exact List.Perm.append_left _ ((List.perm_insertionSort _ answer.restGroups).map _)

theorem mem_restGroups_iff (groupSid : Sid) :
    groupSid ∈ answer.restGroups.map (fun entry => entry.2.sid) ↔
      groupSid ≠ answer.sid ∧ answer.primary.map Prod.fst ≠ some groupSid ∧
        ∃ group ∈ directory.groups, extractSidFromEntry group = some groupSid ∧
          answer.Counted group := by
  constructor
  · intro inside
    rcases List.mem_map.mp inside with ⟨⟨dn, group⟩, stored, rfl⟩
    rcases List.mem_filter.mp stored with ⟨kept, other⟩
    rcases answer.kept_represents.stored dn group kept with ⟨member, held, _, read, _⟩
    rcases answer.mem_kept_iff.mp held with ⟨apart, counted⟩
    rw [decide_eq_true_iff] at other
    exact ⟨fun equal => apart (read.trans (congrArg some equal)), Ne.symm other,
      group.entry, member, read, counted⟩
  · rintro ⟨apart, other, entry, member, read, counted⟩
    have held := answer.mem_kept_iff.mpr
      ⟨fun equal => apart (Option.some.inj (read.symm.trans equal)), counted⟩
    rcases answer.kept_represents.covers entry member held with ⟨group, kept, rfl⟩
    rcases answer.kept_represents.stored _ group kept with ⟨_, _, _, stored, _⟩
    have same : group.sid = groupSid := Option.some.inj (stored.symm.trans read)
    refine List.mem_map.mpr ⟨(group.entry.key, group), List.mem_filter.mpr ⟨kept, ?_⟩, same⟩
    rw [decide_eq_true_iff, same]
    exact Ne.symm other

theorem restGroups_distinct : (answer.restGroups.map (fun entry => entry.2.sid)).Nodup := by
  have distinct : answer.restGroups.Nodup :=
    (answer.kept_represents.distinct.of_map Prod.fst).filter _
  refine distinct.map_on ?_
  rintro ⟨leftDn, left⟩ leftInside ⟨rightDn, right⟩ rightInside same
  have leftKept := (List.mem_filter.mp leftInside).1
  have rightKept := (List.mem_filter.mp rightInside).1
  rcases answer.kept_represents.stored _ left leftKept with ⟨leftMember, _, rfl, leftRead, _⟩
  rcases answer.kept_represents.stored _ right rightKept with ⟨rightMember, _, rfl, rightRead, _⟩
  have entries : left.entry = right.entry := by
    refine GroupDirectory.eq_of_sid leftMember rightMember ?_
    rw [leftRead, rightRead]
    exact congrArg some same
  exact List.inj_on_of_nodup_map answer.kept_represents.distinct leftKept rightKept
    (congrArg RawEntry.key entries)

theorem mem_primarySids_iff (groupSid : Sid) :
    groupSid ∈ answer.primarySids ↔
      groupSid ≠ answer.sid ∧ answer.primary.map Prod.fst = some groupSid := by
  rw [primarySids, List.mem_filter, Option.mem_toList, decide_eq_true_iff, and_comm]

theorem primarySids_distinct : answer.primarySids.Nodup := by
  refine List.Nodup.filter _ ?_
  cases answer.primary.map Prod.fst with
  | none => exact List.nodup_nil
  | some groupSid => exact List.nodup_singleton groupSid

/-- The groups of the assembled memberships. -/
theorem mem_assemble_iff (toLowercase : String → String) (groupSid : Sid) :
    groupSid ∈ (answer.assemble toLowercase).memberships.map GroupMembership.groupSid ↔
      groupSid ≠ answer.sid ∧ (answer.primary.map Prod.fst = some groupSid ∨
        ∃ group ∈ directory.groups, extractSidFromEntry group = some groupSid ∧
          answer.Counted group) := by
  rw [(answer.assemble_groupSids toLowercase).mem_iff, List.mem_append,
    answer.mem_primarySids_iff, answer.mem_restGroups_iff]
  constructor
  · rintro (⟨apart, primary⟩ | ⟨apart, _, reached⟩)
    · exact ⟨apart, Or.inl primary⟩
    · exact ⟨apart, Or.inr reached⟩
  · rintro ⟨apart, primary | reached⟩
    · exact Or.inl ⟨apart, primary⟩
    · by_cases primary : answer.primary.map Prod.fst = some groupSid
      · exact Or.inl ⟨apart, primary⟩
      · exact Or.inr ⟨apart, primary, reached⟩

theorem assemble_distinct (toLowercase : String → String) :
    ((answer.assemble toLowercase).memberships.map GroupMembership.groupSid).Nodup := by
  rw [(answer.assemble_groupSids toLowercase).nodup_iff, List.nodup_append]
  refine ⟨answer.primarySids_distinct, answer.restGroups_distinct, ?_⟩
  intro left inPrimary right inRest equal
  rcases (answer.mem_restGroups_iff right).mp inRest with ⟨_, other, _⟩
  exact other (equal ▸ ((answer.mem_primarySids_iff left).mp inPrimary).2)

theorem assemble_excluded (toLowercase : String → String) :
    (answer.assemble toLowercase).excluded = excludedReasons answer.closure answer.seeds := rfl

/-- A returned group that the memberships leave out is named with its reason. -/
theorem excluded_names (toLowercase : String → String) {group : RawEntry}
    (other : answer.IsOther group) (uncounted : ¬answer.Counted group) :
    distributionReason (groupLabel group) ∈ (answer.assemble toLowercase).excluded ∨
      throughDistributionReason (groupLabel group) ∈ (answer.assemble toLowercase).excluded := by
  have member := answer.member_of_returned other.1
  rcases answer.closure_represents.covers group member other with ⟨stored, inside, rfl⟩
  have excluded : isExcluded answer.closure answer.seeds (stored.entry.key, stored) = true := by
    rw [answer.isExcluded_iff inside]
    by_cases counts : answer.CountsAsSecurity stored.entry
    · refine Or.inr ⟨fun reached => uncounted (Or.inl reached), ?_⟩
      by_contra unreached
      exact uncounted (Or.inr ⟨other.1, counts, unreached⟩)
    · exact Or.inl counts
  rw [assemble_excluded, excludedReasons]
  by_cases distribution : stored.security = some false
  · refine Or.inl (List.mem_filterMap.mpr ⟨_, inside, ?_⟩)
    rw [if_pos distribution]
  · refine Or.inr (List.mem_filterMap.mpr ⟨_, inside, ?_⟩)
    rw [if_neg distribution, if_pos excluded]

/-- A counted group of the transitive searches whose type is not readable is
part of a reported gap. -/
theorem unknownType_reported (toLowercase : String → String) {group : RawEntry}
    (searched : group ∈ answer.transitiveResult)
    (other : extractSidFromEntry group ≠ some answer.sid) (counted : answer.Counted group)
    (unreadable : groupIsSecurity group = none) :
    ∃ unknown : List String, group.dn ∈ unknown ∧
      unknownTypeGap unknown ∈ (answer.assemble toLowercase).gaps := by
  have held := answer.mem_kept_iff.mpr ⟨other, counted⟩
  have member := answer.member_of_returned held.1.1.1
  rcases answer.closure_represents.covers group member held.1.1 with ⟨stored, inside, rfl⟩
  have security : stored.security = none := by
    rcases answer.mem_closure _ stored inside with ⟨_, _, _, shape⟩
    rcases shape with ⟨_, shape⟩ | ⟨unsearched, _⟩
    · exact (congrArg ClosureGroup.security shape).trans unreadable
    · exact absurd searched unsearched
  have kept : isExcluded answer.closure answer.seeds (stored.entry.key, stored) = false := by
    rw [← Bool.not_eq_true, answer.isExcluded_iff inside, not_or, not_not, not_and_or, not_not]
    exact ⟨held.1.2, held.2⟩
  have listed : stored.entry.dn ∈ unknownTypes answer.closure answer.seeds := by
    rw [unknownTypes, mem_orderedSet]
    refine List.mem_filterMap.mpr ⟨_, inside, ?_⟩
    simp [kept, security]
  refine ⟨unknownTypes answer.closure answer.seeds, listed, ?_⟩
  have reported : unknownTypeGap (unknownTypes answer.closure answer.seeds) ∈
      gapUnlessEmpty (unknownTypes answer.closure answer.seeds) unknownTypeGap := by
    rw [gapUnlessEmpty, if_neg]
    · exact List.mem_singleton_self _
    · rw [List.isEmpty_iff]
      exact List.ne_nil_of_mem listed
  exact List.mem_append_left _ (List.mem_append_left _ reported)

end MembershipAnswer

/-- The assembled memberships are reachability in the directory: the primary
group, the groups that chains of security groups reach from the principal or its
primary group, and the returned groups that no chain explains; each SID once,
and never the principal's.  Every other returned group is named as excluded, and
a counted group of the transitive searches with an unreadable type is part of a
gap. -/
theorem memberships_iff_reachable (toLowercase : String → String) {directory : GroupDirectory}
    (answer : MembershipAnswer directory) :
    let assembled := answer.assemble toLowercase
    let groupSids := assembled.memberships.map GroupMembership.groupSid
    (∀ groupSid, groupSid ∈ groupSids ↔
      groupSid ≠ answer.sid ∧ (answer.primary.map Prod.fst = some groupSid ∨
        ∃ group ∈ directory.groups, extractSidFromEntry group = some groupSid ∧
          (answer.SecurityReachable group ∨ answer.Unexplained group))) ∧
    groupSids.Nodup ∧
    (∀ group ∈ answer.returned, ∀ groupSid, extractSidFromEntry group = some groupSid →
      groupSid ≠ answer.sid → groupSid ∉ groupSids →
        distributionReason (groupLabel group) ∈ assembled.excluded ∨
          throughDistributionReason (groupLabel group) ∈ assembled.excluded) ∧
    ∀ group ∈ answer.transitiveResult, groupIsSecurity group = none →
      extractSidFromEntry group ≠ some answer.sid →
      (answer.SecurityReachable group ∨ answer.Unexplained group) →
        ∃ unknown : List String, group.dn ∈ unknown ∧ unknownTypeGap unknown ∈ assembled.gaps := by
  intro assembled groupSids
  refine ⟨answer.mem_assemble_iff toLowercase, answer.assemble_distinct toLowercase, ?_, ?_⟩
  · intro group returned groupSid read apart absent
    have other : answer.IsOther group :=
      ⟨returned, fun equal => apart (Option.some.inj (read.symm.trans equal))⟩
    refine answer.excluded_names toLowercase other ?_
    intro counted
    exact absent ((answer.mem_assemble_iff toLowercase groupSid).mpr
      ⟨apart, Or.inr ⟨group, answer.member_of_returned returned, read, counted⟩⟩)
  · intro group searched unreadable other counted
    exact answer.unknownType_reported toLowercase searched other counted unreadable

/-! ## A primary group with an unreadable type -/

/-- The binary SID of an account of the domain `S-1-5-21-1-2-3`, with a relative
identifier of two bytes. -/
def domainSidBytes (low high : UInt8) : List UInt8 :=
  [1, 5, 0, 0, 0, 0, 0, 5, 21, 0, 0, 0, 1, 0, 0, 0, 2, 0, 0, 0, 3, 0, 0, 0, low, high, 0, 0]

/-- A primary group without a `groupType`. -/
def untypedPrimaryGroup : RawEntry where
  dn := "CN=Domain Users,DC=x"
  binAttrs := [("objectSid", [domainSidBytes 1 2])]

/-- A security group without members. -/
def emptyGroup : RawEntry where
  dn := "CN=Readers,DC=x"
  attrs := [("groupType", ["-2147483646"])]
  binAttrs := [("objectSid", [domainSidBytes 176 4])]

def smallDirectory : GroupDirectory where
  groups := [untypedPrimaryGroup, emptyGroup]
  readable := by decide
  dns_distinct := by decide
  sids_distinct := by decide

/-- A user whose primary group is found by the primary-group lookup alone, and
whose transitive search returns a group that no chain leads to. -/
def untypedPrimaryAnswer : MembershipAnswer smallDirectory where
  sid := ⟨"S-1-5-21-1-2-3-1105"⟩
  principal := { dn := "CN=Anna,DC=x" }
  primary := some (⟨"S-1-5-21-1-2-3-513"⟩, some untypedPrimaryGroup)
  transitiveGroups := [emptyGroup]
  pgParents := []
  searched := by decide
  primary_found := by
    intro groupSid group found
    cases found
    exact ⟨by decide, by decide⟩
  self := by decide
  complete := by
    intro group reached
    have member : group ∈ [untypedPrimaryGroup, emptyGroup] := reached.member
    change group ∈ [emptyGroup, untypedPrimaryGroup]
    exact (List.Perm.swap emptyGroup untypedPrimaryGroup []).mem_iff.mp member

/-- The primary group is a membership and its type is unreadable, yet no gap is
reported; and a group the principal cannot reach is a membership as well. -/
theorem untypedPrimary_unreported :
    let assembled := untypedPrimaryAnswer.assemble Text.toAsciiLowercase
    groupIsSecurity untypedPrimaryGroup = none ∧
      assembled.memberships.map GroupMembership.groupSid =
        [⟨"S-1-5-21-1-2-3-513"⟩, ⟨"S-1-5-21-1-2-3-1200"⟩] ∧
      assembled.gaps = [] ∧
      extractSidFromEntry emptyGroup = some ⟨"S-1-5-21-1-2-3-1200"⟩ ∧
      ¬untypedPrimaryAnswer.Reachable emptyGroup := by
  refine ⟨by decide, by decide, by decide, by decide, ?_⟩
  intro reached
  cases reached with
  | direct _ _ seed => exact absurd seed (by decide)
  | nested inner _ _ edge =>
      have unrelated : ∀ group ∈ smallDirectory.groups,
          emptyGroup.key ∉ sortedMemberOf group := by decide
      exact unrelated _ inner.member edge

end AdResolver
end Stars
