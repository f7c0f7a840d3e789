import Stars.AdResolver.Chains
import Stars.Graph.Bypass

namespace Stars
namespace AdResolver

open Collections Stars.Graph

/-!
# Further routes into a group

Beside the chain it shows, a membership lists the other direct members of its
group as further routes.  They are read off the reverse edges of the closure,
and nothing asks how the principal came into them.  Under cyclic nesting a direct
member of the group may be a group the principal is in through that very group;
it is listed like any other, and the route it stands for does not exist.
-/

/-- The group before the last one of a chain; `none` is the principal. -/
def chainLastHop (chain : List String) : Option String :=
  if chain.length < 2 then none else chain[chain.length - 2]?

namespace RouteTable

variable (graph : ClosureGraph) (seeds : List String) (lastHop : Option String) (target : String)

/-- The direct memberships without the one from the last hop in the target. -/
def parentsWithout (member : String) : List String :=
  (parentsIn graph.groups member).filter (fun dn => ¬ (some member = lastHop ∧ dn = target))

/-- The direct groups of the principal, without the target where the principal
itself is the last hop. -/
def seedsWithout : List String :=
  (seeds.filter graph.groups.containsKey).filter (fun dn => ¬ (lastHop = none ∧ dn = target))

/-- The principal is in the target group without the last edge of its chain. -/
def StillReaches : Prop :=
  Reached (parentsWithout graph lastHop target) (seedsWithout graph seeds lastHop target) target

/-- What the list of further routes says: it names the direct members of the
group other than the last hop; they keep the principal in the group when the
last edge is removed, each by a route that does not meet the group; and without
any of them that edge is the only way in. -/
structure AlsoViaSpec (alsoVia : List MembershipHop) : Prop where
  names : ∀ hop, hop ∈ alsoVia ↔ ∃ member group, graph.groups.lookup member = some group ∧
    target ∈ parentsIn graph.groups member ∧ some member ≠ lastHop ∧
      hop = ⟨group.sid, group.name⟩
  keeps : alsoVia ≠ [] → StillReaches graph seeds lastHop target
  apart : ∀ member, target ∈ parentsIn graph.groups member → some member ≠ lastHop →
    ∃ chain, ChainOf graph seeds member chain ∧ target ∉ chain
  loses : alsoVia = [] → ¬ StillReaches graph seeds lastHop target

/-- Every direct member of a group is still reached when the group itself is
left out of the closure. -/
def MembersIndependent : Prop :=
  ∀ member, target ∈ parentsIn graph.groups member →
    (build (graph.groups.filter (fun entry => entry.1 ≠ target)) seeds).reached member = true

/-- What the last edge of a shown chain is: the principal itself is in the group
over no other edge of its own, and the last hop is entered before the group. -/
structure LastEdge : Prop where
  seed : target ∉ seedsWithout graph seeds lastHop target
  member : ∀ prev, lastHop = some prev → ∃ chain, ChainOf graph seeds prev chain ∧ target ∉ chain

variable {graph seeds lastHop target}

theorem mem_children_iff {member : String} :
    member ∈ ((build graph.groups seeds).children.lookup target).getD [] ↔
      target ∈ parentsIn graph.groups member := by
  by_cases contained : graph.groups.containsKey target = true
  · rw [lookup_children contained, ← mem_childrenIn_iff_edge contained]
    cases kids : childrenIn graph.groups target with
    | nil => rfl
    | cons first rest => rfl
  · have missing : (build graph.groups seeds).children.lookup target = none := by
      rw [← Option.not_isSome_iff_eq_none, lookup_isSome_iff_mem, List.mem_map]
      rintro ⟨⟨name, kids⟩, stored, rfl⟩
      rw [build] at stored
      rcases List.mem_filterMap.mp stored with ⟨entry, inside, made⟩
      dsimp only at made
      split at made
      · cases made
      · cases made
        exact contained ((lookup_isSome_iff_mem graph.groups).mpr (List.mem_map_of_mem inside))
    rw [missing]
    constructor
    · intro impossible
      cases impossible
    · intro edge
      rcases mem_parentsIn_iff.mp edge with ⟨_, _, _, inside⟩
      exact absurd inside contained

theorem mem_hops_iff {closure : Closure} {dns : List String} {hop : MembershipHop} :
    hop ∈ hops closure dns ↔ ∃ dn group, dn ∈ dns ∧ closure.lookup dn = some group ∧
      hop = ⟨group.sid, group.name⟩ := by
  rw [hops, List.mem_map]
  constructor
  · rintro ⟨group, found, rfl⟩
    rcases List.mem_filterMap.mp found with ⟨dn, member, stored⟩
    exact ⟨dn, group, member, stored, rfl⟩
  · rintro ⟨dn, group, member, stored, rfl⟩
    exact ⟨group, List.mem_filterMap.mpr ⟨dn, member, stored⟩, rfl⟩

theorem mem_otherHops_iff {hop : MembershipHop} :
    hop ∈ hops graph.groups ((build graph.groups seeds).otherEntries target lastHop) ↔
      ∃ member group, graph.groups.lookup member = some group ∧
        target ∈ parentsIn graph.groups member ∧ some member ≠ lastHop ∧
          hop = ⟨group.sid, group.name⟩ := by
  rw [mem_hops_iff]
  constructor
  · rintro ⟨member, group, listed, stored, same⟩
    rw [otherEntries, List.mem_filter, mem_children_iff] at listed
    exact ⟨member, group, stored, listed.1, of_decide_eq_true listed.2, same⟩
  · rintro ⟨member, group, stored, edge, other, same⟩
    refine ⟨member, group, ?_, stored, same⟩
    rw [otherEntries, List.mem_filter, mem_children_iff]
    exact ⟨edge, decide_eq_true other⟩

/-- The closure without the target reaches the groups that are reached apart
from it. -/
theorem reached_without_iff {member : String} :
    (build (graph.groups.filter (fun entry => entry.1 ≠ target)) seeds).reached member = true ↔
      ∃ chain, ChainOf graph seeds member chain ∧ target ∉ chain := by
  have kept : ∀ dn, Closure.containsKey (graph.groups.filter (fun entry => entry.1 ≠ target)) dn =
      true ↔ dn ≠ target ∧ graph.groups.containsKey dn = true := by
    intro dn
    rw [Closure.containsKey, lookup_filter_ne]
    by_cases here : dn = target
    · rw [if_pos here]
      exact iff_of_false Bool.false_ne_true (fun other => other.1 here)
    · rw [if_neg here]
      exact ⟨fun stored => ⟨here, stored⟩, fun stored => stored.2⟩
  rw [reached_build_iff, ← reachedApart_iff_route]
  constructor
  · intro reached
    refine Reached.induction (motive := fun dn => ReachedApart (parentsIn graph.groups)
      (seeds.filter graph.groups.containsKey) target dn) ?_ ?_ reached
    · intro seed member
      rcases List.mem_filter.mp member with ⟨listed, stored⟩
      rcases (kept seed).mp stored with ⟨other, inside⟩
      exact .seed (List.mem_filter.mpr ⟨listed, inside⟩) other
    · intro here there _ known edge
      rcases mem_parentsIn_iff.mp edge with ⟨group, stored, listed, inside⟩
      rcases (kept there).mp inside with ⟨other, inside⟩
      rw [lookup_filter_ne, if_neg known.ne_barrier] at stored
      exact known.step (mem_parentsIn_iff.mpr ⟨group, stored, listed, inside⟩) other
  · intro apart
    have around := apart.induction (motive := fun dn => dn ≠ target ∧ Reached
      (parentsIn (graph.groups.filter (fun entry => entry.1 ≠ target)))
      (seeds.filter (Closure.containsKey (graph.groups.filter (fun entry => entry.1 ≠ target)))) dn)
      ?_ ?_
    · exact around.2
    · intro seed member other
      rcases List.mem_filter.mp member with ⟨listed, stored⟩
      exact ⟨other, .seed (List.mem_filter.mpr ⟨listed, (kept seed).mpr ⟨other, stored⟩⟩)⟩
    · intro here there known edge other
      rcases mem_parentsIn_iff.mp edge with ⟨group, stored, listed, inside⟩
      refine ⟨other, known.2.step (mem_parentsIn_iff.mpr ⟨group, ?_, listed, ?_⟩)⟩
      · rw [lookup_filter_ne, if_neg known.1]
        exact stored
      · exact (kept there).mpr ⟨other, inside⟩

/-- Without the last edge of its chain the group is entered over another edge of
the principal or from another member. -/
theorem stillReaches_iff :
    StillReaches graph seeds lastHop target ↔ target ∈ seedsWithout graph seeds lastHop target ∨
      ∃ member, target ∈ parentsIn graph.groups member ∧ some member ≠ lastHop ∧
        ∃ chain, ChainOf graph seeds member chain ∧ target ∉ chain := by
  have same : SameElsewhere (parentsIn graph.groups) (parentsWithout graph lastHop target)
      (seeds.filter graph.groups.containsKey) (seedsWithout graph seeds lastHop target)
      target := by
    constructor
    · intro here there other
      rw [parentsWithout, List.mem_filter, decide_eq_true_iff]
      exact and_iff_left (fun cut => other cut.2)
    · intro dn other
      rw [seedsWithout, List.mem_filter, decide_eq_true_iff]
      exact and_iff_left (fun cut => other cut.2)
  rw [StillReaches, reached_target_iff same]
  constructor
  · rintro (seed | ⟨member, edge, apart⟩)
    · exact Or.inl seed
    · rw [parentsWithout, List.mem_filter, decide_eq_true_iff] at edge
      exact Or.inr ⟨member, edge.1, fun last => edge.2 ⟨last, rfl⟩,
        reachedApart_iff_route.mp apart⟩
  · rintro (seed | ⟨member, edge, other, apart⟩)
    · exact Or.inl seed
    · refine Or.inr ⟨member, ?_, reachedApart_iff_route.mpr apart⟩
      rw [parentsWithout, List.mem_filter, decide_eq_true_iff]
      exact ⟨edge, fun cut => other cut.1⟩

/-- The list of further routes means what it says exactly when every direct
member of the group is reached without the group. -/
theorem alsoViaSpec_iff (edge : LastEdge graph seeds lastHop target) :
    AlsoViaSpec graph seeds lastHop target
        (hops graph.groups ((build graph.groups seeds).otherEntries target lastHop)) ↔
      MembersIndependent graph seeds target := by
  constructor
  · intro spec member enters
    rw [reached_without_iff]
    by_cases last : some member = lastHop
    · exact edge.member member last.symm
    · exact spec.apart member enters last
  · intro independent
    refine ⟨fun hop => mem_otherHops_iff, ?_, ?_, ?_⟩
    · intro listed
      rcases List.exists_mem_of_ne_nil _ listed with ⟨hop, inside⟩
      rcases mem_otherHops_iff.mp inside with ⟨member, _, _, enters, other, _⟩
      exact stillReaches_iff.mpr (Or.inr ⟨member, enters, other,
        reached_without_iff.mp (independent member enters)⟩)
    · exact fun member enters _ => reached_without_iff.mp (independent member enters)
    · intro empty reaches
      rcases stillReaches_iff.mp reaches with seed | ⟨member, enters, other, _⟩
      · exact edge.seed seed
      · rcases mem_parentsIn_iff.mp enters with ⟨group, stored, _⟩
        have listed : (⟨group.sid, group.name⟩ : MembershipHop) ∈
            hops graph.groups ((build graph.groups seeds).otherEntries target lastHop) :=
          mem_otherHops_iff.mpr ⟨member, group, stored, enters, other, rfl⟩
        rw [empty] at listed
        cases listed

/-- A group that is one hop away from the principal has a chain of its own; any
other is none of the direct groups of the principal. -/
theorem lastEdge_of_chain {chain : List String}
    (shown : (build graph.groups seeds).chainTo target = some chain) :
    LastEdge graph seeds (chainLastHop chain) target := by
  rcases hopsAt : (build graph.groups seeds).dist.lookup target with _ | hops
  · rw [chainTo_of_unreached hopsAt] at shown
    cases shown
  rcases chainTo_of_dist hopsAt with ⟨same, again, counted, route, once, _⟩
  have chainEq : same = chain := Option.some.inj (again.symm.trans shown)
  rw [chainEq] at counted route once
  rcases List.getLast?_eq_some_iff.mp route.arrives with ⟨front, rfl⟩
  rcases List.eq_nil_or_concat front with rfl | ⟨before, prev, rfl⟩
  · -- The principal itself is the last hop.
    constructor
    · rw [seedsWithout, List.mem_filter, decide_eq_true_iff]
      exact fun kept => kept.2 ⟨rfl, rfl⟩
    · intro prev impossible
      cases impossible
  · rw [List.concat_eq_append, List.append_assoc, List.singleton_append] at counted route once ⊢
    have last : chainLastHop (before ++ [prev, target]) = some prev := by
      simp [chainLastHop]
    rw [last]
    constructor
    · intro seed
      have single : ChainOf graph seeds target [target] :=
        ⟨⟨target, (List.mem_filter.mp seed).1, rfl⟩, List.isChain_singleton target, rfl⟩
      have short := (lookup_dist_iff_isLeast.mp hopsAt).2 ⟨[target], single, rfl⟩
      rw [← counted, List.length_append, List.length_singleton, List.length_cons] at short
      exact absurd short (by simp)
    · intro other same
      cases same
      have nodes : before ++ [prev, target] = (before ++ [prev]) ++ [target] := by simp
      refine ⟨before ++ [prev], ⟨?_, ?_, List.getLast?_concat⟩, ?_⟩
      · rcases route.starts with ⟨seed, member, first⟩
        refine ⟨seed, member, ?_⟩
        rw [nodes, List.head?_append_of_ne_nil _ (by simp)] at first
        exact first
      · have follows := route.follows
        rw [nodes, List.isChain_append] at follows
        exact follows.1
      · rw [nodes, List.nodup_append] at once
        exact fun inside => once.2.2 target inside target (List.mem_singleton_self target) rfl

theorem lastEdge_of_primary : LastEdge graph seeds none target where
  seed := by
    rw [seedsWithout, List.mem_filter, decide_eq_true_iff]
    exact fun kept => kept.2 ⟨rfl, rfl⟩
  member := by
    intro prev impossible
    cases impossible

end RouteTable

/-! ## The memberships of a principal -/

open RouteTable

section Shown

variable (sid : Sid) (principal : RawEntry) (primary : Option (Sid × RawEntry))
  (transitiveGroups pgParents : List RawEntry)

/-- The groups of the token with their direct memberships.  A primary group is
always handed over together with the entry it was found by. -/
def tokenGraph : ClosureGraph where
  groups := tokenClosure sid principal (primary.map (Prod.map id some)) transitiveGroups pgParents
  names_distinct := (tokenClosure_spec sid principal _ transitiveGroups pgParents).1

/-- The direct groups of the principal. -/
def tokenSeeds : List String := seedKeys principal (primary.map Prod.snd)

/-- A membership, the group it shows a chain to and the group before it on that
chain. -/
inductive ShownRoute (graph : ClosureGraph) (seeds : List String) :
    GroupMembership → String → Option String → Prop where
  | primary {groupSid : Sid} {entry : RawEntry} (given : primary = some (groupSid, entry)) :
      ShownRoute graph seeds (primaryMembership sid principal (groupSid, some entry) graph.groups
        (build graph.groups seeds)) entry.key none
  | member {dn : String} {group : ClosureGroup} {chain : List String}
      (shown : (build graph.groups seeds).chainTo dn = some chain) :
      ShownRoute graph seeds (closureMembership sid principal graph.groups
        (build graph.groups seeds) (dn, group)) dn (chainLastHop chain)

end Shown

section Paths

variable {sid : Sid} {principal : RawEntry} {closure : Closure} {routes : RouteTable} {dn : String}
  {group : ClosureGroup}

theorem exists_chain_of_complete
    (complete : (membershipPath sid principal closure routes dn group).complete = true) :
    ∃ chain, routes.chainTo dn = some chain := by
  rw [membershipPath] at complete
  cases found : routes.chainTo dn with
  | none =>
      rw [found] at complete
      cases complete
  | some chain => exact ⟨chain, rfl⟩

theorem membershipPath_alsoVia {chain : List String} (shown : routes.chainTo dn = some chain) :
    (membershipPath sid principal closure routes dn group).alsoVia =
      hops closure (routes.otherEntries dn (chainLastHop chain)) := by
  rw [membershipPath, shown]
  rfl

/-- What the list of further routes of a shown route means. -/
theorem ShownRoute.alsoViaSpec_iff {primary : Option (Sid × RawEntry)} {graph : ClosureGraph}
    {seeds : List String} {membership : GroupMembership} {target : String} {lastHop : Option String}
    {path : MembershipPath}
    (route : ShownRoute sid principal primary graph seeds membership target lastHop)
    (found : membership.path = some path) :
    AlsoViaSpec graph seeds lastHop target path.alsoVia ↔
      MembersIndependent graph seeds target := by
  cases route with
  | primary given =>
      cases found
      exact RouteTable.alsoViaSpec_iff lastEdge_of_primary
  | member shown =>
      cases found
      rw [membershipPath_alsoVia shown]
      exact RouteTable.alsoViaSpec_iff (lastEdge_of_chain shown)

end Paths

/-- A membership of the assembly belongs to the primary group or to a group of the
token. -/
theorem mem_assemble_cases {toLowercase : String → String} {primary : Option (Sid × RawEntry)}
    {transitiveGroups pgParents : List RawEntry} {graph : ClosureGraph} {seeds : List String}
    {membership : GroupMembership}
    (graphEq : tokenGraph sid principal primary transitiveGroups pgParents = graph)
    (seedsEq : tokenSeeds principal primary = seeds)
    (member : membership ∈ (assembleMemberships toLowercase sid principal
      (primary.map (Prod.map id some)) transitiveGroups pgParents).memberships) :
    (∃ groupSid entry, primary = some (groupSid, entry) ∧
      membership = primaryMembership sid principal (groupSid, some entry) graph.groups
        (build graph.groups seeds)) ∨
      ∃ dn group, membership = closureMembership sid principal graph.groups
        (build graph.groups seeds) (dn, group) := by
  have seedKeysEq :
      seedKeys principal ((primary.map (Prod.map id some)).bind Prod.snd) = seeds := by
    rw [← seedsEq]
    cases primary <;> rfl
  have groupsEq : keptClosure (collectClosure sid (returnedEntries transitiveGroups pgParents
      ((primary.map (Prod.map id some)).bind Prod.snd))).1 seeds = graph.groups := by
    rw [← graphEq, ← seedKeysEq]
    rfl
  rw [assembleMemberships] at member
  simp only [seedKeysEq, groupsEq] at member
  rcases List.mem_append.mp member with atPrimary | atRest
  · cases primary with
    | none => cases atPrimary
    | some given =>
        rw [Option.map_some] at atPrimary
        dsimp only at atPrimary
        split at atPrimary
        · exact Or.inl ⟨given.1, given.2, rfl, List.mem_singleton.mp atPrimary⟩
        · cases atPrimary
  · rcases List.mem_map.mp atRest with ⟨⟨dn, group⟩, _, same⟩
    exact Or.inr ⟨dn, group, same.symm⟩

/-- Every membership with certain hops shows a route, and its list of further
routes means what it says exactly when every direct member of the group is
reached without the group. -/
theorem alsoVia_means_iff (toLowercase : String → String) (sid : Sid) (principal : RawEntry)
    (primary : Option (Sid × RawEntry)) (transitiveGroups pgParents : List RawEntry) :
    ∀ membership ∈ (assembleMemberships toLowercase sid principal
        (primary.map (Prod.map id some)) transitiveGroups pgParents).memberships,
      ∀ path, membership.path = some path → path.complete = true →
        (∃ target lastHop, ShownRoute sid principal primary
          (tokenGraph sid principal primary transitiveGroups pgParents)
          (tokenSeeds principal primary) membership target lastHop) ∧
        ∀ target lastHop, ShownRoute sid principal primary
            (tokenGraph sid principal primary transitiveGroups pgParents)
            (tokenSeeds principal primary) membership target lastHop →
          (AlsoViaSpec (tokenGraph sid principal primary transitiveGroups pgParents)
              (tokenSeeds principal primary) lastHop target path.alsoVia ↔
            MembersIndependent (tokenGraph sid principal primary transitiveGroups pgParents)
              (tokenSeeds principal primary) target) := by
  intro membership member path found complete
  generalize graphEq : tokenGraph sid principal primary transitiveGroups pgParents = graph
  generalize seedsEq : tokenSeeds principal primary = seeds
  constructor
  · rcases mem_assemble_cases graphEq seedsEq member with ⟨_, entry, given, rfl⟩ | ⟨dn, _, rfl⟩
    · exact ⟨entry.key, none, .primary given⟩
    · cases found
      rcases exists_chain_of_complete complete with ⟨chain, shown⟩
      exact ⟨dn, chainLastHop chain, .member shown⟩
  · exact fun target lastHop route => route.alsoViaSpec_iff found

/-! ## A group nested into its own member -/

/-- A group with a member it is itself a member of. -/
def projectEntry : RawEntry where
  dn := "CN=Project,DC=x"
  attrs := [("groupType", ["-2147483646"]), ("memberOf", ["CN=Review,DC=x"])]
  binAttrs := [("objectSid", [domainSidBytes 176 4])]

def reviewEntry : RawEntry where
  dn := "CN=Review,DC=x"
  attrs := [("groupType", ["-2147483646"]), ("memberOf", ["CN=Project,DC=x"])]
  binAttrs := [("objectSid", [domainSidBytes 177 4])]

/-- A principal that is in the project group alone. -/
def projectMember : RawEntry where
  dn := "CN=Anna,DC=x"
  attrs := [("memberOf", ["CN=Project,DC=x"])]

/-- The assembled membership in the project group. -/
def projectMembership : GroupMembership where
  memberSid := ⟨"S-1-5-21-1-2-3-1105"⟩
  groupSid := ⟨"S-1-5-21-1-2-3-1200"⟩
  direct := true
  path := some
    { nodes := [⟨"S-1-5-21-1-2-3-1105"⟩, ⟨"S-1-5-21-1-2-3-1200"⟩]
      names := [none, none]
      source := .domainGroup
      complete := true
      alsoVia := [⟨⟨"S-1-5-21-1-2-3-1201"⟩, none⟩] }

def projectGraph : ClosureGraph :=
  tokenGraph ⟨"S-1-5-21-1-2-3-1105"⟩ projectMember none [projectEntry, reviewEntry] []

def projectSeeds : List String := tokenSeeds projectMember none

theorem projectMembership_assembled :
    projectMembership ∈ (assembleMemberships Text.toAsciiLowercase ⟨"S-1-5-21-1-2-3-1105"⟩
      projectMember none [projectEntry, reviewEntry] []).memberships := by
  decide

theorem projectMembership_shown :
    ShownRoute ⟨"S-1-5-21-1-2-3-1105"⟩ projectMember none projectGraph projectSeeds
      projectMembership "cn=project,dc=x" none := by
  have chain : (build projectGraph.groups projectSeeds).chainTo "cn=project,dc=x" =
      some ["cn=project,dc=x"] := by
    decide
  have same : closureMembership ⟨"S-1-5-21-1-2-3-1105"⟩ projectMember projectGraph.groups
      (build projectGraph.groups projectSeeds)
      ("cn=project,dc=x", closureGroup projectEntry false ⟨"S-1-5-21-1-2-3-1200"⟩) =
        projectMembership := by
    decide
  rw [← same]
  exact .member chain

theorem alsoVia_means_iff_project :
    (∃ target lastHop, ShownRoute ⟨"S-1-5-21-1-2-3-1105"⟩ projectMember none projectGraph
      projectSeeds projectMembership target lastHop) ∧
      ∀ path, projectMembership.path = some path →
        (AlsoViaSpec projectGraph projectSeeds none "cn=project,dc=x" path.alsoVia ↔
          MembersIndependent projectGraph projectSeeds "cn=project,dc=x") := by
  have means := alsoVia_means_iff Text.toAsciiLowercase ⟨"S-1-5-21-1-2-3-1105"⟩ projectMember none
    [projectEntry, reviewEntry] [] projectMembership projectMembership_assembled
  constructor
  · exact (means _ rfl rfl).1
  · intro path found
    cases found
    exact (means _ rfl rfl).2 _ _ projectMembership_shown

/-- The principal is in the project group over that one membership, yet the group
it contains is listed as a further route: the list is not empty, and without the
edge shown the project group is not reached at all. -/
theorem projectMembership_no_further_route :
    projectMembership ∈ (assembleMemberships Text.toAsciiLowercase ⟨"S-1-5-21-1-2-3-1105"⟩
      projectMember none [projectEntry, reviewEntry] []).memberships ∧
    ShownRoute ⟨"S-1-5-21-1-2-3-1105"⟩ projectMember none projectGraph projectSeeds
      projectMembership "cn=project,dc=x" none ∧
    ∃ path, projectMembership.path = some path ∧ path.complete = true ∧ path.alsoVia ≠ [] ∧
      ¬StillReaches projectGraph projectSeeds none "cn=project,dc=x" ∧
      ¬AlsoViaSpec projectGraph projectSeeds none "cn=project,dc=x" path.alsoVia := by
  have only : seedsWithout projectGraph projectSeeds none "cn=project,dc=x" = [] := by
    decide
  have lost : ¬StillReaches projectGraph projectSeeds none "cn=project,dc=x" := by
    rw [StillReaches, only]
    intro reached
    refine Reached.induction (motive := fun _ => False) ?_ ?_ reached
    · intro seed member
      cases member
    · exact fun _ _ _ impossible _ => impossible
  refine ⟨projectMembership_assembled, projectMembership_shown, _, rfl, rfl,
    List.cons_ne_nil _ _, lost, ?_⟩
  exact fun spec => lost (spec.keeps (List.cons_ne_nil _ _))

end AdResolver
end Stars
