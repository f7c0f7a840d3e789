import Stars.AdResolver.Reachability
import Stars.AdResolver.Reordering
import Stars.Graph.Distances

namespace Stars
namespace AdResolver

open Collections Stars.Graph
open Stars.Order (find?_least)

/-!
# Membership chains are shortest routes

The route table stores the distance of each group and its chosen predecessor.
A predecessor always exists, because a shortest chain enters a group from one
exactly one hop closer; so the walk back from a group reaches a seed after as
many groups as its distance says.  The distances along the walk are all
different, no group is met twice, and the guard on the length of the chain is
never reached.

The nodes of a membership path are the SIDs of the groups of such a chain.  The
closure is keyed by distinguished name, and nothing keeps two of its groups from
carrying one SID.
-/

/-- The closure of a principal: its groups under distinct names. -/
structure ClosureGraph where
  groups : Closure
  names_distinct : (groups.map Prod.fst).Nodup

namespace RouteTable

/-- A chain of direct memberships inside the closure, from a seed to a group. -/
abbrev ChainOf (graph : ClosureGraph) (seeds : List String) (dn : String) (chain : List String) :
    Prop :=
  Route (parentsIn graph.groups) (seeds.filter graph.groups.containsKey) dn chain

/-- A direct member of a group that is exactly one hop closer. -/
def Closer (graph : ClosureGraph) (table : RouteTable) (member dn : String) : Prop :=
  dn ∈ parentsIn graph.groups member ∧
    ∃ hops, table.dist.lookup member = some hops ∧ table.dist.lookup dn = some (hops + 1)

/-- The first of these by name. -/
def FirstCloser (graph : ClosureGraph) (table : RouteTable) (member dn : String) : Prop :=
  Closer graph table member dn ∧
    ∀ other, Closer graph table other dn → textLe member other = true

/-- The states of the loop of `chainTo`: the chain built so far and the group it
has come to. -/
inductive Loop (table : RouteTable) (target : String) : List String → String → Prop where
  | start : Loop table target [target] target
  | back {chain : List String} {current prev : String} (before : Loop table target chain current)
      (chosen : table.pred.lookup current = some (some prev)) :
      Loop table target (prev :: chain) prev

theorem mem_parentsIn_iff {closure : Closure} {member dn : String} :
    dn ∈ parentsIn closure member ↔
      ∃ group, closure.lookup member = some group ∧ dn ∈ group.parents ∧
        closure.containsKey dn = true := by
  rw [parentsIn]
  cases found : closure.lookup member with
  | none =>
      constructor
      · intro impossible
        cases impossible
      · rintro ⟨_, impossible, _⟩
        cases impossible
  | some group =>
      constructor
      · intro inside
        exact ⟨group, rfl, List.mem_filter.mp inside⟩
      · rintro ⟨_, same, inside⟩
        cases same
        exact List.mem_filter.mpr inside

theorem mem_of_reached {graph : ClosureGraph} {seeds : List String} (dn : String)
    (reached : Reached (parentsIn graph.groups) (seeds.filter graph.groups.containsKey) dn) :
    dn ∈ graph.groups.map Prod.fst := by
  refine Reached.induction (motive := fun dn => dn ∈ graph.groups.map Prod.fst) ?_ ?_ reached
  · intro seed member
    exact (lookup_isSome_iff_mem graph.groups).mp (List.mem_filter.mp member).2
  · exact fun here there _ _ edge => parentsIn_subset graph.groups edge

variable {graph : ClosureGraph} {seeds : List String} {dn : String}

/-- The stored hops are one more than the edges of a shortest chain. -/
theorem lookup_dist_iff {hops : Nat} :
    (build graph.groups seeds).dist.lookup dn = some hops ↔
      ∃ edges, hops = edges + 1 ∧
        Distance (parentsIn graph.groups) (seeds.filter graph.groups.containsKey) edges dn := by
  refine (lookup_bfs_iff (graph.groups.map Prod.fst) mem_of_reached ?_ dn hops).trans ?_
  · rw [List.length_map]
  · constructor
    · rintro ⟨edges, counted, distance⟩
      exact ⟨edges, by omega, distance⟩
    · rintro ⟨edges, counted, distance⟩
      exact ⟨edges, by omega, distance⟩

/-- The stored hops are the number of groups of a shortest chain. -/
theorem lookup_dist_iff_isLeast {hops : Nat} :
    (build graph.groups seeds).dist.lookup dn = some hops ↔
      IsLeast {count | ∃ chain, ChainOf graph seeds dn chain ∧ chain.length = count} hops := by
  rw [lookup_dist_iff]
  constructor
  · rintro ⟨edges, rfl, distance⟩
    exact distance_iff_route.mp distance
  · intro least
    rcases least.1 with ⟨chain, route, counted⟩
    rcases route.reachedIn with ⟨edges, length, _⟩
    have same : hops = edges + 1 := counted.symm.trans length
    rw [same] at least
    exact ⟨edges, same, distance_iff_route.mpr least⟩

theorem mem_childrenIn_iff {closure : Closure} (distinct : (closure.map Prod.fst).Nodup)
    {member dn : String} :
    member ∈ childrenIn closure dn ↔
      ∃ group, closure.lookup member = some group ∧ dn ∈ group.parents := by
  rw [childrenIn, mem_orderedSet, List.mem_map]
  constructor
  · rintro ⟨⟨_, group⟩, inside, rfl⟩
    rcases List.mem_filter.mp inside with ⟨stored, listed⟩
    exact ⟨group, (lookup_eq_some_iff_mem distinct).mpr stored, List.contains_iff_mem.mp listed⟩
  · rintro ⟨group, found, listed⟩
    exact ⟨(member, group), List.mem_filter.mpr
      ⟨mem_of_lookup found, List.contains_iff_mem.mpr listed⟩, rfl⟩

theorem childrenIn_sorted (closure : Closure) (dn : String) :
    (childrenIn closure dn).Pairwise (fun left right => textLe left right = true) := by
  rw [childrenIn, orderedSet]
  exact List.pairwise_insertionSort (fun left right : String => textLe (id left) (id right) = true) _

/-- The reverse edges store the members of each group that has any. -/
theorem lookup_children (contained : graph.groups.containsKey dn = true) :
    (build graph.groups seeds).children.lookup dn =
      if (childrenIn graph.groups dn).isEmpty then none else some (childrenIn graph.groups dn) := by
  have shape : (build graph.groups seeds).children = graph.groups.filterMap (fun entry =>
      ((fun name => if (childrenIn graph.groups name).isEmpty then none
        else some (childrenIn graph.groups name)) entry.1).map (Prod.mk entry.1)) := by
    rw [build]
    refine congrArg (fun step => List.filterMap step graph.groups) ?_
    funext entry
    dsimp only
    split <;> rfl
  rw [shape]
  exact lookup_filterMap_keys (fun name => if (childrenIn graph.groups name).isEmpty then none
    else some (childrenIn graph.groups name)) _
      ((lookup_isSome_iff_mem graph.groups).mp contained)

theorem find?_children (contained : graph.groups.containsKey dn = true) (hit : String → Bool) :
    ((build graph.groups seeds).children.lookup dn).bind (fun kids => kids.find? hit) =
      (childrenIn graph.groups dn).find? hit := by
  rw [lookup_children contained]
  cases kids : childrenIn graph.groups dn with
  | nil => rfl
  | cons first rest => rfl

theorem lookup_pred :
    (build graph.groups seeds).pred.lookup dn =
      ((build graph.groups seeds).dist.lookup dn).map (fun hops =>
        choosePred (build graph.groups seeds).children (build graph.groups seeds).dist dn hops) :=
  lookup_mapValue _ _ dn

theorem containsKey_of_dist {hops : Nat}
    (stored : (build graph.groups seeds).dist.lookup dn = some hops) :
    graph.groups.containsKey dn = true := by
  rcases lookup_dist_iff.mp stored with ⟨_, _, distance⟩
  exact (lookup_isSome_iff_mem graph.groups).mpr (mem_of_reached dn distance.1.reached)

theorem mem_childrenIn_iff_edge (contained : graph.groups.containsKey dn = true) {member : String} :
    member ∈ childrenIn graph.groups dn ↔ dn ∈ parentsIn graph.groups member := by
  rw [mem_childrenIn_iff graph.names_distinct, mem_parentsIn_iff]
  constructor
  · rintro ⟨group, found, listed⟩
    exact ⟨group, found, listed, contained⟩
  · rintro ⟨group, found, listed, _⟩
    exact ⟨group, found, listed⟩

theorem pred_of_seed (stored : (build graph.groups seeds).dist.lookup dn = some 1) :
    (build graph.groups seeds).pred.lookup dn = some none := by
  rw [lookup_pred, stored, Option.map_some, choosePred, if_pos rfl]

/-- A group beyond the seeds has a predecessor one hop closer: the first of its
members at that distance. -/
theorem exists_pred {hops : Nat}
    (stored : (build graph.groups seeds).dist.lookup dn = some (hops + 2)) :
    ∃ prev, (build graph.groups seeds).pred.lookup dn = some (some prev) ∧
      (build graph.groups seeds).dist.lookup prev = some (hops + 1) ∧
      FirstCloser graph (build graph.groups seeds) prev dn := by
  have contained := containsKey_of_dist stored
  have hitIff : ∀ member, ((build graph.groups seeds).dist.lookup member == some (hops + 2 - 1)) =
      true ↔ (build graph.groups seeds).dist.lookup member = some (hops + 1) :=
    fun member => beq_iff_eq
  rcases lookup_dist_iff.mp stored with ⟨edges, counted, distance⟩
  have counted : edges = hops + 1 := by omega
  rw [counted] at distance
  rcases distance.exists_closer with ⟨member, shorter, edge⟩
  have closer : (build graph.groups seeds).dist.lookup member = some (hops + 1) :=
    lookup_dist_iff.mpr ⟨hops, rfl, shorter⟩
  have some_hit : ((childrenIn graph.groups dn).find? (fun kid =>
      (build graph.groups seeds).dist.lookup kid == some (hops + 2 - 1))).isSome = true := by
    rw [List.find?_isSome]
    exact ⟨member, (mem_childrenIn_iff_edge contained).mpr edge, (hitIff member).mpr closer⟩
  rcases Option.isSome_iff_exists.mp some_hit with ⟨prev, found⟩
  have atPrev := (hitIff prev).mp (List.find?_eq_some_iff_append.mp found).1
  have listed := List.mem_of_find?_eq_some found
  refine ⟨prev, ?_, atPrev, ⟨(mem_childrenIn_iff_edge contained).mp listed, _, atPrev, stored⟩, ?_⟩
  · rw [lookup_pred, stored, Option.map_some, choosePred, if_neg (by omega),
      find?_children contained, found]
  · rintro other ⟨otherEdge, otherHops, atOther, again⟩
    have same : otherHops + 1 = hops + 2 := Option.some.inj (again.symm.trans stored)
    have atOther : (build graph.groups seeds).dist.lookup other = some (hops + 1) := by
      rw [atOther]
      exact congrArg some (by omega)
    apply find?_least _ (childrenIn_sorted graph.groups dn) found
      ((mem_childrenIn_iff_edge contained).mpr otherEdge) ((hitIff other).mpr atOther)
    exact (textLe_total prev prev).elim id id

/-- The chosen predecessors lead from a group back over the given groups to a
seed. -/
inductive LedBy (table : RouteTable) : List String → String → Prop where
  | seed {dn : String} (first : table.pred.lookup dn = some none) : LedBy table [] dn
  | member {front : List String} {prev dn : String} (before : LedBy table front prev)
      (chosen : table.pred.lookup dn = some (some prev)) : LedBy table (front ++ [prev]) dn

/-- The chain that `chainTo` returns: the groups on it stand at the distances
from one to that of the target, so that none stands there twice. -/
theorem exists_ledBy {hops : Nat} :
    ∀ {dn : String}, (build graph.groups seeds).dist.lookup dn = some (hops + 1) →
      ∃ front, LedBy (build graph.groups seeds) front dn ∧
        (front ++ [dn]).map (fun group => (build graph.groups seeds).dist.lookup group) =
          (List.range' 1 (hops + 1)).map some ∧
        ChainOf graph seeds dn (front ++ [dn]) ∧
        (front ++ [dn]).IsChain (FirstCloser graph (build graph.groups seeds)) := by
  induction hops with
  | zero =>
      intro dn stored
      refine ⟨[], .seed (pred_of_seed stored), by simp [stored], ?_, List.isChain_singleton dn⟩
      rcases lookup_dist_iff.mp stored with ⟨edges, counted, distance⟩
      have start : edges = 0 := by omega
      rw [start] at distance
      cases distance.1 with
      | seed member => exact ⟨⟨dn, member, rfl⟩, List.isChain_singleton dn, rfl⟩
  | succ hops known =>
      intro dn stored
      rcases exists_pred stored with ⟨prev, chosen, closer, first⟩
      rcases known closer with ⟨front, led, distances, route, firsts⟩
      refine ⟨front ++ [prev], .member led chosen, ?_, route.snoc first.1.1, ?_⟩
      · have longer : List.range' 1 (hops + 1 + 1) = List.range' 1 (hops + 1) ++ [hops + 1 + 1] := by
          rw [List.range'_1_concat, Nat.add_comm 1 (hops + 1)]
        rw [List.map_append, distances, longer, List.map_append, List.map_singleton,
          List.map_singleton, stored]
      · rw [List.isChain_append]
        refine ⟨firsts, List.isChain_singleton dn, ?_⟩
        intro last atEnd start atStart
        rw [List.getLast?_concat, Option.mem_some] at atEnd
        rw [List.head?_cons, Option.mem_some] at atStart
        rw [← atEnd, ← atStart]
        exact first

/-- The walk back follows the chosen predecessors, as long as the table allows
a chain of that length. -/
theorem chainFrom_of_ledBy {table : RouteTable} {front : List String} {current : String}
    (led : LedBy table front current) :
    ∀ (fuel : Nat) (chain : List String), front.length < fuel →
      front.length + chain.length ≤ table.dist.length + 1 →
      chainFrom table fuel chain current = some (front ++ chain) := by
  induction led with
  | seed first =>
      intro fuel chain enough _
      cases fuel with
      | zero => cases enough
      | succ fuel => rw [chainFrom, first, List.nil_append]
  | @member front prev dn _ chosen known =>
      intro fuel chain enough short
      rw [List.length_append, List.length_singleton] at enough short
      cases fuel with
      | zero => cases enough
      | succ fuel =>
          have allowed : ¬table.dist.length < chain.length := by omega
          have further := known fuel (prev :: chain) (by omega)
            (by rw [List.length_cons]; omega)
          rw [chainFrom, chosen]
          simp only [gt_iff_lt, if_neg allowed]
          rw [further, List.append_assoc, List.singleton_append]

/-- What the walk back returns does not depend on the number of steps it is
given: with one more step than the table has entries the guard ends it before. -/
theorem chainFrom_eq_of_enough {table : RouteTable} (fuel : Nat) :
    ∀ (more : Nat) (chain : List String) (current : String),
      table.dist.length + 2 ≤ fuel + chain.length → chain.length ≤ table.dist.length + 1 →
      fuel ≤ more → chainFrom table more chain current = chainFrom table fuel chain current := by
  induction fuel with
  | zero =>
      intro more chain current enough allowed _
      omega
  | succ fuel known =>
      intro more chain current enough allowed order
      cases more with
      | zero => cases order
      | succ more =>
          rw [chainFrom, chainFrom]
          cases table.pred.lookup current with
          | none => rfl
          | some chosen =>
              cases chosen with
              | none => rfl
              | some prev =>
                  by_cases long : chain.length > table.dist.length
                  · simp only [if_pos long]
                  · simp only [if_neg long]
                    apply known
                    · rw [List.length_cons]
                      omega
                    · rw [List.length_cons]
                      omega
                    · exact Nat.le_of_succ_le_succ order

theorem nodup_of_distances {chain : List String} {table : RouteTable} {hops : Nat}
    (distances : chain.map (fun group => table.dist.lookup group) =
      (List.range' 1 hops).map some) : chain.Nodup := by
  apply List.Nodup.of_map (fun group => table.dist.lookup group)
  rw [distances]
  exact List.Nodup.map (Option.some_injective Nat) List.nodup_range'

/-- A chain of different groups of the table is not longer than the table. -/
theorem hops_le_length {chain : List String} {table : RouteTable} {hops : Nat}
    (distances : chain.map (fun group => table.dist.lookup group) =
      (List.range' 1 hops).map some) : hops ≤ table.dist.length := by
  have counted : chain.length = hops := by
    have lengths := congrArg List.length distances
    rw [List.length_map, List.length_map, List.length_range'] at lengths
    exact lengths
  have inside : chain ⊆ table.dist.map Prod.fst := by
    intro group member
    rw [← lookup_isSome_iff_mem]
    have listed : table.dist.lookup group ∈ (List.range' 1 hops).map some :=
      distances ▸ List.mem_map_of_mem member
    rcases List.mem_map.mp listed with ⟨distance, _, found⟩
    rw [← found]
    rfl
  have short := (List.subperm_of_subset (nodup_of_distances distances) inside).length_le
  rw [counted, List.length_map] at short
  exact short

/-- The walk back from a group ends with a chain of as many groups as its
distance. -/
theorem chainTo_of_dist {hops : Nat}
    (stored : (build graph.groups seeds).dist.lookup dn = some hops) :
    ∃ chain, (build graph.groups seeds).chainTo dn = some chain ∧ chain.length = hops ∧
      ChainOf graph seeds dn chain ∧ chain.Nodup ∧
      chain.IsChain (FirstCloser graph (build graph.groups seeds)) := by
  rcases lookup_dist_iff.mp stored with ⟨edges, rfl, _⟩
  rcases exists_ledBy stored with ⟨front, led, distances, route, firsts⟩
  have counted : (front ++ [dn]).length = edges + 1 := by
    have lengths := congrArg List.length distances
    rw [List.length_map, List.length_map, List.length_range'] at lengths
    exact lengths
  have short := hops_le_length distances
  have length : front.length = edges := by
    rw [List.length_append, List.length_singleton] at counted
    omega
  refine ⟨front ++ [dn], ?_, counted, route, nodup_of_distances distances, firsts⟩
  rw [chainTo]
  apply chainFrom_of_ledBy led
  · omega
  · rw [List.length_singleton]
    omega

theorem chainTo_of_unreached (unreached : (build graph.groups seeds).dist.lookup dn = none) :
    (build graph.groups seeds).chainTo dn = none := by
  rw [chainTo, chainFrom, lookup_pred, unreached]
  rfl

/-- In each state of the walk the groups of the chain and the distance of the
current group make up the distance of the target. -/
theorem Loop.spec {target current : String} {chain : List String} {hops : Nat}
    (stored : (build graph.groups seeds).dist.lookup target = some hops)
    (state : Loop (build graph.groups seeds) target chain current) :
    ∃ left, (build graph.groups seeds).dist.lookup current = some (left + 1) ∧
      chain.length + left = hops := by
  induction state with
  | start =>
      rcases lookup_dist_iff.mp stored with ⟨edges, rfl, _⟩
      exact ⟨edges, stored, Nat.add_comm 1 edges⟩
  | @back chain current prev _ chosen known =>
      rcases known with ⟨left, atCurrent, counted⟩
      cases left with
      | zero =>
          rw [pred_of_seed atCurrent] at chosen
          cases chosen
      | succ left =>
          rcases exists_pred atCurrent with ⟨other, again, closer, _⟩
          have same : prev = other := by
            rw [chosen] at again
            exact Option.some.inj (Option.some.inj again)
          refine ⟨left, same ▸ closer, ?_⟩
          rw [List.length_cons]
          omega

/-- The walk from a group that was not reached makes no step. -/
theorem Loop.eq_target {target current : String} {chain : List String}
    (unreached : (build graph.groups seeds).dist.lookup target = none)
    (state : Loop (build graph.groups seeds) target chain current) : current = target := by
  induction state with
  | start => rfl
  | back _ chosen known =>
      rw [known, lookup_pred, unreached] at chosen
      cases chosen

/-- The guard on the length of the chain never ends the walk. -/
theorem Loop.allowed {target current prev : String} {chain : List String}
    (state : Loop (build graph.groups seeds) target chain current)
    (chosen : (build graph.groups seeds).pred.lookup current = some (some prev)) :
    chain.length ≤ (build graph.groups seeds).dist.length := by
  cases stored : (build graph.groups seeds).dist.lookup target with
  | none =>
      rw [state.eq_target stored, lookup_pred, stored] at chosen
      cases chosen
  | some hops =>
      rcases state.spec stored with ⟨left, _, counted⟩
      rcases lookup_dist_iff.mp stored with ⟨edges, rfl, _⟩
      rcases exists_ledBy stored with ⟨_, _, distances, _⟩
      have short := hops_le_length distances
      omega

end RouteTable

/-- The groups that stay in the token, as the assembly collects them. -/
def tokenClosure (sid : Sid) (principal : RawEntry) (primary : Option (Sid × Option RawEntry))
    (transitiveGroups pgParents : List RawEntry) : Closure :=
  keptClosure
    (collectClosure sid (returnedEntries transitiveGroups pgParents (primary.bind Prod.snd))).1
    (seedKeys principal (primary.bind Prod.snd))

/-- A path of an assembled membership with certain hops: it leads from the
principal to the group over groups of the closure, none of them twice. -/
structure PathSpec (sid : Sid) (closure : Closure) (membership : GroupMembership)
    (path : MembershipPath) : Prop where
  principal_first : path.nodes.head? = some sid
  group_last : path.nodes.getLast? = some membership.groupSid
  principal_once : sid ∉ path.nodes.tail
  groups_once : path.nodes.tail = [membership.groupSid] ∨
    ∃ groups : List (String × ClosureGroup), groups ⊆ closure ∧ (groups.map Prod.fst).Nodup ∧
      path.nodes.tail = groups.map (fun entry => entry.2.sid)
  sids_distinct : (closure.map (fun entry => entry.2.sid)).Nodup → path.nodes.Nodup

section Paths

variable {sid : Sid} {closure : Closure} {membership : GroupMembership} {path : MembershipPath}

theorem collectClosure_spec (sid : Sid) (returned : List (RawEntry × Bool)) :
    ((collectClosure sid returned).1.map Prod.fst).Nodup ∧
      ∀ entry ∈ (collectClosure sid returned).1, entry.2.sid ≠ sid := by
  rcases collect_spec sid returned [] [] List.nodup_nil with ⟨fresh, rest, runEq, collected⟩
  have sorted : (collectClosure sid returned).1.Perm fresh := by
    rw [collectClosure, runEq, List.nil_append]
    exact List.perm_insertionSort _ fresh
  constructor
  · rw [(sorted.map Prod.fst).nodup_iff]
    exact collected.distinct
  · rintro ⟨dn, group⟩ member
    rcases collected.stored dn group (sorted.mem_iff.mp member) with ⟨_, _, _, apart, _⟩
    exact apart

theorem tokenClosure_spec (sid : Sid) (principal : RawEntry)
    (primary : Option (Sid × Option RawEntry)) (transitiveGroups pgParents : List RawEntry) :
    ((tokenClosure sid principal primary transitiveGroups pgParents).map Prod.fst).Nodup ∧
      ∀ entry ∈ tokenClosure sid principal primary transitiveGroups pgParents,
        entry.2.sid ≠ sid := by
  have collected := collectClosure_spec sid
    (returnedEntries transitiveGroups pgParents (primary.bind Prod.snd))
  constructor
  · apply collected.1.sublist (List.Sublist.map Prod.fst _)
    exact List.filter_sublist.trans List.filter_sublist
  · intro entry member
    exact collected.2 entry (List.mem_filter.mp (List.mem_filter.mp member).1).1

/-- A path whose nodes after the principal are the groups of a chain. -/
theorem pathSpec_of_groups (apart : ∀ entry ∈ closure, entry.2.sid ≠ sid)
    (groups : List (String × ClosureGroup)) (inside : groups ⊆ closure)
    (distinct : (groups.map Prod.fst).Nodup)
    (nodes : path.nodes = sid :: groups.map (fun entry => entry.2.sid))
    (last : (groups.map (fun entry => entry.2.sid)).getLast? = some membership.groupSid) :
    PathSpec sid closure membership path where
  principal_first := by rw [nodes, List.head?_cons]
  group_last := by
    rw [nodes, List.getLast?_cons, last]
    rfl
  principal_once := by
    rw [nodes, List.tail_cons, List.mem_map]
    rintro ⟨entry, member, same⟩
    exact apart entry (inside member) same
  groups_once := Or.inr ⟨groups, inside, distinct, by rw [nodes, List.tail_cons]⟩
  sids_distinct := by
    intro unique
    rw [nodes, List.nodup_cons]
    constructor
    · rw [List.mem_map]
      rintro ⟨entry, member, same⟩
      exact apart entry (inside member) same
    · apply List.Nodup.map_on _ distinct.of_map
      intro left leftMem right rightMem same
      exact List.inj_on_of_nodup_map unique (inside leftMem) (inside rightMem) same

/-- The groups of a chain, each with its name. -/
def chainGroups (closure : Closure) (chain : List String) : List (String × ClosureGroup) :=
  chain.filterMap (fun dn => (closure.lookup dn).map (Prod.mk dn))

theorem chainGroups_subset (chain : List String) : chainGroups closure chain ⊆ closure := by
  intro entry member
  rcases List.mem_filterMap.mp member with ⟨dn, _, found⟩
  rcases Option.map_eq_some_iff.mp found with ⟨group, stored, rfl⟩
  exact mem_of_lookup stored

theorem chainGroups_nodup {chain : List String} (distinct : chain.Nodup) :
    ((chainGroups closure chain).map Prod.fst).Nodup := by
  have listed : ((chainGroups closure chain).map Prod.fst).Sublist (chain.map id) := by
    apply map_filterMap_sublist_of_mem
    intro dn _ entry found
    rcases Option.map_eq_some_iff.mp found with ⟨group, _, rfl⟩
    rfl
  rw [List.map_id] at listed
  exact distinct.sublist listed

theorem chainGroups_sids (chain : List String) :
    (chainGroups closure chain).map (fun entry => entry.2.sid) =
      (chain.filterMap (fun hop => closure.lookup hop)).map ClosureGroup.sid := by
  rw [chainGroups, List.map_filterMap, List.map_filterMap]
  apply List.filterMap_congr
  intro dn _
  cases closure.lookup dn with
  | none => rfl
  | some group => rfl

/-- The path of a closure group whose hops are certain. -/
theorem closureMembership_path {principal : RawEntry} {seeds : List String} {dn : String}
    {group : ClosureGroup} (distinct : (closure.map Prod.fst).Nodup)
    (apart : ∀ entry ∈ closure, entry.2.sid ≠ sid) (stored : (dn, group) ∈ closure)
    (complete : (membershipPath sid principal closure (RouteTable.build closure seeds) dn
      group).complete = true) :
    PathSpec sid closure
      (closureMembership sid principal closure (RouteTable.build closure seeds) (dn, group))
      (membershipPath sid principal closure (RouteTable.build closure seeds) dn group) := by
  rw [membershipPath] at complete ⊢
  cases found : (RouteTable.build closure seeds).chainTo dn with
  | none =>
      rw [found] at complete
      cases complete
  | some chain =>
      let graph : ClosureGraph := ⟨closure, distinct⟩
      have reached : ∃ hops, (RouteTable.build graph.groups seeds).dist.lookup dn = some hops := by
        cases hops : (RouteTable.build graph.groups seeds).dist.lookup dn with
        | none =>
            have missing := RouteTable.chainTo_of_unreached hops
            rw [found] at missing
            cases missing
        | some count => exact ⟨count, rfl⟩
      rcases reached with ⟨hops, atHops⟩
      rcases RouteTable.chainTo_of_dist atHops with ⟨same, again, _, route, once, _⟩
      have chainEq : same = chain := Option.some.inj (again.symm.trans found)
      rw [chainEq] at route once
      apply pathSpec_of_groups apart (chainGroups closure chain) (chainGroups_subset chain)
        (chainGroups_nodup once)
      · rw [chainGroups_sids]
      · rcases List.getLast?_eq_some_iff.mp route.arrives with ⟨front, divided⟩
        have atGroup : closure.lookup dn = some group :=
          (lookup_eq_some_iff_mem distinct).mpr stored
        have lastSid : ([dn].filterMap (fun hop => closure.lookup hop)).map ClosureGroup.sid =
            [group.sid] := by simp [atGroup]
        rw [chainGroups_sids, divided, List.filterMap_append, List.map_append, lastSid,
          List.getLast?_concat]
        rfl

/-- The path of the primary group is its own membership. -/
theorem primaryMembership_path {principal : RawEntry} {primary : Sid × Option RawEntry}
    {routes : RouteTable} (apart : primary.1 ≠ sid)
    (found : (primaryMembership sid principal primary closure routes).path = some path) :
    PathSpec sid closure (primaryMembership sid principal primary closure routes) path := by
  have nodes : path.nodes = [sid, primary.1] := by
    cases found
    rfl
  refine ⟨?_, ?_, ?_, Or.inl ?_, ?_⟩
  · rw [nodes, List.head?_cons]
  · rw [nodes]
    rfl
  · rw [nodes, List.tail_cons, List.mem_singleton]
    exact Ne.symm apart
  · rw [nodes, List.tail_cons]
    rfl
  · intro _
    rw [nodes]
    simp [Ne.symm apart]

end Paths

/-! ## Chains and paths of every closure -/

namespace RouteTable

/-- What the route table says of one group: the exact number of hops, and a walk
back that always ends, never by its guard, with a shortest chain of different
groups; each of them is the first of its kind one hop closer. -/
structure ChainSpec (graph : ClosureGraph) (seeds : List String) (dn : String) : Prop where
  reached : Reached (parentsIn graph.groups) (seeds.filter graph.groups.containsKey) dn →
    ∃ hops, (build graph.groups seeds).dist.lookup dn = some hops
  distance : ∀ hops, (build graph.groups seeds).dist.lookup dn = some hops ↔
    IsLeast {count | ∃ chain, ChainOf graph seeds dn chain ∧ chain.length = count} hops
  terminates : ∀ fuel, (build graph.groups seeds).dist.length + 1 ≤ fuel →
    chainFrom (build graph.groups seeds) fuel [dn] dn = (build graph.groups seeds).chainTo dn
  unguarded : ∀ chain current prev, Loop (build graph.groups seeds) dn chain current →
    (build graph.groups seeds).pred.lookup current = some (some prev) →
      chain.length ≤ (build graph.groups seeds).dist.length
  chain : ∀ hops, (build graph.groups seeds).dist.lookup dn = some hops →
    ∃ chain, (build graph.groups seeds).chainTo dn = some chain ∧ chain.length = hops ∧
      ChainOf graph seeds dn chain ∧ chain.Nodup ∧
      chain.IsChain (FirstCloser graph (build graph.groups seeds))
  unreached : ¬Reached (parentsIn graph.groups) (seeds.filter graph.groups.containsKey) dn →
    (build graph.groups seeds).chainTo dn = none

theorem chainSpec_holds (graph : ClosureGraph) (seeds : List String) (dn : String) :
    ChainSpec graph seeds dn where
  reached := fun reached =>
    Option.isSome_iff_exists.mp ((reached_build_iff graph.groups seeds dn).mpr reached)
  distance := fun _ => lookup_dist_iff_isLeast
  terminates := by
    intro fuel enough
    rw [chainTo]
    apply chainFrom_eq_of_enough
    · rw [List.length_singleton]
    · rw [List.length_singleton]
      exact Nat.le_add_left 1 _
    · exact enough
  unguarded := fun _ _ _ state chosen => state.allowed chosen
  chain := fun _ stored => chainTo_of_dist stored
  unreached := by
    intro unreached
    apply chainTo_of_unreached
    rw [← Option.not_isSome_iff_eq_none]
    exact fun stored => unreached ((reached_build_iff graph.groups seeds dn).mp stored)

end RouteTable

/-- The chains of every route table are shortest routes, and every path of an
assembled membership with certain hops leads from the principal to the group
over different groups of the closure; its SIDs are distinct when no two groups
of the closure carry one SID. -/
theorem membershipChains_shortest :
    (∀ (graph : ClosureGraph) (seeds : List String) (dn : String),
      RouteTable.ChainSpec graph seeds dn) ∧
    ∀ (toLowercase : String → String) (sid : Sid) (principal : RawEntry)
      (primary : Option (Sid × Option RawEntry)) (transitiveGroups pgParents : List RawEntry),
      ∀ membership ∈ (assembleMemberships toLowercase sid principal primary transitiveGroups
        pgParents).memberships, ∀ path, membership.path = some path → path.complete = true →
          PathSpec sid (tokenClosure sid principal primary transitiveGroups pgParents) membership
            path := by
  refine ⟨RouteTable.chainSpec_holds, ?_⟩
  intro toLowercase sid principal primary transitiveGroups pgParents membership member path found
    complete
  have spec := tokenClosure_spec sid principal primary transitiveGroups pgParents
  rw [assembleMemberships] at member
  rcases List.mem_append.mp member with atPrimary | atRest
  · cases primary with
    | none => cases atPrimary
    | some primary =>
        by_cases apart : primary.1 ≠ sid
        · simp only [if_pos apart, List.mem_singleton] at atPrimary
          rw [atPrimary] at found ⊢
          exact primaryMembership_path apart found
        · simp only [if_neg apart] at atPrimary
          cases atPrimary
  · rcases List.mem_map.mp atRest with ⟨⟨dn, group⟩, inside, rfl⟩
    have stored : (dn, group) ∈
        tokenClosure sid principal primary transitiveGroups pgParents :=
      (List.mem_filter.mp ((List.mem_insertionSort _).mp inside)).1
    cases found
    exact closureMembership_path spec.1 spec.2 stored complete

/-! ## Two groups with one SID -/

/-- A group under one name, nested into the group of the same SID under another
name. -/
def innerTwin : RawEntry where
  dn := "CN=Old,DC=x"
  attrs := [("groupType", ["-2147483646"]), ("memberOf", ["CN=New,DC=x"])]
  binAttrs := [("objectSid", [domainSidBytes 176 4])]

def outerTwin : RawEntry where
  dn := "CN=New,DC=x"
  attrs := [("groupType", ["-2147483646"])]
  binAttrs := [("objectSid", [domainSidBytes 176 4])]

/-- Two returned groups with different names carry one SID, and the complete
path to the outer one meets that SID twice. -/
theorem twins_share_sid :
    ∃ path ∈ (assembleMemberships Text.toAsciiLowercase ⟨"S-1-5-21-1-2-3-1105"⟩
        { dn := "CN=Anna,DC=x", attrs := [("memberOf", ["CN=Old,DC=x"])] } none
        [innerTwin, outerTwin] []).memberships.filterMap GroupMembership.path,
      path.complete = true ∧ ¬path.nodes.Nodup ∧
        path.nodes = [⟨"S-1-5-21-1-2-3-1105"⟩, ⟨"S-1-5-21-1-2-3-1200"⟩,
          ⟨"S-1-5-21-1-2-3-1200"⟩] := by
  decide

end AdResolver
end Stars
