import Stars.Graph.Bfs
import Mathlib.Data.List.Chain
import Mathlib.Data.List.Induction
import Mathlib.Order.Bounds.Basic

namespace Stars
namespace Graph

open Collections

/-!
# Distances of a breadth-first search

The distance that the search records for a node is the least number of edges of
a chain that leads to it from a seed.  The nodes are found in the order of their
distances, and none lies more than one step beyond the node expanded next; that
is why an edge out of an expanded node never leads further than one step beyond
it.

A chain of fewest edges enters each node from one exactly one step closer.
-/

variable {Node : Type} {next : Node → List Node} {seeds : List Node}

/-- A chain of this number of edges leads from a seed to a node. -/
inductive ReachedIn (next : Node → List Node) (seeds : List Node) : Nat → Node → Prop where
  | seed {node : Node} (member : node ∈ seeds) : ReachedIn next seeds 0 node
  | edge {edges : Nat} {here there : Node} (before : ReachedIn next seeds edges here)
      (step : there ∈ next here) : ReachedIn next seeds (edges + 1) there

/-- A list of nodes that starts at a seed, follows edges and ends at a node. -/
structure Route (next : Node → List Node) (seeds : List Node) (node : Node)
    (chain : List Node) : Prop where
  starts : ∃ seed ∈ seeds, chain.head? = some seed
  follows : chain.IsChain (fun here there => there ∈ next here)
  arrives : chain.getLast? = some node

theorem ReachedIn.reached {edges : Nat} {node : Node} (chain : ReachedIn next seeds edges node) :
    Reached next seeds node := by
  induction chain with
  | seed member => exact .seed member
  | edge _ step known => exact known.step step

theorem Route.snoc {chain : List Node} {here there : Node} (route : Route next seeds here chain)
    (step : there ∈ next here) : Route next seeds there (chain ++ [there]) where
  starts := by
    rcases route.starts with ⟨seed, member, first⟩
    exact ⟨seed, member, by rw [List.head?_append, first, Option.some_or]⟩
  follows := by
    rw [List.isChain_append]
    refine ⟨route.follows, List.isChain_singleton there, ?_⟩
    intro last atEnd first atStart
    rw [route.arrives, Option.mem_some] at atEnd
    rw [List.head?_cons, Option.mem_some] at atStart
    rw [← atEnd, ← atStart]
    exact step
  arrives := List.getLast?_concat

theorem ReachedIn.exists_route {edges : Nat} {node : Node}
    (chain : ReachedIn next seeds edges node) :
    ∃ nodes, Route next seeds node nodes ∧ nodes.length = edges + 1 := by
  induction chain with
  | @seed node member =>
      exact ⟨[node], ⟨⟨node, member, rfl⟩, List.isChain_singleton node, rfl⟩, rfl⟩
  | @edge edges _ there _ step known =>
      rcases known with ⟨nodes, route, counted⟩
      refine ⟨nodes ++ [there], route.snoc step, ?_⟩
      rw [List.length_append, counted, List.length_singleton]

theorem Route.reachedIn {chain : List Node} :
    ∀ {node : Node}, Route next seeds node chain →
      ∃ edges, chain.length = edges + 1 ∧ ReachedIn next seeds edges node := by
  induction chain using List.reverseRecOn with
  | nil =>
      intro node route
      cases route.arrives
  | append_singleton before last known =>
      intro node route
      have same : last = node := by
        have arrives := route.arrives
        rw [List.getLast?_concat] at arrives
        exact Option.some.inj arrives
      rw [← same]
      cases penultimate : before.getLast? with
      | none =>
          rw [List.getLast?_eq_none_iff] at penultimate
          rcases route.starts with ⟨seed, member, first⟩
          rw [penultimate] at first ⊢
          cases first
          exact ⟨0, rfl, .seed member⟩
      | some here =>
          have linked := List.isChain_append.mp route.follows
          have shorter : Route next seeds here before := by
            refine ⟨?_, linked.1, penultimate⟩
            rcases route.starts with ⟨seed, member, first⟩
            refine ⟨seed, member, ?_⟩
            rw [List.head?_append] at first
            cases start : before.head? with
            | none =>
                rw [List.head?_eq_none_iff.mp start] at penultimate
                cases penultimate
            | some other =>
                rw [start, Option.some_or] at first
                exact first
          rcases known shorter with ⟨edges, counted, reached⟩
          refine ⟨edges + 1, ?_, reached.edge (linked.2.2 here penultimate last rfl)⟩
          rw [List.length_append, counted, List.length_singleton]

/-- The least number of edges that lead from a seed to a node. -/
def Distance (next : Node → List Node) (seeds : List Node) (edges : Nat) (node : Node) : Prop :=
  IsLeast {count | ReachedIn next seeds count node} edges

/-- The number of nodes of a shortest route. -/
theorem distance_iff_route {edges : Nat} {node : Node} :
    Distance next seeds edges node ↔
      IsLeast {count | ∃ chain, Route next seeds node chain ∧ chain.length = count} (edges + 1) := by
  constructor
  · intro distance
    refine ⟨distance.1.exists_route, ?_⟩
    rintro count ⟨chain, route, counted⟩
    rcases route.reachedIn with ⟨fewer, length, reached⟩
    have least : edges ≤ fewer := distance.2 reached
    omega
  · rintro ⟨⟨chain, route, counted⟩, least⟩
    constructor
    · rcases route.reachedIn with ⟨count, length, reached⟩
      have same : count = edges := by omega
      exact same ▸ reached
    · intro count reached
      have bounded := least reached.exists_route
      omega

/-- A node that is not a seed is entered from a node one edge closer. -/
theorem Distance.exists_closer {edges : Nat} {node : Node}
    (distance : Distance next seeds (edges + 1) node) :
    ∃ here, Distance next seeds edges here ∧ node ∈ next here := by
  cases distance.1 with
  | @edge _ here _ before step =>
      refine ⟨here, ⟨before, ?_⟩, step⟩
      intro fewer reached
      have least : edges + 1 ≤ fewer + 1 := distance.2 (reached.edge step)
      omega

/-! ## The recorded distances -/

namespace Search

variable [DecidableEq Node]

/-- The nodes that a list adds are recorded at the distance of the list. -/
theorem discoverAll_found (distance : Nat) (list : List Node) :
    ∀ search : Search Node,
      ∃ fresh : List Node,
        (list.foldl (discover distance) search).found =
          search.found ++ fresh.map (fun node => (node, distance)) ∧
        (list.foldl (discover distance) search).queue = search.queue ++ fresh ∧
        ∀ node ∈ fresh, node ∈ list := by
  induction list with
  | nil =>
      intro search
      exact ⟨[], by simp, by simp, by simp⟩
  | cons head rest known =>
      intro search
      rw [List.foldl_cons]
      by_cases member : head ∈ search.nodes
      · rw [discover_known member]
        rcases known search with ⟨fresh, foundEq, queueEq, listed⟩
        exact ⟨fresh, foundEq, queueEq, fun node inside => List.mem_cons_of_mem _ (listed node inside)⟩
      · rw [discover_fresh member]
        rcases known ⟨search.found ++ [(head, distance)], search.queue ++ [head]⟩ with
          ⟨fresh, foundEq, queueEq, listed⟩
        refine ⟨head :: fresh, ?_, ?_, ?_⟩
        · rw [foundEq]
          simp
        · rw [queueEq]
          simp
        · exact fun node inside => List.cons_subset_cons head listed inside

/-- What holds between two steps: the nodes found are the expanded ones followed
by the waiting ones, in the order of their distances; no distance is more than
one beyond that of the node expanded next; each is the length of a chain; and an
edge out of an expanded node leads at most one further. -/
structure Levels (next : Node → List Node) (start : Nat) (seeds : List Node)
    (search : Search Node) (done waiting : List (Node × Nat)) : Prop where
  order : search.found = done ++ waiting
  queued : search.queue = waiting.map Prod.fst
  distinct : search.nodes.Nodup
  sorted : search.found.Pairwise (fun earlier later => earlier.2 ≤ later.2)
  near : ∀ front, waiting.head? = some front → ∀ entry ∈ search.found, entry.2 ≤ front.2 + 1
  sound : ∀ entry ∈ search.found, ∃ edges, entry.2 = start + edges ∧
    ReachedIn next seeds edges entry.1
  forward : ∀ here ∈ done, ∀ there ∈ next here.1, ∃ distance,
    (there, distance) ∈ search.found ∧ distance ≤ here.2 + 1
  seeded : ∀ seed ∈ seeds, (seed, start) ∈ search.found

omit [DecidableEq Node] in
theorem mem_nodes_iff {search : Search Node} {node : Node} :
    node ∈ search.nodes ↔ ∃ distance, (node, distance) ∈ search.found := by
  rw [nodes, List.mem_map]
  constructor
  · rintro ⟨⟨_, distance⟩, member, rfl⟩
    exact ⟨distance, member⟩
  · rintro ⟨distance, member⟩
    exact ⟨(node, distance), member, rfl⟩

theorem initial_levels (next : Node → List Node) (start : Nat) (seeds : List Node) :
    Levels next start seeds (seeds.foldl (discover start) ⟨[], []⟩) []
      (seeds.foldl (discover start) ⟨[], []⟩).found := by
  have holds := initial_invariant next start seeds
  rcases discoverAll_found start seeds (⟨[], []⟩ : Search Node) with
    ⟨fresh, foundEq, _, listed⟩
  have level : ∀ entry ∈ (seeds.foldl (discover start) ⟨[], []⟩).found,
      entry.2 = start ∧ entry.1 ∈ seeds := by
    intro entry member
    rw [foundEq, List.nil_append] at member
    rcases List.mem_map.mp member with ⟨node, inside, rfl⟩
    exact ⟨rfl, listed node inside⟩
  refine ⟨rfl, ?_, holds.distinct, ?_, ?_, ?_, ?_, ?_⟩
  · exact holds.order.symm
  · apply List.Pairwise.imp_of_mem _ (List.pairwise_of_forall (fun _ _ => trivial))
    intro earlier later earlierMem laterMem _
    rw [(level earlier earlierMem).1, (level later laterMem).1]
  · intro front first entry member
    rw [(level entry member).1, (level front (List.mem_of_head? first)).1]
    exact Nat.le_succ start
  · intro entry member
    exact ⟨0, (level entry member).1, .seed (level entry member).2⟩
  · intro here impossible
    cases impossible
  · intro seed member
    rcases mem_nodes_iff.mp (holds.seeded seed member) with ⟨distance, found⟩
    have atStart : distance = start := (level _ found).1
    exact atStart ▸ found

/-- One step expands the first of the waiting nodes. -/
theorem expand_levels {start : Nat} {search : Search Node} {done rest : List (Node × Nat)}
    {front : Node × Nat} (holds : Levels next start seeds search done (front :: rest)) :
    ∃ waiting, Levels next start seeds (search.expand next) (done ++ [front]) waiting := by
  have atFront : front ∈ search.found := by
    rw [holds.order]
    exact List.mem_append_right _ List.mem_cons_self
  have recorded : search.found.lookup front.1 = some front.2 :=
    (lookup_eq_some_iff_mem holds.distinct).mpr atFront
  have stepEq : search.expand next =
      (next front.1).foldl (discover (front.2 + 1)) { search with queue := rest.map Prod.fst } := by
    have queue : search.queue = front.1 :: rest.map Prod.fst := holds.queued
    simp only [expand, queue, recorded]
  rcases discoverAll_found (front.2 + 1) (next front.1)
    { search with queue := rest.map Prod.fst } with ⟨fresh, foundEq, queueEq, listed⟩
  rcases discoverAll_spec (front.2 + 1) (next front.1)
    { search with queue := rest.map Prod.fst } holds.distinct with ⟨_, nodesEq, _, nodup, _, covered⟩
  have foundEq : (search.expand next).found =
      search.found ++ fresh.map (fun node => (node, front.2 + 1)) := by rw [stepEq, foundEq]
  have added : ∀ entry ∈ fresh.map (fun node => (node, front.2 + 1)),
      entry.2 = front.2 + 1 ∧ entry.1 ∈ next front.1 := by
    intro entry member
    rcases List.mem_map.mp member with ⟨node, inside, rfl⟩
    exact ⟨rfl, listed node inside⟩
  have within : ∀ entry ∈ (search.expand next).found, entry.2 ≤ front.2 + 1 := by
    intro entry member
    rw [foundEq] at member
    rcases List.mem_append.mp member with known | new
    · exact holds.near front rfl entry known
    · exact (added entry new).1.le
  refine ⟨rest ++ fresh.map (fun node => (node, front.2 + 1)), ?_, ?_, ?_, ?_, ?_, ?_, ?_, ?_⟩
  · rw [foundEq, holds.order, List.append_assoc, List.append_assoc]
    rfl
  · rw [stepEq, queueEq, List.map_append, List.map_map]
    exact congrArg _ (List.map_id' fresh).symm
  · rw [stepEq, nodesEq]
    exact nodup
  · rw [foundEq, List.pairwise_append]
    refine ⟨holds.sorted, ?_, ?_⟩
    · apply List.Pairwise.imp_of_mem _ (List.pairwise_of_forall (fun _ _ => trivial))
      intro earlier later earlierMem laterMem _
      rw [(added earlier earlierMem).1, (added later laterMem).1]
    · intro earlier earlierMem later laterMem
      rw [(added later laterMem).1]
      exact holds.near front rfl earlier earlierMem
  · intro first atStart entry member
    have beyond : front.2 ≤ first.2 := by
      rcases List.mem_append.mp (List.mem_of_head? atStart) with waiting | new
      · have sorted := holds.sorted
        rw [holds.order, List.pairwise_append, List.pairwise_cons] at sorted
        exact sorted.2.1.1 first waiting
      · rw [(added first new).1]
        exact Nat.le_succ front.2
    exact (within entry member).trans (Nat.succ_le_succ beyond)
  · intro entry member
    rw [foundEq] at member
    rcases List.mem_append.mp member with known | new
    · exact holds.sound entry known
    · rcases holds.sound front atFront with ⟨edges, counted, reached⟩
      refine ⟨edges + 1, ?_, reached.edge (added entry new).2⟩
      rw [(added entry new).1, counted, Nat.add_assoc]
  · intro here inside there edge
    rcases List.mem_append.mp inside with earlier | last
    · rcases holds.forward here earlier there edge with ⟨distance, found, bounded⟩
      exact ⟨distance, foundEq ▸ List.mem_append_left _ found, bounded⟩
    · rw [List.mem_singleton.mp last] at edge ⊢
      have known : there ∈ (search.expand next).nodes := by
        rw [stepEq, nodesEq]
        exact covered there edge
      rcases mem_nodes_iff.mp known with ⟨distance, found⟩
      exact ⟨distance, found, within _ found⟩
  · intro seed member
    rw [foundEq]
    exact List.mem_append_left _ (holds.seeded seed member)

theorem run_levels {start : Nat} (fuel : Nat) :
    ∀ (search : Search Node) (done waiting : List (Node × Nat)),
      Levels next start seeds search done waiting →
        ∃ expanded later, Levels next start seeds (run next fuel search) expanded later := by
  induction fuel with
  | zero => exact fun search done waiting holds => ⟨done, waiting, holds⟩
  | succ fuel known =>
      intro search done waiting holds
      cases waiting with
      | nil =>
          rw [run_idle (fuel + 1) search holds.queued]
          exact ⟨done, [], holds⟩
      | cons front rest =>
          rcases expand_levels holds with ⟨waiting, expanded⟩
          exact known (search.expand next) (done ++ [front]) waiting expanded

omit [DecidableEq Node] in
/-- Once no node waits, no chain is shorter than the recorded distance. -/
theorem Levels.le_of_reachedIn {start : Nat} {search : Search Node} {done : List (Node × Nat)}
    (holds : Levels next start seeds search done []) {edges : Nat} {node : Node}
    (chain : ReachedIn next seeds edges node) :
    ∃ distance, (node, distance) ∈ search.found ∧ distance ≤ start + edges := by
  induction chain with
  | @seed node member => exact ⟨start, holds.seeded node member, le_rfl⟩
  | @edge edges here there _ step known =>
      rcases known with ⟨distance, found, bounded⟩
      rw [holds.order, List.append_nil] at found
      rcases holds.forward _ found there step with ⟨further, recorded, close⟩
      exact ⟨further, recorded, by omega⟩

end Search

variable [DecidableEq Node]

/-- With one step for each node that can be reached, the search records exactly
the distances. -/
theorem lookup_bfs_iff {start : Nat} {fuel : Nat} (space : List Node)
    (bounded : ∀ node, Reached next seeds node → node ∈ space) (enough : space.length ≤ fuel)
    (node : Node) (distance : Nat) :
    (bfs next start seeds fuel).lookup node = some distance ↔
      ∃ edges, distance = start + edges ∧ Distance next seeds edges node := by
  rcases Search.run_levels fuel _ _ _ (Search.initial_levels next start seeds) with
    ⟨done, waiting, holds⟩
  have ended : waiting = [] := by
    have empty := @run_ended _ _ next start seeds fuel space bounded enough
    rw [holds.queued] at empty
    exact List.map_eq_nil_iff.mp empty
  subst ended
  rw [bfs]
  refine (lookup_eq_some_iff_mem holds.distinct).trans ?_
  constructor
  · intro found
    rcases holds.sound _ found with ⟨edges, counted, reached⟩
    refine ⟨edges, counted, reached, ?_⟩
    intro fewer shorter
    rcases holds.le_of_reachedIn shorter with ⟨other, again, close⟩
    have same : ((node, other) : Node × Nat) = (node, distance) :=
      List.inj_on_of_nodup_map holds.distinct again found rfl
    have equal : other = distance := (Prod.mk.inj same).2
    omega
  · rintro ⟨edges, rfl, shortest⟩
    rcases holds.le_of_reachedIn shortest.1 with ⟨other, found, close⟩
    rcases holds.sound _ found with ⟨count, counted, reached⟩
    have least : edges ≤ count := shortest.2 reached
    have counted : other = start + count := counted
    have same : other = start + edges := by omega
    exact same ▸ found

end Graph
end Stars
