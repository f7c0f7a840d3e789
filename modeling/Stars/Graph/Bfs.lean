import Stars.Collections.KeyedList
import Mathlib.Data.List.Perm.Subperm
import Mathlib.Logic.Relation

namespace Stars
namespace Graph

open Collections

/-!
# Breadth-first search

A search over an arbitrary successor function keeps the nodes found so far, in
the order of their discovery and with the distance at which each was met, and
the queue of the nodes that still have to be expanded.  The queue is always the
tail of the discovery order: this single fact carries both the closure of the
expanded nodes and the bound on the number of steps.

`mem_bfs_iff` is the interface.  With one step for each node of a finite
universe, the nodes found are exactly those reachable from a seed.
-/

variable {Node : Type}

/-- A node at the end of a chain that starts at a seed. -/
def Reached (next : Node → List Node) (seeds : List Node) (node : Node) : Prop :=
  ∃ seed ∈ seeds, Relation.ReflTransGen (fun here there => there ∈ next here) seed node

theorem Reached.seed {next : Node → List Node} {seeds : List Node} {node : Node}
    (member : node ∈ seeds) : Reached next seeds node :=
  ⟨node, member, .refl⟩

theorem Reached.step {next : Node → List Node} {seeds : List Node} {here there : Node}
    (reached : Reached next seeds here) (edge : there ∈ next here) :
    Reached next seeds there := by
  rcases reached with ⟨seed, member, chain⟩
  exact ⟨seed, member, chain.tail edge⟩

/-- A property of the seeds that every edge preserves holds of every reached
node. -/
theorem Reached.induction {next : Node → List Node} {seeds : List Node} {motive : Node → Prop}
    (atSeed : ∀ node ∈ seeds, motive node)
    (alongEdge : ∀ here there, Reached next seeds here → motive here → there ∈ next here →
      motive there)
    {node : Node} (reached : Reached next seeds node) : motive node := by
  rcases reached with ⟨seed, member, chain⟩
  induction chain with
  | refl => exact atSeed seed member
  | tail before edge known => exact alongEdge _ _ ⟨seed, member, before⟩ known edge

/-- The nodes found with their distances, and the nodes not yet expanded. -/
structure Search (Node : Type) where
  found : List (Node × Nat)
  queue : List Node

namespace Search

def nodes (search : Search Node) : List Node := search.found.map Prod.fst

variable [DecidableEq Node]

/-- Record a node at a distance, unless it is known. -/
def discover (distance : Nat) (search : Search Node) (node : Node) : Search Node :=
  if (search.found.lookup node).isSome then search
  else { found := search.found ++ [(node, distance)], queue := search.queue ++ [node] }

/-- Take the first node off the queue and record its successors one step
further. -/
def expand (next : Node → List Node) (search : Search Node) : Search Node :=
  match search.queue with
  | [] => search
  | node :: rest =>
      match search.found.lookup node with
      | none => { search with queue := rest }
      | some distance =>
          (next node).foldl (discover (distance + 1)) { search with queue := rest }

def run (next : Node → List Node) : Nat → Search Node → Search Node
  | 0, search => search
  | fuel + 1, search => run next fuel (search.expand next)

end Search

variable [DecidableEq Node]

/-- The nodes found from the seeds, which stand at the given distance. -/
def bfs (next : Node → List Node) (start : Nat) (seeds : List Node) (fuel : Nat) :
    List (Node × Nat) :=
  (Search.run next fuel (seeds.foldl (Search.discover start) ⟨[], []⟩)).found

namespace Search

theorem discover_known {distance : Nat} {search : Search Node} {node : Node}
    (known : node ∈ search.nodes) : search.discover distance node = search := by
  rw [discover, if_pos ((lookup_isSome_iff_mem search.found).mpr known)]

theorem discover_fresh {distance : Nat} {search : Search Node} {node : Node}
    (fresh : node ∉ search.nodes) :
    search.discover distance node =
      { found := search.found ++ [(node, distance)], queue := search.queue ++ [node] } := by
  rw [discover, if_neg (fun known => fresh ((lookup_isSome_iff_mem search.found).mp known))]

/-- Recording a list of nodes appends the unknown ones, each once, to the
discovery order and to the queue alike. -/
theorem discoverAll_spec (distance : Nat) (list : List Node) :
    ∀ search : Search Node, search.nodes.Nodup →
      ∃ fresh : List Node,
        (list.foldl (discover distance) search).nodes = search.nodes ++ fresh ∧
        (list.foldl (discover distance) search).queue = search.queue ++ fresh ∧
        (search.nodes ++ fresh).Nodup ∧
        (∀ node ∈ fresh, node ∈ list) ∧
        ∀ node ∈ list, node ∈ search.nodes ++ fresh := by
  induction list with
  | nil =>
      intro search distinct
      exact ⟨[], by simp, by simp, by simpa using distinct, by simp, by simp⟩
  | cons head rest known =>
      intro search distinct
      rw [List.foldl_cons]
      by_cases member : head ∈ search.nodes
      · rw [discover_known member]
        rcases known search distinct with ⟨fresh, nodesEq, queueEq, nodup, listed, covered⟩
        refine ⟨fresh, nodesEq, queueEq, nodup, fun node h => List.mem_cons_of_mem _ (listed node h), ?_⟩
        intro node inside
        rcases List.mem_cons.mp inside with equal | later
        · exact List.mem_append_left _ (equal ▸ member)
        · exact covered node later
      · rw [discover_fresh member]
        have extended : (search.nodes ++ [head]).Nodup := by
          rw [List.nodup_append]
          refine ⟨distinct, List.nodup_singleton head, ?_⟩
          intro left inside right atHead equal
          rw [List.mem_singleton.mp atHead] at equal
          exact member (equal ▸ inside)
        obtain ⟨fresh, nodesEq, queueEq, nodup, listed, covered⟩ :=
          known ⟨search.found ++ [(head, distance)], search.queue ++ [head]⟩
            (by simpa [nodes] using extended)
        refine ⟨head :: fresh, ?_, ?_, ?_, ?_, ?_⟩
        · rw [nodesEq]
          simp [nodes]
        · rw [queueEq]
          simp
        · simpa [nodes] using nodup
        · intro node inside
          rcases List.mem_cons.mp inside with equal | later
          · exact equal ▸ List.mem_cons_self
          · exact List.mem_cons_of_mem _ (listed node later)
        · intro node inside
          rcases List.mem_cons.mp inside with equal | later
          · simp [equal]
          · simpa [nodes] using covered node later

/-- What holds between two steps: the discovery order is the expanded nodes
followed by the queue, without repetition, and every successor of an expanded
node is known. -/
structure Invariant (next : Node → List Node) (seeds : List Node) (search : Search Node)
    (expanded : List Node) : Prop where
  order : search.nodes = expanded ++ search.queue
  distinct : search.nodes.Nodup
  closed : ∀ here ∈ expanded, ∀ there ∈ next here, there ∈ search.nodes
  seeded : ∀ node ∈ seeds, node ∈ search.nodes
  reached : ∀ node ∈ search.nodes, Reached next seeds node

theorem initial_invariant (next : Node → List Node) (start : Nat) (seeds : List Node) :
    Invariant next seeds (seeds.foldl (discover start) ⟨[], []⟩) [] := by
  obtain ⟨fresh, nodesEq, queueEq, nodup, listed, covered⟩ :=
    discoverAll_spec start seeds ⟨[], []⟩ (by simp [nodes])
  have nodesEq : (seeds.foldl (discover start) ⟨[], []⟩).nodes = fresh := by simpa [nodes] using nodesEq
  have queueEq : (seeds.foldl (discover start) ⟨[], []⟩).queue = fresh := by simpa using queueEq
  refine ⟨?_, ?_, ?_, ?_, ?_⟩
  · rw [nodesEq, queueEq, List.nil_append]
  · rw [nodesEq]
    simpa [nodes] using nodup
  · intro here impossible
    cases impossible
  · intro node inside
    rw [nodesEq]
    simpa [nodes] using covered node inside
  · intro node inside
    rw [nodesEq] at inside
    exact .seed (listed node inside)

/-- One step moves the first node of the queue to the expanded ones. -/
theorem expand_invariant {next : Node → List Node} {seeds : List Node} {search : Search Node}
    {expanded : List Node} {node : Node} {rest : List Node}
    (holds : Invariant next seeds search expanded) (front : search.queue = node :: rest) :
    Invariant next seeds (search.expand next) (expanded ++ [node]) := by
  have member : node ∈ search.nodes := by
    rw [holds.order, front]
    simp
  rcases Option.isSome_iff_exists.mp ((lookup_isSome_iff_mem search.found).mpr member) with
    ⟨distance, recorded⟩
  have stepEq : search.expand next =
      (next node).foldl (discover (distance + 1)) { search with queue := rest } := by
    simp only [expand, front, recorded]
  rcases discoverAll_spec (distance + 1) (next node) { search with queue := rest } holds.distinct
    with ⟨fresh, nodesEq, queueEq, nodup, listed, covered⟩
  have nodesEq : (search.expand next).nodes = search.nodes ++ fresh := by rw [stepEq, nodesEq]; rfl
  have queueEq : (search.expand next).queue = rest ++ fresh := by rw [stepEq, queueEq]
  refine ⟨?_, ?_, ?_, ?_, ?_⟩
  · rw [nodesEq, queueEq, holds.order, front]
    simp
  · rw [nodesEq]
    exact nodup
  · intro here inside there edge
    rw [nodesEq]
    rcases List.mem_append.mp inside with earlier | last
    · exact List.mem_append_left _ (holds.closed here earlier there edge)
    · rw [List.mem_singleton.mp last] at edge
      exact covered there edge
  · intro seed inside
    rw [nodesEq]
    exact List.mem_append_left _ (holds.seeded seed inside)
  · intro found inside
    rw [nodesEq] at inside
    rcases List.mem_append.mp inside with earlier | new
    · exact holds.reached found earlier
    · exact (holds.reached node member).step (listed found new)

/-- A search with an empty queue has ended. -/
theorem run_idle {next : Node → List Node} (fuel : Nat) (search : Search Node)
    (empty : search.queue = []) : run next fuel search = search := by
  induction fuel with
  | zero => rfl
  | succ fuel known =>
      have still : search.expand next = search := by simp only [expand, empty]
      rw [run, still, known]

/-- A run keeps the invariant, and either empties the queue or expands one node
for each step. -/
theorem run_invariant {next : Node → List Node} {seeds : List Node} (fuel : Nat) :
    ∀ (search : Search Node) (expanded : List Node), Invariant next seeds search expanded →
      ∃ done : List Node, Invariant next seeds (run next fuel search) done ∧
        ((run next fuel search).queue = [] ∨ done.length = expanded.length + fuel) := by
  induction fuel with
  | zero => exact fun search expanded holds => ⟨expanded, holds, Or.inr rfl⟩
  | succ fuel known =>
      intro search expanded holds
      cases front : search.queue with
      | nil =>
          rw [run_idle (fuel + 1) search front]
          exact ⟨expanded, holds, Or.inl front⟩
      | cons node rest =>
          rcases known (search.expand next) (expanded ++ [node]) (expand_invariant holds front) with
            ⟨done, kept, finished⟩
          refine ⟨done, kept, finished.imp id ?_⟩
          intro counted
          rw [counted, List.length_append, List.length_singleton]
          omega

end Search

/-! ## The nodes found -/

/-- With one step for each node that can be reached, every node found has been
expanded. -/
theorem run_ended {next : Node → List Node} {start : Nat} {seeds : List Node} {fuel : Nat}
    (space : List Node) (bounded : ∀ node, Reached next seeds node → node ∈ space)
    (enough : space.length ≤ fuel) :
    (Search.run next fuel (seeds.foldl (Search.discover start) ⟨[], []⟩)).queue = [] := by
  rcases Search.run_invariant fuel _ _ (Search.initial_invariant next start seeds) with
    ⟨expanded, holds, finished⟩
  have short : (Search.run next fuel (seeds.foldl (Search.discover start) ⟨[], []⟩)).nodes.length ≤
      space.length :=
    (List.subperm_of_subset holds.distinct
      (fun found inside => bounded found (holds.reached found inside))).length_le
  rcases finished with empty | counted
  · exact empty
  · rw [holds.order, List.length_append, counted] at short
    exact List.eq_nil_of_length_eq_zero (by simp only [List.length_nil] at short; omega)

/-- With one step for each node that can be reached, the search finds exactly
the reachable nodes. -/
theorem mem_bfs_iff {next : Node → List Node} {start : Nat} {seeds : List Node} {fuel : Nat}
    (space : List Node) (bounded : ∀ node, Reached next seeds node → node ∈ space)
    (enough : space.length ≤ fuel) (node : Node) :
    node ∈ (bfs next start seeds fuel).map Prod.fst ↔ Reached next seeds node := by
  have empty := @run_ended _ _ next start seeds fuel space bounded enough
  rcases Search.run_invariant fuel _ _ (Search.initial_invariant next start seeds) with
    ⟨expanded, holds, _⟩
  constructor
  · exact holds.reached node
  · intro reached
    refine Reached.induction (motive := fun found =>
      found ∈ (Search.run next fuel (seeds.foldl (Search.discover start) ⟨[], []⟩)).nodes)
      holds.seeded ?_ reached
    intro here there _ found edge
    have inside : here ∈ expanded := by
      rw [holds.order, empty, List.append_nil] at found
      exact found
    exact holds.closed here inside there edge

end Graph
end Stars
