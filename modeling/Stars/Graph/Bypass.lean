import Stars.Graph.Distances

namespace Stars
namespace Graph

/-!
# Routes around a node

A node is reached apart from a barrier when a route from a seed leads to it that
does not meet the barrier.  Edges into a single node decide nothing about the
nodes reached apart from it.  So whether that node is still reached after some
of the edges into it are gone depends on what is left of them alone: a seed, or
an edge from a node reached apart from it.
-/

variable {Node : Type} [DecidableEq Node]

/-- Reached over nodes other than the barrier. -/
def ReachedApart (next : Node → List Node) (seeds : List Node) (barrier node : Node) : Prop :=
  Reached (fun here => (next here).filter (fun there => there ≠ barrier))
    (seeds.filter (fun seed => seed ≠ barrier)) node

section Apart

variable {next : Node → List Node} {seeds : List Node} {barrier node : Node}

theorem ReachedApart.seed (member : node ∈ seeds) (other : node ≠ barrier) :
    ReachedApart next seeds barrier node :=
  Reached.seed (List.mem_filter.mpr ⟨member, decide_eq_true other⟩)

theorem ReachedApart.step {here there : Node} (reached : ReachedApart next seeds barrier here)
    (edge : there ∈ next here) (other : there ≠ barrier) :
    ReachedApart next seeds barrier there :=
  Reached.step reached (List.mem_filter.mpr ⟨edge, decide_eq_true other⟩)

/-- A property of the seeds beside the barrier that every edge to another node
preserves. -/
theorem ReachedApart.induction {motive : Node → Prop}
    (atSeed : ∀ seed ∈ seeds, seed ≠ barrier → motive seed)
    (alongEdge : ∀ here there, motive here → there ∈ next here → there ≠ barrier → motive there)
    (reached : ReachedApart next seeds barrier node) : motive node := by
  apply Reached.induction _ _ reached
  · intro seed member
    rcases List.mem_filter.mp member with ⟨inside, other⟩
    exact atSeed seed inside (of_decide_eq_true other)
  · intro here there _ known edge
    rcases List.mem_filter.mp edge with ⟨inside, other⟩
    exact alongEdge here there known inside (of_decide_eq_true other)

theorem ReachedApart.ne_barrier (reached : ReachedApart next seeds barrier node) :
    node ≠ barrier := by
  apply reached.induction (motive := fun node => node ≠ barrier)
  · exact fun _ _ other => other
  · exact fun _ _ _ _ other => other

/-- A node is reached apart from the barrier exactly when a route to it avoids
the barrier. -/
theorem reachedApart_iff_route :
    ReachedApart next seeds barrier node ↔
      ∃ chain, Route next seeds node chain ∧ barrier ∉ chain := by
  constructor
  · intro reached
    apply reached.induction (motive := fun node =>
      ∃ chain, Route next seeds node chain ∧ barrier ∉ chain)
    · intro seed member other
      refine ⟨[seed], ⟨⟨seed, member, rfl⟩, List.isChain_singleton seed, rfl⟩, ?_⟩
      rw [List.mem_singleton]
      exact Ne.symm other
    · rintro here there ⟨chain, route, avoided⟩ edge other
      refine ⟨chain ++ [there], route.snoc edge, ?_⟩
      rw [List.mem_append, List.mem_singleton, not_or]
      exact ⟨avoided, Ne.symm other⟩
  · rintro ⟨chain, route, avoided⟩
    have others : ∀ inside ∈ chain, inside ≠ barrier := by
      rintro inside member rfl
      exact avoided member
    have apart : Route (fun here => (next here).filter (fun there => there ≠ barrier))
        (seeds.filter (fun seed => seed ≠ barrier)) node chain := by
      refine ⟨?_, ?_, route.arrives⟩
      · rcases route.starts with ⟨seed, member, first⟩
        have other := others seed (List.mem_of_mem_head? first)
        exact ⟨seed, List.mem_filter.mpr ⟨member, decide_eq_true other⟩, first⟩
      · apply route.follows.imp_of_mem_imp
        intro here there _ inside edge
        exact List.mem_filter.mpr ⟨edge, decide_eq_true (others there inside)⟩
    rcases apart.reachedIn with ⟨_, _, reached⟩
    exact reached.reached

end Apart

/-- Two graphs with the same seeds and edges, those into one node excepted. -/
structure SameElsewhere (next other : Node → List Node) (seeds otherSeeds : List Node)
    (target : Node) : Prop where
  edges : ∀ here there, there ≠ target → (there ∈ other here ↔ there ∈ next here)
  starts : ∀ node, node ≠ target → (node ∈ otherSeeds ↔ node ∈ seeds)

/-- A node is reached exactly when it is a seed, or when an edge leads into it
from a node that is reached apart from it.  The latter may be read in any graph
that differs in the edges into the node only. -/
theorem reached_target_iff {next other : Node → List Node} {seeds otherSeeds : List Node}
    {target : Node} (same : SameElsewhere next other seeds otherSeeds target) :
    Reached other otherSeeds target ↔
      target ∈ otherSeeds ∨
        ∃ entry, target ∈ other entry ∧ ReachedApart next seeds target entry := by
  constructor
  · intro reached
    -- Every node on the way is reached apart from the target, or the target
    -- was entered before.
    have around : ReachedApart next seeds target target ∨ target ∈ otherSeeds ∨
        ∃ entry, target ∈ other entry ∧ ReachedApart next seeds target entry := by
      apply Reached.induction (motive := fun node => ReachedApart next seeds target node ∨
        target ∈ otherSeeds ∨
          ∃ entry, target ∈ other entry ∧ ReachedApart next seeds target entry) _ _ reached
      · intro seed member
        by_cases here : seed = target
        · exact Or.inr (Or.inl (here ▸ member))
        · exact Or.inl (.seed ((same.starts seed here).mp member) here)
      · intro here there _ known edge
        rcases known with apart | entered
        · by_cases arrived : there = target
          · exact Or.inr (Or.inr ⟨here, arrived ▸ edge, apart⟩)
          · exact Or.inl (apart.step ((same.edges here there arrived).mp edge) arrived)
        · exact Or.inr entered
    exact around.resolve_left (fun impossible => impossible.ne_barrier rfl)
  · rintro (seed | ⟨entry, edge, apart⟩)
    · exact .seed seed
    · apply Reached.step _ edge
      apply apart.induction (motive := fun node => Reached other otherSeeds node)
      · exact fun node member apart => .seed ((same.starts node apart).mpr member)
      · exact fun here there known edge apart => known.step ((same.edges here there apart).mpr edge)

end Graph
end Stars
