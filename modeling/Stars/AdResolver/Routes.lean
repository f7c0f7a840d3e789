import Stars.AdResolver.RawEntry
import Stars.Graph.Bfs

namespace Stars
namespace AdResolver

open Collections Stars.Graph

/-!
# Routes through the membership closure

The groups of a principal, keyed by lower-cased distinguished name, and the
deterministic route table over them: the hop distance of each group, its chosen
predecessor and the reverse edges.  The distances come from a breadth-first
search whose edges lead from a group to the groups it is a direct member of, as
far as these belong to the closure.
-/

/-- One group of the membership closure.  `security` is `none` when the type of
the group is not readable. -/
structure ClosureGroup where
  entry : RawEntry
  sid : Sid
  name : Option String
  parents : List String
  security : Option Bool
deriving DecidableEq

/-- Groups by key, in the order of the keys. -/
abbrev Closure := List (String × ClosureGroup)

def Closure.containsKey (closure : Closure) (dn : String) : Bool := (closure.lookup dn).isSome

/-- Hop distances, chosen predecessors (`none` stands for the principal itself)
and reverse edges. -/
structure RouteTable where
  dist : List (String × Nat)
  pred : List (String × Option String)
  children : List (String × List String)

namespace RouteTable

/-- The groups of the closure that a group is a direct member of. -/
def parentsIn (closure : Closure) (dn : String) : List String :=
  match closure.lookup dn with
  | none => []
  | some group => group.parents.filter closure.containsKey

/-- The closure groups that are direct members of a group. -/
def childrenIn (closure : Closure) (dn : String) : List String :=
  orderedSet ((closure.filter (fun entry => entry.2.parents.contains dn)).map Prod.fst)

/-- The member group exactly one hop closer with the first name, or the
principal itself at distance one. -/
def choosePred (children : List (String × List String)) (dist : List (String × Nat))
    (dn : String) (hops : Nat) : Option String :=
  if hops = 1 then none
  else (children.lookup dn).bind (fun kids => kids.find? (fun kid => dist.lookup kid == some (hops - 1)))

def build (closure : Closure) (seeds : List String) : RouteTable :=
  let children := closure.filterMap (fun entry =>
    let kids := childrenIn closure entry.1
    if kids.isEmpty then none else some (entry.1, kids))
  let dist := bfs (parentsIn closure) 1 (seeds.filter closure.containsKey) closure.length
  { dist := dist,
    pred := dist.map (fun entry => (entry.1, choosePred children dist entry.1 entry.2)),
    children := children }

def reached (table : RouteTable) (dn : String) : Bool := (table.dist.lookup dn).isSome

/-- The chain is extended at its front until it reaches the principal; a chain
longer than the table is given up. -/
def chainFrom (table : RouteTable) : Nat → List String → String → Option (List String)
  | 0, _, _ => none
  | fuel + 1, chain, current =>
      match table.pred.lookup current with
      | none => none
      | some none => some chain
      | some (some prev) =>
          if chain.length > table.dist.length then none
          else chainFrom table fuel (prev :: chain) prev

/-- The chain from hop one to a group; `none` when it was not reached. -/
def chainTo (table : RouteTable) (target : String) : Option (List String) :=
  chainFrom table (table.dist.length + 1) [target] target

/-- The closure groups that are direct members of a group, except the last hop
of the chain shown. -/
def otherEntries (table : RouteTable) (target : String) (skip : Option String) : List String :=
  ((table.children.lookup target).getD []).filter (fun kid => some kid ≠ skip)

theorem parentsIn_subset (closure : Closure) {here there : String}
    (edge : there ∈ parentsIn closure here) : there ∈ closure.map Prod.fst := by
  unfold parentsIn at edge
  split at edge
  · cases edge
  · exact (lookup_isSome_iff_mem closure).mp (List.mem_filter.mp edge).2

/-- The table reaches a group exactly when a chain of direct memberships inside
the closure leads to it from a seed of the closure. -/
theorem reached_build_iff (closure : Closure) (seeds : List String) (dn : String) :
    (build closure seeds).reached dn = true ↔
      Reached (parentsIn closure) (seeds.filter closure.containsKey) dn := by
  rw [reached, lookup_isSome_iff_mem]
  refine mem_bfs_iff (closure.map Prod.fst) ?_ (by rw [List.length_map]) dn
  intro node chain
  refine Reached.induction (motive := fun found => found ∈ closure.map Prod.fst) ?_ ?_ chain
  · intro seed member
    exact (lookup_isSome_iff_mem closure).mp (List.mem_filter.mp member).2
  · exact fun here there _ _ edge => parentsIn_subset closure edge

end RouteTable
end AdResolver
end Stars
