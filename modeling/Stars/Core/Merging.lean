import Stars.Collections.BestPerKey
import Stars.Core.Identity
import Stars.Order.Comparison
import Stars.Order.Sorting
import Mathlib.Data.Prod.Lex

namespace Stars

open Collections

/-!
# One membership for each group

A group can arrive from several sources, from the directory and from the local
groups of a server.  The most informative entry is kept, in the order in which
the groups first arrive, and the routes of the other entries are merged into its
list of further routes.

Texts are brought to lower case by a conversion that is a parameter.
-/

namespace GroupMembership

/-- How informative an entry is: direct before nested, a complete path before an
incomplete one, more resolved names before fewer, a named group before an unnamed
one. -/
def informativenessRank (membership : GroupMembership) : Bool ×ₗ Bool ×ₗ Nat ×ₗ Bool :=
  let completeAndNames := match membership.path with
    | some path => (path.complete, (path.names.filter Option.isSome).length)
    | none => (false, 0)
  toLex (membership.direct,
    toLex (completeAndNames.1, toLex (completeAndNames.2, membership.groupName.isSome)))

end GroupMembership

/-- One entry for each group SID, the most informative one. -/
def bestMembershipPerGroup (memberships : List GroupMembership) : List GroupMembership :=
  bestPerKey GroupMembership.groupSid GroupMembership.informativenessRank memberships

/-! ## Merged routes -/

/-- The node before the last one of a chain. -/
def lastHop (nodes : List Sid) : Option Sid :=
  if nodes.length < 2 then none else nodes[nodes.length - 2]?

/-- The routes an entry knows beside the chain that is kept. -/
def extraHops (keptLastHop : Option Sid) (other : GroupMembership) : List MembershipHop :=
  match other.path with
  | none => []
  | some otherPath =>
      let index := otherPath.nodes.length - 2
      let own :=
        if otherPath.nodes.length ≥ 3 then
          match otherPath.nodes[index]? with
          | some hop =>
              if some hop ≠ keptLastHop ∧ hop ≠ other.memberSid then
                [⟨hop, otherPath.names[index]?.join⟩]
              else []
          | none => []
        else []
      own ++ otherPath.alsoVia

/-- Note a hop: one for each SID, and a name is taken over where it was missing. -/
def noteHop (hop : MembershipHop) : List MembershipHop → List MembershipHop
  | [] => [hop]
  | existing :: rest =>
      if existing.sid = hop.sid then
        (if existing.name.isNone then { existing with name := hop.name } else existing) :: rest
      else existing :: noteHop hop rest

/-- The order of hops: by name in lower case, then by SID. -/
def compareHops (toLowercase : String → String) (left right : MembershipHop) : Ordering :=
  (Order.compareText (toLowercase (left.name.getD "")) (toLowercase (right.name.getD ""))).then
    (Order.compareText left.sid.value right.sid.value)

/-- The further routes of a kept path together with the ones of the other
entries. -/
def mergeHops (toLowercase : String → String) (keptLastHop : Option Sid)
    (alsoVia extra : List MembershipHop) : List MembershipHop :=
  Order.sortBy (compareHops toLowercase) id
    (((alsoVia ++ extra).filter (fun hop => some hop.sid ≠ keptLastHop)).foldl
      (fun noted hop => noteHop hop noted) [])

/-- The kept entry with the routes of every entry of its group. -/
def mergeRoutes (toLowercase : String → String) (memberships : List GroupMembership)
    (kept : GroupMembership) : GroupMembership :=
  match kept.path with
  | none => kept
  | some path =>
      let keptLastHop := lastHop path.nodes
      let extra := (memberships.filter (fun other => other.groupSid = kept.groupSid)).flatMap
        (extraHops keptLastHop)
      -- A single source keeps the order of the resolver.
      if extra.isEmpty then kept
      else
        let merged := mergeHops toLowercase keptLastHop path.alsoVia extra
        { kept with path := some { path with alsoVia := merged } }

/-- One entry for each group SID, with the routes of the others merged in. -/
def mergedMembershipsPerGroup (toLowercase : String → String)
    (memberships : List GroupMembership) : List GroupMembership :=
  (bestMembershipPerGroup memberships).map (mergeRoutes toLowercase memberships)

/-- A chain that could not be reconstructed. -/
def GroupMembership.chainUnknown (membership : GroupMembership) : Bool :=
  membership.path.any (fun path => !path.complete)

section MergeRoutes

variable (toLowercase : String → String) (memberships : List GroupMembership)
  (kept : GroupMembership)

/-- Merging changes the further routes of a path only. -/
theorem mergeRoutes_eq :
    mergeRoutes toLowercase memberships kept =
      { kept with path := (mergeRoutes toLowercase memberships kept).path } := by
  rw [mergeRoutes]
  split
  · rfl
  · dsimp only
    split
    · rfl
    · rfl

@[simp]
theorem groupSid_mergeRoutes :
    (mergeRoutes toLowercase memberships kept).groupSid = kept.groupSid := by
  rw [mergeRoutes_eq]

@[simp]
theorem groupSidHistory_mergeRoutes :
    (mergeRoutes toLowercase memberships kept).groupSidHistory = kept.groupSidHistory := by
  rw [mergeRoutes_eq]

@[simp]
theorem chainUnknown_mergeRoutes :
    (mergeRoutes toLowercase memberships kept).chainUnknown = kept.chainUnknown := by
  rw [mergeRoutes]
  split
  · rfl
  · rename_i path found
    dsimp only
    split
    · rfl
    · rw [GroupMembership.chainUnknown, GroupMembership.chainUnknown, found]
      rfl

end MergeRoutes

section Merged

variable (toLowercase : String → String) (memberships : List GroupMembership)

theorem map_groupSid_merged :
    (mergedMembershipsPerGroup toLowercase memberships).map GroupMembership.groupSid =
      (bestMembershipPerGroup memberships).map GroupMembership.groupSid := by
  rw [mergedMembershipsPerGroup, List.map_map]
  exact List.map_congr_left (fun kept _ => groupSid_mergeRoutes toLowercase memberships kept)

/-- A group has one merged entry. -/
theorem nodup_merged :
    ((mergedMembershipsPerGroup toLowercase memberships).map GroupMembership.groupSid).Nodup := by
  rw [map_groupSid_merged]
  exact nodup_bestPerKey _ _ _

/-- The groups of the merged entries are the groups of the entries. -/
theorem mem_map_groupSid_merged {sid : Sid} :
    sid ∈ (mergedMembershipsPerGroup toLowercase memberships).map GroupMembership.groupSid ↔
      ∃ membership ∈ memberships, membership.groupSid = sid := by
  rw [map_groupSid_merged, List.mem_map]
  constructor
  · rintro ⟨kept, member, same⟩
    exact ⟨kept, mem_of_mem_bestPerKey _ _ member, same⟩
  · rintro ⟨membership, member, rfl⟩
    exact exists_best_of_mem GroupMembership.groupSid GroupMembership.informativenessRank member

end Merged

end Stars
