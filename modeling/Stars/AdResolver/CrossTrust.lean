import Stars.AdResolver.Trusted
import Mathlib.Data.List.Chain

namespace Stars
namespace AdResolver

open Collections

/-!
# Groups and chains that cross a trust

The domain controller of the trusted domain says which groups it hands to other
domains.  The memberships are divided by that list, and SIDs are compared without
regard to case.  A resource membership of a group that crosses continues the home
chain: the two chains share the group, which is the last node of the one and the
first of the other.  The names run beside the nodes and may be fewer or more.
-/

/-- Two texts of one SID. -/
def SameSidText (left right : String) : Prop := Text.eqIgnoreAsciiCase left right = true

instance (left right : String) : Decidable (SameSidText left right) :=
  inferInstanceAs (Decidable (_ = true))

/-- The group of a membership is in the list of crossing SIDs. -/
def Crosses (globalAndUniversal : List String) (membership : GroupMembership) : Prop :=
  ∃ listed ∈ globalAndUniversal, SameSidText listed membership.groupSid.value

instance (globalAndUniversal : List String) (membership : GroupMembership) :
    Decidable (Crosses globalAndUniversal membership) :=
  inferInstanceAs (Decidable (∃ listed ∈ globalAndUniversal, _))

/-- The memberships divided by the list of the crossing SIDs: the ones that cross,
one named membership for each of the other groups, and the listed SIDs without a
membership. -/
structure CrossTrustPartition (memberships : List GroupMembership)
    (globalAndUniversal : List String) (selection : CrossTrustSelection) : Prop where
  kept : selection.kept = memberships.filter (fun membership =>
    Crosses globalAndUniversal membership)
  home_only : ∃ named : List GroupMembership, named.Sublist memberships ∧
    selection.homeOnly = named.map (fun membership =>
      display membership.groupSid membership.groupName) ∧
    named.Pairwise (fun left right => ¬SameSidText left.groupSid.value right.groupSid.value) ∧
    (∀ membership ∈ named, ¬Crosses globalAndUniversal membership) ∧
    ∀ membership ∈ memberships, ¬Crosses globalAndUniversal membership →
      ∃ shown ∈ named, SameSidText shown.groupSid.value membership.groupSid.value
  without_chain : selection.withoutChain = (globalAndUniversal.filter (fun sid =>
    ¬∃ membership ∈ memberships, SameSidText sid membership.groupSid.value)).map Sid.mk

/-- A chain over edges of a relation from one SID to another. -/
structure ChainBetween (edge : Sid → Sid → Prop) (start target : Sid) (nodes : List Sid) :
    Prop where
  starts : nodes.head? = some start
  follows : nodes.IsChain edge
  arrives : nodes.getLast? = some target

/-- The names stand beside the nodes: those of the home chain up to the shared
group and those of the resource chain after it, each missing one left open. -/
structure NamesAligned (home resource joined : MembershipPath) : Prop where
  length : joined.names.length = joined.nodes.length
  front : ∀ index, index < home.nodes.length →
    joined.nodes[index]? = home.nodes[index]? ∧
      joined.names[index]? = some home.names[index]?.join
  back : ∀ index, index + 1 < resource.nodes.length →
    joined.nodes[home.nodes.length + index]? = resource.nodes[index + 1]? ∧
      joined.names[home.nodes.length + index]? = some resource.names[index + 1]?.join

/-- The chain of a resource membership after it was continued from a home
membership. -/
structure ContinuesChain (account : Sid) (home resource joined : GroupMembership) : Prop where
  member : joined.memberSid = account
  group : joined.groupSid = resource.groupSid
  pathless : home.path = none ∨ resource.path = none → joined.path = none
  path : ∀ homePath resourcePath, home.path = some homePath →
    resource.path = some resourcePath → ∃ path, joined.path = some path ∧
      (∀ edge via target, ChainBetween edge account via homePath.nodes →
        ChainBetween edge via target resourcePath.nodes →
          ChainBetween edge account target path.nodes) ∧
      NamesAligned homePath resourcePath path ∧
      (path.complete = true ↔ homePath.complete = true ∧ resourcePath.complete = true) ∧
      path.alsoVia = resourcePath.alsoVia

section Names

variable {names : List (Option String)} {length : Nat}

theorem length_resizeNames : (resizeNames names length).length = length := by
  simp [resizeNames]

/-- A name that is missing is left open, and one too many is dropped. -/
theorem getElem?_resizeNames {index : Nat} (inside : index < length) :
    (resizeNames names length)[index]? = some names[index]?.join := by
  rw [resizeNames, List.getElem?_take_of_lt inside]
  by_cases given : index < names.length
  · rw [List.getElem?_append_left given, List.getElem?_eq_getElem given, Option.join_some]
  · have missing : names.length ≤ index := Nat.le_of_not_lt given
    rw [List.getElem?_append_right missing, List.getElem?_replicate,
      List.getElem?_eq_none missing, if_pos (by omega)]
    rfl

end Names

/-- Two chains that share a node are one chain. -/
theorem ChainBetween.join {edge : Sid → Sid → Prop} {start via target : Sid}
    {first second : List Sid} (home : ChainBetween edge start via first)
    (resource : ChainBetween edge via target second) :
    ChainBetween edge start target (first ++ second.drop 1) := by
  rcases second with _ | ⟨shared, rest⟩
  · cases resource.starts
  have same : shared = via := Option.some.inj resource.starts
  rw [List.drop_one, List.tail_cons]
  constructor
  · rw [List.head?_append, home.starts]
    rfl
  · rw [List.isChain_append]
    have follows := resource.follows
    rw [List.isChain_cons] at follows
    refine ⟨home.follows, follows.2, ?_⟩
    intro last atEnd next atStart
    rw [home.arrives, Option.mem_some] at atEnd
    rw [← atEnd, ← same]
    exact follows.1 next atStart
  · have arrives := resource.arrives
    rw [List.getLast?_cons] at arrives
    rw [List.getLast?_append, home.arrives, ← same]
    cases atEnd : rest.getLast? with
    | none =>
        rw [atEnd] at arrives
        exact arrives
    | some last =>
        rw [atEnd] at arrives
        exact arrives

theorem joinPaths_aligned (home resource : MembershipPath) :
    NamesAligned home resource (joinPaths home resource) := by
  constructor
  · simp [joinPaths, length_resizeNames]
  · intro index inside
    rw [joinPaths]
    dsimp only
    rw [List.getElem?_append_left inside,
      List.getElem?_append_left (by rw [length_resizeNames]; exact inside),
      getElem?_resizeNames inside]
    exact ⟨rfl, rfl⟩
  · intro index inside
    rw [joinPaths]
    dsimp only
    rw [List.getElem?_append_right (Nat.le_add_right _ _),
      List.getElem?_append_right (by rw [length_resizeNames]; exact Nat.le_add_right _ _),
      length_resizeNames, Nat.add_sub_cancel_left, List.getElem?_drop, List.getElem?_drop,
      Nat.add_comm 1 index, getElem?_resizeNames inside]
    exact ⟨rfl, rfl⟩

theorem chainThrough_continues (account : Sid) (home resource : GroupMembership) :
    ContinuesChain account home resource (chainThrough account (some home) resource) := by
  constructor
  · rfl
  · rfl
  · rintro (pathless | pathless)
    · rw [chainThrough, pathless]
    · rw [chainThrough, pathless]
      cases home.path <;> rfl
  · intro homePath resourcePath homeFound resourceFound
    refine ⟨joinPaths homePath resourcePath, ?_, ?_, joinPaths_aligned homePath resourcePath, ?_,
      rfl⟩
    · rw [chainThrough, homeFound, resourceFound]
    · exact fun edge via target first second => first.join second
    · rw [joinPaths, Bool.and_eq_true]

/-! ## The division of the memberships -/

theorem sidKey_eq_iff (left right : Sid) :
    sidKey left = sidKey right ↔ SameSidText left.value right.value :=
  Text.toAsciiUppercase_eq_iff left.value right.value

theorem contains_crossing_iff {globalAndUniversal : List String} {membership : GroupMembership} :
    (globalAndUniversal.map Text.toAsciiUppercase).contains (sidKey membership.groupSid) = true ↔
      Crosses globalAndUniversal membership := by
  rw [List.contains_iff_mem, List.mem_map, Crosses]
  exact exists_congr (fun listed => and_congr_right (fun _ =>
    Text.toAsciiUppercase_eq_iff listed membership.groupSid.value))

/-- A listed SID has a membership exactly when one of the kept ones has it. -/
theorem contains_kept_iff {memberships : List GroupMembership} {globalAndUniversal : List String}
    {sid : String} (listed : sid ∈ globalAndUniversal) :
    ((memberships.filter (fun membership => Crosses globalAndUniversal membership)).map
        (fun membership => sidKey membership.groupSid)).contains
          (Text.toAsciiUppercase sid) = true ↔
      ∃ membership ∈ memberships, SameSidText sid membership.groupSid.value := by
  rw [List.contains_iff_mem, List.mem_map]
  constructor
  · rintro ⟨membership, kept, same⟩
    refine ⟨membership, (List.mem_filter.mp kept).1, ?_⟩
    exact (Text.toAsciiUppercase_eq_iff sid membership.groupSid.value).mp same.symm
  · rintro ⟨membership, member, same⟩
    refine ⟨membership, List.mem_filter.mpr ⟨member, decide_eq_true ⟨sid, listed, same⟩⟩, ?_⟩
    exact ((Text.toAsciiUppercase_eq_iff sid membership.groupSid.value).mpr same).symm

theorem selectCrossDomainMemberships_partition (memberships : List GroupMembership)
    (globalAndUniversal : List String) :
    CrossTrustPartition memberships globalAndUniversal
      (selectCrossDomainMemberships memberships globalAndUniversal) := by
  have crosses : ∀ membership : GroupMembership,
      (globalAndUniversal.map Text.toAsciiUppercase).contains (sidKey membership.groupSid) =
        decide (Crosses globalAndUniversal membership) := by
    intro membership
    rw [Bool.eq_iff_iff, contains_crossing_iff, decide_eq_true_iff]
  rw [selectCrossDomainMemberships]
  simp only [crosses]
  constructor
  · rfl
  · let others :=
      memberships.filter (fun membership => !decide (Crosses globalAndUniversal membership))
    let key := fun membership : GroupMembership => sidKey membership.groupSid
    have sublist : (distinctBy key [] others).Sublist others := distinctBy_sublist key others []
    refine ⟨distinctBy key [] others, sublist.trans List.filter_sublist, rfl, ?_, ?_, ?_⟩
    · have distinct := nodup_distinctBy key others []
      rw [List.Nodup, List.pairwise_map] at distinct
      apply distinct.imp
      exact fun differ same => differ ((sidKey_eq_iff _ _).mpr same)
    · intro membership shown
      simpa using (List.mem_filter.mp (sublist.subset shown)).2
    · intro membership member stays
      have inside : membership ∈ others := List.mem_filter.mpr ⟨member, by simpa using stays⟩
      rcases exists_key_of_mem key others [] inside List.not_mem_nil with ⟨shown, kept, same⟩
      exact ⟨shown, kept, (sidKey_eq_iff _ _).mp same⟩
  · refine congrArg (List.map Sid.mk) (List.filter_congr ?_)
    intro sid listed
    rw [Bool.eq_iff_iff, Bool.not_eq_true', decide_eq_true_iff, ← contains_kept_iff listed,
      Bool.not_eq_true]

/-- The groups that cross a trust partition the memberships, and a resource
membership continues the chain of the home membership that leads to it. -/
theorem crossTrust_partitions_and_continues :
    (∀ (memberships : List GroupMembership) (globalAndUniversal : List String),
      CrossTrustPartition memberships globalAndUniversal
        (selectCrossDomainMemberships memberships globalAndUniversal)) ∧
    ∀ (account : Sid) (home resource : GroupMembership),
      ContinuesChain account home resource (chainThrough account (some home) resource) :=
  ⟨selectCrossDomainMemberships_partition, chainThrough_continues⟩

end AdResolver
end Stars
