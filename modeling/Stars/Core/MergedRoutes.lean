import Stars.Core.Merging

namespace Stars

open Collections

/-!
# The routes a merged entry shows

Merging the entries of a group keeps the most informative one and adds the routes
of the others to it.  Three things can be lost on the way.  An entry that was kept
without a path has no place for the routes of the others.  The hop before the
group is passed over where it is the member itself, as if the chain had only two
nodes.  And the historical SIDs of an entry that is not kept are dropped with it.
Nothing else is lost, no hop is invented, and a merged list stays as it is.
-/

/-- A further hop an entry knows: the one before the group on a chain of at least
three nodes, or a listed one. -/
def KnowsHop (entry : GroupMembership) (hop : MembershipHop) : Prop :=
  ∃ path, entry.path = some path ∧ (hop ∈ path.alsoVia ∨
    3 ≤ path.nodes.length ∧ lastHop path.nodes = some hop.sid ∧
      hop.name = path.names[path.nodes.length - 2]?.join)

/-- The hops that merging reads from an entry: the member itself is none. -/
def OffersHop (entry : GroupMembership) (hop : MembershipHop) : Prop :=
  ∃ path, entry.path = some path ∧ (hop ∈ path.alsoVia ∨
    3 ≤ path.nodes.length ∧ lastHop path.nodes = some hop.sid ∧ hop.sid ≠ entry.memberSid ∧
      hop.name = path.names[path.nodes.length - 2]?.join)

/-- A merged entry shows a route: as the last hop of its chain or once among the
further ones. -/
def ShowsRoute (merged : GroupMembership) (sid : Sid) : Prop :=
  ∃ path, merged.path = some path ∧
    (lastHop path.nodes = some sid ∨ (path.alsoVia.map MembershipHop.sid).count sid = 1)

/-- An entry with other further routes. -/
def GroupMembership.withAlsoVia (entry : GroupMembership) (alsoVia : List MembershipHop) :
    GroupMembership :=
  { entry with path := entry.path.map (fun path => { path with alsoVia := alsoVia }) }

/-- What merging does to a list of memberships when it loses nothing. -/
structure LosesNoRoute (toLowercase : String → String) (memberships : List GroupMembership) :
    Prop where
  first_appearance :
    (mergedMembershipsPerGroup toLowercase memberships).map GroupMembership.groupSid =
      (memberships.map GroupMembership.groupSid).eraseDups
  same_kept : List.Forall₂ (fun kept merged => ∃ alsoVia, merged = kept.withAlsoVia alsoVia)
    (bestMembershipPerGroup memberships) (mergedMembershipsPerGroup toLowercase memberships)
  routes : ∀ entry ∈ memberships, ∀ hop, KnowsHop entry hop →
    ∃ merged ∈ mergedMembershipsPerGroup toLowercase memberships,
      merged.groupSid = entry.groupSid ∧ ShowsRoute merged hop.sid
  uninvented : ∀ merged ∈ mergedMembershipsPerGroup toLowercase memberships,
    ∀ path, merged.path = some path → ∀ hop ∈ path.alsoVia,
      ∃ entry ∈ memberships, entry.groupSid = merged.groupSid ∧ KnowsHop entry hop
  histories : ∀ entry ∈ memberships, ∀ sid ∈ entry.groupSidHistory,
    ∃ merged ∈ mergedMembershipsPerGroup toLowercase memberships,
      merged.groupSid = entry.groupSid ∧ sid ∈ merged.groupSidHistory
  idempotent : mergedMembershipsPerGroup toLowercase
    (mergedMembershipsPerGroup toLowercase memberships) =
      mergedMembershipsPerGroup toLowercase memberships

/-- The entries of one group. -/
def entriesOf (memberships : List GroupMembership) (group : Sid) : List GroupMembership :=
  memberships.filter (fun entry => entry.groupSid = group)

/-- The kept entry of a group can take up what the others know: it has a path
where another entry knows a route, a hop that is the member itself is shown
already, and it carries every historical SID. -/
structure KeptTakesUp (memberships : List GroupMembership) (kept : GroupMembership) : Prop where
  path : kept.path = none → ∀ entry ∈ entriesOf memberships kept.groupSid, ∀ hop,
    ¬KnowsHop entry hop
  ownMember : ∀ path, kept.path = some path →
    ∀ entry ∈ entriesOf memberships kept.groupSid, ∀ hop, KnowsHop entry hop →
      hop.sid = entry.memberSid → lastHop path.nodes = some hop.sid ∨
        ∃ other ∈ entriesOf memberships kept.groupSid, ∃ name, OffersHop other ⟨hop.sid, name⟩
  history : ∀ entry ∈ entriesOf memberships kept.groupSid,
    entry.groupSidHistory ⊆ kept.groupSidHistory

/-- Noting a hop keeps one hop for each SID, a named one first. -/
theorem noteHop_eq (hop : MembershipHop) (noted : List MembershipHop) :
    noteHop hop noted =
      insertBest MembershipHop.sid (fun noted => noted.name.isSome) hop noted := by
  induction noted with
  | nil => rfl
  | cons existing rest ih =>
      rw [noteHop, insertBest, ih]
      by_cases same : existing.sid = hop.sid
      · rw [if_pos same, if_pos same]
        rcases existing with ⟨sid, _ | name⟩
        · rcases hop with ⟨_, _ | _⟩
          · rfl
          · cases same
            rfl
        · rcases hop with ⟨_, _ | _⟩ <;> rfl
      · rw [if_neg same, if_neg same]

/-- The further hops other than the last hop of the chain that is kept. -/
def otherHops (keptLastHop : Option Sid) (hops : List MembershipHop) : List MembershipHop :=
  hops.filter (fun hop => some hop.sid ≠ keptLastHop)

section MergeHops

variable (toLowercase : String → String) {keptLastHop : Option Sid}
  {alsoVia extra : List MembershipHop}

instance : Std.TransCmp (compareHops toLowercase) := by
  have byName : Std.TransCmp (fun left right : MembershipHop =>
      Order.compareText (toLowercase (left.name.getD "")) (toLowercase (right.name.getD ""))) :=
    Order.transCmp_on (fun hop : MembershipHop => toLowercase (hop.name.getD ""))
  have bySid : Std.TransCmp (fun left right : MembershipHop =>
      Order.compareText left.sid.value right.sid.value) :=
    Order.transCmp_on (fun hop : MembershipHop => hop.sid.value)
  exact inferInstanceAs (Std.TransCmp (compareLex
    (fun left right : MembershipHop => Order.compareText (toLowercase (left.name.getD ""))
      (toLowercase (right.name.getD "")))
    (fun left right : MembershipHop => Order.compareText left.sid.value right.sid.value)))

theorem mergeHops_eq :
    mergeHops toLowercase keptLastHop alsoVia extra =
      Order.sortBy (compareHops toLowercase) id (bestPerKey MembershipHop.sid
        (fun hop => hop.name.isSome) (otherHops keptLastHop (alsoVia ++ extra))) := by
  have noting : (fun noted hop => noteHop hop noted) = fun noted hop =>
      insertBest MembershipHop.sid (fun noted => noted.name.isSome) hop noted := by
    funext noted hop
    exact noteHop_eq hop noted
  rw [mergeHops, noting]
  rfl

/-- A merged hop is one of the given hops. -/
theorem mem_of_mem_mergeHops {hop : MembershipHop}
    (member : hop ∈ mergeHops toLowercase keptLastHop alsoVia extra) :
    hop ∈ alsoVia ++ extra ∧ some hop.sid ≠ keptLastHop := by
  rw [mergeHops_eq, Order.mem_sortBy] at member
  have inside := List.mem_filter.mp (mem_of_mem_bestPerKey _ _ member)
  exact ⟨inside.1, of_decide_eq_true inside.2⟩

theorem nodup_mergeHops :
    ((mergeHops toLowercase keptLastHop alsoVia extra).map MembershipHop.sid).Nodup := by
  rw [mergeHops_eq, ((Order.perm_sortBy _).map MembershipHop.sid).nodup_iff]
  exact nodup_bestPerKey _ _ _

/-- Every given hop beside the last hop of the kept chain is merged. -/
theorem exists_mem_mergeHops {hop : MembershipHop} (member : hop ∈ alsoVia ++ extra)
    (other : some hop.sid ≠ keptLastHop) :
    ∃ merged ∈ mergeHops toLowercase keptLastHop alsoVia extra, merged.sid = hop.sid := by
  have inside : hop ∈ otherHops keptLastHop (alsoVia ++ extra) :=
    List.mem_filter.mpr ⟨member, decide_eq_true other⟩
  rcases exists_best_of_mem MembershipHop.sid (fun hop => hop.name.isSome) inside with
    ⟨merged, best, same⟩
  refine ⟨merged, ?_, same⟩
  rw [mergeHops_eq, Order.mem_sortBy]
  exact best

/-- Merged hops stay as they are when they are merged again. -/
theorem mergeHops_again :
    mergeHops toLowercase keptLastHop (mergeHops toLowercase keptLastHop alsoVia extra)
        (mergeHops toLowercase keptLastHop alsoVia extra) =
      mergeHops toLowercase keptLastHop alsoVia extra := by
  have others : ∀ hop ∈ mergeHops toLowercase keptLastHop alsoVia extra,
      decide (some hop.sid ≠ keptLastHop) = true :=
    fun hop member => decide_eq_true (mem_of_mem_mergeHops toLowercase member).2
  have sorted : (mergeHops toLowercase keptLastHop alsoVia extra).Pairwise
      (Order.NotAfter (compareHops toLowercase) id) := by
    rw [mergeHops_eq]
    exact Order.pairwise_sortBy _
  have once : ((mergeHops toLowercase keptLastHop alsoVia extra).map MembershipHop.sid).Nodup :=
    nodup_mergeHops toLowercase
  generalize mergeHops toLowercase keptLastHop alsoVia extra = merged at others sorted once ⊢
  rw [mergeHops_eq, otherHops, List.filter_append, List.filter_eq_self.mpr others,
    bestPerKey_append_of_subset _ _ once (fun hop _ => lt_irrefl hop.name.isSome)
      (List.Subset.refl merged)]
  exact sorted.insertionSort_eq

end MergeHops

theorem mem_entriesOf {memberships : List GroupMembership} {group : Sid}
    {entry : GroupMembership} :
    entry ∈ entriesOf memberships group ↔ entry ∈ memberships ∧ entry.groupSid = group := by
  rw [entriesOf, List.mem_filter, decide_eq_true_iff]

theorem KnowsHop.of_offers {entry : GroupMembership} {hop : MembershipHop}
    (offers : OffersHop entry hop) : KnowsHop entry hop := by
  rcases offers with ⟨path, found, listed | ⟨long, last, _, name⟩⟩
  · exact ⟨path, found, Or.inl listed⟩
  · exact ⟨path, found, Or.inr ⟨long, last, name⟩⟩

theorem OffersHop.of_knows {entry : GroupMembership} {hop : MembershipHop}
    (knows : KnowsHop entry hop) (other : hop.sid ≠ entry.memberSid) : OffersHop entry hop := by
  rcases knows with ⟨path, found, listed | ⟨long, last, name⟩⟩
  · exact ⟨path, found, Or.inl listed⟩
  · exact ⟨path, found, Or.inr ⟨long, last, other, name⟩⟩

/-- The hops read from an entry: the listed ones, and the hop before the group
when it is neither the last hop of the kept chain nor the member itself. -/
theorem mem_extraHops_iff {keptLastHop : Option Sid} {entry : GroupMembership}
    {hop : MembershipHop} :
    hop ∈ extraHops keptLastHop entry ↔
      ∃ path, entry.path = some path ∧ (hop ∈ path.alsoVia ∨
        3 ≤ path.nodes.length ∧ lastHop path.nodes = some hop.sid ∧ hop.sid ≠ entry.memberSid ∧
          hop.name = path.names[path.nodes.length - 2]?.join ∧ some hop.sid ≠ keptLastHop) := by
  rw [extraHops]
  cases found : entry.path with
  | none =>
      constructor
      · intro impossible
        cases impossible
      · rintro ⟨_, impossible, _⟩
        cases impossible
  | some path =>
      have exists_path : ∀ {holds : MembershipPath → Prop},
          (∃ other, some path = some other ∧ holds other) ↔ holds path := by simp
      rw [exists_path, List.mem_append, or_comm]
      apply or_congr_right
      by_cases long : 3 ≤ path.nodes.length
      · have last : lastHop path.nodes = path.nodes[path.nodes.length - 2]? := by
          rw [lastHop, if_neg (by omega)]
        rw [if_pos long, last]
        cases path.nodes[path.nodes.length - 2]? with
        | none => simp
        | some sid =>
            rcases hop with ⟨hopSid, name⟩
            simp only [long, true_and, Option.some.injEq]
            split
            · rename_i apart
              rw [List.mem_singleton, MembershipHop.mk.injEq]
              constructor
              · rintro ⟨rfl, rfl⟩
                exact ⟨rfl, apart.2, rfl, apart.1⟩
              · rintro ⟨rfl, _, rfl, _⟩
                exact ⟨rfl, rfl⟩
            · rename_i same
              constructor
              · intro impossible
                cases impossible
              · rintro ⟨rfl, apart, _, other⟩
                exact absurd ⟨other, apart⟩ same
      · rw [if_neg long]
        simp [long]

theorem OffersHop.of_mem_extraHops {keptLastHop : Option Sid} {entry : GroupMembership}
    {hop : MembershipHop} (member : hop ∈ extraHops keptLastHop entry) : OffersHop entry hop := by
  rcases mem_extraHops_iff.mp member with ⟨path, found, listed | ⟨long, last, apart, name, _⟩⟩
  · exact ⟨path, found, Or.inl listed⟩
  · exact ⟨path, found, Or.inr ⟨long, last, apart, name⟩⟩

theorem OffersHop.mem_extraHops {keptLastHop : Option Sid} {entry : GroupMembership}
    {hop : MembershipHop} (offers : OffersHop entry hop) (other : some hop.sid ≠ keptLastHop) :
    hop ∈ extraHops keptLastHop entry := by
  rw [mem_extraHops_iff]
  rcases offers with ⟨path, found, listed | ⟨long, last, apart, name⟩⟩
  · exact ⟨path, found, Or.inl listed⟩
  · exact ⟨path, found, Or.inr ⟨long, last, apart, name, other⟩⟩

/-- An entry reads no hop before the group from itself. -/
theorem extraHops_self {entry : GroupMembership} {path : MembershipPath}
    (found : entry.path = some path) : extraHops (lastHop path.nodes) entry = path.alsoVia := by
  rw [extraHops, found]
  dsimp only
  by_cases long : 3 ≤ path.nodes.length
  · have last : lastHop path.nodes = path.nodes[path.nodes.length - 2]? := by
      rw [lastHop, if_neg (by omega)]
    rw [if_pos long, last]
    cases path.nodes[path.nodes.length - 2]? with
    | none => rfl
    | some sid => simp
  · rw [if_neg long]
    rfl

theorem withAlsoVia_self {entry : GroupMembership} {path : MembershipPath}
    (found : entry.path = some path) : entry.withAlsoVia path.alsoVia = entry := by
  rcases entry with ⟨memberSid, groupSid, direct, groupName, _, count, history⟩
  cases found
  rfl

section MergeRoutes

variable (toLowercase : String → String) {memberships : List GroupMembership}
  {kept : GroupMembership} {path : MembershipPath}

/-- The further routes of the merged entry. -/
def mergedVia (memberships : List GroupMembership) (kept : GroupMembership)
    (path : MembershipPath) : List MembershipHop :=
  mergeHops toLowercase (lastHop path.nodes) path.alsoVia
    ((entriesOf memberships kept.groupSid).flatMap (extraHops (lastHop path.nodes)))

/-- An entry without a path stays as it is. -/
theorem mergeRoutes_of_pathless (pathless : kept.path = none) :
    mergeRoutes toLowercase memberships kept = kept := by
  rw [mergeRoutes, pathless]

/-- The kept entry is one of the entries of its group; so where no entry has a
further hop, it has none itself. -/
theorem mergeRoutes_of_path (member : kept ∈ memberships) (found : kept.path = some path) :
    mergeRoutes toLowercase memberships kept =
      kept.withAlsoVia (mergedVia toLowercase memberships kept path) := by
  have own : path.alsoVia ⊆
      (entriesOf memberships kept.groupSid).flatMap (extraHops (lastHop path.nodes)) := by
    intro hop listed
    exact List.mem_flatMap.mpr ⟨kept, mem_entriesOf.mpr ⟨member, rfl⟩,
      mem_extraHops_iff.mpr ⟨path, found, Or.inl listed⟩⟩
  rw [mergeRoutes, found]
  dsimp only
  rw [GroupMembership.withAlsoVia, mergedVia, found, Option.map_some]
  change (if ((entriesOf memberships kept.groupSid).flatMap
    (extraHops (lastHop path.nodes))).isEmpty = true then kept else _) = _
  split
  · rename_i nothing
    rw [List.isEmpty_iff] at nothing
    rw [nothing] at own ⊢
    have empty := List.subset_nil.mp own
    have same := withAlsoVia_self found
    rw [GroupMembership.withAlsoVia, found, Option.map_some, empty] at same
    rw [empty]
    exact same.symm
  · rfl

theorem path_mergeRoutes (member : kept ∈ memberships) (found : kept.path = some path) :
    (mergeRoutes toLowercase memberships kept).path =
      some { path with alsoVia := mergedVia toLowercase memberships kept path } := by
  rw [mergeRoutes_of_path toLowercase member found, GroupMembership.withAlsoVia, found,
    Option.map_some]

/-- A further route of the merged entry is a hop that an entry of the group
offers. -/
theorem exists_offers_of_mem (member : kept ∈ memberships) (found : kept.path = some path)
    {hop : MembershipHop} (merged : hop ∈ mergedVia toLowercase memberships kept path) :
    ∃ other ∈ entriesOf memberships kept.groupSid, OffersHop other hop := by
  rcases List.mem_append.mp (mem_of_mem_mergeHops toLowercase merged).1 with own | extra
  · exact ⟨kept, mem_entriesOf.mpr ⟨member, rfl⟩, path, found, Or.inl own⟩
  · rcases List.mem_flatMap.mp extra with ⟨other, listed, inside⟩
    exact ⟨other, listed, .of_mem_extraHops inside⟩

/-- The merged entry shows the last hop of its chain and every hop that an entry
of the group offers. -/
theorem showsRoute_iff (member : kept ∈ memberships) {sid : Sid} :
    ShowsRoute (mergeRoutes toLowercase memberships kept) sid ↔
      ∃ path, kept.path = some path ∧ (lastHop path.nodes = some sid ∨
        ∃ other ∈ entriesOf memberships kept.groupSid, ∃ name, OffersHop other ⟨sid, name⟩) := by
  constructor
  · rintro ⟨shownPath, foundPath, shown⟩
    cases found : kept.path with
    | none =>
        rw [mergeRoutes_of_pathless toLowercase found, found] at foundPath
        cases foundPath
    | some path =>
        rw [path_mergeRoutes toLowercase member found] at foundPath
        cases foundPath
        refine ⟨path, rfl, ?_⟩
        rcases shown with last | once
        · exact Or.inl last
        · have listed : sid ∈ (mergedVia toLowercase memberships kept path).map
              MembershipHop.sid := by
            rw [← List.count_pos_iff, once]
            exact Nat.one_pos
          rcases List.mem_map.mp listed with ⟨hop, inside, rfl⟩
          rcases exists_offers_of_mem toLowercase member found inside with ⟨other, entry, offers⟩
          exact Or.inr ⟨other, entry, hop.name, offers⟩
  · rintro ⟨path, found, shown⟩
    refine ⟨_, path_mergeRoutes toLowercase member found, ?_⟩
    by_cases last : lastHop path.nodes = some sid
    · exact Or.inl last
    · rcases shown.resolve_left last with ⟨other, entry, name, offers⟩
      have extra := List.mem_flatMap.mpr ⟨other, entry, offers.mem_extraHops (Ne.symm last)⟩
      rcases exists_mem_mergeHops toLowercase (List.mem_append_right path.alsoVia extra)
        (Ne.symm last) with ⟨merged, inside, same⟩
      apply Or.inr
      apply List.count_eq_one_of_mem (nodup_mergeHops toLowercase)
      exact List.mem_map.mpr ⟨merged, inside, same⟩

/-- Merging the entry of a group once more, as the only entry, changes nothing. -/
theorem mergeRoutes_again (member : kept ∈ memberships) {others : List GroupMembership}
    (only : entriesOf others kept.groupSid = [mergeRoutes toLowercase memberships kept]) :
    mergeRoutes toLowercase others (mergeRoutes toLowercase memberships kept) =
      mergeRoutes toLowercase memberships kept := by
  cases found : kept.path with
  | none =>
      apply mergeRoutes_of_pathless
      rw [mergeRoutes_of_pathless toLowercase found, found]
  | some path =>
      have listed : mergeRoutes toLowercase memberships kept ∈ others := by
        have inside := List.mem_singleton_self (mergeRoutes toLowercase memberships kept)
        rw [← only] at inside
        exact (mem_entriesOf.mp inside).1
      have shown := path_mergeRoutes toLowercase member found
      have again : mergedVia toLowercase others (mergeRoutes toLowercase memberships kept)
          { path with alsoVia := mergedVia toLowercase memberships kept path } =
            mergedVia toLowercase memberships kept path := by
        rw [mergedVia, groupSid_mergeRoutes, only, List.flatMap_singleton, extraHops_self shown]
        exact mergeHops_again toLowercase
      rw [mergeRoutes_of_path toLowercase listed shown, again]
      exact withAlsoVia_self shown

end MergeRoutes

/-! ## Merged lists -/

section Merged

variable (toLowercase : String → String) {memberships : List GroupMembership}
  {kept : GroupMembership}

theorem mem_of_best (best : kept ∈ bestMembershipPerGroup memberships) : kept ∈ memberships :=
  mem_of_mem_bestPerKey _ _ best

/-- The merged entry of a group comes from the kept entry of that group. -/
theorem merged_eq_of_group (best : kept ∈ bestMembershipPerGroup memberships)
    {merged : GroupMembership} (member : merged ∈ mergedMembershipsPerGroup toLowercase memberships)
    (same : merged.groupSid = kept.groupSid) :
    merged = mergeRoutes toLowercase memberships kept := by
  rcases List.mem_map.mp member with ⟨other, otherBest, rfl⟩
  rw [groupSid_mergeRoutes] at same
  have equal : other = kept :=
    List.inj_on_of_nodup_map (nodup_bestPerKey _ _ _) otherBest best same
  rw [equal]

theorem map_groupSid_eq_eraseDups :
    (mergedMembershipsPerGroup toLowercase memberships).map GroupMembership.groupSid =
      (memberships.map GroupMembership.groupSid).eraseDups := by
  rw [map_groupSid_merged]
  exact map_key_bestPerKey _ _ _

theorem merged_same_kept :
    List.Forall₂ (fun kept merged => ∃ alsoVia, merged = kept.withAlsoVia alsoVia)
      (bestMembershipPerGroup memberships) (mergedMembershipsPerGroup toLowercase memberships) := by
  rw [mergedMembershipsPerGroup, List.forall₂_map_right_iff, List.forall₂_same]
  intro kept best
  cases found : kept.path with
  | none =>
      refine ⟨[], ?_⟩
      rw [mergeRoutes_of_pathless toLowercase found]
      rcases kept with ⟨memberSid, groupSid, direct, groupName, _, count, history⟩
      cases found
      rfl
  | some path => exact ⟨_, mergeRoutes_of_path toLowercase (mem_of_best best) found⟩

/-- No hop is invented. -/
theorem merged_uninvented {merged : GroupMembership}
    (member : merged ∈ mergedMembershipsPerGroup toLowercase memberships) {path : MembershipPath}
    (found : merged.path = some path) {hop : MembershipHop} (listed : hop ∈ path.alsoVia) :
    ∃ entry ∈ memberships, entry.groupSid = merged.groupSid ∧ KnowsHop entry hop := by
  rcases List.mem_map.mp member with ⟨kept, best, rfl⟩
  cases keptPath : kept.path with
  | none =>
      rw [mergeRoutes_of_pathless toLowercase keptPath, keptPath] at found
      cases found
  | some own =>
      rw [path_mergeRoutes toLowercase (mem_of_best best) keptPath] at found
      cases found
      rcases exists_offers_of_mem toLowercase (mem_of_best best) keptPath listed with
        ⟨entry, inside, offers⟩
      rw [groupSid_mergeRoutes]
      exact ⟨entry, (mem_entriesOf.mp inside).1, (mem_entriesOf.mp inside).2, .of_offers offers⟩

/-- The only entry of a group in a merged list. -/
theorem entriesOf_merged (best : kept ∈ bestMembershipPerGroup memberships) :
    entriesOf (mergedMembershipsPerGroup toLowercase memberships) kept.groupSid =
      [mergeRoutes toLowercase memberships kept] := by
  have distinct : (entriesOf (mergedMembershipsPerGroup toLowercase memberships)
      kept.groupSid).Nodup := (nodup_merged toLowercase memberships).of_map.filter _
  apply List.perm_singleton.mp
  rw [List.perm_ext_iff_of_nodup distinct (List.nodup_singleton _)]
  intro merged
  rw [mem_entriesOf, List.mem_singleton]
  constructor
  · exact fun inside => merged_eq_of_group toLowercase best inside.1 inside.2
  · rintro rfl
    exact ⟨List.mem_map_of_mem best, groupSid_mergeRoutes toLowercase memberships kept⟩

theorem merged_idempotent :
    mergedMembershipsPerGroup toLowercase (mergedMembershipsPerGroup toLowercase memberships) =
      mergedMembershipsPerGroup toLowercase memberships := by
  have best : bestMembershipPerGroup (mergedMembershipsPerGroup toLowercase memberships) =
      mergedMembershipsPerGroup toLowercase memberships :=
    bestPerKey_of_nodup _ _ (nodup_merged toLowercase memberships)
  rw [mergedMembershipsPerGroup, best]
  conv_rhs => rw [← List.map_id (mergedMembershipsPerGroup toLowercase memberships)]
  apply List.map_congr_left
  intro merged member
  rcases List.mem_map.mp member with ⟨kept, inside, rfl⟩
  exact mergeRoutes_again toLowercase (mem_of_best inside) (entriesOf_merged toLowercase inside)

/-- Every entry has a kept entry of its group. -/
theorem exists_kept {entry : GroupMembership} (member : entry ∈ memberships) :
    ∃ kept ∈ bestMembershipPerGroup memberships,
      entry ∈ entriesOf memberships kept.groupSid := by
  rcases exists_best_of_mem GroupMembership.groupSid GroupMembership.informativenessRank member
    with ⟨kept, best, same⟩
  exact ⟨kept, best, mem_entriesOf.mpr ⟨member, same.symm⟩⟩

/-- What the merged entry of a group shows is what is made of its kept entry. -/
theorem exists_merged_iff (best : kept ∈ bestMembershipPerGroup memberships)
    {entry : GroupMembership} (inside : entry ∈ entriesOf memberships kept.groupSid)
    {shown : GroupMembership → Prop} :
    (∃ merged ∈ mergedMembershipsPerGroup toLowercase memberships,
      merged.groupSid = entry.groupSid ∧ shown merged) ↔
      shown (mergeRoutes toLowercase memberships kept) := by
  have same := (mem_entriesOf.mp inside).2
  constructor
  · rintro ⟨merged, listed, group, visible⟩
    rw [merged_eq_of_group toLowercase best listed (group.trans same)] at visible
    exact visible
  · intro visible
    refine ⟨_, List.mem_map_of_mem best, ?_, visible⟩
    rw [groupSid_mergeRoutes]
    exact same.symm

theorem keptTakesUp_of_losesNoRoute (spec : LosesNoRoute toLowercase memberships)
    (best : kept ∈ bestMembershipPerGroup memberships) : KeptTakesUp memberships kept := by
  have shows : ∀ entry ∈ entriesOf memberships kept.groupSid, ∀ hop, KnowsHop entry hop →
      ShowsRoute (mergeRoutes toLowercase memberships kept) hop.sid := by
    intro entry inside hop knows
    have routes := spec.routes entry (mem_entriesOf.mp inside).1 hop knows
    exact (exists_merged_iff toLowercase best inside).mp routes
  constructor
  · intro pathless entry inside hop knows
    rcases (showsRoute_iff toLowercase (mem_of_best best)).mp (shows entry inside hop knows) with
      ⟨path, found, _⟩
    rw [pathless] at found
    cases found
  · intro path found entry inside hop knows _
    rcases (showsRoute_iff toLowercase (mem_of_best best)).mp (shows entry inside hop knows) with
      ⟨same, again, shown⟩
    cases Option.some.inj (again.symm.trans found)
    exact shown
  · intro entry inside sid carried
    have histories := spec.histories entry (mem_entriesOf.mp inside).1 sid carried
    have visible := (exists_merged_iff toLowercase best inside).mp histories
    rw [groupSidHistory_mergeRoutes] at visible
    exact visible

/-- A kept entry that takes everything up shows the hops of the other entries. -/
theorem showsRoute_of_takesUp (best : kept ∈ bestMembershipPerGroup memberships)
    (takesUp : KeptTakesUp memberships kept) {entry : GroupMembership}
    (inside : entry ∈ entriesOf memberships kept.groupSid) {hop : MembershipHop}
    (knows : KnowsHop entry hop) :
    ShowsRoute (mergeRoutes toLowercase memberships kept) hop.sid := by
  rw [showsRoute_iff toLowercase (mem_of_best best)]
  cases found : kept.path with
  | none => exact absurd knows (takesUp.path found entry inside hop)
  | some path =>
      refine ⟨path, rfl, ?_⟩
      by_cases own : hop.sid = entry.memberSid
      · exact takesUp.ownMember path found entry inside hop knows own
      · exact Or.inr ⟨entry, inside, hop.name, .of_knows knows own⟩

theorem losesNoRoute_of_keptTakesUp
    (takesUp : ∀ kept ∈ bestMembershipPerGroup memberships, KeptTakesUp memberships kept) :
    LosesNoRoute toLowercase memberships where
  first_appearance := map_groupSid_eq_eraseDups toLowercase
  same_kept := merged_same_kept toLowercase
  routes entry member hop knows := by
    rcases exists_kept member with ⟨kept, best, inside⟩
    rw [exists_merged_iff toLowercase best inside]
    exact showsRoute_of_takesUp toLowercase best (takesUp kept best) inside knows
  uninvented _ member _ found _ listed := merged_uninvented toLowercase member found listed
  histories entry member sid carried := by
    rcases exists_kept member with ⟨kept, best, inside⟩
    rw [exists_merged_iff toLowercase best inside, groupSidHistory_mergeRoutes]
    exact (takesUp kept best).history entry inside carried
  idempotent := merged_idempotent toLowercase

end Merged

/-- Merging loses nothing exactly when the kept entry of every group can take up
what the other entries of the group know. -/
theorem losesNoRoute_iff (toLowercase : String → String) (memberships : List GroupMembership) :
    LosesNoRoute toLowercase memberships ↔
      ∀ kept ∈ bestMembershipPerGroup memberships, KeptTakesUp memberships kept :=
  ⟨fun spec _ best => keptTakesUp_of_losesNoRoute toLowercase spec best,
    losesNoRoute_of_keptTakesUp toLowercase⟩

/-! ## A kept entry without a path -/

/-- A direct membership from a source that supplies no path. -/
def pathlessEntry : GroupMembership where
  memberSid := ⟨"S-1-5-21-1-2-3-1105"⟩
  groupSid := ⟨"S-1-5-21-1-2-3-1200"⟩
  direct := true

/-- The membership in the same group from a source that knows a chain over
another group. -/
def chainedEntry : GroupMembership where
  memberSid := ⟨"S-1-5-21-1-2-3-1105"⟩
  groupSid := ⟨"S-1-5-21-1-2-3-1200"⟩
  direct := false
  path := some
    { nodes := [⟨"S-1-5-21-1-2-3-1105"⟩, ⟨"S-1-5-21-1-2-3-1201"⟩, ⟨"S-1-5-21-1-2-3-1200"⟩]
      names := [none, none, none]
      source := .domainGroup
      complete := true
      alsoVia := [] }
  groupSidHistoryCount := 1
  groupSidHistory := [⟨"S-1-5-21-7-8-9-1200"⟩]

/-- The direct entry is kept; the route and the historical SID of the other one
are gone. -/
theorem pathlessEntry_loses_route :
    mergedMembershipsPerGroup id [pathlessEntry, chainedEntry] = [pathlessEntry] ∧
      KnowsHop chainedEntry ⟨⟨"S-1-5-21-1-2-3-1201"⟩, none⟩ ∧
      ¬LosesNoRoute id [pathlessEntry, chainedEntry] := by
  have merged : mergedMembershipsPerGroup id [pathlessEntry, chainedEntry] = [pathlessEntry] := by
    decide
  have knows : KnowsHop chainedEntry ⟨⟨"S-1-5-21-1-2-3-1201"⟩, none⟩ :=
    ⟨_, rfl, Or.inr ⟨by decide, by decide, by decide⟩⟩
  refine ⟨merged, knows, ?_⟩
  intro spec
  rcases spec.routes chainedEntry (by decide) _ knows with ⟨entry, member, _, path, found, _⟩
  rw [merged, List.mem_singleton] at member
  rw [member] at found
  cases found

end Stars
