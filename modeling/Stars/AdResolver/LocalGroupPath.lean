import Stars.PermissionEngine.LocalGroups

namespace Stars

open PermissionEngine

/-!
# Ways into a local group

Two builders say how an account enters a local group of a target server: one reads
the group's direct members, the other takes the entries the expansion found.  The
shown chain names one way in and `alsoVia` the others.
-/

/-- The SIDs by which a path enters its group: the last one before the group, and the
further ones. -/
def MembershipPath.entrySids (path : MembershipPath) : List Sid :=
  path.nodes.dropLast.getLast?.toList ++ path.alsoVia.map MembershipHop.sid

namespace AdResolver

/-- A direct member of a local group. -/
structure LocalGroupMember where
  sid : Option Sid

/-- The account and the local group a path is built for, and the token SIDs with their
names. -/
structure LocalGroupRequest where
  userSid : Sid
  userName : Option String
  groupSid : Sid
  groupDisplay : String
  knownNames : Sid → Option String

namespace LocalGroupRequest

variable (toLowercase : String → String) (request : LocalGroupRequest)

def hasSelf (members : List LocalGroupMember) : Bool :=
  members.any (fun member => member.sid.any (fun sid => sid = request.userSid))

def hopKey (hop : MembershipHop) : String × Sid := (toLowercase (hop.name.getD ""), hop.sid)

/-- The known members other than the account, by name and then by SID. -/
def mediators (members : List LocalGroupMember) : List MembershipHop :=
  let hops := ((members.filterMap LocalGroupMember.sid).filter
      (fun sid => sid ≠ request.userSid)).filterMap
    (fun sid => (request.knownNames sid).map (fun name => { sid := sid, name := some name }))
  Order.dedupBy (fun left right => left.sid = right.sid)
    (Order.sortBy compareEntries (hopKey toLowercase) hops)

end LocalGroupRequest

/-- The path into one local group, from its direct members. -/
def localGroupPath (toLowercase : String → String) (request : LocalGroupRequest)
    (members : List LocalGroupMember) : MembershipPath :=
  let mediators := request.mediators toLowercase members
  if request.hasSelf members then
    { nodes := [request.userSid, request.groupSid]
      names := [request.userName, some request.groupDisplay]
      source := .localGroup
      complete := true
      alsoVia := mediators }
  else
    match mediators with
    | first :: rest =>
        { nodes := [request.userSid, first.sid, request.groupSid]
          names := [request.userName, first.name, some request.groupDisplay]
          source := .localGroup
          complete := true
          alsoVia := rest }
    | [] =>
        -- Likely nested via another local group.
        { nodes := [request.userSid, request.groupSid]
          names := [request.userName, some request.groupDisplay]
          source := .localGroup
          complete := false
          alsoVia := [] }

/-- Names the caller knows win over a lookup on this machine. -/
def labelOf (names lookupAccount : Sid → Option String) (sid : Sid) : Option String :=
  (names sid).or (lookupAccount sid)

/-- The SIDs of an entry other than the account's. -/
def othersOf (identity : Identity) (entry : LocalGroupEntry) : List Sid :=
  entry.via.filter (fun sid => sid ≠ identity.sid)

/-- The path of one entry of the expansion. -/
def entryPath (identity : Identity) (names lookupAccount : Sid → Option String)
    (entry : LocalGroupEntry) : MembershipPath :=
  let viaSelf := entry.via.head?.any (fun sid => sid = identity.sid)
  let rest := (othersOf identity entry).map
    (fun sid => ({ sid := sid, name := labelOf names lookupAccount sid } : MembershipHop))
  if viaSelf || rest.isEmpty then
    { nodes := [identity.sid, entry.group]
      names := [identity.name, some entry.name]
      source := .localGroup
      complete := true
      alsoVia := rest }
  else
    match rest with
    | first :: rest =>
        { nodes := [identity.sid, first.sid, entry.group]
          names := [identity.name, first.name, some entry.name]
          source := .localGroup
          complete := true
          alsoVia := rest }
    | [] =>
        { nodes := [identity.sid, entry.group]
          names := [identity.name, some entry.name]
          source := .localGroup
          complete := true
          alsoVia := [] }

def localGroupMemberships (identity : Identity) (entries : List LocalGroupEntry)
    (names lookupAccount : Sid → Option String) : List GroupMembership :=
  entries.map (fun entry =>
    let path := entryPath identity names lookupAccount entry
    { memberSid := identity.sid
      groupSid := entry.group
      direct := path.nodes.length = 2
      groupName := some entry.name
      path := some path
      -- Local server groups have no historical SIDs.
      groupSidHistoryCount := 0
      groupSidHistory := [] })

namespace LocalGroupRequest

variable (toLowercase : String → String) (request : LocalGroupRequest)

/-- The name and the SID an entry is placed by. -/
def placeOf (sid : Sid) : String × Sid :=
  (toLowercase ((request.knownNames sid).getD ""), sid)

def comparePlaces (left right : Sid) : Ordering :=
  compareEntries (request.placeOf toLowercase left) (request.placeOf toLowercase right)

instance : Std.TransCmp (request.comparePlaces toLowercase) :=
  Order.transCmp_on (request.placeOf toLowercase)

instance : Std.LawfulEqCmp (request.comparePlaces toLowercase) where
  compare_self := Std.ReflCmp.compare_self
  eq_of_compare := by
    intro left right same
    have places : request.placeOf toLowercase left = request.placeOf toLowercase right :=
      Std.LawfulEqCmp.eq_of_compare same
    exact congrArg Prod.snd places

def hopOf (sid : Sid) : MembershipHop where
  sid := sid
  name := request.knownNames sid

/-- A member of the group that a known token SID other than the account's own stands for. -/
def isRoute (members : List LocalGroupMember) (sid : Sid) : Prop :=
  some sid ∈ members.map LocalGroupMember.sid ∧ sid ≠ request.userSid ∧
    (request.knownNames sid).isSome = true

/-- The SIDs of the known members, each once and in order. -/
def routes (members : List LocalGroupMember) : List Sid :=
  Order.sortedSet (request.comparePlaces toLowercase)
    ((members.filterMap LocalGroupMember.sid).filter
      (fun sid => (request.knownNames sid).isSome && sid ≠ request.userSid))

variable {toLowercase request} {members : List LocalGroupMember} {sid : Sid}

theorem mem_routes : sid ∈ request.routes toLowercase members ↔ request.isRoute members sid := by
  rw [routes, Order.mem_sortedSet, List.mem_filter, Bool.and_eq_true, decide_eq_true_iff,
    List.mem_filterMap, isRoute, List.mem_map, and_comm (a := sid ≠ request.userSid)]

theorem filterMap_hop (sids : List Sid) :
    sids.filterMap (fun sid => (request.knownNames sid).map
        (fun name => ({ sid := sid, name := some name } : MembershipHop))) =
      (sids.filter (fun sid => (request.knownNames sid).isSome)).map request.hopOf := by
  induction sids with
  | nil => rfl
  | cons sid rest ih =>
      cases known : request.knownNames sid with
      | none =>
          have unknown : ¬(request.knownNames sid).isSome = true := by
            rw [known]
            exact Bool.false_ne_true
          rw [List.filterMap_cons_none (by rw [known]; rfl),
            List.filter_cons_of_neg (p := fun sid => (request.knownNames sid).isSome) unknown, ih]
      | some name =>
          have named : (request.knownNames sid).isSome = true := by
            rw [known]
            rfl
          rw [List.filterMap_cons_some (by rw [known]; rfl),
            List.filter_cons_of_pos (p := fun sid => (request.knownNames sid).isSome) named, ih,
            List.map_cons, hopOf, known]

/-- The sorted hops are the sorted SIDs with their names, so no SID is left twice. -/
theorem mediators_eq :
    request.mediators toLowercase members =
      (request.routes toLowercase members).map request.hopOf := by
  have sorted (sids : List Sid) :
      Order.sortBy compareEntries (hopKey toLowercase) (sids.map request.hopOf) =
        (Order.sortBy (request.comparePlaces toLowercase) id sids).map request.hopOf := by
    have keyed : ∀ sid ∈ sids,
        hopKey toLowercase (request.hopOf sid) = request.placeOf toLowercase sid :=
      fun _ _ => rfl
    exact (Order.map_sortBy keyed).symm
  rw [mediators, filterMap_hop, List.filter_filter, sorted, Order.dedupBy_map (fun _ _ => rfl)]
  rfl

theorem nodup_routes : (request.routes toLowercase members).Nodup := Order.nodup_sortedSet _

/-- Each route comes strictly before the next ones, by name and then by SID. -/
theorem pairwise_routes :
    (request.routes toLowercase members).Pairwise
      (fun left right => request.comparePlaces toLowercase left right = .lt) := by
  have sorted : (request.routes toLowercase members).Pairwise
      (Order.NotAfter (request.comparePlaces toLowercase) id) := Order.pairwise_sortedSet _
  refine (sorted.and nodup_routes).imp (fun {left right} both => ?_)
  cases outcome : request.comparePlaces toLowercase left right with
  | lt => rfl
  | eq => exact absurd (Std.LawfulEqCmp.eq_of_compare outcome) both.2
  | gt =>
      have before := both.1
      rw [Order.NotAfter, id, id, outcome] at before
      cases before

theorem hasSelf_iff :
    request.hasSelf members = true ↔ some request.userSid ∈ members.map LocalGroupMember.sid := by
  rw [hasSelf, List.any_eq_true, List.mem_map]
  constructor
  · intro own
    rcases own with ⟨member, listed, same⟩
    rcases Option.any_eq_true _ _ |>.mp same with ⟨sid, known, equal⟩
    exact ⟨member, listed, known.trans (congrArg some (of_decide_eq_true equal))⟩
  · intro own
    rcases own with ⟨member, listed, same⟩
    refine ⟨member, listed, ?_⟩
    rw [same]
    exact decide_eq_true rfl

theorem hasSelf_perm {others : List LocalGroupMember} (perm : members.Perm others) :
    request.hasSelf members = request.hasSelf others := by
  rw [Bool.eq_iff_iff, hasSelf_iff, hasSelf_iff]
  exact (perm.map _).mem_iff

theorem routes_perm {others : List LocalGroupMember} (perm : members.Perm others) :
    request.routes toLowercase members = request.routes toLowercase others :=
  Order.sortedSet_eq_of_mem_iff (fun _ => ((perm.filterMap _).filter _).mem_iff)

end LocalGroupRequest

section Members

variable {toLowercase : String → String} {request : LocalGroupRequest}
  {members : List LocalGroupMember}

open LocalGroupRequest

theorem map_sid_hopOf (sids : List Sid) :
    (sids.map request.hopOf).map MembershipHop.sid = sids := by
  rw [List.map_map]
  exact List.map_id sids

/-- The shown chain and the further ways in, by whether the account is a member itself and
by the routes. -/
theorem localGroupPath_self (own : request.hasSelf members = true) :
    localGroupPath toLowercase request members =
      { nodes := [request.userSid, request.groupSid]
        names := [request.userName, some request.groupDisplay]
        source := .localGroup
        complete := true
        alsoVia := (request.routes toLowercase members).map request.hopOf } := by
  unfold localGroupPath
  rw [if_pos own, mediators_eq]

theorem localGroupPath_route {first : Sid} {rest : List Sid}
    (other : request.hasSelf members = false)
    (listed : request.routes toLowercase members = first :: rest) :
    localGroupPath toLowercase request members =
      { nodes := [request.userSid, first, request.groupSid]
        names := [request.userName, request.knownNames first, some request.groupDisplay]
        source := .localGroup
        complete := true
        alsoVia := rest.map request.hopOf } := by
  unfold localGroupPath
  rw [if_neg (Bool.eq_false_iff.mp other), mediators_eq, listed]
  rfl

theorem localGroupPath_none (other : request.hasSelf members = false)
    (unlisted : request.routes toLowercase members = []) :
    localGroupPath toLowercase request members =
      { nodes := [request.userSid, request.groupSid]
        names := [request.userName, some request.groupDisplay]
        source := .localGroup
        complete := false
        alsoVia := [] } := by
  unfold localGroupPath
  rw [if_neg (Bool.eq_false_iff.mp other), mediators_eq, unlisted]
  rfl

theorem localGroupPath_perm {others : List LocalGroupMember} (perm : members.Perm others) :
    localGroupPath toLowercase request others = localGroupPath toLowercase request members := by
  unfold localGroupPath
  rw [mediators_eq, mediators_eq, routes_perm perm, hasSelf_perm perm]

/-- A complete path names the account, if it is a member, and every route, once each. -/
theorem entrySids_localGroupPath
    (complete : (localGroupPath toLowercase request members).complete = true) :
    (localGroupPath toLowercase request members).entrySids =
      (if request.hasSelf members then [request.userSid] else []) ++
        request.routes toLowercase members := by
  cases own : request.hasSelf members with
  | true =>
      rw [localGroupPath_self own, MembershipPath.entrySids, map_sid_hopOf]
      rfl
  | false =>
      cases listed : request.routes toLowercase members with
      | nil =>
          rw [localGroupPath_none own listed] at complete
          cases complete
      | cons first rest =>
          rw [localGroupPath_route own listed, MembershipPath.entrySids, map_sid_hopOf]
          rfl

theorem complete_iff :
    (localGroupPath toLowercase request members).complete = true ↔
      request.hasSelf members = true ∨ ∃ sid, request.isRoute members sid := by
  cases own : request.hasSelf members with
  | true =>
      rw [localGroupPath_self own]
      exact iff_of_true rfl (Or.inl rfl)
  | false =>
      cases listed : request.routes toLowercase members with
      | nil =>
          rw [localGroupPath_none own listed]
          refine iff_of_false Bool.false_ne_true ?_
          intro entered
          rcases entered with same | ⟨sid, route⟩
          · cases same
          · have member : sid ∈ request.routes toLowercase members := mem_routes.mpr route
            rw [listed] at member
            cases member
      | cons first rest =>
          rw [localGroupPath_route own listed]
          have member : first ∈ request.routes toLowercase members := by
            rw [listed]
            exact List.mem_cons_self
          exact iff_of_true rfl (Or.inr ⟨first, mem_routes.mp member⟩)

end Members

/-! ## The paths of the entries -/

section Entries

variable {identity : Identity} {names lookupAccount : Sid → Option String}
  {entry : LocalGroupEntry}

theorem mem_othersOf {sid : Sid} :
    sid ∈ othersOf identity entry ↔ sid ∈ entry.via ∧ sid ≠ identity.sid := by
  rw [othersOf, List.mem_filter, decide_eq_true_iff]

theorem viaSelf_iff {via : List Sid} {own : Sid} :
    via.head?.any (fun sid => sid = own) = true ↔ via.head? = some own := by
  cases via with
  | nil => exact iff_of_false Bool.false_ne_true (fun same => by cases same)
  | cons first rest =>
      rw [List.head?_cons, Option.any_some, decide_eq_true_iff, Option.some_inj]

/-- The account is shown where it stands first or alone. -/
theorem entrySids_entryPath :
    (entryPath identity names lookupAccount entry).entrySids =
      if entry.via.head? = some identity.sid ∨ othersOf identity entry = [] then
        identity.sid :: othersOf identity entry
      else othersOf identity entry := by
  have named (sids : List Sid) :
      (sids.map (fun sid =>
          ({ sid := sid, name := labelOf names lookupAccount sid } : MembershipHop))).map
        MembershipHop.sid = sids := by
    rw [List.map_map]
    exact List.map_id sids
  have taken : (entry.via.head?.any (fun sid => sid = identity.sid) ||
      ((othersOf identity entry).map (fun sid =>
        ({ sid := sid, name := labelOf names lookupAccount sid } : MembershipHop))).isEmpty) =
          true ↔ entry.via.head? = some identity.sid ∨ othersOf identity entry = [] := by
    rw [Bool.or_eq_true, viaSelf_iff, List.isEmpty_iff, List.map_eq_nil_iff]
  unfold entryPath
  dsimp only
  by_cases alone : entry.via.head? = some identity.sid ∨ othersOf identity entry = []
  · rw [if_pos alone, if_pos (taken.mpr alone), MembershipPath.entrySids, named]
    rfl
  · rw [if_neg alone, if_neg (fun shown => alone (taken.mp shown))]
    cases listed : othersOf identity entry with
    | nil => exact absurd (Or.inr listed) alone
    | cons first rest =>
        rw [List.map_cons, MembershipPath.entrySids, named]
        rfl

/-- Another SID than the account's is found as often as it is listed. -/
theorem count_entrySids {sid : Sid} (other : sid ≠ identity.sid) :
    (entryPath identity names lookupAccount entry).entrySids.count sid =
      (othersOf identity entry).count sid := by
  rw [entrySids_entryPath]
  by_cases alone : entry.via.head? = some identity.sid ∨ othersOf identity entry = []
  · rw [if_pos alone, List.count_cons_of_ne other.symm]
  · rw [if_neg alone]

/-- Each SID of an entry is shown or listed once exactly when no other SID than the
account's is repeated and the account, if it is there, stands first. -/
theorem count_entrySids_iff :
    (∀ sid ∈ entry.via,
        (entryPath identity names lookupAccount entry).entrySids.count sid = 1) ↔
      (othersOf identity entry).Nodup ∧
        (identity.sid ∈ entry.via → entry.via.head? = some identity.sid) := by
  have absent : (othersOf identity entry).count identity.sid = 0 :=
    List.count_eq_zero.mpr (fun listed => (mem_othersOf.mp listed).2 rfl)
  constructor
  · intro once
    refine ⟨List.nodup_iff_count_eq_one.mpr (fun sid listed => ?_), fun own => ?_⟩
    · have found := mem_othersOf.mp listed
      have kept : (entryPath identity names lookupAccount entry).entrySids.count sid =
          (othersOf identity entry).count sid := count_entrySids found.2
      rw [← kept]
      exact once sid found.1
    · by_contra later
      have found := once identity.sid own
      have crowded : othersOf identity entry ≠ [] := by
        intro empty
        cases listed : entry.via with
        | nil =>
            rw [listed] at own
            cases own
        | cons first rest =>
            have member : first ∈ entry.via := by
              rw [listed]
              exact List.mem_cons_self
            by_cases same : first = identity.sid
            · exact later (by rw [listed, same, List.head?_cons])
            · have other := mem_othersOf.mpr ⟨member, same⟩
              rw [empty] at other
              cases other
      rw [entrySids_entryPath, if_neg (not_or.mpr ⟨later, crowded⟩), absent] at found
      cases found
  · intro ordered sid listed
    by_cases own : sid = identity.sid
    · rw [own] at listed ⊢
      rw [entrySids_entryPath, if_pos (Or.inl (ordered.2 listed)), List.count_cons_self, absent]
    · rw [count_entrySids own]
      exact List.nodup_iff_count_eq_one.mp ordered.1 sid (mem_othersOf.mpr ⟨listed, own⟩)

/-- An entry without repetitions and with the account first is the list of the ways in. -/
theorem entrySids_of_ordered (filled : entry.via ≠ []) (distinct : entry.via.Nodup)
    (first : identity.sid ∈ entry.via → entry.via.head? = some identity.sid) :
    (entryPath identity names lookupAccount entry).entrySids = entry.via := by
  rw [entrySids_entryPath]
  by_cases own : identity.sid ∈ entry.via
  · rw [if_pos (Or.inl (first own)), othersOf]
    cases listed : entry.via with
    | nil => exact absurd listed filled
    | cons head rest =>
        have same : head = identity.sid := by
          have shown := first own
          rw [listed] at shown
          exact Option.some_inj.mp shown
        have apart : identity.sid ∉ rest := by
          rw [listed, same] at distinct
          exact (List.nodup_cons.mp distinct).1
        rw [same, List.filter_cons_of_neg (by rw [decide_eq_true_iff]; exact not_not_intro rfl),
          List.filter_eq_self.mpr]
        exact fun sid inside => decide_eq_true (fun equal => apart (equal ▸ inside))
  · have kept : othersOf identity entry = entry.via :=
      List.filter_eq_self.mpr
        (fun sid inside => decide_eq_true (fun equal => own (equal ▸ inside)))
    have later : entry.via.head? ≠ some identity.sid :=
      fun shown => own (List.mem_of_head? shown)
    rw [kept, if_neg (not_or.mpr ⟨later, filled⟩)]

end Entries

/-! ## Both builders -/

/-- What a path from the members of a group says, with the routes in their order. -/
structure ShowsEntries (request : LocalGroupRequest) (members : List LocalGroupMember)
    (routes : List Sid) (path : MembershipPath) : Prop where
  complete : path.complete = true ↔
    some request.userSid ∈ members.map LocalGroupMember.sid ∨
      ∃ sid, some sid ∈ members.map LocalGroupMember.sid ∧ (request.knownNames sid).isSome = true
  own : some request.userSid ∈ members.map LocalGroupMember.sid →
    path.nodes = [request.userSid, request.groupSid] ∧ path.alsoVia = routes.map request.hopOf
  route : some request.userSid ∉ members.map LocalGroupMember.sid →
    ∀ first rest, routes = first :: rest →
      path.nodes = [request.userSid, first, request.groupSid] ∧
        path.alsoVia = rest.map request.hopOf
  once : path.complete = true → ∀ sid, some sid ∈ members.map LocalGroupMember.sid →
    sid = request.userSid ∨ (request.knownNames sid).isSome = true →
      path.entrySids.count sid = 1
  unknown : path.complete = false →
    path.nodes = [request.userSid, request.groupSid] ∧ path.alsoVia = []

theorem complete_localGroupPath_iff {toLowercase : String → String} {request : LocalGroupRequest}
    {members : List LocalGroupMember} :
    (localGroupPath toLowercase request members).complete = true ↔
      some request.userSid ∈ members.map LocalGroupMember.sid ∨
        ∃ sid, some sid ∈ members.map LocalGroupMember.sid ∧
          (request.knownNames sid).isSome = true := by
  rw [complete_iff, LocalGroupRequest.hasSelf_iff]
  constructor
  · intro entered
    rcases entered with own | ⟨sid, listed, _, known⟩
    · exact Or.inl own
    · exact Or.inr ⟨sid, listed, known⟩
  · intro entered
    rcases entered with own | ⟨sid, listed, known⟩
    · exact Or.inl own
    · by_cases same : sid = request.userSid
      · exact Or.inl (same ▸ listed)
      · exact Or.inr ⟨sid, listed, same, known⟩

theorem count_localGroupPath {toLowercase : String → String} {request : LocalGroupRequest}
    {members : List LocalGroupMember} {sid : Sid}
    (complete : (localGroupPath toLowercase request members).complete = true)
    (listed : some sid ∈ members.map LocalGroupMember.sid)
    (entry : sid = request.userSid ∨ (request.knownNames sid).isSome = true) :
    (localGroupPath toLowercase request members).entrySids.count sid = 1 := by
  have absent : (request.routes toLowercase members).count request.userSid = 0 :=
    List.count_eq_zero.mpr
      (fun member => (LocalGroupRequest.mem_routes.mp member).2.1 rfl)
  rw [entrySids_localGroupPath complete, List.count_append]
  by_cases own : sid = request.userSid
  · rw [own] at listed ⊢
    rw [if_pos (LocalGroupRequest.hasSelf_iff.mpr listed), List.count_singleton_self, absent]
  · have member : sid ∈ request.routes toLowercase members :=
      LocalGroupRequest.mem_routes.mpr ⟨listed, own, entry.resolve_left own⟩
    have distinct : (request.routes toLowercase members).Nodup := LocalGroupRequest.nodup_routes
    have once := List.nodup_iff_count_eq_one.mp distinct sid member
    cases request.hasSelf members with
    | true => rw [if_pos rfl, List.count_cons_of_ne (Ne.symm own), List.count_nil, once]
    | false => rw [if_neg Bool.false_ne_true, List.count_nil, once]

theorem showsEntries_localGroupPath (toLowercase : String → String) (request : LocalGroupRequest)
    (members : List LocalGroupMember) :
    ShowsEntries request members (request.routes toLowercase members)
      (localGroupPath toLowercase request members) where
  complete := complete_localGroupPath_iff
  own := by
    intro own
    rw [localGroupPath_self (LocalGroupRequest.hasSelf_iff.mpr own)]
    exact ⟨rfl, rfl⟩
  route := by
    intro other first rest listed
    have apart : request.hasSelf members = false :=
      Bool.eq_false_iff.mpr (fun own => other (LocalGroupRequest.hasSelf_iff.mp own))
    rw [localGroupPath_route apart listed]
    exact ⟨rfl, rfl⟩
  once := fun complete _ listed entry => count_localGroupPath complete listed entry
  unknown := by
    intro incomplete
    cases own : request.hasSelf members with
    | true =>
        rw [localGroupPath_self own] at incomplete
        cases incomplete
    | false =>
        cases listed : request.routes toLowercase members with
        | nil =>
            rw [localGroupPath_none own listed]
            exact ⟨rfl, rfl⟩
        | cons first rest =>
            rw [localGroupPath_route own listed] at incomplete
            cases incomplete

/-- The account of an identity whose local groups are expanded. -/
def expansionAccount (identity : Identity) (memberships : List GroupMembership)
    (accessContext : AccessContext) (anonymousEveryone : Option Bool) : ExpansionAccount where
  userSid := identity.sid
  sidHistory := identity.sidHistory
  memberships := memberships
  accessContext := accessContext
  anonymousEveryone := anonymousEveryone

/-- The via list of a certain entry is filled, without repetitions and, where the account
is in it, begins with the account. -/
theorem ordered_of_certain {toLowercase : String → String} {account : ExpansionAccount}
    {groups : List LocalGroupDescriptor} {entry : LocalGroupEntry}
    (certain : entry ∈ (expandLocalGroupsWith toLowercase account groups).certain) :
    entry.via ≠ [] ∧ entry.via.Nodup ∧
      (account.userSid ∈ entry.via → entry.via.head? = some account.userSid) := by
  rcases List.mem_filterMap.mp (Order.mem_sortBy.mp certain) with ⟨group, _, found⟩
  unfold ExpansionAccount.certainEntry at found
  dsimp only at found
  split_ifs at found with empty
  cases found
  refine ⟨?_, Order.nodup_sortedSet _, fun own => ExpansionAccount.head_sortVia own⟩
  intro none
  cases members : group.members.filter (fun member => member ∈ account.token) with
  | nil =>
      rw [members] at empty
      exact empty rfl
  | cons first rest =>
      have listed : first ∈ account.sortVia
          (group.members.filter (fun member => member ∈ account.token)) := by
        rw [ExpansionAccount.sortVia, Order.mem_sortedSet, members]
        exact List.mem_cons_self
      exact absurd listed (by rw [show account.sortVia _ = [] from none]; exact List.not_mem_nil)

theorem complete_entryPath (identity : Identity) (names lookupAccount : Sid → Option String)
    (entry : LocalGroupEntry) :
    (entryPath identity names lookupAccount entry).complete = true := by
  unfold entryPath
  dsimp only
  split_ifs
  · rfl
  · split
    · rfl
    · rfl

/-- The members of a group give the same path in every order, with each known way in once;
the entries of the expansion give paths that name the entry's SIDs, each once; and for any
entry this holds exactly when it is ordered as the expansion orders it. -/
theorem waysIntoLocalGroups (toLowercase : String → String) :
    (∀ (request : LocalGroupRequest) (members : List LocalGroupMember),
      ShowsEntries request members (request.routes toLowercase members)
          (localGroupPath toLowercase request members) ∧
        (request.routes toLowercase members).Pairwise
          (fun left right => request.comparePlaces toLowercase left right = .lt) ∧
        (∀ sid, sid ∈ request.routes toLowercase members ↔ request.isRoute members sid) ∧
        ∀ others, members.Perm others →
          localGroupPath toLowercase request others =
            localGroupPath toLowercase request members) ∧
      ∀ (identity : Identity) (names lookupAccount : Sid → Option String),
        (∀ memberships accessContext anonymousEveryone groups entries,
          entries = (expandLocalGroupsWith toLowercase
            (expansionAccount identity memberships accessContext anonymousEveryone)
            groups).certain →
          List.Forall₂ (fun entry membership => ∃ path, membership.path = some path ∧
              path.complete = true ∧ path.entrySids = entry.via ∧
              ∀ sid ∈ entry.via, path.entrySids.count sid = 1)
            entries (localGroupMemberships identity entries names lookupAccount)) ∧
        ∀ entries : List LocalGroupEntry,
          List.Forall₂ (fun entry membership => ∃ path, membership.path = some path ∧
              ((∀ sid ∈ entry.via, path.entrySids.count sid = 1) ↔
                (othersOf identity entry).Nodup ∧
                  (identity.sid ∈ entry.via → entry.via.head? = some identity.sid)))
            entries (localGroupMemberships identity entries names lookupAccount) := by
  refine ⟨fun request members => ⟨showsEntries_localGroupPath toLowercase request members,
    LocalGroupRequest.pairwise_routes, fun _ => LocalGroupRequest.mem_routes,
    fun _ perm => localGroupPath_perm perm⟩, fun identity names lookupAccount => ⟨?_, ?_⟩⟩
  · intro memberships accessContext anonymousEveryone groups entries expanded
    rw [localGroupMemberships, List.forall₂_map_right_iff, List.forall₂_same]
    intro entry listed
    rw [expanded] at listed
    have ordered := ordered_of_certain listed
    have shown : (entryPath identity names lookupAccount entry).entrySids = entry.via :=
      entrySids_of_ordered ordered.1 ordered.2.1 ordered.2.2
    refine ⟨_, rfl, complete_entryPath identity names lookupAccount entry, shown, ?_⟩
    intro sid found
    rw [shown]
    exact List.nodup_iff_count_eq_one.mp ordered.2.1 sid found
  · intro entries
    rw [localGroupMemberships, List.forall₂_map_right_iff, List.forall₂_same]
    exact fun entry _ => ⟨_, rfl, count_entrySids_iff⟩

end AdResolver
end Stars
