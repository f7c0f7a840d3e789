import Stars.Core.MergedRoutes
import Stars.PermissionEngine.ExplanationPath

namespace Stars

open PermissionEngine

/-!
# The names a result shows

A table of names is handed to an evaluation and grows during a scan.  A result reads
the names of few SIDs: the trustees of its entries, the groups with the routes into
them, the filtered groups, and the owner where the owner rule grants something.  Two
tables that agree on these SIDs give the same result with the same explanation.
-/

/-- Both tables have the same name for each of the SIDs. -/
def NamesAgree (first second : List (Sid × String)) (sids : List Sid) : Prop :=
  ∀ sid ∈ sids, first.lookup sid = second.lookup sid

namespace NamesAgree

variable {first second : List (Sid × String)} {sids part : List Sid}

theorem mono (agree : NamesAgree first second sids) (inside : part ⊆ sids) :
    NamesAgree first second part :=
  fun sid member => agree sid (inside member)

end NamesAgree

namespace GroupMembership

/-- The nodes of a chain without a name of their own. -/
def unnamedNodes (path : MembershipPath) : List Sid :=
  (path.nodes.zipIdx.filter (fun node => (shownName path.names[node.2]?.join).isNone)).map Prod.fst

/-- The SIDs on the routes of a membership that have no name of their own. -/
def unnamedSids (membership : GroupMembership) : List Sid :=
  match membership.path with
  | none => []
  | some path =>
      unnamedNodes path ++
        (path.alsoVia.filter (fun hop => (shownName hop.name).isNone)).map MembershipHop.sid

/-- The group and the nameless SIDs on the routes into it. -/
def shownSids (membership : GroupMembership) : List Sid :=
  membership.groupSid :: membership.unnamedSids

end GroupMembership

namespace ExplanationRequest

/-- The owner, where the owner rule grants something. -/
def shownOwner (request : ExplanationRequest) : List Sid :=
  if request.ownerImplicitBits ≠ 0#32 then request.fileSystemObject.ownerSid.toList else []

/-- The SIDs whose names a result may read. -/
def shownSids (request : ExplanationRequest) : List Sid :=
  request.fileSystemObject.dacl.map AceEntry.sid ++
    request.groupMemberships.flatMap GroupMembership.shownSids ++ request.uacFilteredGroupSids ++
    request.shareTrace.map AceOutcome.sid ++ request.shownOwner

/-- The request with another table of names. -/
def withNames (request : ExplanationRequest) (sidNames : List (Sid × String)) :
    ExplanationRequest :=
  { request with sidNames := sidNames }

end ExplanationRequest

namespace PermissionEngine

/-! ## Memberships -/

section Memberships

variable {first second : List (Sid × String)} {membership : GroupMembership}
  {path : MembershipPath}

theorem shownName_eq_none_of_none {name : Option String} (absent : name = none) :
    shownName name = none := by
  rw [absent]
  rfl

theorem mem_unnamedNodes {node : Sid} {index : Nat} (listed : path.nodes[index]? = some node)
    (unnamed : shownName path.names[index]?.join = none) :
    node ∈ GroupMembership.unnamedNodes path := by
  refine List.mem_map.mpr ⟨(node, index), List.mem_filter.mpr ⟨?_, ?_⟩, rfl⟩
  · exact List.mem_zipIdx_iff_getElem?.mpr listed
  · rw [unnamed]
    rfl

theorem displayForSid_congr {sid : Sid} {name : Option String}
    (agree : name = none → first.lookup sid = second.lookup sid) :
    displayForSid first sid name = displayForSid second sid name := by
  unfold displayForSid
  cases name with
  | some own => rfl
  | none => rw [agree rfl]

theorem trusteeWithSid_congr {sid : Sid} (agree : first.lookup sid = second.lookup sid) :
    trusteeWithSid first sid = trusteeWithSid second sid := by
  rw [trusteeWithSid, trusteeWithSid, agree]

theorem membershipTarget_congr (agree : NamesAgree first second membership.shownSids) :
    membershipTarget first membership = membershipTarget second membership := by
  rw [membershipTarget, membershipTarget, agree _ List.mem_cons_self]

theorem unnamedNodes_sub (found : membership.path = some path) :
    GroupMembership.unnamedNodes path ⊆ membership.shownSids := by
  intro node listed
  refine List.mem_cons_of_mem _ ?_
  rw [GroupMembership.unnamedSids, found]
  exact List.mem_append_left _ listed

theorem unnamedHop_mem (found : membership.path = some path) {hop : MembershipHop}
    (listed : hop ∈ path.alsoVia) (unnamed : shownName hop.name = none) :
    hop.sid ∈ membership.shownSids := by
  refine List.mem_cons_of_mem _ ?_
  rw [GroupMembership.unnamedSids, found]
  refine List.mem_append_right _ (List.mem_map.mpr ⟨hop, List.mem_filter.mpr ⟨listed, ?_⟩, rfl⟩)
  rw [unnamed]
  rfl

theorem formatMembershipStepBase_congr (agree : NamesAgree first second membership.shownSids) :
    formatMembershipStepBase first membership = formatMembershipStepBase second membership := by
  unfold formatMembershipStepBase
  rw [membershipTarget_congr agree]
  cases found : membership.path with
  | none => rfl
  | some path =>
      have chain : path.nodes.zipIdx.map (fun node =>
            displayForSid first node.1 (shownName path.names[node.2]?.join)) =
          path.nodes.zipIdx.map (fun node =>
            displayForSid second node.1 (shownName path.names[node.2]?.join)) := by
        refine List.map_congr_left (fun node listed => displayForSid_congr (fun unnamed => ?_))
        exact agree _ (unnamedNodes_sub found
          (mem_unnamedNodes (List.mem_zipIdx_iff_getElem?.mp listed) unnamed))
      dsimp only
      rw [chain]

theorem alsoViaRemark_congr (agree : NamesAgree first second membership.shownSids) :
    alsoViaRemark first membership = alsoViaRemark second membership := by
  unfold alsoViaRemark
  cases found : membership.path with
  | none => rfl
  | some path =>
      have hops : path.alsoVia.map (fun hop =>
            (⟨hop.sid, (shownName hop.name).or (first.lookup hop.sid)⟩ : MembershipHop)) =
          path.alsoVia.map (fun hop =>
            (⟨hop.sid, (shownName hop.name).or (second.lookup hop.sid)⟩ : MembershipHop)) := by
        refine List.map_congr_left (fun hop listed => ?_)
        cases named : shownName hop.name with
        | some name => rfl
        | none => rw [agree _ (unnamedHop_mem found listed named)]
      dsimp only
      rw [hops]

theorem formatMembershipStep_congr (agree : NamesAgree first second membership.shownSids) :
    formatMembershipStep first membership = formatMembershipStep second membership := by
  rw [formatMembershipStep, formatMembershipStep, formatMembershipStepBase_congr agree,
    alsoViaRemark_congr agree]

/-- The route reads the names of the nodes between the two ends. -/
theorem membershipRoute_congr (agree : NamesAgree first second membership.shownSids) :
    membershipRoute first membership = membershipRoute second membership := by
  unfold membershipRoute
  cases found : membership.path with
  | none => rfl
  | some path =>
      have names : ((path.nodes.drop 1).take (path.nodes.length - 2)).zipIdx.map (fun node =>
            (path.names[node.2 + 1]?.join.or (first.lookup node.1)).getD node.1.value) =
          ((path.nodes.drop 1).take (path.nodes.length - 2)).zipIdx.map (fun node =>
            (path.names[node.2 + 1]?.join.or (second.lookup node.1)).getD node.1.value) := by
        refine List.map_congr_left (fun node listed => ?_)
        cases named : path.names[node.2 + 1]?.join with
        | some name => rfl
        | none =>
            have place : path.nodes[node.2 + 1]? = some node.1 := by
              have inner := List.mem_zipIdx_iff_getElem?.mp listed
              rw [List.getElem?_take] at inner
              split at inner
              · rw [List.getElem?_drop, Nat.add_comm] at inner
                exact inner
              · cases inner
            rw [agree _ (unnamedNodes_sub found
              (mem_unnamedNodes place (shownName_eq_none_of_none named)))]
      dsimp only
      rw [names]

/-- A hop that an entry offers has a name, or its SID is nameless on a route of the
entry. -/
theorem offered_unnamed {entry : GroupMembership} {hop : MembershipHop}
    (offers : OffersHop entry hop) (unnamed : shownName hop.name = none) :
    hop.sid ∈ entry.shownSids := by
  rcases offers with ⟨path, found, listed | ⟨_, last, _, name⟩⟩
  · exact unnamedHop_mem found listed unnamed
  · refine unnamedNodes_sub found (@mem_unnamedNodes _ _ (path.nodes.length - 2) ?_ ?_)
    · unfold lastHop at last
      split at last
      · cases last
      · exact last
    · rw [← name]
      exact unnamed

/-- Merging routes brings in no further nameless SID. -/
theorem shownSids_merged {toLowercase : String → String} {memberships : List GroupMembership}
    {merged : GroupMembership} (member : merged ∈ mergedMembershipsPerGroup toLowercase memberships) :
    merged.shownSids ⊆ memberships.flatMap GroupMembership.shownSids := by
  rcases List.mem_map.mp member with ⟨kept, best, built⟩
  have inside := mem_of_best best
  have own : kept.shownSids ⊆ memberships.flatMap GroupMembership.shownSids :=
    fun sid listed => List.mem_flatMap.mpr ⟨kept, inside, listed⟩
  rw [← built]
  intro sid shown
  cases found : kept.path with
  | none =>
      rw [mergeRoutes_of_pathless toLowercase found] at shown
      exact own shown
  | some path =>
      rcases List.mem_cons.mp shown with group | route
      · rw [group, groupSid_mergeRoutes]
        exact own List.mem_cons_self
      · rw [GroupMembership.unnamedSids, path_mergeRoutes toLowercase inside found] at route
        rcases List.mem_append.mp route with node | hop
        · exact own (unnamedNodes_sub found node)
        · rcases List.mem_map.mp hop with ⟨via, listed, same⟩
          have parts := List.mem_filter.mp listed
          rcases exists_offers_of_mem toLowercase inside found parts.1 with ⟨other, entry, offers⟩
          have unnamed : shownName via.name = none := Option.isNone_iff_eq_none.mp parts.2
          exact List.mem_flatMap.mpr ⟨other, (mem_entriesOf.mp entry).1,
            same ▸ offered_unnamed offers unnamed⟩

end Memberships

/-! ## The whole result -/

section Result

variable {toLowercase : String → String} {request : ExplanationRequest}
  {first second : List (Sid × String)}

theorem mem_shownSids_dacl {ace : AceEntry} (listed : ace ∈ request.fileSystemObject.dacl) :
    ace.sid ∈ request.shownSids := by
  simp only [ExplanationRequest.shownSids, List.mem_append]
  exact Or.inl (Or.inl (Or.inl (Or.inl (List.mem_map_of_mem listed))))

theorem mem_shownSids_filtered {sid : Sid} (listed : sid ∈ request.uacFilteredGroupSids) :
    sid ∈ request.shownSids := by
  simp only [ExplanationRequest.shownSids, List.mem_append]
  exact Or.inl (Or.inl (Or.inr listed))

theorem mem_shownSids_trace {outcome : AceOutcome} (listed : outcome ∈ request.shareTrace) :
    outcome.sid ∈ request.shownSids := by
  simp only [ExplanationRequest.shownSids, List.mem_append]
  exact Or.inl (Or.inr (List.mem_map_of_mem listed))

theorem shownSids_membership {merged : GroupMembership}
    (member : merged ∈ request.mergedMemberships toLowercase) :
    merged.shownSids ⊆ request.shownSids := by
  intro sid shown
  have inside := shownSids_merged member shown
  simp only [ExplanationRequest.shownSids, List.mem_append]
  exact Or.inl (Or.inl (Or.inl (Or.inr inside)))

theorem uncertainOwner_filtered {owner : Sid} (found : request.uncertainOwner = some owner) :
    owner ∈ request.uacFilteredGroupSids := by
  have parts := (Option.filter_eq_some_iff.mp found).2
  rw [Bool.and_eq_true, decide_eq_true_iff] at parts
  exact List.mem_toFinset.mp parts.1

/-- The trustees of a range are trustees of entries, or the uncertain owner. -/
theorem bounds_shown {bounds : LogonDependentBounds} (found : request.logonDependent = some bounds) :
    bounds.sids ⊆ request.shownSids := by
  intro sid listed
  unfold PermissionEvaluationInput.logonDependent at found
  split at found
  · cases found
  · unfold logonDependentBounds at found
    dsimp only at found
    generalize (if request.uncertainOwner.isSome && !ownerRightsAce request.fileSystemObject.dacl
      then request.ownerImplicitBits ||| fileReadControl ||| fileWriteDac
      else request.ownerImplicitBits) = upper at found
    split at found
    · cases found
    · split at found
      · cases found
      · rw [← Option.some.inj found] at listed
        dsimp only at listed
        split at listed
        · exact mem_shownSids_filtered (uncertainOwner_filtered (Option.mem_toList.mp listed))
        · have trustee := List.mem_mergeSort.mp (List.mem_dedup.mp listed)
          rcases List.mem_map.mp trustee with ⟨ace, inside, same⟩
          have entry := List.mem_of_mem_filter (List.mem_of_mem_filter
            (List.mem_of_mem_filter inside))
          exact same ▸ mem_shownSids_dacl entry

theorem mem_dacl_of_decided {entry : AceEntry × AccessMask} (listed : entry ∈ request.decidedAces) :
    entry.1 ∈ request.fileSystemObject.dacl := by
  rcases List.mem_map.mp listed with ⟨place, inside, built⟩
  rw [← built]
  exact List.fst_mem_of_mem_zipIdx inside

section Agreeing

variable (agree : NamesAgree first second request.shownSids)

include agree

theorem uacMarkers_congr : (request.withNames first).uacMarkers =
    (request.withNames second).uacMarkers := by
  have names : request.uacFilteredGroupSids.map (request.withNames first).displayWithSid =
      request.uacFilteredGroupSids.map (request.withNames second).displayWithSid := by
    refine List.map_congr_left (fun sid listed => ?_)
    have same := agree sid (mem_shownSids_filtered listed)
    have firstNames : (request.withNames first).sidNames = first := rfl
    have secondNames : (request.withNames second).sidNames = second := rfl
    rw [PermissionEvaluationInput.displayWithSid, PermissionEvaluationInput.displayWithSid,
      firstNames, secondNames, same]
  unfold PermissionEvaluationInput.uacMarkers
  exact congrArg₂ (· ++ ·) (congrArg (fun shown => markerIf _ (.uacFilteredGroups shown)) names) rfl

theorem draft_congr : (request.withNames first).draft = (request.withNames second).draft := by
  have markers := uacMarkers_congr agree
  have all : (request.withNames first).diagnostics = (request.withNames second).diagnostics := by
    unfold PermissionEvaluationInput.diagnostics
    rw [markers]
    rfl
  unfold PermissionEvaluationInput.draft
  rw [all]
  rfl

theorem evaluate_congr : evaluate (request.withNames first).toPermissionEvaluationInput =
    evaluate (request.withNames second).toPermissionEvaluationInput := by
  unfold evaluate
  rw [draft_congr agree]
  rfl

theorem settled_congr : (request.withNames first).settled = (request.withNames second).settled := by
  rw [ExplanationRequest.settled, ExplanationRequest.settled, draft_congr agree]

/-- The listing of the memberships: a skipped one needs no name, and the step of any
other is the same. -/
theorem membershipListing_congr :
    (request.withNames first).membershipListing toLowercase =
      (request.withNames second).membershipListing toLowercase := by
  have step : ∀ merged ∈ request.mergedMemberships toLowercase,
      (request.withNames first).membershipStep merged =
        (request.withNames second).membershipStep merged := by
    intro merged member
    have same := formatMembershipStep_congr (agree.mono (shownSids_membership member))
    exact congrArg (· ++ request.membershipRemark merged) same
  have run : ∀ (memberships : List GroupMembership) (listing : MembershipListing),
      (∀ merged ∈ memberships, (request.withNames first).membershipStep merged =
        (request.withNames second).membershipStep merged) →
      memberships.foldl (MembershipListing.add (request.withNames first)
          request.effectiveDetail) listing =
        memberships.foldl (MembershipListing.add (request.withNames second)
          request.effectiveDetail) listing := by
    intro memberships
    induction memberships with
    | nil => exact fun listing _ => rfl
    | cons merged rest further =>
        intro listing same
        rw [List.foldl_cons, List.foldl_cons]
        have head : MembershipListing.add (request.withNames first) request.effectiveDetail
            listing merged = MembershipListing.add (request.withNames second)
            request.effectiveDetail listing merged := by
          unfold MembershipListing.add
          rw [same merged List.mem_cons_self]
          rfl
        rw [head]
        exact further _ (fun other member => same other (List.mem_cons_of_mem _ member))
  exact run _ {} step

theorem tokenSteps_congr : (request.withNames first).tokenSteps toLowercase =
    (request.withNames second).tokenSteps toLowercase := by
  unfold ExplanationRequest.tokenSteps ExplanationRequest.notListedStep
  rw [membershipListing_congr agree]
  rfl

theorem aceStep_congr {entry : AceEntry × AccessMask} (listed : entry ∈ request.decidedAces) :
    (request.withNames first).aceStep entry.1 entry.2 =
      (request.withNames second).aceStep entry.1 entry.2 := by
  have same := agree _ (mem_shownSids_dacl (mem_dacl_of_decided listed))
  have trustee : ∀ effect, (request.withNames first).aceTrustee entry.1.sid effect =
      (request.withNames second).aceTrustee entry.1.sid effect := by
    intro effect
    have shown : displayForSid first entry.1.sid none = displayForSid second entry.1.sid none :=
      displayForSid_congr (fun _ => same)
    have full := trusteeWithSid_congr same
    cases effect with
    | decided bits => exact full
    | noEffect => exact full
    | inheritOnly => exact full
    | uncertain reason => exact shown
    | notApplied reason => exact shown
  unfold ExplanationRequest.aceStep
  simp only [trustee]
  rfl

theorem ownerStep_congr : (request.withNames first).ownerStep =
    (request.withNames second).ownerStep := by
  have owner : request.ownerImplicitBits ≠ 0#32 → ∀ sid,
      request.fileSystemObject.ownerSid = some sid →
      displayForSid first sid none = displayForSid second sid none := by
    intro granted sid found
    refine displayForSid_congr (fun _ => agree sid ?_)
    simp only [ExplanationRequest.shownSids, ExplanationRequest.shownOwner, List.mem_append,
      if_pos granted]
    exact Or.inr (Option.mem_toList.mpr found)
  have filtered : ∀ sid, request.uncertainOwner = some sid →
      displayForSid first sid none = displayForSid second sid none := by
    intro sid found
    exact displayForSid_congr (fun _ => agree sid
      (mem_shownSids_filtered (uncertainOwner_filtered found)))
  have table : ∀ names, (request.withNames names).sidNames = names := fun _ => rfl
  by_cases granted : request.ownerImplicitBits ≠ 0#32
  · refine (if_pos granted).trans (Eq.trans ?_ (if_pos granted).symm)
    have object : ∀ names, (request.withNames names).fileSystemObject = request.fileSystemObject :=
      fun _ => rfl
    simp only [object, table]
    cases found : request.fileSystemObject.ownerSid with
    | none => rfl
    | some sid =>
        dsimp only
        rw [owner granted sid found]
  · refine (if_neg granted).trans (Eq.trans ?_ (if_neg granted).symm)
    have doubtful : ∀ names, (request.withNames names).uncertainOwner = request.uncertainOwner :=
      fun _ => rfl
    have governed : ∀ names, (request.withNames names).ownerRightsAcePresent =
        request.ownerRightsAcePresent := fun _ => rfl
    simp only [doubtful, governed, table]
    cases found : request.uncertainOwner with
    | none => rfl
    | some sid =>
        rw [Option.filter_some]
        cases request.ownerRightsAcePresent with
        | true => rfl
        | false =>
            have kept : (if (!false) = true then some sid else none) = some sid := rfl
            rw [kept]
            dsimp only
            rw [filtered sid found]

theorem rangeStep_congr : (request.withNames first).rangeStep =
    (request.withNames second).rangeStep := by
  unfold ExplanationRequest.rangeStep
  have range : ∀ names, (request.withNames names).logonDependent = request.logonDependent :=
    fun _ => rfl
  have table : ∀ names, (request.withNames names).sidNames = names := fun _ => rfl
  simp only [range, table]
  cases found : request.logonDependent with
  | none => rfl
  | some bounds =>
      have names : bounds.sids.map (trusteeWithSid first) =
          bounds.sids.map (trusteeWithSid second) :=
        List.map_congr_left (fun sid listed =>
          trusteeWithSid_congr (agree sid (bounds_shown found listed)))
      rw [Option.map_some, Option.map_some, names]

theorem entrySteps_congr : (request.withNames first).entrySteps =
    (request.withNames second).entrySteps := by
  have steps : request.decidedAces.filterMap
        (fun entry => (request.withNames first).aceStep entry.1 entry.2) =
      request.decidedAces.filterMap
        (fun entry => (request.withNames second).aceStep entry.1 entry.2) :=
    List.filterMap_congr (fun entry listed => aceStep_congr agree listed)
  have owner := ownerStep_congr agree
  unfold ExplanationRequest.entrySteps
  rw [owner]
  exact congrArg (fun listed => listed ++ request.daclStateStep.toList ++ request.denyStep.toList ++
    (request.withNames second).ownerStep.toList) steps

/-- The path reads no other name. -/
theorem explanationSteps_congr : (request.withNames first).explanationSteps toLowercase =
    (request.withNames second).explanationSteps toLowercase := by
  have settled := settled_congr agree
  have reasons : ∀ layer, (request.withNames first).reasonsIn layer =
      (request.withNames second).reasonsIn layer := by
    intro layer
    rw [ExplanationRequest.reasonsIn, ExplanationRequest.reasonsIn, settled]
  unfold ExplanationRequest.explanationSteps
  have ntfs : (request.withNames first).ntfsSteps = (request.withNames second).ntfsSteps := by
    unfold ExplanationRequest.ntfsSteps ExplanationRequest.ntfsValueStep
    rw [settled, rangeStep_congr agree]
    rfl
  have share : (request.withNames first).shareSteps = (request.withNames second).shareSteps := by
    unfold ExplanationRequest.shareSteps ExplanationRequest.shareReasonSteps
      ExplanationRequest.limitStep
    rw [settled, reasons]
    rfl
  have closing : (request.withNames first).linkStep = (request.withNames second).linkStep ∧
      (request.withNames first).synchronizeSteps = (request.withNames second).synchronizeSteps ∧
      (request.withNames first).logonStep = (request.withNames second).logonStep := by
    unfold ExplanationRequest.linkStep ExplanationRequest.synchronizeSteps
      ExplanationRequest.logonStep
    rw [settled]
    exact ⟨rfl, rfl, rfl⟩
  have token : (request.withNames first).tokenReasonSteps =
      (request.withNames second).tokenReasonSteps := by
    rw [ExplanationRequest.tokenReasonSteps, ExplanationRequest.tokenReasonSteps, reasons, reasons]
  rw [tokenSteps_congr agree, token, entrySteps_congr agree, ntfs, share, closing.1, closing.2.1,
    closing.2.2]

theorem aceOutcomes_congr : (request.withNames first).aceOutcomes =
    (request.withNames second).aceOutcomes := by
  refine List.filterMap_congr (fun entry listed => ?_)
  have same := agree _ (mem_shownSids_dacl (mem_dacl_of_decided listed))
  have trustee : trusteeWithSid first entry.1.sid = trusteeWithSid second entry.1.sid :=
    trusteeWithSid_congr same
  change (request.aceEffect entry.1 entry.2).map (fun effect =>
      (⟨.ntfs, entry.1.kind, entry.1.sid, trusteeWithSid first entry.1.sid, entry.1.mask,
        entry.1.inherited, effect⟩ : AceOutcome)) =
    (request.aceEffect entry.1 entry.2).map (fun effect =>
      (⟨.ntfs, entry.1.kind, entry.1.sid, trusteeWithSid second entry.1.sid, entry.1.mask,
        entry.1.inherited, effect⟩ : AceOutcome))
  rw [trustee]

theorem memberGroup_congr {merged : GroupMembership}
    (member : merged ∈ request.mergedMemberships toLowercase) (decisive : Bool) :
    (request.withNames first).memberGroup merged decisive =
      (request.withNames second).memberGroup merged decisive := by
  have shown := agree.mono (shownSids_membership member)
  have route := membershipRoute_congr shown
  have trustee : trusteeWithSid first merged.groupSid = trusteeWithSid second merged.groupSid :=
    trusteeWithSid_congr (shown _ List.mem_cons_self)
  have firstNames : (request.withNames first).sidNames = first := rfl
  have secondNames : (request.withNames second).sidNames = second := rfl
  rw [ExplanationRequest.memberGroup, ExplanationRequest.memberGroup, firstNames, secondNames,
    route, trustee]
  rfl

omit agree in
theorem traceTrustee_shown {outcome : AceOutcome}
    (listed : outcome ∈ (request.withNames first).traceTrustees) :
    outcome.sid ∈ request.shownSids := by
  have inside : outcome ∈ (request.withNames first).traceAces :=
    List.mem_of_mem_filter ((Collections.distinctBy_sublist _ _ _).subset listed)
  rcases List.mem_append.mp inside with ntfs | share
  · rcases List.mem_filterMap.mp ntfs with ⟨entry, decided, built⟩
    rcases Option.map_eq_some_iff.mp built with ⟨effect, _, same⟩
    rw [← same]
    exact mem_shownSids_dacl (mem_dacl_of_decided decided)
  · exact mem_shownSids_trace share

theorem traceGroup_congr {outcome : AceOutcome} (shown : outcome.sid ∈ request.shownSids) :
    (request.withNames first).traceGroup toLowercase outcome =
      (request.withNames second).traceGroup toLowercase outcome := by
  have trustee : trusteeWithSid first outcome.sid = trusteeWithSid second outcome.sid :=
    trusteeWithSid_congr (agree _ shown)
  unfold ExplanationRequest.traceGroup
  have membership : ∀ names, (request.withNames names).membershipOf toLowercase outcome.sid =
      request.membershipOf toLowercase outcome.sid := fun _ => rfl
  have table : ∀ names, (request.withNames names).sidNames = names := fun _ => rfl
  simp only [membership, table]
  cases found : request.membershipOf toLowercase outcome.sid with
  | some merged =>
      have member : merged ∈ request.mergedMemberships toLowercase := List.mem_of_find?_eq_some found
      exact congrArg some (memberGroup_congr agree member _)
  | none =>
      dsimp only
      rw [trustee]
      rfl

theorem traceGroups_congr : (request.withNames first).traceGroups toLowercase =
    (request.withNames second).traceGroups toLowercase := by
  have aces : (request.withNames first).traceAces = (request.withNames second).traceAces := by
    rw [ExplanationRequest.traceAces, ExplanationRequest.traceAces, aceOutcomes_congr agree]
    rfl
  have trustees : (request.withNames first).traceTrustees =
      (request.withNames second).traceTrustees := by
    rw [ExplanationRequest.traceTrustees, ExplanationRequest.traceTrustees, aces]
    rfl
  have groups : (request.withNames first).traceTrustees.filterMap
        ((request.withNames first).traceGroup toLowercase) =
      (request.withNames second).traceTrustees.filterMap
        ((request.withNames second).traceGroup toLowercase) := by
    rw [← trustees]
    exact List.filterMap_congr (fun outcome listed =>
      traceGroup_congr agree (traceTrustee_shown listed))
  have others : ∀ listed : List GroupMembership,
      listed ⊆ request.mergedMemberships toLowercase →
      listed.map (fun merged => (request.withNames first).memberGroup merged false) =
        listed.map (fun merged => (request.withNames second).memberGroup merged false) := by
    intro listed inside
    exact List.map_congr_left (fun merged member => memberGroup_congr agree (inside member) false)
  unfold ExplanationRequest.traceGroups
  dsimp only
  rw [groups, aces, trustees]
  congr 1
  have firstDetail : (request.withNames first).effectiveDetail = request.effectiveDetail := rfl
  have secondDetail : (request.withNames second).effectiveDetail = request.effectiveDetail := rfl
  rw [firstDetail, secondDetail]
  cases request.effectiveDetail with
  | all => exact others _ (fun merged listed => List.mem_of_mem_filter listed)
  | namedOnly fullListAt => rfl

/-- Two tables that agree on the shown SIDs give the same result, with the same path and
the same trace. -/
theorem evaluateWhole_congr : evaluateWhole toLowercase (request.withNames first) =
    evaluateWhole toLowercase (request.withNames second) := by
  unfold evaluateWhole
  rw [evaluate_congr agree, explanationSteps_congr agree, traceGroups_congr agree]

end Agreeing

end Result

end PermissionEngine

end Stars
