import Stars.PermissionEngine.Explanation

namespace Stars

open Collections PermissionEngine

/-!
# The groups of a trace

The entries of a trace name trustees, and the groups of the trace say how the
account holds them.  A trustee is looked up among the memberships first, then in
the token, and is taken for a logon-dependent SID when its entry is uncertain.
What is left has no group: a deny-only SID that is no membership of its own is such
a trustee although its Deny entries apply.  `traceGroups_sound_iff` says when the
groups are complete and their states are right.
-/

namespace ExplanationRequest

variable (request : ExplanationRequest)

/-- The entry has an outcome in the trace: it matches the token, or may match it. -/
def Traced (ace : AceEntry) : Prop :=
  aceMatches ace request.matchSids request.denyOnlySids = true ∨
    (request.uncertainAceReason ace).isSome = true

/-- A SID other than the account's that the trace has to explain. -/
structure IsTrustee (sid : Sid) : Prop where
  other : sid ≠ request.identity.sid
  named : (∃ ace ∈ request.fileSystemObject.dacl, ace.sid = sid ∧ request.Traced ace) ∨
    ∃ outcome ∈ request.shareTrace, outcome.sid = sid

/-- The SID history of the account or a membership, by its own SID or by a
historical one, puts the SID into the token. -/
def Supplied (sid : Sid) : Prop :=
  sid ∈ request.identity.sidHistory ∨
    ∃ membership ∈ request.groupMemberships, sid ∈ membership.tokenSids

/-- The well-known SIDs a token holds for the kind of account, the logon and the
owner. -/
def implicitSids : List Sid :=
  [sidEveryone, sidAuthenticatedUsers, sidNetwork, sidInteractive, sidOwnerRights]

/-- The memberships no outcome names. -/
def otherMemberships (toLowercase : String → String) : List GroupMembership :=
  (request.mergedMemberships toLowercase).filter (fun membership =>
    !(request.traceTrustees.map AceOutcome.sid).contains membership.groupSid)

/-- What the groups of a trace promise. -/
structure GroupsSound (toLowercase : String → String) (trace : PermissionTrace) : Prop where
  once : ∀ outcome ∈ trace.aces, outcome.sid ≠ request.identity.sid →
    (trace.groups.map TraceGroup.sid).count outcome.sid = 1
  implicit : ∀ group ∈ trace.groups ++ trace.other, group.state = .implicit →
    group.sid ∈ implicitSids ∧ ¬ request.Supplied group.sid
  denyOnly : ∀ group ∈ trace.groups ++ trace.other, group.sid ∈ request.denyOnlySids →
    group.state = .denyOnly
  /-- The memberships the groups name and the other ones. -/
  partition : ∃ others : List GroupMembership,
    others.Sublist (request.mergedMemberships toLowercase) ∧ List.Perm
      ((trace.groups.map TraceGroup.sid).filter (fun sid =>
        sid ∈ (request.mergedMemberships toLowercase).map GroupMembership.groupSid) ++
          others.map GroupMembership.groupSid)
      ((request.mergedMemberships toLowercase).map GroupMembership.groupSid) ∧
    trace.otherGroups = others.length ∧
    trace.other = match request.effectiveDetail with
      | .all => others.map (fun membership => request.memberGroup membership false)
      | .namedOnly _ => []

/-- A trustee that is no membership of its own is enabled as an implicit well-known,
or only uncertain. -/
structure Explained (sid : Sid) : Prop where
  enabled : sid ∉ request.denyOnlySids
  implicit : sid ∈ request.matchSids → sid ∈ implicitSids ∧ ¬ request.Supplied sid
  uncertain : sid ∉ request.matchSids →
    (∃ ace ∈ request.fileSystemObject.dacl, ace.sid = sid ∧ request.Traced ace) ∨
      ∃ outcome reason, request.shareTrace.find? (fun outcome => outcome.sid = sid) =
        some outcome ∧ outcome.effect = .uncertain reason

/-- How a trustee comes to its group. -/
inductive GroupOrigin (toLowercase : String → String) (outcome : AceOutcome) :
    TraceGroupState → Prop where
  | membership {state : TraceGroupState}
      (member : (request.membershipOf toLowercase outcome.sid).isSome = true)
      (known : state = request.groupState outcome.sid) : GroupOrigin toLowercase outcome state
  | implicit (foreign : request.membershipOf toLowercase outcome.sid = none)
      (held : outcome.sid ∈ request.matchSids) : GroupOrigin toLowercase outcome .implicit
  | uncertain (foreign : request.membershipOf toLowercase outcome.sid = none)
      (outside : outcome.sid ∉ request.matchSids)
      (undecided : ∃ reason, outcome.effect = .uncertain reason) :
      GroupOrigin toLowercase outcome .uncertain

section Outcomes

variable {request}

theorem aceEffect_isSome_iff (ace : AceEntry) (decided : AccessMask) :
    (request.aceEffect ace decided).isSome = true ↔ request.Traced ace := by
  rw [PermissionEvaluationInput.aceEffect, Traced]
  cases matched : aceMatches ace request.matchSids request.denyOnlySids with
  | true =>
      rw [Bool.not_true, if_neg Bool.false_ne_true]
      refine iff_of_true ?_ (Or.inl rfl)
      split
      · rfl
      · split <;> rfl
  | false =>
      rw [Bool.not_false, if_pos rfl, or_iff_right Bool.false_ne_true]
      split
      · -- What is listed as not applied has the reason of the filtering itself.
        rename_i found
        rw [Option.filter_eq_some_iff, decide_eq_true_iff] at found
        rw [aceMatches, decide_eq_false_iff_not, not_or] at matched
        rw [PermissionEvaluationInput.uncertainAceReason, found.2.2.1,
          if_neg (by simp [matched.1]), if_pos ⟨found.2.1, found.2.2.2⟩]
        exact iff_of_true rfl rfl
      · rw [Option.isSome_map]

/-- The trustees of the object's outcomes. -/
theorem exists_aceOutcome_iff (sid : Sid) :
    (∃ outcome ∈ request.aceOutcomes, outcome.sid = sid) ↔
      ∃ ace ∈ request.fileSystemObject.dacl, ace.sid = sid ∧ request.Traced ace := by
  constructor
  · rintro ⟨outcome, listed, same⟩
    rcases List.mem_filterMap.mp listed with ⟨entry, decided, built⟩
    rcases List.mem_map.mp decided with ⟨⟨ace, position⟩, indexed, rfl⟩
    rcases Option.map_eq_some_iff.mp built with ⟨effect, found, rfl⟩
    exact ⟨ace, List.fst_mem_of_mem_zipIdx indexed, same,
      (aceEffect_isSome_iff ace _).mp (Option.isSome_of_mem found)⟩
  · rintro ⟨ace, member, same, traced⟩
    rcases List.getElem?_of_mem member with ⟨position, placed⟩
    rcases Option.isSome_iff_exists.mp ((aceEffect_isSome_iff ace
      (request.walk.decidedPerAce.getD position 0#32)).mpr traced) with ⟨effect, found⟩
    refine ⟨⟨.ntfs, ace.kind, ace.sid, trusteeWithSid request.sidNames ace.sid, ace.mask,
      ace.inherited, effect⟩, List.mem_filterMap.mpr ⟨_, List.mem_map_of_mem
        (List.mk_mem_zipIdx_iff_getElem?.mpr placed), ?_⟩, same⟩
    rw [found]
    rfl

/-- An outcome of the object for a SID that is not held in any way is uncertain. -/
theorem uncertain_of_not_held {outcome : AceOutcome} (listed : outcome ∈ request.aceOutcomes)
    (outside : outcome.sid ∉ request.matchSids) (enabled : outcome.sid ∉ request.denyOnlySids) :
    ∃ reason, outcome.effect = .uncertain reason := by
  rcases List.mem_filterMap.mp listed with ⟨entry, _, built⟩
  rcases Option.map_eq_some_iff.mp built with ⟨effect, found, rfl⟩
  have unmatched : aceMatches entry.1 request.matchSids request.denyOnlySids = false := by
    rw [aceMatches, decide_eq_false_iff_not]
    rintro (inside | ⟨_, inside⟩)
    · exact outside inside
    · exact enabled inside
  rw [PermissionEvaluationInput.aceEffect, unmatched, Bool.not_false, if_pos rfl] at found
  split at found
  · rename_i filtered
    rw [Option.filter_eq_some_iff, decide_eq_true_iff] at filtered
    exact absurd filtered.2.2.2 enabled
  · rcases Option.map_eq_some_iff.mp found with ⟨reason, _, rfl⟩
    exact ⟨_, rfl⟩

/-- The trustees of the trace, each with its first outcome. -/
theorem mem_traceTrustees_iff {outcome : AceOutcome} :
    outcome ∈ request.traceTrustees ↔ outcome.sid ≠ request.identity.sid ∧
      request.traceAces.find? (fun other => other.sid = outcome.sid) = some outcome := by
  rw [traceTrustees, mem_distinctBy_iff, and_iff_right List.not_mem_nil]
  by_cases own : outcome.sid = request.identity.sid
  · refine iff_of_false (fun found => ?_) (fun kept => kept.1 own)
    have kept := List.mem_filter.mp (List.mem_of_find?_eq_some found)
    exact of_decide_eq_true kept.2 own
  · rw [and_iff_right own, List.find?_filter]
    refine iff_of_eq (congrArg (fun test => List.find? test request.traceAces = some outcome) ?_)
    funext other
    by_cases same : other.sid = outcome.sid
    · simp [same, own]
    · simp [same]

theorem mem_trustees_iff (sid : Sid) :
    sid ∈ request.traceTrustees.map AceOutcome.sid ↔ request.IsTrustee sid := by
  have named : (∃ outcome ∈ request.traceAces, outcome.sid = sid) ↔
      (∃ ace ∈ request.fileSystemObject.dacl, ace.sid = sid ∧ request.Traced ace) ∨
        ∃ outcome ∈ request.shareTrace, outcome.sid = sid := by
    rw [← exists_aceOutcome_iff, traceAces, ← exists_or]
    simp only [List.mem_append, or_and_right]
  rw [List.mem_map]
  constructor
  · rintro ⟨outcome, kept, rfl⟩
    have first := mem_traceTrustees_iff.mp kept
    exact ⟨first.1, named.mp ⟨outcome, List.mem_of_find?_eq_some first.2, rfl⟩⟩
  · rintro ⟨other, present⟩
    rcases named.mpr present with ⟨outcome, member, rfl⟩
    exact exists_key_of_mem AceOutcome.sid _ []
      (List.mem_filter.mpr ⟨member, decide_eq_true other⟩) List.not_mem_nil

/-- The trustees are listed once each. -/
theorem nodup_trustees : (request.traceTrustees.map AceOutcome.sid).Nodup :=
  nodup_distinctBy AceOutcome.sid _ []

end Outcomes

section Memberships

variable {request} (toLowercase : String → String)

theorem nodup_mergedMemberships :
    ((request.mergedMemberships toLowercase).map GroupMembership.groupSid).Nodup :=
  nodup_merged toLowercase request.groupMemberships

theorem membershipOf_eq_some {sid : Sid} {membership : GroupMembership}
    (found : request.membershipOf toLowercase sid = some membership) :
    membership ∈ request.mergedMemberships toLowercase ∧ membership.groupSid = sid := by
  rw [membershipOf] at found
  have same := List.find?_some found
  exact ⟨List.mem_of_find?_eq_some found, of_decide_eq_true same⟩

theorem membershipOf_isSome_iff (sid : Sid) :
    (request.membershipOf toLowercase sid).isSome = true ↔
      sid ∈ (request.mergedMemberships toLowercase).map GroupMembership.groupSid := by
  rw [membershipOf, List.find?_isSome, List.mem_map]
  simp only [decide_eq_true_iff]

theorem membershipOf_eq_none {sid : Sid}
    (foreign : ∀ membership ∈ request.groupMemberships, membership.groupSid ≠ sid) :
    request.membershipOf toLowercase sid = none := by
  rw [← Option.not_isSome_iff_eq_none, membershipOf_isSome_iff, mergedMemberships,
    mem_map_groupSid_merged]
  rintro ⟨membership, member, same⟩
  exact foreign membership member same

end Memberships

section Groups

variable {request} (toLowercase : String → String)

theorem traceGroup_spec {outcome : AceOutcome} {group : TraceGroup}
    (shown : request.traceGroup toLowercase outcome = some group) :
    group.sid = outcome.sid ∧
      request.GroupOrigin toLowercase outcome group.state := by
  rw [traceGroup] at shown
  split at shown
  · rename_i membership found
    have same := (membershipOf_eq_some toLowercase found).2
    rw [← Option.some_inj.mp shown, memberGroup]
    exact ⟨same, .membership (Option.isSome_of_mem found) (congrArg request.groupState same)⟩
  · rename_i foreign
    split at shown
    · rename_i held
      rw [← Option.some_inj.mp shown]
      exact ⟨rfl, .implicit foreign held⟩
    · rename_i outside
      split at shown
      · rename_i reason effect
        rw [← Option.some_inj.mp shown]
        exact ⟨rfl, .uncertain foreign outside ⟨reason, effect⟩⟩
      · cases shown

/-- A trustee has a group when one of the three ways leads to one. -/
theorem traceGroup_isSome {outcome : AceOutcome}
    (reached : (request.membershipOf toLowercase outcome.sid).isSome = true ∨
      outcome.sid ∈ request.matchSids ∨ ∃ reason, outcome.effect = .uncertain reason) :
    (request.traceGroup toLowercase outcome).isSome = true := by
  rw [traceGroup]
  split
  · rfl
  · rename_i foreign
    split
    · rfl
    · rename_i outside
      rcases reached with member | held | ⟨reason, effect⟩
      · rw [foreign] at member
        cases member
      · exact absurd held outside
      · rw [effect]
        rfl

theorem groups_sids :
    (request.traceGroups toLowercase).groups.map TraceGroup.sid =
      (request.traceTrustees.filter (fun outcome =>
        (request.traceGroup toLowercase outcome).isSome)).map AceOutcome.sid := by
  rw [traceGroups]
  dsimp only
  induction request.traceTrustees with
  | nil => rfl
  | cons outcome rest known =>
      cases shown : request.traceGroup toLowercase outcome with
      | none =>
          rw [List.filterMap_cons_none shown, known, List.filter_cons_of_neg (by simp [shown])]
      | some group =>
          rw [List.filterMap_cons_some shown, List.map_cons, known,
            List.filter_cons_of_pos (by simp [shown]), List.map_cons,
            (traceGroup_spec toLowercase shown).1]

theorem nodup_groups : ((request.traceGroups toLowercase).groups.map TraceGroup.sid).Nodup := by
  rw [groups_sids]
  exact nodup_trustees.sublist (List.filter_sublist.map AceOutcome.sid)

theorem mem_groups_sids_iff {sid : Sid} :
    sid ∈ (request.traceGroups toLowercase).groups.map TraceGroup.sid ↔
      ∃ outcome ∈ request.traceTrustees,
        (request.traceGroup toLowercase outcome).isSome = true ∧ outcome.sid = sid := by
  rw [groups_sids, List.mem_map]
  simp only [List.mem_filter, and_assoc]

/-- The groups of the trace, and the memberships beside them. -/
theorem group_origin {group : TraceGroup} (listed : group ∈
    (request.traceGroups toLowercase).groups ++ (request.traceGroups toLowercase).other) :
    group.state = request.groupState group.sid ∨ ∃ outcome ∈ request.traceTrustees,
      group.sid = outcome.sid ∧
        request.GroupOrigin toLowercase outcome group.state := by
  rcases List.mem_append.mp listed with named | other
  · rcases List.mem_filterMap.mp named with ⟨outcome, kept, shown⟩
    exact Or.inr ⟨outcome, kept, traceGroup_spec toLowercase shown⟩
  · rw [traceGroups] at other
    dsimp only at other
    split at other
    · rcases List.mem_map.mp other with ⟨membership, _, rfl⟩
      exact Or.inl rfl
    · cases other

theorem groupState_ne_implicit (sid : Sid) : request.groupState sid ≠ .implicit := by
  rw [groupState]
  split
  · nofun
  · split <;> nofun

theorem groupState_of_denyOnly {sid : Sid} (filtered : sid ∈ request.denyOnlySids) :
    request.groupState sid = .denyOnly := if_pos filtered

end Groups

/-! ## The memberships beside the groups -/

section Partition

variable {request} (toLowercase : String → String)

/-- The memberships that the groups name are the ones that are trustees. -/
theorem perm_named :
    List.Perm
      (((request.traceGroups toLowercase).groups.map TraceGroup.sid).filter (fun sid =>
        sid ∈ (request.mergedMemberships toLowercase).map GroupMembership.groupSid))
      (((request.mergedMemberships toLowercase).map GroupMembership.groupSid).filter (fun sid =>
        (request.traceTrustees.map AceOutcome.sid).contains sid)) := by
  refine (List.perm_ext_iff_of_nodup ((nodup_groups toLowercase).filter _)
    ((nodup_mergedMemberships toLowercase).filter _)).mpr (fun sid => ?_)
  rw [List.mem_filter, List.mem_filter, decide_eq_true_iff, List.contains_iff_mem,
    and_comm, mem_groups_sids_iff]
  refine and_congr_right (fun member => ?_)
  rw [List.mem_map]
  constructor
  · rintro ⟨outcome, kept, _, same⟩
    exact ⟨outcome, kept, same⟩
  · rintro ⟨outcome, kept, same⟩
    refine ⟨outcome, kept, traceGroup_isSome toLowercase (Or.inl ?_), same⟩
    rw [same, membershipOf_isSome_iff]
    exact member

/-- The memberships that are counted as used are the ones the groups name. -/
theorem used_eq :
    (request.traceTrustees.filter (fun outcome =>
        (request.membershipOf toLowercase outcome.sid).isSome)).length =
      (((request.mergedMemberships toLowercase).map GroupMembership.groupSid).filter (fun sid =>
        (request.traceTrustees.map AceOutcome.sid).contains sid)).length := by
  have used : (request.traceTrustees.filter (fun outcome =>
        (request.membershipOf toLowercase outcome.sid).isSome)).map AceOutcome.sid =
      (request.traceTrustees.map AceOutcome.sid).filter (fun sid =>
        (request.membershipOf toLowercase sid).isSome) := by
    rw [List.filter_map]
    rfl
  rw [← List.length_map AceOutcome.sid, used]
  refine List.Perm.length_eq ((List.perm_ext_iff_of_nodup (nodup_trustees.filter _)
    ((nodup_mergedMemberships toLowercase).filter _)).mpr (fun sid => ?_))
  rw [List.mem_filter, List.mem_filter, membershipOf_isSome_iff, List.contains_iff_mem, and_comm]

theorem otherMemberships_sids :
    (request.otherMemberships toLowercase).map GroupMembership.groupSid =
      ((request.mergedMemberships toLowercase).map GroupMembership.groupSid).filter (fun sid =>
        !(request.traceTrustees.map AceOutcome.sid).contains sid) := by
  rw [List.filter_map]
  rfl

/-- The groups and the counted memberships are all memberships, each once. -/
theorem perm_memberships :
    List.Perm
      (((request.traceGroups toLowercase).groups.map TraceGroup.sid).filter (fun sid =>
        sid ∈ (request.mergedMemberships toLowercase).map GroupMembership.groupSid) ++
          (request.otherMemberships toLowercase).map GroupMembership.groupSid)
      ((request.mergedMemberships toLowercase).map GroupMembership.groupSid) := by
  rw [otherMemberships_sids]
  exact ((perm_named toLowercase).append_right _).trans (List.filter_append_perm _ _)

theorem otherGroups_eq :
    (request.traceGroups toLowercase).otherGroups =
      (request.otherMemberships toLowercase).length := by
  have parts := (List.filter_append_perm
    (fun sid => (request.traceTrustees.map AceOutcome.sid).contains sid)
    ((request.mergedMemberships toLowercase).map GroupMembership.groupSid)).length_eq
  rw [List.length_append, ← otherMemberships_sids, ← used_eq, List.length_map,
    List.length_map] at parts
  rw [traceGroups]
  dsimp only
  omega

end Partition

/-! ## Soundness -/

section Soundness

variable {request} (toLowercase : String → String)

/-- When the first outcome of a trustee that is not held is uncertain. -/
theorem first_uncertain_iff {outcome : AceOutcome} (first : outcome ∈ request.traceTrustees)
    (outside : outcome.sid ∉ request.matchSids) (enabled : outcome.sid ∉ request.denyOnlySids) :
    (∃ reason, outcome.effect = .uncertain reason) ↔
      (∃ ace ∈ request.fileSystemObject.dacl, ace.sid = outcome.sid ∧ request.Traced ace) ∨
        ∃ shared reason, request.shareTrace.find? (fun other => other.sid = outcome.sid) =
          some shared ∧ shared.effect = .uncertain reason := by
  have found := (mem_traceTrustees_iff.mp first).2
  rw [traceAces, List.find?_append] at found
  rw [← exists_aceOutcome_iff]
  cases own : request.aceOutcomes.find? (fun other => other.sid = outcome.sid) with
  | some listed =>
      rw [own, Option.some_or, Option.some_inj] at found
      subst found
      have member := List.mem_of_find?_eq_some own
      exact iff_of_true (uncertain_of_not_held member outside enabled)
        (Or.inl ⟨listed, member, rfl⟩)
  | none =>
      rw [own, Option.none_or] at found
      have absent : ¬ ∃ listed ∈ request.aceOutcomes, listed.sid = outcome.sid := by
        rintro ⟨listed, member, same⟩
        exact List.find?_eq_none.mp own listed member (decide_eq_true same)
      rw [or_iff_right absent, found]
      simp

/-- A trustee that is no membership of its own has a group, whose state is not the
one of a filtered membership, exactly when it is explained. -/
theorem explained_of_origin {outcome : AceOutcome} {state : TraceGroupState}
    (first : outcome ∈ request.traceTrustees)
    (origin : request.GroupOrigin toLowercase outcome state)
    (foreign : request.membershipOf toLowercase outcome.sid = none)
    (implicit : state = .implicit →
      outcome.sid ∈ implicitSids ∧ ¬ request.Supplied outcome.sid)
    (denyOnly : outcome.sid ∈ request.denyOnlySids → state = .denyOnly) :
    request.Explained outcome.sid := by
  cases origin with
  | membership member _ =>
      rw [foreign] at member
      cases member
  | implicit _ held =>
      exact ⟨fun filtered => absurd (denyOnly filtered) nofun, fun _ => implicit rfl,
        fun outside => absurd held outside⟩
  | uncertain _ outside undecided =>
      have enabled : outcome.sid ∉ request.denyOnlySids :=
        fun filtered => absurd (denyOnly filtered) nofun
      exact ⟨enabled, fun held => absurd held outside,
        fun _ => (first_uncertain_iff first outside enabled).mp undecided⟩

theorem traceGroup_isSome_of_explained {outcome : AceOutcome}
    (first : outcome ∈ request.traceTrustees) (explained : request.Explained outcome.sid) :
    (request.traceGroup toLowercase outcome).isSome = true := by
  apply traceGroup_isSome toLowercase
  by_cases held : outcome.sid ∈ request.matchSids
  · exact Or.inr (Or.inl held)
  · exact Or.inr (Or.inr ((first_uncertain_iff first held explained.enabled).mpr
      (explained.uncertain held)))

/-- The groups of a trace are complete and their states are right exactly when every
trustee that is no membership of its own is explained by the token. -/
theorem traceGroups_sound_iff :
    request.GroupsSound toLowercase (request.traceGroups toLowercase) ↔
      ∀ sid, request.IsTrustee sid →
        (∀ membership ∈ request.groupMemberships, membership.groupSid ≠ sid) →
          request.Explained sid := by
  constructor
  · intro sound sid trustee foreign
    rcases List.mem_map.mp ((mem_trustees_iff sid).mpr trustee) with ⟨outcome, first, rfl⟩
    have kept := mem_traceTrustees_iff.mp first
    have single := sound.once outcome (List.mem_of_find?_eq_some kept.2) kept.1
    rcases List.mem_map.mp (List.count_pos_iff.mp (by rw [single]; exact Nat.one_pos))
      with ⟨group, listed, same⟩
    rcases List.mem_filterMap.mp listed with ⟨named, namedFirst, shown⟩
    rcases traceGroup_spec toLowercase shown with ⟨named_sid, origin⟩
    have equal : named.sid = outcome.sid := named_sid.symm.trans same
    rw [← equal] at foreign ⊢
    refine explained_of_origin toLowercase namedFirst origin
      (membershipOf_eq_none toLowercase foreign) ?_ ?_
    · rw [← named_sid]
      exact sound.implicit group (List.mem_append_left _ listed)
    · rw [← named_sid]
      exact sound.denyOnly group (List.mem_append_left _ listed)
  · intro explained
    have explained_of : ∀ outcome ∈ request.traceTrustees,
        request.membershipOf toLowercase outcome.sid = none →
          request.Explained outcome.sid := by
      intro outcome first foreign
      refine explained outcome.sid ((mem_trustees_iff _).mp (List.mem_map_of_mem first)) ?_
      intro membership member same
      have known := (membershipOf_isSome_iff toLowercase outcome.sid).mpr
        ((mem_map_groupSid_merged toLowercase _).mpr ⟨membership, member, same⟩)
      rw [foreign] at known
      cases known
    refine ⟨?_, ?_, ?_, request.otherMemberships toLowercase, List.filter_sublist,
      perm_memberships toLowercase, otherGroups_eq toLowercase, rfl⟩
    · intro outcome listed other
      refine List.count_eq_one_of_mem (nodup_groups toLowercase)
        ((mem_groups_sids_iff toLowercase).mpr ?_)
      have traced : outcome ∈ request.traceAces.filter (fun outcome =>
          outcome.sid ≠ request.identity.sid) :=
        List.mem_filter.mpr ⟨listed, decide_eq_true other⟩
      rcases exists_key_of_mem AceOutcome.sid _ [] traced List.not_mem_nil with
        ⟨first, kept, same⟩
      refine ⟨first, kept, ?_, same⟩
      cases found : request.membershipOf toLowercase first.sid with
      | some membership =>
          exact traceGroup_isSome toLowercase (Or.inl (Option.isSome_of_mem found))
      | none =>
          exact traceGroup_isSome_of_explained toLowercase kept (explained_of first kept found)
    · intro group listed implicit
      rcases group_origin toLowercase listed with state | ⟨outcome, first, same, origin⟩
      · exact absurd (state.symm.trans implicit) (groupState_ne_implicit _)
      · rw [same]
        rw [implicit] at origin
        cases origin with
        | membership _ known => exact absurd known.symm (groupState_ne_implicit _)
        | implicit foreign held => exact (explained_of outcome first foreign).implicit held
    · intro group listed filtered
      rcases group_origin toLowercase listed with state | ⟨outcome, first, same, origin⟩
      · exact state.trans (groupState_of_denyOnly filtered)
      · rw [same] at filtered
        generalize group.state = state at origin ⊢
        cases origin with
        | membership _ known => exact known.trans (groupState_of_denyOnly filtered)
        | implicit foreign held =>
            exact absurd filtered (explained_of outcome first foreign).enabled
        | uncertain foreign outside undecided =>
            exact absurd filtered (explained_of outcome first foreign).enabled

end Soundness

end ExplanationRequest

end Stars
