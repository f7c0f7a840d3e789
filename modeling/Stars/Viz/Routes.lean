import Stars.PermissionEngine.TraceGroups
import Stars.Viz.Graph

namespace Stars
namespace Viz

open Stars.Graph PermissionEngine

/-!
# Routes of the permission graph

Every edge of a graph joins neighbouring columns, whatever trace it is drawn from.
The box of an entry always flows into its layer and on into the result, and it has a
way from the account exactly when the trace has a group for its trustee.
-/

/-- An edge leads from one number to the other. -/
def GraphLayout.Joined (graph : GraphLayout) (left right : Nat) : Prop :=
  ∃ edge ∈ graph.edges, edge.fromNode = left ∧ edge.toNode = right

/-- The box stands between the account and an entry for the trustee. -/
def Box.LeadsTo (account sid : Sid) : Box → Prop
  | .accountItself => sid = account
  | .group named => named.sid = sid
  | .otherGroup named => named.sid = sid
  | _ => False

/-- A box flows into the result, through the logon decision where there is one. -/
def GraphLayout.FlowsIntoResult (graph : GraphLayout) (index : Nat) : Prop :=
  ∃ result last, Placed graph.nodes result last ∧ last.box = .result ∧
    (graph.Joined index result ∨ ∃ logon between marker, Placed graph.nodes logon between ∧
      between.box = .logon marker ∧ graph.Joined index logon ∧ graph.Joined logon result)

/-- The box of an entry lies on a path from the account through a box of its trustee
and on through its layer to the result. -/
structure OnRoute (account : Sid) (graph : GraphLayout) (index : Nat) (outcome : AceOutcome) :
    Prop where
  reached : ∃ start first source between, Placed graph.nodes start first ∧
    first.box = .account ∧ Placed graph.nodes source between ∧
      between.box.LeadsTo account outcome.sid ∧
        graph.Joined start source ∧ graph.Joined source index
  flows : ∃ layer next, Placed graph.nodes layer next ∧ next.box = .layer outcome.layer ∧
    graph.Joined index layer ∧ graph.FlowsIntoResult layer

/-- What a number of the graph can stand for. -/
inductive Drawn (p : ExplainedPermission) (allGroups : Bool) (index : Nat) : Node → Prop where
  | account : Drawn p allGroups index accountNode
  | accountItself : Drawn p allGroups index ⟨1, .accountItself, .plain⟩
  | group {shown : TraceGroup} (listed : shown ∈ p.trace.groups) :
      Drawn p allGroups index (groupBox shown)
  | otherGroup {shown : TraceGroup} (listed : shown ∈ drawnIndividually p allGroups) :
      Drawn p allGroups index (otherBox shown)
  | furtherGroups : Drawn p allGroups index
      ⟨1, .furtherGroups (summarised p allGroups), .inactive⟩
  | ace {outcome : AceOutcome} (numbered : (outcome, index) ∈ aceNodes p allGroups) :
      Drawn p allGroups index (aceBox outcome)
  | noAce (layer : TraceLayer) : Drawn p allGroups index ⟨2, .noAce layer, .inactive⟩
  | ntfs : Drawn p allGroups index (ntfsBox p)
  | share : Drawn p allGroups index ⟨3, .layer .share, shareLook p⟩
  | logon (entry : Look × PermissionDiagnostic) : Drawn p allGroups index (logonBox entry)
  | result : Drawn p allGroups index (resultBox p)

section Stages

variable (p : ExplainedPermission) (allGroups : Bool)

theorem logonStage_kept : logonStage p allGroups <+: graphNodes p allGroups :=
  List.prefix_append _ _

theorem shareStage_kept : shareStage p allGroups <+: graphNodes p allGroups :=
  (List.prefix_append _ _).trans (logonStage_kept p allGroups)

theorem ntfsStage_kept : ntfsStage p allGroups <+: graphNodes p allGroups :=
  (prefix_addIf _ _ _).trans (shareStage_kept p allGroups)

theorem aceStage_kept : aceStage p allGroups <+: graphNodes p allGroups :=
  ((prefix_addIf _ _ _).trans ((prefix_addIf _ _ _).trans (List.prefix_append _ _))).trans
    (ntfsStage_kept p allGroups)

theorem otherStage_kept : otherStage p allGroups <+: graphNodes p allGroups :=
  ((prefix_addIf _ _ _).trans (List.prefix_append _ _)).trans (aceStage_kept p allGroups)

theorem groupStage_kept : groupStage p <+: graphNodes p allGroups :=
  (List.prefix_append _ _).trans (otherStage_kept p allGroups)

theorem directStage_kept : directStage p <+: graphNodes p allGroups :=
  (List.prefix_append _ _).trans (groupStage_kept p allGroups)

variable {p allGroups}

theorem placed_account : Placed (graphNodes p allGroups) 0 accountNode :=
  (show Placed accountStage 0 accountNode from rfl).mono
    ((prefix_addIf _ _ _).trans (directStage_kept p allGroups))

theorem placed_direct {index : Nat} (numbered : directNode p = some index) :
    Placed (graphNodes p allGroups) index ⟨1, .accountItself, .plain⟩ :=
  (placed_addIf numbered).mono (directStage_kept p allGroups)

theorem placed_ace {entry : AceOutcome × Nat} (numbered : entry ∈ aceNodes p allGroups) :
    Placed (graphNodes p allGroups) entry.2 (aceBox entry.1) :=
  (placed_each aceBox numbered).mono (aceStage_kept p allGroups)

theorem placed_ntfs : Placed (graphNodes p allGroups) (ntfsNode p allGroups) (ntfsBox p) :=
  placed_last.mono (ntfsStage_kept p allGroups)

theorem placed_share {index : Nat} (numbered : shareNode p allGroups = some index) :
    Placed (graphNodes p allGroups) index ⟨3, .layer .share, shareLook p⟩ :=
  (placed_addIf numbered).mono (shareStage_kept p allGroups)

theorem placed_result : Placed (graphNodes p allGroups) (resultNode p allGroups) (resultBox p) :=
  placed_last

theorem placed_logon {entry : Look × PermissionDiagnostic} (found : logonNode p = some entry) :
    Placed (graphNodes p allGroups) (shareStage p allGroups).length (logonBox entry) := by
  refine Placed.mono ?_ (logonStage_kept p allGroups)
  rw [logonStage, found]
  exact placed_last

/-- A group box is a group of the trace, or a membership drawn beside them. -/
theorem placed_group {group : GroupNode} (listed : group ∈ groupNodes p allGroups) :
    (∃ shown ∈ p.trace.groups, shown.sid = group.sid ∧
      Placed (graphNodes p allGroups) group.index (groupBox shown)) ∨
    ∃ shown ∈ drawnIndividually p allGroups, shown.sid = group.sid ∧
      Placed (graphNodes p allGroups) group.index (otherBox shown) := by
  rcases List.mem_append.mp listed with named | other
  · rcases List.mem_map.mp named with ⟨⟨shown, index⟩, numbered, rfl⟩
    exact Or.inl ⟨shown, List.fst_mem_of_mem_zipIdx numbered, rfl,
      (placed_each groupBox numbered).mono (groupStage_kept p allGroups)⟩
  · rcases List.mem_map.mp other with ⟨⟨shown, index⟩, numbered, rfl⟩
    exact Or.inr ⟨shown, List.fst_mem_of_mem_zipIdx numbered, rfl,
      (placed_each otherBox numbered).mono (otherStage_kept p allGroups)⟩

/-- The box that the layers flow into. -/
theorem placed_intoResult :
    ∃ node, Placed (graphNodes p allGroups) (intoResult p allGroups) node ∧ node.col = 4 := by
  rw [intoResult, logonIdx]
  cases found : logonNode p with
  | none =>
      refine ⟨resultBox p, placed_result, ?_⟩
      rw [resultBox, resultCol, found]
      rfl
  | some entry => exact ⟨logonBox entry, placed_logon found, rfl⟩

theorem neighbouring_group {group : GroupNode} (listed : group ∈ groupNodes p allGroups) :
    Neighbouring Node.col (graphNodes p allGroups) 0 group.index := by
  rcases placed_group listed with ⟨_, _, _, placed⟩ | ⟨_, _, _, placed⟩
  · exact ⟨_, _, placed_account, placed, rfl⟩
  · exact ⟨_, _, placed_account, placed, rfl⟩

theorem neighbouring_source {entry : AceOutcome × Nat} {source : Nat × Bool}
    (numbered : entry ∈ aceNodes p allGroups)
    (found : aceSource p allGroups entry.1 = some source) :
    Neighbouring Node.col (graphNodes p allGroups) source.1 entry.2 := by
  rw [aceSource] at found
  split at found
  · rcases Option.map_eq_some_iff.mp found with ⟨index, direct, rfl⟩
    exact ⟨_, _, placed_direct direct, placed_ace numbered, rfl⟩
  · rcases Option.map_eq_some_iff.mp found with ⟨group, first, rfl⟩
    rcases placed_group (List.mem_of_find?_eq_some first) with
      ⟨_, _, _, placed⟩ | ⟨_, _, _, placed⟩
    · exact ⟨_, _, placed, placed_ace numbered, rfl⟩
    · exact ⟨_, _, placed, placed_ace numbered, rfl⟩

theorem neighbouring_layer {entry : AceOutcome × Nat} (numbered : entry ∈ aceNodes p allGroups) :
    Neighbouring Node.col (graphNodes p allGroups) entry.2
      (if entry.1.layer = .ntfs then ntfsNode p allGroups
        else (shareNode p allGroups).getD (ntfsNode p allGroups)) := by
  split
  · exact ⟨_, _, placed_ace numbered, placed_ntfs, rfl⟩
  · cases share : shareNode p allGroups with
    | none => exact ⟨_, _, placed_ace numbered, placed_ntfs, rfl⟩
    | some index => exact ⟨_, _, placed_ace numbered, placed_share share, rfl⟩

/-- Every edge joins neighbouring columns. -/
theorem graphEdges_neighbouring {edge : Edge} (member : edge ∈ graphEdges p allGroups) :
    Neighbouring Node.col (graphNodes p allGroups) edge.fromNode edge.toNode := by
  rcases @placed_intoResult p allGroups with ⟨into, placedInto, column⟩
  rw [graphEdges] at member
  simp only [List.mem_append] at member
  rcases member with ((((direct | group) | ace) | ntfs) | share) | logon
  · rcases List.mem_map.mp direct with ⟨index, numbered, rfl⟩
    exact ⟨_, _, placed_account, placed_direct (Option.mem_toList.mp numbered), rfl⟩
  · rcases List.mem_map.mp group with ⟨listed, inside, rfl⟩
    exact neighbouring_group inside
  · rcases List.mem_flatMap.mp ace with ⟨entry, numbered, drawn⟩
    rw [aceEdges] at drawn
    rcases List.mem_append.mp drawn with source | layer
    · rcases List.mem_map.mp source with ⟨found, known, rfl⟩
      exact neighbouring_source numbered (Option.mem_toList.mp known)
    · rw [List.mem_singleton.mp layer]
      exact neighbouring_layer numbered
  · rw [List.mem_singleton.mp ntfs]
    exact ⟨_, _, placed_ntfs, placedInto, column⟩
  · rcases List.mem_map.mp share with ⟨index, numbered, rfl⟩
    exact ⟨_, _, placed_share (Option.mem_toList.mp numbered), placedInto, column⟩
  · split at logon
    · rename_i index entry numbered found
      rw [logonIdx, found] at numbered
      have placed := @placed_logon p allGroups entry found
      have last : (resultBox p).col = 5 := by
        rw [resultBox, resultCol, found]
        rfl
      rw [List.mem_singleton.mp logon, logonEdge, ← Option.some_inj.mp numbered]
      split
      · exact ⟨_, _, placed, placed_result, last⟩
      · exact ⟨_, _, placed, placed_result, last⟩
    · cases logon

/-- The graph as it is drawn, when the result carries a trace. -/
def layout (p : ExplainedPermission) (allGroups : Bool) : GraphLayout :=
  ⟨graphNodes p allGroups, graphEdges p allGroups⟩

theorem joined_direct {index : Nat} (numbered : directNode p = some index) :
    (layout p allGroups).Joined 0 index := by
  refine ⟨⟨0, index, .plain, directDecided p⟩, ?_, rfl, rfl⟩
  simp [layout, graphEdges, numbered]

theorem joined_group {group : GroupNode} (listed : group ∈ groupNodes p allGroups) :
    (layout p allGroups).Joined 0 group.index := by
  refine ⟨⟨0, group.index, group.look, group.decisive⟩, ?_, rfl, rfl⟩
  simp only [layout, graphEdges, List.mem_append, List.append_assoc]
  exact Or.inr (Or.inl (List.mem_map_of_mem listed))

theorem joined_of_aceEdge {entry : AceOutcome × Nat} {edge : Edge}
    (numbered : entry ∈ aceNodes p allGroups) (drawn : edge ∈ aceEdges p allGroups entry) :
    (layout p allGroups).Joined edge.fromNode edge.toNode := by
  refine ⟨edge, ?_, rfl, rfl⟩
  simp only [layout, graphEdges, List.mem_append, List.append_assoc]
  exact Or.inr (Or.inr (Or.inl (List.mem_flatMap.mpr ⟨entry, numbered, drawn⟩)))

/-- What flows into the box before the result flows into the result. -/
theorem flowsIntoResult_of_joined {index : Nat}
    (joined : (layout p allGroups).Joined index (intoResult p allGroups)) :
    (layout p allGroups).FlowsIntoResult index := by
  refine ⟨resultNode p allGroups, resultBox p, placed_result, rfl, ?_⟩
  rw [intoResult, logonIdx] at joined
  cases found : logonNode p with
  | none =>
      rw [found] at joined
      exact Or.inl joined
  | some entry =>
      rw [found] at joined
      refine Or.inr ⟨_, _, entry.2, placed_logon found, rfl, joined,
        logonEdge p allGroups (shareStage p allGroups).length entry, ?_, ?_, ?_⟩
      · simp [layout, graphEdges, logonIdx, found]
      · rw [logonEdge]
        split <;> rfl
      · rw [logonEdge]
        split <;> rfl

theorem flowsIntoResult_ntfs : (layout p allGroups).FlowsIntoResult (ntfsNode p allGroups) := by
  apply flowsIntoResult_of_joined
  refine ⟨⟨ntfsNode p allGroups, intoResult p allGroups, .value,
    limit p = none || limit p = some .ntfs⟩, ?_, rfl, rfl⟩
  simp [layout, graphEdges]

theorem flowsIntoResult_share {index : Nat} (numbered : shareNode p allGroups = some index) :
    (layout p allGroups).FlowsIntoResult index := by
  apply flowsIntoResult_of_joined
  refine ⟨⟨index, intoResult p allGroups, .value, limit p = some .share⟩, ?_, rfl, rfl⟩
  simp [layout, graphEdges, numbered]

/-- Every drawn entry flows into its layer and on into the result. -/
theorem flows_of_ace {entry : AceOutcome × Nat} (numbered : entry ∈ aceNodes p allGroups) :
    ∃ layer next, Placed (graphNodes p allGroups) layer next ∧
      next.box = .layer entry.1.layer ∧ (layout p allGroups).Joined entry.2 layer ∧
        (layout p allGroups).FlowsIntoResult layer := by
  have drawn := joined_of_aceEdge numbered (List.mem_append_right _ List.mem_cons_self)
  dsimp only at drawn
  cases layer : entry.1.layer with
  | ntfs =>
      rw [if_pos layer] at drawn
      exact ⟨_, _, placed_ntfs, rfl, drawn, flowsIntoResult_ntfs⟩
  | share =>
      -- An entry of the share is drawn only beside the box of the share.
      have visible := (List.mem_filter.mp (List.fst_mem_of_mem_zipIdx numbered)).2
      rw [shown, layer, shareApplied] at visible
      have context : shareNode p allGroups = some (ntfsStage p allGroups).length := by
        have applied : p.shareStatus = .applied := by simpa using visible
        rw [shareNode, shareCtx, applied]
        rfl
      rw [if_neg (by rw [layer]; nofun), context, Option.getD_some] at drawn
      exact ⟨_, _, placed_share context, rfl, drawn, flowsIntoResult_share context⟩

/-- The boxes before the entries. -/
theorem drawn_of_furtherStage {index : Nat} {node : Node}
    (placed : Placed (furtherStage p allGroups) index node) : Drawn p allGroups index node := by
  rcases placed.of_addIf with others | rfl
  · rcases others.of_each with groups | ⟨_, numbered, rfl⟩
    · rcases groups.of_each with direct | ⟨_, numbered, rfl⟩
      · rcases direct.of_addIf with account | rfl
        · rw [List.mem_singleton.mp account.mem]
          exact .account
        · exact .accountItself
      · exact .group (List.fst_mem_of_mem_zipIdx numbered)
    · exact .otherGroup (List.fst_mem_of_mem_zipIdx numbered)
  · exact .furtherGroups

/-- The boxes stage by stage, from the last one back. -/
theorem drawn_of_placed {index : Nat} {node : Node}
    (placed : Placed (graphNodes p allGroups) index node) : Drawn p allGroups index node := by
  rcases placed.of_last with logon | rfl
  · rcases logon.of_each with share | ⟨entry, _, rfl⟩
    · rcases share.of_addIf with layer | rfl
      · rcases layer.of_last with bands | rfl
        · rcases bands.of_addIf with band | rfl
          · rcases band.of_addIf with aces | rfl
            · rcases aces.of_each with before | ⟨_, numbered, rfl⟩
              · exact drawn_of_furtherStage before
              · exact .ace numbered
            · exact .noAce .ntfs
          · exact .noAce .share
        · exact .ntfs
      · exact .share
    · exact .logon entry
  · exact .result

/-- The boxes of entries are the drawn entries. -/
theorem mem_aceNodes_of_placed {index : Nat} {node : Node} {outcome : AceOutcome}
    (placed : Placed (graphNodes p allGroups) index node) (box : node.box = .ace outcome) :
    (outcome, index) ∈ aceNodes p allGroups := by
  cases drawn_of_placed placed with
  | ace numbered =>
      rw [aceBox, Box.ace.injEq] at box
      rw [← box]
      exact numbered
  | _ => cases box

/-- A box between the account and an entry names the trustee. -/
theorem named_of_leadsTo {index : Nat} {node : Node} {sid : Sid}
    (placed : Placed (graphNodes p allGroups) index node)
    (leads : node.box.LeadsTo p.identity.sid sid) :
    sid = p.identity.sid ∨
      ∃ group ∈ p.trace.groups ++ drawnIndividually p allGroups, group.sid = sid := by
  cases drawn_of_placed placed with
  | accountItself => exact Or.inl leads
  | group listed => exact Or.inr ⟨_, List.mem_append_left _ listed, leads⟩
  | otherGroup listed => exact Or.inr ⟨_, List.mem_append_right _ listed, leads⟩
  | _ => exact leads.elim

/-! ## Where entries come from -/

theorem groupNodes_sids :
    (groupNodes p allGroups).map GroupNode.sid =
      (p.trace.groups ++ drawnIndividually p allGroups).map TraceGroup.sid := by
  have numbered : ∀ (groups : List TraceGroup) (start : Nat),
      (groups.zipIdx start).map (fun entry => entry.1.sid) = groups.map TraceGroup.sid := by
    intro groups start
    have divided : (groups.zipIdx start).map (fun entry => entry.1.sid) =
        ((groups.zipIdx start).map Prod.fst).map TraceGroup.sid := (List.map_map ..).symm
    rw [divided, List.zipIdx_map_fst]
  rw [groupNodes, List.map_append, List.map_map, List.map_map, List.map_append]
  exact congrArg₂ _ (numbered _ _) (numbered _ _)

theorem aceSource_isSome {entry : AceOutcome × Nat} (numbered : entry ∈ aceNodes p allGroups)
    (known : entry.1.sid = p.identity.sid ∨
      ∃ group ∈ p.trace.groups ++ drawnIndividually p allGroups, group.sid = entry.1.sid) :
    (aceSource p allGroups entry.1).isSome = true := by
  rw [aceSource]
  split
  · rename_i own
    have named : namesAccount p = true :=
      List.any_eq_true.mpr ⟨entry.1, List.fst_mem_of_mem_zipIdx numbered, decide_eq_true own⟩
    rw [directNode, numberIf, named]
    rfl
  · rename_i other
    rcases known.resolve_left other with ⟨group, listed, same⟩
    have present : group.sid ∈ (groupNodes p allGroups).map GroupNode.sid := by
      rw [groupNodes_sids]
      exact List.mem_map_of_mem listed
    rcases List.mem_map.mp present with ⟨drawn, inside, equal⟩
    rw [Option.isSome_map, List.find?_isSome]
    exact ⟨drawn, inside, decide_eq_true (equal.trans same)⟩

/-- The source of an entry is a box of its trustee beside the account. -/
theorem leadsTo_of_source {outcome : AceOutcome} {source : Nat × Bool}
    (found : aceSource p allGroups outcome = some source) :
    ∃ between, Placed (graphNodes p allGroups) source.1 between ∧
      between.box.LeadsTo p.identity.sid outcome.sid ∧
        (layout p allGroups).Joined 0 source.1 := by
  rw [aceSource] at found
  split at found
  · rename_i own
    rcases Option.map_eq_some_iff.mp found with ⟨index, direct, rfl⟩
    exact ⟨_, placed_direct direct, own, joined_direct direct⟩
  · rcases Option.map_eq_some_iff.mp found with ⟨group, first, rfl⟩
    have listed := List.mem_of_find?_eq_some first
    have same : group.sid = outcome.sid := by
      have matched := List.find?_some first
      exact of_decide_eq_true matched
    rcases placed_group listed with ⟨shown, _, named, placed⟩ | ⟨shown, _, named, placed⟩
    · exact ⟨_, placed, named.trans same, joined_group listed⟩
    · exact ⟨_, placed, named.trans same, joined_group listed⟩

theorem joined_source {entry : AceOutcome × Nat} {source : Nat × Bool}
    (numbered : entry ∈ aceNodes p allGroups)
    (found : aceSource p allGroups entry.1 = some source) :
    (layout p allGroups).Joined source.1 entry.2 := by
  refine @joined_of_aceEdge p allGroups entry ⟨source.1, entry.2, effectLook entry.1,
    entry.1.effect.isDecided && source.2⟩ numbered (List.mem_append_left _ ?_)
  rw [found]
  exact List.mem_cons_self

/-- The box of an entry is on a route exactly when its trustee is the account or has a
group box. -/
theorem onRoute_iff {index : Nat} {node : Node} {outcome : AceOutcome}
    (placed : Placed (graphNodes p allGroups) index node) (box : node.box = .ace outcome) :
    OnRoute p.identity.sid (layout p allGroups) index outcome ↔
      outcome.sid = p.identity.sid ∨
        ∃ group ∈ p.trace.groups ++ drawnIndividually p allGroups, group.sid = outcome.sid := by
  have numbered := mem_aceNodes_of_placed placed box
  constructor
  · rintro ⟨⟨_, _, source, between, _, _, placedSource, leads, _, _⟩, _⟩
    exact named_of_leadsTo placedSource leads
  · intro known
    refine ⟨?_, flows_of_ace numbered⟩
    rcases Option.isSome_iff_exists.mp (aceSource_isSome numbered known) with ⟨source, found⟩
    rcases leadsTo_of_source found with ⟨between, placedSource, leads, joined⟩
    refine ⟨0, _, source.1, between, placed_account, rfl, placedSource, leads, joined, ?_⟩
    exact joined_source numbered found

end Stages

/-! ## The graph of an evaluation -/

/-- An evaluation with its trace.  The steps of the path are not drawn. -/
def explained (toLowercase : String → String) (request : ExplanationRequest)
    (path : List String) : ExplainedPermission :=
  { evaluate request.toPermissionEvaluationInput with
    pathExplanation := path
    trace := request.traceGroups toLowercase }

/-- The groups of the trace are sound, and its graph shows a route for every entry. -/
structure RoutesShown (toLowercase : String → String) (request : ExplanationRequest)
    (path : List String) : Prop where
  groups : request.GroupsSound toLowercase (request.traceGroups toLowercase)
  neighbouring : ∀ allGroups graph,
    permissionGraphWith (explained toLowercase request path) allGroups = some graph →
      ∀ edge ∈ graph.edges, Neighbouring Node.col graph.nodes edge.fromNode edge.toNode
  routes : ∀ allGroups graph,
    permissionGraphWith (explained toLowercase request path) allGroups = some graph →
      ∀ index node outcome, Placed graph.nodes index node → node.box = .ace outcome →
        OnRoute request.identity.sid graph index outcome

theorem permissionGraphWith_eq_some {p : ExplainedPermission} {allGroups : Bool}
    {graph : GraphLayout} (drawn : permissionGraphWith p allGroups = some graph) :
    graph = layout p allGroups := by
  rw [permissionGraphWith] at drawn
  split at drawn
  · cases drawn
  · exact (Option.some_inj.mp drawn).symm

/-- The trace and the graph show every route exactly when every trustee that is no
membership of its own is explained by the token. -/
theorem routesShown_iff (toLowercase : String → String) (request : ExplanationRequest)
    (path : List String) :
    RoutesShown toLowercase request path ↔
      ∀ sid, request.IsTrustee sid →
        (∀ membership ∈ request.groupMemberships, membership.groupSid ≠ sid) →
          request.Explained sid := by
  rw [← request.traceGroups_sound_iff toLowercase]
  refine ⟨RoutesShown.groups, fun sound => ⟨sound, ?_, ?_⟩⟩
  · intro allGroups graph drawn edge member
    rw [permissionGraphWith_eq_some drawn] at member ⊢
    exact graphEdges_neighbouring member
  · intro allGroups graph drawn index node outcome placed box
    rw [permissionGraphWith_eq_some drawn] at placed ⊢
    have account : (explained toLowercase request path).identity.sid = request.identity.sid :=
      congrArg Identity.sid (evaluate_identity request.toPermissionEvaluationInput)
    rw [← account]
    refine (onRoute_iff placed box).mpr ?_
    rw [account]
    by_cases own : outcome.sid = request.identity.sid
    · exact Or.inl own
    · have numbered := mem_aceNodes_of_placed placed box
      have listed := (List.mem_filter.mp (List.fst_mem_of_mem_zipIdx numbered)).1
      have single := sound.once outcome listed own
      rcases List.mem_map.mp (List.count_pos_iff.mp (by rw [single]; exact Nat.one_pos)) with
        ⟨group, named, same⟩
      exact Or.inr ⟨group, List.mem_append_left _ named, same⟩

/-- A local administrator over the network, whose groups are filtered, and a Deny entry
for the local administrators. -/
def deniedAdministrator : ExplanationRequest where
  identity := { sid := ⟨"S-1-5-21-1-2-3-1001"⟩ }
  groupMemberships :=
    [{ memberSid := ⟨"S-1-5-21-1-2-3-1001"⟩, groupSid := ⟨"S-1-5-32-544"⟩, direct := true }]
  localGroupSids := [⟨"S-1-5-32-544"⟩]
  uacFilteredGroupSids := [⟨"S-1-5-114"⟩, ⟨"S-1-5-32-544"⟩]
  accessContext := .remoteSmb
  fileSystemObject :=
    { path := "\\\\server\\Data"
      dacl := [{ kind := .deny, sid := ⟨"S-1-5-114"⟩, mask := 0x1#32 }] }

/-- The entry decides a bit, and the trace has no group for its trustee. -/
theorem deniedAdministrator_no_route :
    ¬ RoutesShown Text.toAsciiLowercase deniedAdministrator [] := by
  intro shown
  have single := shown.groups.once
    { layer := .ntfs
      kind := .deny
      sid := ⟨"S-1-5-114"⟩
      trustee := "S-1-5-114"
      mask := 0x1#32
      inherited := false
      effect := .decided 0x1#32 }
  revert single
  decide

end Viz
end Stars
