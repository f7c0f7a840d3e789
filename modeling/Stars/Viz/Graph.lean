import Stars.Core.Explanation
import Stars.Graph.Placement
import Stars.PermissionEngine.Mask

namespace Stars

open Stars.Graph

/-!
# The permission graph

The drawn form of a trace.  Boxes stand in columns: the account, the groups it comes
through, the access entries, the layers, the logon decision where there is one, and
the result.  Boxes are numbered in the order in which they are drawn, and edges
refer to the numbers.  A box keeps what it is about instead of its lines of text, and
neither sizes nor positions are modelled.
-/

namespace PermissionEngine

/-- Which of the two sides takes rights away. -/
inductive LimitingSide where
  | ntfs
  | share
  | neither
deriving DecidableEq

def limitingSide (ntfs share : AccessMask) : LimitingSide :=
  if ntfs &&& ~~~share ≠ 0#32 then .share
  else if share &&& ~~~ntfs ≠ 0#32 then .ntfs
  else .neither

end PermissionEngine

def PermissionTrace.isEmpty (trace : PermissionTrace) : Bool :=
  trace.aces.isEmpty && trace.groups.isEmpty && trace.otherGroups == 0

def AceEffect.isDecided : AceEffect → Bool
  | .decided _ => true
  | _ => false

namespace Viz

open PermissionEngine

/-- How an edge or the border of a box is drawn. -/
inductive Look where
  | plain
  | granted
  | denied
  | uncertain
  | inactive
  /-- The result of a layer flowing into the effective right. -/
  | value
deriving DecidableEq

/-- What a box is about. -/
inductive Box where
  | account
  | accountItself
  | group (group : TraceGroup)
  | otherGroup (group : TraceGroup)
  | furtherGroups (count : Nat)
  | ace (outcome : AceOutcome)
  | noAce (layer : TraceLayer)
  | layer (layer : TraceLayer)
  | logon (marker : PermissionDiagnostic)
  | result
deriving DecidableEq

structure Node where
  col : Nat
  box : Box
  look : Look
deriving DecidableEq

structure Edge where
  fromNode : Nat
  toNode : Nat
  look : Look
  strong : Bool
deriving DecidableEq

structure GraphLayout where
  nodes : List Node
  edges : List Edge
deriving DecidableEq

/-- A group box in the order of the search for a trustee. -/
structure GroupNode where
  sid : Sid
  index : Nat
  look : Look
  decisive : Bool
deriving DecidableEq

def effectLook (outcome : AceOutcome) : Look :=
  match outcome.effect, outcome.kind with
  | .decided _, .allow => .granted
  | .decided _, .deny => .denied
  | .uncertain _, _ => .uncertain
  | _, _ => .inactive

def groupLook (group : TraceGroup) : Look :=
  match group.state with
  | .uncertain => .uncertain
  | .denyOnly => .inactive
  | _ => .plain

def determinableLook (determinable : Bool) : Look := if determinable then .plain else .uncertain

section Drawing

variable (p : ExplainedPermission)

/-- The marker of Selective Authentication as a box of its own. -/
def logonNode : Option (Look × PermissionDiagnostic) :=
  p.diagnostics.findSome? (fun marker =>
    match marker with
    | .selectiveAuthenticationAllowed _ _ => some (.granted, marker)
    | .selectiveAuthenticationDenied _ => some (.denied, marker)
    | .selectiveAuthenticationUnknown _ _ _ => some (.uncertain, marker)
    | _ => none)

/-- An undeterminable logon over permissions that grant nothing. -/
def logonWithoutEffect : Bool :=
  p.diagnostics.any (fun marker =>
    match marker with
    | .selectiveAuthenticationUnknown _ _ affectsResult => !affectsResult
    | _ => false)

def shareCtx : Bool := p.shareStatus ≠ .notApplicable

def shareApplied : Bool := p.shareStatus = .applied

/-- Entries of the share are drawn only when the share was evaluated. -/
def shown (outcome : AceOutcome) : Bool := outcome.layer = .ntfs || shareApplied p

def shownAces : List AceOutcome := p.trace.aces.filter (shown p)

def limit : Option LimitingSide :=
  match p.shareStatus, p.shareMask with
  | .applied, some share => some (limitingSide p.ntfsMask share)
  | _, _ => none

def resultCol : Nat := if (logonNode p).isSome then 5 else 4

def accountNode : Node := ⟨0, .account, .plain⟩

def accountStage : List Node := [accountNode]

/-- An entry that names the account itself has no group to come through. -/
def namesAccount : Bool := (shownAces p).any (fun outcome => outcome.sid = p.identity.sid)

def directDecided : Bool :=
  (shownAces p).any (fun outcome => outcome.sid = p.identity.sid && outcome.effect.isDecided)

def directStage : List Node := addIf (namesAccount p) ⟨1, .accountItself, .plain⟩ accountStage

def directNode : Option Nat := numberIf (namesAccount p) accountStage

def groupBox (group : TraceGroup) : Node := ⟨1, .group group, groupLook group⟩

def otherBox (group : TraceGroup) : Node := ⟨1, .otherGroup group, .inactive⟩

def groupStage : List Node := directStage p ++ p.trace.groups.map groupBox

variable (allGroups : Bool)

/-- The memberships without an entry that get a box each. -/
def drawnIndividually : List TraceGroup := if allGroups then p.trace.other else []

def otherStage : List Node := groupStage p ++ (drawnIndividually p allGroups).map otherBox

def groupNodes : List GroupNode :=
  (p.trace.groups.zipIdx (directStage p).length).map (fun entry =>
    ⟨entry.1.sid, entry.2, groupLook entry.1, entry.1.decisive⟩) ++
  ((drawnIndividually p allGroups).zipIdx (groupStage p).length).map (fun entry =>
    ⟨entry.1.sid, entry.2, .inactive, false⟩)

/-- The memberships that are only counted. -/
def summarised : Nat := p.trace.otherGroups - (drawnIndividually p allGroups).length

def furtherStage : List Node :=
  addIf (summarised p allGroups > 0) ⟨1, .furtherGroups (summarised p allGroups), .inactive⟩
    (otherStage p allGroups)

def aceBox (outcome : AceOutcome) : Node := ⟨2, .ace outcome, effectLook outcome⟩

def aceStage : List Node := furtherStage p allGroups ++ (shownAces p).map aceBox

def aceNodes : List (AceOutcome × Nat) := (shownAces p).zipIdx (furtherStage p allGroups).length

/-- No entry of a layer is drawn. -/
def emptyBand (layer : TraceLayer) : Bool :=
  !(shownAces p).any (fun outcome => outcome.layer = layer)

def ntfsBandStage : List Node :=
  addIf (emptyBand p .ntfs) ⟨2, .noAce .ntfs, .inactive⟩ (aceStage p allGroups)

def shareBandStage : List Node :=
  addIf (shareApplied p && emptyBand p .share) ⟨2, .noAce .share, .inactive⟩
    (ntfsBandStage p allGroups)

def ntfsBox : Node := ⟨3, .layer .ntfs, determinableLook p.ntfsDeterminable⟩

def ntfsStage : List Node := shareBandStage p allGroups ++ [ntfsBox p]

def ntfsNode : Nat := (shareBandStage p allGroups).length

def shareLook : Look :=
  match p.shareStatus, p.shareMask with
  | .applied, some _ => determinableLook p.shareDeterminable
  | .unrestricted, _ => .plain
  | _, _ => .uncertain

def shareStage : List Node :=
  addIf (shareCtx p) ⟨3, .layer .share, shareLook p⟩ (ntfsStage p allGroups)

def shareNode : Option Nat := numberIf (shareCtx p) (ntfsStage p allGroups)

def logonBox (entry : Look × PermissionDiagnostic) : Node := ⟨4, .logon entry.2, entry.1⟩

def logonStage : List Node := shareStage p allGroups ++ (logonNode p).toList.map logonBox

def logonIdx : Option Nat := (logonNode p).map (fun _ => (shareStage p allGroups).length)

def resultBox : Node := ⟨resultCol p, .result, determinableLook p.effectiveDeterminable⟩

def resultNode : Nat := (logonStage p allGroups).length

def graphNodes : List Node := logonStage p allGroups ++ [resultBox p]

/-! ## Edges -/

/-- Where an entry comes from: the account itself, or the first box of its trustee. -/
def aceSource (outcome : AceOutcome) : Option (Nat × Bool) :=
  if outcome.sid = p.identity.sid then (directNode p).map (fun index => (index, true))
  else ((groupNodes p allGroups).find? (fun group => group.sid = outcome.sid)).map
    (fun group => (group.index, group.decisive))

def aceEdges (entry : AceOutcome × Nat) : List Edge :=
  let decided := entry.1.effect.isDecided
  (aceSource p allGroups entry.1).toList.map (fun source =>
    ⟨source.1, entry.2, effectLook entry.1, decided && source.2⟩) ++
  [⟨entry.2,
    if entry.1.layer = .ntfs then ntfsNode p allGroups
    else (shareNode p allGroups).getD (ntfsNode p allGroups),
    effectLook entry.1, decided⟩]

def intoResult : Nat := (logonIdx p allGroups).getD (resultNode p allGroups)

def logonEdge (index : Nat) (entry : Look × PermissionDiagnostic) : Edge :=
  if logonWithoutEffect p then ⟨index, resultNode p allGroups, .inactive, false⟩
  else ⟨index, resultNode p allGroups, entry.1, true⟩

def graphEdges : List Edge :=
  (directNode p).toList.map (fun index => ⟨0, index, .plain, directDecided p⟩) ++
  (groupNodes p allGroups).map (fun group => ⟨0, group.index, group.look, group.decisive⟩) ++
  (aceNodes p allGroups).flatMap (aceEdges p allGroups) ++
  [⟨ntfsNode p allGroups, intoResult p allGroups, .value,
    limit p = none || limit p = some .ntfs⟩] ++
  (shareNode p allGroups).toList.map (fun index =>
    ⟨index, intoResult p allGroups, .value, limit p = some .share⟩) ++
  (match logonIdx p allGroups, logonNode p with
    | some index, some entry => [logonEdge p allGroups index entry]
    | _, _ => [])

/-- The graph of a result, unless the result carries no trace. -/
def permissionGraphWith : Option GraphLayout :=
  if p.trace.isEmpty then none
  else some ⟨graphNodes p allGroups, graphEdges p allGroups⟩

end Drawing

end Viz

end Stars
