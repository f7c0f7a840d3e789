import Stars.Graph.Marking
import Stars.Viz.Routes

namespace Stars
namespace Viz

open Stars.Graph PermissionEngine

/-!
# The selected box of the permission graph

While a box is selected, the boxes it is reached from and the boxes it leads to stay
bright, and an edge stays bright with its two ends.  `routeNodes` follows the edges
in both directions; a read outside of its table of boxes has no result.
-/

namespace GraphLayout

/-- The ends of an edge, in the direction in which it is followed. -/
def direction (forward : Bool) (edge : Edge) : Nat × Nat :=
  if forward then (edge.fromNode, edge.toNode) else (edge.toNode, edge.fromNode)

def walk (graph : GraphLayout) (start : Nat) (forward : Bool) : Option (List Bool) :=
  Marking.search (graph.edges.map (direction forward)) graph.nodes.length
    (Marking.start graph.nodes.length start)

/-- Which boxes stay bright.  Without a selection, or with a number that is no box, all
of them do. -/
def routeNodes (graph : GraphLayout) (highlight : Option Nat) : Option (List Bool) :=
  match highlight.filter (fun number => number < graph.nodes.length) with
  | none => some (List.replicate graph.nodes.length true)
  | some start => do
      let up ← graph.walk start false
      let down ← graph.walk start true
      return List.zipWith (· || ·) up down

/-- An edge is drawn bright with both of its ends. -/
def hot (lit : List Bool) (edge : Edge) : Option Bool := do
  let origin ← lit[edge.fromNode]?
  let target ← lit[edge.toNode]?
  return origin && target

/-! ## What stays bright -/

/-- One box leads to another along the edges. -/
abbrev Leads (graph : GraphLayout) : Nat → Nat → Prop := Relation.ReflTransGen graph.Joined

/-- What stays bright while a box is selected: the boxes with a route through it, and
the edges on such a route. -/
structure Lights (graph : GraphLayout) (start : Nat) (lit : List Bool) : Prop where
  boxes : ∀ number, lit[number]? = some true ↔
    graph.Leads number start ∨ graph.Leads start number
  edges : ∀ edge ∈ graph.edges, ∃ bright, hot lit edge = some bright ∧
    (bright = true ↔ graph.Leads edge.toNode start ∨ graph.Leads start edge.fromNode)

/-- The bright boxes under a selection that may be none. -/
structure Highlighted (graph : GraphLayout) (highlight : Option Nat) (lit : List Bool) : Prop where
  size : lit.length = graph.nodes.length
  chosen : ∀ start, highlight = some start → start < graph.nodes.length → graph.Lights start lit
  otherwise : (∀ start, highlight = some start → graph.nodes.length ≤ start) →
    ∀ number < graph.nodes.length, lit[number]? = some true

theorem direction_forward (graph : GraphLayout) :
    (fun left right => (left, right) ∈ graph.edges.map (direction true)) = graph.Joined := by
  ext left right
  rw [List.mem_map]
  simp [direction, Joined]

theorem direction_backward (graph : GraphLayout) :
    (fun left right => (left, right) ∈ graph.edges.map (direction false)) =
      Function.swap graph.Joined := by
  ext left right
  rw [List.mem_map]
  simp [direction, Joined, and_comm]

/-- The ways along the edges in one direction, from a selected box. -/
def Way (graph : GraphLayout) (start : Nat) (forward : Bool) (number : Nat) : Prop :=
  if forward then graph.Leads start number else graph.Leads number start

theorem leads_direction (graph : GraphLayout) (forward : Bool) (start number : Nat) :
    Graph.Leads (graph.edges.map (direction forward)) start number ↔
      graph.Way start forward number := by
  unfold Graph.Leads
  cases forward with
  | true =>
      rw [direction_forward]
      exact Iff.rfl
  | false =>
      rw [direction_backward]
      exact Relation.reflTransGen_swap

section Columns

variable {graph : GraphLayout}

/-- Every edge joins two boxes of neighbouring columns. -/
def Columned (graph : GraphLayout) : Prop :=
  ∀ edge ∈ graph.edges, Neighbouring Node.col graph.nodes edge.fromNode edge.toNode

theorem Columned.inside (columned : graph.Columned) {edge : Edge} (member : edge ∈ graph.edges) :
    edge.fromNode < graph.nodes.length ∧ edge.toNode < graph.nodes.length := by
  rcases columned edge member with ⟨first, second, origin, target, _⟩
  exact ⟨(List.getElem?_eq_some_iff.mp origin).1, (List.getElem?_eq_some_iff.mp target).1⟩

/-- The column of a number. -/
def columnOf (graph : GraphLayout) (number : Nat) : Nat :=
  (graph.nodes[number]?.map Node.col).getD 0

theorem Columned.next (columned : graph.Columned) {left right : Nat}
    (joined : graph.Joined left right) : graph.columnOf right = graph.columnOf left + 1 := by
  rcases joined with ⟨edge, member, rfl, rfl⟩
  rcases columned edge member with ⟨first, second, origin, target, column⟩
  unfold Placed at origin target
  rw [columnOf, columnOf, origin, target]
  exact column

theorem walk_of_columned (columned : graph.Columned) {start : Nat}
    (inside : start < graph.nodes.length) (forward : Bool) :
    ∃ seen, graph.walk start forward = some seen ∧ seen.length = graph.nodes.length ∧
      ∀ number : Nat, seen[number]? = some true ↔
        graph.Way start forward number := by
  have bounded : ∀ ends ∈ graph.edges.map (direction forward), ends.2 < graph.nodes.length := by
    intro ends listed
    rcases List.mem_map.mp listed with ⟨edge, member, rfl⟩
    cases forward with
    | true => exact (columned.inside member).2
    | false => exact (columned.inside member).1
  rcases Marking.search_start bounded inside with ⟨seen, found, size, marks⟩
  refine ⟨seen, found, size, ?_⟩
  intro number
  rw [marks, leads_direction]

/-- One of two tables of the same size holds the mark. -/
theorem zipWith_or_true {up down : List Bool} (same : up.length = down.length) (number : Nat) :
    (List.zipWith (· || ·) up down)[number]? = some true ↔
      up[number]? = some true ∨ down[number]? = some true := by
  rw [List.getElem?_zipWith]
  by_cases inside : number < up.length
  · rw [List.getElem?_eq_getElem inside, List.getElem?_eq_getElem (same ▸ inside)]
    simp
  · rw [List.getElem?_eq_none (Nat.not_lt.mp inside),
      List.getElem?_eq_none (same ▸ Nat.not_lt.mp inside)]
    simp

theorem hot_eq {lit : List Bool} {edge : Edge} (origin : edge.fromNode < lit.length)
    (target : edge.toNode < lit.length) :
    ∃ bright, hot lit edge = some bright ∧
      (bright = true ↔ lit[edge.fromNode]? = some true ∧ lit[edge.toNode]? = some true) := by
  unfold hot
  rw [List.getElem?_eq_getElem origin, List.getElem?_eq_getElem target]
  exact ⟨_, rfl, by simp⟩

/-- The boxes with a route decide which edges stay bright. -/
theorem Columned.lights (columned : graph.Columned) {start : Nat} {lit : List Bool}
    (size : lit.length = graph.nodes.length)
    (boxes : ∀ number : Nat, lit[number]? = some true ↔
      graph.Leads number start ∨ graph.Leads start number) : graph.Lights start lit where
  boxes := boxes
  edges := by
    intro edge member
    have joined : graph.Joined edge.fromNode edge.toNode := ⟨edge, member, rfl, rfl⟩
    have layered : ∀ left right, graph.Joined left right →
        graph.columnOf right = graph.columnOf left + 1 := fun _ _ => columned.next
    rcases columned.inside member with ⟨origin, target⟩
    rcases hot_eq (size ▸ origin) (size ▸ target) with ⟨bright, drawn, ends⟩
    refine ⟨bright, drawn, ends.trans ?_⟩
    rw [boxes, boxes]
    constructor
    · intro both
      exact edge_on_way layered joined both.1 both.2
    · intro route
      rcases route with onward | back
      · exact ⟨.inl (onward.head joined), .inl onward⟩
      · exact ⟨.inr back, .inr (back.tail joined)⟩

theorem routeNodes_of_columned (columned : graph.Columned) (highlight : Option Nat) :
    ∃ lit, graph.routeNodes highlight = some lit ∧ graph.Highlighted highlight lit := by
  unfold routeNodes
  cases chosen : highlight.filter (fun number => number < graph.nodes.length) with
  | none =>
      refine ⟨_, rfl, List.length_replicate, ?_, ?_⟩
      · intro start selected inside
        rw [selected, Option.filter_some, decide_eq_true inside] at chosen
        cases chosen
      · intro _ number inside
        rw [List.getElem?_replicate, if_pos inside]
  | some start =>
      rcases Option.filter_eq_some_iff.mp chosen with ⟨selected, within⟩
      have inside : start < graph.nodes.length := of_decide_eq_true within
      rcases walk_of_columned columned inside false with ⟨up, foundUp, sizeUp, marksUp⟩
      rcases walk_of_columned columned inside true with ⟨down, foundDown, sizeDown, marksDown⟩
      have size : (List.zipWith (· || ·) up down).length = graph.nodes.length := by
        rw [List.length_zipWith, sizeUp, sizeDown, Nat.min_self]
      have boxes : ∀ number : Nat, (List.zipWith (· || ·) up down)[number]? = some true ↔
          graph.Leads number start ∨ graph.Leads start number := by
        intro number
        rw [zipWith_or_true (sizeUp.trans sizeDown.symm), marksUp, marksDown]
        exact Iff.rfl
      refine ⟨List.zipWith (· || ·) up down, ?_, size, ?_, ?_⟩
      · simp only [foundUp, foundDown]
        rfl
      · intro other same _
        rw [Option.some_inj.mp (same.symm.trans selected)]
        exact columned.lights size boxes
      · intro outside
        exact absurd (outside start selected) (Nat.not_le.mpr inside)

end Columns

end GraphLayout

/-- In the graph of any result, under any selection, exactly the boxes and the edges on a
route through the selected box stay bright. -/
theorem routeNodes_highlighted {p : ExplainedPermission} {allGroups : Bool} {graph : GraphLayout}
    (drawn : permissionGraphWith p allGroups = some graph) (highlight : Option Nat) :
    ∃ lit, graph.routeNodes highlight = some lit ∧ graph.Highlighted highlight lit := by
  apply GraphLayout.routeNodes_of_columned
  intro edge member
  rw [permissionGraphWith_eq_some drawn] at member ⊢
  exact graphEdges_neighbouring member

/-- One entry that grants the account a right. -/
def grantedReader : ExplainedPermission where
  identity := { sid := ⟨"S-1-5-21-1-2-3-1001"⟩ }
  path := "D:\\Data"
  ntfsMask := 0x1#32
  shareMask := none
  effectiveMask := 0x1#32
  trace :=
    { aces :=
        [{ layer := .ntfs
           kind := .allow
           sid := ⟨"S-1-5-21-1-2-3-1001"⟩
           trustee := "S-1-5-21-1-2-3-1001"
           mask := 0x1#32
           inherited := false
           effect := .decided 0x1#32 }] }

theorem routeNodes_highlighted_grantedReader :
    ∃ lit, (layout grantedReader false).routeNodes (some 2) = some lit ∧
      (layout grantedReader false).Highlighted (some 2) lit :=
  routeNodes_highlighted (p := grantedReader) (if_neg Bool.false_ne_true) (some 2)

end Viz
end Stars
