import Mathlib.Data.List.Basic
import Mathlib.Data.List.Infix

namespace Stars
namespace Graph

/-!
# Placed nodes

A drawing numbers its nodes in the order in which they are added, and its edges
refer to the numbers.  Nodes are added in stages, and a stage keeps the numbers of
the stages before it.  So a node is found under its number in the finished table
once it is found in the stage that added it.
-/

variable {Node Item : Type}

/-- The number stands for the node. -/
def Placed (nodes : List Node) (index : Nat) (node : Node) : Prop := nodes[index]? = some node

/-- Two numbers stand for nodes of neighbouring columns. -/
def Neighbouring (column : Node → Nat) (nodes : List Node) (left right : Nat) : Prop :=
  ∃ first second, Placed nodes left first ∧ Placed nodes right second ∧
    column second = column first + 1

/-- Add one node under a condition. -/
def addIf (shown : Bool) (node : Node) (nodes : List Node) : List Node :=
  if shown then nodes ++ [node] else nodes

/-- The number such a node gets. -/
def numberIf (shown : Bool) (nodes : List Node) : Option Nat :=
  if shown then some nodes.length else none

section Stages

variable {nodes later : List Node} {index : Nat} {node other : Node}

theorem Placed.mem (placed : Placed nodes index node) : node ∈ nodes :=
  List.mem_of_getElem? placed

/-- A later stage keeps the numbers. -/
theorem Placed.mono (placed : Placed nodes index node) (stage : nodes <+: later) :
    Placed later index node := by
  rcases stage with ⟨more, rfl⟩
  have bounded : index < nodes.length := (List.getElem?_eq_some_iff.mp placed).1
  rw [Placed, List.getElem?_append_left bounded]
  exact placed

theorem placed_last : Placed (nodes ++ [node]) nodes.length node := by
  rw [Placed, List.getElem?_append_right (Nat.le_refl _), Nat.sub_self]
  rfl

/-- Nodes that are added together are numbered one after the other. -/
theorem placed_each (draw : Item → Node) {items : List Item} {item : Item}
    (numbered : (item, index) ∈ items.zipIdx nodes.length) :
    Placed (nodes ++ items.map draw) index (draw item) := by
  rcases List.mk_mem_zipIdx_iff_le_and_getElem?_sub.mp numbered with ⟨after, found⟩
  rw [Placed, List.getElem?_append_right after, List.getElem?_map, found]
  rfl

/-- A node of a stage was there before, or is one of the added ones. -/
theorem Placed.of_each {draw : Item → Node} {items : List Item}
    (placed : Placed (nodes ++ items.map draw) index node) :
    Placed nodes index node ∨ ∃ item, (item, index) ∈ items.zipIdx nodes.length ∧
      draw item = node := by
  rcases Nat.lt_or_ge index nodes.length with before | after
  · rw [Placed, List.getElem?_append_left before] at placed
    exact Or.inl placed
  · rw [Placed, List.getElem?_append_right after, List.getElem?_map] at placed
    rcases Option.map_eq_some_iff.mp placed with ⟨item, found, drawn⟩
    exact Or.inr ⟨item, List.mk_mem_zipIdx_iff_le_and_getElem?_sub.mpr ⟨after, found⟩, drawn⟩

theorem Placed.of_last (placed : Placed (nodes ++ [other]) index node) :
    Placed nodes index node ∨ node = other := by
  rcases Nat.lt_or_ge index nodes.length with before | after
  · rw [Placed, List.getElem?_append_left before] at placed
    exact Or.inl placed
  · rw [Placed, List.getElem?_append_right after] at placed
    exact Or.inr (List.mem_singleton.mp (List.mem_of_getElem? placed))

theorem Placed.of_addIf {shown : Bool} (placed : Placed (addIf shown other nodes) index node) :
    Placed nodes index node ∨ node = other := by
  cases shown with
  | false => exact Or.inl placed
  | true => exact placed.of_last

theorem placed_addIf {shown : Bool} (numbered : numberIf shown nodes = some index) :
    Placed (addIf shown node nodes) index node := by
  rw [numberIf] at numbered
  cases shown with
  | false => cases numbered
  | true =>
      rw [← Option.some_inj.mp numbered]
      exact placed_last

theorem prefix_addIf (shown : Bool) (node : Node) (nodes : List Node) :
    nodes <+: addIf shown node nodes := by
  cases shown with
  | false => exact List.prefix_rfl
  | true => exact List.prefix_append nodes [node]

end Stages

end Graph
end Stars
