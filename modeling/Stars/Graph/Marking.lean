import Mathlib.Data.List.Count
import Mathlib.Logic.Relation

namespace Stars
namespace Graph

/-!
# Marks along edges

A table holds one mark for each number, and a stack the numbers whose edges are still
to be followed.  A read outside of the table has no result.  The second part is about
graphs in layers, where each edge leads into the next layer.
-/

/-- One number leads to another along the edges. -/
abbrev Leads (edges : List (Nat × Nat)) : Nat → Nat → Prop :=
  Relation.ReflTransGen (fun here there => (here, there) ∈ edges)

structure Marking where
  seen : List Bool
  stack : List Nat
deriving DecidableEq

namespace Marking

def Marked (marking : Marking) (number : Nat) : Prop := marking.seen[number]? = some true

/-- The numbers without a mark and those on the stack: the steps that may be left. -/
def left (marking : Marking) : Nat := marking.seen.count false + marking.stack.length

/-- Only the first number is marked. -/
def start (size first : Nat) : Marking where
  seen := (List.replicate size false).set first true
  stack := [first]

/-- An edge from here marks its end, which goes onto the stack unless it is known. -/
def follow (here : Nat) (marking : Marking) (edge : Nat × Nat) : Option Marking :=
  if edge.1 = here then
    marking.seen[edge.2]?.map (fun known =>
      if known then marking
      else { seen := marking.seen.set edge.2 true, stack := edge.2 :: marking.stack })
  else some marking

/-- Take numbers off the stack and follow their edges until it is empty. -/
def search (edges : List (Nat × Nat)) : Nat → Marking → Option (List Bool)
  | 0, marking => if marking.stack = [] then some marking.seen else none
  | fuel + 1, marking =>
      match marking.stack with
      | [] => some marking.seen
      | here :: stack =>
          (edges.foldlM (follow here) { marking with stack := stack }).bind (search edges fuel)

/-- What the edges of one number make of a marking. -/
structure Followed (edges : List (Nat × Nat)) (here : Nat) (before after : Marking) : Prop where
  size : after.seen.length = before.seen.length
  kept : ∀ number, before.Marked number → after.Marked number
  waiting : ∀ number ∈ before.stack, number ∈ after.stack
  stacked : ∀ number ∈ after.stack, number ∈ before.stack ∨ after.Marked number
  fresh : ∀ number, after.Marked number →
    before.Marked number ∨ (here, number) ∈ edges ∧ number ∈ after.stack
  ends : ∀ number, (here, number) ∈ edges → after.Marked number
  left : after.left = before.left

theorem Followed.refl (here : Nat) (marking : Marking) : Followed [] here marking marking where
  size := rfl
  kept _ marked := marked
  waiting _ listed := listed
  stacked _ listed := .inl listed
  fresh _ marked := .inl marked
  ends _ listed := absurd listed List.not_mem_nil
  left := rfl

theorem Followed.trans {first second : List (Nat × Nat)} {here : Nat}
    {before between after : Marking} (one : Followed first here before between)
    (two : Followed second here between after) : Followed (first ++ second) here before after where
  size := two.size.trans one.size
  kept number marked := two.kept number (one.kept number marked)
  waiting number listed := two.waiting number (one.waiting number listed)
  stacked number listed := by
    rcases two.stacked number listed with waiting | marked
    · exact (one.stacked number waiting).imp id (two.kept number)
    · exact .inr marked
  fresh number marked := by
    rcases two.fresh number marked with known | ⟨listed, stacked⟩
    · refine (one.fresh number known).imp id ?_
      intro earlier
      exact ⟨List.mem_append_left _ earlier.1, two.waiting number earlier.2⟩
    · exact .inr ⟨List.mem_append_right _ listed, stacked⟩
  ends number listed := by
    rcases List.mem_append.mp listed with earlier | later
    · exact two.kept number (one.ends number earlier)
    · exact two.ends number later
  left := two.left.trans one.left

theorem marked_set {seen : List Bool} {stack : List Nat} {number other : Nat}
    (inside : number < seen.length) :
    Marked ⟨seen.set number true, stack⟩ other ↔
      other = number ∨ Marked ⟨seen, stack⟩ other := by
  unfold Marked
  by_cases same : number = other
  · subst same
    simp [inside]
  · simp [same, Ne.symm same]

theorem left_push {seen : List Bool} {stack : List Nat} {number : Nat}
    (unmarked : seen[number]? = some false) :
    left ⟨seen.set number true, number :: stack⟩ = left ⟨seen, stack⟩ := by
  rcases List.getElem?_eq_some_iff.mp unmarked with ⟨inside, value⟩
  have present : 0 < seen.count false := List.count_pos_iff.mpr (value ▸ List.getElem_mem inside)
  unfold left
  rw [List.count_set inside, value]
  simp only [beq_self_eq_true, if_true, List.length_cons]
  rw [if_neg (by decide)]
  omega

theorem followed_edge {marking : Marking} {edge : Nat × Nat} (here : Nat)
    (inside : edge.2 < marking.seen.length) :
    ∃ after, follow here marking edge = some after ∧ Followed [edge] here marking after := by
  rcases edge with ⟨origin, target⟩
  unfold follow
  by_cases own : origin = here
  · subst own
    rw [if_pos rfl, List.getElem?_eq_getElem inside, Option.map_some]
    cases known : marking.seen[target] with
    | true =>
        have marked : marking.Marked target := List.getElem?_eq_some_iff.mpr ⟨inside, known⟩
        refine ⟨marking, rfl, rfl, fun _ => id, fun _ => id, fun _ => .inl, fun _ => .inl, ?_, rfl⟩
        intro number listed
        rw [(Prod.mk.inj (List.mem_singleton.mp listed)).2]
        exact marked
    | false =>
        have unmarked : marking.seen[target]? = some false :=
          List.getElem?_eq_some_iff.mpr ⟨inside, known⟩
        have marks : ∀ number,
            Marked ⟨marking.seen.set target true, target :: marking.stack⟩ number ↔
              number = target ∨ Marked ⟨marking.seen, target :: marking.stack⟩ number :=
          fun number => marked_set inside
        refine ⟨_, rfl, List.length_set, ?_, ?_, ?_, ?_, ?_, left_push unmarked⟩
        · intro number marked
          exact (marks number).mpr (.inr marked)
        · intro number listed
          exact List.mem_cons_of_mem _ listed
        · intro number listed
          exact (List.mem_cons.mp listed).symm.imp id (fun same => (marks number).mpr (.inl same))
        · intro number marked
          rcases (marks number).mp marked with rfl | earlier
          · exact .inr ⟨List.mem_singleton.mpr rfl, List.mem_cons_self⟩
          · exact .inl earlier
        · intro number listed
          exact (marks number).mpr (.inl (Prod.mk.inj (List.mem_singleton.mp listed)).2)
  · rw [if_neg own]
    refine ⟨marking, rfl, rfl, fun _ => id, fun _ => id, fun _ => .inl, fun _ => .inl, ?_, rfl⟩
    intro number listed
    exact absurd (Prod.mk.inj (List.mem_singleton.mp listed)).1.symm own

theorem followed_edges (here : Nat) (edges : List (Nat × Nat)) :
    ∀ marking : Marking, (∀ edge ∈ edges, edge.2 < marking.seen.length) →
      ∃ after, edges.foldlM (follow here) marking = some after ∧
        Followed edges here marking after := by
  induction edges with
  | nil => exact fun marking _ => ⟨marking, rfl, .refl here marking⟩
  | cons edge edges ih =>
      intro marking inside
      rcases followed_edge here (inside edge List.mem_cons_self) with ⟨between, step, one⟩
      rcases ih between (fun other listed => one.size ▸ inside other (.tail _ listed)) with
        ⟨after, steps, two⟩
      refine ⟨after, ?_, one.trans two⟩
      rw [List.foldlM_cons, step]
      exact steps

/-- What holds whenever a number is taken off the stack. -/
structure Invariant (edges : List (Nat × Nat)) (first size : Nat) (marking : Marking) : Prop where
  size : marking.seen.length = size
  begins : marking.Marked first
  reached : ∀ number, marking.Marked number → Leads edges first number
  stacked : ∀ number ∈ marking.stack, marking.Marked number
  closed : ∀ number, marking.Marked number → number ∉ marking.stack →
    ∀ other, (number, other) ∈ edges → marking.Marked other

variable {edges : List (Nat × Nat)} {first size : Nat}

theorem invariant_start (inside : first < size) : Invariant edges first size (start size first) := by
  have long : first < (List.replicate size false).length := by
    rw [List.length_replicate]
    exact inside
  have only : ∀ number, (start size first).Marked number → number = first := by
    intro number marked
    rcases (marked_set long).mp marked with same | known
    · exact same
    · have value := List.mem_of_getElem? known
      exact absurd (List.eq_of_mem_replicate value) Bool.noConfusion
  refine ⟨?_, (marked_set long).mpr (.inl rfl), ?_, ?_, ?_⟩
  · rw [start, List.length_set, List.length_replicate]
  · intro number marked
    exact only number marked ▸ .refl
  · intro number listed
    rw [List.mem_singleton.mp listed]
    exact (marked_set long).mpr (.inl rfl)
  · intro number marked unlisted
    rw [only number marked] at unlisted
    exact absurd (List.mem_singleton.mpr rfl) unlisted

/-- Following the edges of the number that was taken off keeps the invariant. -/
theorem Invariant.step {marking after : Marking} {here : Nat} {stack : List Nat}
    (holds : Invariant edges first size marking) (popped : marking.stack = here :: stack)
    (followed : Followed edges here { marking with stack := stack } after) :
    Invariant edges first size after where
  size := followed.size.trans holds.size
  begins := followed.kept first holds.begins
  reached number marked := by
    rcases followed.fresh number marked with known | ⟨edge, _⟩
    · exact holds.reached number known
    · have marked : marking.Marked here := holds.stacked here (popped ▸ List.mem_cons_self)
      exact (holds.reached here marked).tail edge
  stacked number listed := by
    rcases followed.stacked number listed with waiting | marked
    · exact followed.kept number (holds.stacked number (popped ▸ List.mem_cons_of_mem _ waiting))
    · exact marked
  closed number marked unlisted other edge := by
    rcases followed.fresh number marked with known | ⟨_, stacked⟩
    · by_cases same : number = here
      · subst same
        exact followed.ends other edge
      · refine followed.kept other (holds.closed number known ?_ other edge)
        intro listed
        rw [popped] at listed
        rcases List.mem_cons.mp listed with taken | waiting
        · exact same taken
        · exact unlisted (followed.waiting number waiting)
    · exact absurd stacked unlisted

/-- With an empty stack the marks are closed under the edges. -/
theorem Invariant.exact_of_empty {marking : Marking} (holds : Invariant edges first size marking)
    (empty : marking.stack = []) (number : Nat) :
    marking.Marked number ↔ Leads edges first number := by
  refine ⟨holds.reached number, fun leads => ?_⟩
  induction leads with
  | refl => exact holds.begins
  | tail _ edge ih => exact holds.closed _ ih (empty ▸ List.not_mem_nil) _ edge

theorem search_of_invariant (bounded : ∀ edge ∈ edges, edge.2 < size) (fuel : Nat) :
    ∀ marking : Marking, Invariant edges first size marking → marking.left ≤ fuel →
      ∃ seen, search edges fuel marking = some seen ∧ seen.length = size ∧
        ∀ number, seen[number]? = some true ↔ Leads edges first number := by
  induction fuel with
  | zero =>
      intro marking holds enough
      have empty : marking.stack = [] := by
        apply List.eq_nil_of_length_eq_zero
        unfold left at enough
        omega
      exact ⟨marking.seen, if_pos empty, holds.size, holds.exact_of_empty empty⟩
  | succ fuel ih =>
      intro marking holds enough
      cases popped : marking.stack with
      | nil =>
          refine ⟨marking.seen, ?_, holds.size, holds.exact_of_empty popped⟩
          rw [search, popped]
      | cons here stack =>
          rcases followed_edges here edges { marking with stack := stack }
            (fun edge listed => holds.size.symm ▸ bounded edge listed) with ⟨after, run, followed⟩
          have less : after.left ≤ fuel := by
            have kept := followed.left
            unfold left at kept enough ⊢
            rw [popped, List.length_cons] at enough
            simp only at kept
            omega
          rcases ih after (holds.step popped followed) less with ⟨seen, found, facts⟩
          refine ⟨seen, ?_, facts⟩
          rw [search, popped]
          simp only [run]
          exact found

/-- As many steps as there are numbers find exactly what the first one leads to. -/
theorem search_start (bounded : ∀ edge ∈ edges, edge.2 < size) (inside : first < size) :
    ∃ seen, search edges size (start size first) = some seen ∧ seen.length = size ∧
      ∀ number, seen[number]? = some true ↔ Leads edges first number := by
  refine search_of_invariant bounded size _ (invariant_start inside) ?_
  have value : (List.replicate size false)[first]? = some false := by
    rw [List.getElem?_replicate, if_pos inside]
  rw [start, left_push value, left, List.count_replicate_self]
  exact Nat.le_refl _

end Marking

/-! ## Layers -/

section Layers

variable {Node : Type} {edge : Node → Node → Prop} {layer : Node → Nat}

/-- A way leads into later layers, and one within a layer goes nowhere. -/
theorem layer_of_way (layered : ∀ here there, edge here there → layer there = layer here + 1)
    {here there : Node} (way : Relation.ReflTransGen edge here there) :
    here = there ∨ layer here < layer there := by
  induction way with
  | refl => exact .inl rfl
  | tail _ last ih =>
      have next := layered _ _ last
      rcases ih with rfl | less
      · exact .inr (by omega)
      · exact .inr (by omega)

/-- In layers an edge lies on a way through a node when each of its ends has a way to
the node or from it. -/
theorem edge_on_way (layered : ∀ here there, edge here there → layer there = layer here + 1)
    {here there through : Node} (joined : edge here there)
    (one : Relation.ReflTransGen edge here through ∨ Relation.ReflTransGen edge through here)
    (other : Relation.ReflTransGen edge there through ∨
      Relation.ReflTransGen edge through there) :
    Relation.ReflTransGen edge there through ∨ Relation.ReflTransGen edge through here := by
  have next := layered here there joined
  rcases one with into | out
  · rcases other with onward | back
    · exact .inl onward
    · -- The node lies in the layer of one of the ends, so it is that end.
      rcases layer_of_way layered into with rfl | before
      · exact .inr .refl
      · rcases layer_of_way layered back with rfl | behind
        · exact .inl .refl
        · omega
  · exact .inr out

end Layers

end Graph
end Stars
