import Mathlib.Data.List.Chain

namespace Stars
namespace Collections

/-!
# Maximal runs

A list in blocks: an item that is shown stands alone, and items that are hidden stand
together for as long as they follow each other.
-/

universe u

variable {Item : Type u}

inductive Block (Item : Type u) where
  | single (item : Item)
  | run (items : List Item)

namespace Block

def items : Block Item → List Item
  | single item => [item]
  | run items => items

def isRun : Block Item → Bool
  | single _ => false
  | run _ => true

end Block

/-- Put a hidden item in front of the run that follows, or begin a run with it. -/
def hideFirst (item : Item) : List (Block Item) → List (Block Item)
  | .run items :: blocks => .run (item :: items) :: blocks
  | blocks => .run [item] :: blocks

def blocksOf (hides : Item → Bool) : List Item → List (Block Item)
  | [] => []
  | item :: rest =>
      if hides item then hideFirst item (blocksOf hides rest)
      else .single item :: blocksOf hides rest

/-- The blocks hold the items in their order; a run holds hidden items only, and no
run follows a run. -/
structure MaximalRuns (hides : Item → Bool) (items : List Item) (blocks : List (Block Item)) :
    Prop where
  whole : blocks.flatMap Block.items = items
  single : ∀ item, Block.single item ∈ blocks → hides item = false
  run : ∀ run, Block.run run ∈ blocks → run ≠ [] ∧ ∀ item ∈ run, hides item = true
  maximal : blocks.IsChain (fun first second => first.isRun = true → second.isRun = false)

/-- A run is as long as the hidden items that follow its first one. -/
theorem blocksOf_hidden {hides : Item → Bool} {item : Item} (hidden : hides item = true)
    (rest : List Item) :
    blocksOf hides (item :: rest) =
      .run (item :: rest.takeWhile hides) :: blocksOf hides (rest.dropWhile hides) := by
  induction rest generalizing item with
  | nil =>
      rw [blocksOf, if_pos hidden]
      rfl
  | cons next rest ih =>
      rw [blocksOf, if_pos hidden]
      cases follows : hides next with
      | true =>
          rw [ih follows, List.takeWhile_cons_of_pos follows, List.dropWhile_cons_of_pos follows]
          rfl
      | false =>
          have shown : ¬hides next = true := Bool.eq_false_iff.mp follows
          rw [List.takeWhile_cons_of_neg shown, List.dropWhile_cons_of_neg shown, blocksOf,
            if_neg shown]
          rfl

theorem maximalRuns_hideFirst {hides : Item → Bool} {item : Item} {items : List Item}
    {blocks : List (Block Item)} (hidden : hides item = true)
    (maximal : MaximalRuns hides items blocks) :
    MaximalRuns hides (item :: items) (hideFirst item blocks) := by
  cases blocks with
  | nil =>
      refine ⟨?_, ?_, ?_, List.isChain_singleton _⟩
      · rw [← maximal.whole]
        rfl
      · intro other listed
        cases List.mem_singleton.mp listed
      · intro run listed
        cases List.mem_singleton.mp listed
        exact ⟨List.cons_ne_nil _ _, List.forall_mem_cons.mpr ⟨hidden, List.forall_mem_nil _⟩⟩
  | cons block rest =>
      cases block with
      | single other =>
          refine ⟨?_, ?_, ?_, ?_⟩
          · rw [← maximal.whole]
            rfl
          · intro shown listed
            rcases List.mem_cons.mp listed with same | later
            · cases same
            · exact maximal.single shown later
          · intro run listed
            rcases List.mem_cons.mp listed with same | later
            · cases same
              exact ⟨List.cons_ne_nil _ _, List.forall_mem_cons.mpr ⟨hidden, List.forall_mem_nil _⟩⟩
            · exact maximal.run run later
          · exact List.isChain_cons_cons.mpr ⟨fun _ => rfl, maximal.maximal⟩
      | run others =>
          refine ⟨?_, ?_, ?_, ?_⟩
          · rw [← maximal.whole]
            rfl
          · intro shown listed
            rcases List.mem_cons.mp listed with same | later
            · cases same
            · exact maximal.single shown (.tail _ later)
          · intro run listed
            rcases List.mem_cons.mp listed with same | later
            · cases same
              exact ⟨List.cons_ne_nil _ _,
                List.forall_mem_cons.mpr ⟨hidden, (maximal.run others (.head _)).2⟩⟩
            · exact maximal.run run (.tail _ later)
          · exact List.isChain_cons.mpr (List.isChain_cons.mp maximal.maximal)

theorem maximalRuns_blocksOf (hides : Item → Bool) (items : List Item) :
    MaximalRuns hides items (blocksOf hides items) := by
  induction items with
  | nil =>
      refine ⟨rfl, ?_, ?_, List.isChain_nil⟩
      · intro item listed
        cases listed
      · intro run listed
        cases listed
  | cons item rest ih =>
      rw [blocksOf]
      cases hidden : hides item with
      | true => exact maximalRuns_hideFirst hidden ih
      | false =>
          refine ⟨?_, ?_, ?_, ?_⟩
          · change item :: (blocksOf hides rest).flatMap Block.items = _
            rw [ih.whole]
          · intro shown listed
            rcases List.mem_cons.mp listed with same | later
            · cases same
              exact hidden
            · exact ih.single shown later
          · intro run listed
            rcases List.mem_cons.mp listed with same | later
            · cases same
            · exact ih.run run later
          · refine List.isChain_cons.mpr ⟨?_, ih.maximal⟩
            intro second _ run
            cases run

end Collections
end Stars
