import Stars.Collections.FirstAppearance
import Mathlib.Order.Defs.LinearOrder

namespace Stars
namespace Collections

/-!
# The best item for each key

Items arrive one by one.  The first item of a key takes a place at the end, and a
later item of the same key takes that place over when its rank is higher.  So the
keys stay distinct, in the order of their first items, and every key that arrives
is represented.
-/

section BestPerKey

variable {Item Key Rank : Type} [DecidableEq Key] [LT Rank] [DecidableLT Rank]
  (key : Item → Key) (rank : Item → Rank)

/-- Put an item into its place. -/
def insertBest (item : Item) : List Item → List Item
  | [] => [item]
  | kept :: rest =>
      if key kept = key item then (if rank kept < rank item then item else kept) :: rest
      else kept :: insertBest item rest

/-- One item for each key, in the order of the first items. -/
def bestPerKey (items : List Item) : List Item :=
  items.foldl (fun kept item => insertBest key rank item kept) []

/-- Inserting an item adds its key at the end, when the key is new. -/
theorem map_key_insertBest (item : Item) (kept : List Item) :
    (insertBest key rank item kept).map key =
      if key item ∈ kept.map key then kept.map key else kept.map key ++ [key item] := by
  induction kept with
  | nil => rfl
  | cons first rest known =>
      rw [insertBest]
      by_cases same : key first = key item
      · have here : key item ∈ (first :: rest).map key := by
          rw [List.map_cons, ← same]
          exact List.mem_cons_self
        rw [if_pos same, if_pos here, List.map_cons, List.map_cons]
        split
        · rw [same]
        · rfl
      · rw [if_neg same, List.map_cons, known, List.map_cons]
        have elsewhere : key item ∈ key first :: rest.map key ↔ key item ∈ rest.map key := by
          rw [List.mem_cons, or_iff_right (Ne.symm same)]
        by_cases later : key item ∈ rest.map key
        · rw [if_pos later, if_pos (elsewhere.mpr later)]
        · rw [if_neg later, if_neg (fun found => later (elsewhere.mp found)), List.cons_append]

theorem mem_insertBest {item other : Item} {kept : List Item}
    (member : other ∈ insertBest key rank item kept) : other = item ∨ other ∈ kept := by
  induction kept with
  | nil => exact Or.inl (List.mem_singleton.mp member)
  | cons first rest known =>
      rw [insertBest] at member
      split at member
      · rcases List.mem_cons.mp member with head | tail
        · split at head
          · exact Or.inl head
          · exact Or.inr (head ▸ List.mem_cons_self)
        · exact Or.inr (List.mem_cons_of_mem first tail)
      · rcases List.mem_cons.mp member with head | tail
        · exact Or.inr (head ▸ List.mem_cons_self)
        · exact (known tail).imp_right (List.mem_cons_of_mem first)

theorem mem_keys_insertBest {item : Item} {kept : List Item} {label : Key} :
    label ∈ (insertBest key rank item kept).map key ↔
      label ∈ kept.map key ∨ label = key item := by
  rw [map_key_insertBest]
  by_cases known : key item ∈ kept.map key
  · rw [if_pos known]
    refine ⟨Or.inl, ?_⟩
    rintro (inside | same)
    · exact inside
    · rw [same]
      exact known
  · rw [if_neg known, List.mem_append, List.mem_singleton]

/-- The keys stay distinct. -/
theorem nodup_insertBest {item : Item} {kept : List Item} (distinct : (kept.map key).Nodup) :
    ((insertBest key rank item kept).map key).Nodup := by
  rw [map_key_insertBest]
  split
  · exact distinct
  · rename_i fresh
    refine distinct.append (List.nodup_singleton _) ?_
    intro label inside single
    rw [List.mem_singleton.mp single] at inside
    exact fresh inside

/-- What an arriving sequence keeps of the places, the items and the keys. -/
theorem foldl_insertBest_spec (items : List Item) :
    ∀ kept : List Item, (kept.map key).Nodup →
      ((items.foldl (fun kept item => insertBest key rank item kept) kept).map key).Nodup ∧
        (∀ item ∈ items.foldl (fun kept item => insertBest key rank item kept) kept,
          item ∈ kept ∨ item ∈ items) ∧
        ∀ label, label ∈ (items.foldl (fun kept item => insertBest key rank item kept)
            kept).map key ↔ label ∈ kept.map key ∨ label ∈ items.map key := by
  induction items with
  | nil =>
      intro kept distinct
      refine ⟨distinct, fun item inside => Or.inl inside, fun label => ?_⟩
      rw [List.foldl_nil, List.map_nil, or_iff_left List.not_mem_nil]
  | cons first rest known =>
      intro kept distinct
      have next := known (insertBest key rank first kept) (nodup_insertBest key rank distinct)
      refine ⟨next.1, fun item inside => ?_, fun label => ?_⟩
      · rcases next.2.1 item inside with earlier | later
        · rcases mem_insertBest key rank earlier with same | before
          · exact Or.inr (same ▸ List.mem_cons_self)
          · exact Or.inl before
        · exact Or.inr (List.mem_cons_of_mem first later)
      · rw [List.foldl_cons, next.2.2 label, mem_keys_insertBest, List.map_cons, List.mem_cons,
          or_assoc]

theorem nodup_bestPerKey (items : List Item) : ((bestPerKey key rank items).map key).Nodup :=
  (foldl_insertBest_spec key rank items [] List.nodup_nil).1

theorem mem_of_mem_bestPerKey {item : Item} {items : List Item}
    (member : item ∈ bestPerKey key rank items) : item ∈ items :=
  ((foldl_insertBest_spec key rank items [] List.nodup_nil).2.1 item member).resolve_left
    List.not_mem_nil

/-- Every key is represented. -/
theorem exists_best_of_mem {item : Item} {items : List Item} (member : item ∈ items) :
    ∃ kept ∈ bestPerKey key rank items, key kept = key item := by
  have arrived := ((foldl_insertBest_spec key rank items [] List.nodup_nil).2.2 (key item)).mpr
    (Or.inr (List.mem_map_of_mem member))
  exact List.mem_map.mp arrived

/-- The keys in the order of their first items. -/
theorem map_key_bestPerKey (items : List Item) :
    (bestPerKey key rank items).map key = (items.map key).eraseDups := by
  induction items using List.reverseRecOn with
  | nil => rfl
  | append_singleton items item ih =>
      have before : bestPerKey key rank (items ++ [item]) =
          insertBest key rank item (bestPerKey key rank items) := by
        rw [bestPerKey, bestPerKey, List.foldl_append]
        rfl
      rw [before, map_key_insertBest, ih, List.map_append, List.map_singleton, eraseDups_snoc]
      by_cases member : key item ∈ items.map key
      · rw [if_pos (List.mem_eraseDups.mpr member), if_pos member, List.append_nil]
      · rw [if_neg (mt List.mem_eraseDups.mp member), if_neg member]

/-! ## Items that are the best already -/

theorem insertBest_of_fresh {item : Item} {kept : List Item} (fresh : key item ∉ kept.map key) :
    insertBest key rank item kept = kept ++ [item] := by
  induction kept with
  | nil => rfl
  | cons first rest ih =>
      rw [List.map_cons, List.mem_cons, not_or] at fresh
      rw [insertBest, if_neg (Ne.symm fresh.1), ih fresh.2, List.cons_append]

theorem insertBest_of_mem {item : Item} {kept : List Item} (distinct : (kept.map key).Nodup)
    (irrefl : ¬rank item < rank item) (member : item ∈ kept) :
    insertBest key rank item kept = kept := by
  induction kept with
  | nil => cases member
  | cons first rest ih =>
      rw [List.map_cons, List.nodup_cons] at distinct
      rw [insertBest]
      rcases List.mem_cons.mp member with rfl | later
      · rw [if_pos rfl, if_neg irrefl]
      · have apart : key first ≠ key item := by
          intro same
          exact distinct.1 (same ▸ List.mem_map_of_mem later)
        rw [if_neg apart, ih distinct.2 later]

/-- Items with distinct keys all stay. -/
theorem bestPerKey_of_nodup {items : List Item} (distinct : (items.map key).Nodup) :
    bestPerKey key rank items = items := by
  induction items using List.reverseRecOn with
  | nil => rfl
  | append_singleton items item ih =>
      rw [List.map_append, List.nodup_append] at distinct
      have fresh : key item ∉ items.map key := by
        intro inside
        exact distinct.2.2 (key item) inside (key item) (List.mem_singleton_self _) rfl
      have known := ih distinct.1
      rw [bestPerKey] at known
      rw [bestPerKey, List.foldl_append, known]
      exact insertBest_of_fresh key rank fresh

/-- Items that arrive once more change nothing. -/
theorem bestPerKey_append_of_subset {items again : List Item} (distinct : (items.map key).Nodup)
    (irrefl : ∀ item ∈ again, ¬rank item < rank item) (subset : again ⊆ items) :
    bestPerKey key rank (items ++ again) = items := by
  have known := bestPerKey_of_nodup key rank distinct
  rw [bestPerKey] at known
  rw [bestPerKey, List.foldl_append, known]
  induction again with
  | nil => rfl
  | cons first rest ih =>
      rw [List.foldl_cons, insertBest_of_mem key rank distinct (irrefl first List.mem_cons_self)
        (subset List.mem_cons_self)]
      exact ih (fun item member => irrefl item (List.mem_cons_of_mem first member))
        (fun item member => subset (List.mem_cons_of_mem first member))

end BestPerKey

end Collections
end Stars
