import Stars.Collections.KeyedList

namespace Stars
namespace Collections

/-!
# Fallible steps

Sequences of steps that may fail, and the first item of each key.  A sequence
succeeds exactly when every step does, and its result then holds the result of
each step in order.
-/

section Except

variable {Error First Second : Type}

theorem ok_bind (value : First) (next : First → Except Error Second) :
    (Except.ok value >>= next) = next value := rfl

theorem bind_eq_ok_iff {first : Except Error First} {next : First → Except Error Second}
    {result : Second} :
    first >>= next = .ok result ↔ ∃ value, first = .ok value ∧ next value = .ok result := by
  cases first with
  | error reason =>
      constructor
      · intro impossible
        cases impossible
      · rintro ⟨value, impossible, _⟩
        cases impossible
  | ok value =>
      constructor
      · exact fun finished => ⟨value, rfl, finished⟩
      · rintro ⟨same, known, finished⟩
        cases known
        exact finished

/-- A refused condition does not hold where the result is reached. -/
theorem ite_error_eq_ok_iff {condition : Prop} [Decidable condition] {reason : Error}
    {rest : Except Error First} {result : First} :
    (if condition then .error reason else rest) = .ok result ↔
      ¬ condition ∧ rest = .ok result := by
  by_cases refused : condition
  · rw [if_pos refused]
    constructor
    · intro impossible
      cases impossible
    · exact fun kept => absurd refused kept.1
  · rw [if_neg refused]
    exact (and_iff_right refused).symm

theorem mapM_eq_ok_iff {step : First → Except Error Second} {items : List First}
    {results : List Second} :
    items.mapM step = .ok results ↔
      List.Forall₂ (fun item result => step item = .ok result) items results := by
  induction items generalizing results with
  | nil =>
      rw [List.mapM_nil, List.forall₂_nil_left_iff]
      exact ⟨fun finished => (Except.ok.inj finished).symm, fun empty => by rw [empty]; rfl⟩
  | cons item items known =>
      rw [List.mapM_cons, bind_eq_ok_iff, List.forall₂_cons_left_iff]
      constructor
      · rintro ⟨result, done, remaining⟩
        rcases bind_eq_ok_iff.mp remaining with ⟨rest, finished, same⟩
        exact ⟨result, rest, done, known.mp finished, (Except.ok.inj same).symm⟩
      · rintro ⟨result, rest, done, finished, same⟩
        refine ⟨result, done, bind_eq_ok_iff.mpr ⟨rest, known.mpr finished, ?_⟩⟩
        rw [same]
        rfl

/-- Every result comes from an item. -/
theorem exists_of_mapM_eq_ok {step : First → Except Error Second} {items : List First}
    {results : List Second} (finished : items.mapM step = .ok results) {result : Second}
    (listed : result ∈ results) : ∃ item ∈ items, step item = .ok result := by
  have pairs := mapM_eq_ok_iff.mp finished
  clear finished
  induction pairs with
  | nil => cases listed
  | cons done _ ih =>
      rcases List.mem_cons.mp listed with same | later
      · exact ⟨_, List.mem_cons_self, same ▸ done⟩
      · rcases ih later with ⟨item, inside, found⟩
        exact ⟨item, .tail _ inside, found⟩

/-- Checks in sequence all succeed. -/
theorem forM_eq_ok_iff {check : First → Except Error Unit} {items : List First} :
    items.forM check = .ok () ↔ ∀ item ∈ items, check item = .ok () := by
  induction items with
  | nil => exact iff_of_true rfl (fun _ listed => absurd listed List.not_mem_nil)
  | cons item items ih =>
      rw [List.forall_mem_cons, ← ih]
      constructor
      · intro finished
        rcases bind_eq_ok_iff.mp finished with ⟨_, head, later⟩
        exact ⟨head, later⟩
      · intro ⟨head, later⟩
        exact bind_eq_ok_iff.mpr ⟨(), head, later⟩

/-- A successful sequence has a result for each item. -/
theorem exists_result_of_mem {step : First → Except Error Second} {items : List First}
    {results : List Second} (finished : items.mapM step = .ok results) {item : First}
    (member : item ∈ items) : ∃ result ∈ results, step item = .ok result :=
  exists_partner_of_mem (mapM_eq_ok_iff.mp finished) member

/-- Each result of a sequence belongs to an item. -/
theorem exists_item_of_mem {step : First → Except Error Second} {items : List First}
    {results : List Second} (finished : items.mapM step = .ok results) {result : Second}
    (member : result ∈ results) : ∃ item ∈ items, step item = .ok result :=
  exists_item_of_partner (mapM_eq_ok_iff.mp finished) member

end Except

section Distinct

variable {Item Key : Type} [DecidableEq Key]

/-- The first item of each key that was not seen before. -/
def distinctBy (key : Item → Key) : List Key → List Item → List Item
  | _, [] => []
  | seen, item :: rest =>
      if key item ∈ seen then distinctBy key seen rest
      else item :: distinctBy key (key item :: seen) rest

/-- Each item has the first item of its key, unless the key was seen before. -/
theorem exists_key_of_mem (key : Item → Key) {item : Item} (items : List Item) (seen : List Key)
    (member : item ∈ items) (fresh : key item ∉ seen) :
    ∃ kept ∈ distinctBy key seen items, key kept = key item := by
  induction items generalizing seen with
  | nil => cases member
  | cons first rest known =>
      rw [distinctBy]
      by_cases same : key first = key item
      · rw [same, if_neg fresh]
        exact ⟨first, List.mem_cons_self, same⟩
      · have later : item ∈ rest := by
          rcases List.mem_cons.mp member with here | later
          · exact absurd (congrArg key here).symm same
          · exact later
        split
        · exact known seen later fresh
        · rcases known (key first :: seen) later
            (List.not_mem_cons_of_ne_of_not_mem (Ne.symm same) fresh) with ⟨kept, inside, equal⟩
          exact ⟨kept, List.mem_cons_of_mem first inside, equal⟩

/-- What is kept are the first items of the keys that were not seen before. -/
theorem mem_distinctBy_iff {key : Item → Key} {item : Item} (items : List Item)
    (seen : List Key) :
    item ∈ distinctBy key seen items ↔
      key item ∉ seen ∧ items.find? (fun other => key other = key item) = some item := by
  induction items generalizing seen with
  | nil => simp [distinctBy]
  | cons first rest known =>
      rw [distinctBy, List.find?_cons]
      by_cases same : key first = key item
      · rw [decide_eq_true same]
        dsimp only
        split
        · rename_i repeated
          rw [same] at repeated
          rw [known]
          exact ⟨fun kept => absurd repeated kept.1, fun kept => absurd repeated kept.1⟩
        · rename_i fresh
          rw [same] at fresh
          rw [List.mem_cons, known, Option.some_inj, ← same]
          constructor
          · rintro (here | ⟨unseen, _⟩)
            · exact ⟨same ▸ fresh, here.symm⟩
            · exact absurd List.mem_cons_self unseen
          · rintro ⟨_, here⟩
            exact Or.inl here.symm
      · rw [decide_eq_false same]
        dsimp only
        split
        · exact known seen
        · have other : item ≠ first := fun here => same (congrArg key here).symm
          rw [List.mem_cons, or_iff_right other, known, List.mem_cons,
            or_iff_right (Ne.symm same)]

/-- No key is kept twice. -/
theorem nodup_distinctBy (key : Item → Key) (items : List Item) (seen : List Key) :
    ((distinctBy key seen items).map key).Nodup := by
  induction items generalizing seen with
  | nil => exact List.nodup_nil
  | cons first rest known =>
      rw [distinctBy]
      split
      · exact known seen
      · refine List.nodup_cons.mpr ⟨?_, known _⟩
        rw [List.mem_map]
        rintro ⟨later, kept, same⟩
        exact ((mem_distinctBy_iff rest _).mp kept).1 (same ▸ List.mem_cons_self)

theorem distinctBy_sublist (key : Item → Key) (items : List Item) (seen : List Key) :
    (distinctBy key seen items).Sublist items := by
  induction items generalizing seen with
  | nil => exact List.Sublist.refl []
  | cons first rest known =>
      rw [distinctBy]
      split
      · exact (known seen).cons first
      · exact (known _).cons_cons first

theorem mem_keys_distinctBy (key : Item → Key) (items : List Item) (label : Key) :
    label ∈ (distinctBy key [] items).map key ↔ label ∈ items.map key := by
  rw [List.mem_map, List.mem_map]
  constructor
  · rintro ⟨item, kept, same⟩
    exact ⟨item, (distinctBy_sublist key items []).subset kept, same⟩
  · rintro ⟨item, member, rfl⟩
    exact exists_key_of_mem key items [] member List.not_mem_nil

/-- Items with keys that were seen are passed over. -/
theorem distinctBy_append_of_seen {key : Item → Key} {front rest : List Item} {seen : List Key}
    (met : ∀ item ∈ front, key item ∈ seen) :
    distinctBy key seen (front ++ rest) = distinctBy key seen rest := by
  induction front with
  | nil => rfl
  | cons first others known =>
      rw [List.cons_append, distinctBy, if_pos (met first List.mem_cons_self)]
      exact known (fun item member => met item (List.mem_cons_of_mem first member))

/-- When the items of one key have one value, the values of the first items do not
depend on the order of arrival. -/
theorem map_distinctBy_perm {Value : Type} {key : Item → Key} {value : Item → Value}
    {items arranged : List Item}
    (agree : ∀ left ∈ items, ∀ right ∈ items, key left = key right → value left = value right)
    (perm : items.Perm arranged) :
    ((distinctBy key [] items).map value).Perm ((distinctBy key [] arranged).map value) := by
  -- The value of an item is found from its key.
  have valueOfKey : ∀ item ∈ items,
      (items.find? (fun other => key other = key item)).map value = some (value item) := by
    intro item member
    have found : (items.find? (fun other => key other = key item)).isSome = true := by
      rw [List.find?_isSome]
      exact ⟨item, member, decide_eq_true rfl⟩
    rcases Option.isSome_iff_exists.mp found with ⟨other, hit⟩
    have same : key other = key item := by simpa using List.find?_some hit
    rw [hit, Option.map_some, agree other (List.mem_of_find?_eq_some hit) item member same]
  have keysPerm : ((distinctBy key [] items).map key).Perm
      ((distinctBy key [] arranged).map key) := by
    rw [List.perm_ext_iff_of_nodup (nodup_distinctBy key items [])
      (nodup_distinctBy key arranged [])]
    intro label
    rw [mem_keys_distinctBy, mem_keys_distinctBy, (perm.map key).mem_iff]
  have byKey : ∀ kept : List Item, kept ⊆ items → kept.map value = (kept.map key).filterMap
      (fun label => (items.find? (fun other => key other = label)).map value) := by
    intro kept inside
    induction kept with
    | nil => rfl
    | cons first rest ih =>
        rw [List.map_cons, List.map_cons, List.filterMap_cons,
          valueOfKey first (inside List.mem_cons_self),
          ih (fun item member => inside (List.mem_cons_of_mem first member))]
  rw [byKey _ (distinctBy_sublist key items []).subset,
    byKey _ (fun item kept => perm.mem_iff.mpr ((distinctBy_sublist key arranged []).subset kept))]
  exact keysPerm.filterMap _

end Distinct

end Collections
end Stars
