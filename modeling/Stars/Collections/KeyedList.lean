import Mathlib.Data.List.Forall2
import Mathlib.Data.List.Nodup

namespace Stars
namespace Collections

/-!
# Keyed lists

A finite map as a list of keys with their values.  The first entry for a key is
the one that counts, so that with distinct keys a value is looked up exactly
when its entry is in the list.
-/

variable {Key Value : Type}

section Lookup

variable [BEq Key] [LawfulBEq Key]

theorem lookup_isSome_iff_mem {key : Key} (entries : List (Key × Value)) :
    (entries.lookup key).isSome ↔ key ∈ entries.map Prod.fst := by
  rw [List.lookup_isSome_iff, List.mem_map]
  constructor
  · rintro ⟨entry, member, same⟩
    exact ⟨entry, member, (beq_iff_eq.mp same).symm⟩
  · rintro ⟨entry, member, same⟩
    exact ⟨entry, member, beq_iff_eq.mpr same.symm⟩

theorem mem_of_lookup {key : Key} {value : Value} {entries : List (Key × Value)}
    (found : entries.lookup key = some value) : (key, value) ∈ entries := by
  rcases List.lookup_eq_some_iff.mp found with ⟨before, after, split, _⟩
  rw [split]
  exact List.mem_append_right _ List.mem_cons_self

theorem lookup_eq_some_iff_mem {key : Key} {value : Value} {entries : List (Key × Value)}
    (distinct : (entries.map Prod.fst).Nodup) :
    entries.lookup key = some value ↔ (key, value) ∈ entries := by
  constructor
  · exact mem_of_lookup
  · intro member
    have known : (entries.lookup key).isSome :=
      (lookup_isSome_iff_mem entries).mpr (List.mem_map_of_mem member)
    rcases Option.isSome_iff_exists.mp known with ⟨stored, found⟩
    have same : ((key, stored) : Key × Value) = (key, value) :=
      List.inj_on_of_nodup_map distinct (mem_of_lookup found) member rfl
    rw [found, (Prod.mk.inj same).2]

end Lookup

variable [DecidableEq Key]

/-- A change of the values is a change of the value looked up. -/
theorem lookup_mapValue {Other : Type} (change : Key → Value → Other)
    (entries : List (Key × Value)) (key : Key) :
    (entries.map (fun entry => (entry.1, change entry.1 entry.2))).lookup key =
      (entries.lookup key).map (change key) := by
  induction entries with
  | nil => rfl
  | cons entry rest known =>
      rw [List.map_cons, List.lookup_cons, List.lookup_cons]
      by_cases here : key = entry.1
      · cases here
        rw [beq_self_eq_true]
        rfl
      · rw [beq_false_of_ne here]
        exact known

/-- Leaving out the entries of a key leaves the other keys as they are. -/
theorem lookup_filter_ne (entries : List (Key × Value)) (left key : Key) :
    (entries.filter (fun entry => entry.1 ≠ left)).lookup key =
      if key = left then none else entries.lookup key := by
  induction entries with
  | nil =>
      rw [List.filter_nil, List.lookup_nil, ite_self]
  | cons entry rest known =>
      by_cases gone : entry.1 = left
      · rw [List.filter_cons_of_neg (by simp [gone]), known, List.lookup_cons]
        by_cases asked : key = left
        · rw [if_pos asked, if_pos asked]
        · rw [if_neg asked, if_neg asked, gone, beq_false_of_ne asked]
      · rw [List.filter_cons_of_pos (by simp [gone]), List.lookup_cons, List.lookup_cons, known]
        by_cases here : key = entry.1
        · rw [here, if_neg gone, if_neg gone]
        · rw [beq_false_of_ne here]

/-- A map built from the keys of another one, some of them left out. -/
theorem lookup_filterMap_keys {Other : Type} (build : Key → Option Other)
    (entries : List (Key × Value)) {key : Key} (member : key ∈ entries.map Prod.fst) :
    (entries.filterMap (fun entry => (build entry.1).map (Prod.mk entry.1))).lookup key =
      build key := by
  have absent : ∀ others : List (Key × Value), build key = none →
      (others.filterMap (fun entry => (build entry.1).map (Prod.mk entry.1))).lookup key =
        none := by
    intro others missing
    rw [← Option.not_isSome_iff_eq_none, lookup_isSome_iff_mem, List.mem_map]
    rintro ⟨⟨name, value⟩, stored, rfl⟩
    rcases List.mem_filterMap.mp stored with ⟨entry, _, built⟩
    rcases Option.map_eq_some_iff.mp built with ⟨result, found, same⟩
    cases same
    rw [missing] at found
    cases found
  induction entries with
  | nil => cases member
  | cons entry rest known =>
      by_cases here : key = entry.1
      · cases here
        cases built : build entry.1 with
        | none => exact absent _ built
        | some result =>
            rw [List.filterMap_cons_some (by rw [built]; rfl), List.lookup_cons, beq_self_eq_true]
      · have later := known ((List.mem_cons.mp member).resolve_left here)
        cases built : build entry.1 with
        | none =>
            rw [List.filterMap_cons_none (by rw [built]; rfl)]
            exact later
        | some result =>
            rw [List.filterMap_cons_some (by rw [built]; rfl), List.lookup_cons,
              beq_false_of_ne here]
            exact later

theorem mem_iff_of_lookup_keyed {Row : Type} {keyOf : Row → Key} {rows : List Row} {key : Key}
    {row : Row} (distinct : (rows.map keyOf).Nodup) :
    (rows.map (fun item => (keyOf item, item))).lookup key = some row ↔
      row ∈ rows ∧ keyOf row = key := by
  have keys : (rows.map (fun item => (keyOf item, item))).map Prod.fst = rows.map keyOf := by
    rw [List.map_map]
    rfl
  rw [lookup_eq_some_iff_mem (by rw [keys]; exact distinct), List.mem_map]
  constructor
  · intro stored
    rcases stored with ⟨item, member, same⟩
    cases same
    exact ⟨member, rfl⟩
  · intro stored
    rcases stored with ⟨member, same⟩
    exact ⟨row, member, by rw [same]⟩

theorem lookup_keyed_eq_none_iff {Row : Type} {keyOf : Row → Key} {rows : List Row} {key : Key} :
    (rows.map (fun item => (keyOf item, item))).lookup key = none ↔ key ∉ rows.map keyOf := by
  have keys : (rows.map (fun item => (keyOf item, item))).map Prod.fst = rows.map keyOf := by
    rw [List.map_map]
    rfl
  rw [← Option.not_isSome_iff_eq_none, lookup_isSome_iff_mem, keys]

/-- A partial map of the items that keeps their keys lists no further key. -/
theorem map_filterMap_sublist_of_mem {First Second Label : Type}
    {step : First → Option Second} {firstKey : First → Label} {secondKey : Second → Label}
    {items : List First}
    (keeps : ∀ item ∈ items, ∀ result, step item = some result →
      secondKey result = firstKey item) :
    ((items.filterMap step).map secondKey).Sublist (items.map firstKey) := by
  induction items with
  | nil => exact List.Sublist.slnil
  | cons item rest ih =>
      have further := ih (fun other member => keeps other (List.mem_cons_of_mem _ member))
      cases found : step item with
      | none =>
          rw [List.filterMap_cons_none found]
          exact further.cons _
      | some result =>
          rw [List.filterMap_cons_some found, List.map_cons,
            keeps item List.mem_cons_self result found]
          exact further.cons_cons _

section Related

variable {First Second Result : Type} {related : First → Second → Prop} {items : List First}
  {partners : List Second}

theorem map_eq_of_forall₂ {step : First → Result} {other : Second → Result}
    (agree : ∀ item partner, related item partner → step item = other partner)
    (pairs : List.Forall₂ related items partners) : items.map step = partners.map other := by
  induction pairs with
  | nil => rfl
  | cons head _ known => rw [List.map_cons, List.map_cons, agree _ _ head, known]

theorem map_eq_map_iff_forall₂ {step : First → Result} {other : Second → Result}
    {agree : First → Second → Prop}
    (each : ∀ item partner, related item partner → (other partner = step item ↔ agree item partner))
    (pairs : List.Forall₂ related items partners) :
    partners.map other = items.map step ↔ List.Forall₂ agree items partners := by
  induction pairs with
  | nil => exact iff_of_true rfl .nil
  | cons head _ known =>
      rw [List.map_cons, List.map_cons, List.cons.injEq, List.forall₂_cons, each _ _ head, known]

theorem filterMap_eq_of_forall₂ {step : First → Option Result} {other : Second → Option Result}
    (agree : ∀ item partner, related item partner → step item = other partner)
    (pairs : List.Forall₂ related items partners) :
    items.filterMap step = partners.filterMap other := by
  induction pairs with
  | nil => rfl
  | cons head _ known => rw [List.filterMap_cons, List.filterMap_cons, agree _ _ head, known]

theorem exists_partner_of_mem (pairs : List.Forall₂ related items partners) {item : First}
    (member : item ∈ items) : ∃ partner ∈ partners, related item partner := by
  induction pairs with
  | nil => cases member
  | cons head _ known =>
      rcases List.mem_cons.mp member with rfl | later
      · exact ⟨_, List.mem_cons_self, head⟩
      · rcases known later with ⟨partner, inside, found⟩
        exact ⟨partner, List.mem_cons_of_mem _ inside, found⟩

theorem exists_item_of_partner (pairs : List.Forall₂ related items partners) {partner : Second}
    (member : partner ∈ partners) : ∃ item ∈ items, related item partner := by
  induction pairs with
  | nil => cases member
  | cons head _ known =>
      rcases List.mem_cons.mp member with rfl | later
      · exact ⟨_, List.mem_cons_self, head⟩
      · rcases known later with ⟨item, inside, found⟩
        exact ⟨item, List.mem_cons_of_mem _ inside, found⟩

theorem filter_forall₂ {keep : First → Bool} {other : Second → Bool}
    (agree : ∀ item partner, related item partner → keep item = other partner)
    (pairs : List.Forall₂ related items partners) :
    List.Forall₂ related (items.filter keep) (partners.filter other) := by
  refine List.rel_filter ?_ pairs
  intro item partner same
  exact iff_of_eq (congrArg (· = true) (agree item partner same))

end Related

/-! ## Collecting into a map -/

/-- Set the value of a key: an existing entry is replaced, a new one added. -/
def insertKey (entries : List (Key × Value)) (key : Key) (value : Value) : List (Key × Value) :=
  if key ∈ entries.map Prod.fst then
    entries.map (fun entry => if entry.1 = key then (key, value) else entry)
  else entries ++ [(key, value)]

/-- The map collected from a sequence of entries, a later value replacing an
earlier one. -/
def collect (entries : List (Key × Value)) : List (Key × Value) :=
  entries.foldl (fun collected entry => insertKey collected entry.1 entry.2) []

theorem collect_eq_of_nodup {entries : List (Key × Value)}
    (distinct : (entries.map Prod.fst).Nodup) : collect entries = entries := by
  have run : ∀ (later earlier : List (Key × Value)),
      ((earlier ++ later).map Prod.fst).Nodup →
      later.foldl (fun collected entry => insertKey collected entry.1 entry.2) earlier =
        earlier ++ later := by
    intro later
    induction later with
    | nil =>
        intro earlier _
        rw [List.foldl_nil, List.append_nil]
    | cons entry rest ih =>
        intro earlier distinct
        have fresh : entry.1 ∉ earlier.map Prod.fst := by
          rw [List.map_append, List.map_cons, List.nodup_append] at distinct
          intro member
          exact distinct.2.2 entry.1 member entry.1 List.mem_cons_self rfl
        have extended : ((earlier ++ [entry] ++ rest).map Prod.fst).Nodup := by
          rw [List.append_assoc]
          exact distinct
        rw [List.foldl_cons, insertKey, if_neg fresh, ih _ extended, List.append_assoc]
        rfl
  exact run entries [] distinct

end Collections
end Stars
