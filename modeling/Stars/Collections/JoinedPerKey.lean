import Stars.Collections.FirstAppearance

namespace Stars
namespace Collections

/-!
# Values joined for each key

Entries arrive one by one.  The first entry of a key takes a place at the end, and
the value of a later one is joined to it.  The result lists every key once, in the
order of the first entries, with all its values joined.
-/

universe u v

section JoinedPerKey

variable {Key : Type u} {Value : Type v} [DecidableEq Key] (join : Value → Value → Value)

/-- Join a value to its key, or append the key. -/
def addJoined (entry : Key × Value) : List (Key × Value) → List (Key × Value)
  | [] => [entry]
  | first :: rest =>
      if first.1 = entry.1 then (first.1, join first.2 entry.2) :: rest
      else first :: addJoined entry rest

/-- One entry for each key, in the order of the first entries. -/
def joinPerKey (entries : List (Key × Value)) : List (Key × Value) :=
  entries.foldl (fun kept entry => addJoined join entry kept) []

/-- The values of a key, joined in their order. -/
def valueOf (unit : Value) (entries : List (Key × Value)) (key : Key) : Value :=
  ((entries.filter (fun entry => entry.1 = key)).map Prod.snd).foldl join unit

theorem valueOf_snoc (unit : Value) (entries : List (Key × Value)) (entry : Key × Value)
    (key : Key) :
    valueOf join unit (entries ++ [entry]) key =
      if entry.1 = key then join (valueOf join unit entries key) entry.2
      else valueOf join unit entries key := by
  rw [valueOf, valueOf, List.filter_append, List.filter_cons]
  by_cases same : entry.1 = key
  · rw [if_pos same, if_pos (decide_eq_true same), List.filter_nil, List.map_append,
      List.map_singleton, List.foldl_append, List.foldl_cons, List.foldl_nil]
  · rw [if_neg same, if_neg (by simp [same]), List.filter_nil, List.append_nil]

theorem valueOf_of_absent {unit : Value} {entries : List (Key × Value)} {key : Key}
    (absent : key ∉ entries.map Prod.fst) : valueOf join unit entries key = unit := by
  have nothing : entries.filter (fun entry => entry.1 = key) = [] := by
    rw [List.filter_eq_nil_iff]
    intro entry member same
    exact absent (of_decide_eq_true same ▸ List.mem_map_of_mem member)
  rw [valueOf, nothing]
  rfl

/-- Joining to a list of keys with their values. -/
theorem addJoined_map (value : Key → Value) (entry : Key × Value) (keys : List Key)
    (distinct : keys.Nodup) :
    addJoined join entry (keys.map (fun key => (key, value key))) =
      keys.map (fun key => (key, if entry.1 = key then join (value key) entry.2 else value key)) ++
        if entry.1 ∈ keys then [] else [entry] := by
  induction keys with
  | nil => rfl
  | cons key rest ih =>
      rw [List.nodup_cons] at distinct
      rw [List.map_cons, List.map_cons, addJoined, List.cons_append]
      by_cases same : key = entry.1
      · subst same
        rw [if_pos rfl, if_pos rfl, if_pos List.mem_cons_self, List.append_nil]
        congr 1
        refine List.map_congr_left (fun other member => ?_)
        have differs : entry.1 ≠ other := fun equal => distinct.1 (equal ▸ member)
        rw [if_neg differs]
      · rw [if_neg same, if_neg (Ne.symm same), ih distinct.2]
        have elsewhere : entry.1 ∈ key :: rest ↔ entry.1 ∈ rest := by
          rw [List.mem_cons, or_iff_right (Ne.symm same)]
        rw [if_congr elsewhere rfl rfl]

/-- Each key stands once, at the place of its first entry, with its joined
values. -/
theorem joinPerKey_eq {unit : Value} (unit_join : ∀ value, join unit value = value)
    (entries : List (Key × Value)) :
    joinPerKey join entries =
      (entries.map Prod.fst).eraseDups.map (fun key => (key, valueOf join unit entries key)) := by
  induction entries using List.reverseRecOn with
  | nil => rfl
  | append_singleton entries entry ih =>
      have before : joinPerKey join (entries ++ [entry]) =
          addJoined join entry (joinPerKey join entries) := by
        rw [joinPerKey, joinPerKey, List.foldl_append]
        rfl
      rw [before, ih, addJoined_map join _ entry _ (nodup_eraseDups _), List.map_append,
        List.map_singleton, eraseDups_snoc, List.map_append]
      congr 1
      · refine List.map_congr_left (fun key _ => ?_)
        rw [valueOf_snoc]
      · by_cases member : entry.1 ∈ entries.map Prod.fst
        · rw [if_pos member, if_pos (List.mem_eraseDups.mpr member)]
          rfl
        · rw [if_neg member, if_neg (mt List.mem_eraseDups.mp member), List.map_singleton,
            valueOf_snoc, if_pos rfl, valueOf_of_absent join member, unit_join]

end JoinedPerKey

end Collections
end Stars
