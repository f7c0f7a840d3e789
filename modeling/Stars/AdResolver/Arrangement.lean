import Stars.AdResolver.Reordering

namespace Stars
namespace AdResolver

open Collections

/-!
# Arrangements of attribute values

An arrangement puts the values of `memberOf` and of `sIDHistory` in another order,
in every entry alike.  An arranged entry is a reordered form of the entry, so an
arrangement that moves one value to a chosen place shows what the result makes of
that place.
-/

/-- Another order for the values of the attributes with several values. -/
structure Arrangement where
  memberOf : List String → List String
  textHistory : List String → List String
  binHistory : List (List UInt8) → List (List UInt8)
  memberOf_perm : ∀ values, (memberOf values).Perm values
  textHistory_perm : ∀ values, (textHistory values).Perm values
  binHistory_perm : ∀ values, (binHistory values).Perm values

section Attributes

variable {Value : Type}

/-- Every attribute with its values changed by name. -/
def mapValues (change : String → List Value → List Value) (attrs : List (String × List Value)) :
    List (String × List Value) :=
  attrs.map (fun attr => (attr.1, change attr.1 attr.2))

theorem lookup_mapValues (change : String → List Value → List Value)
    (attrs : List (String × List Value)) (name : String) :
    (mapValues change attrs).lookup name = (attrs.lookup name).map (change name) :=
  Collections.lookup_mapValue change attrs name

/-- A missing attribute has no values to arrange. -/
theorem getD_map_arranged {arrange : List Value → List Value}
    (perm : ∀ values, (arrange values).Perm values) (values : Option (List Value)) :
    (values.map arrange).getD [] = arrange (values.getD []) := by
  cases values with
  | none => exact (perm []).eq_nil.symm
  | some values => rfl

variable [DecidableEq Value]

/-- The values with one of them in front. -/
def frontFirst (value : Value) (values : List Value) : List Value :=
  values.filter (fun item => decide (item = value)) ++
    values.filter (fun item => !decide (item = value))

theorem frontFirst_perm (value : Value) (values : List Value) :
    (frontFirst value values).Perm values :=
  List.filter_append_perm (fun item => decide (item = value)) values

theorem head_frontFirst {value : Value} {values : List Value} (inside : value ∈ values) :
    ∃ rest, frontFirst value values = value :: rest := by
  have member : value ∈ values.filter (fun item => decide (item = value)) :=
    List.mem_filter.mpr ⟨inside, decide_eq_true rfl⟩
  rcases List.exists_cons_of_ne_nil (List.ne_nil_of_mem member) with ⟨first, others, split⟩
  have firstMem : first ∈ values.filter (fun item => decide (item = value)) := by
    rw [split]
    exact List.mem_cons_self
  have same : first = value := of_decide_eq_true (List.mem_filter.mp firstMem).2
  refine ⟨others ++ values.filter (fun item => !decide (item = value)), ?_⟩
  rw [frontFirst, split, same, List.cons_append]

end Attributes

namespace Arrangement

variable (arrangement : Arrangement)

/-- The entry with its values arranged. -/
def entry (entry : RawEntry) : RawEntry where
  dn := entry.dn
  attrs := mapValues (fun name =>
    if name = "memberOf" then arrangement.memberOf
    else if name = "sIDHistory" then arrangement.textHistory
    else id) entry.attrs
  binAttrs := mapValues (fun name =>
    if name = "sIDHistory" then arrangement.binHistory else id) entry.binAttrs

theorem allAttr_memberOf (entry : RawEntry) :
    (arrangement.entry entry).allAttr "memberOf" =
      arrangement.memberOf (entry.allAttr "memberOf") := by
  rw [RawEntry.allAttr, Arrangement.entry, lookup_mapValues, if_pos rfl,
    getD_map_arranged arrangement.memberOf_perm, RawEntry.allAttr]

theorem allAttr_history (entry : RawEntry) :
    (arrangement.entry entry).allAttr "sIDHistory" =
      arrangement.textHistory (entry.allAttr "sIDHistory") := by
  rw [RawEntry.allAttr, Arrangement.entry, lookup_mapValues, if_neg (by decide), if_pos rfl,
    getD_map_arranged arrangement.textHistory_perm, RawEntry.allAttr]

theorem binHistory_entry (entry : RawEntry) :
    ((arrangement.entry entry).binAttrs.lookup "sIDHistory").getD [] =
      arrangement.binHistory ((entry.binAttrs.lookup "sIDHistory").getD []) := by
  rw [Arrangement.entry, lookup_mapValues, if_pos rfl, getD_map_arranged arrangement.binHistory_perm]

/-- An arranged entry is another form of the entry. -/
theorem reordered (entry : RawEntry) : Reordered entry (arrangement.entry entry) where
  dn := rfl
  attrs := by
    intro name notMemberOf notHistory
    rw [Arrangement.entry, lookup_mapValues, if_neg notMemberOf, if_neg notHistory, Option.map_id,
      id]
  binAttrs := by
    intro name notHistory
    rw [Arrangement.entry, lookup_mapValues, if_neg notHistory, Option.map_id, id]
  memberOf := by
    rw [allAttr_memberOf]
    exact arrangement.memberOf_perm _
  textHistory := by
    rw [allAttr_history]
    exact arrangement.textHistory_perm _
  binHistory := by
    rw [binHistory_entry]
    exact arrangement.binHistory_perm _

/-- The attributes of an entry in another order, the historical SIDs as they are. -/
def ofMemberOf (memberOf : List String → List String)
    (perm : ∀ values, (memberOf values).Perm values) : Arrangement where
  memberOf := memberOf
  textHistory := id
  binHistory := id
  memberOf_perm := perm
  textHistory_perm := fun _ => List.Perm.refl _
  binHistory_perm := fun _ => List.Perm.refl _

/-- One textual and one binary historical SID in front. -/
def historyFirst (text : String) (bytes : List UInt8) : Arrangement where
  memberOf := id
  textHistory := frontFirst text
  binHistory := frontFirst bytes
  memberOf_perm := fun _ => List.Perm.refl _
  textHistory_perm := frontFirst_perm text
  binHistory_perm := frontFirst_perm bytes

end Arrangement

end AdResolver
end Stars
