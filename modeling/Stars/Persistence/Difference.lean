import Stars.Persistence.Delta

namespace Stars
namespace Persistence

/-!
# The report is the exact difference

`Describes` says which entries two scans call for.  A report lists exactly
those, each key once and in an order of its own, so that it is determined by the
two sets of rows.
-/

open Std

/-- The entries that two scans call for. -/
inductive Describes (old new : List ExplainedPermission) : DeltaEntry → Prop where
  | added {row : ExplainedPermission} (listed : row ∈ new) (absent : keyOf row ∉ old.map keyOf) :
      Describes old new (addedEntry row.path row)
  | removed {row : ExplainedPermission} (listed : row ∈ old) (absent : keyOf row ∉ new.map keyOf) :
      Describes old new (removedEntry row.path row)
  | changed {before after : ExplainedPermission} (earlier : before ∈ old) (later : after ∈ new)
      (same : keyOf before = keyOf after) (differ : signatureOf before ≠ signatureOf after) :
      Describes old new (changedEntry after.path before after)

/-- Exchanging the scans mirrors what they call for. -/
theorem Describes.mirror {old new : List ExplainedPermission} {entry : DeltaEntry}
    (described : Describes old new entry) : Describes new old entry.mirror := by
  cases described with
  | added listed absent => exact Describes.removed listed absent
  | removed listed absent => exact Describes.added listed absent
  | @changed before after earlier later same differ =>
      have entryEq : (changedEntry after.path before after).mirror =
          changedEntry before.path after before := by
        have path : before.path = after.path := congrArg PermissionKey.path same
        rw [changedEntry, changedEntry, DeltaEntry.mirror, path, DeltaKind.mirror,
          signatureDiff_comm (signatureOf after)]
      rw [entryEq]
      exact Describes.changed later earlier same.symm differ.symm

theorem mirror_mirror (entry : DeltaEntry) : entry.mirror.mirror = entry := by
  cases entry with
  | mk path kind oldPerm newPerm => cases kind <;> rfl

/-- What is called for depends on the sets of rows alone. -/
theorem Describes.congr {old new old' new' : List ExplainedPermission} {entry : DeltaEntry}
    (sameOld : old'.Perm old) (sameNew : new'.Perm new) (described : Describes old' new' entry) :
    Describes old new entry := by
  cases described with
  | added listed absent =>
      apply Describes.added (sameNew.mem_iff.mp listed)
      rwa [← (sameOld.map keyOf).mem_iff]
  | removed listed absent =>
      apply Describes.removed (sameOld.mem_iff.mp listed)
      rwa [← (sameNew.map keyOf).mem_iff]
  | changed earlier later same differ =>
      exact Describes.changed (sameOld.mem_iff.mp earlier) (sameNew.mem_iff.mp later) same differ

instance : TransCmp compareKeys := by
  have byPath : TransCmp (fun left right : PermissionKey =>
      Order.compareText left.path right.path) := Order.transCmp_on PermissionKey.path
  have bySid : TransCmp (fun left right : PermissionKey =>
      Order.compareText left.sid right.sid) := Order.transCmp_on PermissionKey.sid
  exact inferInstanceAs (TransCmp (compareLex
    (fun left right : PermissionKey => Order.compareText left.path right.path)
    (fun left right : PermissionKey => Order.compareText left.sid right.sid)))

instance : LawfulEqCmp compareKeys where
  compare_self := ReflCmp.compare_self
  eq_of_compare := by
    intro left right same
    rw [compareKeys, Ordering.then_eq_eq] at same
    cases left
    cases right
    rw [PermissionKey.mk.injEq]
    exact ⟨LawfulEqCmp.eq_of_compare same.2, LawfulEqCmp.eq_of_compare same.1⟩

theorem key_addedEntry (row : ExplainedPermission) : (addedEntry row.path row).key = keyOf row :=
  rfl

theorem key_removedEntry (row : ExplainedPermission) :
    (removedEntry row.path row).key = keyOf row := rfl

theorem key_changedEntry (before after : ExplainedPermission) :
    (changedEntry after.path before after).key = keyOf after := rfl

section Rows

variable {old new : List ExplainedPermission}

theorem collectRows_eq {rows : List ExplainedPermission} (distinct : (rows.map keyOf).Nodup) :
    collectRows rows = rows.map (fun row => (keyOf row, row)) := by
  apply Collections.collect_eq_of_nodup
  rw [List.map_map]
  exact distinct

theorem newRowEntry_eq_some_iff (distinctOld : (old.map keyOf).Nodup)
    {row : ExplainedPermission} {entry : DeltaEntry} :
    newRowEntry (collectRows old) (keyOf row, row) = some entry ↔
      (keyOf row ∉ old.map keyOf ∧ entry = addedEntry row.path row) ∨
        ∃ before ∈ old, keyOf before = keyOf row ∧ signatureOf before ≠ signatureOf row ∧
          entry = changedEntry row.path before row := by
  rw [collectRows_eq distinctOld, newRowEntry]
  cases found : (old.map (fun item => (keyOf item, item))).lookup (keyOf row) with
  | none =>
      have absent := Collections.lookup_keyed_eq_none_iff.mp found
      constructor
      · intro made
        exact Or.inl ⟨absent, (Option.some.inj made).symm⟩
      · intro called
        rcases called with ⟨_, same⟩ | ⟨before, listed, same, _⟩
        · rw [same]
          rfl
        · exact absurd (List.mem_map.mpr ⟨before, listed, same⟩) absent
  | some before =>
      have stored := (Collections.mem_iff_of_lookup_keyed distinctOld).mp found
      have unique : ∀ other ∈ old, keyOf other = keyOf row → other = before := by
        intro other listed same
        exact List.inj_on_of_nodup_map distinctOld listed stored.1 (same.trans stored.2.symm)
      by_cases equal : signatureOf before = signatureOf row
      · have nothing : (signatureDiff (signatureOf before) (signatureOf row)).isEmpty = true := by
          rw [List.isEmpty_iff, signatureDiff_eq_nil_iff]
          exact equal
        dsimp only
        rw [if_pos nothing]
        constructor
        · intro made
          cases made
        · intro called
          rcases called with ⟨absent, _⟩ | ⟨other, listed, same, differ, _⟩
          · exact absurd (List.mem_map.mpr ⟨before, stored.1, stored.2⟩) absent
          · rw [unique other listed same] at differ
            exact absurd equal differ
      · have something : ¬ (signatureDiff (signatureOf before) (signatureOf row)).isEmpty = true := by
          rw [List.isEmpty_iff, signatureDiff_eq_nil_iff]
          exact equal
        dsimp only
        rw [if_neg something]
        constructor
        · intro made
          exact Or.inr ⟨before, stored.1, stored.2, equal, (Option.some.inj made).symm⟩
        · intro called
          rcases called with ⟨absent, _⟩ | ⟨other, listed, same, differ, entryEq⟩
          · exact absurd (List.mem_map.mpr ⟨before, stored.1, stored.2⟩) absent
          · rw [entryEq, unique other listed same]
            rfl

theorem oldRowEntry_eq_some_iff (distinctNew : (new.map keyOf).Nodup)
    {row : ExplainedPermission} {entry : DeltaEntry} :
    oldRowEntry (collectRows new) (keyOf row, row) = some entry ↔
      keyOf row ∉ new.map keyOf ∧ entry = removedEntry row.path row := by
  rw [collectRows_eq distinctNew, oldRowEntry]
  cases found : (new.map (fun item => (keyOf item, item))).lookup (keyOf row) with
  | none =>
      have absent := Collections.lookup_keyed_eq_none_iff.mp found
      constructor
      · intro made
        exact ⟨absent, (Option.some.inj made).symm⟩
      · intro called
        rw [called.2]
        rfl
  | some after =>
      have stored := (Collections.mem_iff_of_lookup_keyed distinctNew).mp found
      constructor
      · intro made
        cases made
      · intro called
        exact absurd (List.mem_map.mpr ⟨after, stored.1, stored.2⟩) called.1

theorem mem_visit_iff {visit : Visit} {rows : List ExplainedPermission}
    (distinct : (rows.map keyOf).Nodup) {entry : PermissionKey × ExplainedPermission} :
    entry ∈ visit.visit (collectRows rows) ↔ ∃ row ∈ rows, (keyOf row, row) = entry := by
  rw [(visit.perm _).mem_iff, collectRows_eq distinct, List.mem_map]

variable {newVisit oldVisit : Visit}

/-- The collected entries are those that the two scans call for. -/
theorem mem_collectEntries_iff (distinctOld : (old.map keyOf).Nodup)
    (distinctNew : (new.map keyOf).Nodup) {entry : DeltaEntry} :
    entry ∈ collectEntries newVisit oldVisit old new ↔ Describes old new entry := by
  rw [collectEntries, List.mem_append, List.mem_filterMap, List.mem_filterMap]
  constructor
  · intro collected
    rcases collected with ⟨visited, member, made⟩ | ⟨visited, member, made⟩
    · rcases (mem_visit_iff distinctNew).mp member with ⟨row, listed, rfl⟩
      rcases (newRowEntry_eq_some_iff distinctOld).mp made with
        ⟨absent, rfl⟩ | ⟨before, earlier, same, differ, rfl⟩
      · exact Describes.added listed absent
      · exact Describes.changed earlier listed same differ
    · rcases (mem_visit_iff distinctOld).mp member with ⟨row, listed, rfl⟩
      rcases (oldRowEntry_eq_some_iff distinctNew).mp made with ⟨absent, rfl⟩
      exact Describes.removed listed absent
  · intro described
    cases described with
    | @added row listed absent =>
        refine Or.inl ⟨_, (mem_visit_iff distinctNew).mpr ⟨row, listed, rfl⟩, ?_⟩
        exact (newRowEntry_eq_some_iff distinctOld).mpr (Or.inl ⟨absent, rfl⟩)
    | @removed row listed absent =>
        refine Or.inr ⟨_, (mem_visit_iff distinctOld).mpr ⟨row, listed, rfl⟩, ?_⟩
        exact (oldRowEntry_eq_some_iff distinctNew).mpr ⟨absent, rfl⟩
    | @changed before after earlier later same differ =>
        refine Or.inl ⟨_, (mem_visit_iff distinctNew).mpr ⟨after, later, rfl⟩, ?_⟩
        exact (newRowEntry_eq_some_iff distinctOld).mpr
          (Or.inr ⟨before, earlier, same, differ, rfl⟩)

theorem key_newRowEntry {oldMap : PermissionMap} {row : ExplainedPermission} {entry : DeltaEntry}
    (made : newRowEntry oldMap (keyOf row, row) = some entry) : entry.key = keyOf row := by
  rw [newRowEntry] at made
  split at made
  · rw [← Option.some.inj made]
    rfl
  · split at made
    · cases made
    · rw [← Option.some.inj made]
      rfl

theorem key_oldRowEntry {newMap : PermissionMap} {row : ExplainedPermission} {entry : DeltaEntry}
    (made : oldRowEntry newMap (keyOf row, row) = some entry) : entry.key = keyOf row := by
  rw [oldRowEntry] at made
  split at made
  · rw [← Option.some.inj made]
    rfl
  · cases made

/-- Every key is reported at most once. -/
theorem nodup_collectEntries (distinctOld : (old.map keyOf).Nodup)
    (distinctNew : (new.map keyOf).Nodup) :
    ((collectEntries newVisit oldVisit old new).map DeltaEntry.key).Nodup := by
  have keys : ∀ {visit : Visit} {rows : List ExplainedPermission}, (rows.map keyOf).Nodup →
      ((visit.visit (collectRows rows)).map Prod.fst).Nodup := by
    intro visit rows distinct
    rw [((visit.perm _).map Prod.fst).nodup_iff, collectRows_eq distinct, List.map_map]
    exact distinct
  have later : (((newVisit.visit (collectRows new)).filterMap
      (newRowEntry (collectRows old))).map DeltaEntry.key).Nodup :=
    List.Nodup.sublist (Collections.map_filterMap_sublist_of_mem (by
      intro visited member entry made
      rcases (mem_visit_iff distinctNew).mp member with ⟨row, _, rfl⟩
      exact key_newRowEntry made)) (keys distinctNew)
  have earlier : (((oldVisit.visit (collectRows old)).filterMap
      (oldRowEntry (collectRows new))).map DeltaEntry.key).Nodup :=
    List.Nodup.sublist (Collections.map_filterMap_sublist_of_mem (by
      intro visited member entry made
      rcases (mem_visit_iff distinctOld).mp member with ⟨row, _, rfl⟩
      exact key_oldRowEntry made)) (keys distinctOld)
  rw [collectEntries, List.map_append, List.nodup_append]
  refine ⟨later, earlier, ?_⟩
  -- A key of the first part is in the new scan, one of the second part is not.
  intro key laterKey other earlierKey same
  rcases List.mem_map.mp laterKey with ⟨entry, entryMem, rfl⟩
  rcases List.mem_filterMap.mp entryMem with ⟨visited, visitedMem, made⟩
  rcases (mem_visit_iff distinctNew).mp visitedMem with ⟨row, listed, rfl⟩
  rcases List.mem_map.mp earlierKey with ⟨removed, removedMem, rfl⟩
  rcases List.mem_filterMap.mp removedMem with ⟨stored, storedMem, removedMade⟩
  rcases (mem_visit_iff distinctOld).mp storedMem with ⟨oldRow, _, rfl⟩
  rcases (oldRowEntry_eq_some_iff distinctNew).mp removedMade with ⟨absent, _⟩
  rw [key_newRowEntry made, key_oldRowEntry removedMade] at same
  exact absent (List.mem_map.mpr ⟨row, listed, same⟩)

/-! ## The report -/

theorem mem_diffPermissionLists_iff (distinctOld : (old.map keyOf).Nodup)
    (distinctNew : (new.map keyOf).Nodup) {entry : DeltaEntry} :
    entry ∈ diffPermissionLists newVisit oldVisit old new ↔ Describes old new entry := by
  rw [diffPermissionLists, Order.mem_sortBy]
  exact mem_collectEntries_iff distinctOld distinctNew

theorem nodup_diffPermissionLists (distinctOld : (old.map keyOf).Nodup)
    (distinctNew : (new.map keyOf).Nodup) :
    ((diffPermissionLists newVisit oldVisit old new).map DeltaEntry.key).Nodup :=
  ((Order.perm_sortBy _).map DeltaEntry.key).nodup_iff.mpr
    (nodup_collectEntries distinctOld distinctNew)

theorem diffPermissionLists_self {rows : List ExplainedPermission}
    (distinct : (rows.map keyOf).Nodup) :
    diffPermissionLists newVisit oldVisit rows rows = [] := by
  apply List.eq_nil_iff_forall_not_mem.mpr
  intro entry member
  cases (mem_diffPermissionLists_iff distinct distinct).mp member with
  | added listed absent => exact absent (List.mem_map_of_mem listed)
  | removed listed absent => exact absent (List.mem_map_of_mem listed)
  | changed earlier later same differ =>
      exact differ (congrArg signatureOf (List.inj_on_of_nodup_map distinct earlier later same))

/-- Neither the order of the rows nor that of the maps shows in a report. -/
theorem diffPermissionLists_perm {newVisit' oldVisit' : Visit}
    {old' new' : List ExplainedPermission} (distinctOld : (old.map keyOf).Nodup)
    (distinctNew : (new.map keyOf).Nodup) (sameOld : old'.Perm old) (sameNew : new'.Perm new) :
    diffPermissionLists newVisit' oldVisit' old' new' =
      diffPermissionLists newVisit oldVisit old new := by
  have distinctOld' : (old'.map keyOf).Nodup := (sameOld.map keyOf).nodup_iff.mpr distinctOld
  have distinctNew' : (new'.map keyOf).Nodup := (sameNew.map keyOf).nodup_iff.mpr distinctNew
  apply Order.sortBy_eq_of_mem_iff (nodup_collectEntries distinctOld' distinctNew')
    (nodup_collectEntries distinctOld distinctNew)
  intro entry
  rw [mem_collectEntries_iff distinctOld' distinctNew',
    mem_collectEntries_iff distinctOld distinctNew]
  exact ⟨Describes.congr sameOld sameNew, Describes.congr sameOld.symm sameNew.symm⟩

theorem Describes.key_mirror {entry : DeltaEntry} (described : Describes old new entry) :
    entry.mirror.key = entry.key := by
  cases described with
  | added => rfl
  | removed => rfl
  | @changed before after earlier later same differ =>
      have sid : before.identity.sid.value = after.identity.sid.value :=
        congrArg PermissionKey.sid same
      exact congrArg (fun text => PermissionKey.mk text after.path) sid

/-- Exchanging the scans mirrors the report, entry by entry. -/
theorem diffPermissionLists_swap {newVisit' oldVisit' : Visit}
    (distinctOld : (old.map keyOf).Nodup) (distinctNew : (new.map keyOf).Nodup) :
    diffPermissionLists newVisit' oldVisit' new old =
      (diffPermissionLists newVisit oldVisit old new).map DeltaEntry.mirror := by
  have keys : ∀ entry ∈ collectEntries newVisit oldVisit old new,
      entry.mirror.key = entry.key := by
    intro entry member
    exact ((mem_collectEntries_iff distinctOld distinctNew).mp member).key_mirror
  have once : (((collectEntries newVisit oldVisit old new).map DeltaEntry.mirror).map
      DeltaEntry.key).Nodup := by
    have same : ((collectEntries newVisit oldVisit old new).map DeltaEntry.mirror).map
        DeltaEntry.key = (collectEntries newVisit oldVisit old new).map DeltaEntry.key := by
      rw [List.map_map]
      exact List.map_congr_left keys
    rw [same]
    exact nodup_collectEntries distinctOld distinctNew
  rw [diffPermissionLists, diffPermissionLists, Order.map_sortBy keys]
  apply Order.sortBy_eq_of_mem_iff (nodup_collectEntries distinctNew distinctOld) once
  intro entry
  rw [mem_collectEntries_iff distinctNew distinctOld, List.mem_map]
  constructor
  · intro described
    refine ⟨entry.mirror, ?_, mirror_mirror entry⟩
    exact (mem_collectEntries_iff distinctOld distinctNew).mpr described.mirror
  · intro mirrored
    rcases mirrored with ⟨original, member, rfl⟩
    exact ((mem_collectEntries_iff distinctOld distinctNew).mp member).mirror

/-! ## Applying a report -/

/-- An entry for the key of a row is found whenever it is called for. -/
theorem find_entry {entries : List DeltaEntry} {entry : DeltaEntry} {key : PermissionKey}
    (once : (entries.map DeltaEntry.key).Nodup) (member : entry ∈ entries)
    (about : entry.key = key) :
    entries.find? (fun candidate => candidate.key = key) = some entry := by
  cases found : entries.find? (fun candidate => candidate.key = key) with
  | none =>
      have none := List.find?_eq_none.mp found entry member
      simp [about] at none
  | some other =>
      have otherMem := List.mem_of_find?_eq_some found
      have otherKey : other.key = key := by simpa using List.find?_some found
      rw [List.inj_on_of_nodup_map once otherMem member (otherKey.trans about.symm)]

/-- A row that no entry is about is unchanged in the new scan. -/
theorem kept_of_not_described {row : ExplainedPermission}
    (listed : row ∈ old)
    (silent : ∀ entry, Describes old new entry → entry.key ≠ keyOf row) :
    ∃ after ∈ new, keyOf after = keyOf row ∧ signatureOf after = signatureOf row := by
  by_cases present : keyOf row ∈ new.map keyOf
  · rcases List.mem_map.mp present with ⟨after, later, same⟩
    refine ⟨after, later, same, ?_⟩
    by_contra differ
    exact silent _ (Describes.changed listed later same.symm (Ne.symm differ)) same
  · exact absurd rfl (silent _ (Describes.removed listed present))

/-- What becomes of a row of the old scan is in the new scan, by key and
signature. -/
theorem applyToRow_described {entries : List DeltaEntry}
    (entriesEq : ∀ entry, entry ∈ entries ↔ Describes old new entry)
    {row result : ExplainedPermission} (listed : row ∈ old)
    (applied : applyToRow entries row = some result) :
    keyOf result = keyOf row ∧
      ∃ after ∈ new, keyOf after = keyOf result ∧ signatureOf after = signatureOf result := by
  rw [applyToRow] at applied
  cases found : entries.find? (fun candidate => candidate.key = keyOf row) with
  | none =>
      rw [found] at applied
      cases applied
      refine ⟨rfl, kept_of_not_described listed ?_⟩
      intro entry described about
      have missed := List.find?_eq_none.mp found entry ((entriesEq entry).mpr described)
      simp [about] at missed
  | some entry =>
      rw [found] at applied
      have about : entry.key = keyOf row := by simpa using List.find?_some found
      have described := (entriesEq entry).mp (List.mem_of_find?_eq_some found)
      cases described with
      | added later absent =>
          rw [key_addedEntry] at about
          exact absurd (List.mem_map.mpr ⟨row, listed, about.symm⟩) absent
      | removed earlier absent => cases applied
      | @changed before after earlier later same differ =>
          cases applied
          exact ⟨about, _, later, rfl, rfl⟩

/-- A row of the new scan whose key the old scan has is what becomes of the old
row. -/
theorem exists_applied {entries : List DeltaEntry} (distinctOld : (old.map keyOf).Nodup)
    (distinctNew : (new.map keyOf).Nodup) (once : (entries.map DeltaEntry.key).Nodup)
    (entriesEq : ∀ entry, entry ∈ entries ↔ Describes old new entry)
    {before after : ExplainedPermission} (earlier : before ∈ old) (later : after ∈ new)
    (same : keyOf before = keyOf after) :
    ∃ result, applyToRow entries before = some result ∧
      keyOf result = keyOf after ∧ signatureOf result = signatureOf after := by
  by_cases equal : signatureOf before = signatureOf after
  · refine ⟨before, ?_, same, equal⟩
    have silent : entries.find? (fun candidate => candidate.key = keyOf before) = none := by
      apply List.find?_eq_none.mpr
      intro entry member about
      have about : entry.key = keyOf before := by simpa using about
      cases (entriesEq entry).mp member with
      | added listed absent =>
          rw [key_addedEntry] at about
          exact absent (List.mem_map.mpr ⟨before, earlier, about.symm⟩)
      | removed listed absent =>
          rw [key_removedEntry, same] at about
          exact absent (List.mem_map.mpr ⟨after, later, about.symm⟩)
      | @changed first second firstMem secondMem firstSame differ =>
          rw [key_changedEntry, same] at about
          have sameAfter := List.inj_on_of_nodup_map distinctNew secondMem later about
          have sameBefore := List.inj_on_of_nodup_map distinctOld firstMem earlier
            (firstSame.trans (about.trans same.symm))
          rw [sameAfter, sameBefore] at differ
          exact differ equal
    rw [applyToRow, silent]
  · have listed := (entriesEq _).mpr (Describes.changed earlier later same equal)
    refine ⟨after, ?_, rfl, rfl⟩
    rw [applyToRow, find_entry once listed same.symm]
    rfl

theorem addedRow_described {entries : List DeltaEntry}
    (entriesEq : ∀ entry, entry ∈ entries ↔ Describes old new entry)
    {entry : DeltaEntry} {row : ExplainedPermission} (member : entry ∈ entries)
    (found : addedRow entry = some row) :
    entry.key = keyOf row ∧ row ∈ new ∧ keyOf row ∉ old.map keyOf := by
  cases (entriesEq entry).mp member with
  | added listed absent =>
      cases found
      exact ⟨rfl, listed, absent⟩
  | removed => cases found
  | changed => cases found

/-- A row by what a comparison sees of it. -/
def keyedSignature (row : ExplainedPermission) : PermissionKey × PermissionSignature :=
  (keyOf row, signatureOf row)

theorem nodup_applyDelta {entries : List DeltaEntry} (distinctOld : (old.map keyOf).Nodup)
    (once : (entries.map DeltaEntry.key).Nodup)
    (entriesEq : ∀ entry, entry ∈ entries ↔ Describes old new entry) :
    ((applyDelta entries old).map keyOf).Nodup := by
  rw [applyDelta, List.map_append, List.nodup_append]
  refine ⟨?_, ?_, ?_⟩
  · refine List.Nodup.sublist (Collections.map_filterMap_sublist_of_mem ?_) distinctOld
    intro row listed result applied
    exact (applyToRow_described entriesEq listed applied).1
  · refine List.Nodup.sublist (Collections.map_filterMap_sublist_of_mem ?_) once
    intro entry member row found
    exact (addedRow_described entriesEq member found).1.symm
  · intro key keptKey other addedKey same
    rcases List.mem_map.mp keptKey with ⟨result, resultMem, rfl⟩
    rcases List.mem_filterMap.mp resultMem with ⟨row, listed, applied⟩
    rcases List.mem_map.mp addedKey with ⟨added, addedMem, rfl⟩
    rcases List.mem_filterMap.mp addedMem with ⟨entry, member, found⟩
    rcases addedRow_described entriesEq member found with ⟨_, _, absent⟩
    rw [(applyToRow_described entriesEq listed applied).1] at same
    exact absent (List.mem_map.mpr ⟨row, listed, same⟩)

/-- Applying a report to the old rows gives the keys and signatures of the new
ones. -/
theorem applyDelta_perm {entries : List DeltaEntry} (distinctOld : (old.map keyOf).Nodup)
    (distinctNew : (new.map keyOf).Nodup) (once : (entries.map DeltaEntry.key).Nodup)
    (entriesEq : ∀ entry, entry ∈ entries ↔ Describes old new entry) :
    ((applyDelta entries old).map keyedSignature).Perm (new.map keyedSignature) := by
  have keyed : ∀ {rows : List ExplainedPermission}, (rows.map keyOf).Nodup →
      (rows.map keyedSignature).Nodup := by
    intro rows distinct
    apply List.Nodup.of_map Prod.fst
    rw [List.map_map]
    exact distinct
  apply (List.perm_ext_iff_of_nodup (keyed (nodup_applyDelta distinctOld once entriesEq))
    (keyed distinctNew)).mpr
  intro seen
  rw [List.mem_map, List.mem_map]
  constructor
  · intro applied
    rcases applied with ⟨result, member, rfl⟩
    rcases List.mem_append.mp member with kept | added
    · rcases List.mem_filterMap.mp kept with ⟨row, listed, applied⟩
      rcases (applyToRow_described entriesEq listed applied).2 with
        ⟨after, later, sameKey, sameSignature⟩
      exact ⟨after, later, by rw [keyedSignature, keyedSignature, sameKey, sameSignature]⟩
    · rcases List.mem_filterMap.mp added with ⟨entry, entryMem, found⟩
      exact ⟨result, (addedRow_described entriesEq entryMem found).2.1, rfl⟩
  · intro present
    rcases present with ⟨after, later, rfl⟩
    by_cases known : keyOf after ∈ old.map keyOf
    · rcases List.mem_map.mp known with ⟨before, earlier, same⟩
      rcases exists_applied distinctOld distinctNew once entriesEq earlier later same with
        ⟨result, applied, sameKey, sameSignature⟩
      refine ⟨result, ?_, by rw [keyedSignature, keyedSignature, sameKey, sameSignature]⟩
      exact List.mem_append_left _ (List.mem_filterMap.mpr ⟨before, earlier, applied⟩)
    · have member := (entriesEq _).mpr (Describes.added later known)
      refine ⟨after, ?_, rfl⟩
      exact List.mem_append_right _ (List.mem_filterMap.mpr ⟨_, member, rfl⟩)

/-- A report is the exact difference of two scans: it lists what they call for,
each key once, by path and identity; the reasons of a change are the fields that
differ; and the old rows with the report applied are the new ones. -/
structure ExactDifference (old new : List ExplainedPermission) (entries : List DeltaEntry) :
    Prop where
  once : (entries.map DeltaEntry.key).Nodup
  mem_iff : ∀ entry, entry ∈ entries ↔ Describes old new entry
  reasons : ∀ before after reason,
    reason ∈ signatureDiff (signatureOf before) (signatureOf after) ↔
      reason.Differs (signatureOf before) (signatureOf after)
  ordered : entries.Pairwise (Order.NotAfter compareKeys DeltaEntry.key)
  applied : ((applyDelta entries old).map keyedSignature).Perm (new.map keyedSignature)

/-- The comparison of two scans with distinct keys is their exact difference.
Comparing a scan with itself reports nothing, exchanging the scans mirrors the
report, and the order of the rows does not matter. -/
theorem diffPermissionLists_exact (newVisit oldVisit newVisit' oldVisit' : Visit)
    (distinctOld : (old.map keyOf).Nodup) (distinctNew : (new.map keyOf).Nodup) :
    ExactDifference old new (diffPermissionLists newVisit oldVisit old new) ∧
      diffPermissionLists newVisit oldVisit old old = [] ∧
      diffPermissionLists newVisit' oldVisit' new old =
        (diffPermissionLists newVisit oldVisit old new).map DeltaEntry.mirror ∧
      ∀ old' new' : List ExplainedPermission, old'.Perm old → new'.Perm new →
        diffPermissionLists newVisit' oldVisit' old' new' =
          diffPermissionLists newVisit oldVisit old new := by
  have once : ((diffPermissionLists newVisit oldVisit old new).map DeltaEntry.key).Nodup :=
    nodup_diffPermissionLists distinctOld distinctNew
  have described : ∀ entry, entry ∈ diffPermissionLists newVisit oldVisit old new ↔
      Describes old new entry :=
    fun _ => mem_diffPermissionLists_iff distinctOld distinctNew
  refine ⟨?_, diffPermissionLists_self distinctOld,
    diffPermissionLists_swap distinctOld distinctNew, ?_⟩
  · exact {
      once := once
      mem_iff := described
      reasons := fun _ _ _ => mem_signatureDiff_iff
      ordered := Order.pairwise_sortBy _
      applied := applyDelta_perm distinctOld distinctNew once described }
  · intro old' new' sameOld sameNew
    exact diffPermissionLists_perm distinctOld distinctNew sameOld sameNew

end Rows

section Example

private def everyoneOn (path : String) (mask : AccessMask) : ExplainedPermission where
  identity := { sid := ⟨"S-1-1-0"⟩ }
  path := path
  ntfsMask := mask
  shareMask := none
  effectiveMask := mask

private def inOrder : Visit := ⟨id, fun entries => List.Perm.refl entries⟩

private def lastFirst : Visit := ⟨List.reverse, fun entries => entries.reverse_perm⟩

/-- One path is gone, one is new and one has another mask; the rows of the new
scan come in the opposite order. -/
theorem diffPermissionLists_three :
    ((diffPermissionLists inOrder lastFirst [everyoneOn "B" 1, everyoneOn "A" 1]
        [everyoneOn "C" 1, everyoneOn "B" 3]).map (fun entry => (entry.path, entry.kind))) =
      [("A", .removed), ("B", .changed 1 3 [.effectiveMaskChanged, .ntfsMaskChanged]),
        ("C", .added)] ∧
      diffPermissionLists lastFirst inOrder [everyoneOn "A" 1, everyoneOn "B" 1]
          [everyoneOn "B" 3, everyoneOn "C" 1] =
        diffPermissionLists inOrder lastFirst [everyoneOn "B" 1, everyoneOn "A" 1]
          [everyoneOn "C" 1, everyoneOn "B" 3] := by
  have distinctOld : ([everyoneOn "B" 1, everyoneOn "A" 1].map keyOf).Nodup := by decide
  have distinctNew : ([everyoneOn "C" 1, everyoneOn "B" 3].map keyOf).Nodup := by decide
  refine ⟨by decide, ?_⟩
  apply (diffPermissionLists_exact inOrder lastFirst lastFirst inOrder
    distinctOld distinctNew).2.2.2
  · exact List.Perm.swap _ _ _
  · exact List.Perm.swap _ _ _

end Example

end Persistence
end Stars
