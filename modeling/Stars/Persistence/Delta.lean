import Stars.Collections.KeyedList
import Stars.Core.Explanation
import Stars.Order.Comparison
import Stars.Order.Sorting

namespace Stars
namespace Persistence

/-!
# Comparing two scans

Two lists of results are compared row by row under the key of identity and
path.  The comparison goes through two hash maps, whose entries come out in no
specified order; a final sort by path and identity makes the report independent
of it.  A report is the exact difference: it names every key that changed, once,
and applying it to the old rows gives the new ones.
-/

/-- Comparable form of the share status, with the reason of a failed read. -/
inductive ShareStatusTag where
  | notApplicable
  | applied
  | unrestricted
  | readFailed (reason : String)
deriving DecidableEq

def ShareStatusTag.ofStatus : ShareEvalStatus → ShareStatusTag
  | .notApplicable => .notApplicable
  | .applied => .applied
  | .unrestricted => .unrestricted
  | .readFailed reason => .readFailed reason

inductive LocalGroupStatusTag where
  | notQueried
  | applied
  | notAvailable (reason : String)
deriving DecidableEq

def LocalGroupStatusTag.ofStatus : LocalGroupEvalStatus → LocalGroupStatusTag
  | .notQueried => .notQueried
  | .applied => .applied
  | .notAvailable reason => .notAvailable reason

/-- The audit-relevant fields of a result. -/
structure PermissionSignature where
  effectiveMask : AccessMask
  ntfsMask : AccessMask
  shareMask : Option AccessMask
  shareStatus : ShareStatusTag
  localGroupStatus : LocalGroupStatusTag
  unsupportedAceCount : Nat
  diagnostics : List PermissionDiagnostic
  effectiveDeterminable : Bool
deriving DecidableEq

def PermissionSignature.ofPermission (row : EffectivePermission) : PermissionSignature where
  effectiveMask := row.effectiveMask
  ntfsMask := row.ntfsMask
  shareMask := row.shareMask
  shareStatus := ShareStatusTag.ofStatus row.shareStatus
  localGroupStatus := LocalGroupStatusTag.ofStatus row.localGroupStatus
  unsupportedAceCount := row.unsupportedAceCount
  diagnostics := row.diagnostics
  effectiveDeterminable := row.effectiveDeterminable

inductive DeltaReason where
  | effectiveMaskChanged
  | determinabilityChanged
  | ntfsMaskChanged
  | shareMaskChanged
  | shareStatusChanged
  | localGroupStatusChanged
  | unsupportedAceCountChanged
  | diagnosticsChanged
deriving DecidableEq

/-- A reason, when its field changed. -/
def pushIf (changed : Bool) (reason : DeltaReason) : List DeltaReason :=
  if changed then [reason] else []

/-- Every reason for a detected change; empty for equal signatures. -/
def signatureDiff (old new : PermissionSignature) : List DeltaReason :=
  pushIf (old.effectiveMask ≠ new.effectiveMask) .effectiveMaskChanged ++
  pushIf (old.effectiveDeterminable ≠ new.effectiveDeterminable) .determinabilityChanged ++
  pushIf (old.ntfsMask ≠ new.ntfsMask) .ntfsMaskChanged ++
  pushIf (old.shareMask ≠ new.shareMask) .shareMaskChanged ++
  pushIf (old.shareStatus ≠ new.shareStatus) .shareStatusChanged ++
  pushIf (old.localGroupStatus ≠ new.localGroupStatus) .localGroupStatusChanged ++
  pushIf (old.unsupportedAceCount ≠ new.unsupportedAceCount) .unsupportedAceCountChanged ++
  pushIf (old.diagnostics ≠ new.diagnostics) .diagnosticsChanged

/-- The field a reason stands for differs. -/
def DeltaReason.Differs (old new : PermissionSignature) : DeltaReason → Prop
  | effectiveMaskChanged => old.effectiveMask ≠ new.effectiveMask
  | determinabilityChanged => old.effectiveDeterminable ≠ new.effectiveDeterminable
  | ntfsMaskChanged => old.ntfsMask ≠ new.ntfsMask
  | shareMaskChanged => old.shareMask ≠ new.shareMask
  | shareStatusChanged => old.shareStatus ≠ new.shareStatus
  | localGroupStatusChanged => old.localGroupStatus ≠ new.localGroupStatus
  | unsupportedAceCountChanged => old.unsupportedAceCount ≠ new.unsupportedAceCount
  | diagnosticsChanged => old.diagnostics ≠ new.diagnostics

theorem mem_pushIf {changed : Bool} {reason listed : DeltaReason} :
    listed ∈ pushIf changed reason ↔ listed = reason ∧ changed = true := by
  cases changed <;> simp [pushIf]

/-- The reasons name exactly the fields that differ. -/
theorem mem_signatureDiff_iff {old new : PermissionSignature} {reason : DeltaReason} :
    reason ∈ signatureDiff old new ↔ reason.Differs old new := by
  simp only [signatureDiff, List.mem_append, mem_pushIf, decide_eq_true_eq]
  cases reason <;> simp [DeltaReason.Differs]

/-- The signature has no field without a reason. -/
theorem signatureDiff_eq_nil_iff {old new : PermissionSignature} :
    signatureDiff old new = [] ↔ old = new := by
  constructor
  · intro empty
    have agree : ∀ reason : DeltaReason, ¬ reason.Differs old new := by
      intro reason differs
      have listed := mem_signatureDiff_iff.mpr differs
      rw [empty] at listed
      exact List.not_mem_nil listed
    have effective := not_not.mp (agree .effectiveMaskChanged)
    have determinable := not_not.mp (agree .determinabilityChanged)
    have ntfs := not_not.mp (agree .ntfsMaskChanged)
    have share := not_not.mp (agree .shareMaskChanged)
    have shareStatus := not_not.mp (agree .shareStatusChanged)
    have localGroups := not_not.mp (agree .localGroupStatusChanged)
    have unsupported := not_not.mp (agree .unsupportedAceCountChanged)
    have diagnostics := not_not.mp (agree .diagnosticsChanged)
    cases old
    cases new
    simp only [PermissionSignature.mk.injEq]
    exact ⟨effective, ntfs, share, shareStatus, localGroups, unsupported, diagnostics,
      determinable⟩
  · intro same
    apply List.eq_nil_iff_forall_not_mem.mpr
    intro reason listed
    have differs := mem_signatureDiff_iff.mp listed
    rw [same] at differs
    cases reason <;> exact differs rfl

theorem signatureDiff_comm (old new : PermissionSignature) :
    signatureDiff new old = signatureDiff old new := by
  simp only [signatureDiff, ne_comm]

inductive DeltaKind where
  | added
  | removed
  | changed (oldMask newMask : AccessMask) (reasons : List DeltaReason)
deriving DecidableEq

structure DeltaEntry where
  path : String
  kind : DeltaKind
  oldPerm : Option ExplainedPermission
  newPerm : Option ExplainedPermission
deriving DecidableEq

/-- What a row is about: an identity and a path. -/
structure PermissionKey where
  sid : String
  path : String
deriving DecidableEq

def keyOf (row : ExplainedPermission) : PermissionKey := ⟨row.identity.sid.value, row.path⟩

def signatureOf (row : ExplainedPermission) : PermissionSignature :=
  PermissionSignature.ofPermission row.toEffectivePermission

/-- SID of the row an entry is about, from whichever side is present. -/
def entrySid (entry : DeltaEntry) : String :=
  ((entry.newPerm.or entry.oldPerm).map (fun row => row.identity.sid.value)).getD ""

def DeltaEntry.key (entry : DeltaEntry) : PermissionKey := ⟨entrySid entry, entry.path⟩

/-- The order of a report: by path, then by identity. -/
def compareKeys (left right : PermissionKey) : Ordering :=
  (Order.compareText left.path right.path).then (Order.compareText left.sid right.sid)

abbrev PermissionMap := List (PermissionKey × ExplainedPermission)

/-- The order in which the entries of a map are visited; any order may occur. -/
structure Visit where
  visit : PermissionMap → PermissionMap
  perm : ∀ entries, (visit entries).Perm entries

def collectRows (rows : List ExplainedPermission) : PermissionMap :=
  Collections.collect (rows.map (fun row => (keyOf row, row)))

def addedEntry (path : String) (row : ExplainedPermission) : DeltaEntry :=
  { path := path, kind := .added, oldPerm := none, newPerm := some row }

def removedEntry (path : String) (row : ExplainedPermission) : DeltaEntry :=
  { path := path, kind := .removed, oldPerm := some row, newPerm := none }

def changedEntry (path : String) (before after : ExplainedPermission) : DeltaEntry where
  path := path
  kind := .changed before.effectiveMask after.effectiveMask
    (signatureDiff (signatureOf before) (signatureOf after))
  oldPerm := some before
  newPerm := some after

/-- What a row of the new scan contributes. -/
def newRowEntry (oldMap : PermissionMap) (entry : PermissionKey × ExplainedPermission) :
    Option DeltaEntry :=
  match oldMap.lookup entry.1 with
  | none => some (addedEntry entry.1.path entry.2)
  | some before =>
      if (signatureDiff (signatureOf before) (signatureOf entry.2)).isEmpty then none
      else some (changedEntry entry.1.path before entry.2)

/-- What a row of the old scan contributes. -/
def oldRowEntry (newMap : PermissionMap) (entry : PermissionKey × ExplainedPermission) :
    Option DeltaEntry :=
  match newMap.lookup entry.1 with
  | none => some (removedEntry entry.1.path entry.2)
  | some _ => none

/-- All entries, in the order of the maps. -/
def collectEntries (newVisit oldVisit : Visit) (old new : List ExplainedPermission) :
    List DeltaEntry :=
  let oldMap := collectRows old
  let newMap := collectRows new
  (newVisit.visit newMap).filterMap (newRowEntry oldMap) ++
    (oldVisit.visit oldMap).filterMap (oldRowEntry newMap)

def diffPermissionLists (newVisit oldVisit : Visit) (old new : List ExplainedPermission) :
    List DeltaEntry :=
  Order.sortBy compareKeys DeltaEntry.key (collectEntries newVisit oldVisit old new)

/-! ## Reading a report -/

/-- A kind with the two scans exchanged. -/
def DeltaKind.mirror : DeltaKind → DeltaKind
  | added => removed
  | removed => added
  | changed oldMask newMask reasons => changed newMask oldMask reasons

def DeltaEntry.mirror (entry : DeltaEntry) : DeltaEntry where
  path := entry.path
  kind := entry.kind.mirror
  oldPerm := entry.newPerm
  newPerm := entry.oldPerm

/-- A row of the old scan after a report: as the entry of its key says, and
unchanged without one. -/
def applyToRow (entries : List DeltaEntry) (row : ExplainedPermission) :
    Option ExplainedPermission :=
  match entries.find? (fun entry => entry.key = keyOf row) with
  | some entry => entry.newPerm
  | none => some row

/-- The rows that are only in the new scan. -/
def addedRow (entry : DeltaEntry) : Option ExplainedPermission :=
  if entry.kind = .added then entry.newPerm else none

/-- A report applied to the rows of the old scan. -/
def applyDelta (entries : List DeltaEntry) (old : List ExplainedPermission) :
    List ExplainedPermission :=
  old.filterMap (applyToRow entries) ++ entries.filterMap addedRow

end Persistence
end Stars
