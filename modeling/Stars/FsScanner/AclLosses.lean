import Stars.FsScanner.Acl
import Stars.PermissionEngine.LogonRefusal

namespace Stars
namespace FsScanner

open EffectivePermission PermissionEngine

/-!
# What is lost while a descriptor is read

Each index of an access list leaves exactly one trace: an entry that says the
same, or an entry that could not be evaluated.  So a list without such entries
has been carried over entry by entry, and a list with one marks every result of
the object as not determinable.

The owner has no trace of its own.  An owner that cannot be converted is lost
unless the list happens to record a failure as well.
-/

/-- The entry an index leaves. -/
def entryAt (calls : Win32Calls) (indexed : RawAce × Nat) : Option AceEntry :=
  (readAce calls ([], []) indexed).1.head?

/-- The entry that could not be evaluated, of an index without an entry. -/
def lossAt (calls : Win32Calls) (indexed : RawAce × Nat) : Option UnsupportedAce :=
  (readAce calls ([], []) indexed).2.head?

variable {calls : Win32Calls}

theorem readAce_eq (read : List AceEntry × List UnsupportedAce) (indexed : RawAce × Nat) :
    readAce calls read indexed =
      (read.1 ++ (entryAt calls indexed).toList, read.2 ++ (lossAt calls indexed).toList) := by
  rw [entryAt, lossAt, readAce, readAce]
  cases calls.ace indexed.2 with
  | false => simp
  | true =>
      cases parseAce (calls.trusteeConverted indexed.2) indexed.1 with
      | entry ace => simp
      | unsupported ace => simp
      | sidUnreadable ace => simp

theorem foldl_readAce (indexed : List (RawAce × Nat)) :
    ∀ read : List AceEntry × List UnsupportedAce,
      indexed.foldl (readAce calls) read =
        (read.1 ++ indexed.filterMap (entryAt calls), read.2 ++ indexed.filterMap (lossAt calls)) := by
  induction indexed with
  | nil =>
      intro read
      simp
  | cons first rest known =>
      intro read
      rw [List.foldl_cons, known, readAce_eq]
      cases entry : entryAt calls first with
      | none =>
          cases loss : lossAt calls first with
          | none => simp [entry, loss]
          | some lost => simp [entry, loss]
      | some ace =>
          cases loss : lossAt calls first with
          | none => simp [entry, loss]
          | some lost => simp [entry, loss]

/-- The inheritance bits are kept, only in three fields. -/
theorem flags_kept (flags : BitVec 8) :
    (splitAceFlags flags).1 ||| (splitAceFlags flags).2 |||
      (if flags &&& inheritedAce ≠ 0#8 then 0x10#32 else 0#32) =
        (flags &&& 0x1F#8).setWidth 32 := by
  revert flags
  decide

theorem saysSame_of_kind {kind : AceKind} {ace : RawAce} {entry : AceEntry}
    (effect : match kind with
      | .allow => ace.aceType = accessAllowedAceType
      | .deny => ace.aceType = accessDeniedAceType)
    (parsed : parseEvaluatedAce kind true ace = .entry entry) : SaysSame ace entry := by
  cases parsed
  exact ⟨effect, rfl, rfl, by simpa using flags_kept ace.flags⟩

/-- An entry of another type, or one whose trustee cannot be converted, is kept
as one that could not be evaluated. -/
theorem parseAce_of_lost {converted : Bool} {ace : RawAce}
    (lost : (ace.aceType ≠ accessAllowedAceType ∧ ace.aceType ≠ accessDeniedAceType) ∨
      converted = false) :
    ∃ loss, parseAce converted ace = .unsupported loss ∨
      parseAce converted ace = .sidUnreadable loss := by
  rw [parseAce]
  rcases lost with ⟨notAllow, notDeny⟩ | unconverted
  · rw [if_neg notAllow, if_neg notDeny]
    exact ⟨_, Or.inl rfl⟩
  · rw [unconverted]
    by_cases allowed : ace.aceType = accessAllowedAceType
    · rw [if_pos allowed]
      exact ⟨_, Or.inr rfl⟩
    · rw [if_neg allowed]
      by_cases denied : ace.aceType = accessDeniedAceType
      · rw [if_pos denied]
        exact ⟨_, Or.inr rfl⟩
      · rw [if_neg denied]
        exact ⟨_, Or.inl rfl⟩

/-- An index that is not lost leaves an entry that says the same. -/
theorem entryAt_of_kept {indexed : RawAce × Nat} (kept : ¬Lost calls indexed) :
    (∃ entry, entryAt calls indexed = some entry ∧ SaysSame indexed.1 entry) ∧
      lossAt calls indexed = none := by
  rw [Lost] at kept
  simp only [not_or, not_and_or, not_not, Bool.not_eq_false] at kept
  rcases kept with ⟨retrieved, evaluated, converted⟩
  rw [entryAt, lossAt, readAce, if_pos retrieved, converted, parseAce]
  by_cases allowed : indexed.1.aceType = accessAllowedAceType
  · rw [if_pos allowed]
    exact ⟨⟨_, rfl, @saysSame_of_kind .allow indexed.1 _ allowed rfl⟩, rfl⟩
  · have denied : indexed.1.aceType = accessDeniedAceType := evaluated.resolve_left allowed
    rw [if_neg allowed, if_pos denied]
    exact ⟨⟨_, rfl, @saysSame_of_kind .deny indexed.1 _ denied rfl⟩, rfl⟩

/-- A lost index leaves an entry that could not be evaluated. -/
theorem lossAt_of_lost {indexed : RawAce × Nat} (lost : Lost calls indexed) :
    ∃ loss, lossAt calls indexed = some loss := by
  rw [lossAt, readAce]
  cases retrieved : calls.ace indexed.2 with
  | false => exact ⟨_, rfl⟩
  | true =>
      rw [if_pos rfl]
      have other := lost.resolve_left (fun missing => Bool.noConfusion (missing.symm.trans retrieved))
      rcases parseAce_of_lost other with ⟨loss, unsupported | unreadable⟩
      · rw [unsupported]
        exact ⟨loss, rfl⟩
      · rw [unreadable]
        exact ⟨loss, rfl⟩

theorem losses_eq_nil_iff (indexed : List (RawAce × Nat)) :
    indexed.filterMap (lossAt calls) = [] ↔ ∀ place ∈ indexed, ¬Lost calls place := by
  rw [List.filterMap_eq_nil_iff]
  constructor
  · intro nothing place member lost
    rcases lossAt_of_lost lost with ⟨loss, found⟩
    rw [nothing place member] at found
    cases found
  · intro kept place member
    exact (entryAt_of_kept (kept place member)).2

/-- Without losses the entries are those of the list, one by one. -/
theorem entries_of_kept {indexed : List (RawAce × Nat)}
    (kept : ∀ place ∈ indexed, ¬Lost calls place) :
    List.Forall₂ SaysSame (indexed.map Prod.fst) (indexed.filterMap (entryAt calls)) := by
  induction indexed with
  | nil => exact .nil
  | cons first rest known =>
      rcases (entryAt_of_kept (kept first List.mem_cons_self)).1 with ⟨entry, found, same⟩
      rw [List.map_cons, List.filterMap_cons_some found]
      exact .cons same (known (fun place member => kept place (List.mem_cons_of_mem _ member)))

/-- The reading of a list records a failure. -/
def RecordsLoss (calls : Win32Calls) (dacl : List RawAce) : Prop :=
  calls.aclInformation = false ∨ ∃ indexed ∈ dacl.zipIdx, Lost calls indexed

theorem parseDacl_losses (dacl : List RawAce) :
    (parseDacl calls dacl).2 ≠ [] ↔ RecordsLoss calls dacl := by
  rw [parseDacl, RecordsLoss]
  cases calls.aclInformation with
  | false => exact ⟨fun _ => Or.inl rfl, fun _ => List.cons_ne_nil _ _⟩
  | true =>
      rw [if_pos rfl, foldl_readAce]
      dsimp only
      rw [List.nil_append, ne_eq, losses_eq_nil_iff]
      push Not
      exact (or_iff_right (by decide)).symm

/-- A list read without a recorded failure is carried over entry by entry. -/
theorem parseDacl_entries {dacl : List RawAce} (unrecorded : ¬RecordsLoss calls dacl) :
    List.Forall₂ SaysSame dacl (parseDacl calls dacl).1 := by
  rw [RecordsLoss] at unrecorded
  push Not at unrecorded
  have known : calls.aclInformation = true := Bool.not_eq_false _ ▸ unrecorded.1
  rw [parseDacl, if_pos known, foldl_readAce]
  dsimp only
  have entries := entries_of_kept unrecorded.2
  rwa [List.zipIdx_map_fst] at entries

/-- The marker of the entries that could not be evaluated stays in the result. -/
theorem unsupportedNtfsAces_mem (input : PermissionEvaluationInput)
    (present : input.fileSystemObject.unsupportedAces ≠ []) :
    .unsupportedNtfsAces input.fileSystemObject.unsupportedAces.length ∈
      (evaluate input).diagnostics := by
  have counted : decide (input.fileSystemObject.unsupportedAces.length > 0) = true :=
    decide_eq_true (List.length_pos_iff.mpr present)
  have settled : .unsupportedNtfsAces input.fileSystemObject.unsupportedAces.length ∈
      (settleLogon input.draft).diagnostics := by
    rw [settleLogon_draft_diagnostics, frontMarkers, PermissionEvaluationInput.daclMarkers]
    simp only [List.mem_append, mem_markerIf, counted, true_and, true_or, or_true]
  rw [evaluate]
  split
  · exact settled
  · exact List.mem_append_left _ settled

/-- Results of the object are marked as not determinable. -/
structure NotDeterminable (object : FileSystemObject) (result : EffectivePermission) : Prop where
  marked : .unsupportedNtfsAces object.unsupportedAces.length ∈ result.diagnostics
  ntfs : result.ntfsDeterminable = false
  effective : result.effectiveDeterminable = false

theorem notDeterminable_of_unsupported {object : FileSystemObject}
    (present : object.unsupportedAces ≠ []) {input : PermissionEvaluationInput}
    (same : input.fileSystemObject = object) : NotDeterminable object (evaluate input) := by
  rw [← same] at present ⊢
  have member := unsupportedNtfsAces_mem input present
  have opened : OpenIn (evaluate input) (fun layer => layer = .ntfs) :=
    Or.inr ⟨_, member, .ntfs, rfl, rfl⟩
  rcases (exists_listed_iff (evaluate input) .ntfs).mpr opened with ⟨entry, listed, layer⟩
  refine ⟨member, ?_, ?_⟩
  · rw [ntfsDeterminable, Bool.not_eq_false', uncertainIn, List.any_eq_true]
    exact ⟨entry, listed, by rw [layer]; rfl⟩
  · rw [effectiveDeterminable, List.isEmpty_eq_false_iff]
    exact List.ne_nil_of_mem listed

/-- The object carries exactly what the descriptor holds. -/
structure CarriesDescriptor (descriptor : SecurityDescriptor) (object : FileSystemObject) :
    Prop where
  owner : object.ownerSid = descriptor.owner
  nullDacl : object.nullDacl = true ↔ descriptor.dacl = none
  dacl : List.Forall₂ SaysSame (descriptor.dacl.getD []) object.dacl

/-- Nothing is lost silently: the object carries the descriptor, or it carries an
entry that could not be evaluated and every result is marked. -/
def LosesNothingSilently (descriptor : SecurityDescriptor) (object : FileSystemObject) : Prop :=
  CarriesDescriptor descriptor object ∨
    object.unsupportedAces ≠ [] ∧
      ∀ input : PermissionEvaluationInput, input.fileSystemObject = object →
        NotDeterminable object (evaluate input)

/-- The object of a path whose attributes and descriptor were read. -/
def objectRead (path : String) (attributes : BitVec 32) (linkTarget : Option LinkInfo)
    (descriptor : SecurityDescriptor) (calls : Win32Calls) : Except CoreError FileSystemObject :=
  readFileSystemObject path ⟨.ok attributes, .ok (descriptor, calls), linkTarget⟩

/-- The owner is absent or can be converted. -/
def OwnerRead (descriptor : SecurityDescriptor) (calls : Win32Calls) : Prop :=
  descriptor.owner = none ∨ calls.ownerConverted = true

theorem parseSecurity_owner (descriptor : SecurityDescriptor) :
    (parseSecurity calls descriptor).ownerSid = descriptor.owner ↔ OwnerRead descriptor calls := by
  rw [parseSecurity, OwnerRead]
  cases descriptor.owner with
  | none => simp
  | some owner =>
      cases calls.ownerConverted with
      | false => simp
      | true => simp

theorem parseSecurity_unsupported (descriptor : SecurityDescriptor) :
    (parseSecurity calls descriptor).unsupportedAces ≠ [] ↔
      ∃ aces, descriptor.dacl = some aces ∧ RecordsLoss calls aces := by
  rw [parseSecurity]
  cases descriptor.dacl with
  | none => simp
  | some aces =>
      refine (parseDacl_losses aces).trans ?_
      simp

theorem parseSecurity_dacl {descriptor : SecurityDescriptor}
    (unrecorded : ¬∃ aces, descriptor.dacl = some aces ∧ RecordsLoss calls aces) :
    ((parseSecurity calls descriptor).nullDacl = true ↔ descriptor.dacl = none) ∧
      List.Forall₂ SaysSame (descriptor.dacl.getD []) (parseSecurity calls descriptor).dacl := by
  rw [parseSecurity]
  cases present : descriptor.dacl with
  | none => exact ⟨by simp, .nil⟩
  | some aces =>
      refine ⟨by simp, ?_⟩
      exact parseDacl_entries (fun recorded => unrecorded ⟨aces, present, recorded⟩)

/-- Reading a descriptor loses nothing silently exactly when its owner is absent
or can be converted, or the reading of its access list records a failure: the
list cannot be read, or one of its entries cannot be retrieved, is of a type that
is not evaluated, or names a trustee that cannot be converted. -/
theorem losesNothingSilently_iff (path : String) (attributes : BitVec 32)
    (linkTarget : Option LinkInfo) (descriptor : SecurityDescriptor) (calls : Win32Calls) :
    ∃ object, objectRead path attributes linkTarget descriptor calls = .ok object ∧
      (LosesNothingSilently descriptor object ↔
        OwnerRead descriptor calls ∨
          ∃ aces, descriptor.dacl = some aces ∧ RecordsLoss calls aces) := by
  refine ⟨_, rfl, ?_⟩
  by_cases recorded : ∃ aces, descriptor.dacl = some aces ∧ RecordsLoss calls aces
  · refine iff_of_true (Or.inr ?_) (Or.inr recorded)
    have present := (parseSecurity_unsupported descriptor).mpr recorded
    exact ⟨present, fun _ same => notDeterminable_of_unsupported present same⟩
  · have unsupported := (parseSecurity_unsupported descriptor).not.mpr recorded
    have list := parseSecurity_dacl recorded
    rw [or_iff_left recorded, ← parseSecurity_owner]
    constructor
    · rintro (carries | marked)
      · exact carries.owner
      · exact absurd marked.1 unsupported
    · exact fun owner => Or.inl ⟨owner, list.1, list.2⟩

/-! ## An owner that is only logged -/

/-- A descriptor with an owner and an empty list. -/
def ownedDescriptor : SecurityDescriptor where
  owner := some ⟨"S-1-5-21-1-2-3-1105"⟩
  dacl := some []
  control := 0#16

/-- Every call succeeds but the conversion of the owner. -/
def ownerUnconverted : Win32Calls where
  ownerConverted := false
  aclInformation := true
  ace := fun _ => true
  trusteeConverted := fun _ => true
  descriptorControl := true

/-- The object the scanner returns for it. -/
def ownerlessObject : FileSystemObject where
  path := "D:\\Data"
  ownerSid := none
  dacl := []

def ownerAsked : PermissionEvaluationInput where
  identity := { sid := ⟨"S-1-5-21-1-2-3-1105"⟩ }
  fileSystemObject := ownerlessObject

/-- The owner is lost without a trace, and the result for the owner is an exact
No access although the owner may read and change the access list. -/
theorem unconvertedOwner_lost :
    objectRead "D:\\Data" fileAttributeDirectory none ownedDescriptor ownerUnconverted =
        .ok ownerlessObject ∧
      ¬LosesNothingSilently ownedDescriptor ownerlessObject ∧
      (evaluate ownerAsked).effectiveMask = 0#32 ∧
      (evaluate ownerAsked).effectiveDeterminable = true ∧
      (evaluate { ownerAsked with
        fileSystemObject := { ownerlessObject with ownerSid := ownedDescriptor.owner } }).effectiveMask =
          0x60000#32 := by
  refine ⟨by rfl, ?_, by decide, by decide, by decide⟩
  rintro (carries | marked)
  · cases carries.owner
  · exact marked.1 rfl

end FsScanner
end Stars
