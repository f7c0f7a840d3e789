import Stars.FsScanner.AclLosses

namespace Stars
namespace FsScanner

open PermissionEngine

/-!
# The access check on a descriptor as it lies in memory

The reference access check reads the entries of the model.  Here it is stated for the entries
of a descriptor, before anything has been parsed, so that a result can be compared with what
the server itself would decide.  `rawAllowedBy_eq` carries one check over to the other along
entries that were read.
-/

namespace RawAce

/-- An inherit-only entry applies to children and not to this object. -/
def applies (ace : RawAce) : Bool := ace.flags &&& inheritOnlyAce == 0#8

def allows (ace : RawAce) : Bool := ace.aceType = accessAllowedAceType

/-- The entry is of one of the two types of the check. -/
def evaluated (ace : RawAce) : Bool := ace.allows || ace.aceType = accessDeniedAceType

/-- A deny-only SID of the token matches Deny entries only. -/
def matchesToken (ace : RawAce) (token : LogonToken) : Bool :=
  ace.trustee ∈ token.enabled ∨
    (ace.aceType = accessDeniedAceType ∧ ace.trustee ∈ token.denyOnly)

/-- The entry names OWNER RIGHTS for this object. -/
def namesOwnerRights (ace : RawAce) : Bool :=
  ace.evaluated && ace.applies && ace.trustee = sidOwnerRights

end RawAce

/-- The first entry in stored order that applies, matches and holds the right. -/
def rawDecidingAce (token : LogonToken) (aces : List RawAce) (bit : Nat) : Option RawAce :=
  aces.find? (fun ace => ace.evaluated && ace.applies && ace.matchesToken token &&
    (expandGenericRights ace.mask).getLsbD bit)

def rawAllowedBy (token : LogonToken) (aces : List RawAce) (bit : Nat) : Bool :=
  (rawDecidingAce token aces bit).any RawAce.allows

/-- What the check grants to a token on an object: everything without a list; to an owner as
OWNER RIGHTS too, with the owner grant where no entry names OWNER RIGHTS. -/
def SecurityDescriptor.grants (descriptor : SecurityDescriptor) (token : LogonToken) (bit : Nat) :
    Bool :=
  match descriptor.dacl with
  | none => maskFullControl.getLsbD bit
  | some aces =>
      if descriptor.owner.any (fun owner => owner ∈ token.enabled) then
        rawAllowedBy token.withOwnerRights aces bit ||
          (!aces.any RawAce.namesOwnerRights && ownerGrant.getLsbD bit)
      else rawAllowedBy token aces bit

/-- An entry with the effect, the trustee and the rights of a descriptor's entry, that applies
to the same objects. -/
structure Reads (ace : RawAce) (entry : AceEntry) : Prop where
  kind : match entry.kind with
    | .allow => ace.aceType = accessAllowedAceType
    | .deny => ace.aceType = accessDeniedAceType
  trustee : entry.sid = ace.trustee
  mask : entry.mask = ace.mask
  applies : aceAppliesToCurrentObject entry = ace.applies

variable {aces : List RawAce} {dacl : List AceEntry}

theorem Reads.evaluated {ace : RawAce} {entry : AceEntry} (reads : Reads ace entry) :
    ace.evaluated = true := by
  have kind := reads.kind
  rw [RawAce.evaluated, RawAce.allows, Bool.or_eq_true, decide_eq_true_iff, decide_eq_true_iff]
  cases effect : entry.kind with
  | allow =>
      rw [effect] at kind
      exact .inl kind
  | deny =>
      rw [effect] at kind
      exact .inr kind

theorem Reads.allows {ace : RawAce} {entry : AceEntry} (reads : Reads ace entry) :
    ace.allows = aceAllows entry := by
  have kind := reads.kind
  rw [RawAce.allows, aceAllows]
  cases effect : entry.kind with
  | allow =>
      rw [effect] at kind
      rw [kind]
      rfl
  | deny =>
      rw [effect] at kind
      rw [kind]
      rfl

theorem Reads.matchesToken {ace : RawAce} {entry : AceEntry} (reads : Reads ace entry)
    (token : LogonToken) : ace.matchesToken token = token.matchesAce entry := by
  have kind := reads.kind
  rw [RawAce.matchesToken, LogonToken.matchesAce, reads.trustee]
  cases effect : entry.kind with
  | allow =>
      rw [effect] at kind
      simp [kind, accessAllowedAceType, accessDeniedAceType]
  | deny =>
      rw [effect] at kind
      simp [kind]

/-- The check on a descriptor's entries is the check on the entries read from it. -/
theorem rawAllowedBy_eq (reads : List.Forall₂ Reads aces dacl) (token : LogonToken) (bit : Nat) :
    rawAllowedBy token aces bit = allowedBy token.matchesAce dacl bit := by
  rw [rawAllowedBy, rawDecidingAce, allowedBy, decidingAce]
  induction reads with
  | nil => rfl
  | cons head _ known =>
      rw [List.find?_cons, List.find?_cons, head.evaluated, Bool.true_and, ← head.applies,
        head.matchesToken, head.mask]
      split
      · rw [Option.any_some, Option.any_some, head.allows]
      · exact known

theorem any_namesOwnerRights (reads : List.Forall₂ Reads aces dacl) :
    aces.any RawAce.namesOwnerRights = ownerRightsAce dacl := by
  rw [ownerRightsAce]
  induction reads with
  | nil => rfl
  | cons head _ known =>
      rw [List.any_cons, List.any_cons, known, RawAce.namesOwnerRights, head.evaluated,
        Bool.true_and, ← head.applies, head.trustee, Bool.and_comm]

/-! ## The list of a file -/

section Parsed

variable {calls : Win32Calls}

theorem applies_of_flags (flags : BitVec 8) :
    ((splitAceFlags flags).2 &&& PermissionEngine.inheritOnlyAce == 0#32) =
      (flags &&& inheritOnlyAce == 0#8) := by
  revert flags
  decide

/-- An index that is not lost leaves an entry that was read. -/
theorem entryAt_reads {indexed : RawAce × Nat} (kept : ¬Lost calls indexed) :
    ∃ entry, entryAt calls indexed = some entry ∧ Reads indexed.1 entry := by
  rcases (entryAt_of_kept kept).1 with ⟨entry, found, same⟩
  refine ⟨entry, found, same.kind, same.trustee, same.mask, ?_⟩
  have flags : entry.propagationFlags = (splitAceFlags indexed.1.flags).2 := by
    rw [entryAt, readAce] at found
    split at found
    · split at found
      · next parsed =>
          cases found
          rw [parseAce] at parsed
          split at parsed
          · rw [parseEvaluatedAce] at parsed
            split at parsed
            · cases parsed
              rfl
            · cases parsed
          · split at parsed
            · rw [parseEvaluatedAce] at parsed
              split at parsed
              · cases parsed
                rfl
              · cases parsed
            · cases parsed
      · cases found
      · cases found
    · cases found
  rw [aceAppliesToCurrentObject, flags, applies_of_flags]
  rfl

theorem parseDacl_reads {dacl : List RawAce} (unrecorded : ¬RecordsLoss calls dacl) :
    List.Forall₂ Reads dacl (parseDacl calls dacl).1 := by
  rw [RecordsLoss] at unrecorded
  push Not at unrecorded
  have known : calls.aclInformation = true := Bool.not_eq_false _ ▸ unrecorded.1
  rw [parseDacl, if_pos known, foldl_readAce]
  dsimp only
  rw [List.nil_append]
  have indices : ∀ indexed : List (RawAce × Nat), (∀ place ∈ indexed, ¬Lost calls place) →
      List.Forall₂ Reads (indexed.map Prod.fst) (indexed.filterMap (entryAt calls)) := by
    intro indexed kept
    induction indexed with
    | nil => exact .nil
    | cons first rest further =>
        rcases entryAt_reads (kept first List.mem_cons_self) with ⟨entry, found, reads⟩
        rw [List.map_cons, List.filterMap_cons_some found]
        exact .cons reads (further (fun place member => kept place (List.mem_cons_of_mem _ member)))
  have entries := indices dacl.zipIdx unrecorded.2
  rwa [List.zipIdx_map_fst] at entries

end Parsed

/-- The object holds what the check reads: the owner, whether there is a list, and its
entries. -/
structure HoldsDescriptor (descriptor : SecurityDescriptor) (object : FileSystemObject) : Prop where
  owner : object.ownerSid = descriptor.owner
  nullDacl : object.nullDacl = true ↔ descriptor.dacl = none
  dacl : ∀ aces, descriptor.dacl = some aces → List.Forall₂ Reads aces object.dacl

/-- The object of a path carries what was parsed. -/
theorem objectRead_fields {path : String} {attributes : BitVec 32} {linkTarget : Option LinkInfo}
    {descriptor : SecurityDescriptor} {calls : Win32Calls} {object : FileSystemObject}
    (read : objectRead path attributes linkTarget descriptor calls = .ok object) :
    object.ownerSid = (parseSecurity calls descriptor).ownerSid ∧
      object.dacl = (parseSecurity calls descriptor).dacl ∧
      object.unsupportedAces = (parseSecurity calls descriptor).unsupportedAces ∧
      object.nullDacl = (parseSecurity calls descriptor).nullDacl := by
  rw [← Except.ok.inj read]
  exact ⟨rfl, rfl, rfl, rfl⟩

/-- A descriptor read without a recorded failure and with its owner is held. -/
theorem holdsDescriptor_of_read {path : String} {attributes : BitVec 32}
    {linkTarget : Option LinkInfo} {descriptor : SecurityDescriptor} {calls : Win32Calls}
    {object : FileSystemObject}
    (read : objectRead path attributes linkTarget descriptor calls = .ok object)
    (owner : OwnerRead descriptor calls) (unsupported : object.unsupportedAces = []) :
    HoldsDescriptor descriptor object := by
  rcases objectRead_fields read with ⟨sameOwner, sameDacl, sameUnsupported, sameNull⟩
  rw [sameUnsupported] at unsupported
  have unrecorded : ¬∃ aces, descriptor.dacl = some aces ∧ RecordsLoss calls aces :=
    fun recorded => (parseSecurity_unsupported descriptor).mpr recorded unsupported
  refine ⟨sameOwner.trans ((parseSecurity_owner descriptor).mpr owner), ?_, ?_⟩
  · rw [sameNull]
    exact (parseSecurity_dacl unrecorded).1
  · intro aces present
    have entries : List.Forall₂ Reads aces (parseDacl calls aces).1 :=
      parseDacl_reads (fun recorded => unrecorded ⟨aces, present, recorded⟩)
    rw [sameDacl, parseSecurity, present]
    exact entries

end FsScanner
end Stars
