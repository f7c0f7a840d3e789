import Stars.FsScanner.AclLosses
import Stars.ShareScanner.ShareWalk

namespace Stars
namespace ShareScanner

open FsScanner

/-!
# Reading the access list of a share

A share without a descriptor and a share whose descriptor has no list are two
things: the first is not known, the second restricts nobody.  An entry that cannot be
retrieved, is of another type, or names a trustee that cannot be converted is left
out of the list and counted.

Unlike the list of a file, a share list that cannot be read at all is an error.
-/

/-- The part of a share's descriptor that is read. -/
structure ShareDescriptor where
  present : Bool
  dacl : Option (List RawAce)

/-- What the calls for one share return: an error status or the information of the share,
in which the descriptor may be missing; and the outcomes of the calls that read it. -/
structure ShareReading where
  information : Except Nat (Option (Option ShareDescriptor))
  securityDescriptorDacl : Except Nat Unit
  aclInformation : Except Nat Unit
  ace : Nat → Bool
  trusteeConverted : Nat → Bool

inductive DaclClassification where
  | null
  | empty
  | normal
deriving DecidableEq

def classifyDacl (present ptrIsNull : Bool) (aceCount : Nat) : DaclClassification :=
  if !present || ptrIsNull then .null
  else if aceCount = 0 then .empty
  else .normal

namespace ShareReading

variable (reading : ShareReading) (shareName : String)

/-- The effect of an entry of one of the two evaluated types. -/
def evaluatedKind (ace : RawAce) : Option AceKind :=
  if ace.aceType = accessAllowedAceType then some .allow
  else if ace.aceType = accessDeniedAceType then some .deny
  else none

/-- The permission an index yields, if it yields one. -/
def permissionAt (indexed : RawAce × Nat) : Option SharePermission :=
  if reading.ace indexed.2 then
    (evaluatedKind indexed.1).bind (fun kind =>
      if reading.trusteeConverted indexed.2 then
        some
          { shareName := shareName
            sid := indexed.1.trustee
            mask := indexed.1.mask
            kind := kind }
      else none)
  else none

/-- One index of the list: its permission, or one more that is not supported. -/
def readAce (read : List SharePermission × Nat) (indexed : RawAce × Nat) :
    List SharePermission × Nat :=
  match reading.permissionAt shareName indexed with
  | some permission => (read.1 ++ [permission], read.2)
  | none => (read.1, read.2 + 1)

/-- The permissions of a list with the number of the entries left out; nothing for a list
that restricts nobody. -/
def parseShareDacl (descriptor : ShareDescriptor) :
    Except CoreError (Option (List SharePermission × Nat)) := do
  reading.securityDescriptorDacl.mapError (fun code =>
    CoreError.shareEnumeration
      s!"GetSecurityDescriptorDacl failed for '{shareName}': error {code}")
  let aces := descriptor.dacl.getD []
  -- the list is asked for its length only where there is one
  if descriptor.dacl.isSome then
    reading.aclInformation.mapError (fun code =>
      CoreError.shareEnumeration s!"GetAclInformation failed for '{shareName}': error {code}")
  match classifyDacl descriptor.present descriptor.dacl.isNone aces.length with
  | .null => return none
  | .empty => return some ([], 0)
  | .normal => return some (aces.zipIdx.foldl (reading.readAce shareName) ([], 0))

def getShareDacl (server : String) : Except CoreError ShareDaclScan := do
  let information ← reading.information.mapError (fun status =>
    CoreError.shareEnumeration s!"NetShareGetInfo({server}, {shareName}) failed: status {status}")
  match information.join with
  | none => return { dacl := .noSecurityDescriptor, unsupportedCount := 0 }
  | some descriptor =>
      match ← reading.parseShareDacl shareName descriptor with
      | none => return { dacl := .nullDacl, unsupportedCount := 0 }
      | some (permissions, unsupported) =>
          return { dacl := .acl permissions, unsupportedCount := unsupported }

/-- An index is lost when its entry cannot be retrieved, is of another type, or names a
trustee that cannot be converted. -/
def Lost (indexed : RawAce × Nat) : Prop :=
  reading.ace indexed.2 = false ∨
    (indexed.1.aceType ≠ accessAllowedAceType ∧ indexed.1.aceType ≠ accessDeniedAceType) ∨
    reading.trusteeConverted indexed.2 = false

instance (indexed : RawAce × Nat) : Decidable (reading.Lost indexed) :=
  inferInstanceAs (Decidable (_ ∨ _))

/-- A permission that says what an entry of the list says. -/
structure SaysSame (ace : RawAce) (permission : SharePermission) : Prop where
  kind : match permission.kind with
    | .allow => ace.aceType = accessAllowedAceType
    | .deny => ace.aceType = accessDeniedAceType
  trustee : permission.sid = ace.trustee
  mask : permission.mask = ace.mask

variable {reading} {shareName}

theorem permissionAt_eq_none_iff (indexed : RawAce × Nat) :
    reading.permissionAt shareName indexed = none ↔ reading.Lost indexed := by
  unfold permissionAt Lost evaluatedKind
  cases reading.ace indexed.2 with
  | false => simp
  | true =>
      by_cases allowed : indexed.1.aceType = accessAllowedAceType
      · simp [allowed]
      · by_cases denied : indexed.1.aceType = accessDeniedAceType
        · simp [denied, accessAllowedAceType, accessDeniedAceType]
        · simp [allowed, denied]

theorem permissionAt_same {indexed : RawAce × Nat} {permission : SharePermission}
    (found : reading.permissionAt shareName indexed = some permission) :
    SaysSame indexed.1 permission := by
  unfold permissionAt at found
  rw [Option.ite_none_right_eq_some] at found
  rcases Option.bind_eq_some_iff.mp found.2 with ⟨kind, evaluated, built⟩
  rw [Option.ite_none_right_eq_some] at built
  cases built.2
  refine ⟨?_, rfl, rfl⟩
  unfold evaluatedKind at evaluated
  split_ifs at evaluated with allowed denied
  · cases evaluated
    exact allowed
  · cases evaluated
    exact denied

theorem foldl_readAce (indexed : List (RawAce × Nat)) (read : List SharePermission × Nat) :
    indexed.foldl (reading.readAce shareName) read =
      (read.1 ++ indexed.filterMap (reading.permissionAt shareName),
        read.2 + indexed.countP (fun place => reading.Lost place)) := by
  induction indexed generalizing read with
  | nil => simp
  | cons first rest known =>
      have lost := @permissionAt_eq_none_iff reading shareName first
      rw [List.foldl_cons, known, readAce]
      cases found : reading.permissionAt shareName first with
      | none =>
          have counted : reading.Lost first := lost.mp found
          simp [found, counted, Nat.add_assoc, Nat.add_comm]
      | some permission =>
          have kept : ¬reading.Lost first := fun gone => by
            rw [lost.mpr gone] at found
            cases found
          simp [found, kept]

/-- A list keeps its length exactly when no entry is lost. -/
theorem permissions_length_iff (indexed : List (RawAce × Nat)) :
    (indexed.filterMap (reading.permissionAt shareName)).length = indexed.length ↔
      ∀ place ∈ indexed, ¬reading.Lost place := by
  rw [List.filterMap_length_eq_length]
  refine forall₂_congr (fun place _ => ?_)
  rw [← Option.ne_none_iff_isSome, ne_eq, permissionAt_eq_none_iff]

/-- Without losses the permissions are those of the list, one by one. -/
theorem permissions_of_kept {indexed : List (RawAce × Nat)}
    (kept : ∀ place ∈ indexed, ¬reading.Lost place) :
    List.Forall₂ SaysSame (indexed.map Prod.fst)
      (indexed.filterMap (reading.permissionAt shareName)) := by
  induction indexed with
  | nil => exact .nil
  | cons first rest further =>
      have head := (@permissionAt_eq_none_iff reading shareName first).not.mpr
        (kept first List.mem_cons_self)
      rcases Option.ne_none_iff_exists'.mp head with ⟨permission, found⟩
      rw [List.map_cons, List.filterMap_cons_some found]
      exact .cons (permissionAt_same found)
        (further (fun place listed => kept place (List.mem_cons_of_mem _ listed)))

end ShareReading

/-! ## The list a share is read for -/

/-- The access list that is read from a share. -/
def ListRead (reading : ShareReading) (aces : List RawAce) : Prop :=
  ∃ descriptor, reading.information = .ok (some (some descriptor)) ∧
    reading.securityDescriptorDacl = .ok () ∧ reading.aclInformation = .ok () ∧
    descriptor.present = true ∧ descriptor.dacl = some aces

section Lists

variable {reading : ShareReading} {server shareName : String}

/-- A list that is read is kept but for the entries it loses, and they are counted. -/
theorem getShareDacl_of_listRead {aces : List RawAce} (read : ListRead reading aces) :
    reading.getShareDacl shareName server =
      .ok ⟨.acl (aces.zipIdx.filterMap (reading.permissionAt shareName)),
        aces.zipIdx.countP (fun place => reading.Lost place)⟩ := by
  rcases read with ⟨descriptor, information, security, counted, present, dacl⟩
  have parsed : reading.parseShareDacl shareName descriptor =
      .ok (some (aces.zipIdx.filterMap (reading.permissionAt shareName),
        aces.zipIdx.countP (fun place => reading.Lost place))) := by
    unfold ShareReading.parseShareDacl
    rw [security, counted, present, dacl]
    cases aces with
    | nil => rfl
    | cons first rest =>
        have run := @ShareReading.foldl_readAce reading shareName (first :: rest).zipIdx ([], 0)
        rw [List.nil_append, Nat.zero_add] at run
        exact congrArg (fun read => Except.ok (some read)) run
  unfold ShareReading.getShareDacl
  rw [information]
  change (reading.parseShareDacl shareName descriptor >>= _) = _
  rw [parsed]
  rfl

/-- Only a list that is read is taken for one. -/
theorem listRead_of_getShareDacl {permissions : List SharePermission} {unsupported : Nat}
    (read : reading.getShareDacl shareName server = .ok ⟨.acl permissions, unsupported⟩) :
    ∃ aces, ListRead reading aces := by
  unfold ShareReading.getShareDacl at read
  cases information : reading.information with
  | error status =>
      rw [information] at read
      cases read
  | ok found =>
      rw [information] at read
      change (match found.join with | none => _ | some descriptor => _) = _ at read
      cases joined : found.join with
      | none =>
          rw [joined] at read
          cases read
      | some descriptor =>
          rw [joined] at read
          change (reading.parseShareDacl shareName descriptor >>= _) = _ at read
          have whole : reading.information = .ok (some (some descriptor)) := by
            rw [information, Option.join_eq_some_iff.mp joined]
          unfold ShareReading.parseShareDacl at read
          cases security : reading.securityDescriptorDacl with
          | error code =>
              rw [security] at read
              cases read
          | ok _ =>
              rw [security] at read
              cases dacl : descriptor.dacl with
              | none =>
                  rw [dacl] at read
                  cases present : descriptor.present with
                  | false =>
                      rw [present] at read
                      cases read
                  | true =>
                      rw [present] at read
                      cases read
              | some aces =>
                  rw [dacl] at read
                  cases counted : reading.aclInformation with
                  | error code =>
                      rw [counted] at read
                      cases read
                  | ok _ =>
                      rw [counted] at read
                      cases present : descriptor.present with
                      | false =>
                          rw [present] at read
                          cases read
                      | true => exact ⟨aces, descriptor, whole, security, counted, present, dacl⟩

end Lists

end ShareScanner
end Stars
