import Stars.AdResolver.BinarySid
import Stars.AdResolver.SelectiveAuth
import Stars.Bytes.Checked
import Stars.Collections.Fallible

namespace Stars
namespace AdResolver

open Bytes Collections

/-!
# The bytes of a security descriptor

The parser of the access list follows offsets and sizes that the descriptor
states itself.  The checked parser performs each of its sums and reads in the
open: no descriptor stops it, and it does what the parser does.  On a well-formed
descriptor the parser returns the entries that were encoded, and a descriptor
that is cut off anywhere in an access list at its end is an error.
-/

/-- A machine word of the build targets has 64 bits. -/
def usizeBound : Nat := 2 ^ 64

def checkedU16At (bytes : List UInt8) (offset : Nat) : Checked String (Option Nat) := do
  let _ ← addOffset usizeBound offset 2
  pure (u16At bytes offset)

def checkedU32At (bytes : List UInt8) (offset : Nat) : Checked String (Option Nat) := do
  let _ ← addOffset usizeBound offset 4
  pure (u32At bytes offset)

/-- The texts of the sub-authorities from a number on, `left` of them. -/
def checkedSubAuthorities (bytes : List UInt8) : (number left : Nat) → Checked CoreError String
  | _, 0 => pure ""
  | number, left + 1 => do
      let scaled ← mulOffset usizeBound number 4
      let offset ← addOffset usizeBound 8 scaled
      let first ← index bytes offset
      let second ← index bytes (← addOffset usizeBound offset 1)
      let third ← index bytes (← addOffset usizeBound offset 2)
      let fourth ← index bytes (← addOffset usizeBound offset 3)
      let rest ← checkedSubAuthorities bytes (number + 1) left
      pure ("-" ++ toString (littleEndian [first, second, third, fourth]) ++ rest)

def checkedBytesToSidStr (bytes : List UInt8) : Checked CoreError String :=
  if bytes.length < 8 then throw (.sidResolution "SID byte sequence too short")
  else do
    let revision ← index bytes 0
    let subAuthorityCount ← index bytes 1
    let numbers ← mulOffset usizeBound subAuthorityCount.toNat 4
    let expectedLen ← addOffset usizeBound 8 numbers
    let length := bytes.length
    if length < expectedLen then
      throw (.sidResolution s!"SID data incomplete: expected {expectedLen} bytes, got {length}")
    else
      let authority ← range bytes 2 8
      let rest ← checkedSubAuthorities bytes 0 subAuthorityCount.toNat
      pure (s!"S-{revision.toNat}-{bigEndian authority}" ++ rest)

def checkedSidAt (bytes : List UInt8) (offset entryEnd : Nat) : Checked String Sid := do
  let second ← addOffset usizeBound offset 1
  let count ← settled (orError (byteAt bytes second) "SID truncated")
  if count > 15 then throw s!"SID with {count} sub-authorities"
  else
    let numbers ← mulOffset usizeBound 4 count
    let length ← addOffset usizeBound 8 numbers
    let sidEnd ← addOffset usizeBound offset length
    if sidEnd > entryEnd then throw "SID runs past its ACE"
    else
      let piece ← range bytes offset sidEnd
      let text ← ExceptT.adapt CoreError.display (checkedBytesToSidStr piece)
      pure ⟨text⟩

def checkedParseAce (descriptor : List UInt8) (index offset entryEnd kind flags : Nat) :
    Checked String (List Ace) := do
  let truncated := s!"ACE {index} truncated"
  let inheritOnly := flagSet flags 0x08
  let named : String → String := fun reason => s!"ACE {index}: {reason}"
  if kind = 0x00 ∨ kind = 0x01 then
    let mask ← settled
      (orError (← checkedU32At descriptor (← addOffset usizeBound offset 4)) truncated)
    let sid ← ExceptT.adapt named
      (checkedSidAt descriptor (← addOffset usizeBound offset 8) entryEnd)
    pure [{ allow := kind = 0x00, sid := sid, covers := controlAccess mask,
            inheritOnly := inheritOnly }]
  else if kind = 0x05 ∨ kind = 0x06 then
    let mask ← settled
      (orError (← checkedU32At descriptor (← addOffset usizeBound offset 4)) truncated)
    let objectFlags ← settled
      (orError (← checkedU32At descriptor (← addOffset usizeBound offset 8)) truncated)
    let place ← addOffset usizeBound offset 12
    let (objectType, sidOffset) ←
      if flagSet objectFlags 0x1 then do
        let after ← addOffset usizeBound place 16
        let guid ← settled (orError (slice descriptor place 16)
          s!"ACE {index}: object type truncated")
        pure (some guid, after)
      else pure (none, place)
    let sidOffset ←
      if flagSet objectFlags 0x2 then addOffset usizeBound sidOffset 16 else pure sidOffset
    let sid ← ExceptT.adapt named (checkedSidAt descriptor sidOffset entryEnd)
    pure [{ allow := kind = 0x05, sid := sid,
            covers := controlAccess mask &&
              objectType.all (fun guid => guid == allowedToAuthenticateGuid),
            inheritOnly := inheritOnly }]
  else if kind = 0x02 ∨ kind = 0x03 ∨ kind = 0x07 ∨ kind = 0x11 then pure []
  else
    let shown := String.ofList [Text.hexDigit (kind / 16), Text.hexDigit (kind % 16)]
    throw (s!"ACE {index} has type 0x{shown} (callback / conditional), which Stars " ++
      "does not evaluate")

def checkedParseAces (descriptor : List UInt8) (aclEnd : Nat) :
    (remaining index offset : Nat) → Checked String (List Ace)
  | 0, _, _ => pure []
  | remaining + 1, index, offset => do
      let truncated := s!"ACE {index} truncated"
      let kind ← settled (orError (byteAt descriptor offset) truncated)
      let second ← addOffset usizeBound offset 1
      let flags ← settled (orError (byteAt descriptor second) truncated)
      let third ← addOffset usizeBound offset 2
      let size ← settled (orError (← checkedU16At descriptor third) truncated)
      let entryEnd ← addOffset usizeBound offset size
      if size < 8 ∨ entryEnd > aclEnd then throw s!"ACE {index} has an invalid size"
      else
        let entry ← checkedParseAce descriptor index offset entryEnd kind flags
        let rest ← checkedParseAces descriptor aclEnd remaining (index + 1) entryEnd
        pure (entry ++ rest)

def checkedParseDacl (descriptor : List UInt8) : Checked String (Option (List Ace)) :=
  let length := descriptor.length
  if length < 20 then throw s!"security descriptor of {length} bytes"
  else do
    let control ← settled (orError (← checkedU16At descriptor 2) "control unreadable")
    if !flagSet control 0x8000 then throw "security descriptor is not self-relative"
    else
      let daclAt ← settled (orError (← checkedU32At descriptor 16) "DACL offset unreadable")
      if !flagSet control 0x0004 ∨ daclAt = 0 then pure none
      else
        let sizeAt ← addOffset usizeBound daclAt 2
        let aclSize ← settled (orError (← checkedU16At descriptor sizeAt) "DACL header truncated")
        let countAt ← addOffset usizeBound daclAt 4
        let aceCount ← settled
          (orError (← checkedU16At descriptor countAt) "DACL header truncated")
        let aclEnd ← addOffset usizeBound daclAt aclSize
        if aclSize < 8 ∨ aclEnd > descriptor.length then
          throw "DACL size runs past the descriptor"
        else
          let first ← addOffset usizeBound daclAt 8
          let entries ← checkedParseAces descriptor aclEnd aceCount 0 first
          pure (some entries)

section Agreement

variable {bytes : List UInt8} {offset : Nat}

theorem u16At_lt {value : Nat} (read : u16At bytes offset = some value) : value < 2 ^ 16 := by
  rcases Option.map_eq_some_iff.mp read with ⟨field, held, rfl⟩
  have bound := littleEndian_lt field
  rwa [(slice_eq_some_iff.mp held).1] at bound

theorem u32At_lt {value : Nat} (read : u32At bytes offset = some value) : value < 2 ^ 32 := by
  rcases Option.map_eq_some_iff.mp read with ⟨field, held, rfl⟩
  have bound := littleEndian_lt field
  rwa [(slice_eq_some_iff.mp held).1] at bound

theorem orError_eq_ok_iff {Value : Type} {read : Option Value} {reason : String} {value : Value} :
    orError read reason = .ok value ↔ read = some value := by
  cases read <;> simp [orError]

theorem agrees_checkedU16At (fits : offset + 2 < usizeBound) :
    Agrees (checkedU16At bytes offset) (.ok (u16At bytes offset)) :=
  (agrees_addOffset fits).pass (agrees_pure _)

theorem agrees_checkedU32At (fits : offset + 4 < usizeBound) :
    Agrees (checkedU32At bytes offset) (.ok (u32At bytes offset)) :=
  (agrees_addOffset fits).pass (agrees_pure _)

/-- Four bytes of a buffer. -/
theorem take_four (inside : offset + 4 ≤ bytes.length) :
    (bytes.drop offset).take 4 =
      [bytes[offset], bytes[offset + 1], bytes[offset + 2], bytes[offset + 3]] := by
  rw [List.drop_eq_getElem_cons (by omega), List.drop_eq_getElem_cons (by omega),
    List.drop_eq_getElem_cons (by omega), List.drop_eq_getElem_cons (by omega)]
  rfl

theorem agrees_checkedSubAuthorities (left : Nat) : ∀ number : Nat,
    8 + 4 * (number + left) ≤ bytes.length → 8 + 4 * (number + left) < usizeBound →
      Agrees (checkedSubAuthorities bytes number left)
        (.ok (subAuthorities bytes (8 + number * 4) left)) := by
  induction left with
  | zero => exact fun _ _ _ => agrees_pure _
  | succ left ih =>
      intro number inside fits
      have following : 8 + (number + 1) * 4 = 8 + number * 4 + 4 := by omega
      have rest := ih (number + 1) (by omega) (by omega)
      rw [following] at rest
      rw [subAuthorities, take_four (by omega)]
      apply (agrees_mulOffset (by omega)).pass
      apply (agrees_addOffset (by omega)).pass
      apply (agrees_index (List.getElem?_eq_getElem (by omega))).pass
      apply (agrees_addOffset (by omega)).pass
      apply (agrees_index (List.getElem?_eq_getElem (by omega))).pass
      apply (agrees_addOffset (by omega)).pass
      apply (agrees_index (List.getElem?_eq_getElem (by omega))).pass
      apply (agrees_addOffset (by omega)).pass
      apply (agrees_index (List.getElem?_eq_getElem (by omega))).pass
      exact rest.pass (agrees_pure _)

theorem agrees_checkedBytesToSidStr (bytes : List UInt8) :
    Agrees (checkedBytesToSidStr bytes) (bytesToSidStr bytes) := by
  apply Agrees.ite
  · exact fun _ => agrees_throw _
  · intro long
    have first := List.getElem?_eq_getElem (l := bytes) (i := 0) (by omega)
    have second := List.getElem?_eq_getElem (l := bytes) (i := 1) (by omega)
    have below := bytes[1].toNat_lt
    simp only [byteAt, first, second, Option.map_some, Option.getD_some]
    apply (agrees_index first).pass
    apply (agrees_index second).pass
    apply (agrees_mulOffset (by unfold usizeBound; omega)).pass
    apply (agrees_addOffset (by unfold usizeBound; omega)).pass
    apply Agrees.ite
    · exact fun _ => agrees_throw _
    · intro complete
      apply (agrees_range (by decide) (by omega)).pass
      have numbers : Agrees (checkedSubAuthorities bytes 0 bytes[1].toNat)
          (.ok (subAuthorities bytes 8 bytes[1].toNat)) :=
        agrees_checkedSubAuthorities _ 0 (by omega) (by unfold usizeBound; omega)
      exact numbers.pass (agrees_pure _)

theorem agrees_checkedSidAt {entryEnd : Nat} (inside : entryEnd ≤ bytes.length)
    (low : offset < 2 ^ 62) :
    Agrees (checkedSidAt bytes offset entryEnd) (sidAt bytes offset entryEnd) := by
  apply (agrees_addOffset (by unfold usizeBound; omega)).pass
  apply (agrees_settled _).bind
  intro count known
  apply Agrees.ite
  · exact fun _ => agrees_throw _
  · intro few
    apply (agrees_mulOffset (by unfold usizeBound; omega)).pass
    apply (agrees_addOffset (by unfold usizeBound; omega)).pass
    apply (agrees_addOffset (by unfold usizeBound; omega)).pass
    apply Agrees.ite
    · exact fun _ => agrees_throw _
    · intro ends
      apply (agrees_range (by omega) (by omega)).pass
      have text := (agrees_checkedBytesToSidStr
        ((bytes.drop offset).take (8 + 4 * count))).adapt CoreError.display
      rw [Nat.add_sub_cancel_left]
      have both := text.bind (fun sid _ => agrees_pure (Sid.mk sid))
      cases decoded : bytesToSidStr ((bytes.drop offset).take (8 + 4 * count)) with
      | ok sid =>
          rw [decoded] at both
          exact both
      | error reason =>
          rw [decoded] at both
          exact both

/-- The SID of an entry, with the number of the entry in its error. -/
theorem agrees_named {entryEnd : Nat} (number : Nat) (inside : entryEnd ≤ bytes.length)
    (low : offset < 2 ^ 62) :
    Agrees (ExceptT.adapt (fun reason => s!"ACE {number}: {reason}")
        (checkedSidAt bytes offset entryEnd))
      (match sidAt bytes offset entryEnd with
        | .ok sid => .ok sid
        | .error reason => .error s!"ACE {number}: {reason}") := by
  have adapted := (agrees_checkedSidAt inside low).adapt (fun reason => s!"ACE {number}: {reason}")
  cases read : sidAt bytes offset entryEnd with
  | ok sid =>
      rw [read] at adapted
      exact adapted
  | error reason =>
      rw [read] at adapted
      exact adapted

theorem agrees_checkedParseAce {number entryEnd kind flags : Nat}
    (inside : entryEnd ≤ bytes.length) (low : offset < 2 ^ 61) :
    Agrees (checkedParseAce bytes number offset entryEnd kind flags)
      (parseAce bytes number offset entryEnd kind flags) := by
  apply Agrees.ite
  · intro _
    apply (agrees_addOffset (by unfold usizeBound; omega)).pass
    apply (agrees_checkedU32At (by unfold usizeBound; omega)).pass
    apply (agrees_settled _).bind
    intro mask _
    apply (agrees_addOffset (by unfold usizeBound; omega)).pass
    exact (agrees_named number inside (by omega)).bind (fun _ _ => agrees_pure _)
  · intro _
    apply Agrees.ite
    · intro _
      apply (agrees_addOffset (by unfold usizeBound; omega)).pass
      apply (agrees_checkedU32At (by unfold usizeBound; omega)).pass
      apply (agrees_settled _).bind
      intro mask _
      apply (agrees_addOffset (by unfold usizeBound; omega)).pass
      apply (agrees_checkedU32At (by unfold usizeBound; omega)).pass
      apply (agrees_settled _).bind
      intro objectFlags _
      apply (agrees_addOffset (by unfold usizeBound; omega)).pass
      -- The place of the SID depends on the two types that the flags announce.
      apply Agrees.ite
      · intro _
        apply (agrees_addOffset (by unfold usizeBound; omega)).pass
        apply (agrees_settled _).bind
        intro guid _
        by_cases inherited : flagSet objectFlags 0x2
        · simp only [inherited, if_true]
          apply (agrees_addOffset (by unfold usizeBound; omega)).pass
          exact (agrees_named number inside (by omega)).bind (fun _ _ => agrees_pure _)
        · simp only [inherited]
          exact (agrees_named number inside (by omega)).bind (fun _ _ => agrees_pure _)
      · intro _
        by_cases inherited : flagSet objectFlags 0x2
        · simp only [inherited, if_true]
          apply (agrees_addOffset (by unfold usizeBound; omega)).pass
          exact (agrees_named number inside (by omega)).bind (fun _ _ => agrees_pure _)
        · simp only [inherited]
          exact (agrees_named number inside (by omega)).bind (fun _ _ => agrees_pure _)
    · intro _
      apply Agrees.ite
      · exact fun _ => agrees_pure _
      · exact fun _ => agrees_throw _

theorem agrees_checkedParseAces {aclEnd : Nat} (inside : aclEnd ≤ bytes.length)
    (low : aclEnd < 2 ^ 60) (remaining : Nat) : ∀ number offset : Nat, offset ≤ aclEnd →
      Agrees (checkedParseAces bytes aclEnd remaining number offset)
        (parseAces bytes aclEnd remaining number offset) := by
  induction remaining with
  | zero => exact fun _ _ _ => agrees_pure _
  | succ remaining ih =>
      intro number offset before
      apply (agrees_settled _).bind
      intro kind _
      apply (agrees_addOffset (by unfold usizeBound; omega)).pass
      apply (agrees_settled _).bind
      intro flags _
      apply (agrees_addOffset (by unfold usizeBound; omega)).pass
      apply (agrees_checkedU16At (by unfold usizeBound; omega)).pass
      apply (agrees_settled _).bind
      intro size known
      have small := u16At_lt (orError_eq_ok_iff.mp known)
      apply (agrees_addOffset (by unfold usizeBound; omega)).pass
      apply Agrees.ite
      · exact fun _ => agrees_throw _
      · intro valid
        have entry : Agrees (checkedParseAce bytes number offset (offset + size) kind flags)
            (parseAce bytes number offset (offset + size) kind flags) :=
          agrees_checkedParseAce (by omega) (by omega)
        apply entry.bind
        intro _ _
        exact (ih (number + 1) (offset + size) (by omega)).bind (fun _ _ => agrees_pure _)

/-- No descriptor stops the checked parser, and it does what the parser does. -/
theorem agrees_checkedParseDacl (descriptor : List UInt8) :
    Agrees (checkedParseDacl descriptor) (parseDacl descriptor) := by
  apply Agrees.ite
  · exact fun _ => agrees_throw _
  · intro _
    apply (agrees_checkedU16At (by decide)).pass
    apply (agrees_settled _).bind
    intro control _
    apply Agrees.ite
    · exact fun _ => agrees_throw _
    · intro _
      apply (agrees_checkedU32At (by decide)).pass
      apply (agrees_settled _).bind
      intro daclAt place
      have low := u32At_lt (orError_eq_ok_iff.mp place)
      apply Agrees.ite
      · exact fun _ => agrees_pure _
      · intro _
        apply (agrees_addOffset (by unfold usizeBound; omega)).pass
        apply (agrees_checkedU16At (by unfold usizeBound; omega)).pass
        apply (agrees_settled _).bind
        intro aclSize stated
        have small := u16At_lt (orError_eq_ok_iff.mp stated)
        apply (agrees_addOffset (by unfold usizeBound; omega)).pass
        apply (agrees_checkedU16At (by unfold usizeBound; omega)).pass
        apply (agrees_settled _).bind
        intro aceCount _
        apply (agrees_addOffset (by unfold usizeBound; omega)).pass
        apply Agrees.ite
        · exact fun _ => agrees_throw _
        · intro valid
          apply (agrees_addOffset (by unfold usizeBound; omega)).pass
          have inside : daclAt + aclSize ≤ descriptor.length := by omega
          have first : daclAt + 8 ≤ daclAt + aclSize := by omega
          have entries := agrees_checkedParseAces inside (by omega) aceCount 0 (daclAt + 8) first
          exact entries.bind (fun _ _ => agrees_pure _)

end Agreement

/-! ## Encoded descriptors -/

/-- An entry of an access list as it is stored.  An object entry says by its flags
which of the two types stand before its SID, and bytes may be left unused at the
end. -/
inductive StoredAce where
  | plain (allow : Bool) (flags : UInt8) (mask : UInt32) (sid : BinarySid)
      (short : sid.subAuthorities.length ≤ 15) (unused : List UInt8)
  | object (allow : Bool) (flags : UInt8) (mask : UInt32)
      (objectType inheritedType : Option (Vector UInt8 16)) (sid : BinarySid)
      (short : sid.subAuthorities.length ≤ 15) (unused : List UInt8)
  | ignored (kind flags : UInt8) (body : List UInt8)
      (decidesNothing : kind ∈ [0x02, 0x03, 0x07, 0x11]) (long : 4 ≤ body.length)

def typeBytes (guid : Option (Vector UInt8 16)) : List UInt8 := (guid.map Vector.toList).getD []

namespace StoredAce

def kind : StoredAce → UInt8
  | plain allow .. => if allow then 0x00 else 0x01
  | object allow .. => if allow then 0x05 else 0x06
  | ignored kind .. => kind

def flags : StoredAce → UInt8
  | plain _ flags .. => flags
  | object _ flags .. => flags
  | ignored _ flags .. => flags

/-- The flags of an object entry with or without either type. -/
def objectFlags (typed inherited : Bool) : Nat :=
  (if typed then 1 else 0) + (if inherited then 2 else 0)

def body : StoredAce → List UInt8
  | plain _ _ mask sid _ unused => littleEndianBytes 4 mask.toNat ++ (sid.encode ++ unused)
  | object _ _ mask objectType inheritedType sid _ unused =>
      littleEndianBytes 4 mask.toNat ++
        (littleEndianBytes 4 (objectFlags objectType.isSome inheritedType.isSome) ++
          (typeBytes objectType ++ (typeBytes inheritedType ++ (sid.encode ++ unused))))
  | ignored _ _ body .. => body

/-- The size of an entry counts its header. -/
def encode (entry : StoredAce) : List UInt8 :=
  entry.kind :: entry.flags :: (littleEndianBytes 2 (4 + entry.body.length) ++ entry.body)

/-- The entry as far as the check needs it. -/
def read : StoredAce → List Ace
  | plain allow flags mask sid .. =>
      [{ allow := allow, sid := ⟨sid.text⟩, covers := controlAccess mask.toNat,
         inheritOnly := flagSet flags.toNat 0x08 }]
  | object allow flags mask objectType _ sid .. =>
      [{ allow := allow, sid := ⟨sid.text⟩,
         covers := controlAccess mask.toNat &&
           objectType.all (fun guid => guid.toList == allowedToAuthenticateGuid),
         inheritOnly := flagSet flags.toNat 0x08 }]
  | ignored .. => []

end StoredAce

/-- An access list.  Its size counts the header, the entries and what is left
unused behind them. -/
structure AccessList where
  revision : UInt8
  reserved : UInt8
  furtherReserved : UInt16
  entries : List StoredAce
  unused : List UInt8
  fits : 8 + (entries.flatMap StoredAce.encode ++ unused).length < 2 ^ 16

def AccessList.encode (acl : AccessList) : List UInt8 :=
  acl.revision :: acl.reserved ::
    (littleEndianBytes 2 (8 + (acl.entries.flatMap StoredAce.encode ++ acl.unused).length) ++
      (littleEndianBytes 2 acl.entries.length ++ (littleEndianBytes 2 acl.furtherReserved.toNat ++
        (acl.entries.flatMap StoredAce.encode ++ acl.unused))))

/-- A self-relative security descriptor.  Its owner, its group and its audit list
stand before or behind the access list, and a NULL access list has no offset. -/
structure SelfRelative where
  revision : UInt8
  reserved : UInt8
  control : UInt16
  ownerAt : UInt32
  groupAt : UInt32
  saclAt : UInt32
  before : List UInt8
  dacl : Option AccessList
  after : List UInt8
  selfRelative : flagSet control.toNat 0x8000 = true
  present : dacl.isSome → flagSet control.toNat 0x0004 = true
  fits : 20 + before.length < 2 ^ 32

namespace SelfRelative

def daclAt (descriptor : SelfRelative) : Nat :=
  if descriptor.dacl.isSome then 20 + descriptor.before.length else 0

def encode (descriptor : SelfRelative) : List UInt8 :=
  descriptor.revision :: descriptor.reserved ::
    (littleEndianBytes 2 descriptor.control.toNat ++
      (littleEndianBytes 4 descriptor.ownerAt.toNat ++
        (littleEndianBytes 4 descriptor.groupAt.toNat ++
          (littleEndianBytes 4 descriptor.saclAt.toNat ++
            (littleEndianBytes 4 descriptor.daclAt ++
              (descriptor.before ++ ((descriptor.dacl.map AccessList.encode).getD [] ++
                descriptor.after)))))))

/-- The entries that decide something, `none` for a NULL access list. -/
def entries (descriptor : SelfRelative) : Option (List Ace) :=
  descriptor.dacl.map (fun acl => acl.entries.flatMap StoredAce.read)

end SelfRelative

/-! ## The round trip -/

section RoundTrip

variable {bytes : List UInt8} {offset : Nat}

theorem sidAt_of_holds {sid : BinarySid} {entryEnd : Nat} (held : Holds bytes offset sid.encode)
    (short : sid.subAuthorities.length ≤ 15) (ends : offset + sid.encode.length ≤ entryEnd) :
    sidAt bytes offset entryEnd = .ok ⟨sid.text⟩ := by
  rcases BinarySid.holds_encode held with ⟨_, count, _, _⟩
  have read := byteAt_of_holds count
  rw [sid.toNat_count] at read
  have piece := held.take_drop
  rw [sid.length_encode] at piece ends
  rw [sidAt, read]
  change (if sid.subAuthorities.length > 15 then _ else _) = _
  rw [if_neg (by omega), if_neg (by omega), piece, bytesToSidStr_of_holds (holds_self sid.encode)]

theorem objectFlags_spec (typed inherited : Bool) :
    flagSet (StoredAce.objectFlags typed inherited) 0x1 = typed ∧
      flagSet (StoredAce.objectFlags typed inherited) 0x2 = inherited ∧
      StoredAce.objectFlags typed inherited < 2 ^ 32 := by
  cases typed <;> cases inherited <;> decide

theorem length_typeBytes (guid : Option (Vector UInt8 16)) :
    (typeBytes guid).length = if guid.isSome then 16 else 0 := by
  cases guid with
  | none => rfl
  | some guid => exact guid.length_toList

theorem StoredAce.length_encode (entry : StoredAce) :
    entry.encode.length = 4 + entry.body.length := by
  rw [encode, List.length_cons, List.length_cons, List.length_append, length_littleEndianBytes]
  omega

/-- A plain entry is read as it was encoded. -/
theorem parseAce_plain {allow : Bool} {flags : UInt8} {mask : UInt32} {sid : BinarySid}
    {short : sid.subAuthorities.length ≤ 15} {unused : List UInt8} (number entryEnd : Nat)
    (body : Holds bytes (offset + 4) (StoredAce.plain allow flags mask sid short unused).body)
    (ends : offset + 4 + (StoredAce.plain allow flags mask sid short unused).body.length =
      entryEnd) :
    parseAce bytes number offset entryEnd
      (StoredAce.plain allow flags mask sid short unused).kind.toNat flags.toNat =
        .ok (StoredAce.plain allow flags mask sid short unused).read := by
  rw [StoredAce.body, List.length_append, List.length_append, length_littleEndianBytes] at ends
  rcases holds_append.mp body with ⟨maskField, others⟩
  rw [length_littleEndianBytes] at others
  have readMask := u32At_of_holds maskField mask.toNat_lt
  have readSid : sidAt bytes (offset + 8) entryEnd = .ok ⟨sid.text⟩ :=
    sidAt_of_holds (holds_append.mp others).1 short (by omega)
  unfold parseAce
  rw [readMask, readSid]
  cases allow <;> rfl

/-- An object entry is read as it was encoded. -/
theorem parseAce_object {allow : Bool} {flags : UInt8} {mask : UInt32}
    {objectType inheritedType : Option (Vector UInt8 16)} {sid : BinarySid}
    {short : sid.subAuthorities.length ≤ 15} {unused : List UInt8} (number entryEnd : Nat)
    (body : Holds bytes (offset + 4)
      (StoredAce.object allow flags mask objectType inheritedType sid short unused).body)
    (ends : offset + 4 +
      (StoredAce.object allow flags mask objectType inheritedType sid short unused).body.length =
        entryEnd) :
    parseAce bytes number offset entryEnd
      (StoredAce.object allow flags mask objectType inheritedType sid short unused).kind.toNat
      flags.toNat =
        .ok (StoredAce.object allow flags mask objectType inheritedType sid short unused).read := by
  rw [StoredAce.body] at body ends
  rcases holds_append.mp body with ⟨maskField, afterMask⟩
  rcases holds_append.mp afterMask with ⟨flagsField, afterFlags⟩
  rcases holds_append.mp afterFlags with ⟨typeField, afterType⟩
  rcases holds_append.mp afterType with ⟨_, afterTypes⟩
  have sidField := (holds_append.mp afterTypes).1
  simp only [List.length_append, length_littleEndianBytes, length_typeBytes] at *
  rcases objectFlags_spec objectType.isSome inheritedType.isSome with ⟨typed, inherited, fits⟩
  have readMask := u32At_of_holds maskField mask.toNat_lt
  have readFlags := u32At_of_holds flagsField fits
  have readSid := sidAt_of_holds sidField short (show _ ≤ entryEnd by omega)
  unfold parseAce
  rw [readMask, readFlags]
  cases objectType with
  | none =>
      cases inheritedType with
      | none =>
          have place : sidAt bytes (offset + 12) entryEnd = .ok ⟨sid.text⟩ := readSid
          simp only [Option.isSome_none] at typed inherited
          cases allow <;> simp [orError, StoredAce.kind, StoredAce.read, typed, inherited, place,
            ok_bind]
      | some other =>
          have place : sidAt bytes (offset + 12 + 16) entryEnd = .ok ⟨sid.text⟩ := readSid
          simp only [Option.isSome_none, Option.isSome_some] at typed inherited
          cases allow <;> simp [orError, StoredAce.kind, StoredAce.read, typed, inherited, place,
            ok_bind]
  | some guid =>
      have readGuid : slice bytes (offset + 12) 16 = some guid.toList :=
        slice_eq_some_iff.mpr ⟨guid.length_toList, typeField⟩
      cases inheritedType with
      | none =>
          have place : sidAt bytes (offset + 28) entryEnd = .ok ⟨sid.text⟩ := readSid
          simp only [Option.isSome_none, Option.isSome_some] at typed inherited
          cases allow <;>
            simp [orError, StoredAce.kind, StoredAce.read, typed, inherited, place,
            ok_bind, readGuid]
      | some other =>
          have place : sidAt bytes (offset + 28 + 16) entryEnd = .ok ⟨sid.text⟩ := readSid
          simp only [Option.isSome_some] at typed inherited
          cases allow <;>
            simp [orError, StoredAce.kind, StoredAce.read, typed, inherited, place,
            ok_bind, readGuid]

theorem parseAce_ignored (number entryEnd : Nat) {kind : UInt8} (flags : Nat)
    (decidesNothing : kind ∈ [0x02, 0x03, 0x07, 0x11]) :
    parseAce bytes number offset entryEnd kind.toNat flags = .ok [] := by
  simp only [List.mem_cons, List.not_mem_nil, or_false] at decidesNothing
  rcases decidesNothing with rfl | rfl | rfl | rfl <;> rfl

/-- An entry is read as it was encoded. -/
theorem parseAce_of_holds (entry : StoredAce) (number entryEnd : Nat)
    (body : Holds bytes (offset + 4) entry.body)
    (ends : offset + 4 + entry.body.length = entryEnd) :
    parseAce bytes number offset entryEnd entry.kind.toNat entry.flags.toNat = .ok entry.read := by
  cases entry with
  | plain => exact parseAce_plain number entryEnd body ends
  | object => exact parseAce_object number entryEnd body ends
  | ignored kind flags _ decidesNothing _ =>
      exact parseAce_ignored number entryEnd flags.toNat decidesNothing

theorem StoredAce.four_le_body (entry : StoredAce) : 4 ≤ entry.body.length := by
  cases entry with
  | plain =>
      rw [body, List.length_append, length_littleEndianBytes]
      omega
  | object =>
      rw [body, List.length_append, length_littleEndianBytes]
      omega
  | ignored _ _ _ _ long => exact long

/-- The entries are read in order. -/
theorem parseAces_of_holds {aclEnd : Nat} (entries : List StoredAce) : ∀ number offset : Nat,
    Holds bytes offset (entries.flatMap StoredAce.encode) →
      (entries.flatMap StoredAce.encode).length < 2 ^ 16 →
        offset + (entries.flatMap StoredAce.encode).length ≤ aclEnd →
          parseAces bytes aclEnd entries.length number offset =
            .ok (entries.flatMap StoredAce.read) := by
  induction entries with
  | nil => exact fun _ _ _ _ _ => rfl
  | cons entry rest ih =>
      intro number offset held small ends
      rw [List.flatMap_cons] at held small ends
      rw [List.length_append, entry.length_encode] at small ends
      rcases holds_append.mp held with ⟨first, later⟩
      rw [entry.length_encode] at later
      rw [StoredAce.encode] at first
      rcases holds_cons.mp first with ⟨kind, afterKind⟩
      rcases holds_cons.mp afterKind with ⟨flags, afterFlags⟩
      rcases holds_append.mp afterFlags with ⟨size, body⟩
      rw [length_littleEndianBytes] at body
      have long := entry.four_le_body
      have readSize := u16At_of_holds size (by omega)
      have entryRead := parseAce_of_holds entry number (offset + (4 + entry.body.length)) body
        (by omega)
      have restRead := ih (number + 1) (offset + (4 + entry.body.length)) later (by omega)
        (by omega)
      rw [List.length_cons, parseAces, byteAt_of_holds kind, byteAt_of_holds flags, readSize]
      simp only [orError, ok_bind]
      rw [if_neg (by omega), entryRead, ok_bind, restRead, List.flatMap_cons]
      rfl

/-- The fields of a descriptor that the parser reads. -/
theorem SelfRelative.holds_encode (descriptor : SelfRelative) :
    Holds descriptor.encode 2 (littleEndianBytes 2 descriptor.control.toNat) ∧
      Holds descriptor.encode 16 (littleEndianBytes 4 descriptor.daclAt) ∧
      Holds descriptor.encode (20 + descriptor.before.length)
        ((descriptor.dacl.map AccessList.encode).getD []) := by
  have fields := (holds_cons.mp (holds_cons.mp (holds_self descriptor.encode)).2).2
  rcases holds_append.mp fields with ⟨control, afterControl⟩
  rcases holds_append.mp afterControl with ⟨_, afterOwner⟩
  rcases holds_append.mp afterOwner with ⟨_, afterGroup⟩
  rcases holds_append.mp afterGroup with ⟨_, afterSacl⟩
  rcases holds_append.mp afterSacl with ⟨place, afterPlace⟩
  rcases holds_append.mp afterPlace with ⟨_, parts⟩
  simp only [length_littleEndianBytes] at control place parts
  exact ⟨control, place, (holds_append.mp parts).1⟩

theorem SelfRelative.daclAt_lt (descriptor : SelfRelative) : descriptor.daclAt < 2 ^ 32 := by
  unfold daclAt
  split
  · exact descriptor.fits
  · decide

theorem AccessList.length_encode (acl : AccessList) :
    acl.encode.length = 8 + (acl.entries.flatMap StoredAce.encode ++ acl.unused).length := by
  simp only [encode, List.length_cons, List.length_append, length_littleEndianBytes]
  omega

theorem length_entries_le (entries : List StoredAce) :
    entries.length ≤ (entries.flatMap StoredAce.encode).length := by
  induction entries with
  | nil => exact Nat.le_refl 0
  | cons entry rest ih =>
      rw [List.flatMap_cons, List.length_append, entry.length_encode, List.length_cons]
      omega

/-- The fields of an access list that the parser reads. -/
theorem AccessList.holds_encode {acl : AccessList} (held : Holds bytes offset acl.encode) :
    u16At bytes (offset + 2) = some acl.encode.length ∧
      u16At bytes (offset + 4) = some acl.entries.length ∧
      Holds bytes (offset + 8) (acl.entries.flatMap StoredAce.encode) := by
  rcases holds_append.mp (holds_cons.mp (holds_cons.mp held).2).2 with ⟨sizeField, afterSize⟩
  rcases holds_append.mp afterSize with ⟨countField, afterCount⟩
  rcases holds_append.mp afterCount with ⟨_, parts⟩
  have stored := (holds_append.mp parts).1
  simp only [length_littleEndianBytes] at countField stored
  have fits := acl.fits
  have counted := length_entries_le acl.entries
  refine ⟨?_, ?_, stored⟩
  · rw [acl.length_encode]
    exact u16At_of_holds sizeField fits
  · rw [List.length_append] at fits
    exact u16At_of_holds countField (by omega)

theorem SelfRelative.daclAt_of_some {descriptor : SelfRelative} {acl : AccessList}
    (known : descriptor.dacl = some acl) :
    descriptor.daclAt = 20 + descriptor.before.length := by
  rw [daclAt, known]
  rfl

/-- A well-formed descriptor is read as it was encoded. -/
theorem parseDacl_encode (descriptor : SelfRelative) :
    parseDacl descriptor.encode = .ok descriptor.entries := by
  rcases descriptor.holds_encode with ⟨control, place, acl⟩
  have long := place.le
  rw [length_littleEndianBytes] at long
  have readControl := u16At_of_holds control descriptor.control.toNat_lt
  have readPlace := u32At_of_holds place descriptor.daclAt_lt
  unfold parseDacl
  rw [if_neg (by omega), readControl, readPlace]
  simp only [orError, ok_bind, descriptor.selfRelative]
  cases known : descriptor.dacl with
  | none =>
      have zero : descriptor.daclAt = 0 := by
        rw [SelfRelative.daclAt, known]
        rfl
      simp only [Bool.not_true, Bool.false_eq_true, if_false]
      rw [if_pos (Or.inr zero), SelfRelative.entries, known]
      rfl
  | some list =>
      have present := descriptor.present (known ▸ rfl)
      rw [known] at acl
      have inside : 20 + descriptor.before.length + list.encode.length ≤ descriptor.encode.length :=
        acl.le
      rcases AccessList.holds_encode acl with ⟨readSize, readCount, stored⟩
      have fits := list.fits
      have parted := list.length_encode
      rw [List.length_append] at fits parted
      have readEntries := parseAces_of_holds list.entries 0 (20 + descriptor.before.length + 8)
        stored (by omega) (show _ ≤ 20 + descriptor.before.length + list.encode.length by omega)
      rw [SelfRelative.daclAt_of_some known, readSize, readCount, present]
      simp only [Bool.not_true, Bool.false_eq_true, if_false, ok_bind, false_or]
      rw [if_neg (by omega), if_neg (by omega), readEntries, SelfRelative.entries, known]
      rfl

end RoundTrip

/-! ## Truncation -/

section Truncation

variable {short : List UInt8} {offset : Nat}

/-- What a truncated descriptor still holds is what the whole one holds. -/
theorem slice_append (more : List UInt8) {length : Nat} {field : List UInt8}
    (read : slice short offset length = some field) :
    slice (short ++ more) offset length = some field := by
  rcases slice_eq_some_iff.mp read with ⟨same, inside, held⟩
  refine slice_eq_some_iff.mpr ⟨same, ?_, ?_⟩
  · rw [List.length_append]
    omega
  · rw [List.drop_append_of_le_length (by omega), List.take_append_of_le_length, held]
    rw [List.length_drop]
    omega

theorem u16At_append (more : List UInt8) {value : Nat} (read : u16At short offset = some value) :
    u16At (short ++ more) offset = some value := by
  rcases Option.map_eq_some_iff.mp read with ⟨field, held, same⟩
  exact Option.map_eq_some_iff.mpr ⟨field, slice_append more held, same⟩

theorem u32At_append (more : List UInt8) {value : Nat} (read : u32At short offset = some value) :
    u32At (short ++ more) offset = some value := by
  rcases Option.map_eq_some_iff.mp read with ⟨field, held, same⟩
  exact Option.map_eq_some_iff.mpr ⟨field, slice_append more held, same⟩

theorem error_of_not_ok {Reason Value : Type} {result : Except Reason Value}
    (never : ∀ value, result ≠ .ok value) : ∃ reason, result = .error reason := by
  cases result with
  | error reason => exact ⟨reason, rfl⟩
  | ok value => exact absurd rfl (never value)

/-- A descriptor that is cut off before the end of its access list is an error. -/
theorem parseDacl_truncated {descriptor : SelfRelative} {acl : AccessList} {more : List UInt8}
    (known : descriptor.dacl = some acl) (last : descriptor.after = [])
    (cut : short ++ more = descriptor.encode) (missing : more ≠ []) :
    ∃ reason, parseDacl short = .error reason := by
  apply error_of_not_ok
  intro result parsed
  rcases descriptor.holds_encode with ⟨controlField, placeField, list⟩
  have present := descriptor.present (known ▸ rfl)
  have ends : descriptor.encode.length = 20 + descriptor.before.length + acl.encode.length := by
    simp only [SelfRelative.encode, known, last, Option.map_some, Option.getD_some,
      List.length_cons, List.length_append, length_littleEndianBytes, List.length_nil]
    omega
  have cutLength := congrArg List.length cut
  rw [List.length_append] at cutLength
  have moreLength := List.length_pos_iff.mpr missing
  rw [known] at list
  have size := (AccessList.holds_encode list).1
  unfold parseDacl at parsed
  dsimp only at parsed
  split at parsed
  · cases parsed
  · rcases bind_eq_ok_iff.mp parsed with ⟨control, readControl, afterControl⟩
    have sameControl := u16At_append more (orError_eq_ok_iff.mp readControl)
    rw [cut, u16At_of_holds controlField descriptor.control.toNat_lt] at sameControl
    cases sameControl
    rw [descriptor.selfRelative] at afterControl
    rcases bind_eq_ok_iff.mp afterControl with ⟨place, readPlace, afterPlace⟩
    have samePlace := u32At_append more (orError_eq_ok_iff.mp readPlace)
    rw [cut, u32At_of_holds placeField descriptor.daclAt_lt] at samePlace
    cases samePlace
    rw [descriptor.daclAt_of_some known, present] at afterPlace
    simp only [Bool.not_true, Bool.false_eq_true, false_or] at afterPlace
    rw [if_neg (by omega)] at afterPlace
    rcases bind_eq_ok_iff.mp afterPlace with ⟨aclSize, readSize, afterSize⟩
    have sameSize := u16At_append more (orError_eq_ok_iff.mp readSize)
    rw [cut, size] at sameSize
    cases sameSize
    rcases bind_eq_ok_iff.mp afterSize with ⟨aceCount, _, afterCount⟩
    rw [if_pos (Or.inr (by omega))] at afterCount
    cases afterCount

end Truncation

/-- No byte sequence stops the parser; it returns the entries of every well-formed
descriptor; and a descriptor that ends with its access list has no proper prefix
with an answer. -/
theorem descriptor_parsing :
    (∀ descriptor : List UInt8,
      (checkedParseDacl descriptor).run = .ok (parseDacl descriptor)) ∧
    (∀ descriptor : SelfRelative, parseDacl descriptor.encode = .ok descriptor.entries) ∧
    (∀ (descriptor : SelfRelative) (short : List UInt8), descriptor.dacl.isSome →
      descriptor.after = [] → short <+: descriptor.encode → short ≠ descriptor.encode →
        ∃ reason, parseDacl short = .error reason ∧ ∀ certain uncertain : Finset Sid,
          allowedToAuthenticate short certain uncertain =
            .unknown s!"its permissions could not be evaluated: {reason}") := by
  refine ⟨agrees_checkedParseDacl, parseDacl_encode, ?_⟩
  rintro descriptor short listed last ⟨more, cut⟩ proper
  rcases Option.isSome_iff_exists.mp listed with ⟨acl, known⟩
  have missing : more ≠ [] := by
    rintro rfl
    rw [List.append_nil] at cut
    exact proper cut
  rcases parseDacl_truncated known last cut missing with ⟨reason, failed⟩
  refine ⟨reason, failed, ?_⟩
  intro certain uncertain
  rw [allowedToAuthenticate, failed]

end AdResolver
end Stars
