import Stars.Core.Error
import Stars.Core.FileSystem
import Stars.Validation.Path

namespace Stars
namespace FsScanner

/-!
# Reading owner and access list

What one security descriptor holds, which of the Win32 calls that read it
succeed, and the object the scanner makes of both.  Every call can fail on its
own.  A failure on the side of the access list is recorded as an entry that could
not be evaluated; the two failures without an entry of their own have synthetic
types.  An owner that cannot be converted is only logged.

A call that succeeds returns what the descriptor holds.
-/

/-- One entry of an access list as it lies in memory.  The trustee is read for
the two types the engine evaluates. -/
structure RawAce where
  aceType : BitVec 8
  flags : BitVec 8
  mask : AccessMask
  trustee : Sid
deriving DecidableEq

/-- A descriptor without a list is the NULL DACL. -/
structure SecurityDescriptor where
  owner : Option Sid
  dacl : Option (List RawAce)
  control : BitVec 16
deriving DecidableEq

/-- Which calls succeed while a descriptor is read: the conversion of the owner,
`GetAclInformation`, `GetAce` and the conversion of the trustee for each index,
and `GetSecurityDescriptorControl`. -/
structure Win32Calls where
  ownerConverted : Bool
  aclInformation : Bool
  ace : Nat → Bool
  trusteeConverted : Nat → Bool
  descriptorControl : Bool

def accessAllowedAceType : BitVec 8 := 0x00#8

def accessDeniedAceType : BitVec 8 := 0x01#8

def objectInheritAce : BitVec 8 := 0x01#8

def containerInheritAce : BitVec 8 := 0x02#8

def noPropagateInheritAce : BitVec 8 := 0x04#8

def inheritOnlyAce : BitVec 8 := 0x08#8

def inheritedAce : BitVec 8 := 0x10#8

def seDaclProtected : BitVec 16 := 0x1000#16

/-- The whole list could not be read. -/
def aceTypeAclUnreadable : BitVec 8 := 0xFF#8

/-- One entry could not be retrieved. -/
def aceTypeAceUnreadable : BitVec 8 := 0xFE#8

/-- Which children inherit, and how it propagates. -/
def splitAceFlags (aceFlags : BitVec 8) : BitVec 32 × BitVec 32 :=
  ((aceFlags &&& (objectInheritAce ||| containerInheritAce)).setWidth 32,
    (aceFlags &&& (noPropagateInheritAce ||| inheritOnlyAce)).setWidth 32)

inductive ParseAceOutcome where
  | entry (ace : AceEntry)
  | unsupported (ace : UnsupportedAce)
  | sidUnreadable (ace : UnsupportedAce)
deriving DecidableEq

/-- An entry of one of the two evaluated types. -/
def parseEvaluatedAce (kind : AceKind) (trusteeConverted : Bool) (ace : RawAce) : ParseAceOutcome :=
  if trusteeConverted then
    .entry
      { kind := kind
        sid := ace.trustee
        mask := ace.mask
        inherited := ace.flags &&& inheritedAce ≠ 0#8
        inheritanceFlags := (splitAceFlags ace.flags).1
        propagationFlags := (splitAceFlags ace.flags).2 }
  else .sidUnreadable { aceType := ace.aceType, flags := ace.flags, mask := ace.mask }

def parseAce (trusteeConverted : Bool) (ace : RawAce) : ParseAceOutcome :=
  if ace.aceType = accessAllowedAceType then parseEvaluatedAce .allow trusteeConverted ace
  else if ace.aceType = accessDeniedAceType then parseEvaluatedAce .deny trusteeConverted ace
  else .unsupported { aceType := ace.aceType, flags := ace.flags, mask := ace.mask }

/-- One index of the list. -/
def readAce (calls : Win32Calls) (read : List AceEntry × List UnsupportedAce)
    (indexed : RawAce × Nat) : List AceEntry × List UnsupportedAce :=
  if calls.ace indexed.2 then
    match parseAce (calls.trusteeConverted indexed.2) indexed.1 with
    | .entry ace => (read.1 ++ [ace], read.2)
    | .unsupported ace => (read.1, read.2 ++ [ace])
    | .sidUnreadable ace => (read.1, read.2 ++ [ace])
  else (read.1, read.2 ++ [{ aceType := aceTypeAceUnreadable, flags := 0#8, mask := 0#32 }])

def parseDacl (calls : Win32Calls) (dacl : List RawAce) : List AceEntry × List UnsupportedAce :=
  if calls.aclInformation then dacl.zipIdx.foldl (readAce calls) ([], [])
  else ([], [{ aceType := aceTypeAclUnreadable, flags := 0#8, mask := 0#32 }])

/-- The parse outcome every object needs a copy of. -/
structure ParsedFields where
  ownerSid : Option Sid
  dacl : List AceEntry
  unsupportedAces : List UnsupportedAce
  nullDacl : Bool
  inheritanceDisabled : Bool
deriving DecidableEq

def parseSecurity (calls : Win32Calls) (descriptor : SecurityDescriptor) : ParsedFields :=
  let ownerSid := match descriptor.owner with
    | none => none
    -- an owner that cannot be converted is logged and left out
    | some owner => if calls.ownerConverted then some owner else none
  let (dacl, unsupportedAces, nullDacl) := match descriptor.dacl with
    | none => ([], [], true)
    | some aces => ((parseDacl calls aces).1, (parseDacl calls aces).2, false)
  { ownerSid := ownerSid
    dacl := dacl
    unsupportedAces := unsupportedAces
    nullDacl := nullDacl
    inheritanceDisabled := calls.descriptorControl && descriptor.control &&& seDaclProtected ≠ 0#16 }

def fileAttributeDirectory : BitVec 32 := 0x10#32

def fileAttributeReparsePoint : BitVec 32 := 0x400#32

def errorFileNotFound : Nat := 2

def errorPathNotFound : Nat := 3

def errorAccessDenied : Nat := 5

/-- What the calls for one path return: the attributes, the descriptor with the
outcomes of the calls that read it, and what a link at the path stores. -/
structure PathReading where
  attributes : Except Nat (BitVec 32)
  security : Except Nat (SecurityDescriptor × Win32Calls)
  linkTarget : Option LinkInfo

def attributesError (path : String) (code : Nat) : CoreError :=
  if code = errorFileNotFound ∨ code = errorPathNotFound then .pathNotFound path
  else if code = errorAccessDenied then .accessDenied path
  else .invalidSecurityDescriptor s!"GetFileAttributesW({path}) failed: error {code}"

def securityError (path : String) (code : Nat) : CoreError :=
  if code = errorAccessDenied then .accessDenied path
  else .invalidSecurityDescriptor s!"GetNamedSecurityInfoW({path}) failed: error {code}"

/-- Attributes, owner and access list of one path. -/
def readFileSystemObject (path : String) (reading : PathReading) :
    Except CoreError FileSystemObject := do
  let attributes ← reading.attributes.mapError (attributesError path)
  let (descriptor, calls) ← reading.security.mapError (securityError path)
  let parsed := parseSecurity calls descriptor
  let isReparsePoint := attributes &&& fileAttributeReparsePoint ≠ 0#32
  return {
    path := Validation.stripLongPathPrefix path
    isDirectory := attributes &&& fileAttributeDirectory ≠ 0#32
    ownerSid := parsed.ownerSid
    dacl := parsed.dacl
    inheritanceDisabled := parsed.inheritanceDisabled
    isReparsePoint := isReparsePoint
    unsupportedAces := parsed.unsupportedAces
    nullDacl := parsed.nullDacl
    link := if isReparsePoint then reading.linkTarget else none }

/-! ## What one index of the list yields -/

/-- An index is lost when its entry cannot be retrieved, is of another type, or
names a trustee that cannot be converted. -/
def Lost (calls : Win32Calls) (indexed : RawAce × Nat) : Prop :=
  calls.ace indexed.2 = false ∨
    (indexed.1.aceType ≠ accessAllowedAceType ∧ indexed.1.aceType ≠ accessDeniedAceType) ∨
    calls.trusteeConverted indexed.2 = false

/-- An entry of the model that says what an entry of the list says: its effect,
its trustee, its rights and its five inheritance bits. -/
structure SaysSame (ace : RawAce) (entry : AceEntry) : Prop where
  kind : match entry.kind with
    | .allow => ace.aceType = accessAllowedAceType
    | .deny => ace.aceType = accessDeniedAceType
  trustee : entry.sid = ace.trustee
  mask : entry.mask = ace.mask
  flags : entry.inheritanceFlags ||| entry.propagationFlags |||
    (if entry.inherited then 0x10#32 else 0#32) = (ace.flags &&& 0x1F#8).setWidth 32

end FsScanner
end Stars
