import Stars.PermissionEngine.Mask

namespace Stars
namespace PermissionEngine

/-!
# Names of access rights

The long and the short form of a mask for the reader: the highest standard level
whose bits are all present, and every further right by name.  No bit is hidden;
bits without a name are given as a number.
-/

def fileReadData : AccessMask := 0x00000001#32

def fileWriteData : AccessMask := 0x00000002#32

def fileAppendData : AccessMask := 0x00000004#32

def fileReadEa : AccessMask := 0x00000008#32

def fileWriteEa : AccessMask := 0x00000010#32

def fileExecute : AccessMask := 0x00000020#32

def fileDeleteChild : AccessMask := 0x00000040#32

def fileReadAttributes : AccessMask := 0x00000080#32

def fileWriteAttributes : AccessMask := 0x00000100#32

def fileDelete : AccessMask := 0x00010000#32

def fileWriteOwner : AccessMask := 0x00080000#32

def accessSystemSecurity : AccessMask := 0x01000000#32

def maximumAllowed : AccessMask := 0x02000000#32

def maskModify : AccessMask := 0x001301bf#32

def maskReadExecute : AccessMask := 0x001200a9#32

def maskRead : AccessMask := 0x00120089#32

def maskWrite : AccessMask := 0x00120116#32

/-- All bits of a level are in the mask. -/
def contains (mask level : AccessMask) : Bool := mask &&& level = level

/-- The levels of the basic-permissions dialog. -/
inductive StandardLevel where
  | fullControl
  | modify
  | readExecute
  | readWrite
  | read
  | write
deriving DecidableEq

namespace StandardLevel

/-- Highest first. -/
def all : List StandardLevel := [fullControl, modify, readExecute, readWrite, read, write]

def mask : StandardLevel → AccessMask
  | fullControl => maskFullControl
  | modify => maskModify
  | readExecute => maskReadExecute
  | readWrite => maskRead ||| maskWrite
  | read => maskRead
  | write => maskWrite

def name : StandardLevel → String
  | fullControl => "Full Control"
  | modify => "Modify"
  | readExecute => "Read & Execute"
  | readWrite => "Read & Write"
  | read => "Read"
  | write => "Write"

/-- The abbreviation of `icacls`. -/
def short : StandardLevel → String
  | fullControl => "F"
  | modify => "M"
  | readExecute => "RX"
  | readWrite => "RW"
  | read => "R"
  | write => "W"

end StandardLevel

/-- One access right with the wording of the advanced security dialog and its
abbreviation. -/
structure NamedBit where
  bit : AccessMask
  name : String
  short : String

/-- Every bit a label may have to name, in the order of that dialog. -/
def namedBits : List NamedBit := [
  ⟨fileExecute, "Traverse folder / execute file", "X"⟩,
  ⟨fileReadData, "List folder / read data", "RD"⟩,
  ⟨fileReadAttributes, "Read attributes", "RA"⟩,
  ⟨fileReadEa, "Read extended attributes", "REA"⟩,
  ⟨fileWriteData, "Create files / write data", "WD"⟩,
  ⟨fileAppendData, "Create folders / append data", "AD"⟩,
  ⟨fileWriteAttributes, "Write attributes", "WA"⟩,
  ⟨fileWriteEa, "Write extended attributes", "WEA"⟩,
  ⟨fileDeleteChild, "Delete subfolders and files", "DC"⟩,
  ⟨fileDelete, "Delete", "DE"⟩,
  ⟨fileReadControl, "Read permissions", "RC"⟩,
  ⟨fileWriteDac, "Change permissions", "WDAC"⟩,
  ⟨fileWriteOwner, "Take ownership", "WO"⟩,
  ⟨fileSynchronize, "Synchronize", "S"⟩,
  ⟨accessSystemSecurity, "Access system security (SACL)", "AS"⟩,
  ⟨maximumAllowed, "Maximum allowed", "MA"⟩,
  ⟨genericAll, "Generic all", "GA"⟩,
  ⟨genericExecute, "Generic execute", "GE"⟩,
  ⟨genericWrite, "Generic write", "GW"⟩,
  ⟨genericRead, "Generic read", "GR"⟩]

/-! ## The forms of a mask -/

/-- The highest level that is complete in the mask. -/
def baseLevel (raw : AccessMask) : Option StandardLevel :=
  StandardLevel.all.find? (fun level => contains raw level.mask)

/-- Name a bit, when it is left, and take it off the rest. -/
def nameBit (state : List (String × String) × AccessMask) (named : NamedBit) :
    List (String × String) × AccessMask :=
  if state.2 &&& named.bit ≠ 0#32 then
    (state.1 ++ [(named.name, named.short)], state.2 &&& ~~~named.bit)
  else state

/-- Hexadecimal digits without leading zeros. -/
def hexDigits (value : AccessMask) : String :=
  String.ofList ((Text.hex8 value).toList.dropWhile (fun digit => digit == '0'))

/-- A complete Write set on top of Read & Execute is named as one right. -/
def nameWriteSet (raw : AccessMask) (base : Option StandardLevel) (rest : AccessMask) :
    List (String × String) × AccessMask :=
  if base = some .readExecute ∧ contains raw maskWrite then
    ([("Write", "W")], rest &&& ~~~maskWrite)
  else ([], rest)

/-- The base level of a mask and the rights beyond it, each with its name and
its abbreviation. -/
def decompose (raw : AccessMask) : Option StandardLevel × List (String × String) :=
  let base := baseLevel raw
  let beyond := raw &&& ~~~((base.map StandardLevel.mask).getD 0#32)
  let named := namedBits.foldl nameBit (nameWriteSet raw base beyond)
  let other := hexDigits named.2
  (base, named.1 ++ (if named.2 ≠ 0#32 then [("other bits", s!"0x{other}")] else []))

/-- Exact short form of a mask. -/
def label (raw : AccessMask) : String :=
  if raw = 0#32 then "none"
  else
    let (base, extras) := decompose raw
    let shorts := Text.join "," (extras.map Prod.snd)
    match base with
    | some level =>
        let levelShort := level.short
        if extras.isEmpty then levelShort else s!"{levelShort}+{shorts}"
    | none => s!"({shorts})"

/-- The long form of one right beyond the base level. -/
def extraName (extra : String × String) : String :=
  let short := extra.2
  if extra.1 = "other bits" then s!"other bits {short}" else extra.1

/-- Exact long form of a mask. -/
def displayName (raw : AccessMask) : String :=
  if raw = 0#32 then "No access"
  else
    let (base, extras) := decompose raw
    let names := Text.join ", " (extras.map extraName)
    match base with
    | some level =>
        let levelName := level.name
        if extras.isEmpty then levelName else s!"{levelName} + {names}"
    | none => s!"Special: {names}"

/-- The prefix of every value that cannot be stated as a fact. -/
def notDeterminable : String := "NOT DETERMINABLE"

/-- The label of a mask in one line. -/
def rightsLabelCompact (mask : AccessMask) (determinable : Bool) : String :=
  let label := displayName mask
  if determinable then label else s!"{notDeterminable} (known data: {label})"

end PermissionEngine
end Stars
