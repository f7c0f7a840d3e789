import Stars.Core.Identity

namespace Stars

/-!
# Objects, access lists and evaluation statuses

The file-system object as the scanner reads it, and the statuses of the share
side and of the local-group resolution.  A NULL DACL (no access control) is a
flag of the object and is kept apart from an empty list (nothing granted).
-/

inductive AceKind where
  | allow
  | deny
deriving DecidableEq

/-- Single entry of an access list. -/
structure AceEntry where
  kind : AceKind
  sid : Sid
  mask : AccessMask
  inherited : Bool := false
  inheritanceFlags : BitVec 32 := 0
  propagationFlags : BitVec 32 := 0
deriving DecidableEq

/-- ACE the parser could not interpret. -/
structure UnsupportedAce where
  aceType : BitVec 8
  flags : BitVec 8
  mask : AccessMask
deriving DecidableEq

/-- Who resolves a link: the computer that holds it or the one that opens it. -/
inductive LinkKind where
  | junction
  | symbolicLink
deriving DecidableEq

structure LinkInfo where
  kind : LinkKind
  target : String
  relative : Bool := false
deriving DecidableEq

structure FileSystemObject where
  path : String
  isDirectory : Bool := true
  ownerSid : Option Sid := none
  dacl : List AceEntry := []
  inheritanceDisabled : Bool := false
  isReparsePoint : Bool := false
  unsupportedAces : List UnsupportedAce := []
  nullDacl : Bool := false
  link : Option LinkInfo := none
  identityUnknown : Option String := none
deriving DecidableEq

/-- Evaluation status of the share DACL in a result. -/
inductive ShareEvalStatus where
  | notApplicable
  | applied
  | unrestricted
  | readFailed (reason : String)
deriving DecidableEq

/-- Input state of the share side.  The mask is carried by the one status that
has it. -/
inductive ShareMaskStatus where
  | notApplicable
  | applied (mask : AccessMask)
  | unrestricted
  | readFailed (reason : String)
deriving DecidableEq

inductive LocalGroupEvalStatus where
  | notQueried
  | applied
  | notAvailable (reason : String)
deriving DecidableEq

/-- Allow ACE SID with the bits it contributed to the NTFS result. -/
structure ContributingAce where
  sid : Sid
  mask : AccessMask
deriving DecidableEq

/-- A DFS path, evaluated on the folder target the client is referred to. -/
structure DfsEvaluation where
  requested : String
  target : String
  folder : Option String
  otherTargets : List String
  otherTargetsKnown : Bool
deriving DecidableEq

end Stars
