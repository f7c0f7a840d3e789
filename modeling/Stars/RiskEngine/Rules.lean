import Stars.Core.Result
import Stars.PermissionEngine.Rights

namespace Stars
namespace RiskEngine

open PermissionEngine

/-!
# Risk rules

Each rule reads the results of a scan and reports findings.  A rule judges the
highest right the known data leaves open, not the shown one, and words it as a
fact only when the result is exact.
-/

inductive RiskSeverity where
  | info
  | low
  | medium
  | high
  | critical
deriving DecidableEq

structure RiskFinding where
  ruleId : String
  severity : RiskSeverity
  description : String
  affectedPath : Option String
  affectedIdentity : Option Sid
  incomplete : Bool
deriving DecidableEq

/-- The right a rule judges, and how it may word it. -/
structure AuditedRight where
  mask : AccessMask
  has : String
  can : String
  note : String
deriving DecidableEq

/-- The parenthesised reason of a right that is not exact. -/
def uncertainNote (shown mask : AccessMask) : String :=
  let shownName := displayName shown
  let shownHex := Text.hex8 shown
  let maskName := displayName mask
  let maskHex := Text.hex8 mask
  if mask ≠ shown then
    s!" ({notDeterminable}: the known data gives {shownName} (0x{shownHex}); up to {maskName} " ++
      s!"(0x{maskHex}) is possible)"
  else s!" ({notDeterminable}: stated from the known data only)"

def AuditedRight.of (row : EffectivePermission) : AuditedRight :=
  let mask := row.effectiveUpperBound
  if row.effectiveDeterminable then { mask := mask, has := "has", can := "can", note := "" }
  else
    { mask := mask, has := "may have", can := "may be able to",
      note := uncertainNote row.effectiveMask mask }

/-- The name a finding uses for the identity. -/
def subject (row : EffectivePermission) : String := row.identity.name.getD row.identity.sid.value

/-- A finding about a row.  It is incomplete exactly when the row is. -/
def finding (row : EffectivePermission) (ruleId : String) (severity : RiskSeverity)
    (description : String) : RiskFinding where
  ruleId := ruleId
  severity := severity
  description := description
  affectedPath := some row.path
  affectedIdentity := some row.identity.sid
  incomplete := row.isIncomplete

abbrev RiskRule := List EffectivePermission → List RiskFinding

def fullControlFinding (row : EffectivePermission) : Option RiskFinding :=
  let right := AuditedRight.of row
  if !contains right.mask maskFullControl then none
  else
    let name := subject row
    let has := right.has
    let can := right.can
    let note := right.note
    some (finding row "FULL_CONTROL" .critical
      (s!"'{name}' {has} Full Control — {can} read, write, delete and change " ++
        s!"permissions{note}"))

def fullControlRule : RiskRule := fun rows => rows.filterMap fullControlFinding

/-- Bits that create or alter file content. -/
def contentWriteBits : AccessMask := fileWriteData ||| fileAppendData

/-- The content-write bits of a mask by name. -/
def contentWriteBitNames (mask : AccessMask) : String :=
  Text.join " + "
    ((if mask &&& fileWriteData ≠ 0#32 then ["FILE_WRITE_DATA"] else []) ++
      (if mask &&& fileAppendData ≠ 0#32 then ["FILE_APPEND_DATA"] else []))

def writeAccessDescription (row : EffectivePermission) (level : String) : String :=
  let right := AuditedRight.of row
  let name := subject row
  let has := right.has
  let can := right.can
  let note := right.note
  s!"'{name}' {has} {level} access — {can} create or modify files{note}"

def partialWriteDescription (row : EffectivePermission) (bits : String) : String :=
  let right := AuditedRight.of row
  let name := subject row
  let can := right.can
  let note := right.note
  s!"'{name}' {can} write file content via special permissions ({bits}) " ++
    s!"without the full Write composite{note}"

def writeAccessFinding (row : EffectivePermission) : Option RiskFinding :=
  let mask := (AuditedRight.of row).mask
  if contains mask maskFullControl then none
  else if contains mask maskModify || contains mask maskWrite then
    let level := if contains mask maskModify then "Modify" else "Write"
    some (finding row "WRITE_ACCESS" .high (writeAccessDescription row level))
  else if mask &&& contentWriteBits ≠ 0#32 then
    some (finding row "PARTIAL_WRITE" .medium
      (partialWriteDescription row (contentWriteBitNames mask)))
  else none

def writeAccessRule : RiskRule := fun rows => rows.filterMap writeAccessFinding

/-- A finding about one right, when the mask has it. -/
def singleRight (row : EffectivePermission) (bit : AccessMask) (ruleId : String)
    (severity : RiskSeverity) (effect : String) : List RiskFinding :=
  let right := AuditedRight.of row
  let name := subject row
  let can := right.can
  let note := right.note
  if right.mask &&& bit ≠ 0#32 then
    [finding row ruleId severity s!"'{name}' {can} {effect}{note}"]
  else []

def permissionChange (row : EffectivePermission) : List RiskFinding :=
  singleRight row fileWriteDac "PERMISSION_CHANGE" .high
    "change permissions (WRITE_DAC) — enables privilege escalation"

def ownerChange (row : EffectivePermission) : List RiskFinding :=
  singleRight row fileWriteOwner "OWNER_CHANGE" .high
    "take ownership (WRITE_OWNER) — enables privilege escalation"

def deleteRight (row : EffectivePermission) : List RiskFinding :=
  singleRight row fileDelete "DELETE_RIGHT" .medium "delete this object (DELETE)"

def deleteChildRight (row : EffectivePermission) : List RiskFinding :=
  singleRight row fileDeleteChild "DELETE_CHILD_RIGHT" .medium
    "delete child objects (DELETE_CHILD)"

def adminRightsFindings (row : EffectivePermission) : List RiskFinding :=
  if contains (AuditedRight.of row).mask maskFullControl then []
  else permissionChange row ++ ownerChange row ++ deleteRight row ++ deleteChildRight row

def adminRightsRule : RiskRule := fun rows => rows.flatMap adminRightsFindings

def sidEveryone : String := "S-1-1-0"

def sidAuthenticatedUsers : String := "S-1-5-11"

def sidAnonymousLogon : String := "S-1-5-7"

def sidNetwork : String := "S-1-5-2"

def broadSids : List String := [sidEveryone, sidAuthenticatedUsers, sidAnonymousLogon, sidNetwork]

/-- The name of a broad group and the audience it stands for. -/
def broadGroup (sid : String) : String × String :=
  if sid = sidEveryone then ("Everyone", "every user, including guests")
  else if sid = sidAuthenticatedUsers then
    ("Authenticated Users", "every authenticated user in the domain")
  else if sid = sidAnonymousLogon then ("Anonymous Logon", "unauthenticated clients")
  else if sid = sidNetwork then ("NETWORK", "every user connecting over the network")
  else (sid, "a broad built-in principal")

def broadGroupWriteFinding (row : EffectivePermission) : Option RiskFinding :=
  let right := AuditedRight.of row
  let written := right.mask &&& contentWriteBits
  if written = 0#32 then none
  else
    (row.contributingSids.find? (fun ace =>
        broadSids.contains ace.sid.value && ace.mask &&& written ≠ 0#32)).map (fun broad =>
      let (group, scope) := broadGroup broad.sid.value
      let name := subject row
      let has := right.has
      let note := right.note
      finding row "BROAD_GROUP_WRITE" .critical
        s!"'{name}' {has} write access via '{group}' — affects {scope}{note}")

def broadGroupWriteRule : RiskRule := fun rows => rows.filterMap broadGroupWriteFinding

/-- A leaf principal with an explicit entry of its own. -/
def hasDirectAce (row : EffectivePermission) : Bool :=
  (row.identity.kind == .user || row.identity.kind == .computer) &&
    row.matchedAces.any (fun ace => !ace.inherited && ace.sid.value == row.identity.sid.value)

def directUserAceFinding (row : EffectivePermission) : RiskFinding :=
  let name := subject row
  finding row "DIRECT_USER_ACE" .low
    s!"'{name}' has a direct explicit ACE — best practice is to assign permissions via groups"

def directUserAceRule : RiskRule := fun rows => (rows.filter hasDirectAce).map directUserAceFinding

/-- Path keywords that indicate sensitive data. -/
def sensitiveKeywords : List String := [
  "password", "passwort", "pwd", "login", "credential", "credentials", "secret", "secrets",
  "token", "api-key", "apikey", "keyfile", "private-key", "ssh-key", "private_key", "ssh_key",
  "id_rsa", "id_dsa", "id_ecdsa", "id_ed25519", "zugangsdaten", "kennwort", "kennwört",
  "kennwoert", ".kdbx", ".kdb", ".pfx", ".p12", ".ppk"]

/-- The keyword occurs in the text. -/
def containsText (text keyword : String) : Bool :=
  text.toList.tails.any (fun rest => keyword.toList.isPrefixOf rest)

section Registry

-- Lower case as the standard library computes it for any script.
variable (toLowercase : String → String)

/-- The row can be accessed and its path has a keyword. -/
def isSensitive (row : EffectivePermission) : Bool :=
  (AuditedRight.of row).mask ≠ 0#32 &&
    sensitiveKeywords.any (containsText (toLowercase row.path))

def sensitivePathFinding (row : EffectivePermission) : RiskFinding :=
  let right := AuditedRight.of row
  let name := subject row
  let keyword := (sensitiveKeywords.find? (containsText (toLowercase row.path))).getD "sensitive"
  let has := right.has
  let note := right.note
  finding row "SENSITIVE_PATH" .medium
    (s!"Path contains keyword '{keyword}' — may contain credentials or secrets; " ++
      s!"'{name}' {has} access{note}")

def sensitivePathRule : RiskRule := fun rows =>
  (rows.filter (isSensitive toLowercase)).map (sensitivePathFinding toLowercase)

/-! ## The registry -/

structure RuleRegistry where
  rules : List RiskRule

/-- All built-in rules. -/
def RuleRegistry.withDefaults : RuleRegistry :=
  ⟨[fullControlRule, writeAccessRule, adminRightsRule, broadGroupWriteRule, directUserAceRule,
    sensitivePathRule toLowercase]⟩

end Registry

def RuleRegistry.evaluateAll (registry : RuleRegistry) (rows : List EffectivePermission) :
    List RiskFinding :=
  registry.rules.flatMap (fun rule => rule rows)

/-- Findings collected result by result, one list for each rule. -/
structure RiskAccumulator where
  registry : RuleRegistry
  perRule : List (List RiskFinding)

def RuleRegistry.accumulator (registry : RuleRegistry) : RiskAccumulator :=
  ⟨registry, List.replicate registry.rules.length []⟩

/-- Append what each rule finds to the list of that rule. -/
def extendEach (rows : List EffectivePermission) :
    List RiskRule → List (List RiskFinding) → List (List RiskFinding)
  | rule :: rules, found :: others => (found ++ rule rows) :: extendEach rows rules others
  | _, others => others

/-- Evaluate every rule for one result. -/
def RiskAccumulator.add (accumulator : RiskAccumulator) (row : EffectivePermission) :
    RiskAccumulator :=
  { accumulator with perRule := extendEach [row] accumulator.registry.rules accumulator.perRule }

def RiskAccumulator.finish (accumulator : RiskAccumulator) : List RiskFinding :=
  accumulator.perRule.flatten

/-- Findings of results that arrive one by one. -/
def RuleRegistry.evaluateStreamed (registry : RuleRegistry) (rows : List EffectivePermission) :
    List RiskFinding :=
  (rows.foldl RiskAccumulator.add registry.accumulator).finish

end RiskEngine
end Stars
