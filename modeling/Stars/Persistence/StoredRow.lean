import Stars.Collections.Fallible
import Stars.Core.Error
import Stars.Core.Explanation

namespace Stars
namespace Persistence

/-!
# Stored results

One result is one row of the table of effective permissions.  The row holds
four kinds of columns: signed integers for masks and counts, texts for the
enumerations, a status with an optional error text, and JSON texts for the
evidence lists.  Writing and reading are separate functions; the database
itself stores any value in any column.
-/

/-- A stored value.  `blob` stands for all bytes that are no text. -/
inductive SqlValue where
  | null
  | integer (value : BitVec 64)
  | real (bits : BitVec 64)
  | text (value : String)
  | blob (bytes : List (BitVec 8))
deriving DecidableEq

/-- JSON texts of one type of values. -/
structure Json (Value : Type) where
  toText : Value → Except String String
  fromText : String → Except String Value

/-- What is taken from the libraries: the JSON of the evidence lists, and the
driver's text for a column that holds a value of another type. -/
structure RowCodec where
  explanation : Json (List String)
  contributingSids : Json (List ContributingAce)
  matchedAces : Json (List AceEntry)
  diagnostics : Json (List PermissionDiagnostic)
  columnError : String → SqlValue → String

/-- The columns of one row, without its own id and the id of its run. -/
structure StoredRow where
  sid : SqlValue
  path : SqlValue
  ntfsMask : SqlValue
  shareMask : SqlValue
  effectiveMask : SqlValue
  explanation : SqlValue
  shareStatus : SqlValue
  shareError : SqlValue
  contributingSids : SqlValue
  unsupportedAceCount : SqlValue
  matchedAces : SqlValue
  localGroupStatus : SqlValue
  localGroupError : SqlValue
  diagnostics : SqlValue
  identityName : SqlValue
  identityDomain : SqlValue
  identityKind : SqlValue
  identityDisabled : SqlValue
deriving DecidableEq

def kindToStr : IdentityKind → String
  | .user => "User"
  | .group => "Group"
  | .computer => "Computer"
  | .wellKnown => "WellKnown"
  | .foreignSecurityPrincipal => "ForeignSecurityPrincipal"
  | .orphaned => "Orphaned"
  | .unknown => "Unknown"

/-- A mask as a signed integer: the cast widens without a sign. -/
def maskColumn (mask : AccessMask) : SqlValue := .integer (mask.setWidth 64)

/-- A count as a signed integer: the cast keeps the low 64 bits. -/
def countColumn (count : Nat) : SqlValue := .integer (BitVec.ofNat 64 count)

def optionalColumn {Value : Type} (column : Value → SqlValue) : Option Value → SqlValue
  | none => .null
  | some value => column value

/-- A status text with an optional error text. -/
def shareStatusColumns : ShareEvalStatus → SqlValue × SqlValue
  | .notApplicable => (.text "NotApplicable", .null)
  | .applied => (.text "Applied", .null)
  | .unrestricted => (.text "Unrestricted", .null)
  | .readFailed message => (.text "ReadFailed", .text message)

def localGroupStatusColumns : LocalGroupEvalStatus → SqlValue × SqlValue
  | .notQueried => (.text "NotQueried", .null)
  | .applied => (.text "Applied", .null)
  | .notAvailable message => (.text "NotAvailable", .text message)

/-- The text of an evidence list; the error names the field and the path. -/
def encodeEvidence {Value : Type} (json : Json Value) (value : Value)
    (field path : String) : Except CoreError String :=
  match json.toText value with
  | .ok text => .ok text
  | .error reason =>
      .error (.database s!"serializing evidence field '{field}' for path '{path}': {reason}")

/-- The values a result is inserted with. -/
def permissionRow (codec : RowCodec) (perm : ExplainedPermission) : Except CoreError StoredRow := do
  let explanation ← encodeEvidence codec.explanation perm.pathExplanation "explanation" perm.path
  let contributing ←
    encodeEvidence codec.contributingSids perm.contributingSids "contributing_sids" perm.path
  let matchedAces ← encodeEvidence codec.matchedAces perm.matchedAces "matched_aces" perm.path
  let diagnostics ← encodeEvidence codec.diagnostics perm.diagnostics "diagnostics" perm.path
  let (shareStatus, shareError) := shareStatusColumns perm.shareStatus
  let (localGroupStatus, localGroupError) := localGroupStatusColumns perm.localGroupStatus
  return {
    sid := .text perm.identity.sid.value
    path := .text perm.path
    ntfsMask := maskColumn perm.ntfsMask
    shareMask := optionalColumn maskColumn perm.shareMask
    effectiveMask := maskColumn perm.effectiveMask
    explanation := .text explanation
    shareStatus := shareStatus
    shareError := shareError
    contributingSids := .text contributing
    unsupportedAceCount := countColumn perm.unsupportedAceCount
    matchedAces := .text matchedAces
    localGroupStatus := localGroupStatus
    localGroupError := localGroupError
    diagnostics := .text diagnostics
    identityName := optionalColumn .text perm.identity.name
    identityDomain := optionalColumn .text perm.identity.domain
    identityKind := .text (kindToStr perm.identity.kind)
    identityDisabled := .integer (if perm.identity.disabled then 1#64 else 0#64) }

/-! ## Reading -/

def kindFromStr (text : String) : IdentityKind :=
  if text = "User" then .user
  else if text = "Group" then .group
  else if text = "Computer" then .computer
  else if text = "WellKnown" then .wellKnown
  else if text = "ForeignSecurityPrincipal" then .foreignSecurityPrincipal
  else if text = "Orphaned" then .orphaned
  else .unknown

section Reading

variable (codec : RowCodec)

def getInteger (column : String) (value : SqlValue) : Except CoreError (BitVec 64) :=
  match value with
  | .integer number => .ok number
  | other => .error (.database (codec.columnError column other))

def getText (column : String) (value : SqlValue) : Except CoreError String :=
  match value with
  | .text text => .ok text
  | other => .error (.database (codec.columnError column other))

/-- A nullable column. -/
def getOptional {Value : Type} (get : String → SqlValue → Except CoreError Value)
    (column : String) (value : SqlValue) : Except CoreError (Option Value) :=
  match value with
  | .null => .ok none
  | present => (get column present).map some

/-- A 32-bit signed integer. -/
def getShortInteger (column : String) (value : SqlValue) : Except CoreError (BitVec 32) :=
  match value with
  | .integer number =>
      if -(2 ^ 31) ≤ number.toInt ∧ number.toInt < 2 ^ 31 then .ok (number.setWidth 32)
      else .error (.database (codec.columnError column value))
  | other => .error (.database (codec.columnError column other))

end Reading

/-- Raw column values of one row, before JSON decoding. -/
structure RawPermRow where
  sid : String
  path : String
  ntfs : BitVec 64
  share : Option (BitVec 64)
  eff : BitVec 64
  expl : String
  shareStatusStr : String
  shareError : Option String
  contributingJson : String
  unsupportedAceCount : BitVec 64
  matchedAcesJson : String
  localGroupStatusStr : String
  localGroupError : Option String
  diagnosticsJson : Option String
  name : Option String
  domain : Option String
  kindStr : String
  disabled : BitVec 32

/-- The columns in the order of the query. -/
def rawRow (codec : RowCodec) (row : StoredRow) : Except CoreError RawPermRow := do
  let sid ← getText codec "sid" row.sid
  let path ← getText codec "path" row.path
  let ntfs ← getInteger codec "ntfs_mask" row.ntfsMask
  let share ← getOptional (getInteger codec) "share_mask" row.shareMask
  let eff ← getInteger codec "effective_mask" row.effectiveMask
  let expl ← getText codec "explanation" row.explanation
  let shareStatusStr ← getText codec "share_status" row.shareStatus
  let shareError ← getOptional (getText codec) "share_error" row.shareError
  let contributingJson ← getText codec "contributing_sids" row.contributingSids
  let unsupportedAceCount ← getInteger codec "unsupported_ace_count" row.unsupportedAceCount
  let matchedAcesJson ← getText codec "matched_aces" row.matchedAces
  let localGroupStatusStr ← getText codec "local_group_status" row.localGroupStatus
  let localGroupError ← getOptional (getText codec) "local_group_error" row.localGroupError
  let diagnosticsJson ← getOptional (getText codec) "diagnostics" row.diagnostics
  let name ← getOptional (getText codec) "identity_name" row.identityName
  let domain ← getOptional (getText codec) "identity_domain" row.identityDomain
  let kindStr ← getText codec "identity_kind" row.identityKind
  let disabled ← getShortInteger codec "identity_disabled" row.identityDisabled
  return { sid, path, ntfs, share, eff, expl, shareStatusStr, shareError, contributingJson,
           unsupportedAceCount, matchedAcesJson, localGroupStatusStr, localGroupError,
           diagnosticsJson, name, domain, kindStr, disabled }

/-- A stored mask has to be in the range of a mask. -/
def decodeMask (field path : String) (value : BitVec 64) : Except CoreError AccessMask :=
  if 0 ≤ value.toInt ∧ value.toInt < 2 ^ 32 then .ok (value.setWidth 32)
  else
    let stored := toString value.toInt
    .error (.database (s!"corrupt persisted evidence: field '{field}' for path '{path}' " ++
      s!"holds {stored}, outside the valid access-mask range"))

/-- Required evidence: a text that cannot be decoded is an error. -/
def decodeEvidence {Value : Type} (json : Json Value) (field path text : String) : Except CoreError Value :=
  match json.fromText text with
  | .ok value => .ok value
  | .error reason =>
      .error (.database (s!"corrupt persisted evidence: field '{field}' for path '{path}' " ++
        s!"could not be decoded: {reason}"))

/-- A list of diagnostics that cannot be decoded becomes a marker. -/
def decodeDiagnostics (json : Json (List PermissionDiagnostic)) :
    Option String → List PermissionDiagnostic × List PermissionDiagnostic
  | none => ([], [])
  | some text =>
      match json.fromText text with
      | .ok diagnostics => (diagnostics, [])
      | .error reason =>
          ([], [.persistedEvidenceDecodeFailed
            s!"stored diagnostics list could not be decoded: {reason}"])

/-- An unknown status falls back to the default, with a marker. -/
def decodeShareStatus (text : String) (message : Option String) :
    ShareEvalStatus × List PermissionDiagnostic :=
  if text = "NotApplicable" then (.notApplicable, [])
  else if text = "Applied" then (.applied, [])
  else if text = "Unrestricted" then (.unrestricted, [])
  else if text = "ReadFailed" then (.readFailed (message.getD ""), [])
  else (.notApplicable,
    [.persistedEvidenceDecodeFailed s!"unknown stored share status '{text}'"])

def decodeLocalGroupStatus (text : String) (message : Option String) :
    LocalGroupEvalStatus × List PermissionDiagnostic :=
  if text = "NotQueried" then (.notQueried, [])
  else if text = "Applied" then (.applied, [])
  else if text = "NotAvailable" then (.notAvailable (message.getD ""), [])
  else (.notQueried,
    [.persistedEvidenceDecodeFailed s!"unknown stored local-group status '{text}'"])

/-- Decodes a row into a result. -/
def RawPermRow.intoPermission (codec : RowCodec) (raw : RawPermRow) :
    Except CoreError ExplainedPermission := do
  let ntfsMask ← decodeMask "ntfs_mask" raw.path raw.ntfs
  let shareMask ← raw.share.mapM (decodeMask "share_mask" raw.path)
  let effectiveMask ← decodeMask "effective_mask" raw.path raw.eff
  let steps ← decodeEvidence codec.explanation "explanation" raw.path raw.expl
  let contributingSids ←
    decodeEvidence codec.contributingSids "contributing_sids" raw.path raw.contributingJson
  let matchedAces ← decodeEvidence codec.matchedAces "matched_aces" raw.path raw.matchedAcesJson
  let (diagnostics, undecoded) := decodeDiagnostics codec.diagnostics raw.diagnosticsJson
  let (shareStatus, unknownShare) := decodeShareStatus raw.shareStatusStr raw.shareError
  let (localGroupStatus, unknownLocal) :=
    decodeLocalGroupStatus raw.localGroupStatusStr raw.localGroupError
  return {
    identity :=
      { sid := ⟨raw.sid⟩
        name := raw.name
        domain := raw.domain
        kind := kindFromStr raw.kindStr
        disabled := raw.disabled ≠ 0 }
    path := raw.path
    ntfsMask := ntfsMask
    shareMask := shareMask
    effectiveMask := effectiveMask
    pathExplanation := steps
    shareStatus := shareStatus
    localGroupStatus := localGroupStatus
    contributingSids := contributingSids
    unsupportedAceCount := raw.unsupportedAceCount.toInt.toNat
    matchedAces := matchedAces
    diagnostics := diagnostics ++ (undecoded ++ unknownShare ++ unknownLocal) }

/-- A stored row read back. -/
def readRow (codec : RowCodec) (row : StoredRow) : Except CoreError ExplainedPermission := do
  let raw ← rawRow codec row
  raw.intoPermission codec

end Persistence
end Stars
