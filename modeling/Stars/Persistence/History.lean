import Stars.Persistence.Delta
import Stars.Persistence.StoredRow

namespace Stars
namespace Persistence

open Collections EffectivePermission

/-!
# Scan history

A stored result reads back as itself, apart from the fields a row does not hold.
A row that no result is stored as should read back as an error or as an
incomplete result.  Some columns are read leniently: the kind of the identity,
the count, the error texts of a status without one, and the spelling of the
evidence.  A damaged row passes for an exact result exactly when all its damage
is in these columns and nothing else in it is uncertain.
-/

theorem decodeMask_maskColumn (field path : String) (mask : AccessMask) :
    decodeMask field path (mask.setWidth 64) = .ok mask := by
  have bounded := mask.isLt
  have unsigned : (mask.setWidth 64).toInt = mask.toNat := by
    rw [BitVec.toInt_setWidth, Int.bmod_eq_of_le (by omega) (by omega)]
  rw [decodeMask, if_pos]
  · rw [BitVec.setWidth_setWidth_of_le _ (by decide), BitVec.setWidth_eq]
  · omega

theorem kindFromStr_kindToStr (kind : IdentityKind) : kindFromStr (kindToStr kind) = kind := by
  cases kind <;> decide

theorem decodeShareStatus_columns (status : ShareEvalStatus) :
    ∃ text message, shareStatusColumns status = (.text text, optionalColumn .text message) ∧
      decodeShareStatus text message = (status, []) := by
  cases status with
  | notApplicable => exact ⟨_, none, rfl, rfl⟩
  | applied => exact ⟨_, none, rfl, rfl⟩
  | unrestricted => exact ⟨_, none, rfl, rfl⟩
  | readFailed message => exact ⟨_, some message, rfl, rfl⟩

theorem decodeLocalGroupStatus_columns (status : LocalGroupEvalStatus) :
    ∃ text message, localGroupStatusColumns status = (.text text, optionalColumn .text message) ∧
      decodeLocalGroupStatus text message = (status, []) := by
  cases status with
  | notQueried => exact ⟨_, none, rfl, rfl⟩
  | applied => exact ⟨_, none, rfl, rfl⟩
  | notAvailable message => exact ⟨_, some message, rfl, rfl⟩

/-- A count is stored in 64 bits, and a negative one is read as zero. -/
theorem countColumn_toNat_iff (count : Nat) :
    (BitVec.ofNat 64 count).toInt.toNat = count ↔ count < 2 ^ 63 := by
  rw [BitVec.toInt_ofNat']
  constructor
  · intro same
    have upper : Int.bmod count (2 ^ 64) < (((2 ^ 64 : Nat) : Int) + 1) / 2 :=
      Int.bmod_lt (by decide)
    omega
  · intro small
    rw [Int.bmod_eq_of_le (by omega) (by omega)]
    omega

section Columns

variable {codec : RowCodec} {column : String} {value : SqlValue}

theorem getText_eq_ok_iff {text : String} :
    getText codec column value = .ok text ↔ value = .text text := by
  cases value <;> simp [getText]

theorem getInteger_eq_ok_iff {number : BitVec 64} :
    getInteger codec column value = .ok number ↔ value = .integer number := by
  cases value <;> simp [getInteger]

theorem getOptional_text_eq_ok_iff {text : Option String} :
    getOptional (getText codec) column value = .ok text ↔ value = optionalColumn .text text := by
  cases value <;> cases text <;> simp [getOptional, getText, optionalColumn, Except.map]

theorem getOptional_integer_eq_ok_iff {number : Option (BitVec 64)} :
    getOptional (getInteger codec) column value = .ok number ↔
      value = optionalColumn .integer number := by
  cases value <;> cases number <;> simp [getOptional, getInteger, optionalColumn, Except.map]

theorem getShortInteger_eq_ok_iff {number : BitVec 32} :
    getShortInteger codec column value = .ok number ↔ ∃ wide, value = .integer wide ∧
      (-(2 ^ 31) ≤ wide.toInt ∧ wide.toInt < 2 ^ 31) ∧ wide.setWidth 32 = number := by
  cases value with
  | integer wide =>
      simp only [getShortInteger, SqlValue.integer.injEq, exists_eq_left']
      split
      · rename_i inRange
        rw [Except.ok.injEq]
        exact (and_iff_right inRange).symm
      · rename_i outside
        exact iff_of_false (fun impossible => nomatch impossible) (fun both => outside both.1)
  | _ => simp [getShortInteger]

theorem decodeMask_eq_ok_iff {field path : String} {stored : BitVec 64} {mask : AccessMask} :
    decodeMask field path stored = .ok mask ↔ stored = mask.setWidth 64 := by
  constructor
  · intro decoded
    rw [decodeMask] at decoded
    split at decoded
    · rename_i inRange
      rw [← Except.ok.inj decoded]
      apply BitVec.eq_of_toNat_eq
      rw [BitVec.toNat_setWidth, BitVec.toNat_setWidth]
      have nonnegative := BitVec.toInt_eq_toNat_cond stored
      have bounded := stored.isLt
      split at nonnegative
      · omega
      · omega
    · cases decoded
  · intro widened
    rw [widened]
    exact decodeMask_maskColumn field path mask

theorem decodeEvidence_eq_ok_iff {Value : Type} {json : Json Value} {field path text : String}
    {decoded : Value} :
    decodeEvidence json field path text = .ok decoded ↔ json.fromText text = .ok decoded := by
  rw [decodeEvidence]
  cases json.fromText text <;> simp

end Columns

/-- The row that raw column values are read from. -/
theorem rawRow_eq_ok_iff {codec : RowCodec} {row : StoredRow} {raw : RawPermRow} :
    rawRow codec row = .ok raw ↔
      row.sid = .text raw.sid ∧ row.path = .text raw.path ∧ row.ntfsMask = .integer raw.ntfs ∧
      row.shareMask = optionalColumn .integer raw.share ∧
      row.effectiveMask = .integer raw.eff ∧ row.explanation = .text raw.expl ∧
      row.shareStatus = .text raw.shareStatusStr ∧
      row.shareError = optionalColumn .text raw.shareError ∧
      row.contributingSids = .text raw.contributingJson ∧
      row.unsupportedAceCount = .integer raw.unsupportedAceCount ∧
      row.matchedAces = .text raw.matchedAcesJson ∧
      row.localGroupStatus = .text raw.localGroupStatusStr ∧
      row.localGroupError = optionalColumn .text raw.localGroupError ∧
      row.diagnostics = optionalColumn .text raw.diagnosticsJson ∧
      row.identityName = optionalColumn .text raw.name ∧
      row.identityDomain = optionalColumn .text raw.domain ∧
      row.identityKind = .text raw.kindStr ∧
      getShortInteger codec "identity_disabled" row.identityDisabled = .ok raw.disabled := by
  simp only [rawRow, bind_eq_ok_iff, getText_eq_ok_iff, getInteger_eq_ok_iff,
    getOptional_text_eq_ok_iff, getOptional_integer_eq_ok_iff]
  constructor
  · rintro ⟨sid, h1, path, h2, ntfs, h3, share, h4, eff, h5, expl, h6, status, h7, error, h8,
      contributing, h9, count, h10, matchedEncoded, h11, localStatus, h12, localError, h13,
      diagnostics, h14, name, h15, domain, h16, kind, h17, disabled, h18, built⟩
    rw [← Except.ok.inj built]
    exact ⟨h1, h2, h3, h4, h5, h6, h7, h8, h9, h10, h11, h12, h13, h14, h15, h16, h17, h18⟩
  · rintro ⟨h1, h2, h3, h4, h5, h6, h7, h8, h9, h10, h11, h12, h13, h14, h15, h16, h17, h18⟩
    exact ⟨_, h1, _, h2, _, h3, _, h4, _, h5, _, h6, _, h7, _, h8, _, h9, _, h10, _, h11, _, h12,
      _, h13, _, h14, _, h15, _, h16, _, h17, _, h18, rfl⟩

/-- The result that raw column values are decoded into. -/
theorem intoPermission_eq_ok_iff {codec : RowCodec} {raw : RawPermRow} {back : ExplainedPermission} :
    raw.intoPermission codec = .ok back ↔
      ∃ ntfsMask shareMask effectiveMask steps contributingSids matchedAces,
        raw.ntfs = ntfsMask.setWidth 64 ∧ raw.share = shareMask.map (·.setWidth 64) ∧
        raw.eff = effectiveMask.setWidth 64 ∧ codec.explanation.fromText raw.expl = .ok steps ∧
        codec.contributingSids.fromText raw.contributingJson = .ok contributingSids ∧
        codec.matchedAces.fromText raw.matchedAcesJson = .ok matchedAces ∧
        back =
          { identity :=
              { sid := ⟨raw.sid⟩
                name := raw.name
                domain := raw.domain
                kind := kindFromStr raw.kindStr
                disabled := raw.disabled ≠ 0 }
            path := raw.path
            ntfsMask := ntfsMask
            shareMask := shareMask
            effectiveMask := effectiveMask
            pathExplanation := steps
            shareStatus := (decodeShareStatus raw.shareStatusStr raw.shareError).1
            localGroupStatus :=
              (decodeLocalGroupStatus raw.localGroupStatusStr raw.localGroupError).1
            contributingSids := contributingSids
            unsupportedAceCount := raw.unsupportedAceCount.toInt.toNat
            matchedAces := matchedAces
            diagnostics := (decodeDiagnostics codec.diagnostics raw.diagnosticsJson).1 ++
              ((decodeDiagnostics codec.diagnostics raw.diagnosticsJson).2 ++
                (decodeShareStatus raw.shareStatusStr raw.shareError).2 ++
                (decodeLocalGroupStatus raw.localGroupStatusStr raw.localGroupError).2) } := by
  have shareMasks : ∀ mask, raw.share.mapM (decodeMask "share_mask" raw.path) = .ok mask ↔
      raw.share = mask.map (·.setWidth 64) := by
    intro mask
    cases raw.share with
    | none => cases mask <;> simp [pure, Except.pure]
    | some stored =>
        rw [Option.mapM_some]
        cases mask with
        | none => cases decodeMask "share_mask" raw.path stored <;> simp [Functor.map, Except.map]
        | some mask =>
            have single : decodeMask "share_mask" raw.path stored = .ok mask ↔
                stored = mask.setWidth 64 := decodeMask_eq_ok_iff
            rw [Option.map_some, Option.some.injEq, ← single]
            cases decodeMask "share_mask" raw.path stored <;> simp [Functor.map, Except.map]
  simp only [RawPermRow.intoPermission, bind_eq_ok_iff, decodeMask_eq_ok_iff,
    decodeEvidence_eq_ok_iff, shareMasks]
  constructor
  · rintro ⟨ntfs, h1, share, h2, eff, h3, steps, h4, contributing, h5, matchedEncoded, h6, built⟩
    exact ⟨ntfs, share, eff, steps, contributing, matchedEncoded, h1, h2, h3, h4, h5, h6,
      (Except.ok.inj built).symm⟩
  · rintro ⟨ntfs, share, eff, steps, contributing, matchedEncoded, h1, h2, h3, h4, h5, h6, built⟩
    rw [built]
    exact ⟨ntfs, h1, share, h2, eff, h3, steps, h4, contributing, h5, matchedEncoded, h6, rfl⟩

/-- The result without the fields a row does not hold. -/
def asStored (perm : ExplainedPermission) : ExplainedPermission :=
  { perm with
    identity :=
      { perm.identity with userPrincipalName := none, sidHistoryCount := 0, sidHistory := [] }
    trace := {} }

/-- The text of a value is read back as the value. -/
def Json.RoundTrips {Value : Type} (json : Json Value) (value : Value) : Prop :=
  ∃ text, json.toText value = .ok text ∧ json.fromText text = .ok value

/-- The evidence lists of a result are read back as they are. -/
structure RowCodec.RoundTripsOn (codec : RowCodec) (perm : ExplainedPermission) : Prop where
  explanation : codec.explanation.RoundTrips perm.pathExplanation
  contributingSids : codec.contributingSids.RoundTrips perm.contributingSids
  matchedAces : codec.matchedAces.RoundTrips perm.matchedAces
  diagnostics : codec.diagnostics.RoundTrips perm.diagnostics

/-- The result is written, and read back without the fields a row does not
hold.  What is recomputed from it is the same. -/
def ReadsBack (codec : RowCodec) (perm : ExplainedPermission) : Prop :=
  ∃ row back, permissionRow codec perm = .ok row ∧ readRow codec row = .ok back ∧
    back = asStored perm ∧ back.uncertainty = perm.uncertainty ∧
    back.effectiveUpperBound = perm.effectiveUpperBound ∧
    PermissionSignature.ofPermission back.toEffectivePermission =
      PermissionSignature.ofPermission perm.toEffectivePermission

section RoundTrip

variable {codec : RowCodec} {perm : ExplainedPermission}

/-- The row as written is read back with the count that its column holds. -/
theorem readRow_permissionRow (lawful : codec.RoundTripsOn perm) :
    ∃ row, permissionRow codec perm = .ok row ∧ readRow codec row = .ok
      { asStored perm with
        unsupportedAceCount := (BitVec.ofNat 64 perm.unsupportedAceCount).toInt.toNat } := by
  rcases lawful.explanation with ⟨explanation, explanationText, explanationRead⟩
  rcases lawful.contributingSids with ⟨contributing, contributingText, contributingRead⟩
  rcases lawful.matchedAces with ⟨matchedEncoded, matchedText, matchedRead⟩
  rcases lawful.diagnostics with ⟨diagnostics, diagnosticsText, diagnosticsRead⟩
  rcases decodeShareStatus_columns perm.shareStatus with ⟨share, shareMessage, shareText, shareRead⟩
  rcases decodeLocalGroupStatus_columns perm.localGroupStatus with
    ⟨localGroup, localMessage, localText, localRead⟩
  have written : permissionRow codec perm = .ok
      { sid := .text perm.identity.sid.value
        path := .text perm.path
        ntfsMask := maskColumn perm.ntfsMask
        shareMask := optionalColumn maskColumn perm.shareMask
        effectiveMask := maskColumn perm.effectiveMask
        explanation := .text explanation
        shareStatus := .text share
        shareError := optionalColumn .text shareMessage
        contributingSids := .text contributing
        unsupportedAceCount := countColumn perm.unsupportedAceCount
        matchedAces := .text matchedEncoded
        localGroupStatus := .text localGroup
        localGroupError := optionalColumn .text localMessage
        diagnostics := .text diagnostics
        identityName := optionalColumn .text perm.identity.name
        identityDomain := optionalColumn .text perm.identity.domain
        identityKind := .text (kindToStr perm.identity.kind)
        identityDisabled := .integer (if perm.identity.disabled then 1#64 else 0#64) } := by
    simp only [permissionRow, encodeEvidence, explanationText, contributingText, matchedText,
      diagnosticsText, shareText, localText]
    rfl
  let raw : RawPermRow :=
    { sid := perm.identity.sid.value
      path := perm.path
      ntfs := perm.ntfsMask.setWidth 64
      share := perm.shareMask.map (·.setWidth 64)
      eff := perm.effectiveMask.setWidth 64
      expl := explanation
      shareStatusStr := share
      shareError := shareMessage
      contributingJson := contributing
      unsupportedAceCount := BitVec.ofNat 64 perm.unsupportedAceCount
      matchedAcesJson := matchedEncoded
      localGroupStatusStr := localGroup
      localGroupError := localMessage
      diagnosticsJson := some diagnostics
      name := perm.identity.name
      domain := perm.identity.domain
      kindStr := kindToStr perm.identity.kind
      disabled := if perm.identity.disabled then 1#32 else 0#32 }
  have shareColumn : optionalColumn maskColumn perm.shareMask =
      optionalColumn .integer raw.share := by
    simp only [raw]
    cases perm.shareMask <;> rfl
  have disabled : getShortInteger codec "identity_disabled"
      (.integer (if perm.identity.disabled then 1#64 else 0#64)) = .ok raw.disabled := by
    simp only [raw]
    cases perm.identity.disabled <;> rfl
  have flag : decide ((if perm.identity.disabled then 1#32 else 0#32) ≠ 0) =
      perm.identity.disabled := by
    cases perm.identity.disabled <;> rfl
  have decoded := (@intoPermission_eq_ok_iff codec raw _).mpr ⟨perm.ntfsMask, perm.shareMask,
    perm.effectiveMask, _, _, _, rfl, rfl, rfl, explanationRead, contributingRead, matchedRead, rfl⟩
  refine ⟨_, written, bind_eq_ok_iff.mpr ⟨raw, ?_, decoded.trans ?_⟩⟩
  · exact rawRow_eq_ok_iff.mpr ⟨rfl, rfl, rfl, shareColumn, rfl, rfl, rfl, rfl, rfl, rfl, rfl, rfl,
      rfl, rfl, rfl, rfl, rfl, disabled⟩
  · simp only [raw, shareRead, localRead, decodeDiagnostics, diagnosticsRead,
      kindFromStr_kindToStr, flag, List.append_nil]
    rfl

theorem readsBack_iff (lawful : codec.RoundTripsOn perm) :
    ReadsBack codec perm ↔ perm.unsupportedAceCount < 2 ^ 63 := by
  rw [← countColumn_toNat_iff]
  rcases readRow_permissionRow lawful with ⟨row, written, read⟩
  constructor
  · rintro ⟨other, back, otherWritten, otherRead, same, _⟩
    rw [written] at otherWritten
    rw [← Except.ok.inj otherWritten, read, same] at otherRead
    exact congrArg (fun perm => perm.unsupportedAceCount) (Except.ok.inj otherRead)
  · intro kept
    refine ⟨row, asStored perm, written, ?_, rfl, rfl, rfl, rfl⟩
    rw [read, kept]
    rfl

end RoundTrip

/-! ## Damaged rows -/

/-- The column holds a text that a value is written as. -/
def Json.Writes {Value : Type} (json : Json Value) (column : SqlValue) : Prop :=
  ∃ value text, json.toText value = .ok text ∧ column = .text text

/-- The column holds a text that a value is read from. -/
def Json.Reads {Value : Type} (json : Json Value) (column : SqlValue) : Prop :=
  ∃ text value, column = .text text ∧ json.fromText text = .ok value

/-- Every column of masks, counts, statuses, kind and evidence holds a value
that some result is written with. -/
structure Undamaged (codec : RowCodec) (row : StoredRow) : Prop where
  ntfsMask : ∃ mask, row.ntfsMask = maskColumn mask
  shareMask : ∃ mask, row.shareMask = optionalColumn maskColumn mask
  effectiveMask : ∃ mask, row.effectiveMask = maskColumn mask
  unsupportedAceCount : ∃ count, count < 2 ^ 63 ∧ row.unsupportedAceCount = countColumn count
  shareStatus : ∃ status, (row.shareStatus, row.shareError) = shareStatusColumns status
  localGroupStatus :
    ∃ status, (row.localGroupStatus, row.localGroupError) = localGroupStatusColumns status
  identityKind : ∃ kind, row.identityKind = .text (kindToStr kind)
  explanation : codec.explanation.Writes row.explanation
  contributingSids : codec.contributingSids.Writes row.contributingSids
  matchedAces : codec.matchedAces.Writes row.matchedAces
  diagnostics : codec.diagnostics.Writes row.diagnostics

/-- A damaged row is read back as an error or as an incomplete result. -/
def DamageShows (codec : RowCodec) (row : StoredRow) : Prop :=
  ¬ Undamaged codec row →
    (∃ reason, readRow codec row = .error reason) ∨
      ∃ back, readRow codec row = .ok back ∧ back.isIncomplete = true

/-- A row without anything that is an error or a reason for uncertainty. -/
structure ReadsExact (codec : RowCodec) (row : StoredRow) : Prop where
  sid : ∃ text, row.sid = .text text
  path : ∃ text, row.path = .text text
  ntfsMask : ∃ mask, row.ntfsMask = maskColumn mask
  shareMask : ∃ mask, row.shareMask = optionalColumn maskColumn mask
  effectiveMask : ∃ mask, row.effectiveMask = maskColumn mask
  explanation : codec.explanation.Reads row.explanation
  shareStatus : row.shareStatus ∈
    [SqlValue.text "NotApplicable", .text "Applied", .text "Unrestricted"]
  shareError : ∃ message, row.shareError = optionalColumn .text message
  contributingSids : codec.contributingSids.Reads row.contributingSids
  unsupportedAceCount : ∃ count, row.unsupportedAceCount = .integer count ∧ count.toInt ≤ 0
  matchedAces : codec.matchedAces.Reads row.matchedAces
  localGroupStatus : row.localGroupStatus ∈ [SqlValue.text "NotQueried", .text "Applied"]
  localGroupError : ∃ message, row.localGroupError = optionalColumn .text message
  diagnostics : row.diagnostics = .null ∨ ∃ text markers, row.diagnostics = .text text ∧
    codec.diagnostics.fromText text = .ok markers ∧ ∀ marker ∈ markers, marker.uncertainLayer = none
  identityName : ∃ name, row.identityName = optionalColumn .text name
  identityDomain : ∃ domain, row.identityDomain = optionalColumn .text domain
  identityKind : ∃ text, row.identityKind = .text text
  identityDisabled : ∃ value, row.identityDisabled = .integer value ∧
    -(2 ^ 31) ≤ value.toInt ∧ value.toInt < 2 ^ 31

/-- The columns that are read leniently hold what a result without uncertainty
is written with. -/
structure LenientAsWritten (codec : RowCodec) (row : StoredRow) : Prop where
  shareError : row.shareError = .null
  localGroupError : row.localGroupError = .null
  unsupportedAceCount : row.unsupportedAceCount = countColumn 0
  identityKind : ∃ kind, row.identityKind = .text (kindToStr kind)
  explanation : codec.explanation.Writes row.explanation
  contributingSids : codec.contributingSids.Writes row.contributingSids
  matchedAces : codec.matchedAces.Writes row.matchedAces
  diagnostics : codec.diagnostics.Writes row.diagnostics

/-! ## Rows without uncertainty -/

/-- The fields of a result without uncertainty. -/
theorem isIncomplete_eq_false_iff (result : EffectivePermission) :
    result.isIncomplete = false ↔ (∀ reason, result.shareStatus ≠ .readFailed reason) ∧
      result.unsupportedAceCount = 0 ∧ (∀ reason, result.localGroupStatus ≠ .notAvailable reason) ∧
      ∀ marker ∈ result.diagnostics, marker.uncertainLayer = none := by
  rw [isIncomplete, Bool.not_eq_false', List.isEmpty_iff, uncertainty_nil_iff, ← and_assoc,
    ← and_assoc]
  apply and_congr_left
  intro markers
  have unnamed : ∀ count, .unsupportedNtfsAces count ∉ result.diagnostics := by
    intro count member
    cases markers _ member
  have statuses := mem_statusUncertainty_iff (fun _ => True) result
  simp only [and_true, unnamed, not_false_eq_true, implies_true] at statuses
  rw [List.eq_nil_iff_forall_not_mem, ← not_exists, statuses, not_or, not_or, not_exists,
    not_exists, Nat.pos_iff_ne_zero, not_not, ← and_assoc]

theorem decodeShareStatus_exact_iff (text : String) (message : Option String) :
    ((∀ reason, (decodeShareStatus text message).1 ≠ .readFailed reason) ∧
        ∀ marker ∈ (decodeShareStatus text message).2, marker.uncertainLayer = none) ↔
      SqlValue.text text ∈ [SqlValue.text "NotApplicable", .text "Applied", .text "Unrestricted"] := by
  simp only [List.mem_cons, List.not_mem_nil, or_false, SqlValue.text.injEq]
  by_cases known : text = "NotApplicable" ∨ text = "Applied" ∨ text = "Unrestricted"
  · rcases known with rfl | rfl | rfl <;> simp [decodeShareStatus]
  · rcases not_or.mp known with ⟨notApplicable, others⟩
    rcases not_or.mp others with ⟨applied, unrestricted⟩
    by_cases failed : text = "ReadFailed"
    · rw [failed]
      simp [decodeShareStatus]
    · simp [decodeShareStatus, notApplicable, applied, unrestricted, failed,
        PermissionDiagnostic.uncertainLayer]

theorem decodeLocalGroupStatus_exact_iff (text : String) (message : Option String) :
    ((∀ reason, (decodeLocalGroupStatus text message).1 ≠ .notAvailable reason) ∧
        ∀ marker ∈ (decodeLocalGroupStatus text message).2, marker.uncertainLayer = none) ↔
      SqlValue.text text ∈ [SqlValue.text "NotQueried", .text "Applied"] := by
  simp only [List.mem_cons, List.not_mem_nil, or_false, SqlValue.text.injEq]
  by_cases known : text = "NotQueried" ∨ text = "Applied"
  · rcases known with rfl | rfl <;> simp [decodeLocalGroupStatus]
  · rcases not_or.mp known with ⟨notQueried, applied⟩
    by_cases missing : text = "NotAvailable"
    · rw [missing]
      simp [decodeLocalGroupStatus]
    · simp [decodeLocalGroupStatus, notQueried, applied, missing,
        PermissionDiagnostic.uncertainLayer]

theorem decodeDiagnostics_exact_iff (json : Json (List PermissionDiagnostic))
    (stored : Option String) :
    (∀ marker ∈ (decodeDiagnostics json stored).1 ++ (decodeDiagnostics json stored).2,
        marker.uncertainLayer = none) ↔
      optionalColumn .text stored = .null ∨
        ∃ text markers, optionalColumn .text stored = .text text ∧
          json.fromText text = .ok markers ∧ ∀ marker ∈ markers, marker.uncertainLayer = none := by
  cases stored with
  | none => simp [decodeDiagnostics, optionalColumn]
  | some text =>
      cases decoded : json.fromText text with
      | ok markers => simp [decodeDiagnostics, optionalColumn, decoded]
      | error reason =>
          simp [decodeDiagnostics, optionalColumn, decoded, PermissionDiagnostic.uncertainLayer]

/-- Decoded raw values give a result without uncertainty exactly when no column
is a reason for it. -/
theorem decoded_exact_iff {codec : RowCodec} {raw : RawPermRow} {back : ExplainedPermission}
    (decoded : raw.intoPermission codec = .ok back) :
    back.isIncomplete = false ↔
      SqlValue.text raw.shareStatusStr ∈
          [SqlValue.text "NotApplicable", .text "Applied", .text "Unrestricted"] ∧
        raw.unsupportedAceCount.toInt ≤ 0 ∧
        SqlValue.text raw.localGroupStatusStr ∈ [SqlValue.text "NotQueried", .text "Applied"] ∧
        (optionalColumn .text raw.diagnosticsJson = .null ∨
          ∃ text markers, optionalColumn .text raw.diagnosticsJson = .text text ∧
            codec.diagnostics.fromText text = .ok markers ∧
              ∀ marker ∈ markers, marker.uncertainLayer = none) := by
  rcases intoPermission_eq_ok_iff.mp decoded with
    ⟨_, _, _, _, _, _, _, _, _, _, _, _, built⟩
  rw [built, isIncomplete_eq_false_iff, ← decodeShareStatus_exact_iff _ raw.shareError,
    ← decodeLocalGroupStatus_exact_iff _ raw.localGroupError, ← decodeDiagnostics_exact_iff]
  simp only [List.forall_mem_append, Int.toNat_eq_zero]
  tauto

/-- Reading succeeds without uncertainty exactly for the rows that hold no
error and no reason for it. -/
theorem readRow_exact_iff {codec : RowCodec} {row : StoredRow} :
    (∃ back, readRow codec row = .ok back ∧ back.isIncomplete = false) ↔ ReadsExact codec row := by
  constructor
  · rintro ⟨back, read, complete⟩
    rcases bind_eq_ok_iff.mp read with ⟨raw, rawRead, decoded⟩
    rcases (decoded_exact_iff decoded).mp complete with ⟨share, count, localGroup, diagnostics⟩
    rcases rawRow_eq_ok_iff.mp rawRead with ⟨sid, path, ntfs, shareMask, eff, expl, shareStatus,
      shareError, contributing, unsupported, matchedEncoded, localStatus, localError,
      diagnosticsText, name, domain, kind, disabled⟩
    rcases intoPermission_eq_ok_iff.mp decoded with ⟨ntfsValue, shareValue, effValue, steps,
      contributingSids, matchedAces, ntfsMask, shareMasks, effMask, stepsRead, contributingRead,
      matchedRead, _⟩
    rcases getShortInteger_eq_ok_iff.mp disabled with ⟨wide, held, inRange, _⟩
    refine {
      sid := ⟨_, sid⟩
      path := ⟨_, path⟩
      ntfsMask := ⟨ntfsValue, by rw [ntfs, ntfsMask]; rfl⟩
      shareMask := ⟨shareValue, ?_⟩
      effectiveMask := ⟨effValue, by rw [eff, effMask]; rfl⟩
      explanation := ⟨_, _, expl, stepsRead⟩
      shareStatus := shareStatus ▸ share
      shareError := ⟨_, shareError⟩
      contributingSids := ⟨_, _, contributing, contributingRead⟩
      unsupportedAceCount := ⟨_, unsupported, count⟩
      matchedAces := ⟨_, _, matchedEncoded, matchedRead⟩
      localGroupStatus := localStatus ▸ localGroup
      localGroupError := ⟨_, localError⟩
      diagnostics := diagnosticsText ▸ diagnostics
      identityName := ⟨_, name⟩
      identityDomain := ⟨_, domain⟩
      identityKind := ⟨_, kind⟩
      identityDisabled := ⟨wide, held, inRange.1, inRange.2⟩ }
    rw [shareMask, shareMasks]
    cases shareValue <;> rfl
  · intro readsExact
    rcases readsExact.sid with ⟨sid, sidHeld⟩
    rcases readsExact.path with ⟨path, pathHeld⟩
    rcases readsExact.ntfsMask with ⟨ntfs, ntfsHeld⟩
    rcases readsExact.shareMask with ⟨share, shareHeld⟩
    rcases readsExact.effectiveMask with ⟨eff, effHeld⟩
    rcases readsExact.explanation with ⟨expl, steps, explHeld, stepsRead⟩
    rcases readsExact.shareError with ⟨shareError, shareErrorHeld⟩
    rcases readsExact.contributingSids with ⟨contributing, sids, contributingHeld, contributingRead⟩
    rcases readsExact.unsupportedAceCount with ⟨count, countHeld, nonpositive⟩
    rcases readsExact.matchedAces with ⟨matchedEncoded, aces, matchedHeld, matchedRead⟩
    rcases readsExact.localGroupError with ⟨localError, localErrorHeld⟩
    rcases readsExact.identityName with ⟨name, nameHeld⟩
    rcases readsExact.identityDomain with ⟨domain, domainHeld⟩
    rcases readsExact.identityKind with ⟨kind, kindHeld⟩
    rcases readsExact.identityDisabled with ⟨disabled, disabledHeld, inRange⟩
    have shareStatus : ∃ text, row.shareStatus = .text text := by
      have known := readsExact.shareStatus
      simp only [List.mem_cons, List.not_mem_nil, or_false] at known
      rcases known with known | known | known <;> exact ⟨_, known⟩
    have localGroupStatus : ∃ text, row.localGroupStatus = .text text := by
      have known := readsExact.localGroupStatus
      simp only [List.mem_cons, List.not_mem_nil, or_false] at known
      rcases known with known | known <;> exact ⟨_, known⟩
    have diagnostics : ∃ stored, row.diagnostics = optionalColumn .text stored := by
      rcases readsExact.diagnostics with absent | ⟨text, _, held, _⟩
      · exact ⟨none, absent⟩
      · exact ⟨some text, held⟩
    rcases shareStatus with ⟨shareText, shareStatusHeld⟩
    rcases localGroupStatus with ⟨localText, localStatusHeld⟩
    rcases diagnostics with ⟨stored, diagnosticsHeld⟩
    let raw : RawPermRow :=
      { sid := sid
        path := path
        ntfs := ntfs.setWidth 64
        share := share.map (·.setWidth 64)
        eff := eff.setWidth 64
        expl := expl
        shareStatusStr := shareText
        shareError := shareError
        contributingJson := contributing
        unsupportedAceCount := count
        matchedAcesJson := matchedEncoded
        localGroupStatusStr := localText
        localGroupError := localError
        diagnosticsJson := stored
        name := name
        domain := domain
        kindStr := kind
        disabled := disabled.setWidth 32 }
    have shareColumn : row.shareMask = optionalColumn .integer raw.share := by
      rw [shareHeld]
      cases share <;> rfl
    have rawRead : rawRow codec row = .ok raw := by
      rw [rawRow_eq_ok_iff]
      exact ⟨sidHeld, pathHeld, ntfsHeld, shareColumn, effHeld, explHeld, shareStatusHeld,
        shareErrorHeld, contributingHeld, countHeld, matchedHeld, localStatusHeld, localErrorHeld,
        diagnosticsHeld, nameHeld, domainHeld, kindHeld,
        getShortInteger_eq_ok_iff.mpr ⟨disabled, disabledHeld, inRange, rfl⟩⟩
    have decoded := (@intoPermission_eq_ok_iff codec raw _).mpr ⟨ntfs, share, eff, steps, sids,
      aces, rfl, rfl, rfl, stepsRead, contributingRead, matchedRead, rfl⟩
    refine ⟨_, bind_eq_ok_iff.mpr ⟨raw, rawRead, decoded⟩, (decoded_exact_iff decoded).mpr ?_⟩
    exact ⟨shareStatusHeld ▸ readsExact.shareStatus, nonpositive,
      localStatusHeld ▸ readsExact.localGroupStatus, diagnosticsHeld ▸ readsExact.diagnostics⟩

section Damage

variable {codec : RowCodec} {row : StoredRow}

/-- Among the rows without uncertainty only the lenient columns can be
damaged. -/
theorem undamaged_iff_of_readsExact (readsExact : ReadsExact codec row) :
    Undamaged codec row ↔ LenientAsWritten codec row := by
  constructor
  · intro undamaged
    refine ⟨?_, ?_, ?_, undamaged.identityKind, undamaged.explanation, undamaged.contributingSids,
      undamaged.matchedAces, undamaged.diagnostics⟩
    · rcases undamaged.shareStatus with ⟨status, columns⟩
      have known := readsExact.shareStatus
      rw [(Prod.mk.inj columns).1] at known
      rw [(Prod.mk.inj columns).2]
      cases status with
      | readFailed message =>
          simp at known
      | _ => rfl
    · rcases undamaged.localGroupStatus with ⟨status, columns⟩
      have known := readsExact.localGroupStatus
      rw [(Prod.mk.inj columns).1] at known
      rw [(Prod.mk.inj columns).2]
      cases status with
      | notAvailable message =>
          simp at known
      | _ => rfl
    · rcases undamaged.unsupportedAceCount with ⟨count, small, column⟩
      rcases readsExact.unsupportedAceCount with ⟨value, held, nonpositive⟩
      have same : BitVec.ofNat 64 count = value := SqlValue.integer.inj (column.symm.trans held)
      have zero : count = 0 := by
        have kept := (countColumn_toNat_iff count).mpr small
        rw [same] at kept
        omega
      rw [column, zero]
  · intro lenient
    refine ⟨readsExact.ntfsMask, readsExact.shareMask, readsExact.effectiveMask,
      ⟨0, by decide, lenient.unsupportedAceCount⟩, ?_, ?_, lenient.identityKind,
      lenient.explanation, lenient.contributingSids, lenient.matchedAces, lenient.diagnostics⟩
    · have known := readsExact.shareStatus
      simp only [List.mem_cons, List.not_mem_nil, or_false] at known
      rw [lenient.shareError]
      rcases known with known | known | known
      · exact ⟨.notApplicable, by rw [known]; rfl⟩
      · exact ⟨.applied, by rw [known]; rfl⟩
      · exact ⟨.unrestricted, by rw [known]; rfl⟩
    · have known := readsExact.localGroupStatus
      simp only [List.mem_cons, List.not_mem_nil, or_false] at known
      rw [lenient.localGroupError]
      rcases known with known | known
      · exact ⟨.notQueried, by rw [known]; rfl⟩
      · exact ⟨.applied, by rw [known]; rfl⟩

theorem damageShows_iff :
    DamageShows codec row ↔ (ReadsExact codec row → LenientAsWritten codec row) := by
  constructor
  · intro shows readsExact
    rw [← undamaged_iff_of_readsExact readsExact]
    by_contra damaged
    rcases readRow_exact_iff.mpr readsExact with ⟨back, read, complete⟩
    rcases shows damaged with ⟨reason, failed⟩ | ⟨other, otherRead, incomplete⟩
    · rw [read] at failed
      cases failed
    · rw [read] at otherRead
      rw [← Except.ok.inj otherRead, complete] at incomplete
      cases incomplete
  · intro lenient damaged
    cases read : readRow codec row with
    | error reason => exact Or.inl ⟨reason, rfl⟩
    | ok back =>
        refine Or.inr ⟨back, rfl, ?_⟩
        by_contra complete
        have readsExact := readRow_exact_iff.mp ⟨back, read, Bool.eq_false_iff.mpr complete⟩
        exact damaged ((undamaged_iff_of_readsExact readsExact).mpr (lenient readsExact))

end Damage

/-- A result is kept by the history exactly when its count fits the column, and
the damage of a row shows exactly when the lenient columns of a row without
uncertainty are as written. -/
theorem scanHistory_iff (codec : RowCodec) (perm : ExplainedPermission) (row : StoredRow)
    (lawful : codec.RoundTripsOn perm) :
    (ReadsBack codec perm ↔ perm.unsupportedAceCount < 2 ^ 63) ∧
      (DamageShows codec row ↔ (ReadsExact codec row → LenientAsWritten codec row)) :=
  ⟨readsBack_iff lawful, damageShows_iff⟩

/-- JSON texts of empty lists. -/
def emptyJson (Value : Type) : Json (List Value) where
  toText values := if values.isEmpty then .ok "[]" else .error "not an empty list"
  fromText text := if text = "[]" then .ok [] else .error "expected value"

def emptyEvidence : RowCodec where
  explanation := emptyJson String
  contributingSids := emptyJson ContributingAce
  matchedAces := emptyJson AceEntry
  diagnostics := emptyJson PermissionDiagnostic
  columnError column _ := "Invalid column type: " ++ column

/-- A result without evidence, and its row with the kind overwritten. -/
def readOnlyResult : ExplainedPermission where
  identity := { sid := ⟨"S-1-5-21-1-2-3-1000"⟩ }
  path := "D:\\Data"
  ntfsMask := 0x1#32
  shareMask := none
  effectiveMask := 0x1#32

def overwrittenKind : StoredRow where
  sid := .text "S-1-5-21-1-2-3-1000"
  path := .text "D:\\Data"
  ntfsMask := maskColumn 0x1#32
  shareMask := .null
  effectiveMask := maskColumn 0x1#32
  explanation := .text "[]"
  shareStatus := .text "NotApplicable"
  shareError := .null
  contributingSids := .text "[]"
  unsupportedAceCount := countColumn 0
  matchedAces := .text "[]"
  localGroupStatus := .text "NotQueried"
  localGroupError := .null
  diagnostics := .text "[]"
  identityName := .null
  identityDomain := .null
  identityKind := .text "Administrator"
  identityDisabled := .integer 0#64

/-- JSON texts of the empty list and of one list with one value. -/
def singleJson {Value : Type} [DecidableEq Value] (single : Value) (singleText : String) :
    Json (List Value) where
  toText values :=
    if values = [] then .ok "[]"
    else if values = [single] then .ok singleText
    else .error "another list"
  fromText text :=
    if text = "[]" then .ok []
    else if text = singleText then .ok [single]
    else .error "expected value"

def readingEntry : AceEntry where
  kind := .allow
  sid := ⟨"S-1-5-21-1-2-3-1000"⟩
  mask := 0x1#32

def readingStep : String := "Allow for S-1-5-21-1-2-3-1000"

def singleEvidence : RowCodec where
  explanation := singleJson readingStep ("[\"" ++ readingStep ++ "\"]")
  contributingSids := singleJson ⟨readingEntry.sid, readingEntry.mask⟩
    "[\x7b\"sid\":\"S-1-5-21-1-2-3-1000\",\"mask\":1\x7d]"
  matchedAces := singleJson readingEntry
    ("[\x7b\"kind\":\"Allow\",\"sid\":\"S-1-5-21-1-2-3-1000\",\"mask\":1," ++
      "\"inherited\":false,\"inheritance_flags\":0,\"propagation_flags\":0\x7d]")
  diagnostics := emptyJson PermissionDiagnostic
  columnError column _ := "Invalid column type: " ++ column

/-- The result with the entry that grants it. -/
def matchedResult : ExplainedPermission :=
  { readOnlyResult with
    pathExplanation := [readingStep]
    matchedAces := [readingEntry]
    contributingSids := [⟨readingEntry.sid, readingEntry.mask⟩] }

theorem scanHistory_iff_matchedResult :
    ReadsBack singleEvidence matchedResult ∧
      (DamageShows singleEvidence overwrittenKind ↔
        (ReadsExact singleEvidence overwrittenKind →
          LenientAsWritten singleEvidence overwrittenKind)) := by
  have lawful : singleEvidence.RoundTripsOn matchedResult :=
    ⟨⟨_, rfl, rfl⟩, ⟨_, rfl, rfl⟩, ⟨_, rfl, rfl⟩, ⟨"[]", rfl, rfl⟩⟩
  have settled := scanHistory_iff singleEvidence matchedResult overwrittenKind lawful
  exact ⟨settled.1.mpr (by decide), settled.2⟩

/-- No kind is written as the stored text, and the row is read back as an exact
result all the same. -/
theorem overwrittenKind_passes : ¬ DamageShows emptyEvidence overwrittenKind := by
  intro shows
  have damaged : ¬ Undamaged emptyEvidence overwrittenKind := by
    intro undamaged
    rcases undamaged.identityKind with ⟨kind, written⟩
    have text := SqlValue.text.inj written
    cases kind <;> exact absurd text (by decide)
  have read : readRow emptyEvidence overwrittenKind = .ok
      { readOnlyResult with identity := { readOnlyResult.identity with kind := .unknown } } := rfl
  rcases shows damaged with ⟨reason, failed⟩ | ⟨back, otherRead, incomplete⟩
  · rw [read] at failed
    cases failed
  · rw [read] at otherRead
    rw [← Except.ok.inj otherRead] at incomplete
    exact absurd incomplete (by decide)

end Persistence
end Stars
