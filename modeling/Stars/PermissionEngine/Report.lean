import Stars.PermissionEngine.Bounds

namespace Stars
namespace PermissionEngine

open AccessControl EffectivePermission

/-!
# What a finished result reports

The markers of a result are appended from many sources.  Only one of them can
carry a logon-dependent range, so the range read back from the markers is the
one the bounds computed.  The upper bound is recomputed from the same markers
and holds every right the known data leaves open.
-/

/-- None of the markers states a range. -/
def Rangeless (markers : List PermissionDiagnostic) : Prop :=
  markers.findSome? markerRange = none

theorem Rangeless.append {first second : List PermissionDiagnostic} (left : Rangeless first)
    (right : Rangeless second) : Rangeless (first ++ second) := by
  unfold Rangeless at left right ⊢
  rw [List.findSome?_append, left, right]
  rfl

theorem rangeless_markerIf (condition : Bool) {marker : PermissionDiagnostic}
    (unranged : markerRange marker = none) : Rangeless (markerIf condition marker) := by
  unfold Rangeless markerIf
  split
  · rw [List.findSome?_cons, unranged]
    rfl
  · rfl

theorem rangeless_map {Value : Type} {marker : Value → PermissionDiagnostic}
    (unranged : ∀ value, markerRange (marker value) = none) (values : List Value) :
    Rangeless (values.map marker) := by
  unfold Rangeless
  rw [List.findSome?_map, List.findSome?_eq_none_iff]
  exact fun value _ => unranged value

theorem rangeless_option {Value : Type} {marker : Value → PermissionDiagnostic}
    (unranged : ∀ value, markerRange (marker value) = none) (value : Option Value) :
    Rangeless (value.map marker).toList := by
  rw [Option.toList_map]
  exact rangeless_map unranged value.toList

section Markers

variable (input : PermissionEvaluationInput)

theorem rangeless_resolutionMarkers : Rangeless input.resolutionMarkers := by
  unfold PermissionEvaluationInput.resolutionMarkers
  refine .append (.append (.append (.append (.append (.append ?_ ?_) ?_) ?_) ?_) ?_) ?_
  · exact rangeless_markerIf _ rfl
  · exact rangeless_markerIf _ rfl
  · exact rangeless_markerIf _ rfl
  · exact rangeless_markerIf _ rfl
  · exact rangeless_option (fun _ => rfl) _
  · exact rangeless_option (fun _ => rfl) _
  · exact rangeless_map (fun _ => rfl) _

theorem rangeless_uacMarkers : Rangeless input.uacMarkers := by
  unfold PermissionEvaluationInput.uacMarkers
  refine .append (rangeless_markerIf _ rfl) ?_
  cases input.remoteUac <;> rfl

theorem rangeless_identityMarkers : Rangeless input.identityMarkers := by
  unfold PermissionEvaluationInput.identityMarkers Identity.sidHistoryDiagnostics
    groupSidHistoryDiagnostics
  refine .append (.append (.append (.append (.append (.append (.append (.append ?_ ?_) ?_) ?_)
    ?_) ?_) ?_) (.append ?_ ?_)) (.append ?_ ?_)
  · exact rangeless_markerIf _ rfl
  · exact rangeless_markerIf _ rfl
  · exact rangeless_option (fun _ => rfl) _
  · exact rangeless_markerIf _ rfl
  · exact rangeless_markerIf _ rfl
  · exact rangeless_markerIf _ rfl
  · exact rangeless_markerIf _ rfl
  all_goals
    split
    · rfl
    · rfl

theorem rangeless_trustMarkers : Rangeless input.trustMarkers := by
  unfold PermissionEvaluationInput.trustMarkers
  refine .append (rangeless_markerIf _ rfl) ?_
  cases input.resolution.trustedDomain with
  | none => rfl
  | some trusted =>
      have named : Rangeless [.trustedDomainAccountResolved trusted.domain trusted.homeOnlyGroups
          trusted.sidFiltered] := rfl
      exact named.append (rangeless_markerIf _ rfl)

theorem rangeless_objectMarkers : Rangeless input.objectMarkers := by
  unfold PermissionEvaluationInput.objectMarkers
  refine .append (.append ?_ ?_) ?_
  · exact rangeless_option (fun _ => rfl) _
  · exact rangeless_option (fun _ => rfl) _
  · exact rangeless_option (fun _ => rfl) _

theorem rangeless_logonMarkers : Rangeless input.logonMarkers := by
  unfold PermissionEvaluationInput.logonMarkers
  split <;> rfl

theorem rangeless_daclFront :
    Rangeless ((if input.fileSystemObject.nullDacl then []
        else collectDiagnostics input.fileSystemObject.dacl) ++
      markerIf (input.unsupportedShareAceCount > 0)
        (.unsupportedShareAces input.unsupportedShareAceCount) ++
      markerIf (input.fileSystemObject.unsupportedAces.length > 0)
        (.unsupportedNtfsAces input.fileSystemObject.unsupportedAces.length)) := by
  have order : Rangeless (if input.fileSystemObject.nullDacl then []
      else collectDiagnostics input.fileSystemObject.dacl) := by
    split
    · rfl
    · unfold collectDiagnostics
      split <;> rfl
  exact (order.append (rangeless_markerIf _ rfl)).append (rangeless_markerIf _ rfl)

/-- The markers of the access list state the computed bounds. -/
theorem daclMarkers_range :
    input.daclMarkers.findSome? markerRange =
      input.logonDependent.map (fun bounds => (bounds.min, bounds.max)) := by
  have earlier := rangeless_daclFront input
  unfold Rangeless at earlier
  unfold PermissionEvaluationInput.daclMarkers
  rw [List.findSome?_append, earlier, Option.none_or]
  cases input.logonDependent with
  | none => rfl
  | some bounds => rfl

theorem rangeless_backMarkers :
    Rangeless (input.resolutionMarkers ++ input.uacMarkers ++ input.identityMarkers ++
      input.trustMarkers ++ (input.objectMarkers ++ input.logonMarkers)) :=
  ((((rangeless_resolutionMarkers input).append (rangeless_uacMarkers input)).append
    (rangeless_identityMarkers input)).append (rangeless_trustMarkers input)).append
    ((rangeless_objectMarkers input).append (rangeless_logonMarkers input))

theorem diagnostics_range :
    input.diagnostics.findSome? markerRange =
      input.logonDependent.map (fun bounds => (bounds.min, bounds.max)) := by
  have rest := rangeless_backMarkers input
  unfold Rangeless at rest
  unfold PermissionEvaluationInput.diagnostics
  simp only [List.append_assoc] at rest ⊢
  rw [List.findSome?_append, rest, daclMarkers_range, Option.or_none]

end Markers

theorem markerRange_withoutEffect (marker : PermissionDiagnostic) :
    markerRange (withoutEffect marker) = markerRange marker := by
  cases marker <;> rfl

theorem settleLogon_range (result : EffectivePermission) :
    (settleLogon result).logonDependentRange = result.logonDependentRange := by
  unfold settleLogon
  split
  · unfold logonDependentRange
    rw [List.findSome?_map]
    congr 1
    funext marker
    exact markerRange_withoutEffect marker
  · rfl

theorem rangeless_synchronizeMarkers (result : EffectivePermission)
    (ntfsRaw deniedRaw : AccessMask) : Rangeless (synchronizeMarkers result ntfsRaw deniedRaw) :=
  rangeless_option (fun _ => rfl) _

/-- The range of a finished result is the pair of bounds the engine
computed. -/
theorem evaluate_logonDependentRange (input : PermissionEvaluationInput) :
    (evaluate input).logonDependentRange =
      input.logonDependent.map (fun bounds => (bounds.min, bounds.max)) := by
  have settled : (settleLogon input.draft).diagnostics.findSome? markerRange =
      input.logonDependent.map (fun bounds => (bounds.min, bounds.max)) :=
    (settleLogon_range input.draft).trans (diagnostics_range input)
  unfold evaluate logonDependentRange
  split
  · exact settled
  · have last := rangeless_synchronizeMarkers (settleLogon input.draft) input.ntfsRaw
      input.deniedRaw
    unfold Rangeless at last
    dsimp only
    rw [List.findSome?_append, last, settled, Option.or_none]

theorem ownerBits_within_upper (uncertainOwner : Option Sid) (dacl : List AceEntry)
    (ownerImplicitBits : AccessMask) :
    Within ownerImplicitBits (upperOwnerBits uncertainOwner dacl ownerImplicitBits) := by
  unfold upperOwnerBits
  split
  · rw [BitVec.or_assoc]
    exact Within.or_left _ _
  · exact Within.refl _

/-- The shown mask is the mask of the token without uncertain SIDs. -/
theorem evaluate_ntfsMask_eq_shown {input : PermissionEvaluationInput}
    (present : input.fileSystemObject.nullDacl = false) :
    (evaluate input).ntfsMask =
      input.logonFacts.shownToken.mask input.fileSystemObject.dacl ||| input.ownerImplicitBits := by
  rw [evaluate_ntfsMask, shownToken_mask, PermissionEvaluationInput.ntfsRaw_of_dacl present]
  rfl

theorem ntfsMask_within_highest {input : PermissionEvaluationInput}
    (present : input.fileSystemObject.nullDacl = false) :
    Within (evaluate input).ntfsMask (input.logonFacts.highest input.uncertainOwner.isSome
      input.fileSystemObject.dacl ||| upperOwnerBits input.uncertainOwner
        input.fileSystemObject.dacl input.ownerImplicitBits) := by
  rw [evaluate_ntfsMask_eq_shown present]
  exact Within.or_le
    ((mask_within_highest _ input.logonFacts.shownToken _).trans (Within.or_left _ _))
    ((ownerBits_within_upper _ _ _).trans (Within.or_right _ _))

/-- The reported NTFS range is the pair of readings, whether a marker states it
or the shown mask stands for both ends. -/
theorem evaluate_ntfsRange {input : PermissionEvaluationInput}
    (present : input.fileSystemObject.nullDacl = false) :
    (evaluate input).ntfsRange =
      (input.logonFacts.lowest input.uncertainOwner.isSome input.fileSystemObject.dacl |||
          input.ownerImplicitBits,
        input.logonFacts.highest input.uncertainOwner.isSome input.fileSystemObject.dacl |||
          upperOwnerBits input.uncertainOwner input.fileSystemObject.dacl
            input.ownerImplicitBits) := by
  have computed := logonDependentBounds_eq input.logonFacts input.uncertainOwner
    input.fileSystemObject.dacl input.ownerImplicitBits
  have reported := evaluate_logonDependentRange input
  unfold PermissionEvaluationInput.logonDependent at reported
  rw [present, if_neg Bool.false_ne_true] at reported
  replace reported := reported.trans computed
  unfold ntfsRange
  rw [reported]
  split
  · rename_i equal
    -- The shown mask lies between two equal readings.
    have low : Within (input.logonFacts.lowest input.uncertainOwner.isSome
        input.fileSystemObject.dacl ||| input.ownerImplicitBits) (evaluate input).ntfsMask := by
      rw [evaluate_ntfsMask_eq_shown present]
      exact (lowest_within_mask _ input.logonFacts.shownToken _).or_mono _
    have high := ntfsMask_within_highest present
    rw [← equal] at high ⊢
    rw [high.antisymm low]
    rfl
  · rfl

/-- Without an access list the shown mask stands for both ends. -/
theorem evaluate_ntfsRange_of_nullDacl {input : PermissionEvaluationInput}
    (absent : input.fileSystemObject.nullDacl = true) :
    (evaluate input).ntfsRange = (input.ntfsRaw, input.ntfsRaw) := by
  have unranged := evaluate_logonDependentRange input
  rw [PermissionEvaluationInput.logonDependent, if_pos absent, Option.map_none] at unranged
  rw [ntfsRange, unranged, evaluate_ntfsMask]
  rfl

/-! ## The upper bound -/

/-- No reason of the result concerns the share. -/
def ShareCertain (result : EffectivePermission) : Prop :=
  ∀ entry ∈ result.uncertainty, entry.layer ≠ .share

theorem joinUpper_le (upper : AccessMask) (marker : PermissionDiagnostic) :
    Within upper (joinUpper upper marker) := by
  unfold joinUpper
  split
  · exact Within.or_left _ _
  · exact Within.refl _

theorem foldl_joinUpper_le (markers : List PermissionDiagnostic) (upper : AccessMask) :
    Within upper (markers.foldl joinUpper upper) := by
  induction markers generalizing upper with
  | nil => exact Within.refl upper
  | cons head rest ih => exact (joinUpper_le upper head).trans (ih (joinUpper upper head))

/-- Every range of the list is below the joined bound. -/
theorem foldl_joinUpper_range {markers : List PermissionDiagnostic} {range : AccessMask × AccessMask}
    (upper : AccessMask) (found : markers.findSome? markerRange = some range) :
    Within range.2 (markers.foldl joinUpper upper) := by
  induction markers generalizing upper with
  | nil => cases found
  | cons head rest ih =>
      rw [List.findSome?_cons] at found
      cases ranged : markerRange head with
      | none =>
          rw [ranged] at found
          exact ih (joinUpper upper head) found
      | some own =>
          rw [ranged, Option.some.injEq] at found
          subst found
          have joined : Within own.2 (joinUpper upper head) := by
            cases head with
            | logonDependentTrustees sids minMask maxMask =>
                rw [markerRange, Option.some.injEq] at ranged
                subst ranged
                exact Within.or_right upper maxMask
            | _ => cases ranged
          exact joined.trans (foldl_joinUpper_le rest _)

theorem ntfsRange_le_ntfsUpper (result : EffectivePermission) :
    Within result.ntfsRange.2 result.ntfsUpper := by
  unfold ntfsRange ntfsUpper
  cases found : result.logonDependentRange with
  | none => exact foldl_joinUpper_le result.diagnostics result.ntfsMask
  | some range => exact foldl_joinUpper_range result.ntfsMask found

/-- A result without uncertainty has no range. -/
theorem ntfsRange_of_exact {result : EffectivePermission} (certain : result.uncertainty = []) :
    result.ntfsRange = (result.ntfsMask, result.ntfsMask) := by
  have nothing : result.logonDependentRange = none := by
    unfold logonDependentRange
    rw [List.findSome?_eq_none_iff]
    intro marker member
    have unclassified := uncertainLayer_of_uncertainty_nil certain member
    cases marker with
    | logonDependentTrustees sids minMask maxMask => cases unclassified
    | _ => rfl
  rw [ntfsRange, nothing]
  rfl

theorem effectiveUpperBound_of_exact {result : EffectivePermission}
    (certain : result.uncertainty = []) : result.effectiveUpperBound = result.effectiveMask := by
  unfold effectiveUpperBound
  rw [certain]
  rfl

theorem effectiveMask_within_upperBound (result : EffectivePermission) :
    Within result.effectiveMask result.effectiveUpperBound := by
  unfold effectiveUpperBound
  split
  · exact Within.refl _
  · exact Within.or_right _ _

theorem uncertainIn_share_eq_true {result : EffectivePermission} {layers : List UncertainLayer}
    (listed : UncertainLayer.share ∈ layers) {entry : Uncertainty}
    (member : entry ∈ result.uncertainty) (concerns : entry.layer = .share) :
    result.uncertainIn layers = true := by
  unfold uncertainIn
  rw [List.any_eq_true]
  exact ⟨entry, member, by rw [concerns, List.contains_iff_mem]; exact listed⟩

/-- With some uncertainty the bound holds every NTFS right of the range that a
share right of the known or unknown share leaves over. -/
theorem within_upperBound_of_uncertain {result : EffectivePermission}
    (uncertain : result.uncertainty ≠ []) {ntfsRight shareRight : AccessMask}
    (ntfsBound : Within ntfsRight result.ntfsRange.2)
    (shareBound : ∀ share, result.shareStatus = .applied → result.shareMask = some share →
      ShareCertain result → Within shareRight share) :
    Within (ntfsRight &&& shareRight) result.effectiveUpperBound := by
  have below : Within (ntfsRight &&& shareRight) result.ntfsUpper :=
    (Within.and_left _ _).trans (ntfsBound.trans (ntfsRange_le_ntfsUpper result))
  have undecided : ¬ result.uncertainty.isEmpty = true := by
    rw [List.isEmpty_iff]
    exact uncertain
  unfold effectiveUpperBound
  rw [if_neg undecided]
  refine Within.trans ?_ (Within.or_left _ _)
  split
  · rename_i share applied known
    cases doubtful : result.uncertainIn [.share, .target] with
    | true => exact below
    | false =>
        have certain : ShareCertain result := by
          intro entry member concerns
          rw [uncertainIn_share_eq_true (by simp) member concerns] at doubtful
          cases doubtful
        have limited := shareBound share applied known certain
        rw [within_iff] at below limited ⊢
        intro bit selected
        have both := selected
        rw [BitVec.getLsbD_and, Bool.and_eq_true] at both
        rw [if_neg Bool.false_ne_true, BitVec.getLsbD_and, below bit selected,
          limited bit both.2]
        rfl
  · exact below

/-- The upper bound holds every right the known data leaves open, for either
outcome of an undeterminable logon.  A refused logon is exact when nothing else
is uncertain: the bound is then No access. -/
theorem evaluate_effectiveUpperBound (input : PermissionEvaluationInput)
    (ntfsRight shareRight : AccessMask) (logonAllowed : Bool)
    (ntfsBound : Within ntfsRight (evaluate input).ntfsRange.2)
    (shareBound : ∀ share, (evaluate input).shareStatus = .applied →
      (evaluate input).shareMask = some share → ShareCertain (evaluate input) →
      Within shareRight share) :
    ((input.logonRefused = false ∨ (evaluate input).uncertainty ≠ []) →
      Within (if logonAllowed then ntfsRight &&& shareRight else 0#32)
        (evaluate input).effectiveUpperBound) ∧
    (input.logonRefused = true → (evaluate input).uncertainty = [] →
      (evaluate input).effectiveUpperBound = 0#32) ∧
    Within (evaluate input).effectiveMask (evaluate input).effectiveUpperBound ∧
    ((evaluate input).uncertainty = [] →
      (evaluate input).effectiveUpperBound = (evaluate input).effectiveMask) := by
  refine ⟨?_, ?_, effectiveMask_within_upperBound _, effectiveUpperBound_of_exact⟩
  · intro considered
    cases logonAllowed with
    | false => exact Within.zero _
    | true =>
        rw [if_pos rfl]
        by_cases certain : (evaluate input).uncertainty = []
        · -- An exact result: the right is the effective mask itself.
          have admitted : input.logonRefused = false :=
            considered.resolve_right (not_not_intro certain)
          have everyShare : ShareCertain (evaluate input) := by
            intro entry member
            rw [certain] at member
            cases member
          rw [ntfsRange_of_exact certain, evaluate_ntfsMask] at ntfsBound
          rw [effectiveUpperBound_of_exact certain, evaluate_effectiveMask, admitted,
            if_neg Bool.false_ne_true]
          rw [evaluate_shareStatus, evaluate_shareMask] at shareBound
          unfold PermissionEvaluationInput.effectiveRaw
          split
          · rename_i share applied
            have limited := shareBound share
              (by rw [PermissionEvaluationInput.outputShareStatus, applied])
              (by rw [PermissionEvaluationInput.shareMaskForOutput, applied]) everyShare
            rw [within_iff] at ntfsBound limited ⊢
            intro bit selected
            rw [BitVec.getLsbD_and, Bool.and_eq_true] at selected
            rw [BitVec.getLsbD_and, ntfsBound bit selected.1, limited bit selected.2]
            rfl
          · exact (Within.and_left _ _).trans ntfsBound
        · exact within_upperBound_of_uncertain certain ntfsBound shareBound
  · intro refused certain
    rw [effectiveUpperBound_of_exact certain, evaluate_effectiveMask, refused, if_pos rfl]

/-- A group that is reached only through a logon-dependent SID is allowed to
read behind a share that is read-only. -/
def groupBehindShare : PermissionEvaluationInput where
  identity := { sid := ⟨"S-1-5-21-1-2-3-1000"⟩ }
  fileSystemObject :=
    { path := "D:\\Data"
      dacl :=
        [{ kind := .allow, sid := ⟨"S-1-5-21-1-2-3-1000"⟩, mask := 0x1#32 },
          { kind := .allow, sid := ⟨"S-1-5-21-1-2-3-2000"⟩, mask := 0x3#32 }] }
  logonDependentGroupSids := [⟨"S-1-5-21-1-2-3-2000"⟩]
  shareStatus := .applied 0x1#32

theorem evaluate_effectiveUpperBound_groupBehindShare :
    (evaluate groupBehindShare).ntfsRange = (0x1#32, 0x3#32) ∧
      Within (0x3#32 &&& 0x1#32) (evaluate groupBehindShare).effectiveUpperBound := by
  have range : (evaluate groupBehindShare).ntfsRange = (0x1#32, 0x3#32) := by decide
  refine ⟨range, ?_⟩
  have undecided : Within 0x3#32 (evaluate groupBehindShare).ntfsRange.2 := by
    rw [range]
    exact Within.refl _
  have limited : ∀ share, (evaluate groupBehindShare).shareStatus = .applied →
      (evaluate groupBehindShare).shareMask = some share → ShareCertain (evaluate groupBehindShare) →
      Within 0x1#32 share := by
    intro share _ known _
    rw [evaluate_shareMask] at known
    cases known
    exact Within.refl _
  exact (evaluate_effectiveUpperBound groupBehindShare 0x3#32 0x1#32 true undecided limited).1
    (Or.inl rfl)

/-- A refused logon to an object that grants a right. -/
def refusedLogon : PermissionEvaluationInput where
  identity := { sid := ⟨"S-1-5-21-1-2-3-1000"⟩ }
  fileSystemObject :=
    { path := "D:\\Data"
      dacl := [{ kind := .allow, sid := ⟨"S-1-5-21-1-2-3-1000"⟩, mask := 0x1#32 }] }
  selectiveAuthentication := some (.denied "server")

/-- The shown NTFS mask is not below the upper bound of a refused logon that is
otherwise exact. -/
theorem refusedLogon_upperBound :
    (evaluate refusedLogon).uncertainty = [] ∧ (evaluate refusedLogon).unsupportedAceCount = 0 ∧
      (evaluate refusedLogon).logonDependentRange = none ∧
      ¬ Within ((evaluate refusedLogon).ntfsMask &&& 0x1#32)
        (evaluate refusedLogon).effectiveUpperBound := by
  decide

end PermissionEngine
end Stars
