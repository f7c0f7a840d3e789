import Stars.PermissionEngine.ListedLayers

namespace Stars
namespace PermissionEngine

open AccessControl AdResolver EffectivePermission

/-!
# Refused and undeterminable logons

A refused logon overwrites the effective mask at the end of an evaluation.  The
upper bound and the open layers are read from the markers of the access list and
the share, which stay as the permissions alone leave them.  So a refused logon
is exactly No access only where these markers say nothing against it.  An
undeterminable logon is settled as intended: its marker is without effect
exactly when both outcomes are No access.
-/

section Layers

variable {affected : UncertainLayer → Prop} {input : PermissionEvaluationInput}

/-- The result has the statuses of the input and its markers, with further
markers at the end. -/
structure ReportedFrom (input : PermissionEvaluationInput) (result : EffectivePermission)
    (back : List PermissionDiagnostic) : Prop where
  shareStatus : result.shareStatus = input.outputShareStatus
  unsupported : result.unsupportedAceCount = input.fileSystemObject.unsupportedAces.length
  localGroups : result.localGroupStatus = input.localGroupStatus
  markers : result.diagnostics = frontMarkers input ++ back

theorem outputShareStatus_eq_readFailed_iff (reason : String) :
    input.outputShareStatus = .readFailed reason ↔ input.shareStatus = .readFailed reason := by
  rw [PermissionEvaluationInput.outputShareStatus]
  cases input.shareStatus <;> simp

theorem openIn_of_reportedFrom {result : EffectivePermission} {back : List PermissionDiagnostic}
    (reported : ReportedFrom input result back) (quiet : ¬ Marked affected back) :
    OpenIn result affected ↔ Unknown input affected := by
  have marked : Marked affected result.diagnostics ↔ Marked affected (frontMarkers input) := by
    rw [reported.markers, marked_append, or_iff_left quiet]
  have counted : ¬ (0 < result.unsupportedAceCount ∧
      ∀ count, .unsupportedNtfsAces count ∉ result.diagnostics) := by
    intro both
    rw [reported.unsupported] at both
    apply both.2 input.fileSystemObject.unsupportedAces.length
    have listed : .unsupportedNtfsAces input.fileSystemObject.unsupportedAces.length ∈
        markerIf (input.fileSystemObject.unsupportedAces.length > 0)
          (.unsupportedNtfsAces input.fileSystemObject.unsupportedAces.length) := by
      rw [markerIf, if_pos (decide_eq_true both.1)]
      exact List.mem_singleton_self _
    rw [reported.markers, frontMarkers, PermissionEvaluationInput.daclMarkers]
    simp only [List.mem_append, listed, or_true, true_or]
  rw [OpenIn, mem_statusUncertainty_iff, marked, marked_frontMarkers, Unknown, not_tokenKnown_iff,
    not_shareKnown_iff, reported.shareStatus, reported.localGroups]
  simp only [outputShareStatus_eq_readFailed_iff, counted, false_and, false_or, or_and_right]
  apply iff_of_eq
  ac_rfl

/-- The reasons that are listed for share or target are the open ones. -/
theorem uncertainIn_share_target_iff {result : EffectivePermission}
    {back : List PermissionDiagnostic} (reported : ReportedFrom input result back)
    (quiet : ∀ marker ∈ back, marker.uncertainLayer = none) (shareKnown : ShareKnown input) :
    result.uncertainIn [.share, .target] = true ↔ ¬ TargetKnown input := by
  constructor
  · intro uncertain
    rw [uncertainIn, List.any_eq_true] at uncertain
    rcases uncertain with ⟨entry, member, listed⟩
    have opened : OpenIn result (fun layer => layer ∈ [UncertainLayer.share, .target]) :=
      openIn_of_listed member (List.contains_iff_mem.mp listed)
    rw [openIn_of_reportedFrom reported (not_marked_of_exact quiet), Unknown] at opened
    simpa [shareKnown] using opened
  · intro unknown
    have opened : OpenIn result (fun layer => layer = .target) := by
      rw [openIn_of_reportedFrom reported (not_marked_of_exact quiet), Unknown]
      simp [unknown]
    rcases (exists_listed_iff result .target).mpr opened with ⟨entry, member, target⟩
    rw [uncertainIn, List.any_eq_true]
    refine ⟨entry, member, ?_⟩
    rw [target]
    rfl

end Layers

section Outcomes

variable {input : PermissionEvaluationInput}

/-- No marker before the last one is about the logon. -/
def aboutLogon : PermissionDiagnostic → Bool
  | .selectiveAuthenticationAllowed _ _ | .selectiveAuthenticationDenied _
  | .selectiveAuthenticationUnknown _ _ _ => true
  | _ => false

theorem frontMarkers_not_aboutLogon :
    ∀ marker ∈ frontMarkers input, aboutLogon marker = false := by
  have dacl : ∀ marker ∈ input.daclMarkers, aboutLogon marker = false := by
    rw [PermissionEvaluationInput.daclMarkers, List.forall_mem_append, List.forall_mem_append,
      List.forall_mem_append]
    refine ⟨⟨⟨?_, forall_mem_markerIf _ rfl⟩, forall_mem_markerIf _ rfl⟩, ?_⟩
    · intro marker member
      split at member
      · cases member
      · rw [collectDiagnostics] at member
        split at member
        · rw [List.mem_singleton.mp member]
          rfl
        · rw [List.mem_singleton.mp member]
          rfl
        · cases member
    · cases input.logonDependent <;> simp [aboutLogon]
  have resolution : ∀ marker ∈ input.resolutionMarkers, aboutLogon marker = false := by
    simp only [PermissionEvaluationInput.resolutionMarkers, List.forall_mem_append,
      Option.toList_map, List.forall_mem_map]
    exact ⟨⟨⟨⟨⟨⟨forall_mem_markerIf _ rfl, forall_mem_markerIf _ rfl⟩,
      forall_mem_markerIf _ rfl⟩, forall_mem_markerIf _ rfl⟩, fun _ _ => rfl⟩, fun _ _ => rfl⟩,
      fun _ _ => rfl⟩
  have uac : ∀ marker ∈ input.uacMarkers, aboutLogon marker = false := by
    rw [PermissionEvaluationInput.uacMarkers, List.forall_mem_append]
    refine ⟨forall_mem_markerIf _ rfl, ?_⟩
    cases input.remoteUac <;> simp [aboutLogon]
  have identity : ∀ marker ∈ input.identityMarkers, aboutLogon marker = false := by
    have history : ∀ (condition : Prop) [Decidable condition] (marker : PermissionDiagnostic),
        aboutLogon marker = false →
        ∀ listed ∈ (if condition then [marker] else []), aboutLogon listed = false := by
      intro condition _ marker other
      split
      · exact fun _ member => List.mem_singleton.mp member ▸ other
      · exact fun _ absent => absurd absent List.not_mem_nil
    simp only [PermissionEvaluationInput.identityMarkers, List.forall_mem_append,
      Option.toList_map, List.forall_mem_map, Identity.sidHistoryDiagnostics,
      groupSidHistoryDiagnostics]
    exact ⟨⟨⟨⟨⟨⟨⟨⟨forall_mem_markerIf _ rfl, forall_mem_markerIf _ rfl⟩, fun _ _ => rfl⟩,
      forall_mem_markerIf _ rfl⟩, forall_mem_markerIf _ rfl⟩, forall_mem_markerIf _ rfl⟩,
      forall_mem_markerIf _ rfl⟩, history _ _ rfl, history _ _ rfl⟩, history _ _ rfl,
      history _ _ rfl⟩
  have trust : ∀ marker ∈ input.trustMarkers, aboutLogon marker = false := by
    rw [PermissionEvaluationInput.trustMarkers, List.forall_mem_append]
    refine ⟨forall_mem_markerIf _ rfl, ?_⟩
    cases input.resolution.trustedDomain with
    | none => exact fun marker absent => absurd absent (List.not_mem_nil)
    | some trusted =>
        rw [List.forall_mem_cons]
        exact ⟨rfl, forall_mem_markerIf _ rfl⟩
  have object : ∀ marker ∈ input.objectMarkers, aboutLogon marker = false := by
    simp only [PermissionEvaluationInput.objectMarkers, List.forall_mem_append, Option.toList_map,
      List.forall_mem_map]
    exact ⟨⟨fun _ _ => rfl, fun _ _ => rfl⟩, fun _ _ => rfl⟩
  simp only [frontMarkers, List.forall_mem_append]
  exact ⟨⟨⟨⟨⟨dacl, resolution⟩, uac⟩, identity⟩, trust⟩, object⟩

theorem withoutEffect_of_not_aboutLogon {marker : PermissionDiagnostic}
    (other : aboutLogon marker = false) : withoutEffect marker = marker := by
  cases marker with
  | selectiveAuthenticationUnknown server reason affectsResult => cases other
  | _ => rfl

theorem frontMarkers_withoutEffect :
    (frontMarkers input).map withoutEffect = frontMarkers input := by
  rw [List.map_congr_left (fun marker member =>
    withoutEffect_of_not_aboutLogon (frontMarkers_not_aboutLogon marker member))]
  exact List.map_id' _

/-- Only the marker of the logon can change when the logon is settled. -/
theorem settleLogon_draft_diagnostics :
    (settleLogon input.draft).diagnostics = frontMarkers input ++
      if input.effectiveRaw = 0#32 &&
          input.draft.uncertainty.all (fun entry => entry.layer = .logon) then
        input.logonMarkers.map withoutEffect
      else input.logonMarkers := by
  have mask : input.draft.effectiveMask = input.effectiveRaw := rfl
  rw [settleLogon, mask]
  split
  · change input.diagnostics.map withoutEffect = _
    rw [diagnostics_eq_front, List.map_append, frontMarkers_withoutEffect]
  · rfl

/-- A decided logon leaves the markers as the permissions alone leave them. -/
theorem settleLogon_of_decided
    (decided : input.logonMarkers.map withoutEffect = input.logonMarkers) :
    settleLogon input.draft = input.draft := by
  have unchanged : (settleLogon input.draft).diagnostics = input.draft.diagnostics := by
    rw [settleLogon_draft_diagnostics, decided, ite_self]
    rfl
  rw [settleLogon_eq, unchanged]

theorem evaluate_refused {server : String}
    (refused : input.selectiveAuthentication = some (.denied server)) :
    evaluate input = { input.draft with effectiveMask := 0#32 } := by
  have decided : settleLogon input.draft = input.draft := by
    apply settleLogon_of_decided
    rw [PermissionEvaluationInput.logonMarkers, refused]
    rfl
  rw [evaluate, decided, PermissionEvaluationInput.logonRefused, refused]
  rfl

theorem reportedFrom_draft : ReportedFrom input input.draft input.logonMarkers where
  shareStatus := rfl
  unsupported := rfl
  localGroups := rfl
  markers := rfl

theorem reportedFrom_refused {server : String}
    (refused : input.selectiveAuthentication = some (.denied server)) :
    ReportedFrom input (evaluate input) [.selectiveAuthenticationDenied server] := by
  have draft : ReportedFrom input input.draft input.logonMarkers := reportedFrom_draft
  rw [PermissionEvaluationInput.logonMarkers, refused] at draft
  rw [evaluate_refused refused]
  exact ⟨draft.shareStatus, draft.unsupported, draft.localGroups, draft.markers⟩

end Outcomes

/-- The right is granted in the reading of the access list that grants most: every
Allow that may apply counts, and every Deny that certainly applies. -/
def GrantedAtMost (input : PermissionEvaluationInput) (bit : Nat) : Prop :=
  allowedBy (matchingWith (input.logonFacts.maybeAllow input.uncertainOwner.isSome)
      input.logonFacts.certainDeny) input.fileSystemObject.dacl bit = true ∨
    ((OwnerInToken input ∨ input.uncertainOwner.isSome = true) ∧
      NoOwnerRightsAce input.fileSystemObject.dacl ∧ (bit = 17 ∨ bit = 18))

/-- The right is granted in the reading that grants least. -/
def GrantedAtLeast (input : PermissionEvaluationInput) (bit : Nat) : Prop :=
  allowedBy (matchingWith input.logonFacts.certainAllow
      (input.logonFacts.maybeDeny input.uncertainOwner.isSome))
      input.fileSystemObject.dacl bit = true ∨
    (OwnerInToken input ∧ NoOwnerRightsAce input.fileSystemObject.dacl ∧ (bit = 17 ∨ bit = 18))

/-- The access list grants the right to the built token. -/
def Granted (input : PermissionEvaluationInput) (bit : Nat) : Prop :=
  if input.fileSystemObject.nullDacl = true then maskFullControl.getLsbD bit = true
  else
    allowedBy (matchesBuiltToken input) input.fileSystemObject.dacl bit = true ∨
      (OwnerInToken input ∧ NoOwnerRightsAce input.fileSystemObject.dacl ∧ (bit = 17 ∨ bit = 18))

/-- The share permission is known and does not grant the right. -/
def WithheldByShare (input : PermissionEvaluationInput) (bit : Nat) : Prop :=
  ∃ share, input.shareStatus = .applied share ∧ share.getLsbD bit = false

/-- Nothing beside the refusal decides the result: every NTFS and share entry is
evaluated, all possible tokens are granted the same, and what the token or the
target leave open concerns no granted right. -/
structure RefusalExact (input : PermissionEvaluationInput) : Prop where
  ntfsEvaluated : input.fileSystemObject.unsupportedAces = []
  sameReading : input.fileSystemObject.nullDacl = true ∨
    ∀ bit, GrantedAtMost input bit → GrantedAtLeast input bit
  shareKnown : ShareKnown input
  settled : (TokenKnown input ∧ TargetKnown input) ∨
    ∀ bit, Granted input bit → TargetKnown input ∧ WithheldByShare input bit

/-- The result is exactly No access: no right is shown or left open, and no
reason of the access list or the share is. -/
structure ExactlyNoAccess (result : EffectivePermission) : Prop where
  effectiveMask : result.effectiveMask = 0#32
  upperBound : result.effectiveUpperBound = 0#32
  determinable : ¬ OpenIn result (fun layer => layer = .ntfs ∨ layer = .share)

section Refused

variable {input : PermissionEvaluationInput}

theorem upperOwnerBits_getLsbD (bit : Nat) :
    (upperOwnerBits input.uncertainOwner input.fileSystemObject.dacl
        input.ownerImplicitBits).getLsbD bit = true ↔
      (OwnerInToken input ∨ input.uncertainOwner.isSome = true) ∧
        NoOwnerRightsAce input.fileSystemObject.dacl ∧ (bit = 17 ∨ bit = 18) := by
  have implicit := ownerImplicitBits_getLsbD input bit
  have grant := ownerGrant_getLsbD bit
  rw [← ownerRightsAce_eq_false_iff] at implicit ⊢
  rw [upperOwnerBits]
  cases uncertain : input.uncertainOwner.isSome <;>
    cases governed : ownerRightsAce input.fileSystemObject.dacl
  · simpa [uncertain, governed] using implicit
  · simpa [uncertain, governed] using implicit
  · rw [governed] at implicit
    rw [ownerGrant, BitVec.getLsbD_or] at grant
    simp only [Bool.not_false, Bool.and_self, if_true, or_true, true_and, BitVec.or_assoc,
      BitVec.getLsbD_or, grant, Bool.or_eq_true, implicit]
    exact or_iff_right_of_imp (fun owned => owned.2)
  · simpa [uncertain, governed] using implicit

/-- No range is reported exactly when the two readings grant the same. -/
theorem logonDependent_eq_none_iff :
    input.logonDependent = none ↔ input.fileSystemObject.nullDacl = true ∨
      ∀ bit, GrantedAtMost input bit → GrantedAtLeast input bit := by
  have most : ∀ bit, (input.logonFacts.highest input.uncertainOwner.isSome
      input.fileSystemObject.dacl ||| upperOwnerBits input.uncertainOwner
        input.fileSystemObject.dacl input.ownerImplicitBits).getLsbD bit = true ↔
          GrantedAtMost input bit := by
    intro bit
    rw [BitVec.getLsbD_or, Bool.or_eq_true, upperOwnerBits_getLsbD, LogonFacts.highest,
      walkGrantedWith_eq_allowedBy, GrantedAtMost]
  have least : ∀ bit, (input.logonFacts.lowest input.uncertainOwner.isSome
      input.fileSystemObject.dacl ||| input.ownerImplicitBits).getLsbD bit = true ↔
        GrantedAtLeast input bit := by
    intro bit
    rw [BitVec.getLsbD_or, Bool.or_eq_true, ownerImplicitBits_getLsbD, LogonFacts.lowest,
      walkGrantedWith_eq_allowedBy, GrantedAtLeast]
  rw [PermissionEvaluationInput.logonDependent]
  cases absent : input.fileSystemObject.nullDacl with
  | true => simp
  | false =>
      have computed := logonDependentBounds_eq input.logonFacts input.uncertainOwner
        input.fileSystemObject.dacl input.ownerImplicitBits
      have ordered : Within (input.logonFacts.lowest input.uncertainOwner.isSome
          input.fileSystemObject.dacl ||| input.ownerImplicitBits)
          (input.logonFacts.highest input.uncertainOwner.isSome input.fileSystemObject.dacl |||
            upperOwnerBits input.uncertainOwner input.fileSystemObject.dacl
              input.ownerImplicitBits) := by
        refine Within.or_le (Within.trans ?_ (Within.or_left _ _))
          ((ownerBits_within_upper _ _ _).trans (Within.or_right _ _))
        exact (lowest_within_mask _ input.logonFacts.shownToken _).trans
          (mask_within_highest _ input.logonFacts.shownToken _)
      rw [if_neg Bool.false_ne_true, ← Option.map_eq_none_iff, or_iff_right Bool.false_ne_true]
      constructor
      · intro unreported bit granted
        have equal := computed.symm.trans unreported
        split at equal
        · rename_i same
          rw [← least, same, most]
          exact granted
        · cases equal
      · intro same
        refine computed.trans (if_pos ?_)
        refine ordered.antisymm (within_iff.mpr ?_)
        intro bit selected
        exact (least bit).mpr (same bit ((most bit).mp selected))

theorem ntfsRaw_getLsbD_iff (bit : Nat) : input.ntfsRaw.getLsbD bit = true ↔ Granted input bit := by
  rw [Granted]
  cases absent : input.fileSystemObject.nullDacl with
  | true =>
      rw [ntfsRaw_of_nullDacl absent, if_pos rfl, BitVec.getLsbD_or, Bool.or_eq_true]
      apply or_iff_left_of_imp
      intro implicit
      rcases ((ownerImplicitBits_getLsbD input bit).mp implicit).2.2 with rfl | rfl <;> decide
  | false =>
      rw [ntfsRaw_getLsbD absent, if_neg Bool.false_ne_true, Bool.or_eq_true,
        ownerImplicitBits_getLsbD]

theorem foldl_joinUpper_of_rangeless {markers : List PermissionDiagnostic} (upper : AccessMask)
    (unranged : Rangeless markers) : markers.foldl joinUpper upper = upper := by
  induction markers with
  | nil => rfl
  | cons marker rest ih =>
      rw [Rangeless, List.findSome?_cons] at unranged
      cases marker with
      | logonDependentTrustees sids minMask maxMask => cases unranged
      | _ => exact ih unranged

/-- Without a range the upper bound of the NTFS rights is the shown mask. -/
theorem ntfsUpper_of_sameReading (same : input.logonDependent = none) :
    (evaluate input).ntfsUpper = input.ntfsRaw := by
  have unranged := evaluate_logonDependentRange input
  rw [same, Option.map_none, logonDependentRange] at unranged
  rw [ntfsUpper, foldl_joinUpper_of_rangeless _ unranged, evaluate_ntfsMask]

theorem not_open_ntfs_share_iff :
    ¬ Unknown input (fun layer => layer = .ntfs ∨ layer = .share) ↔
      NtfsKnown input ∧ ShareKnown input := by
  simp only [Unknown, reduceCtorEq, or_self, and_false, or_false, or_true, false_or, and_true,
    not_or, not_not]

theorem not_open_iff :
    ¬ Unknown input (fun _ => True) ↔
      TokenKnown input ∧ NtfsKnown input ∧ ShareKnown input ∧ TargetKnown input := by
  simp only [Unknown, and_true, not_or, not_not]

theorem openIn_refused {server : String}
    (refused : input.selectiveAuthentication = some (.denied server)) (affected : UncertainLayer → Prop) :
    OpenIn (evaluate input) affected ↔ Unknown input affected := by
  apply openIn_of_reportedFrom (reportedFrom_refused refused)
  simp [PermissionDiagnostic.uncertainLayer]

theorem upperBound_refused_of_uncertain {server : String}
    (refused : input.selectiveAuthentication = some (.denied server)) (known : NtfsKnown input ∧ ShareKnown input)
    (uncertain : (evaluate input).uncertainty ≠ []) (bit : Nat) :
    (evaluate input).effectiveUpperBound.getLsbD bit = true ↔
      Granted input bit ∧ ¬ (TargetKnown input ∧ WithheldByShare input bit) := by
  have target := uncertainIn_share_target_iff (reportedFrom_refused refused)
    (by simp [PermissionDiagnostic.uncertainLayer]) known.2
  have nothing : (evaluate input).effectiveMask = 0#32 := by
    rw [evaluate_refused refused]
  have undecided : ¬ (evaluate input).uncertainty.isEmpty = true := by
    rw [List.isEmpty_iff]
    exact uncertain
  rw [effectiveUpperBound, if_neg undecided, nothing, BitVec.or_zero,
    ntfsUpper_of_sameReading known.1.sameReading, evaluate_shareStatus, evaluate_shareMask,
    PermissionEvaluationInput.outputShareStatus, PermissionEvaluationInput.shareMaskForOutput,
    WithheldByShare, ← ntfsRaw_getLsbD_iff]
  cases status : input.shareStatus with
  | applied share =>
      dsimp only
      split
      · rename_i doubtful
        rw [and_iff_left]
        exact fun both => target.mp doubtful both.1
      · rename_i settled
        have single : TargetKnown input := by
          by_contra unknown
          exact settled (target.mpr unknown)
        rw [BitVec.getLsbD_and, Bool.and_eq_true]
        simp [single]
  | _ => simp

theorem exactlyNoAccess_refused_iff {server : String}
    (refused : input.selectiveAuthentication = some (.denied server)) :
    ExactlyNoAccess (evaluate input) ↔ RefusalExact input := by
  have nothing : (evaluate input).effectiveMask = 0#32 := by
    rw [evaluate_refused refused]
  have certain : (evaluate input).uncertainty = [] ↔
      TokenKnown input ∧ NtfsKnown input ∧ ShareKnown input ∧ TargetKnown input := by
    rw [uncertainty_eq_nil_iff, openIn_refused refused, not_open_iff]
  have bound := upperBound_refused_of_uncertain refused
  constructor
  · intro noneLeft
    have known := noneLeft.determinable
    rw [openIn_refused refused, not_open_ntfs_share_iff] at known
    refine ⟨known.1.evaluated, logonDependent_eq_none_iff.mp known.1.sameReading, known.2, ?_⟩
    by_cases noUncertainty : (evaluate input).uncertainty = []
    · have all := certain.mp noUncertainty
      exact Or.inl ⟨all.1, all.2.2.2⟩
    · right
      intro bit granted
      by_contra remaining
      have selected := (bound known noUncertainty bit).mpr ⟨granted, remaining⟩
      rw [noneLeft.upperBound] at selected
      simp at selected
  · intro noUncertainty
    have known : NtfsKnown input ∧ ShareKnown input :=
      ⟨⟨noUncertainty.ntfsEvaluated, logonDependent_eq_none_iff.mpr noUncertainty.sameReading⟩,
        noUncertainty.shareKnown⟩
    refine ⟨nothing, ?_, ?_⟩
    · by_cases settled : (evaluate input).uncertainty = []
      · rw [effectiveUpperBound_of_exact settled, nothing]
      · rcases noUncertainty.settled with ⟨token, target⟩ | withheld
        · exact absurd (certain.mpr ⟨token, known.1, known.2, target⟩) settled
        · apply BitVec.eq_of_getLsbD_eq
          intro bit _
          rw [BitVec.getLsbD_zero, Bool.eq_false_iff]
          intro selected
          rcases (bound known settled bit).mp selected with ⟨granted, limited⟩
          exact limited (withheld bit granted)
    · rw [openIn_refused refused, not_open_ntfs_share_iff]
      exact known

end Refused

/-! ## When an undeterminable logon is without effect -/

section Undeterminable

variable {input : PermissionEvaluationInput}

/-- With this outcome of the check the account certainly has no access. -/
def NoAccessWith (input : PermissionEvaluationInput) (outcome : SelectiveAuthenticationCheck) :
    Prop :=
  let result := evaluate { input with selectiveAuthentication := some outcome }
  result.effectiveMask = 0#32 ∧ result.uncertainty = []

/-- What the input leaves open beside the logon does not depend on the check. -/
theorem unknown_withCheck (check : Option SelectiveAuthenticationCheck)
    (affected : UncertainLayer → Prop) :
    Unknown { input with selectiveAuthentication := check } affected ↔ Unknown input affected := by
  rw [Unknown, Unknown, not_tokenKnown_iff, not_tokenKnown_iff, not_ntfsKnown_iff,
    not_ntfsKnown_iff, not_shareKnown_iff, not_shareKnown_iff]
  exact Iff.rfl

theorem noAccessWith_denied_iff (server : String) :
    NoAccessWith input (.denied server) ↔ ¬ Unknown input (fun _ => True) := by
  have refused : ({ input with selectiveAuthentication := some (.denied server) } :
      PermissionEvaluationInput).selectiveAuthentication = some (.denied server) := rfl
  have nothing : (evaluate { input with selectiveAuthentication := some (.denied server) }).effectiveMask
      = 0#32 := by
    rw [evaluate_refused refused]
  rw [NoAccessWith, uncertainty_eq_nil_iff, openIn_refused refused, unknown_withCheck]
  exact and_iff_right nothing

theorem noAccessWith_allowed_iff (server via : String) :
    NoAccessWith input (.allowed server via) ↔
      input.effectiveRaw = 0#32 ∧ ¬ Unknown input (fun _ => True) := by
  let admitted : PermissionEvaluationInput :=
    { input with selectiveAuthentication := some (.allowed server via) }
  have decided : settleLogon admitted.draft = admitted.draft := settleLogon_of_decided rfl
  have evaluated : evaluate admitted = { admitted.draft with
      diagnostics := admitted.draft.diagnostics ++
        synchronizeMarkers admitted.draft admitted.ntfsRaw admitted.deniedRaw } := by
    rw [evaluate, decided]
    rfl
  have reported : ReportedFrom admitted (evaluate admitted)
      (.selectiveAuthenticationAllowed server via ::
        synchronizeMarkers admitted.draft admitted.ntfsRaw admitted.deniedRaw) := by
    rw [evaluated]
    refine ⟨rfl, rfl, rfl, ?_⟩
    change admitted.diagnostics ++ _ = _
    rw [diagnostics_eq_front, List.append_assoc]
    rfl
  have quiet : ¬ Marked (fun _ => True) (PermissionDiagnostic.selectiveAuthenticationAllowed server via ::
      synchronizeMarkers admitted.draft admitted.ntfsRaw admitted.deniedRaw) := by
    apply not_marked_of_exact
    rw [List.forall_mem_cons]
    refine ⟨rfl, ?_⟩
    intro marker member
    rw [synchronizeMarkers, Option.toList_map, List.mem_map] at member
    rcases member with ⟨cause, _, built⟩
    rw [← built]
    rfl
  have undecided : OpenIn (evaluate admitted) (fun _ => True) ↔ Unknown input (fun _ => True) :=
    (openIn_of_reportedFrom reported quiet).trans (unknown_withCheck _ _)
  rw [NoAccessWith, uncertainty_eq_nil_iff, undecided, evaluated]
  exact Iff.rfl

/-- A listed reason of a draft that is no reason of the logon has another
layer. -/
theorem listed_layer_ne_logon {before : List PermissionDiagnostic} {entry : Uncertainty}
    (front : ∀ marker ∈ before, marker.uncertainLayer ≠ some .logon)
    (member : entry ∈ before.foldl addUncertainty input.draft.statusUncertainty) :
    entry.layer ≠ .logon := by
  rcases origin_of_listed member with status | ⟨marker, markerMem, classified, _⟩
  · intro logon
    have counted := (mem_statusUncertainty_iff (· = .logon) input.draft).mp
      ⟨entry, status, logon⟩
    simp at counted
  · intro logon
    rw [logon] at classified
    exact front marker markerMem classified

theorem frontMarkers_layer_ne_logon :
    ∀ marker ∈ frontMarkers input, marker.uncertainLayer ≠ some .logon := by
  intro marker member classified
  have marked : Marked (· = .logon) (frontMarkers input) := ⟨marker, member, .logon, classified, rfl⟩
  rw [marked_frontMarkers] at marked
  simp at marked

theorem openIn_draft_iff :
    OpenIn input.draft (fun layer => layer ≠ .logon) ↔ Unknown input (fun _ => True) := by
  have quiet : ¬ Marked (fun layer => layer ≠ .logon) input.logonMarkers := by
    rw [PermissionEvaluationInput.logonMarkers]
    split <;> simp [PermissionDiagnostic.uncertainLayer]
  rw [openIn_of_reportedFrom reportedFrom_draft quiet]
  simp [Unknown]

/-- What leaves the draft open beside the logon is listed with its layer. -/
theorem listed_of_openIn_draft (opened : OpenIn input.draft (fun layer => layer ≠ .logon)) :
    ∃ entry ∈ input.draft.uncertainty, entry.layer ≠ .logon := by
  have listing : input.draft.uncertainty = (frontMarkers input ++ input.logonMarkers).foldl
      addUncertainty input.draft.statusUncertainty := rfl
  rw [listing]
  rcases opened with ⟨entry, status, other⟩ | ⟨marker, member, layer, classified, other⟩
  · rcases foldl_addUncertainty_prefix (frontMarkers input ++ input.logonMarkers)
      input.draft.statusUncertainty with ⟨further, listed⟩
    rw [listed]
    exact ⟨entry, List.mem_append_left _ status, other⟩
  · have inFront : marker ∈ frontMarkers input := by
      rcases List.mem_append.mp member with front | last
      · exact front
      · rw [PermissionEvaluationInput.logonMarkers] at last
        split at last
        · rw [List.mem_singleton.mp last] at classified
          cases classified
        · rw [List.mem_singleton.mp last] at classified
          cases classified
        · rw [List.mem_singleton.mp last] at classified
          exact absurd (Option.some.inj classified).symm other
        · cases last
    rcases List.append_of_mem inFront with ⟨before, after, parts⟩
    have front : ∀ marker ∈ frontMarkers input, marker.uncertainLayer ≠ some .logon :=
      frontMarkers_layer_ne_logon
    rw [parts] at front
    rw [parts, List.append_assoc, List.cons_append]
    rcases listed_of_marker before (after ++ input.logonMarkers) input.draft.statusUncertainty
      classified with ⟨entry, entryMem, _, own | earlier⟩
    · exact ⟨entry, entryMem, own ▸ other⟩
    · exact ⟨entry, entryMem, listed_layer_ne_logon
        (fun marker member => front marker (List.mem_append_left _ member)) earlier⟩

/-- Nothing is uncertain beside the logon exactly when the input leaves nothing
open. -/
theorem uncertainty_all_logon_iff :
    input.draft.uncertainty.all (fun entry => entry.layer = .logon) = true ↔
      ¬ Unknown input (fun _ => True) := by
  rw [← openIn_draft_iff, List.all_eq_true]
  constructor
  · intro only opened
    rcases listed_of_openIn_draft opened with ⟨entry, member, other⟩
    exact other (of_decide_eq_true (only entry member))
  · intro closed entry member
    by_contra other
    exact closed (openIn_of_listed member (fun same => other (decide_eq_true same)))

/-- The marker of an undeterminable logon is flagged as without effect exactly
when the account has no access for either outcome. -/
theorem unknown_without_effect_iff {server reason : String}
    (undecided : input.selectiveAuthentication = some (.unknown server reason)) :
    .selectiveAuthenticationUnknown server reason false ∈ (evaluate input).diagnostics ↔
      (∀ via, NoAccessWith input (.allowed server via)) ∧ NoAccessWith input (.denied server) := by
  have admitted : input.logonRefused = false := by
    rw [PermissionEvaluationInput.logonRefused, undecided]
  have markers : input.logonMarkers = [.selectiveAuthenticationUnknown server reason true] := by
    rw [PermissionEvaluationInput.logonMarkers, undecided]
  have notFront : PermissionDiagnostic.selectiveAuthenticationUnknown server reason false ∉
      frontMarkers input := by
    intro member
    have other := frontMarkers_not_aboutLogon _ member
    cases other
  have notLast : PermissionDiagnostic.selectiveAuthenticationUnknown server reason false ∉
      synchronizeMarkers (settleLogon input.draft) input.ntfsRaw input.deniedRaw := by
    rw [synchronizeMarkers, Option.toList_map, List.mem_map]
    rintro ⟨cause, _, built⟩
    cases built
  have settled : (evaluate input).diagnostics = (settleLogon input.draft).diagnostics ++
      synchronizeMarkers (settleLogon input.draft) input.ntfsRaw input.deniedRaw := by
    rw [evaluate, admitted]
    rfl
  rw [settled, List.mem_append, or_iff_left notLast, settleLogon_draft_diagnostics,
    List.mem_append, or_iff_right notFront, markers]
  have both : ((∀ via, NoAccessWith input (.allowed server via)) ∧
      NoAccessWith input (.denied server)) ↔
        (input.effectiveRaw = 0#32 &&
          input.draft.uncertainty.all (fun entry => entry.layer = .logon)) = true := by
    rw [Bool.and_eq_true, decide_eq_true_iff, uncertainty_all_logon_iff]
    simp only [noAccessWith_allowed_iff, noAccessWith_denied_iff, forall_const]
    exact and_iff_left_of_imp And.right
  rw [both]
  split
  · rename_i nothing
    exact iff_of_true (List.mem_singleton_self _) nothing
  · rename_i something
    refine iff_of_false ?_ something
    rw [List.mem_singleton]
    intro same
    cases same

end Undeterminable

/-! ## Both outcomes of the check -/

/-- A refused logon is exactly No access. -/
def RefusedIsExact (input : PermissionEvaluationInput) : Prop :=
  ∀ server, input.selectiveAuthentication = some (.denied server) →
    ExactlyNoAccess (evaluate input)

/-- The marker of an undeterminable logon is without effect exactly when the
account has no access whether the logon is allowed or refused. -/
def UnknownIsSettled (input : PermissionEvaluationInput) : Prop :=
  ∀ server reason, input.selectiveAuthentication = some (.unknown server reason) →
    (.selectiveAuthenticationUnknown server reason false ∈ (evaluate input).diagnostics ↔
      (∀ via, NoAccessWith input (.allowed server via)) ∧ NoAccessWith input (.denied server))

/-- An undeterminable logon is settled for every input, a refused one is exact
on the inputs that leave nothing open beside it. -/
theorem logonRefusal_iff (input : PermissionEvaluationInput) :
    RefusedIsExact input ∧ UnknownIsSettled input ↔
      ∀ server, input.selectiveAuthentication = some (.denied server) → RefusalExact input := by
  have settled : UnknownIsSettled input :=
    fun _ _ undecided => unknown_without_effect_iff undecided
  rw [and_iff_left settled]
  exact forall_congr' (fun server => forall_congr' (fun refused =>
    exactlyNoAccess_refused_iff refused))

/-- A refused logon to an object with an entry of an unknown type. -/
def refusedUnevaluated : PermissionEvaluationInput where
  identity := { sid := ⟨"S-1-5-21-1-2-3-1000"⟩ }
  fileSystemObject :=
    { path := "D:\\Data"
      dacl := [{ kind := .allow, sid := ⟨"S-1-5-21-1-2-3-1000"⟩, mask := 0x1#32 }]
      unsupportedAces := [{ aceType := 0x9#8, flags := 0#8, mask := 0x1#32 }] }
  selectiveAuthentication := some (.denied "server")

/-- The upper bound still holds the granted right, and the unevaluated entry
leaves the result open. -/
theorem refusedUnevaluated_notExact :
    ¬ (RefusedIsExact refusedUnevaluated ∧ UnknownIsSettled refusedUnevaluated) := by
  intro both
  have noUncertainty := both.1 "server" rfl
  have remaining : (evaluate refusedUnevaluated).effectiveUpperBound = 0x1#32 := by decide
  rw [noUncertainty.upperBound] at remaining
  cases remaining

end PermissionEngine
end Stars
