import Stars.AdResolver.Principal
import Stars.PermissionEngine.Report

namespace Stars
namespace PermissionEngine

open AdResolver EffectivePermission

/-!
# Which markers leave a result open

A result is open in a layer when a status or a marker of it concerns the layer.
The parts of the marker list are read one by one, so that being open becomes a
condition on the input.
-/

/-- Some status or marker of the result leaves one of the layers open. -/
def OpenIn (result : EffectivePermission) (affected : UncertainLayer → Prop) : Prop :=
  (∃ entry ∈ result.statusUncertainty, affected entry.layer) ∨ Marked affected result.diagnostics

/-- A result is exact when nothing leaves it open. -/
theorem uncertainty_eq_nil_iff (result : EffectivePermission) :
    result.uncertainty = [] ↔ ¬ OpenIn result (fun _ => True) := by
  rw [uncertainty_nil_iff]
  constructor
  · rintro ⟨statuses, markers⟩ (⟨entry, member, _⟩ | ⟨marker, member, layer, classified, _⟩)
    · rw [statuses] at member
      cases member
    · rw [markers marker member] at classified
      cases classified
  · intro closed
    constructor
    · apply List.eq_nil_iff_forall_not_mem.mpr
      intro entry member
      exact closed (Or.inl ⟨entry, member, trivial⟩)
    · intro marker member
      cases classified : marker.uncertainLayer with
      | none => rfl
      | some layer => exact absurd (Or.inr ⟨marker, member, layer, classified, trivial⟩) closed

/-- A listed reason comes from a status or is the text of a marker. -/
theorem origin_of_listed {diagnostics : List PermissionDiagnostic} {listed : List Uncertainty}
    {entry : Uncertainty} (member : entry ∈ diagnostics.foldl addUncertainty listed) :
    entry ∈ listed ∨ ∃ marker ∈ diagnostics, marker.uncertainLayer = some entry.layer ∧
      entry.reason = marker.summary := by
  induction diagnostics generalizing listed with
  | nil => exact Or.inl member
  | cons marker rest ih =>
      rw [List.foldl_cons] at member
      rcases ih member with earlier | ⟨other, otherMem, classified, text⟩
      · rw [addUncertainty] at earlier
        split at earlier
        · exact Or.inl earlier
        · rename_i layer classified
          dsimp only at earlier
          split at earlier
          · exact Or.inl earlier
          · rcases List.mem_append.mp earlier with earlier | added
            · exact Or.inl earlier
            · rw [List.mem_singleton.mp added]
              exact Or.inr ⟨marker, List.mem_cons_self, classified, rfl⟩
      · exact Or.inr ⟨other, List.mem_cons_of_mem _ otherMem, classified, text⟩

theorem openIn_of_listed {result : EffectivePermission} {entry : Uncertainty}
    {affected : UncertainLayer → Prop} (member : entry ∈ result.uncertainty)
    (concerns : affected entry.layer) : OpenIn result affected := by
  rcases origin_of_listed member with status | ⟨marker, markerMem, classified, _⟩
  · exact Or.inl ⟨entry, status, concerns⟩
  · exact Or.inr ⟨marker, markerMem, entry.layer, classified, concerns⟩

/-- A marker is listed with its own layer unless its text is listed already. -/
theorem listed_of_marker (front back : List PermissionDiagnostic) (listed : List Uncertainty)
    {marker : PermissionDiagnostic} {layer : UncertainLayer}
    (classified : marker.uncertainLayer = some layer) :
    ∃ entry ∈ (front ++ marker :: back).foldl addUncertainty listed,
      entry.reason = marker.summary ∧
        (entry.layer = layer ∨ entry ∈ front.foldl addUncertainty listed) := by
  rw [List.foldl_append, List.foldl_cons]
  generalize front.foldl addUncertainty listed = earlier
  rcases foldl_addUncertainty_prefix back (addUncertainty earlier marker) with ⟨further, run⟩
  rw [run, addUncertainty, classified]
  dsimp only
  split
  · rename_i repeated
    rcases List.any_eq_true.mp repeated with ⟨entry, member, same⟩
    exact ⟨entry, List.mem_append_left _ member, beq_iff_eq.mp same, Or.inr member⟩
  · exact ⟨⟨layer, marker.summary⟩,
      List.mem_append_left _ (List.mem_append_right _ List.mem_cons_self), rfl, Or.inl rfl⟩

section Parts

variable {affected : UncertainLayer → Prop} (input : PermissionEvaluationInput)

theorem mem_markerIf {condition : Bool} {marker listed : PermissionDiagnostic} :
    listed ∈ markerIf condition marker ↔ condition = true ∧ listed = marker := by
  rw [markerIf]
  split
  · rename_i holds
    simp [holds]
  · rename_i fails
    simp [fails]

/-- A property of a marker holds of it under a condition. -/
theorem forall_mem_markerIf {holds : PermissionDiagnostic → Prop} (condition : Bool)
    {marker : PermissionDiagnostic} (own : holds marker) :
    ∀ listed ∈ markerIf condition marker, holds listed :=
  fun _ member => (mem_markerIf.mp member).2 ▸ own

variable (affected) in
theorem marked_markerIf (condition : Bool) (marker : PermissionDiagnostic) {layer : UncertainLayer}
    (classified : marker.uncertainLayer = some layer) :
    Marked affected (markerIf condition marker) ↔ condition = true ∧ affected layer := by
  rw [markerIf, marked_ite, marked_cons, classified]
  simp

theorem not_marked_markerIf (condition : Bool) {marker : PermissionDiagnostic}
    (noLayer : marker.uncertainLayer = none) : ¬ Marked affected (markerIf condition marker) :=
  not_marked_exact affected marker (condition = true) noLayer

theorem not_marked_of_exact {markers : List PermissionDiagnostic}
    (noLayer : ∀ marker ∈ markers, marker.uncertainLayer = none) : ¬ Marked affected markers := by
  intro marked
  rcases marked with ⟨marker, member, layer, classified, _⟩
  rw [noLayer marker member] at classified
  cases classified

theorem not_marked_collectDiagnostics (dacl : List AceEntry) :
    ¬ Marked affected (collectDiagnostics dacl) := by
  apply not_marked_of_exact
  intro marker member
  rw [collectDiagnostics] at member
  split at member
  · rw [List.mem_singleton.mp member]
    rfl
  · rw [List.mem_singleton.mp member]
    rfl
  · cases member

theorem marked_daclMarkers :
    Marked affected input.daclMarkers ↔
      (0 < input.unsupportedShareAceCount ∧ affected .share) ∨
        ((input.fileSystemObject.unsupportedAces ≠ [] ∨ input.logonDependent ≠ none) ∧
          affected .ntfs) := by
  have order : ¬ Marked affected (if input.fileSystemObject.nullDacl then []
      else collectDiagnostics input.fileSystemObject.dacl) := by
    split
    · exact marked_nil affected
    · exact not_marked_collectDiagnostics _
  have share := marked_markerIf affected (input.unsupportedShareAceCount > 0)
    (.unsupportedShareAces input.unsupportedShareAceCount) rfl
  have ntfs := marked_markerIf affected
    (input.fileSystemObject.unsupportedAces.length > 0)
    (.unsupportedNtfsAces input.fileSystemObject.unsupportedAces.length) rfl
  rw [PermissionEvaluationInput.daclMarkers, marked_append, marked_append, marked_append,
    or_iff_right order, share, ntfs, decide_eq_true_eq, decide_eq_true_eq, gt_iff_lt, gt_iff_lt,
    List.length_pos_iff, or_assoc]
  cases input.logonDependent with
  | none => simp
  | some bounds =>
      simp only [PermissionDiagnostic.uncertainLayer, marked_cons, marked_nil, or_false, ne_eq,
        reduceCtorEq, not_false_eq_true, or_true, true_and, Option.some.injEq, exists_eq_left']
      exact or_congr_right (or_iff_right_of_imp And.right)

/-- What the resolution knows to be missing from the token. -/
structure ResolutionComplete (resolution : ResolutionProvenance) : Prop where
  recursive : resolution.groupResolutionViaSamFallback = false
  inBase : resolution.identityNotInConfiguredLdapBase = false
  lookedUp : resolution.identityLookupFailureReason = none
  groupsResolved : resolution.groupResolutionFailureReason = none
  noGaps : resolution.groupResolutionGaps = []
  resolvable : resolution.identityUnresolvableReason = none
  ownForest : resolution.identityResolvedViaFsp = false
  fullReplica : resolution.groupResolutionViaGlobalCatalog = false

theorem marked_resolutionMarkers :
    Marked affected input.resolutionMarkers ↔
      (input.resolution.groupResolutionViaSamFallback = true ∨
        input.resolution.identityNotInConfiguredLdapBase = true ∨
        input.resolution.identityLookupFailureReason ≠ none ∨
        input.resolution.groupResolutionFailureReason ≠ none ∨
        input.resolution.groupResolutionGaps ≠ []) ∧ affected .token := by
  have sam := marked_markerIf affected input.resolution.groupResolutionViaSamFallback
    .domainGroupRecursionIncomplete rfl
  have outside := marked_markerIf affected
    input.resolution.identityNotInConfiguredLdapBase .identityNotInConfiguredLdapBase rfl
  have disabled : ¬ Marked affected (markerIf input.identity.disabled .identityDisabled) :=
    not_marked_markerIf _ rfl
  have unknown : ¬ Marked affected (markerIf input.resolution.identityDisabledStatusUnknown
      .identityDisabledStatusUnknown) := not_marked_markerIf _ rfl
  have lookup := marked_reason affected PermissionDiagnostic.identityLookupFailed (fun _ => rfl)
    input.resolution.identityLookupFailureReason
  have groups := marked_reason affected PermissionDiagnostic.groupResolutionFailed (fun _ => rfl)
    input.resolution.groupResolutionFailureReason
  have gaps := marked_map affected PermissionDiagnostic.groupResolutionIncomplete (fun _ => rfl)
    input.resolution.groupResolutionGaps
  rw [PermissionEvaluationInput.resolutionMarkers]
  simp only [marked_append, Option.toList_map, sam, outside, disabled, unknown, lookup, groups,
    gaps, or_false, ← or_and_right, or_assoc]

theorem not_marked_uacMarkers : ¬ Marked affected input.uacMarkers := by
  rw [PermissionEvaluationInput.uacMarkers, marked_append, not_or]
  refine ⟨not_marked_markerIf _ rfl, ?_⟩
  cases input.remoteUac <;> simp [PermissionDiagnostic.uncertainLayer]

theorem marked_identityMarkers :
    Marked affected input.identityMarkers ↔
      (input.resolution.identityUnresolvableReason ≠ none ∨
        input.resolution.identityResolvedViaFsp = true ∨
        input.resolution.groupResolutionViaGlobalCatalog = true ∨ HistoryUnread input.identity ∨
        GroupHistoryUnread input.groupMemberships) ∧ affected .token := by
  have guest : ¬ Marked affected (markerIf (!input.guestSids.isEmpty)
      (.guestOrAnonymousToken input.guestSids)) := not_marked_markerIf _ rfl
  have excluded : ¬ Marked affected (markerIf
      (!input.resolution.excludedNonSecurityGroups.isEmpty)
      (.nonSecurityGroupsExcluded input.resolution.excludedNonSecurityGroups)) :=
    not_marked_markerIf _ rfl
  have orphaned : ¬ Marked affected (markerIf (input.identity.kind = .orphaned)
      .identityOrphaned) := not_marked_markerIf _ rfl
  have owner : ¬ Marked affected (markerIf input.ownerRightsAcePresent .ownerRightsAceApplied) :=
    not_marked_markerIf _ rfl
  have unresolvable := marked_reason affected PermissionDiagnostic.identityNotResolvable
    (fun _ => rfl) input.resolution.identityUnresolvableReason
  have foreign := marked_markerIf affected input.resolution.identityResolvedViaFsp
    .identityResolvedViaForeignSecurityPrincipal rfl
  have catalog := marked_markerIf affected
    input.resolution.groupResolutionViaGlobalCatalog .groupResolutionViaGlobalCatalog rfl
  rw [PermissionEvaluationInput.identityMarkers]
  simp only [marked_append, Option.toList_map, guest, excluded, orphaned, owner, unresolvable,
    foreign, catalog, marked_sidHistory, marked_groupSidHistory, or_false, false_or,
    ← or_and_right, or_assoc]

theorem not_marked_trustMarkers : ¬ Marked affected input.trustMarkers := by
  rw [PermissionEvaluationInput.trustMarkers, marked_append, not_or]
  refine ⟨not_marked_markerIf _ rfl, ?_⟩
  cases input.resolution.trustedDomain with
  | none => exact marked_nil affected
  | some trusted =>
      dsimp only
      rw [marked_cons, not_or]
      refine ⟨?_, not_marked_markerIf _ rfl⟩
      simp [PermissionDiagnostic.uncertainLayer]

/-- Every target of the DFS folder is known to be this one. -/
def TargetKnown : Prop :=
  ∀ dfs ∈ input.dfs, dfs.otherTargets = [] ∧ dfs.otherTargetsKnown = true

theorem dfsMarker_layer (dfs : DfsEvaluation) :
    dfs.marker.uncertainLayer =
      if dfs.otherTargets = [] ∧ dfs.otherTargetsKnown = true then none else some .target := by
  rw [DfsEvaluation.marker, PermissionDiagnostic.uncertainLayer]
  cases dfs.otherTargets <;> cases dfs.otherTargetsKnown <;> rfl

theorem marked_objectMarkers :
    Marked affected input.objectMarkers ↔ ¬ TargetKnown input ∧ affected .target := by
  have link : ¬ Marked affected (input.fileSystemObject.link.map
      (fun link => PermissionDiagnostic.linkObject link.kind link.target)).toList := by
    cases input.fileSystemObject.link <;> simp [PermissionDiagnostic.uncertainLayer]
  have unidentified : ¬ Marked affected
      (input.fileSystemObject.identityUnknown.map .directoryIdentityUnknown).toList := by
    cases input.fileSystemObject.identityUnknown <;> simp [PermissionDiagnostic.uncertainLayer]
  rw [PermissionEvaluationInput.objectMarkers, marked_append, marked_append, or_iff_left link,
    or_iff_left unidentified]
  cases known : input.dfs with
  | none => simp [TargetKnown, known]
  | some dfs =>
      have single : TargetKnown input ↔ dfs.otherTargets = [] ∧ dfs.otherTargetsKnown = true := by
        simp [TargetKnown, known]
      rw [Option.map_some, Option.toList_some, marked_cons, or_iff_left (marked_nil affected),
        dfsMarker_layer, single]
      split
      · rename_i all
        simp [all]
      · rename_i undecided
        simp [undecided]

/-! ## Being open as a condition on the input -/

/-- The markers before the one of the logon. -/
def frontMarkers : List PermissionDiagnostic :=
  input.daclMarkers ++ input.resolutionMarkers ++ input.uacMarkers ++ input.identityMarkers ++
    input.trustMarkers ++ input.objectMarkers

theorem diagnostics_eq_front : input.diagnostics = frontMarkers input ++ input.logonMarkers := rfl

/-- Every SID of the token could be read. -/
structure TokenKnown : Prop where
  resolution : ResolutionComplete input.resolution
  history : ¬ HistoryUnread input.identity
  groupHistory : ¬ GroupHistoryUnread input.groupMemberships
  localGroups : ∀ reason, input.localGroupStatus ≠ .notAvailable reason

/-- Every entry of the access list was evaluated, and for every possible token
with the same result. -/
structure NtfsKnown : Prop where
  evaluated : input.fileSystemObject.unsupportedAces = []
  sameReading : input.logonDependent = none

/-- The share permissions could be read and evaluated. -/
structure ShareKnown : Prop where
  evaluated : input.unsupportedShareAceCount = 0
  readable : ∀ reason, input.shareStatus ≠ .readFailed reason

/-- What the input leaves open concerns one of the layers. -/
def Unknown (affected : UncertainLayer → Prop) : Prop :=
  (¬ TokenKnown input ∧ affected .token) ∨ (¬ NtfsKnown input ∧ affected .ntfs) ∨
    (¬ ShareKnown input ∧ affected .share) ∨ (¬ TargetKnown input ∧ affected .target)

theorem not_resolutionComplete_iff (resolution : ResolutionProvenance) :
    ¬ ResolutionComplete resolution ↔
      (resolution.groupResolutionViaSamFallback = true ∨
        resolution.identityNotInConfiguredLdapBase = true ∨
        resolution.identityLookupFailureReason ≠ none ∨
        resolution.groupResolutionFailureReason ≠ none ∨
        resolution.groupResolutionGaps ≠ []) ∨
      resolution.identityUnresolvableReason ≠ none ∨
        resolution.identityResolvedViaFsp = true ∨
        resolution.groupResolutionViaGlobalCatalog = true := by
  constructor
  · intro incomplete
    by_contra nothing
    simp only [not_or, Bool.not_eq_true, not_not] at nothing
    rcases nothing with ⟨⟨sam, outside, lookup, groups, gaps⟩, unresolvable, foreign, catalog⟩
    exact incomplete ⟨sam, outside, lookup, groups, gaps, unresolvable, foreign, catalog⟩
  · intro reported complete
    rcases reported with (found | found | found | found | found) | found | found | found
    · rw [complete.recursive] at found
      cases found
    · rw [complete.inBase] at found
      cases found
    · exact found complete.lookedUp
    · exact found complete.groupsResolved
    · exact found complete.noGaps
    · exact found complete.resolvable
    · rw [complete.ownForest] at found
      cases found
    · rw [complete.fullReplica] at found
      cases found

theorem not_tokenKnown_iff :
    ¬ TokenKnown input ↔
      (¬ ResolutionComplete input.resolution ∨ HistoryUnread input.identity ∨
        GroupHistoryUnread input.groupMemberships) ∨
      ∃ reason, input.localGroupStatus = .notAvailable reason := by
  constructor
  · intro unknown
    by_contra nothing
    simp only [not_or, not_not, not_exists] at nothing
    rcases nothing with ⟨⟨complete, own, groups⟩, localGroups⟩
    exact unknown ⟨complete, own, groups, localGroups⟩
  · intro reported known
    rcases reported with (found | found | found) | ⟨reason, found⟩
    · exact found known.resolution
    · exact known.history found
    · exact known.groupHistory found
    · exact known.localGroups reason found

theorem not_ntfsKnown_iff :
    ¬ NtfsKnown input ↔
      input.fileSystemObject.unsupportedAces ≠ [] ∨ input.logonDependent ≠ none := by
  constructor
  · intro unknown
    by_contra nothing
    rw [not_or, not_not, not_not] at nothing
    exact unknown ⟨nothing.1, nothing.2⟩
  · intro reported known
    exact reported.elim (fun found => found known.evaluated) (fun found => found known.sameReading)

theorem not_shareKnown_iff :
    ¬ ShareKnown input ↔ 0 < input.unsupportedShareAceCount ∨
      ∃ reason, input.shareStatus = .readFailed reason := by
  constructor
  · intro unknown
    by_contra nothing
    rw [not_or, not_exists] at nothing
    exact unknown ⟨Nat.eq_zero_of_not_pos nothing.1, nothing.2⟩
  · intro reported known
    rcases reported with found | ⟨reason, found⟩
    · rw [known.evaluated] at found
      cases found
    · exact known.readable reason found

/-- The markers before the one of the logon concern what the input leaves open,
the failed reads of local groups and share apart. -/
theorem marked_frontMarkers :
    Marked affected (frontMarkers input) ↔
      ((¬ ResolutionComplete input.resolution ∨ HistoryUnread input.identity ∨
          GroupHistoryUnread input.groupMemberships) ∧ affected .token) ∨
        (¬ NtfsKnown input ∧ affected .ntfs) ∨
        (0 < input.unsupportedShareAceCount ∧ affected .share) ∨
        (¬ TargetKnown input ∧ affected .target) := by
  rw [frontMarkers, marked_append, marked_append, marked_append, marked_append, marked_append,
    or_iff_left (not_marked_trustMarkers input), or_iff_left (not_marked_uacMarkers input),
    marked_daclMarkers, marked_resolutionMarkers, marked_identityMarkers, marked_objectMarkers,
    not_resolutionComplete_iff, not_ntfsKnown_iff]
  constructor
  · intro marked
    rcases marked with (((share | ntfs) | ⟨gap, token⟩) | ⟨unread, token⟩) | target
    · exact Or.inr (Or.inr (Or.inl share))
    · exact Or.inr (Or.inl ntfs)
    · exact Or.inl ⟨Or.inl (Or.inl gap), token⟩
    · rcases unread with unresolvable | foreign | catalog | history
      · exact Or.inl ⟨Or.inl (Or.inr (Or.inl unresolvable)), token⟩
      · exact Or.inl ⟨Or.inl (Or.inr (Or.inr (Or.inl foreign))), token⟩
      · exact Or.inl ⟨Or.inl (Or.inr (Or.inr (Or.inr catalog))), token⟩
      · exact Or.inl ⟨Or.inr history, token⟩
    · exact Or.inr (Or.inr (Or.inr target))
  · intro listed
    rcases listed with ⟨(gap | unresolved) | history, token⟩ | ntfs | share | target
    · exact Or.inl (Or.inl (Or.inr ⟨gap, token⟩))
    · rcases unresolved with unresolvable | foreign | catalog
      · exact Or.inl (Or.inr ⟨Or.inl unresolvable, token⟩)
      · exact Or.inl (Or.inr ⟨Or.inr (Or.inl foreign), token⟩)
      · exact Or.inl (Or.inr ⟨Or.inr (Or.inr (Or.inl catalog)), token⟩)
    · exact Or.inl (Or.inr ⟨Or.inr (Or.inr (Or.inr history)), token⟩)
    · exact Or.inl (Or.inl (Or.inl (Or.inr ntfs)))
    · exact Or.inl (Or.inl (Or.inl (Or.inl share)))
    · exact Or.inr target

end Parts

end PermissionEngine
end Stars
