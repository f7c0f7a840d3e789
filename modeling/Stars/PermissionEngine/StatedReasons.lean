import Stars.PermissionEngine.ExplanationPath
import Stars.PermissionEngine.LogonRefusal

namespace Stars

open AdResolver EffectivePermission PermissionEngine

/-!
# The reasons a path states

A path is read instead of the result, so it must not state as a fact what the result
leaves open.  Every reason of the result has its step, every value is worded by its
determinability, and a step opens with the words for an open value only where the
result has a reason.
-/

namespace Text

/-- A text with another lead does not begin with the given words. -/
theorem not_startsWith_append {start lead : String}
    (apart : ¬ (start.toList <+: lead.toList ∨ lead.toList <+: start.toList)) (rest : String) :
    startsWith start (lead ++ rest) = false := by
  rw [startsWith, String.toList_append, ← Bool.not_eq_true, List.isPrefixOf_iff_prefix]
  intro begins
  exact apart (List.prefix_or_prefix_of_prefix begins (List.prefix_append _ _))

end Text

namespace PermissionEngine

section Settled

variable {input : PermissionEvaluationInput}

theorem synchronizeMarkers_exact (result : EffectivePermission) (ntfsRaw deniedRaw : AccessMask) :
    ∀ marker ∈ synchronizeMarkers result ntfsRaw deniedRaw, marker.uncertainLayer = none := by
  intro marker member
  rw [synchronizeMarkers, Option.toList_map, List.mem_map] at member
  rcases member with ⟨cause, _, built⟩
  rw [← built]
  rfl

theorem any_append_of_quiet {Item : Type} {holds : Item → Bool} {front back : List Item}
    (quiet : ∀ item ∈ back, holds item = false) : (front ++ back).any holds = front.any holds := by
  have nothing : back.any holds = false := by
    rw [List.any_eq_false]
    intro item member found
    rw [quiet item member] at found
    cases found
  rw [List.any_append, nothing, Bool.or_false]

theorem foldl_addUncertainty_of_exact {markers : List PermissionDiagnostic}
    (noLayers : ∀ marker ∈ markers, marker.uncertainLayer = none) (listed : List Uncertainty) :
    markers.foldl addUncertainty listed = listed := by
  induction markers generalizing listed with
  | nil => rfl
  | cons marker rest further =>
      rw [List.foldl_cons, addUncertainty_of_exact listed (noLayers marker List.mem_cons_self)]
      exact further (fun other member => noLayers other (List.mem_cons_of_mem _ member)) listed

/-- The last marker and the refusal leave the reasons as they are. -/
theorem uncertainty_evaluate (input : PermissionEvaluationInput) :
    (evaluate input).uncertainty = (settleLogon input.draft).uncertainty := by
  unfold evaluate
  dsimp only
  split
  · rfl
  · have quiet := synchronizeMarkers_exact (settleLogon input.draft) input.ntfsRaw input.deniedRaw
    have status : statusUncertainty { settleLogon input.draft with
        diagnostics := (settleLogon input.draft).diagnostics ++
          synchronizeMarkers (settleLogon input.draft) input.ntfsRaw input.deniedRaw } =
        (settleLogon input.draft).statusUncertainty := by
      unfold statusUncertainty
      rw [any_append_of_quiet]
      intro marker member
      have layer := quiet marker member
      cases marker with
      | unsupportedNtfsAces count => cases layer
      | _ => rfl
    rw [uncertainty, status, List.foldl_append, foldl_addUncertainty_of_exact quiet]
    rfl

theorem determinable_evaluate (input : PermissionEvaluationInput) :
    (evaluate input).ntfsDeterminable = (settleLogon input.draft).ntfsDeterminable ∧
      (evaluate input).shareDeterminable = (settleLogon input.draft).shareDeterminable ∧
      (evaluate input).effectiveDeterminable = (settleLogon input.draft).effectiveDeterminable := by
  simp only [ntfsDeterminable, shareDeterminable, effectiveDeterminable, uncertainIn,
    uncertainty_evaluate, and_self]

/-- A marker of the result before its last one is a front marker or the one of the
logon. -/
theorem mem_settled_diagnostics {marker : PermissionDiagnostic}
    (member : marker ∈ (settleLogon input.draft).diagnostics) :
    marker ∈ frontMarkers input ∨ marker ∈ input.logonMarkers ∨
      marker ∈ input.logonMarkers.map withoutEffect := by
  rw [settleLogon_draft_diagnostics, List.mem_append] at member
  rcases member with front | last
  · exact Or.inl front
  · split at last
    · exact Or.inr (Or.inr last)
    · exact Or.inr (Or.inl last)

theorem logonMarkers_layer {marker : PermissionDiagnostic} {layer : UncertainLayer}
    (member : marker ∈ input.logonMarkers ∨ marker ∈ input.logonMarkers.map withoutEffect)
    (classified : marker.uncertainLayer = some layer) :
    marker ∈ input.logonMarkers ∧ layer = .logon ∧
      ∃ server reason, marker = .selectiveAuthenticationUnknown server reason true := by
  have single : ∀ own, input.logonMarkers = [own] →
      marker = own ∨ marker = withoutEffect own := by
    intro own markers
    rw [markers, List.map_singleton, List.mem_singleton, List.mem_singleton] at member
    exact member
  cases check : input.selectiveAuthentication with
  | none =>
      have markers : input.logonMarkers = [] := by
        rw [PermissionEvaluationInput.logonMarkers, check]
      rw [markers] at member
      simp at member
  | some outcome =>
      cases outcome with
      | allowed server via =>
          have markers : input.logonMarkers = [.selectiveAuthenticationAllowed server via] := by
            rw [PermissionEvaluationInput.logonMarkers, check]
          rcases single _ markers with same | same
          · rw [same] at classified
            cases classified
          · rw [same] at classified
            cases classified
      | denied server =>
          have markers : input.logonMarkers = [.selectiveAuthenticationDenied server] := by
            rw [PermissionEvaluationInput.logonMarkers, check]
          rcases single _ markers with same | same
          · rw [same] at classified
            cases classified
          · rw [same] at classified
            cases classified
      | unknown server reason =>
          have markers : input.logonMarkers =
              [.selectiveAuthenticationUnknown server reason true] := by
            rw [PermissionEvaluationInput.logonMarkers, check]
          rcases single _ markers with same | same
          · rw [same] at classified
            rw [same, markers]
            exact ⟨List.mem_singleton_self _, (Option.some.inj classified).symm, server, reason, rfl⟩
          · rw [same] at classified
            cases classified

/-- A front marker about the entries is one of the access list. -/
theorem mem_daclMarkers_of_ntfs {marker : PermissionDiagnostic}
    (member : marker ∈ frontMarkers input) (classified : marker.uncertainLayer = some .ntfs) :
    marker ∈ input.daclMarkers := by
  have elsewhere : ∀ markers : List PermissionDiagnostic, marker ∈ markers →
      Marked (fun layer => layer = .ntfs) markers :=
    fun markers listed => ⟨marker, listed, .ntfs, classified, rfl⟩
  simp only [frontMarkers, List.mem_append] at member
  rcases member with ((((dacl | resolution) | uac) | identity) | trust) | object
  · exact dacl
  · have marked := elsewhere _ resolution
    rw [marked_resolutionMarkers] at marked
    simp at marked
  · exact absurd (elsewhere _ uac) (not_marked_uacMarkers _)
  · have marked := elsewhere _ identity
    rw [marked_identityMarkers] at marked
    simp at marked
  · exact absurd (elsewhere _ trust) (not_marked_trustMarkers _)
  · have marked := elsewhere _ object
    rw [marked_objectMarkers] at marked
    simp at marked

/-- The two markers about the entries. -/
theorem daclMarkers_ntfs {marker : PermissionDiagnostic} (member : marker ∈ input.daclMarkers)
    (classified : marker.uncertainLayer = some .ntfs) :
    (0 < input.fileSystemObject.unsupportedAces.length ∧
      marker = .unsupportedNtfsAces input.fileSystemObject.unsupportedAces.length) ∨
    ∃ bounds, input.logonDependent = some bounds ∧
      marker = .logonDependentTrustees bounds.sids bounds.min bounds.max := by
  simp only [PermissionEvaluationInput.daclMarkers, List.mem_append] at member
  rcases member with ((order | share) | unsupported) | range
  · have marked : Marked (fun layer => layer = .ntfs)
        (if input.fileSystemObject.nullDacl then []
        else collectDiagnostics input.fileSystemObject.dacl) :=
      ⟨marker, order, .ntfs, classified, rfl⟩
    split at marked
    · simp at marked
    · exact absurd marked (not_marked_collectDiagnostics _)
  · rw [(mem_markerIf.mp share).2] at classified
    cases classified
  · have both := mem_markerIf.mp unsupported
    exact Or.inl ⟨of_decide_eq_true both.1, both.2⟩
  · cases found : input.logonDependent with
    | none => rw [found] at range; cases range
    | some bounds =>
        rw [found] at range
        exact Or.inr ⟨bounds, rfl, List.mem_singleton.mp range⟩

theorem frontMarkers_sub_settled {marker : PermissionDiagnostic}
    (member : marker ∈ frontMarkers input) : marker ∈ (settleLogon input.draft).diagnostics := by
  rw [settleLogon_draft_diagnostics]
  exact List.mem_append_left _ member

/-- A reason of the entries comes from one of the two markers about them. -/
theorem ntfs_reason {entry : Uncertainty}
    (member : entry ∈ (settleLogon input.draft).uncertainty) (layer : entry.layer = .ntfs) :
    (0 < input.fileSystemObject.unsupportedAces.length ∧
      entry.reason = (PermissionDiagnostic.unsupportedNtfsAces
        input.fileSystemObject.unsupportedAces.length).summary) ∨
    ∃ bounds, input.logonDependent = some bounds ∧ entry.reason =
      (PermissionDiagnostic.logonDependentTrustees bounds.sids bounds.min bounds.max).summary := by
  rcases origin_of_listed member with status | ⟨marker, listed, classified, reason⟩
  · have counted := (mem_statusUncertainty_iff (· = .ntfs) _).mp ⟨entry, status, layer⟩
    simp only [reduceCtorEq, and_false, false_or, or_false, and_true] at counted
    have count : (settleLogon input.draft).unsupportedAceCount =
        input.fileSystemObject.unsupportedAces.length := by
      rw [settleLogon_eq]
      rfl
    rw [count] at counted
    refine absurd (frontMarkers_sub_settled ?_)
      (counted.2 input.fileSystemObject.unsupportedAces.length)
    simp only [frontMarkers, PermissionEvaluationInput.daclMarkers, List.mem_append,
      mem_markerIf]
    exact Or.inl (Or.inl (Or.inl (Or.inl (Or.inl (Or.inl (Or.inr
      ⟨decide_eq_true counted.1, trivial⟩))))))
  · rw [layer] at classified
    rcases mem_settled_diagnostics listed with front | logon
    · rcases daclMarkers_ntfs (mem_daclMarkers_of_ntfs front classified) classified with
        ⟨something, same⟩ | ⟨bounds, found, same⟩
      · exact Or.inl ⟨something, same ▸ reason⟩
      · exact Or.inr ⟨bounds, found, same ▸ reason⟩
    · cases (logonMarkers_layer logon classified).2.1

/-- A reason of the logon is the marker of an undeterminable logon. -/
theorem logon_reason {entry : Uncertainty}
    (member : entry ∈ (settleLogon input.draft).uncertainty) (layer : entry.layer = .logon) :
    ∃ server reason, .selectiveAuthenticationUnknown server reason true ∈
        (settleLogon input.draft).diagnostics ∧
      entry.reason =
        (PermissionDiagnostic.selectiveAuthenticationUnknown server reason true).summary := by
  rcases origin_of_listed member with status | ⟨marker, listed, classified, words⟩
  · have counted := (mem_statusUncertainty_iff (· = .logon) _).mp ⟨entry, status, layer⟩
    simp at counted
  · rw [layer] at classified
    rcases mem_settled_diagnostics listed with front | logon
    · exact absurd classified (frontMarkers_layer_ne_logon marker front)
    · rcases (logonMarkers_layer logon classified).2.2 with ⟨server, reason, same⟩
      exact ⟨server, reason, same ▸ listed, same ▸ words⟩

end Settled

end PermissionEngine

namespace ExplanationRequest

variable {toLowercase : String → String} {request : ExplanationRequest}

/-- The step states the reason, in the words of its layer. -/
def States (request : ExplanationRequest) (entry : Uncertainty) (step : String) : Prop :=
  match entry.layer with
  | .token => step = notDeterminable ++ " — the token above may be incomplete: " ++ entry.reason
  | .target => step = notDeterminable ++ " — " ++ entry.reason
  | .share =>
      match request.outputShareStatus with
      -- The step of a share that could not be read names what went wrong itself.
      | .readFailed reason => step = unreadableShareStep reason
      | _ => step = notDeterminable ++ " — share: " ++ entry.reason
  | .logon => step = notDeterminable ++ " — logon: " ++ entry.reason
  | .ntfs =>
      (entry.reason = (PermissionDiagnostic.unsupportedNtfsAces
          request.fileSystemObject.unsupportedAces.length).summary ∧
        request.unsupportedStep = some step) ∨
      ∃ bounds, request.logonDependent = some bounds ∧ entry.reason =
          (PermissionDiagnostic.logonDependentTrustees bounds.sids bounds.min bounds.max).summary ∧
        request.rangeStep = some step

theorem mem_reasonsIn {entry : Uncertainty} (member : entry ∈ request.settled.uncertainty) :
    entry.reason ∈ request.reasonsIn entry.layer :=
  List.mem_map.mpr ⟨entry, List.mem_filter.mpr ⟨member, decide_eq_true rfl⟩, rfl⟩

theorem mem_explanationSteps {step : String} :
    step ∈ request.explanationSteps toLowercase ↔
      step ∈ request.tokenSteps toLowercase ∨ step ∈ request.tokenReasonSteps ∨
        step ∈ request.entrySteps ∨ step ∈ request.ntfsSteps ∨ step ∈ request.shareSteps ∨
        request.linkStep = some step ∨ step ∈ request.synchronizeSteps ∨
        request.logonStep = some step := by
  simp only [explanationSteps, List.mem_append, Option.mem_toList, or_assoc]

/-- Only a marker of the logon has a logon step. -/
theorem logonStepOf_front {marker : PermissionDiagnostic} (member : marker ∈
    frontMarkers request.toPermissionEvaluationInput) : logonStepOf marker = none := by
  have other := frontMarkers_not_aboutLogon marker member
  cases marker with
  | selectiveAuthenticationAllowed server via => cases other
  | selectiveAuthenticationDenied server => cases other
  | selectiveAuthenticationUnknown server reason affects => cases other
  | _ => rfl

theorem logonStep_of_unknown {server reason : String}
    (listed : .selectiveAuthenticationUnknown server reason true ∈ request.settled.diagnostics) :
    request.logonStep = some (notDeterminable ++ " — logon: " ++
      (PermissionDiagnostic.selectiveAuthenticationUnknown server reason true).summary) := by
  have shape := @settleLogon_draft_diagnostics request.toPermissionEvaluationInput
  have front : (frontMarkers request.toPermissionEvaluationInput).findSome? logonStepOf = none :=
    List.findSome?_eq_none_iff.mpr (fun marker member => logonStepOf_front member)
  have last := mem_settled_diagnostics listed
  have own : .selectiveAuthenticationUnknown server reason true ∈ request.logonMarkers := by
    rcases last with inFront | logon
    · have other := frontMarkers_not_aboutLogon _ inFront
      cases other
    · exact (logonMarkers_layer logon rfl).1
  have single : request.logonMarkers = [.selectiveAuthenticationUnknown server reason true] := by
    unfold PermissionEvaluationInput.logonMarkers at own ⊢
    split at own
    · cases List.mem_singleton.mp own
    · cases List.mem_singleton.mp own
    · rw [List.mem_singleton.mp own]
    · cases own
  have parts : request.settled.diagnostics = frontMarkers request.toPermissionEvaluationInput ++
      [.selectiveAuthenticationUnknown server reason true] := by
    rw [settled, shape, single] at listed
    rw [settled, shape, single]
    split
    · rename_i without
      rw [if_pos without, List.mem_append] at listed
      rcases listed with inFront | mapped
      · have other := frontMarkers_not_aboutLogon _ inFront
        cases other
      · cases List.mem_singleton.mp mapped
    · rfl
  rw [logonStep, parts, List.findSome?_append, front]
  rfl

theorem exists_step_of_share {entry : Uncertainty} (member : entry ∈ request.settled.uncertainty)
    (layer : entry.layer = .share) :
    ∃ step ∈ request.shareSteps, request.States entry step := by
  have stated : notDeterminable ++ " — share: " ++ entry.reason ∈ request.shareReasonSteps :=
    List.mem_map.mpr ⟨entry.reason, layer ▸ mem_reasonsIn member, rfl⟩
  unfold States
  rw [layer]
  cases status : request.outputShareStatus with
  | readFailed reason =>
      refine ⟨_, ?_, rfl⟩
      rw [shareSteps, status]
      exact List.mem_singleton_self _
  | applied =>
      have mask : ∃ share, request.shareMaskForOutput = some share := by
        unfold PermissionEvaluationInput.outputShareStatus at status
        unfold PermissionEvaluationInput.shareMaskForOutput
        cases found : request.shareStatus with
        | applied share => exact ⟨share, rfl⟩
        | notApplicable => rw [found] at status; cases status
        | unrestricted => rw [found] at status; cases status
        | readFailed reason => rw [found] at status; cases status
      rcases mask with ⟨share, found⟩
      refine ⟨_, ?_, rfl⟩
      rw [shareSteps, status]
      simp only [found, List.mem_append]
      exact Or.inl (Or.inr stated)
  | unrestricted =>
      refine ⟨_, ?_, rfl⟩
      rw [shareSteps, status]
      exact List.mem_cons_of_mem _ stated
  | notApplicable =>
      refine ⟨_, ?_, rfl⟩
      rw [shareSteps, status]
      exact List.mem_cons_of_mem _ stated

/-- Every reason of the result has a step of the path. -/
theorem exists_step_of_reason {entry : Uncertainty}
    (member : entry ∈ request.settled.uncertainty) :
    ∃ step ∈ request.explanationSteps toLowercase, request.States entry step := by
  have listed := mem_reasonsIn member
  cases layer : entry.layer with
  | token =>
      refine ⟨notDeterminable ++ " — the token above may be incomplete: " ++ entry.reason, ?_, ?_⟩
      · refine mem_explanationSteps.mpr (Or.inr (Or.inl (List.mem_append_left _ ?_)))
        exact List.mem_map.mpr ⟨entry.reason, layer ▸ listed, rfl⟩
      · rw [States, layer]
  | target =>
      refine ⟨notDeterminable ++ " — " ++ entry.reason, ?_, ?_⟩
      · refine mem_explanationSteps.mpr (Or.inr (Or.inl (List.mem_append_right _ ?_)))
        exact List.mem_map.mpr ⟨entry.reason, layer ▸ listed, rfl⟩
      · rw [States, layer]
  | share =>
      rcases exists_step_of_share member layer with ⟨step, inside, stated⟩
      exact ⟨step, mem_explanationSteps.mpr
        (Or.inr (Or.inr (Or.inr (Or.inr (Or.inl inside))))), stated⟩
  | logon =>
      rcases logon_reason member layer with ⟨server, reason, marker, words⟩
      refine ⟨notDeterminable ++ " — logon: " ++ entry.reason, ?_, ?_⟩
      · rw [words]
        exact mem_explanationSteps.mpr (Or.inr (Or.inr (Or.inr (Or.inr (Or.inr (Or.inr (Or.inr
          (logonStep_of_unknown marker))))))))
      · rw [States, layer]
  | ntfs =>
      have inNtfs : ∀ step, request.unsupportedStep = some step ∨ request.rangeStep = some step →
          step ∈ request.explanationSteps toLowercase := by
        intro step either
        refine mem_explanationSteps.mpr (Or.inr (Or.inr (Or.inr (Or.inl ?_))))
        simp only [ntfsSteps, List.mem_append, Option.mem_toList]
        rcases either with unsupported | range
        · exact Or.inl (Or.inl (Or.inr unsupported))
        · exact Or.inr range
      rcases ntfs_reason member layer with ⟨something, words⟩ | ⟨bounds, found, words⟩
      · have step : ∃ step, request.unsupportedStep = some step :=
          ⟨_, if_pos something⟩
        rcases step with ⟨step, shown⟩
        refine ⟨step, inNtfs step (Or.inl shown), ?_⟩
        rw [States, layer]
        exact Or.inl ⟨words, shown⟩
      · have step : ∃ step, request.rangeStep = some step := by
          rw [rangeStep, found]
          exact ⟨_, rfl⟩
        rcases step with ⟨step, shown⟩
        refine ⟨step, inNtfs step (Or.inr shown), ?_⟩
        rw [States, layer]
        exact Or.inr ⟨bounds, found, words, shown⟩

/-! ## Where a step opens with the words for an open value -/

/-- The step opens with the words for a value that is not determinable. -/
def OpensUndetermined (step : String) : Prop := Text.startsWith notDeterminable step = true

/-- A step with a lead of its own does not open with these words. -/
theorem not_opensUndetermined {lead : String}
    (apart : ¬ (notDeterminable.toList <+: lead.toList ∨ lead.toList <+: notDeterminable.toList))
    (rest : String) : ¬ OpensUndetermined (lead ++ rest) := by
  rw [OpensUndetermined, Text.not_startsWith_append apart]
  exact Bool.false_ne_true

theorem formatMembershipStepBase_lead (sidNames : List (Sid × String))
    (membership : GroupMembership) :
    ∃ rest, formatMembershipStepBase sidNames membership = "Member of " ++ rest := by
  unfold formatMembershipStepBase
  cases membership.path with
  | none =>
      simp only [toString, String.append_assoc]
      exact ⟨_, rfl⟩
  | some path =>
      dsimp only
      split
      · simp only [toString, String.append_assoc]
        exact ⟨_, rfl⟩
      · split
        · simp only [toString, String.append_assoc]
          exact ⟨_, rfl⟩
        · simp only [toString, String.append_assoc]
          exact ⟨_, rfl⟩

/-- Every listed membership step begins in the same way. -/
theorem membershipListing_lead : ∀ step ∈ (request.membershipListing toLowercase).steps,
    ∃ rest, step = "Member of " ++ rest := by
  have built : ∀ membership, ∃ rest, request.membershipStep membership = "Member of " ++ rest := by
    intro membership
    rcases formatMembershipStepBase_lead request.sidNames membership with ⟨rest, lead⟩
    rw [membershipStep, formatMembershipStep, lead, String.append_assoc, String.append_assoc,
      String.append_assoc]
    exact ⟨_, rfl⟩
  have pushed : ∀ (listing : MembershipListing) (membership : GroupMembership),
      (∀ step ∈ listing.steps, ∃ rest, step = "Member of " ++ rest) →
      ∀ step ∈ (listing.push (request.membershipStep membership)).steps,
        ∃ rest, step = "Member of " ++ rest := by
    intro listing membership known step member
    unfold MembershipListing.push at member
    split at member
    · exact known step member
    · rcases List.mem_append.mp member with earlier | own
      · exact known step earlier
      · rw [List.mem_singleton.mp own]
        exact built membership
  have run : ∀ (memberships : List GroupMembership) (listing : MembershipListing),
      (∀ step ∈ listing.steps, ∃ rest, step = "Member of " ++ rest) →
      ∀ step ∈ (memberships.foldl (MembershipListing.add request request.effectiveDetail)
        listing).steps, ∃ rest, step = "Member of " ++ rest := by
    intro memberships
    induction memberships with
    | nil => exact fun listing known => known
    | cons membership rest further =>
        intro listing known
        refine further _ ?_
        unfold MembershipListing.add
        split
        · exact pushed listing membership known
        · split
          · exact known
          · dsimp only
            split
            · exact known
            · exact pushed listing membership known
  intro step member
  exact run _ {} (fun other absent => absurd absent List.not_mem_nil) step member

theorem tokenSteps_plain : ∀ step ∈ request.tokenSteps toLowercase, ¬ OpensUndetermined step := by
  intro step member
  simp only [tokenSteps, List.mem_append, List.mem_singleton, Option.mem_toList] at member
  rcases member with (((user | history) | context) | membership) | notListed
  · rw [user, userStep]
    exact not_opensUndetermined (by decide) _
  · rcases List.mem_map.mp history with ⟨old, _, built⟩
    rw [← built, String.append_assoc]
    exact not_opensUndetermined (by decide) _
  · rw [context]
    unfold accessContextStepWith
    cases request.accessContext with
    | remoteSmb =>
        simp only [String.append_assoc]
        exact not_opensUndetermined (by decide) _
    | localInteractive =>
        simp only [String.append_assoc]
        exact not_opensUndetermined (by decide) _
    | unspecified =>
        simp only [String.append_assoc]
        exact not_opensUndetermined (by decide) _
  · rcases membershipListing_lead step membership with ⟨rest, lead⟩
    rw [lead]
    exact not_opensUndetermined (by decide) _
  · unfold notListedStep at notListed
    split at notListed
    · cases notListed
    · dsimp only at notListed
      split at notListed
      · rw [← Option.some.inj notListed]
        simp only [toString, String.append_assoc]
        exact not_opensUndetermined (by decide) _
      · cases notListed

theorem denyText_plain (aggregation : DenyAggregation) : ¬ OpensUndetermined aggregation.text := by
  unfold DenyAggregation.text
  dsimp only
  simp only [toString, String.append_assoc]
  exact not_opensUndetermined (by decide) _

theorem entrySteps_plain : ∀ step ∈ request.entrySteps, ¬ OpensUndetermined step := by
  intro step member
  simp only [entrySteps, List.mem_append, Option.mem_toList] at member
  rcases member with ((entry | state) | deny) | owner
  · rcases List.mem_filterMap.mp entry with ⟨pair, _, built⟩
    rw [aceStep, Option.map_eq_some_iff] at built
    rcases built with ⟨effect, _, same⟩
    rw [← same]
    simp only [String.append_assoc]
    cases pair.1.kind with
    | allow => exact not_opensUndetermined (by decide) _
    | deny => exact not_opensUndetermined (by decide) _
  · unfold daclStateStep at state
    split at state
    · rw [← Option.some.inj state]
      exact not_opensUndetermined (by decide) _
    · split at state
      · rw [← Option.some.inj state]
        exact not_opensUndetermined (by decide) _
      · split at state
        · rw [← Option.some.inj state]
          exact not_opensUndetermined (by decide) _
        · split at state
          · rw [← Option.some.inj state]
            exact not_opensUndetermined (by decide) _
          · cases state
  · rw [denyStep, Option.map_eq_some_iff] at deny
    rcases deny with ⟨aggregation, _, built⟩
    rw [← built]
    exact denyText_plain aggregation
  · unfold ownerStep at owner
    split at owner
    · rw [← Option.some.inj owner]
      exact not_opensUndetermined (by decide) _
    · split at owner
      · rw [← Option.some.inj owner]
        simp only [String.append_assoc]
        exact not_opensUndetermined (by decide) _
      · split at owner
        · rw [← Option.some.inj owner]
          exact not_opensUndetermined (by decide) _
        · cases owner

/-- A value opens with these words exactly when it is not determinable. -/
theorem value_opens {mask : AccessMask} {determinable : Bool} {label : String}
    (apart : ¬ (notDeterminable.toList <+: label.toList ∨
      label.toList <+: notDeterminable.toList)) :
    ¬ OpensUndetermined (label ++ rightsStatement mask determinable) :=
  not_opensUndetermined apart _

theorem uncertain_of_reasonsIn {layer : UncertainLayer} {reason : String}
    (member : reason ∈ request.reasonsIn layer) : request.settled.uncertainty ≠ [] := by
  rcases List.mem_map.mp member with ⟨entry, listed, _⟩
  exact List.ne_nil_of_mem (List.mem_of_mem_filter listed)

theorem uncertain_of_tokenReason {step : String} (member : step ∈ request.tokenReasonSteps) :
    request.settled.uncertainty ≠ [] := by
  rcases List.mem_append.mp member with token | target
  · rcases List.mem_map.mp token with ⟨reason, listed, _⟩
    exact uncertain_of_reasonsIn listed
  · rcases List.mem_map.mp target with ⟨reason, listed, _⟩
    exact uncertain_of_reasonsIn listed

theorem uncertain_of_range {step : String} (shown : request.rangeStep = some step) :
    request.settled.uncertainty ≠ [] := by
  rw [rangeStep, Option.map_eq_some_iff] at shown
  rcases shown with ⟨bounds, found, _⟩
  intro nothing
  have listed : .logonDependentTrustees bounds.sids bounds.min bounds.max ∈
      request.settled.diagnostics := by
    apply frontMarkers_sub_settled
    simp only [frontMarkers, PermissionEvaluationInput.daclMarkers, found, List.mem_append,
      List.mem_singleton, or_true, true_or]
  have layer := uncertainLayer_of_uncertainty_nil nothing listed
  cases layer

theorem limitStep_plain (share : AccessMask) : ¬ OpensUndetermined (request.limitStep share) := by
  have plain : ∀ (known lead rest : String), known = "" ∨ known = "From the known data: " →
      ¬ (notDeterminable.toList <+: lead.toList ∨ lead.toList <+: notDeterminable.toList) →
      ¬ OpensUndetermined (known ++ (lead ++ rest)) := by
    intro known lead rest either apart
    rcases either with nothing | something
    · rw [nothing, String.empty_append]
      exact not_opensUndetermined apart rest
    · rw [something]
      exact not_opensUndetermined (by decide) _
  have known : (if request.settled.effectiveDeterminable then "" else "From the known data: ") =
      "" ∨ (if request.settled.effectiveDeterminable then "" else "From the known data: ") =
      "From the known data: " := by
    split
    · exact Or.inl rfl
    · exact Or.inr rfl
  unfold limitStep
  dsimp only
  split
  · simp only [String.append_assoc]
    exact plain _ _ _ known (by decide)
  · split
    · simp only [String.append_assoc]
      exact plain _ _ _ known (by decide)
    · simp only [String.append_assoc]
      exact plain _ _ _ known (by decide)

theorem unreadableShareStep_plain (reason : String) :
    ¬ OpensUndetermined (unreadableShareStep reason) := by
  unfold unreadableShareStep
  simp only [String.append_assoc]
  exact not_opensUndetermined (by decide) _

theorem uncertain_of_shareStep {step : String} (member : step ∈ request.shareSteps)
    (opens : OpensUndetermined step) : request.settled.uncertainty ≠ [] := by
  have reasons : step ∈ request.shareReasonSteps → request.settled.uncertainty ≠ [] := by
    intro listed
    rcases List.mem_map.mp listed with ⟨reason, inside, _⟩
    exact uncertain_of_reasonsIn inside
  unfold shareSteps at member
  cases status : request.outputShareStatus with
  | applied =>
      simp only [status] at member
      cases mask : request.shareMaskForOutput with
      | none =>
          simp only [mask] at member
          cases member
      | some share =>
          simp only [mask, List.mem_append, List.mem_cons,
            List.not_mem_nil, or_false] at member
          rcases member with (value | listed) | effective | limit
          · exact absurd opens (value ▸ not_opensUndetermined (by decide) _)
          · exact reasons listed
          · exact absurd opens (effective ▸ not_opensUndetermined (by decide) _)
          · exact absurd opens (limit ▸ limitStep_plain share)
  | unrestricted =>
      simp only [status] at member
      rcases List.mem_cons.mp member with own | listed
      · exact absurd opens (own ▸ not_opensUndetermined (by decide) _)
      · exact reasons listed
  | readFailed reason =>
      simp only [status] at member
      rw [List.mem_singleton.mp member] at opens
      exact absurd opens (unreadableShareStep_plain reason)
  | notApplicable =>
      simp only [status] at member
      rcases List.mem_cons.mp member with own | listed
      · exact absurd opens (own ▸ not_opensUndetermined (by decide) _)
      · exact reasons listed

theorem ntfsSteps_plain {step : String} (member : step ∈ request.ntfsSteps)
    (opens : OpensUndetermined step) : request.settled.uncertainty ≠ [] := by
  simp only [ntfsSteps, List.mem_append, List.mem_singleton, Option.mem_toList] at member
  rcases member with ((value | unsupported) | deletion) | range
  · rw [value] at opens
    exact absurd opens (value_opens (by decide))
  · unfold unsupportedStep at unsupported
    dsimp only at unsupported
    split at unsupported
    · rw [← Option.some.inj unsupported] at opens
      simp only [String.append_assoc] at opens
      exact absurd opens (not_opensUndetermined (by decide) _)
    · cases unsupported
  · unfold fileDeletionStep at deletion
    split at deletion
    · rw [← Option.some.inj deletion] at opens
      simp only [String.append_assoc] at opens
      exact absurd opens (not_opensUndetermined (by decide) _)
    · cases deletion
  · exact uncertain_of_range range

/-- The decision about the logon opens with these words only where it is open. -/
theorem uncertain_of_logonStep {step : String} (shown : request.logonStep = some step)
    (opens : OpensUndetermined step) : request.settled.uncertainty ≠ [] := by
  rcases List.exists_of_findSome?_eq_some shown with ⟨marker, listed, words⟩
  cases marker with
  | selectiveAuthenticationUnknown server reason affects =>
      cases affects with
      | true =>
          intro nothing
          have layer := uncertainLayer_of_uncertainty_nil nothing listed
          cases layer
      | false =>
          rw [← Option.some.inj words] at opens
          exact absurd opens (not_opensUndetermined (by decide) _)
  | selectiveAuthenticationDenied server =>
      rw [← Option.some.inj words] at opens
      simp only [String.append_assoc] at opens
      exact absurd opens (not_opensUndetermined (by decide) _)
  | selectiveAuthenticationAllowed server via =>
      rw [← Option.some.inj words] at opens
      exact absurd opens (not_opensUndetermined (by decide) _)
  | _ => cases words

/-- A step that opens with the words for an open value stands for a reason. -/
theorem uncertain_of_opens {step : String} (member : step ∈ request.explanationSteps toLowercase)
    (opens : OpensUndetermined step) : request.settled.uncertainty ≠ [] := by
  rcases mem_explanationSteps.mp member with
    token | reason | entry | ntfs | share | link | synchronize | logon
  · exact absurd opens (tokenSteps_plain step token)
  · exact uncertain_of_tokenReason reason
  · exact absurd opens (entrySteps_plain step entry)
  · exact ntfsSteps_plain ntfs opens
  · exact uncertain_of_shareStep share opens
  · rw [linkStep, Option.map_eq_some_iff] at link
    rcases link with ⟨marker, _, built⟩
    exact absurd opens (built ▸ not_opensUndetermined (by decide) _)
  · unfold synchronizeSteps at synchronize
    split at synchronize
    · cases synchronize
    · rcases List.mem_map.mp synchronize with ⟨marker, _, built⟩
      exact absurd opens (built ▸ not_opensUndetermined (by decide) _)
  · exact uncertain_of_logonStep logon opens

/-! ## The path and the result -/

/-- The path and the result agree about what is open: every reason of the result has
its step, a step opens with the words for an open value only beside a reason, and the
three values are worded by the determinability of the result. -/
theorem explanation_states_uncertainty (toLowercase : String → String)
    (request : ExplanationRequest) :
    (∀ entry ∈ (evaluateWhole toLowercase request).uncertainty,
      ∃ step ∈ (evaluateWhole toLowercase request).pathExplanation, request.States entry step) ∧
    (∀ step ∈ (evaluateWhole toLowercase request).pathExplanation, OpensUndetermined step →
      (evaluateWhole toLowercase request).uncertainty ≠ []) ∧
    "NTFS effective: " ++ rightsStatement (evaluateWhole toLowercase request).ntfsMask
        (evaluateWhole toLowercase request).ntfsDeterminable ∈
      (evaluateWhole toLowercase request).pathExplanation ∧
    (∀ share, (evaluateWhole toLowercase request).shareStatus = .applied →
      (evaluateWhole toLowercase request).shareMask = some share →
      "Share permission: " ++ rightsStatement share
          (evaluateWhole toLowercase request).shareDeterminable ∈
        (evaluateWhole toLowercase request).pathExplanation ∧
      "Effective (NTFS ∩ Share): " ++
          rightsStatement ((evaluateWhole toLowercase request).ntfsMask &&& share)
            (evaluateWhole toLowercase request).effectiveDeterminable ∈
        (evaluateWhole toLowercase request).pathExplanation) := by
  have reasons : (evaluateWhole toLowercase request).uncertainty = request.settled.uncertainty :=
    uncertainty_evaluate request.toPermissionEvaluationInput
  have words := determinable_evaluate request.toPermissionEvaluationInput
  have masks : (evaluateWhole toLowercase request).ntfsMask = request.ntfsRaw :=
    evaluate_ntfsMask request.toPermissionEvaluationInput
  refine ⟨?_, ?_, ?_, ?_⟩
  · intro entry member
    exact exists_step_of_reason (reasons ▸ member)
  · intro step member opens
    rw [reasons]
    exact uncertain_of_opens member opens
  · have determinable : (evaluateWhole toLowercase request).ntfsDeterminable =
        request.settled.ntfsDeterminable := words.1
    rw [masks, determinable]
    exact mem_explanationSteps.mpr (Or.inr (Or.inr (Or.inr (Or.inl List.mem_cons_self))))
  · intro share status mask
    have applied : request.outputShareStatus = .applied :=
      (evaluate_shareStatus request.toPermissionEvaluationInput).symm.trans status
    have found : request.shareMaskForOutput = some share :=
      (evaluate_shareMask request.toPermissionEvaluationInput).symm.trans mask
    have effective : request.effectiveRaw = request.ntfsRaw &&& share := by
      unfold PermissionEvaluationInput.shareMaskForOutput at found
      unfold PermissionEvaluationInput.effectiveRaw
      cases known : request.shareStatus with
      | applied other =>
          rw [known] at found
          cases found
          rfl
      | notApplicable => rw [known] at found; cases found
      | unrestricted => rw [known] at found; cases found
      | readFailed reason => rw [known] at found; cases found
    have shareWords : (evaluateWhole toLowercase request).shareDeterminable =
        request.settled.shareDeterminable := words.2.1
    have effectiveWords : (evaluateWhole toLowercase request).effectiveDeterminable =
        request.settled.effectiveDeterminable := words.2.2
    have inShare : ∀ step, step ∈ request.shareSteps →
        step ∈ (evaluateWhole toLowercase request).pathExplanation := by
      intro step member
      exact mem_explanationSteps.mpr (Or.inr (Or.inr (Or.inr (Or.inr (Or.inl member)))))
    rw [masks, shareWords, effectiveWords, ← effective]
    refine ⟨inShare _ ?_, inShare _ ?_⟩
    · rw [shareSteps, applied]
      simp only [found, List.mem_append]
      exact Or.inl (Or.inl List.mem_cons_self)
    · rw [shareSteps, applied]
      simp only [found, List.mem_append]
      exact Or.inr List.mem_cons_self

end ExplanationRequest

end Stars
