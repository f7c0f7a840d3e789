import Stars.PermissionEngine.ListedLayers
import Stars.PermissionEngine.MembershipView

namespace Stars
namespace Cli

open AdResolver Collections PermissionEngine

/-!
# The reasons in the header of a scan

The header of a scan states once what makes every result not determinable.  It
reads the reasons from the resolution, the local groups and the share, before any
object is evaluated.  Every row of the scan then lists a reason for each of their
layers, whatever its object, its target and its logon are.
-/

/-- The reasons that concern every row, with their layers. -/
def scanWideReasons (resolution : PrincipalResolution) (localGroupStatus : LocalGroupEvalStatus)
    (shareStatus : ShareMaskStatus) (unsupportedShareAceCount : Nat) : List Uncertainty :=
  resolution.membershipDiagnostics.filterMap (fun diagnostic =>
    diagnostic.uncertainLayer.map (fun layer => ⟨layer, diagnostic.summary⟩)) ++
  (match localGroupStatus with
    | .notAvailable message =>
        [⟨.token, s!"The local groups of the target server could not be resolved ({message})."⟩]
    | _ => []) ++
  (match shareStatus with
    | .readFailed message =>
        [⟨.share, s!"The share permissions are not determinable ({message})."⟩]
    | _ => []) ++
  (if unsupportedShareAceCount > 0 then
    [⟨.share, s!"{unsupportedShareAceCount} share ACE(s) could not be evaluated."⟩] else [])

/-- Reasons that make every result of a scan not determinable. -/
def scanWideUncertainty (resolution : PrincipalResolution)
    (localGroupStatus : LocalGroupEvalStatus) (shareStatus : ShareMaskStatus)
    (unsupportedShareAceCount : Nat) : List String :=
  (resolution.membershipDiagnostics.filter
    (fun diagnostic => diagnostic.uncertainLayer.isSome)).map PermissionDiagnostic.summary ++
  (match localGroupStatus with
    | .notAvailable message =>
        [s!"The local groups of the target server could not be resolved ({message})."]
    | _ => []) ++
  (match shareStatus with
    | .readFailed message => [s!"The share permissions are not determinable ({message})."]
    | _ => []) ++
  (if unsupportedShareAceCount > 0 then
    [s!"{unsupportedShareAceCount} share ACE(s) could not be evaluated."] else [])

/-- The evaluation of one object of the scan. -/
def rowInput (object : PermissionEvaluationInput) (resolution : PrincipalResolution)
    (localGroups : List GroupMembership) (localGroupStatus : LocalGroupEvalStatus)
    (shareStatus : ShareMaskStatus) (unsupportedShareAceCount : Nat) : PermissionEvaluationInput :=
  { forResolution object resolution localGroups with
    localGroupStatus := localGroupStatus
    shareStatus := shareStatus
    unsupportedShareAceCount := unsupportedShareAceCount }

section Reasons

variable (object : PermissionEvaluationInput) (resolution : PrincipalResolution)
  (localGroups : List GroupMembership) (localGroupStatus : LocalGroupEvalStatus)
  (shareStatus : ShareMaskStatus) (unsupportedShareAceCount : Nat)

/-- The header shows the texts of the reasons. -/
theorem scanWideUncertainty_eq :
    scanWideUncertainty resolution localGroupStatus shareStatus unsupportedShareAceCount =
      (scanWideReasons resolution localGroupStatus shareStatus unsupportedShareAceCount).map
        Uncertainty.reason := by
  have markers : ∀ listed : List PermissionDiagnostic,
      (listed.filter (fun diagnostic => diagnostic.uncertainLayer.isSome)).map
          PermissionDiagnostic.summary =
        (listed.filterMap (fun diagnostic => diagnostic.uncertainLayer.map
          (fun layer => Uncertainty.mk layer diagnostic.summary))).map Uncertainty.reason := by
    intro listed
    induction listed with
    | nil => rfl
    | cons diagnostic rest ih =>
        cases classified : diagnostic.uncertainLayer with
        | none => simp [classified, ih]
        | some layer => simp [classified, ih]
  unfold scanWideUncertainty scanWideReasons
  rw [markers, List.map_append, List.map_append, List.map_append]
  by_cases something : unsupportedShareAceCount > 0
  · rw [if_pos something, if_pos something]
    cases localGroupStatus <;> cases shareStatus <;> rfl
  · rw [if_neg something, if_neg something]
    cases localGroupStatus <;> cases shareStatus <;> rfl

/-- Further memberships hide no unread history. -/
theorem groupHistoryUnread_append {memberships : List GroupMembership}
    (unread : GroupHistoryUnread memberships) (further : List GroupMembership) :
    GroupHistoryUnread (memberships ++ further) := by
  rcases unread with ⟨membership, kept, missing⟩
  refine ⟨membership, ?_, missing⟩
  rw [mem_distinctBy_iff] at kept ⊢
  exact ⟨kept.1, by rw [List.find?_append, kept.2, Option.some_or]⟩

/-- An incomplete resolution leaves the token of every row open. -/
theorem not_tokenKnown_of_incomplete (incomplete : resolution.Incomplete) :
    ¬ TokenKnown (rowInput object resolution localGroups localGroupStatus shareStatus
      unsupportedShareAceCount) := by
  have flags : resolution.scopeStatus = .outsideConfiguredLdapBase →
      resolution.engineFlags.identityNotInConfiguredLdapBase = true :=
    fun outside => decide_eq_true outside
  have sam : resolution.groupResolutionStatus = .samFlat →
      resolution.engineFlags.groupResolutionViaSamFallback = true :=
    fun flat => decide_eq_true flat
  rw [not_tokenKnown_iff, not_resolutionComplete_iff]
  rcases incomplete with outside | flat | lookup | groups | gaps | unresolvable | foreign |
    catalog | history | groupHistory
  · exact .inl (.inl (.inl (.inr (.inl (flags outside)))))
  · exact .inl (.inl (.inl (.inl (sam flat))))
  · exact .inl (.inl (.inl (.inr (.inr (.inl lookup)))))
  · exact .inl (.inl (.inl (.inr (.inr (.inr (.inl groups))))))
  · exact .inl (.inl (.inl (.inr (.inr (.inr (.inr gaps))))))
  · exact .inl (.inl (.inr (.inl unresolvable)))
  · exact .inl (.inl (.inr (.inr (.inl foreign))))
  · exact .inl (.inl (.inr (.inr (.inr catalog))))
  · exact .inl (.inr (.inl history))
  · exact .inl (.inr (.inr (groupHistoryUnread_append groupHistory localGroups)))

/-- Every reason of the header is open in the layer of the row it names. -/
theorem openIn_of_scanWide {reason : Uncertainty}
    (listed : reason ∈ scanWideReasons resolution localGroupStatus shareStatus
      unsupportedShareAceCount) :
    OpenIn (evaluate (rowInput object resolution localGroups localGroupStatus shareStatus
      unsupportedShareAceCount)) (fun layer => layer = reason.layer) := by
  rcases exists_reportedFrom (rowInput object resolution localGroups localGroupStatus shareStatus
    unsupportedShareAceCount) with ⟨back, reported, others⟩
  have opened : ∀ layer, layer ≠ .logon →
      Unknown (rowInput object resolution localGroups localGroupStatus shareStatus
        unsupportedShareAceCount) (fun other => other = layer) →
      OpenIn (evaluate (rowInput object resolution localGroups localGroupStatus shareStatus
        unsupportedShareAceCount)) (fun other => other = layer) := by
    intro layer notLogon unknown
    apply (openIn_of_reportedFrom reported _).mpr unknown
    rintro ⟨marker, member, concerned, classified, same⟩
    exact notLogon (same ▸ (others marker member).2 concerned classified)
  unfold scanWideReasons at listed
  rcases List.mem_append.mp listed with listed | share
  · rcases List.mem_append.mp listed with listed | readFailed
    · rcases List.mem_append.mp listed with marked | localGroup
      · rcases List.mem_filterMap.mp marked with ⟨marker, member, built⟩
        rcases Option.map_eq_some_iff.mp built with ⟨layer, classified, rfl⟩
        have incomplete := (PrincipalResolution.marked_iff (fun other => other = layer)
          resolution).mp ⟨marker, member, layer, classified, rfl⟩
        rcases incomplete with ⟨incomplete, rfl⟩
        exact opened _ nofun (.inl ⟨not_tokenKnown_of_incomplete object resolution localGroups
          localGroupStatus shareStatus unsupportedShareAceCount incomplete, rfl⟩)
      · cases localGroupStatus with
        | notAvailable message =>
            rw [List.mem_singleton.mp localGroup]
            refine opened _ nofun (.inl ⟨?_, rfl⟩)
            exact fun known => known.localGroups message rfl
        | _ => cases localGroup
    · cases shareStatus with
      | readFailed message =>
          rw [List.mem_singleton.mp readFailed]
          refine opened _ nofun (.inr (.inr (.inl ⟨?_, rfl⟩)))
          exact fun known => known.readable message rfl
      | _ => cases readFailed
  · split at share
    · rename_i something
      rw [List.mem_singleton.mp share]
      refine opened _ nofun (.inr (.inr (.inl ⟨?_, rfl⟩)))
      exact fun known => Nat.ne_of_gt something known.evaluated
    · cases share

/-- Whatever the object, its target and the logon, every reason of the header is
true of the row: the row lists a reason of the same layer. -/
theorem scanWide_true_of_row :
    scanWideUncertainty resolution localGroupStatus shareStatus unsupportedShareAceCount =
        (scanWideReasons resolution localGroupStatus shareStatus unsupportedShareAceCount).map
          Uncertainty.reason ∧
      (scanWideUncertainty resolution localGroupStatus shareStatus unsupportedShareAceCount ≠ [] →
        (evaluate (rowInput object resolution localGroups localGroupStatus shareStatus
          unsupportedShareAceCount)).uncertainty ≠ []) ∧
      ∀ reason ∈ scanWideReasons resolution localGroupStatus shareStatus unsupportedShareAceCount,
        ∃ entry ∈ (evaluate (rowInput object resolution localGroups localGroupStatus shareStatus
          unsupportedShareAceCount)).uncertainty, entry.layer = reason.layer := by
  have texts := scanWideUncertainty_eq resolution localGroupStatus shareStatus
    unsupportedShareAceCount
  have rows : ∀ reason ∈ scanWideReasons resolution localGroupStatus shareStatus
      unsupportedShareAceCount, ∃ entry ∈ (evaluate (rowInput object resolution localGroups
        localGroupStatus shareStatus unsupportedShareAceCount)).uncertainty,
        entry.layer = reason.layer := by
    intro reason listed
    exact (exists_listed_iff _ _).mpr (openIn_of_scanWide object resolution localGroups
      localGroupStatus shareStatus unsupportedShareAceCount listed)
  refine ⟨texts, ?_, rows⟩
  intro something nothing
  apply something
  rw [texts, List.map_eq_nil_iff, List.eq_nil_iff_forall_not_mem]
  intro reason listed
  rcases rows reason listed with ⟨entry, member, _⟩
  rw [nothing] at member
  cases member

end Reasons

end Cli
end Stars
