import Stars.PermissionEngine.Markers

namespace Stars
namespace PermissionEngine

open EffectivePermission

/-!
# The layers of listed reasons

A result lists a reason once for each text.  So a reason of one layer could hide
behind an equal text of another one.  The texts rule this out: the first letters
behind a leading count tell the layers apart, and a result lists a reason for
exactly the layers that are open.
-/

/-- The first letters of a text behind a leading count. -/
def opening (text : String) : List Char := (text.toList.dropWhile Char.isDigit).take 7

/-- The layer a reason with these first letters concerns. -/
def openingLayer (start : List Char) : UncertainLayer :=
  if start = "The sha".toList ∨ start = " share ".toList then .share
  else if start = " NTFS A".toList ∨ start = "ACE(s) ".toList then .ntfs
  else if start = "The tru".toList then .logon
  else if start = "DFS pat".toList then .target
  else .token

/-- Behind its count a text begins with the given letters. -/
structure Opens (start : List Char) (text : String) : Prop where
  length : start.length = 7
  begins : ∃ rest, text.toList.dropWhile Char.isDigit = start ++ rest

section Opens

variable {start : List Char} {text : String} {layer : UncertainLayer}

theorem Opens.append (opens : Opens start text) (further : String) :
    Opens start (text ++ further) := by
  rcases opens with ⟨length, rest, same⟩
  refine ⟨length, rest ++ further.toList, ?_⟩
  have nonempty : (text.toList.dropWhile Char.isDigit).isEmpty = false := by
    rw [same, List.isEmpty_eq_false_iff]
    apply List.append_ne_nil_of_left_ne_nil
    intro empty
    rw [empty] at length
    cases length
  rw [String.toList_append, List.dropWhile_append, nonempty, same]
  simp

/-- A count in front of a text. -/
theorem Opens.behind (opens : Opens start text) (count : Nat) :
    Opens start (toString count ++ text) := by
  rcases opens with ⟨length, rest, same⟩
  refine ⟨length, rest, ?_⟩
  have digits : ∀ letter ∈ (toString count).toList, letter.isDigit = true :=
    fun _ member => Text.isDigit_of_mem_toString member
  rw [String.toList_append, List.dropWhile_append_of_pos digits, same]

theorem Opens.concerns (opens : Opens start text) (known : openingLayer start = layer) :
    openingLayer (opening text) = layer := by
  rcases opens with ⟨length, rest, same⟩
  rw [opening, same, ← length, List.take_left, known]

end Opens

theorem opens_literal (start : String) {text : String} (rest : List Char)
    (letters : text = String.ofList (start.toList ++ rest)) (length : start.toList.length = 7)
    (plain : (start.toList ++ rest).dropWhile Char.isDigit = start.toList ++ rest) :
    Opens start.toList text :=
  ⟨length, rest, by rw [letters, String.toList_ofList, plain]⟩

theorem layer_of_summary {marker : PermissionDiagnostic} {layer : UncertainLayer}
    (classified : marker.uncertainLayer = some layer) :
    openingLayer (opening marker.summary) = layer := by
  cases marker with
  | unsupportedShareAces count =>
      cases classified
      exact ((((opens_literal " share " _ rfl rfl rfl).behind count).append _).append _).concerns rfl
  | unsupportedNtfsAces count =>
      cases classified
      exact (((opens_literal " NTFS A" _ rfl rfl rfl).behind count).append _).concerns rfl
  | domainGroupRecursionIncomplete =>
      cases classified
      exact ((opens_literal "Group r" _ rfl rfl rfl).append _).concerns rfl
  | identityNotInConfiguredLdapBase =>
      cases classified
      exact ((opens_literal "Identit" _ rfl rfl rfl).append _).concerns rfl
  | identityLookupFailed reason =>
      cases classified
      exact ((((opens_literal "LDAP id" _ rfl rfl rfl).append _).append _).append _).concerns rfl
  | groupResolutionFailed reason =>
      cases classified
      exact ((((opens_literal "Recursi" _ rfl rfl rfl).append _).append _).append _).concerns rfl
  | identityResolvedViaForeignSecurityPrincipal =>
      cases classified
      exact ((opens_literal "Identit" _ rfl rfl rfl).append _).concerns rfl
  | groupResolutionViaGlobalCatalog =>
      cases classified
      exact ((opens_literal "Members" _ rfl rfl rfl).append _).concerns rfl
  | persistedEvidenceDecodeFailed detail =>
      cases classified
      exact ((((opens_literal "A persi" _ rfl rfl rfl).append _).append _).append _).concerns rfl
  | sidHistoryPresent count =>
      cases classified
      exact ((((opens_literal "Identit" _ rfl rfl rfl).append _).append _).append _).concerns rfl
  | groupSidHistoryPresent count =>
      cases classified
      exact (((opens_literal " histor" _ rfl rfl rfl).behind count).append _).concerns rfl
  | groupMemberEnumerationIncomplete reason =>
      cases classified
      exact ((((opens_literal "Group m" _ rfl rfl rfl).append _).append _).append _).concerns rfl
  | universalGroupCrossDomainMembersNotVisible =>
      cases classified
      exact ((opens_literal "This is" _ rfl rfl rfl).append _).concerns rfl
  | identityNotResolvable reason =>
      cases classified
      exact ((((opens_literal "The ide" _ rfl rfl rfl).append _).append _).append _).concerns rfl
  | groupResolutionIncomplete reason =>
      cases classified
      exact (((opens_literal "Group r" _ rfl rfl rfl).append _).append _).concerns rfl
  | logonDependentTrustees sids minMask maxMask =>
      cases classified
      exact (((((opens_literal "ACE(s) " _ rfl rfl rfl).append _).append _).append _).append
        _).concerns rfl
  | selectiveAuthenticationUnknown server reason affectsResult =>
      cases affectsResult with
      | false => cases classified
      | true =>
          cases classified
          exact (((opens_literal "The tru" _ rfl rfl rfl).append _).append _).concerns rfl
  | dfsTargetEvaluated requested target folder otherTargets otherTargetsKnown =>
      rw [PermissionDiagnostic.uncertainLayer] at classified
      split at classified
      · cases classified
        have start : Opens "DFS pat".toList (toString "DFS path ") :=
          opens_literal "DFS pat" _ rfl rfl rfl
        exact ((((((((start.append _).append _).append _).append _).append _).append _).append
          _).append _).concerns rfl
      · cases classified
  | _ => cases classified

/-- The texts of the statuses. -/
theorem layer_of_status {result : EffectivePermission} {entry : Uncertainty}
    (member : entry ∈ result.statusUncertainty) :
    openingLayer (opening entry.reason) = entry.layer := by
  rw [statusUncertainty] at member
  rcases List.mem_append.mp member with early | localGroups
  · rcases List.mem_append.mp early with share | ntfs
    · cases status : result.shareStatus with
      | readFailed reason =>
          rw [status] at share
          rw [List.mem_singleton.mp share]
          exact (((opens_literal "The sha" _ rfl rfl rfl).append _).append _).concerns rfl
      | _ =>
          rw [status] at share
          cases share
    · split at ntfs
      · rw [List.mem_singleton.mp ntfs]
        exact (((opens_literal " NTFS A" _ rfl rfl rfl).behind _).append _).concerns rfl
      · cases ntfs
  · cases status : result.localGroupStatus with
    | notAvailable reason =>
        rw [status] at localGroups
        rw [List.mem_singleton.mp localGroups]
        exact ((((opens_literal "The loc" _ rfl rfl rfl).append _).append _).append _).concerns rfl
    | _ =>
        rw [status] at localGroups
        cases localGroups

/-! ## Listed layers -/

/-- A result lists a reason for exactly the layers that are open. -/
theorem exists_listed_iff (result : EffectivePermission) (layer : UncertainLayer) :
    (∃ entry ∈ result.uncertainty, entry.layer = layer) ↔
      OpenIn result (fun other => other = layer) := by
  constructor
  · rintro ⟨entry, member, same⟩
    exact openIn_of_listed member same
  · rintro (⟨entry, status, same⟩ | ⟨marker, member, concerned, classified, same⟩)
    · rcases foldl_addUncertainty_prefix result.diagnostics result.statusUncertainty with
        ⟨further, listed⟩
      refine ⟨entry, ?_, same⟩
      rw [uncertainty, listed]
      exact List.mem_append_left _ status
    · subst same
      rcases List.append_of_mem member with ⟨front, back, divided⟩
      rcases listed_of_marker front back result.statusUncertainty classified with
        ⟨entry, listed, text, own | earlier⟩
      · exact ⟨entry, by rw [uncertainty, divided]; exact listed, own⟩
      · refine ⟨entry, by rw [uncertainty, divided]; exact listed, ?_⟩
        -- An entry of equal text concerns the same layer.
        have told : openingLayer (opening entry.reason) = entry.layer := by
          rcases origin_of_listed earlier with status | ⟨other, _, otherLayer, otherText⟩
          · exact layer_of_status status
          · rw [otherText]
            exact layer_of_summary otherLayer
        rw [← told, text]
        exact layer_of_summary classified

end PermissionEngine
end Stars
