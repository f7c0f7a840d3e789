import Stars.Core.Input

namespace Stars

/-!
# Evaluated permissions

The result of one evaluation, and what can be read from it alone.  Uncertainty
is recomputed from the statuses and markers a result carries, so a stored
result gives the same answer as a fresh one.  `effectiveUpperBound` is the
highest right the known data leaves open.
-/

structure EffectivePermission where
  identity : Identity
  path : String
  ntfsMask : AccessMask
  shareMask : Option AccessMask
  effectiveMask : AccessMask
  shareStatus : ShareEvalStatus := .notApplicable
  localGroupStatus : LocalGroupEvalStatus := .notQueried
  contributingSids : List ContributingAce := []
  unsupportedAceCount : Nat := 0
  matchedAces : List AceEntry := []
  diagnostics : List PermissionDiagnostic := []
deriving DecidableEq

/-- What is known about the state of an account. -/
inductive AccountStatus where
  | active
  | disabled
  | unknown
  | notAnAccount
  | doesNotExist
deriving DecidableEq

/-- A marker that leaves the state of the account open. -/
def PermissionDiagnostic.hidesAccountState : PermissionDiagnostic → Bool
  | .identityDisabledStatusUnknown => true
  | .identityNotResolvable _ => true
  | .identityLookupFailed _ => true
  | _ => false

namespace AccountStatus

/-- An account counts as active only when no marker says that its state is unknown. -/
def of (identity : Identity) (diagnostics : List PermissionDiagnostic) : AccountStatus :=
  match identity.kind with
  | .orphaned => doesNotExist
  | .group => notAnAccount
  | .wellKnown => notAnAccount
  | .unknown => unknown
  | _ =>
      if diagnostics.any PermissionDiagnostic.hidesAccountState then unknown
      else if identity.disabled then disabled
      else active

def csvValue : AccountStatus → String
  | active => "false"
  | disabled => "true"
  | unknown => "unknown"
  | notAnAccount => "n/a"
  | doesNotExist => "n/a"

end AccountStatus

namespace EffectivePermission

/-- The reasons that come from the statuses of a result, before its markers.
The count of un-evaluated NTFS ACEs is named only when no marker names it. -/
def statusUncertainty (result : EffectivePermission) : List Uncertainty :=
  let hasNtfsMarker := result.diagnostics.any (fun diagnostic =>
    match diagnostic with
    | .unsupportedNtfsAces _ => true
    | _ => false)
  (match result.shareStatus with
    | .readFailed reason =>
        [⟨.share, s!"The share permissions are not determinable ({reason})."⟩]
    | _ => []) ++
  (if result.unsupportedAceCount > 0 && !hasNtfsMarker then
    [⟨.ntfs, s!"{result.unsupportedAceCount} NTFS ACE(s) could not be evaluated — a hidden " ++
      "Deny among them could change the result."⟩]
  else []) ++
  (match result.localGroupStatus with
    | .notAvailable reason =>
        [⟨.token, s!"The local groups of the target server could not be resolved ({reason}) — " ++
          "ACEs for local groups may apply to this identity."⟩]
    | _ => [])

/-- Add the reason of one marker, unless an equal text is listed already. -/
def addUncertainty (listed : List Uncertainty) (diagnostic : PermissionDiagnostic) :
    List Uncertainty :=
  match diagnostic.uncertainLayer with
  | none => listed
  | some layer =>
      let reason := diagnostic.summary
      if listed.any (fun entry => entry.reason == reason) then listed
      else listed ++ [⟨layer, reason⟩]

/-- Every reason why the shown result may differ from the real one. -/
def uncertainty (result : EffectivePermission) : List Uncertainty :=
  result.diagnostics.foldl addUncertainty result.statusUncertainty

def isIncomplete (result : EffectivePermission) : Bool := !result.uncertainty.isEmpty

/-- Some reason concerns one of the layers. -/
def uncertainIn (result : EffectivePermission) (layers : List UncertainLayer) : Bool :=
  result.uncertainty.any (fun entry => layers.contains entry.layer)

def ntfsDeterminable (result : EffectivePermission) : Bool :=
  !result.uncertainIn [.token, .ntfs, .target]

def shareDeterminable (result : EffectivePermission) : Bool :=
  !result.uncertainIn [.token, .share, .target]

def effectiveDeterminable (result : EffectivePermission) : Bool := result.uncertainty.isEmpty

/-- The upper bound of one marker joined to a mask. -/
def joinUpper (upper : AccessMask) : PermissionDiagnostic → AccessMask
  | .logonDependentTrustees _ _ maxMask => upper ||| maxMask
  | _ => upper

/-- The NTFS rights the logon-dependent ranges leave open. -/
def ntfsUpper (result : EffectivePermission) : AccessMask :=
  result.diagnostics.foldl joinUpper result.ntfsMask

/-- The highest effective right the known data leaves open. -/
def effectiveUpperBound (result : EffectivePermission) : AccessMask :=
  if result.uncertainty.isEmpty then result.effectiveMask
  else
    -- Another DFS target has its own share permission.
    let shareUncertain := result.uncertainIn [.share, .target]
    let upper :=
      match result.shareStatus, result.shareMask with
      | .applied, some share => if shareUncertain then result.ntfsUpper else result.ntfsUpper &&& share
      | _, _ => result.ntfsUpper
    upper ||| result.effectiveMask

/-- The range a marker of logon-dependent trustees states. -/
def markerRange : PermissionDiagnostic → Option (AccessMask × AccessMask)
  | .logonDependentTrustees _ minMask maxMask => some (minMask, maxMask)
  | _ => none

/-- The logon-dependent range of a result, when it carries one. -/
def logonDependentRange (result : EffectivePermission) : Option (AccessMask × AccessMask) :=
  result.diagnostics.findSome? markerRange

/-- The NTFS range of a result: the shown mask alone without a marker. -/
def ntfsRange (result : EffectivePermission) : AccessMask × AccessMask :=
  result.logonDependentRange.getD (result.ntfsMask, result.ntfsMask)

/-! ## What the markers leave in the uncertainty list -/

/-- Adding a marker keeps what is listed. -/
theorem addUncertainty_prefix (listed : List Uncertainty) (diagnostic : PermissionDiagnostic) :
    ∃ further, addUncertainty listed diagnostic = listed ++ further := by
  unfold addUncertainty
  cases diagnostic.uncertainLayer with
  | none => exact ⟨[], (List.append_nil listed).symm⟩
  | some layer =>
      dsimp only
      split
      · exact ⟨[], (List.append_nil listed).symm⟩
      · exact ⟨_, rfl⟩

/-- A marker with a layer leaves the list non-empty, whether its text is new
or listed already. -/
theorem addUncertainty_ne_nil (listed : List Uncertainty) {diagnostic : PermissionDiagnostic}
    {layer : UncertainLayer} (classified : diagnostic.uncertainLayer = some layer) :
    addUncertainty listed diagnostic ≠ [] := by
  unfold addUncertainty
  rw [classified]
  dsimp only
  split
  · rename_i repeated
    intro empty
    rw [empty] at repeated
    cases repeated
  · exact List.append_ne_nil_of_right_ne_nil _ (List.cons_ne_nil _ _)

theorem foldl_addUncertainty_prefix (diagnostics : List PermissionDiagnostic)
    (listed : List Uncertainty) :
    ∃ further, diagnostics.foldl addUncertainty listed = listed ++ further := by
  induction diagnostics generalizing listed with
  | nil => exact ⟨[], (List.append_nil listed).symm⟩
  | cons head rest ih =>
      rcases addUncertainty_prefix listed head with ⟨first, step⟩
      rcases ih (addUncertainty listed head) with ⟨further, tail⟩
      exact ⟨first ++ further, by rw [List.foldl_cons, tail, step, List.append_assoc]⟩

/-- A result without uncertainty carries no marker that has a layer. -/
theorem uncertainLayer_of_uncertainty_nil {result : EffectivePermission}
    (noLayer : result.uncertainty = []) {diagnostic : PermissionDiagnostic}
    (member : diagnostic ∈ result.diagnostics) : diagnostic.uncertainLayer = none := by
  have run : ∀ (diagnostics : List PermissionDiagnostic) (listed : List Uncertainty),
      diagnostics.foldl addUncertainty listed = [] → diagnostic ∈ diagnostics →
      diagnostic.uncertainLayer = none := by
    intro diagnostics
    induction diagnostics with
    | nil =>
        intro listed _ absent
        cases absent
    | cons head rest ih =>
        intro listed empty present
        rcases List.mem_cons.mp present with same | later
        · subst same
          cases classified : diagnostic.uncertainLayer with
          | none => rfl
          | some layer =>
              rcases foldl_addUncertainty_prefix rest (addUncertainty listed diagnostic) with
                ⟨further, tail⟩
              rw [List.foldl_cons, tail, List.append_eq_nil_iff] at empty
              exact absurd empty.1 (addUncertainty_ne_nil listed classified)
        · exact ih (addUncertainty listed head) empty later
  exact run result.diagnostics result.statusUncertainty noLayer member

/-- The reasons that come from the statuses. -/
theorem mem_statusUncertainty_iff (affected : UncertainLayer → Prop)
    (result : EffectivePermission) :
    (∃ entry ∈ result.statusUncertainty, affected entry.layer) ↔
      ((∃ reason, result.shareStatus = .readFailed reason) ∧ affected .share) ∨
        ((0 < result.unsupportedAceCount ∧
          ∀ count, .unsupportedNtfsAces count ∉ result.diagnostics) ∧ affected .ntfs) ∨
        ((∃ reason, result.localGroupStatus = .notAvailable reason) ∧ affected .token) := by
  have named : (result.diagnostics.any fun diagnostic =>
      match diagnostic with
      | .unsupportedNtfsAces _ => true
      | _ => false) = true ↔ ∃ count, .unsupportedNtfsAces count ∈ result.diagnostics := by
    rw [List.any_eq_true]
    constructor
    · rintro ⟨marker, member, matched⟩
      cases marker with
      | unsupportedNtfsAces count => exact ⟨count, member⟩
      | _ => cases matched
    · rintro ⟨count, member⟩
      exact ⟨_, member, rfl⟩
  rw [statusUncertainty]
  simp only [List.mem_append, or_and_right, exists_or, or_assoc]
  refine or_congr ?_ (or_congr ?_ ?_)
  · cases result.shareStatus <;> simp
  · rw [← not_exists, ← named]
    generalize result.diagnostics.any _ = listed
    split
    · rename_i both
      rw [Bool.and_eq_true, decide_eq_true_eq, Bool.not_eq_true'] at both
      simp [both.1, both.2]
    · rename_i unlisted
      rw [Bool.and_eq_true, decide_eq_true_eq, Bool.not_eq_true', ← Bool.not_eq_true] at unlisted
      simp only [List.not_mem_nil, false_and, exists_false, false_iff, not_and]
      exact fun both => absurd both unlisted
  · cases result.localGroupStatus <;> simp

theorem addUncertainty_of_exact (listed : List Uncertainty) {marker : PermissionDiagnostic}
    (noLayer : marker.uncertainLayer = none) : addUncertainty listed marker = listed := by
  rw [addUncertainty, noLayer]

/-- A result is exact when no status and no marker is a reason. -/
theorem uncertainty_nil_iff (result : EffectivePermission) :
    result.uncertainty = [] ↔ result.statusUncertainty = [] ∧
      ∀ marker ∈ result.diagnostics, marker.uncertainLayer = none := by
  constructor
  · intro empty
    refine ⟨?_, fun marker member => uncertainLayer_of_uncertainty_nil empty member⟩
    rcases foldl_addUncertainty_prefix result.diagnostics result.statusUncertainty with
      ⟨further, listed⟩
    rw [uncertainty, listed, List.append_eq_nil_iff] at empty
    exact empty.1
  · rintro ⟨statuses, markers⟩
    rw [uncertainty, statuses]
    generalize result.diagnostics = diagnostics at markers
    induction diagnostics with
    | nil => rfl
    | cons marker rest ih =>
        rw [List.foldl_cons, addUncertainty_of_exact _ (markers marker List.mem_cons_self)]
        exact ih (fun other member => markers other (List.mem_cons_of_mem _ member))

end EffectivePermission

end Stars
