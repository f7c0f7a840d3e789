import Stars.PermissionEngine.AccessCheck

namespace Stars
namespace PermissionEngine

open AccessControl

/-!
# Bounds over the possible tokens

What is known about a logon leaves many possible tokens: the certain SIDs, any
of the SIDs whose presence depends on the logon, and every filtered group either
enabled or deny-only.  Two readings of the access list bracket all of them.  The
upper reading counts every Allow that may apply and no Deny that may be absent,
the lower one the opposite, and `logonDependentBounds_eq` identifies them with
the reported bounds.
-/

/-- What is known about a logon when the bounds are computed. -/
structure LogonFacts where
  matchSids : Finset Sid
  context : AccessContext
  logonDependentGroups : Finset Sid
  denyOnlyGroups : Finset Sid
  uacFilterCertain : Bool

namespace LogonFacts

variable (facts : LogonFacts)

/-- The SID may be enabled in the token without being certain. -/
def mayBeEnabled (sid : Sid) : Bool :=
  isLogonDependentFor sid facts.context facts.matchSids || sid ∈ facts.logonDependentGroups ||
    (sid ∈ facts.denyOnlyGroups && !facts.uacFilterCertain)

def certainAllow (sid : Sid) : Bool := sid ∈ facts.matchSids

/-- A deny-only group matches Deny entries, whether it is filtered or not. -/
def certainDeny (sid : Sid) : Bool := sid ∈ facts.matchSids || sid ∈ facts.denyOnlyGroups

/-- The upper reading of the trustees of Allow entries.  `ownerUncertain` adds
OWNER RIGHTS. -/
def maybeAllow (ownerUncertain : Bool) (sid : Sid) : Bool :=
  facts.certainAllow sid || facts.mayBeEnabled sid || (ownerUncertain && sid = sidOwnerRights)

/-- The lower reading of the trustees of Deny entries. -/
def maybeDeny (ownerUncertain : Bool) (sid : Sid) : Bool :=
  facts.certainDeny sid || facts.mayBeEnabled sid || (ownerUncertain && sid = sidOwnerRights)

/-- The rights of the upper reading. -/
def highest (ownerUncertain : Bool) (dacl : List AceEntry) : AccessMask :=
  walkGrantedWith dacl (facts.maybeAllow ownerUncertain) facts.certainDeny

/-- The rights of the lower reading. -/
def lowest (ownerUncertain : Bool) (dacl : List AceEntry) : AccessMask :=
  walkGrantedWith dacl facts.certainAllow (facts.maybeDeny ownerUncertain)

end LogonFacts

section Readings

variable (facts : LogonFacts) (uncertainOwner : Option Sid) (dacl : List AceEntry)

/-- The trustees the engine lists as uncertain. -/
abbrev LogonFacts.uncertain : List Sid :=
  uncertainTrustees dacl facts.matchSids facts.context facts.logonDependentGroups
    facts.denyOnlyGroups uncertainOwner facts.uacFilterCertain

theorem mem_uncertain_iff (sid : Sid) :
    sid ∈ facts.uncertain uncertainOwner dacl ↔
      ∃ ace ∈ dacl, ace.sid = sid ∧ aceAppliesToCurrentObject ace = true ∧
        sid ∉ facts.matchSids ∧
        aceUncertain facts.matchSids facts.context facts.logonDependentGroups
          facts.denyOnlyGroups uncertainOwner facts.uacFilterCertain ace = true := by
  unfold LogonFacts.uncertain uncertainTrustees
  simp only [List.mem_map, List.mem_filter, decide_eq_true_iff]
  constructor
  · rintro ⟨ace, ⟨⟨⟨member, applies⟩, outside⟩, uncertain⟩, rfl⟩
    exact ⟨ace, member, rfl, applies, outside, uncertain⟩
  · rintro ⟨ace, member, rfl, applies, outside, uncertain⟩
    exact ⟨ace, ⟨⟨⟨member, applies⟩, outside⟩, uncertain⟩, rfl⟩

/-- On an applicable Allow the listed trustees are the ones of the upper
reading. -/
theorem allow_reading {ace : AceEntry} (member : ace ∈ dacl)
    (applies : aceAppliesToCurrentObject ace = true) (kind : ace.kind = .allow) :
    (facts.certainAllow ace.sid || decide (ace.sid ∈ facts.uncertain uncertainOwner dacl)) =
      facts.maybeAllow uncertainOwner.isSome ace.sid := by
  unfold LogonFacts.maybeAllow LogonFacts.mayBeEnabled LogonFacts.certainAllow
  by_cases certain : ace.sid ∈ facts.matchSids
  · simp only [certain, decide_true, Bool.true_or]
  · rw [Bool.eq_iff_iff]
    simp only [certain, decide_false, Bool.false_or, decide_eq_true_iff]
    rw [mem_uncertain_iff]
    constructor
    · rintro ⟨other, _, same, _, _, uncertain⟩
      unfold aceUncertain at uncertain
      rw [same] at uncertain
      grind
    · intro possible
      refine ⟨ace, member, rfl, applies, certain, ?_⟩
      unfold aceUncertain
      rw [kind]
      grind

/-- On an applicable Deny the listed trustees are the ones of the lower
reading: a deny-only group is counted in any case. -/
theorem deny_reading {ace : AceEntry} (member : ace ∈ dacl)
    (applies : aceAppliesToCurrentObject ace = true) :
    (facts.certainDeny ace.sid || decide (ace.sid ∈ facts.uncertain uncertainOwner dacl)) =
      facts.maybeDeny uncertainOwner.isSome ace.sid := by
  unfold LogonFacts.maybeDeny LogonFacts.mayBeEnabled LogonFacts.certainDeny
  by_cases certain : ace.sid ∈ facts.matchSids ∨ ace.sid ∈ facts.denyOnlyGroups
  · have counted : (decide (ace.sid ∈ facts.matchSids) ||
        decide (ace.sid ∈ facts.denyOnlyGroups)) = true := by
      rw [Bool.or_eq_true, decide_eq_true_iff, decide_eq_true_iff]
      exact certain
    simp only [counted, Bool.true_or]
  · rcases not_or.mp certain with ⟨outside, unfiltered⟩
    rw [Bool.eq_iff_iff]
    simp only [outside, unfiltered, decide_false, Bool.false_or, Bool.false_and, Bool.or_false,
      decide_eq_true_iff]
    rw [mem_uncertain_iff]
    constructor
    · rintro ⟨other, _, same, _, _, uncertain⟩
      unfold aceUncertain at uncertain
      rw [same] at uncertain
      grind
    · intro possible
      refine ⟨ace, member, rfl, applies, outside, ?_⟩
      unfold aceUncertain
      grind

theorem walkGrantedWith_congr {allowMatches otherAllow denyMatches otherDeny : Sid → Bool}
    (allowed : ∀ ace ∈ dacl, aceAppliesToCurrentObject ace = true → ace.kind = .allow →
      allowMatches ace.sid = otherAllow ace.sid)
    (denied : ∀ ace ∈ dacl, aceAppliesToCurrentObject ace = true → ace.kind = .deny →
      denyMatches ace.sid = otherDeny ace.sid) :
    walkGrantedWith dacl allowMatches denyMatches = walkGrantedWith dacl otherAllow otherDeny := by
  refine Within.antisymm (walkGrantedWith_le ?_ ?_) (walkGrantedWith_le ?_ ?_)
  · intro ace member applies kind applied
    rwa [← allowed ace member applies kind]
  · intro ace member applies kind applied
    rwa [denied ace member applies kind]
  · intro ace member applies kind applied
    rwa [allowed ace member applies kind]
  · intro ace member applies kind applied
    rwa [← denied ace member applies kind]

/-- The owner bits of the upper bound. -/
def upperOwnerBits (ownerImplicitBits : AccessMask) : AccessMask :=
  if uncertainOwner.isSome && !ownerRightsAce dacl then
    ownerImplicitBits ||| fileReadControl ||| fileWriteDac
  else ownerImplicitBits

/-- The bounds are the two readings, and they are reported exactly when they
differ. -/
theorem logonDependentBounds_eq (ownerImplicitBits : AccessMask) :
    (logonDependentBounds dacl facts.matchSids facts.context facts.logonDependentGroups
        facts.denyOnlyGroups ownerImplicitBits uncertainOwner facts.uacFilterCertain).map
          (fun bounds => (bounds.min, bounds.max)) =
      if facts.lowest uncertainOwner.isSome dacl ||| ownerImplicitBits =
          facts.highest uncertainOwner.isSome dacl |||
            upperOwnerBits uncertainOwner dacl ownerImplicitBits then none
      else some (facts.lowest uncertainOwner.isSome dacl ||| ownerImplicitBits,
        facts.highest uncertainOwner.isSome dacl |||
          upperOwnerBits uncertainOwner dacl ownerImplicitBits) := by
  have high : walkGrantedWith dacl
      (fun sid => facts.certainAllow sid || decide (sid ∈ facts.uncertain uncertainOwner dacl))
      facts.certainDeny = facts.highest uncertainOwner.isSome dacl :=
    walkGrantedWith_congr dacl
      (fun ace member applies kind => allow_reading facts uncertainOwner dacl member applies kind)
      (fun _ _ _ _ => rfl)
  have low : walkGrantedWith dacl facts.certainAllow
      (fun sid => facts.certainDeny sid || decide (sid ∈ facts.uncertain uncertainOwner dacl)) =
        facts.lowest uncertainOwner.isSome dacl :=
    walkGrantedWith_congr dacl (fun _ _ _ _ => rfl)
      (fun ace member applies _ => deny_reading facts uncertainOwner dacl member applies)
  unfold logonDependentBounds
  change Option.map _ (if (facts.uncertain uncertainOwner dacl).isEmpty &&
    decide (upperOwnerBits uncertainOwner dacl ownerImplicitBits = ownerImplicitBits) then none
    else if walkGrantedWith dacl facts.certainAllow
        (fun sid => facts.certainDeny sid || decide (sid ∈ facts.uncertain uncertainOwner dacl)) |||
          ownerImplicitBits =
        walkGrantedWith dacl
          (fun sid => facts.certainAllow sid || decide (sid ∈ facts.uncertain uncertainOwner dacl))
          facts.certainDeny ||| upperOwnerBits uncertainOwner dacl ownerImplicitBits then none
    else some _) = _
  by_cases nothing : ((facts.uncertain uncertainOwner dacl).isEmpty &&
      decide (upperOwnerBits uncertainOwner dacl ownerImplicitBits = ownerImplicitBits)) = true
  · -- Without uncertain trustees both readings are the walk of the certain token.
    rw [if_pos nothing]
    rw [Bool.and_eq_true, List.isEmpty_iff, decide_eq_true_iff] at nothing
    have equal : facts.lowest uncertainOwner.isSome dacl =
        facts.highest uncertainOwner.isSome dacl := by
      rw [← high, ← low, nothing.1]
      simp only [List.not_mem_nil, decide_false, Bool.or_false]
    rw [nothing.2, equal, if_pos rfl]
    rfl
  · rw [if_neg nothing, high, low]
    split
    · rfl
    · simp only [Option.map_some]
      exact congrArg some (Prod.ext (congrArg (· ||| ownerImplicitBits) low)
        (congrArg (· ||| upperOwnerBits uncertainOwner dacl ownerImplicitBits) high))

end Readings

/-- A token the known facts leave possible.  A filtered group is deny-only
unless it is enabled, and it can be enabled only where the filtering is not
decided or another list makes it uncertain. -/
structure PossibleToken (facts : LogonFacts) extends LogonToken where
  contains : ∀ sid ∈ facts.matchSids, sid ∈ enabled
  further : ∀ sid ∈ enabled, sid ∈ facts.matchSids ∨ facts.mayBeEnabled sid = true
  refusing : ∀ sid ∈ denyOnly,
    sid ∈ facts.matchSids ∨ facts.mayBeEnabled sid = true ∨ sid ∈ facts.denyOnlyGroups
  filtered : ∀ sid ∈ facts.denyOnlyGroups, sid ∈ enabled ∨ sid ∈ denyOnly

/-- The rights an access check grants to a token, with the owner bits. -/
def LogonToken.rights (token : LogonToken) (dacl : List AceEntry) (ownerBits : AccessMask)
    (bit : Nat) : Bool :=
  allowedBy token.matchesAce dacl bit || ownerBits.getLsbD bit

/-- The mask of the rights of a token. -/
def LogonToken.mask (token : LogonToken) (dacl : List AceEntry) : AccessMask :=
  walkGrantedWith dacl (fun sid => sid ∈ token.enabled)
    (fun sid => sid ∈ token.enabled || sid ∈ token.denyOnly)

theorem LogonToken.rights_eq (token : LogonToken) (dacl : List AceEntry) (ownerBits : AccessMask)
    (bit : Nat) :
    token.rights dacl ownerBits bit = (token.mask dacl ||| ownerBits).getLsbD bit := by
  rw [LogonToken.rights, LogonToken.mask, token.matchesAce_eq, ← walkGrantedWith_eq_allowedBy,
    BitVec.getLsbD_or]

section Bracket

variable {facts : LogonFacts} (dacl : List AceEntry) (token : PossibleToken facts)

/-- The upper reading holds the rights of every possible token. -/
theorem mask_within_highest (ownerUncertain : Bool) :
    Within (token.mask dacl) (facts.highest ownerUncertain dacl) := by
  refine walkGrantedWith_le ?_ ?_
  · intro ace _ _ _ enabled
    rw [decide_eq_true_iff] at enabled
    unfold LogonFacts.maybeAllow LogonFacts.certainAllow
    rcases token.further ace.sid enabled with certain | possible
    · simp only [certain, decide_true, Bool.true_or]
    · simp only [possible, Bool.or_true, Bool.true_or]
  · intro ace _ _ _ certain
    unfold LogonFacts.certainDeny at certain
    simp only [Bool.or_eq_true, decide_eq_true_iff] at certain ⊢
    rcases certain with matched | filtered
    · exact Or.inl (token.contains ace.sid matched)
    · exact token.filtered ace.sid filtered

/-- Every possible token holds the rights of the lower reading. -/
theorem lowest_within_mask (ownerUncertain : Bool) :
    Within (facts.lowest ownerUncertain dacl) (token.mask dacl) := by
  refine walkGrantedWith_le ?_ ?_
  · intro ace _ _ _ certain
    unfold LogonFacts.certainAllow at certain
    rw [decide_eq_true_iff] at certain ⊢
    exact token.contains ace.sid certain
  · intro ace _ _ _ matched
    simp only [Bool.or_eq_true, decide_eq_true_iff] at matched
    have known : ace.sid ∈ facts.matchSids ∨ facts.mayBeEnabled ace.sid = true ∨
        ace.sid ∈ facts.denyOnlyGroups := by
      rcases matched with enabled | refusing
      · exact (token.further ace.sid enabled).imp_right Or.inl
      · exact token.refusing ace.sid refusing
    unfold LogonFacts.maybeDeny LogonFacts.certainDeny
    rcases known with certain | possible | filtered
    · simp only [certain, decide_true, Bool.true_or]
    · simp only [possible, Bool.or_true, Bool.true_or]
    · simp only [filtered, decide_true, Bool.or_true, Bool.true_or]

end Bracket

/-- The token of the shown mask: no uncertain SID is enabled. -/
def LogonFacts.shownToken (facts : LogonFacts) : PossibleToken facts where
  enabled := facts.matchSids
  denyOnly := facts.denyOnlyGroups
  contains := fun _ member => member
  further := fun _ member => Or.inl member
  refusing := fun _ member => Or.inr (Or.inr member)
  filtered := fun _ member => Or.inr member

theorem shownToken_mask (facts : LogonFacts) (dacl : List AceEntry) :
    facts.shownToken.mask dacl =
      (walkDaclStoredOrder dacl facts.matchSids facts.denyOnlyGroups).granted :=
  (walkDaclStoredOrder_granted dacl facts.matchSids facts.denyOnlyGroups).symm

/-! ## Soundness -/

/-- The reported bounds contain the rights of every possible token and the
shown mask; without bounds every possible token has exactly the shown mask. -/
theorem logonDependentBounds_sound (dacl : List AceEntry) (facts : LogonFacts)
    (ownerImplicitBits : AccessMask) (token : PossibleToken facts) :
    let shown := (walkDaclStoredOrder dacl facts.matchSids facts.denyOnlyGroups).granted |||
      ownerImplicitBits
    match logonDependentBounds dacl facts.matchSids facts.context facts.logonDependentGroups
      facts.denyOnlyGroups ownerImplicitBits none facts.uacFilterCertain with
    | some bounds =>
        (∀ bit, bounds.min.getLsbD bit = true → token.rights dacl ownerImplicitBits bit = true) ∧
        (∀ bit, token.rights dacl ownerImplicitBits bit = true → bounds.max.getLsbD bit = true) ∧
        Within bounds.min shown ∧ Within shown bounds.max
    | none => ∀ bit, token.rights dacl ownerImplicitBits bit = shown.getLsbD bit := by
  intro shown
  have reported := logonDependentBounds_eq facts none dacl ownerImplicitBits
  have bits : upperOwnerBits none dacl ownerImplicitBits = ownerImplicitBits := rfl
  rw [bits] at reported
  have low := (lowest_within_mask dacl token false).or_mono ownerImplicitBits
  have high := (mask_within_highest dacl token false).or_mono ownerImplicitBits
  have shownLow := (lowest_within_mask dacl facts.shownToken false).or_mono ownerImplicitBits
  have shownHigh := (mask_within_highest dacl facts.shownToken false).or_mono ownerImplicitBits
  rw [shownToken_mask] at shownLow shownHigh
  simp only [LogonToken.rights_eq]
  cases found : logonDependentBounds dacl facts.matchSids facts.context facts.logonDependentGroups
      facts.denyOnlyGroups ownerImplicitBits none facts.uacFilterCertain with
  | none =>
      rw [found] at reported
      have equal : facts.lowest false dacl ||| ownerImplicitBits =
          facts.highest false dacl ||| ownerImplicitBits := by
        by_contra differ
        rw [Option.isSome_none, if_neg differ] at reported
        cases reported
      intro bit
      rw [← equal] at high shownHigh
      have exactly : token.mask dacl ||| ownerImplicitBits = shown :=
        (high.antisymm low).trans (shownLow.antisymm shownHigh)
      rw [exactly]
  | some bounds =>
      rw [found, Option.map_some, Option.isSome_none] at reported
      split at reported
      · cases reported
      · rcases Prod.mk.injEq .. ▸ Option.some.inj reported with ⟨least, greatest⟩
        dsimp only
        rw [least, greatest]
        exact ⟨within_iff.mp low, within_iff.mp high, shownLow, shownHigh⟩

end PermissionEngine

/-- The facts an evaluation passes to the bounds. -/
def PermissionEvaluationInput.logonFacts (input : PermissionEvaluationInput) :
    PermissionEngine.LogonFacts where
  matchSids := input.matchSids
  context := input.accessContext
  logonDependentGroups := input.logonDependentGroups
  denyOnlyGroups := input.denyOnlySids
  uacFilterCertain := input.uacFilterCertain

end Stars
