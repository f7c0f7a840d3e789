import Stars.PermissionEngine.Withdrawal
import Stars.ShareScanner.Agreement
import Stars.ShareScanner.Decisions

namespace Stars

open PermissionEngine AccessControl

/-!
# Entries that move a bound

The bounds of a result count entries for trustees that may or may not be in the
token, and the explanation names these entries.  Which ones they are is decided
three times: for the bounds, for the explanation and for the share.  The readings
differ for a group that is certainly filtered and also depends on the logon: its
Allow entries are explained as not applied, and counted in the upper bound.
-/

namespace PermissionEvaluationInput

/-- The same input with another access list of the object. -/
def withEntries (input : PermissionEvaluationInput) (dacl : List AceEntry) :
    PermissionEvaluationInput :=
  { input with fileSystemObject := { input.fileSystemObject with dacl := dacl } }

/-- The effect the trace lists for the entry at a position. -/
def effectAt (input : PermissionEvaluationInput) (position : Nat) : Option AceEffect :=
  (input.decidedAces[position]?).bind (fun entry => input.aceEffect entry.1 entry.2)

end PermissionEvaluationInput

namespace PermissionEngine

/-- Every entry that moves a bound without certainly applying is listed as
uncertain, an entry listed as not applied moves none, and certain filtering leaves no
Allow entry of a filtered group in the upper bound. -/
structure BoundsExplained (input : PermissionEvaluationInput) : Prop where
  uncertain : ∀ before ace after, input.fileSystemObject.dacl = before ++ ace :: after →
    aceAppliesToCurrentObject ace = true →
      aceMatches ace input.matchSids input.denyOnlySids = false →
        (evaluate (input.withEntries (before ++ after))).ntfsRange ≠ (evaluate input).ntfsRange →
          ∃ reason, input.effectAt before.length = some (.uncertain reason)
  notApplied : ∀ before ace after reason, input.fileSystemObject.dacl = before ++ ace :: after →
    input.effectAt before.length = some (.notApplied reason) →
      (evaluate (input.withEntries (before ++ after))).ntfsRange = (evaluate input).ntfsRange
  filtered : input.uacFilterCertain = true →
    ∀ before ace after, input.fileSystemObject.dacl = before ++ ace :: after →
      ace.kind = .allow → ace.sid ∈ input.denyOnlySids →
        Within (evaluate input).ntfsRange.2
          (evaluate (input.withEntries (before ++ after))).ntfsRange.2

/-- Where filtering is certain, an Allow entry of a filtered group that the upper
reading counts adds no right there, other than one the owner holds anyway. -/
def FilteredAllowsIdle (input : PermissionEvaluationInput) : Prop :=
  input.fileSystemObject.nullDacl = true ∨ input.uacFilterCertain = false ∨
    ∀ before ace after, input.fileSystemObject.dacl = before ++ ace :: after →
      ace.kind = .allow → ace.sid ∈ input.denyOnlySids → ∀ bit,
        acePolicy.Adds (appliesWith (input.logonFacts.maybeAllow false) input.logonFacts.certainDeny)
            before ace after bit →
          OwnerInToken input ∧ NoOwnerRightsAce (before ++ after) ∧ (bit = 17 ∨ bit = 18)

section Entry

variable {input : PermissionEvaluationInput} {before after : List AceEntry} {ace : AceEntry}

theorem effectAt_split (divided : input.fileSystemObject.dacl = before ++ ace :: after) :
    input.effectAt before.length =
      input.aceEffect ace (input.walk.decidedPerAce.getD before.length 0#32) := by
  rw [PermissionEvaluationInput.effectAt, PermissionEvaluationInput.decidedAces, divided,
    List.getElem?_map, List.getElem?_zipIdx, List.getElem?_append_right (Nat.le_refl _),
    Nat.sub_self, List.getElem?_cons_zero, Nat.zero_add]
  rfl

theorem withEntries_self : input.withEntries input.fileSystemObject.dacl = input := rfl

theorem walkGrantedWith_remove {allowMatches denyMatches : Sid → Bool}
    (skipped : appliesWith allowMatches denyMatches ace = false) :
    walkGrantedWith (before ++ ace :: after) allowMatches denyMatches =
      walkGrantedWith (before ++ after) allowMatches denyMatches := by
  apply mask_eq_iff.mpr
  intro bit
  rw [walkGrantedWith_getLsbD, walkGrantedWith_getLsbD, acePolicy.grants_remove skipped]

theorem ownerRightsAce_remove (other : ace.sid ≠ sidOwnerRights) :
    ownerRightsAce (before ++ ace :: after) = ownerRightsAce (before ++ after) := by
  rw [ownerRightsAce, ownerRightsAce, List.any_append, List.any_append, List.any_cons]
  simp only [other, decide_false, Bool.false_and, Bool.false_or]

theorem ownerImplicitBits_withEntries (dacl : List AceEntry) :
    (input.withEntries dacl).ownerImplicitBits =
      if input.userIsOwner && !(input.userIsOwner && ownerRightsAce dacl) then
        fileReadControl ||| fileWriteDac
      else 0#32 := rfl

/-- The entry does not change the owner grant. -/
theorem ownerImplicitBits_remove
    (other : ace.sid ≠ sidOwnerRights ∨ input.userIsOwner = false) :
    (input.withEntries (before ++ ace :: after)).ownerImplicitBits =
      (input.withEntries (before ++ after)).ownerImplicitBits := by
  rw [ownerImplicitBits_withEntries, ownerImplicitBits_withEntries]
  rcases other with named | foreign
  · rw [ownerRightsAce_remove named]
  · rw [foreign]
    rfl

theorem upperOwnerBits_remove (ownerBits : AccessMask)
    (other : ace.sid ≠ sidOwnerRights ∨ input.uncertainOwner = none) :
    upperOwnerBits input.uncertainOwner (before ++ ace :: after) ownerBits =
      upperOwnerBits input.uncertainOwner (before ++ after) ownerBits := by
  rw [upperOwnerBits, upperOwnerBits]
  rcases other with named | foreign
  · rw [ownerRightsAce_remove named]
  · rw [foreign]
    rfl

theorem range_withEntries (present : input.fileSystemObject.nullDacl = false)
    (dacl : List AceEntry) :
    (evaluate (input.withEntries dacl)).ntfsRange =
      (input.logonFacts.lowest input.uncertainOwner.isSome dacl |||
          (input.withEntries dacl).ownerImplicitBits,
        input.logonFacts.highest input.uncertainOwner.isSome dacl |||
          upperOwnerBits input.uncertainOwner dacl (input.withEntries dacl).ownerImplicitBits) :=
  @evaluate_ntfsRange (input.withEntries dacl) present

/-- Without an access list the entries do not matter. -/
theorem range_withEntries_of_nullDacl (absent : input.fileSystemObject.nullDacl = true)
    (dacl : List AceEntry) :
    (evaluate (input.withEntries dacl)).ntfsRange = (maskFullControl, maskFullControl) := by
  have full : maskFullControl ||| (input.withEntries dacl).ownerImplicitBits = maskFullControl := by
    rw [ownerImplicitBits_withEntries]
    split
    · decide
    · decide
  rw [@evaluate_ntfsRange_of_nullDacl (input.withEntries dacl) absent,
    @ntfsRaw_of_nullDacl (input.withEntries dacl) absent, full]

/-- An entry that neither reading counts, and that does not concern the owner, moves
no bound. -/
theorem range_remove (divided : input.fileSystemObject.dacl = before ++ ace :: after)
    (low : appliesWith input.logonFacts.certainAllow
      (input.logonFacts.maybeDeny input.uncertainOwner.isSome) ace = false)
    (high : appliesWith (input.logonFacts.maybeAllow input.uncertainOwner.isSome)
      input.logonFacts.certainDeny ace = false)
    (owner : ace.sid ≠ sidOwnerRights ∨
      (input.userIsOwner = false ∧ input.uncertainOwner = none)) :
    (evaluate (input.withEntries (before ++ after))).ntfsRange = (evaluate input).ntfsRange := by
  cases absent : input.fileSystemObject.nullDacl with
  | true =>
      have whole := range_withEntries_of_nullDacl absent input.fileSystemObject.dacl
      rw [withEntries_self] at whole
      rw [whole, range_withEntries_of_nullDacl absent]
  | false =>
      have whole := range_withEntries absent (before ++ ace :: after)
      rw [← divided, withEntries_self, divided] at whole
      rw [whole, range_withEntries absent]
      have bits : (input.withEntries (before ++ ace :: after)).ownerImplicitBits =
          (input.withEntries (before ++ after)).ownerImplicitBits :=
        ownerImplicitBits_remove (owner.imp_right And.left)
      rw [← divided, withEntries_self] at bits
      rw [LogonFacts.lowest, LogonFacts.lowest, LogonFacts.highest, LogonFacts.highest,
        walkGrantedWith_remove low, walkGrantedWith_remove high, bits,
        upperOwnerBits_remove _ (owner.imp_right And.right)]

theorem not_aceMatches_iff :
    aceMatches ace input.matchSids input.denyOnlySids = false ↔
      ace.sid ∉ input.matchSids ∧ (ace.kind = .deny → ace.sid ∉ input.denyOnlySids) := by
  rw [aceMatches, decide_eq_false_iff_not, not_or, not_and]

/-- An owner's entries for OWNER RIGHTS match. -/
theorem userIsOwner_of_outside (outside : sidOwnerRights ∉ input.matchSids) :
    input.userIsOwner = false := by
  by_contra owns
  rw [Bool.not_eq_false] at owns
  apply outside
  rw [PermissionEvaluationInput.matchSids, if_pos owns]
  exact Finset.mem_insert_self _ _

/-- The entry is for a group that is certainly filtered. -/
def CertainlyFiltered (input : PermissionEvaluationInput) (ace : AceEntry) : Prop :=
  input.uacFilterCertain = true ∧ ace.kind = .allow ∧ ace.sid ∈ input.denyOnlySids

theorem uacCertainReason_isSome :
    input.uacCertainReason.isSome = true ↔ input.uacFilterCertain = true := by
  rw [PermissionEvaluationInput.uacCertainReason, PermissionEvaluationInput.uacFilterCertain]
  cases input.remoteUac <;> simp

/-- An entry is listed as not applied only for a group that is certainly
filtered. -/
theorem certainlyFiltered_of_notApplied {decided : AccessMask} {reason : String}
    (listed : input.aceEffect ace decided = some (.notApplied reason)) :
    aceMatches ace input.matchSids input.denyOnlySids = false ∧ CertainlyFiltered input ace := by
  rw [PermissionEvaluationInput.aceEffect] at listed
  split at listed
  · rename_i unmatched
    rw [Bool.not_eq_true'] at unmatched
    refine ⟨unmatched, ?_⟩
    split at listed
    · rename_i found
      rw [Option.filter_eq_some_iff, decide_eq_true_iff] at found
      exact ⟨uacCertainReason_isSome.mp (found.1 ▸ rfl), found.2.1, found.2.2.2⟩
    · rcases Option.map_eq_some_iff.mp listed with ⟨_, _, built⟩
      cases built
  · split at listed
    · cases listed
    · split at listed
      · cases listed
      · cases listed

/-- An applicable entry that does not match is listed as uncertain, unless its
group is certainly filtered or no reason is known. -/
theorem uncertain_of_reason {decided : AccessMask} {reason : String}
    (unmatched : aceMatches ace input.matchSids input.denyOnlySids = false)
    (undecided : ¬ CertainlyFiltered input ace)
    (known : input.uncertainAceReason ace = some reason) :
    ∃ text, input.aceEffect ace decided = some (.uncertain text) := by
  rw [PermissionEvaluationInput.aceEffect, unmatched, Bool.not_false, if_pos rfl]
  split
  · rename_i found
    rw [Option.filter_eq_some_iff, decide_eq_true_iff] at found
    exact absurd ⟨uacCertainReason_isSome.mp (found.1 ▸ rfl), found.2.1, found.2.2.2⟩ undecided
  · rw [known]
    exact ⟨_, rfl⟩

/-- No reason is known only for a trustee that neither reading counts. -/
theorem uncertainAceReason_eq_none (applies : aceAppliesToCurrentObject ace = true)
    (outside : ace.sid ∉ input.matchSids) (unknown : input.uncertainAceReason ace = none) :
    ¬ (ace.kind = .allow ∧ ace.sid ∈ input.denyOnlySids) ∧
      isLogonDependentFor ace.sid input.accessContext input.matchSids = false ∧
      ace.sid ∉ input.logonDependentGroups ∧
      ¬ (input.uncertainOwner.isSome = true ∧ ace.sid = sidOwnerRights) := by
  have relevant : ¬ (aceAppliesToCurrentObject ace = false ∨ ace.sid ∈ input.matchSids) := by
    rw [applies]
    simp [outside]
  rw [PermissionEvaluationInput.uncertainAceReason, applies] at unknown
  simp only [Bool.not_true, Bool.false_eq_true, false_or, outside, if_false] at unknown
  split at unknown
  · cases unknown
  · rename_i unfiltered
    split at unknown
    · cases unknown
    · split at unknown
      · cases unknown
      · split at unknown
        · cases unknown
        · rename_i unlisted
          split at unknown
          · cases unknown
          · rename_i independent
            split at unknown
            · cases unknown
            · rename_i foreign
              exact ⟨unfiltered, Bool.eq_false_iff.mpr independent, unlisted, foreign⟩

/-- An entry without a reason moves no bound. -/
theorem range_remove_of_no_reason
    (divided : input.fileSystemObject.dacl = before ++ ace :: after)
    (applies : aceAppliesToCurrentObject ace = true)
    (unmatched : aceMatches ace input.matchSids input.denyOnlySids = false)
    (unknown : input.uncertainAceReason ace = none) :
    (evaluate (input.withEntries (before ++ after))).ntfsRange = (evaluate input).ntfsRange := by
  rcases not_aceMatches_iff.mp unmatched with ⟨outside, unrefused⟩
  rcases uncertainAceReason_eq_none applies outside unknown with
    ⟨unfiltered, independent, unlisted, foreign⟩
  have filtered : ace.sid ∉ input.denyOnlySids := by
    cases kind : ace.kind with
    | allow => exact fun listed => unfiltered ⟨kind, listed⟩
    | deny => exact unrefused kind
  have disabled : input.logonFacts.mayBeEnabled ace.sid = false := by
    rw [LogonFacts.mayBeEnabled, PermissionEvaluationInput.logonFacts]
    simp [independent, unlisted, filtered]
  have named : (input.uncertainOwner.isSome && decide (ace.sid = sidOwnerRights)) = false := by
    rw [Bool.eq_false_iff, Ne, Bool.and_eq_true, decide_eq_true_iff]
    exact foreign
  have certainAllow : input.logonFacts.certainAllow ace.sid = false := decide_eq_false outside
  have certainDeny : input.logonFacts.certainDeny ace.sid = false := by
    rw [LogonFacts.certainDeny, PermissionEvaluationInput.logonFacts]
    simp [outside, filtered]
  refine range_remove divided ?_ ?_ ?_
  · rw [appliesWith, LogonFacts.maybeDeny, certainAllow, certainDeny, disabled, named]
    cases ace.kind <;> simp
  · rw [appliesWith, LogonFacts.maybeAllow, certainAllow, certainDeny, disabled, named]
    cases ace.kind <;> simp
  · by_cases same : ace.sid = sidOwnerRights
    · refine Or.inr ⟨userIsOwner_of_outside (same ▸ outside), ?_⟩
      rw [← Option.not_isSome_iff_eq_none]
      exact fun known => foreign ⟨known, same⟩
    · exact Or.inl same

/-! ## Certain filtering -/

theorem uncertainOwner_of_certain (certain : input.uacFilterCertain = true) :
    input.uncertainOwner = none := by
  rw [PermissionEvaluationInput.uncertainOwner, certain]
  cases input.fileSystemObject.ownerSid <;> simp

/-- The upper end of the range where filtering is certain. -/
theorem upper_withEntries_iff (present : input.fileSystemObject.nullDacl = false)
    (certain : input.uacFilterCertain = true) (dacl : List AceEntry) (bit : Nat) :
    (evaluate (input.withEntries dacl)).ntfsRange.2.getLsbD bit = true ↔
      acePolicy.grants (appliesWith (input.logonFacts.maybeAllow false) input.logonFacts.certainDeny)
          dacl bit = true ∨
        (OwnerInToken input ∧ NoOwnerRightsAce dacl ∧ (bit = 17 ∨ bit = 18)) := by
  have owner := ownerImplicitBits_getLsbD (input.withEntries dacl) bit
  rw [range_withEntries present, uncertainOwner_of_certain certain]
  dsimp only
  rw [BitVec.getLsbD_or, Bool.or_eq_true, LogonFacts.highest, walkGrantedWith_getLsbD]
  exact or_congr_right owner

theorem noOwnerRightsAce_of_split (nothing : NoOwnerRightsAce (before ++ ace :: after)) :
    NoOwnerRightsAce (before ++ after) := by
  intro entry member named
  refine nothing entry ?_ named
  rcases List.mem_append.mp member with first | second
  · exact List.mem_append_left _ first
  · exact List.mem_append_right _ (List.mem_cons_of_mem _ second)

/-- An Allow entry leaves the upper end as it is exactly when the rights it adds are
owner rights. -/
theorem upper_within_iff (present : input.fileSystemObject.nullDacl = false)
    (certain : input.uacFilterCertain = true)
    (divided : input.fileSystemObject.dacl = before ++ ace :: after) (kind : ace.kind = .allow) :
    Within (evaluate input).ntfsRange.2
        (evaluate (input.withEntries (before ++ after))).ntfsRange.2 ↔
      ∀ bit, acePolicy.Adds
          (appliesWith (input.logonFacts.maybeAllow false) input.logonFacts.certainDeny)
            before ace after bit →
        OwnerInToken input ∧ NoOwnerRightsAce (before ++ after) ∧ (bit = 17 ∨ bit = 18) := by
  have allows : aceAllows ace = true := by
    rw [aceAllows, kind]
    rfl
  have whole := upper_withEntries_iff present certain (before ++ ace :: after)
  rw [← divided, withEntries_self, divided] at whole
  rw [within_iff]
  refine forall_congr' (fun bit => ?_)
  rw [whole, upper_withEntries_iff present certain, acePolicy.adds_iff allows]
  constructor
  · rintro included ⟨granted, refused⟩
    rcases included (Or.inl granted) with still | owned
    · rw [still] at refused
      cases refused
    · exact owned
  · rintro added (granted | ⟨owned, nothing, right⟩)
    · by_cases still : acePolicy.grants (appliesWith (input.logonFacts.maybeAllow false)
        input.logonFacts.certainDeny) (before ++ after) bit = true
      · exact Or.inl still
      · exact Or.inr (added ⟨granted, Bool.eq_false_iff.mpr still⟩)
    · exact Or.inr ⟨owned, noOwnerRightsAce_of_split nothing, right⟩

/-- An Allow entry of a certainly filtered group that adds nothing moves no bound. -/
theorem range_remove_of_filtered (idle : FilteredAllowsIdle input)
    (divided : input.fileSystemObject.dacl = before ++ ace :: after)
    (unmatched : aceMatches ace input.matchSids input.denyOnlySids = false)
    (filtered : CertainlyFiltered input ace) :
    (evaluate (input.withEntries (before ++ after))).ntfsRange = (evaluate input).ntfsRange := by
  rcases filtered with ⟨certain, kind, listed⟩
  cases absent : input.fileSystemObject.nullDacl with
  | true =>
      have whole := range_withEntries_of_nullDacl absent input.fileSystemObject.dacl
      rw [withEntries_self] at whole
      rw [whole, range_withEntries_of_nullDacl absent]
  | false =>
      have outside := (not_aceMatches_iff.mp unmatched).1
      have nobody := uncertainOwner_of_certain certain
      have allows : aceAllows ace = true := by
        rw [aceAllows, kind]
        rfl
      have added := (idle.resolve_left (absent ▸ Bool.false_ne_true)).resolve_left
        (certain ▸ Bool.true_eq_false.mp)
      have upper := (upper_within_iff absent certain divided kind).mpr
        (added before ace after divided kind listed)
      have skipped : appliesWith input.logonFacts.certainAllow
          (input.logonFacts.maybeDeny input.uncertainOwner.isSome) ace = false := by
        have certainAllow : input.logonFacts.certainAllow ace.sid = false := decide_eq_false outside
        rw [appliesWith, kind]
        dsimp only
        rw [certainAllow, Bool.and_false]
      have foreign : ace.sid ≠ sidOwnerRights ∨ input.userIsOwner = false := by
        by_cases same : ace.sid = sidOwnerRights
        · exact Or.inr (userIsOwner_of_outside (same ▸ outside))
        · exact Or.inl same
      have bits : (input.withEntries (before ++ ace :: after)).ownerImplicitBits =
          (input.withEntries (before ++ after)).ownerImplicitBits :=
        ownerImplicitBits_remove foreign
      rw [← divided, withEntries_self] at bits
      have whole := range_withEntries absent (before ++ ace :: after)
      rw [← divided, withEntries_self, divided] at whole
      have lower : (evaluate (input.withEntries (before ++ after))).ntfsRange.1 =
          (evaluate input).ntfsRange.1 := by
        rw [whole, range_withEntries absent]
        dsimp only
        rw [LogonFacts.lowest, LogonFacts.lowest, walkGrantedWith_remove skipped, bits]
      refine Prod.ext lower (Within.antisymm ?_ upper)
      rw [within_iff]
      intro bit
      have full := upper_withEntries_iff absent certain (before ++ ace :: after) bit
      rw [← divided, withEntries_self, divided] at full
      rw [full, upper_withEntries_iff absent certain]
      apply Or.imp (acePolicy.grants_insert allows)
      intro owned
      have remaining := (ownerImplicitBits_getLsbD (input.withEntries (before ++ after)) bit).mpr owned
      rw [← bits] at remaining
      exact divided ▸ (ownerImplicitBits_getLsbD input bit).mp remaining

end Entry

/-- The NTFS entries are explained exactly when the Allow entries of certainly
filtered groups are idle. -/
theorem boundsExplained_iff (input : PermissionEvaluationInput) :
    BoundsExplained input ↔ FilteredAllowsIdle input := by
  constructor
  · intro explained
    cases absent : input.fileSystemObject.nullDacl with
    | true => exact Or.inl absent
    | false =>
        cases certain : input.uacFilterCertain with
        | false => exact Or.inr (Or.inl certain)
        | true =>
            refine Or.inr (Or.inr (fun before ace after divided kind listed => ?_))
            exact (upper_within_iff absent certain divided kind).mp
              (explained.filtered certain before ace after divided kind listed)
  · intro idle
    refine ⟨?_, ?_, ?_⟩
    · intro before ace after divided applies unmatched moved
      rw [effectAt_split divided]
      have undecided : ¬ CertainlyFiltered input ace :=
        fun filtered => moved (range_remove_of_filtered idle divided unmatched filtered)
      cases known : input.uncertainAceReason ace with
      | none => exact absurd (range_remove_of_no_reason divided applies unmatched known) moved
      | some reason => exact uncertain_of_reason unmatched undecided known
    · intro before ace after reason divided listed
      rw [effectAt_split divided] at listed
      rcases certainlyFiltered_of_notApplied listed with ⟨unmatched, filtered⟩
      exact range_remove_of_filtered idle divided unmatched filtered
    · intro certain before ace after divided kind listed
      cases absent : input.fileSystemObject.nullDacl with
      | true =>
          have whole := range_withEntries_of_nullDacl absent input.fileSystemObject.dacl
          rw [withEntries_self] at whole
          rw [whole, range_withEntries_of_nullDacl absent]
          exact Within.refl _
      | false =>
          have added := (idle.resolve_left (absent ▸ Bool.false_ne_true)).resolve_left
            (certain ▸ Bool.true_eq_false.mp)
          exact (upper_within_iff absent certain divided kind).mpr
            (added before ace after divided kind listed)

end PermissionEngine

/-! ## The share side -/

namespace ShareScanner

/-- The bounds the evaluation of a share list computes. -/
def ShareToken.range (token : ShareToken) (context : AccessContext)
    (permissions : List SharePermission) : AccessMask × AccessMask :=
  let enabled : Sid → Bool := fun sid => sid ∈ token.enabled
  let denyOnly : Sid → Bool := fun sid => sid ∈ token.denyOnly
  let uncertain := permissions.filter (token.uncertainSid context)
  let maybe : Sid → Bool := fun sid => sid ∈ uncertain.map SharePermission.sid
  (shareWalk permissions enabled (fun sid => enabled sid || denyOnly sid || maybe sid),
    shareWalk permissions (fun sid => enabled sid || maybe sid)
      (fun sid => enabled sid || denyOnly sid))

/-- The share entries that move a bound without applying are listed as uncertain,
and certain filtering leaves no Allow entry of a filtered group in the upper bound.
No share entry is listed as not applied. -/
structure ShareBoundsExplained (token : ShareToken) (context : AccessContext)
    (permissions : List SharePermission) : Prop where
  uncertain : ∀ before permission after, permissions = before ++ permission :: after →
    token.applies permission = false →
      token.range context (before ++ after) ≠ token.range context permissions →
        ((shareAceDecisions (.acl permissions) token context)[before.length]?).map
          ShareAceDecision.outcome = some .uncertain
  filtered : token.denyOnlyCertain = true →
    ∀ before permission after, permissions = before ++ permission :: after →
      permission.kind = .allow → permission.sid ∈ token.denyOnly →
        Within (token.range context permissions).2 (token.range context (before ++ after)).2

/-- The first-match policy of a share list. -/
abbrev sharePolicy : Policy SharePermission Nat := Decision.bitPolicy shareAllows shareMask

/-- Where filtering is certain, an Allow entry of a filtered group that the upper
reading counts adds no right there. -/
def ShareFilteredAllowsIdle (token : ShareToken) (context : AccessContext)
    (permissions : List SharePermission) : Prop :=
  token.denyOnlyCertain = false ∨
    ∀ before permission after, permissions = before ++ permission :: after →
      permission.kind = .allow → permission.sid ∈ token.denyOnly → ∀ bit,
        ¬ sharePolicy.Adds (shareApplies ((token.logonFacts context).maybeAllow false)
          (token.logonFacts context).certainDeny) before permission after bit

section Share

variable {token : ShareToken} {context : AccessContext} {permissions : List SharePermission}

theorem mem_uncertain_sids_iff (sid : Sid) :
    sid ∈ (permissions.filter (token.uncertainSid context)).map SharePermission.sid ↔
      ∃ permission ∈ permissions, permission.sid = sid ∧
        token.uncertainSid context permission = true := by
  simp only [List.mem_map, List.mem_filter]
  constructor
  · rintro ⟨permission, ⟨member, uncertain⟩, same⟩
    exact ⟨permission, member, same, uncertain⟩
  · rintro ⟨permission, member, same, uncertain⟩
    exact ⟨permission, ⟨member, uncertain⟩, same⟩

/-- On an Allow entry the listed trustees are the ones of the upper reading. -/
theorem share_allow_reading {permission : SharePermission} (member : permission ∈ permissions)
    (kind : permission.kind = .allow) :
    (decide (permission.sid ∈ token.enabled) || decide (permission.sid ∈
        (permissions.filter (token.uncertainSid context)).map SharePermission.sid)) =
      (token.logonFacts context).maybeAllow false permission.sid := by
  rw [LogonFacts.maybeAllow, LogonFacts.certainAllow, LogonFacts.mayBeEnabled, ShareToken.logonFacts]
  by_cases enabled : permission.sid ∈ token.enabled
  · simp [enabled]
  · rw [Bool.eq_iff_iff]
    simp only [enabled, decide_false, Bool.false_or, Bool.false_and, Bool.or_false,
      decide_eq_true_iff, mem_uncertain_sids_iff]
    constructor
    · rintro ⟨other, _, same, uncertain⟩
      rw [ShareToken.uncertainSid, same] at uncertain
      grind
    · intro possible
      refine ⟨permission, member, rfl, ?_⟩
      rw [ShareToken.uncertainSid, kind]
      grind

/-- On a Deny entry they are the ones of the lower reading. -/
theorem share_deny_reading {permission : SharePermission} (member : permission ∈ permissions) :
    (decide (permission.sid ∈ token.enabled) || decide (permission.sid ∈ token.denyOnly) ||
        decide (permission.sid ∈
          (permissions.filter (token.uncertainSid context)).map SharePermission.sid)) =
      (token.logonFacts context).maybeDeny false permission.sid := by
  rw [LogonFacts.maybeDeny, LogonFacts.certainDeny, LogonFacts.mayBeEnabled, ShareToken.logonFacts]
  by_cases certain : permission.sid ∈ token.enabled ∨ permission.sid ∈ token.denyOnly
  · rcases certain with enabled | filtered
    · simp [enabled]
    · simp [filtered]
  · rcases not_or.mp certain with ⟨enabled, filtered⟩
    rw [Bool.eq_iff_iff]
    simp only [enabled, filtered, decide_false, Bool.false_or, Bool.false_and, Bool.or_false,
      decide_eq_true_iff, mem_uncertain_sids_iff]
    constructor
    · rintro ⟨other, _, same, uncertain⟩
      rw [ShareToken.uncertainSid, same] at uncertain
      grind
    · intro possible
      refine ⟨permission, member, rfl, ?_⟩
      rw [ShareToken.uncertainSid]
      grind

theorem shareWalk_congr {allowMatches otherAllow denyMatches otherDeny : Sid → Bool}
    (allowed : ∀ permission ∈ permissions, permission.kind = .allow →
      allowMatches permission.sid = otherAllow permission.sid)
    (denied : ∀ permission ∈ permissions, permission.kind = .deny →
      denyMatches permission.sid = otherDeny permission.sid) :
    shareWalk permissions allowMatches denyMatches = shareWalk permissions otherAllow otherDeny := by
  rw [shareWalk_eq_walk, shareWalk_eq_walk]
  congr 1
  refine Decision.walk_congr shareAllows shareMask (fun permission member => ?_) _
  rw [shareApplies, shareApplies]
  cases kind : permission.kind with
  | allow => exact allowed permission member kind
  | deny => exact denied permission member kind

/-- The bounds are the two readings of the facts of the token. -/
theorem range_eq (permissions : List SharePermission) :
    token.range context permissions =
      (shareWalk permissions (token.logonFacts context).certainAllow
          ((token.logonFacts context).maybeDeny false),
        shareWalk permissions ((token.logonFacts context).maybeAllow false)
          (token.logonFacts context).certainDeny) := by
  rw [ShareToken.range]
  refine Prod.ext ?_ ?_
  · dsimp only
    apply shareWalk_congr
    · intro _ _ _
      rfl
    · intro permission member _
      exact share_deny_reading member
  · dsimp only
    apply shareWalk_congr
    · intro permission member kind
      exact share_allow_reading member kind
    · intro _ _ _
      rfl

theorem shareWalk_getLsbD (allowMatches denyMatches : Sid → Bool) (bit : Nat) :
    (shareWalk permissions allowMatches denyMatches).getLsbD bit =
      sharePolicy.grants (shareApplies allowMatches denyMatches) permissions bit := by
  rw [shareWalk_eq_walk, Decision.walk_granted]

section Entry

variable {before after : List SharePermission} {permission : SharePermission}

theorem shareWalk_remove {allowMatches denyMatches : Sid → Bool}
    (skipped : shareApplies allowMatches denyMatches permission = false) :
    shareWalk (before ++ permission :: after) allowMatches denyMatches =
      shareWalk (before ++ after) allowMatches denyMatches := by
  apply mask_eq_iff.mpr
  intro bit
  rw [shareWalk_getLsbD, shareWalk_getLsbD, sharePolicy.grants_remove skipped]

/-- An entry that neither applies nor is uncertain moves no bound. -/
theorem share_range_remove (refused : token.applies permission = false)
    (certain : token.uncertainSid context permission = false) :
    token.range context (before ++ after) =
      token.range context (before ++ permission :: after) := by
  have outside : permission.sid ∉ token.enabled ∧
      (permission.kind = .deny → permission.sid ∉ token.denyOnly) := by
    rw [ShareToken.applies] at refused
    cases kind : permission.kind with
    | allow =>
        rw [kind] at refused
        exact ⟨of_decide_eq_false refused, fun other => by cases other⟩
    | deny =>
        rw [kind] at refused
        simp only [Bool.or_eq_false_iff, decide_eq_false_iff_not] at refused
        exact ⟨refused.1, fun _ => refused.2⟩
  rw [ShareToken.uncertainSid] at certain
  rw [range_eq, range_eq]
  refine Prod.ext (shareWalk_remove ?_).symm (shareWalk_remove ?_).symm
  · rw [shareApplies, LogonFacts.maybeDeny, LogonFacts.certainDeny, LogonFacts.mayBeEnabled,
      LogonFacts.certainAllow, ShareToken.logonFacts]
    cases kind : permission.kind <;> grind
  · rw [shareApplies, LogonFacts.maybeAllow, LogonFacts.certainDeny, LogonFacts.mayBeEnabled,
      LogonFacts.certainAllow, ShareToken.logonFacts]
    cases kind : permission.kind <;> grind

theorem decision_at_split (divided : permissions = before ++ permission :: after) :
    ∃ bits, (shareAceDecisions (.acl permissions) token context)[before.length]? =
      some (token.decisionOf context (permission, bits)) := by
  have bounded : before.length < permissions.length := by
    rw [divided, List.length_append, List.length_cons]
    omega
  have long : before.length < (token.decidedBits permissions).length := by
    rw [length_decidedBits]
    exact bounded
  have found : permissions[before.length] = permission := by
    subst divided
    exact List.getElem_append_right (Nat.le_refl _) |>.trans (by simp)
  refine ⟨(token.decidedBits permissions)[before.length], ?_⟩
  rw [shareAceDecisions_acl, List.getElem?_map, List.getElem?_eq_getElem (by
    rw [List.length_zip]
    exact Nat.lt_min.mpr ⟨bounded, long⟩), List.getElem_zip, found]
  rfl

theorem share_upper_within_iff (kind : permission.kind = .allow) :
    Within (token.range context (before ++ permission :: after)).2
        (token.range context (before ++ after)).2 ↔
      ∀ bit, ¬ sharePolicy.Adds (shareApplies ((token.logonFacts context).maybeAllow false)
        (token.logonFacts context).certainDeny) before permission after bit := by
  have allows : shareAllows permission = true := by
    rw [shareAllows, kind]
    rfl
  rw [range_eq, range_eq, within_iff]
  refine forall_congr' (fun bit => ?_)
  dsimp only
  rw [shareWalk_getLsbD, shareWalk_getLsbD, sharePolicy.adds_iff allows]
  constructor
  · rintro included ⟨granted, refused⟩
    rw [included granted] at refused
    cases refused
  · intro added granted
    by_contra refused
    exact added ⟨granted, Bool.eq_false_iff.mpr refused⟩

end Entry

/-- The share entries are explained exactly when the Allow entries of certainly
filtered groups are idle. -/
theorem shareBoundsExplained_iff (token : ShareToken) (context : AccessContext)
    (permissions : List SharePermission) :
    ShareBoundsExplained token context permissions ↔
      ShareFilteredAllowsIdle token context permissions := by
  constructor
  · intro explained
    cases certain : token.denyOnlyCertain with
    | false => exact Or.inl certain
    | true =>
        refine Or.inr (fun before permission after divided kind listed => ?_)
        have bounded := explained.filtered certain before permission after divided kind listed
        rw [divided] at bounded
        exact (share_upper_within_iff kind).mp bounded
  · intro idle
    refine ⟨?_, ?_⟩
    · intro before permission after divided refused moved
      have shown : ∃ bits, (shareAceDecisions (.acl permissions) token context)[before.length]? =
          some (token.decisionOf context (permission, bits)) := decision_at_split divided
      rcases shown with ⟨bits, found⟩
      have uncertain : token.uncertainSid context permission = true := by
        by_contra certain
        rw [Bool.not_eq_true] at certain
        rw [divided] at moved
        exact moved (share_range_remove refused certain)
      rw [found, Option.map_some]
      exact congrArg some
        ((outcome_uncertain_iff token context permission bits).mpr ⟨refused, uncertain⟩)
    · intro certain before permission after divided kind listed
      have added := (idle.resolve_left (certain ▸ Bool.true_eq_false.mp)) before permission after
        divided kind listed
      rw [divided]
      exact (share_upper_within_iff kind).mpr added

end Share

/-- The explanation names every entry that moves a bound, and no other, exactly when
no Allow entry of a certainly filtered group is counted in an upper bound that it
changes. -/
theorem bounds_explained_iff (input : PermissionEvaluationInput) (token : ShareToken)
    (context : AccessContext) (permissions : List SharePermission) :
    BoundsExplained input ∧ ShareBoundsExplained token context permissions ↔
      FilteredAllowsIdle input ∧ ShareFilteredAllowsIdle token context permissions :=
  and_congr (boundsExplained_iff input) (shareBoundsExplained_iff token context permissions)

def allowLocalAdministrators : AceEntry where
  kind := .allow
  sid := ⟨"S-1-5-114"⟩
  mask := 0x1#32

/-- A local administrator over the network, certainly filtered, and an entry for
the local administrators. -/
def filteredOverNetwork : PermissionEvaluationInput where
  identity := { sid := ⟨"S-1-5-21-1-2-3-1001"⟩ }
  localGroupSids := [⟨"S-1-5-32-544"⟩]
  uacFilteredGroupSids := [⟨"S-1-5-114"⟩, ⟨"S-1-5-32-544"⟩]
  remoteUac := .filtered "LocalAccountTokenFilterPolicy = 0"
  accessContext := .remoteSmb
  fileSystemObject :=
    { path := "\\\\server\\Data"
      dacl := [allowLocalAdministrators] }

/-- The entry is listed as not applied, and it is the upper bound. -/
theorem filteredOverNetwork_not_explained :
    ¬ (BoundsExplained filteredOverNetwork ∧
      ShareBoundsExplained (inputShareToken filteredOverNetwork) .remoteSmb
        (filteredOverNetwork.fileSystemObject.dacl.map (asSharePermission "Data"))) := by
  rintro ⟨explained, _⟩
  have widened := explained.filtered (by decide) [] allowLocalAdministrators [] rfl rfl (by decide)
  revert widened
  decide

end ShareScanner

end Stars
