import Stars.AccessControl.DecidedBits
import Stars.Collections.JoinedPerKey
import Stars.PermissionEngine.Explanation
import Stars.PermissionEngine.Rights

namespace Stars

open PermissionEngine AccessControl Collections

/-!
# Provenance of the NTFS result

The walk over an access list returns its masks together with the bits each entry
decided and the bits each Allow trustee contributed; the trace and the summary of
the Deny entries are made from them later.  All of them describe one walk.
-/

namespace PermissionEngine

/-- What the denied bits mean for the token: all of them were taken away from an
Allow entry, none of them, or some. -/
inductive DenyDetail where
  | allTaken
  | noneTaken
  | split (takenAway preEmpted : AccessMask)
deriving DecidableEq

/-- The bits decided by Deny entries that the result does not hold. -/
structure DenyAggregation where
  denied : AccessMask
  detail : DenyDetail
deriving DecidableEq

/-- The bits the summary reports as taken away. -/
def DenyAggregation.takenAway (aggregation : DenyAggregation) : AccessMask :=
  match aggregation.detail with
  | .allTaken => aggregation.denied
  | .noneTaken => 0#32
  | .split takenAway _ => takenAway

def rightsLabel (bits : AccessMask) : String :=
  let name := displayName bits
  let hex := Text.hex8 bits
  s!"{name} (0x{hex})"

def DenyDetail.text : DenyDetail → String
  | .allTaken =>
      "an Allow ACE of this token would otherwise have granted all of them — the Deny takes " ++
      "them away"
  | .noneTaken =>
      "no Allow ACE of this token grants them — the Deny takes nothing away that would " ++
      "otherwise be granted"
  | .split takenAway preEmpted =>
      let taken := rightsLabel takenAway
      let early := rightsLabel preEmpted
      s!"taken away (an Allow ACE of this token would otherwise grant them): {taken}; " ++
      s!"denied in advance only (no Allow ACE grants them): {early}"

def DenyAggregation.text (aggregation : DenyAggregation) : String :=
  let denied := rightsLabel aggregation.denied
  let detail := aggregation.detail.text
  s!"Deny aggregation: {denied} decided by Deny ACEs before any Allow could grant them — {detail}"

/-- The bits of the Allow entries that apply to the token, decided or not. -/
def allowUnion (dacl : List AceEntry) (matchSids denyOnlySids : Finset Sid) : AccessMask :=
  (dacl.filter (fun ace => ace.kind = .allow && aceAppliesToCurrentObject ace &&
    aceMatches ace matchSids denyOnlySids)).foldl
      (fun union ace => union ||| expandGenericRights ace.mask) 0#32

/-- Bits that the implicit owner rule restores are left out. -/
def denyAggregation (dacl : List AceEntry) (matchSids denyOnlySids : Finset Sid)
    (deniedRaw ownerImplicitBits : AccessMask) : Option DenyAggregation :=
  let denied := deniedRaw &&& ~~~ownerImplicitBits
  if denied = 0#32 then none
  else
    let takenAway := denied &&& allowUnion dacl matchSids denyOnlySids
    let preEmpted := denied &&& ~~~allowUnion dacl matchSids denyOnlySids
    some
      { denied := denied
        detail := match takenAway != 0#32, preEmpted != 0#32 with
          | true, false => .allTaken
          | false, true => .noneTaken
          | _, _ => .split takenAway preEmpted }

/-- The entry applies to the object and matches the token. -/
abbrev counts (matchSids denyOnlySids : Finset Sid) (ace : AceEntry) : Bool :=
  aceAppliesToCurrentObject ace && aceMatches ace matchSids denyOnlySids

/-- The bits the entries of a list decide in a walk. -/
def decidedFrom (matchSids denyOnlySids : Finset Sid) (decision : Decision 32)
    (dacl : List AceEntry) : List AccessMask :=
  Decision.decidedBits aceAllows aceMask (counts matchSids denyOnlySids) decision dacl

/-- The trustees of the Allow entries that decided bits, with these bits. -/
def allowBits (dacl : List AceEntry) (decided : List AccessMask) : List (Sid × AccessMask) :=
  ((dacl.zip decided).filter (fun entry => aceAllows entry.1 && entry.2 ≠ 0#32)).map
    (fun entry => (entry.1.sid, entry.2))

def contributionPair (contribution : ContributingAce) : Sid × AccessMask :=
  (contribution.sid, contribution.mask)

theorem addContribution_contributionPair (sid : Sid) (bits : AccessMask) (contributions : List ContributingAce) :
    (addContribution sid bits contributions).map contributionPair =
      addJoined (fun first second => first ||| second) (sid, bits)
        (contributions.map contributionPair) := by
  induction contributions with
  | nil => rfl
  | cons head rest ih =>
      rw [addContribution, List.map_cons, addJoined]
      by_cases same : head.sid = sid
      · rw [if_pos same, if_pos (show (contributionPair head).1 = (sid, bits).1 from same)]
        rfl
      · rw [if_neg same, if_neg (show ¬ (contributionPair head).1 = (sid, bits).1 from same), List.map_cons, ih]

section Step

variable (matchSids denyOnlySids : Finset Sid) (outcome : DaclWalkOutcome) (ace : AceEntry)

/-- The bits one entry decides. -/
def stepBits : AccessMask :=
  if counts matchSids denyOnlySids ace then outcome.decision.fresh (aceMask ace) else 0#32

theorem step_decidedPerAce :
    (outcome.step matchSids denyOnlySids ace).decidedPerAce =
      outcome.decidedPerAce ++ [stepBits matchSids denyOnlySids outcome ace] := by
  unfold DaclWalkOutcome.step stepBits counts
  cases aceAppliesToCurrentObject ace with
  | false => rfl
  | true =>
      cases aceMatches ace matchSids denyOnlySids with
      | false => rfl
      | true =>
          simp only [Bool.not_true, Bool.false_eq_true, if_false, Bool.and_self, if_true]
          have same : outcome.decision.fresh (aceMask ace) =
              expandGenericRights ace.mask &&& ~~~(outcome.granted ||| outcome.denied) := rfl
          rw [same]
          split
          · rename_i nothing
            rw [nothing]
            rfl
          · cases ace.kind with
            | allow => rfl
            | deny => rfl

theorem step_contributions :
    (outcome.step matchSids denyOnlySids ace).contributions =
      if aceAllows ace && stepBits matchSids denyOnlySids outcome ace ≠ 0#32 then
        addContribution ace.sid (stepBits matchSids denyOnlySids outcome ace) outcome.contributions
      else outcome.contributions := by
  unfold DaclWalkOutcome.step stepBits counts aceAllows
  cases aceAppliesToCurrentObject ace with
  | false => simp [DaclWalkOutcome.skip]
  | true =>
      cases aceMatches ace matchSids denyOnlySids with
      | false => simp [DaclWalkOutcome.skip]
      | true =>
          simp only [Bool.not_true, Bool.false_eq_true, if_false, Bool.and_self, if_true]
          have same : outcome.decision.fresh (aceMask ace) =
              expandGenericRights ace.mask &&& ~~~(outcome.granted ||| outcome.denied) := rfl
          rw [same]
          split
          · rename_i nothing
            rw [nothing]
            simp [DaclWalkOutcome.skip]
          · rename_i something
            cases ace.kind with
            | allow => simp [something]
            | deny => simp

end Step

/-- A walk from an intermediate outcome appends the bits its entries decide and
joins the contributions of its Allow entries. -/
theorem foldl_step_provenance (matchSids denyOnlySids : Finset Sid) (rest : List AceEntry) :
    ∀ outcome : DaclWalkOutcome,
      (rest.foldl (DaclWalkOutcome.step matchSids denyOnlySids) outcome).decidedPerAce =
          outcome.decidedPerAce ++ decidedFrom matchSids denyOnlySids outcome.decision rest ∧
        (rest.foldl (DaclWalkOutcome.step matchSids denyOnlySids) outcome).contributions.map
            contributionPair =
          (allowBits rest (decidedFrom matchSids denyOnlySids outcome.decision rest)).foldl
            (fun kept entry => addJoined (fun first second => first ||| second) entry kept)
            (outcome.contributions.map contributionPair) := by
  induction rest with
  | nil =>
      intro outcome
      exact ⟨(List.append_nil _).symm, rfl⟩
  | cons ace rest ih =>
      intro outcome
      have tail := ih (outcome.step matchSids denyOnlySids ace)
      have bits : decidedFrom matchSids denyOnlySids outcome.decision (ace :: rest) =
          stepBits matchSids denyOnlySids outcome ace ::
            decidedFrom matchSids denyOnlySids
              (outcome.step matchSids denyOnlySids ace).decision rest := by
        rw [decidedFrom, Decision.decidedBits, step_decision, stepBits]
        split
        · rfl
        · rfl
      rw [List.foldl_cons, tail.1, tail.2, step_decidedPerAce, step_contributions, bits]
      refine ⟨by rw [List.append_assoc]; rfl, ?_⟩
      rw [allowBits, allowBits, List.zip_cons_cons, List.filter_cons]
      split
      · rw [List.map_cons, List.foldl_cons, addContribution_contributionPair]
      · rfl

/-! ## One walk in every output -/

/-- The outputs of a walk describe one decision for each bit. -/
structure WalkProvenance (dacl : List AceEntry) (matchSids denyOnlySids : Finset Sid)
    (outcome : DaclWalkOutcome) : Prop where
  aligned : outcome.decidedPerAce.length = dacl.length
  disjoint : outcome.decidedPerAce.Pairwise Apart
  unmatched : ∀ entry ∈ dacl.zip outcome.decidedPerAce,
    (aceAppliesToCurrentObject entry.1 && aceMatches entry.1 matchSids denyOnlySids) = false →
      entry.2 = 0#32
  granted : joinedWhere (fun ace => ace.kind = .allow) (dacl.zip outcome.decidedPerAce) =
    outcome.granted
  denied : joinedWhere (fun ace => ace.kind = .deny) (dacl.zip outcome.decidedPerAce) =
    outcome.denied
  apart : Apart outcome.granted outcome.denied
  contributions : outcome.contributions =
    ((allowBits dacl outcome.decidedPerAce).map Prod.fst).eraseDups.map (fun sid =>
      { sid := sid
        mask := joinedWhere (fun other => other = sid) (allowBits dacl outcome.decidedPerAce) })

theorem joined_eq_foldl (masks : List AccessMask) (initial : AccessMask) :
    masks.foldl (fun first second => first ||| second) initial = initial ||| joined masks := by
  induction masks generalizing initial with
  | nil => exact BitVec.or_zero.symm
  | cons first rest ih => rw [List.foldl_cons, ih, joined_cons, BitVec.or_assoc]

theorem valueOf_eq_joinedWhere (entries : List (Sid × AccessMask)) (sid : Sid) :
    valueOf (fun first second => first ||| second) 0#32 entries sid =
      joinedWhere (fun other => other = sid) entries := by
  rw [valueOf, joined_eq_foldl, BitVec.zero_or, joinedWhere]

theorem refuses_eq : (fun ace => !aceAllows ace) = fun ace : AceEntry => decide (ace.kind = .deny) := by
  funext ace
  rw [aceAllows]
  cases ace.kind with
  | allow => rfl
  | deny => rfl

section Walk

variable (dacl : List AceEntry) (matchSids denyOnlySids : Finset Sid)

theorem decidedPerAce_eq :
    (walkDaclStoredOrder dacl matchSids denyOnlySids).decidedPerAce =
      decidedFrom matchSids denyOnlySids Decision.start dacl :=
  (foldl_step_provenance matchSids denyOnlySids dacl {}).1

theorem contributions_eq :
    (walkDaclStoredOrder dacl matchSids denyOnlySids).contributions.map contributionPair =
      joinPerKey (fun first second => first ||| second)
        (allowBits dacl (walkDaclStoredOrder dacl matchSids denyOnlySids).decidedPerAce) := by
  rw [decidedPerAce_eq]
  exact (foldl_step_provenance matchSids denyOnlySids dacl {}).2

theorem walkProvenance :
    WalkProvenance dacl matchSids denyOnlySids
      (walkDaclStoredOrder dacl matchSids denyOnlySids) := by
  have decided := decidedPerAce_eq dacl matchSids denyOnlySids
  have masks := walkDaclStoredOrder_decision dacl matchSids denyOnlySids
  have granted := congrArg Decision.granted masks
  have denied := congrArg Decision.denied masks
  rw [Decision.walk_granted_eq_joined] at granted
  rw [Decision.walk_denied_eq_joined, refuses_eq] at denied
  refine ⟨?_, ?_, ?_, ?_, ?_, ?_, ?_⟩
  · rw [decided, decidedFrom, Decision.length_decidedBits]
  · rw [decided]
    exact Decision.decidedBits_pairwise aceAllows aceMask _ dacl Decision.start
  · rw [decided]
    intro entry member refused
    exact Decision.decidedBits_of_not_applies aceAllows aceMask _ dacl Decision.start member refused
  · rw [decided]
    exact (granted.trans BitVec.zero_or).symm
  · rw [decided]
    exact (denied.trans BitVec.zero_or).symm
  · have apart := Decision.walk_apart aceAllows aceMask (counts matchSids denyOnlySids) dacl
    rwa [← masks] at apart
  · have pairs := contributions_eq dacl matchSids denyOnlySids
    have zero_join : ∀ value : AccessMask, 0#32 ||| value = value := fun _ => BitVec.zero_or
    rw [joinPerKey_eq _ zero_join] at pairs
    have back : ∀ contributions : List ContributingAce,
        (contributions.map contributionPair).map (fun pair => (⟨pair.1, pair.2⟩ : ContributingAce)) =
          contributions := by
      intro contributions
      rw [List.map_map]
      exact List.map_id _
    rw [← back (walkDaclStoredOrder dacl matchSids denyOnlySids).contributions, pairs, List.map_map]
    refine List.map_congr_left (fun sid _ => ?_)
    rw [Function.comp_apply, valueOf_eq_joinedWhere]

theorem allowUnion_eq :
    allowUnion dacl matchSids denyOnlySids =
      joined ((dacl.filter (fun ace => aceAllows ace && counts matchSids denyOnlySids ace)).map
        aceMask) := by
  have union := joined_eq_foldl ((dacl.filter
    (fun ace => aceAllows ace && counts matchSids denyOnlySids ace)).map aceMask) 0#32
  rw [List.foldl_map, BitVec.zero_or] at union
  rw [← union, allowUnion]
  congr 2
  funext ace
  exact Bool.and_assoc _ _ _

/-- Without its Deny entries a list grants the granted bits and those of the
denied bits that an applying Allow entry holds. -/
theorem walk_allowing_granted :
    (walkDaclStoredOrder (dacl.filter (fun ace => ace.kind = .allow)) matchSids
        denyOnlySids).granted =
      (walkDaclStoredOrder dacl matchSids denyOnlySids).granted |||
        ((walkDaclStoredOrder dacl matchSids denyOnlySids).denied &&&
          allowUnion dacl matchSids denyOnlySids) := by
  have whole := walkDaclStoredOrder_decision dacl matchSids denyOnlySids
  have allowing := walkDaclStoredOrder_decision (dacl.filter (fun ace => ace.kind = .allow))
    matchSids denyOnlySids
  have read : ∀ outcome : DaclWalkOutcome, outcome.granted = outcome.decision.granted ∧
      outcome.denied = outcome.decision.denied := fun _ => ⟨rfl, rfl⟩
  rw [(read _).1, allowing, (read (walkDaclStoredOrder dacl matchSids denyOnlySids)).1,
    (read (walkDaclStoredOrder dacl matchSids denyOnlySids)).2, whole, allowUnion_eq]
  exact Decision.walk_allowing_granted aceAllows aceMask (counts matchSids denyOnlySids) dacl

/-- The summary reports as taken away the denied bits outside the owner grant that
an applying Allow entry holds. -/
theorem takenAway_denyAggregation (deniedRaw ownerImplicitBits : AccessMask) :
    ((denyAggregation dacl matchSids denyOnlySids deniedRaw ownerImplicitBits).map
        DenyAggregation.takenAway).getD 0#32 =
      deniedRaw &&& ~~~ownerImplicitBits &&& allowUnion dacl matchSids denyOnlySids := by
  have covered : ∀ denied union : AccessMask, denied &&& ~~~union = 0#32 → denied &&& union = denied := by
    intro denied union outside
    apply BitVec.eq_of_getLsbD_eq
    intro bit bounded
    have clear := congrArg (fun value => value.getLsbD bit) outside
    rw [BitVec.getLsbD_and, BitVec.getLsbD_not, BitVec.getLsbD_zero] at clear
    rw [BitVec.getLsbD_and]
    simp only [bounded, decide_true, Bool.true_and] at clear
    revert clear
    cases denied.getLsbD bit <;> cases union.getLsbD bit <;> decide
  rw [denyAggregation]
  dsimp only
  split
  · rename_i nothing
    rw [nothing, BitVec.zero_and]
    rfl
  · rw [Option.map_some, Option.getD_some, DenyAggregation.takenAway]
    dsimp only
    generalize deniedRaw &&& ~~~ownerImplicitBits = denied
    cases taken : denied &&& allowUnion dacl matchSids denyOnlySids != 0#32 <;>
      cases early : denied &&& ~~~allowUnion dacl matchSids denyOnlySids != 0#32
    · rfl
    · rw [bne_eq_false_iff_eq] at taken
      exact taken.symm
    · rw [bne_eq_false_iff_eq] at early
      exact (covered _ _ early).symm
    · rfl

end Walk

/-! ## The trace -/

/-- The trustee of a decided entry, with its kind and bits. -/
def decidedOutcome (outcome : AceOutcome) : Option (AceKind × Sid × AccessMask) :=
  match outcome.effect with
  | .decided bits => some (outcome.kind, outcome.sid, bits)
  | _ => none

section Trace

variable {input : PermissionEvaluationInput}

theorem decidedAces_eq (present : input.fileSystemObject.nullDacl = false) :
    input.decidedAces = input.fileSystemObject.dacl.zip input.walk.decidedPerAce := by
  have aligned := (walkProvenance input.fileSystemObject.dacl input.matchSids
    input.denyOnlySids).aligned
  rw [← PermissionEvaluationInput.walk_of_dacl present] at aligned
  rw [PermissionEvaluationInput.decidedAces]
  apply List.ext_getElem
  · rw [List.length_map, List.length_zipIdx, List.length_zip, aligned, Nat.min_self]
  · intro position bounded within
    rw [List.length_zip, aligned, Nat.min_self] at within
    rw [List.getElem_map, List.getElem_zipIdx, List.getElem_zip, Nat.zero_add,
      List.getD_eq_getElem _ _ (by rw [aligned]; exact within)]

/-- An entry has a decided outcome exactly when it decided bits. -/
theorem aceEffect_decided_iff (ace : AceEntry) (decided bits : AccessMask) :
    input.aceEffect ace decided = some (.decided bits) ↔
      counts input.matchSids input.denyOnlySids ace = true ∧ decided ≠ 0#32 ∧ bits = decided := by
  rw [PermissionEvaluationInput.aceEffect, counts]
  cases aceMatches ace input.matchSids input.denyOnlySids with
  | false =>
      simp only [Bool.not_false, if_true, Bool.and_false, Bool.false_eq_true, false_and, iff_false]
      split
      · simp
      · simp
  | true =>
      simp only [Bool.not_true, Bool.false_eq_true, if_false, Bool.and_true]
      cases aceAppliesToCurrentObject ace with
      | false => simp
      | true =>
          simp only [Bool.not_true, Bool.false_eq_true, if_false, true_and]
          split
          · rename_i nothing
            simp [nothing]
          · rename_i something
            simp [something, eq_comm]

/-- The decided outcomes of the trace are the entries that decided bits. -/
theorem filterMap_decidedOutcome (present : input.fileSystemObject.nullDacl = false) :
    input.aceOutcomes.filterMap decidedOutcome =
      ((input.fileSystemObject.dacl.zip input.walk.decidedPerAce).filter
        (fun entry => entry.2 ≠ 0#32)).map
          (fun entry => (entry.1.kind, entry.1.sid, entry.2)) := by
  have unmatched := (walkProvenance input.fileSystemObject.dacl input.matchSids
    input.denyOnlySids).unmatched
  rw [← PermissionEvaluationInput.walk_of_dacl present] at unmatched
  rw [PermissionEvaluationInput.aceOutcomes, decidedAces_eq present, List.filterMap_filterMap,
    ← List.filterMap_eq_map, List.filterMap_filter]
  refine List.filterMap_congr (fun entry member => ?_)
  have decided : ∀ bits, input.aceEffect entry.1 entry.2 = some (.decided bits) ↔ _ :=
    fun bits => aceEffect_decided_iff entry.1 entry.2 bits
  by_cases something : entry.2 = 0#32
  · rw [if_neg (by simp [something])]
    cases effect : input.aceEffect entry.1 entry.2 with
    | none => rfl
    | some found =>
        cases found with
        | decided bits => exact absurd something ((decided bits).mp effect).2.1
        | _ => rfl
  · have counted : counts input.matchSids input.denyOnlySids entry.1 = true := by
      by_contra refused
      exact something (unmatched entry member (Bool.eq_false_iff.mpr refused))
    rw [if_pos (decide_eq_true something), (decided entry.2).mpr ⟨counted, something, rfl⟩]
    rfl

/-- The Allow outcomes of the trace with the owner grant are the shown mask. -/
theorem joined_decidedOutcome (present : input.fileSystemObject.nullDacl = false) :
    joined (((input.aceOutcomes.filterMap decidedOutcome).filter
        (fun outcome => outcome.1 = .allow)).map (fun outcome => outcome.2.2)) |||
          input.ownerImplicitBits = input.ntfsRaw := by
  have granted := (walkProvenance input.fileSystemObject.dacl input.matchSids
    input.denyOnlySids).granted
  rw [← PermissionEvaluationInput.walk_of_dacl present] at granted
  rw [PermissionEvaluationInput.ntfsRaw, ← granted, filterMap_decidedOutcome present, joinedWhere,
    List.filter_map, List.map_map, List.filter_filter]
  congr 1
  rw [← joined_filter_ne_zero (List.map Prod.snd _), List.filter_map, List.filter_filter]
  congr 2
  refine List.filter_congr (fun entry _ => ?_)
  exact Bool.and_comm _ _

end Trace

/-- The masks, the bits of the entries, the contributions, the trace and the
summary of the Deny entries describe the same walk. -/
theorem ntfsProvenance_exact :
    (∀ (dacl : List AceEntry) (matchSids denyOnlySids : Finset Sid) (ownerBits : AccessMask),
      let outcome := walkDaclStoredOrder dacl matchSids denyOnlySids
      WalkProvenance dacl matchSids denyOnlySids outcome ∧
        (walkDaclStoredOrder (dacl.filter (fun ace => ace.kind = .allow)) matchSids
            denyOnlySids).granted ||| ownerBits =
          outcome.granted ||| ownerBits |||
            ((denyAggregation dacl matchSids denyOnlySids outcome.denied ownerBits).map
              DenyAggregation.takenAway).getD 0#32) ∧
    (∀ (toLowercase : String → String) (request : ExplanationRequest),
      request.fileSystemObject.nullDacl = false →
        (evaluateExplained toLowercase request).2.trace.aces =
            request.aceOutcomes ++ request.shareTrace ∧
          request.aceOutcomes.filterMap decidedOutcome =
            ((request.fileSystemObject.dacl.zip request.walk.decidedPerAce).filter
              (fun entry => entry.2 ≠ 0#32)).map
                (fun entry => (entry.1.kind, entry.1.sid, entry.2)) ∧
          joined (((request.aceOutcomes.filterMap decidedOutcome).filter
              (fun outcome => outcome.1 = .allow)).map (fun outcome => outcome.2.2)) |||
            request.ownerImplicitBits = (evaluateExplained toLowercase request).1.ntfsMask) := by
  constructor
  · intro dacl matchSids denyOnlySids ownerBits outcome
    refine ⟨walkProvenance dacl matchSids denyOnlySids, ?_⟩
    rw [takenAway_denyAggregation, walk_allowing_granted]
    apply BitVec.eq_of_getLsbD_eq
    intro bit bounded
    simp only [BitVec.getLsbD_or, BitVec.getLsbD_and, BitVec.getLsbD_not, bounded, decide_true,
      Bool.true_and]
    -- A denied bit of the owner grant is granted on both sides.
    cases outcome.granted.getLsbD bit <;> cases ownerBits.getLsbD bit <;> simp [outcome]
  · intro toLowercase request present
    refine ⟨rfl, filterMap_decidedOutcome present, ?_⟩
    rw [evaluateExplained, evaluate_ntfsMask]
    exact joined_decidedOutcome present

/-- A Deny before an Allow takes one of its bits away and denies another one in
advance. -/
example :
    let users : Sid := ⟨"S-1-5-32-545"⟩
    let dacl : List AceEntry := [{ kind := .deny, sid := users, mask := 0x3#32 },
      { kind := .allow, sid := users, mask := 0x6#32 }]
    (denyAggregation dacl {users} ∅ (walkDaclStoredOrder dacl {users} ∅).denied 0#32).map
        DenyAggregation.detail = some (.split 0x2#32 0x1#32) := by
  decide

end PermissionEngine

end Stars
