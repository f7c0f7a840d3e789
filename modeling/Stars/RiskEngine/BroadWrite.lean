import Stars.PermissionEngine.AccessCheck
import Stars.PermissionEngine.Provenance
import Stars.RiskEngine.Rules

namespace Stars
namespace RiskEngine

open AccessControl
open PermissionEngine

/-!
# Broad write access

The rule judges which entry gave a content-write bit to the account.  A finding is
reported exactly when the entry that decides such a bit of the audited right is an
Allow for a broad group.  A broad group that the list alone allows the bit is therefore
missed when an entry of another trustee decides the bit first, when the account may or
may not be in the group, and when there is no list at all.
-/

/-- The trustee is one of the broad groups. -/
def IsBroad (sid : Sid) : Prop := sid.value ∈ broadSids

instance (sid : Sid) : Decidable (IsBroad sid) :=
  inferInstanceAs (Decidable (sid.value ∈ broadSids))

/-- The entry of the list that decides a bit for the account. -/
def decidingFor (input : PermissionEvaluationInput) (bit : Nat) : Option AceEntry :=
  decidingAce (fun ace => aceMatches ace input.matchSids input.denyOnlySids)
    input.fileSystemObject.dacl bit

/-- A content-write bit that the account has or may have. -/
def AuditedWrite (row : EffectivePermission) (bit : Nat) : Prop :=
  contentWriteBits.getLsbD bit = true ∧ row.effectiveUpperBound.getLsbD bit = true

/-- A token of one group. -/
def tokenOf (group : Sid) : LogonToken := ⟨{group}, ∅⟩

/-- The list allows the bit to a token of the group alone. -/
def AllowedAlone (input : PermissionEvaluationInput) (group : Sid) (bit : Nat) : Prop :=
  allowedBy (tokenOf group).matchesAce input.fileSystemObject.dacl bit = true

theorem not_apart_iff {first second : AccessMask} :
    first &&& second ≠ 0#32 ↔
      ∃ bit, first.getLsbD bit = true ∧ second.getLsbD bit = true := by
  have apart : ¬ Apart first second ↔ _ := not_congr apart_iff
  rw [not_forall] at apart
  simp only [not_not] at apart
  exact apart

section Contributions

variable (dacl : List AceEntry) (matchSids denyOnlySids : Finset Sid) (broad : Sid → Bool)

theorem mem_allowBits {decided : List AccessMask} {pair : Sid × AccessMask} :
    pair ∈ allowBits dacl decided ↔
      ∃ entry ∈ dacl.zip decided, entry.1.kind = .allow ∧ entry.2 ≠ 0#32 ∧
        (entry.1.sid, entry.2) = pair := by
  rw [allowBits, List.mem_map]
  simp only [List.mem_filter, aceAllows, Bool.and_eq_true, decide_eq_true_eq, and_assoc]

/-- The decided bits of the Allow entries, one trustee at a time. -/
theorem exists_allowBits_iff (bit : Nat) {decided : List AccessMask} :
    (∃ pair ∈ allowBits dacl decided, broad pair.1 = true ∧ pair.2.getLsbD bit = true) ↔
      (joinedWhere (fun ace => aceAllows ace && broad ace.sid) (dacl.zip decided)).getLsbD bit =
        true := by
  rw [joinedWhere, joined_getLsbD]
  constructor
  · intro found
    rcases found with ⟨pair, listed, named, selected⟩
    rcases (mem_allowBits dacl).mp listed with ⟨entry, inside, kind, _, same⟩
    cases same
    refine ⟨entry.2, List.mem_map_of_mem (List.mem_filter.mpr ⟨inside, ?_⟩), selected⟩
    rw [Bool.and_eq_true]
    exact ⟨decide_eq_true kind, named⟩
  · intro found
    rcases found with ⟨value, listed, selected⟩
    rcases List.mem_map.mp listed with ⟨entry, kept, same⟩
    cases same
    rcases List.mem_filter.mp kept with ⟨inside, both⟩
    rw [Bool.and_eq_true] at both
    have nonzero : entry.2 ≠ 0#32 := by
      intro zero
      rw [zero, BitVec.getLsbD_zero] at selected
      cases selected
    exact ⟨_, (mem_allowBits dacl).mpr ⟨entry, inside, of_decide_eq_true both.1, nonzero, rfl⟩,
      both.2, selected⟩

theorem exists_contribution_allowBits (bit : Nat) :
    (∃ contribution ∈ (walkDaclStoredOrder dacl matchSids denyOnlySids).contributions,
      broad contribution.sid = true ∧ contribution.mask.getLsbD bit = true) ↔
    ∃ pair ∈ allowBits dacl (walkDaclStoredOrder dacl matchSids denyOnlySids).decidedPerAce,
      broad pair.1 = true ∧ pair.2.getLsbD bit = true := by
  rw [(walkProvenance dacl matchSids denyOnlySids).contributions]
  constructor
  · intro found
    rcases found with ⟨contribution, inside, named, selected⟩
    rcases List.mem_map.mp inside with ⟨sid, _, same⟩
    cases same
    rcases (joined_getLsbD _ bit).mp selected with ⟨value, kept, held⟩
    rcases List.mem_map.mp kept with ⟨pair, filtered, same⟩
    rcases List.mem_filter.mp filtered with ⟨member, owned⟩
    refine ⟨pair, member, ?_, by rw [same]; exact held⟩
    rw [of_decide_eq_true owned]
    exact named
  · intro found
    rcases found with ⟨pair, member, named, selected⟩
    have trustee := List.mem_eraseDups.mpr (List.mem_map_of_mem (f := Prod.fst) member)
    refine ⟨_, List.mem_map_of_mem trustee, named, ?_⟩
    refine (joined_getLsbD _ bit).mpr ⟨pair.2, ?_, selected⟩
    exact List.mem_map_of_mem (List.mem_filter.mpr ⟨member, decide_eq_true rfl⟩)

/-- A trustee of a kind contributes a bit exactly when the entry that decides the bit
is an Allow for such a trustee. -/
theorem exists_contribution_iff (bit : Nat) :
    (∃ contribution ∈ (walkDaclStoredOrder dacl matchSids denyOnlySids).contributions,
      broad contribution.sid = true ∧ contribution.mask.getLsbD bit = true) ↔
    ∃ ace, decidingAce (fun ace => aceMatches ace matchSids denyOnlySids) dacl bit = some ace ∧
      ace.kind = .allow ∧ broad ace.sid = true := by
  rw [exists_contribution_allowBits, exists_allowBits_iff, decidedPerAce_eq, decidedFrom,
    Decision.joinedWhere_decidedBits_getLsbD]
  have undecided : (Decision.start : Decision 32).decides bit = false := by
    rw [Decision.decides, Decision.start, BitVec.getLsbD_zero]
    rfl
  rw [undecided, Bool.not_false, Bool.true_and, Option.any_eq_true]
  simp only [Bool.and_eq_true, aceAllows, decide_eq_true_eq]
  exact Iff.rfl

end Contributions

section Rule

variable (input : PermissionEvaluationInput)

/-- The contributions of a result are those of its walk; without a list there are none. -/
theorem evaluate_contributingSids :
    (evaluate input).contributingSids =
      if input.fileSystemObject.nullDacl then []
      else (walkDaclStoredOrder input.fileSystemObject.dacl input.matchSids
        input.denyOnlySids).contributions := by
  rw [evaluate_eq_draft]
  change input.walk.contributions = _
  rw [PermissionEvaluationInput.walk]
  split
  · rfl
  · rfl

theorem broadGroupWriteRule_masks (row : EffectivePermission) :
    broadGroupWriteRule [row] ≠ [] ↔
      row.effectiveUpperBound &&& contentWriteBits ≠ 0#32 ∧
        ∃ contribution ∈ row.contributingSids, IsBroad contribution.sid ∧
          contribution.mask &&& (row.effectiveUpperBound &&& contentWriteBits) ≠ 0#32 := by
  have audited : (AuditedRight.of row).mask = row.effectiveUpperBound := by
    rw [AuditedRight.of, apply_ite AuditedRight.mask, ite_self]
  have single : broadGroupWriteRule [row] = (broadGroupWriteFinding row).toList := by
    rw [broadGroupWriteRule]
    cases found : broadGroupWriteFinding row with
    | none => exact List.filterMap_cons_none found
    | some finding => exact List.filterMap_cons_some found
  rw [single, ne_eq, Option.toList_eq_nil_iff, ← ne_eq, ← Option.isSome_iff_ne_none,
    broadGroupWriteFinding, audited]
  dsimp only
  split
  · rename_i zero
    simp [zero]
  · rename_i nonzero
    simp [nonzero, List.find?_isSome, IsBroad]

/-- The rule reports a row exactly when a broad group contributed a content-write bit of
the audited right. -/
theorem broadGroupWriteRule_iff (row : EffectivePermission) :
    broadGroupWriteRule [row] ≠ [] ↔
      ∃ bit, AuditedWrite row bit ∧ ∃ contribution ∈ row.contributingSids,
        IsBroad contribution.sid ∧ contribution.mask.getLsbD bit = true := by
  have written (bit : Nat) : AuditedWrite row bit ↔
      (row.effectiveUpperBound &&& contentWriteBits).getLsbD bit = true := by
    rw [BitVec.getLsbD_and, Bool.and_eq_true]
    exact and_comm
  rw [broadGroupWriteRule_masks]
  constructor
  · intro both
    rcases both with ⟨_, contribution, listed, named, meets⟩
    rcases not_apart_iff.mp meets with ⟨bit, held, audited⟩
    exact ⟨bit, (written bit).mpr audited, contribution, listed, named, held⟩
  · intro found
    rcases found with ⟨bit, audited, contribution, listed, named, held⟩
    have selected := (written bit).mp audited
    refine ⟨?_, contribution, listed, named, not_apart_iff.mpr ⟨bit, held, selected⟩⟩
    intro zero
    rw [zero, BitVec.getLsbD_zero] at selected
    cases selected

/-- A finding is reported exactly when the entry that decides a content-write bit of the
bound is an Allow for a broad group. -/
theorem broadGroupWrite_iff_deciding :
    broadGroupWriteRule [evaluate input] ≠ [] ↔
      input.fileSystemObject.nullDacl = false ∧
        ∃ bit ace, AuditedWrite (evaluate input) bit ∧ decidingFor input bit = some ace ∧
          ace.kind = .allow ∧ IsBroad ace.sid := by
  rw [broadGroupWriteRule_iff, evaluate_contributingSids]
  cases absent : input.fileSystemObject.nullDacl with
  | true => simp
  | false =>
      have deciding := exists_contribution_iff input.fileSystemObject.dacl input.matchSids
        input.denyOnlySids (fun sid => decide (IsBroad sid))
      simp only [decide_eq_true_eq] at deciding
      simp only [Bool.false_eq_true, if_false, true_and, deciding, exists_and_left, decidingFor]

/-- A broad group of the token that the list alone allows a bit of the bound is reported,
or an entry of another trustee decides the bit. -/
theorem broadGroupWrite_of_allowedAlone {group : Sid} {bit : Nat} (broad : IsBroad group)
    (held : group ∈ input.matchSids) (present : input.fileSystemObject.nullDacl = false)
    (audited : AuditedWrite (evaluate input) bit) (allowed : AllowedAlone input group bit) :
    broadGroupWriteRule [evaluate input] ≠ [] ∨
      ∃ ace, decidingFor input bit = some ace ∧ ace.sid ≠ group := by
  have wider : ∀ ace ∈ input.fileSystemObject.dacl,
      (aceAppliesToCurrentObject ace && (tokenOf group).matchesAce ace) = true →
        counts input.matchSids input.denyOnlySids ace = true := by
    intro ace _ both
    rw [Bool.and_eq_true] at both
    have named : ace.sid = group := by simpa [tokenOf, LogonToken.matchesAce] using both.2
    rw [counts, both.1, aceMatches, named]
    simp [held]
  rcases Option.any_eq_true _ _ |>.mp allowed with ⟨alone, deciding, kind⟩
  have spec := acePolicy.deciding_spec deciding
  cases decided : decidingFor input bit with
  | none =>
      have free := (acePolicy.deciding_eq_none_iff _ _ _).mp decided alone spec.1
        (wider alone spec.1 spec.2.1)
      rw [spec.2.2] at free
      cases free
  | some first =>
      by_cases own : first.sid = group
      · left
        have applies : (aceAppliesToCurrentObject first &&
            aceMatches first input.matchSids input.denyOnlySids) = true :=
          (acePolicy.deciding_spec decided).2.1
        rw [Bool.and_eq_true] at applies
        have matching : (aceAppliesToCurrentObject first &&
            (tokenOf group).matchesAce first) = true := by
          rw [applies.1, LogonToken.matchesAce, own]
          simp [tokenOf]
        have same := acePolicy.deciding_of_wider wider decided matching
        rw [Option.some.inj (same.symm.trans deciding)] at decided own
        exact (broadGroupWrite_iff_deciding input).mpr
          ⟨present, bit, alone, audited, decided, of_decide_eq_true kind, own ▸ broad⟩
      · exact Or.inr ⟨first, rfl, own⟩

/-- Broad write access is reported when an Allow for a broad group decides a
content-write bit of the bound, and only then. -/
theorem broadGroupWrite_exact :
    (broadGroupWriteRule [evaluate input] ≠ [] ↔
      input.fileSystemObject.nullDacl = false ∧
        ∃ bit ace, AuditedWrite (evaluate input) bit ∧ decidingFor input bit = some ace ∧
          ace.kind = .allow ∧ IsBroad ace.sid) ∧
    (∀ group bit, IsBroad group → group ∈ input.matchSids →
      input.fileSystemObject.nullDacl = false → AuditedWrite (evaluate input) bit →
        AllowedAlone input group bit →
          broadGroupWriteRule [evaluate input] ≠ [] ∨
            ∃ ace, decidingFor input bit = some ace ∧ ace.sid ≠ group) ∧
    (broadGroupWriteRule [evaluate input] ≠ [] →
      ∃ ace ∈ input.fileSystemObject.dacl, ace.kind = .allow ∧ IsBroad ace.sid ∧
        ∃ bit, AuditedWrite (evaluate input) bit ∧ (aceMask ace).getLsbD bit = true) := by
  refine ⟨broadGroupWrite_iff_deciding input, ?_, ?_⟩
  · intro group bit broad held present audited allowed
    exact broadGroupWrite_of_allowedAlone input broad held present audited allowed
  · intro reported
    rcases (broadGroupWrite_iff_deciding input).mp reported with
      ⟨_, bit, ace, audited, deciding, kind, broad⟩
    have spec := acePolicy.deciding_spec deciding
    exact ⟨ace, spec.1, kind, broad, bit, audited, spec.2.2⟩

end Rule

/-! ## Missed groups -/

/-- An account with a list, or without one. -/
def writer (dacl : Option (List AceEntry)) : PermissionEvaluationInput where
  identity := { sid := ⟨"S-1-5-21-1-2-3-1001"⟩ }
  fileSystemObject :=
    { path := "D:\\Data"
      nullDacl := dacl.isNone
      dacl := dacl.getD [] }

def allowWrite (sid : String) : AceEntry := { kind := .allow, sid := ⟨sid⟩, mask := 0x2#32 }

/-- An entry of the account itself comes first, the list is absent, or the account may
be in the group only. -/
theorem broadGroupWrite_missed :
    let own := writer (some [allowWrite "S-1-5-21-1-2-3-1001", allowWrite sidEveryone])
    let network := writer (some [allowWrite sidNetwork])
    (AuditedWrite (evaluate own) 1 ∧ ⟨sidEveryone⟩ ∈ own.matchSids ∧
      AllowedAlone own ⟨sidEveryone⟩ 1 ∧ broadGroupWriteRule [evaluate own] = []) ∧
    (AuditedWrite (evaluate (writer none)) 1 ∧ broadGroupWriteRule [evaluate (writer none)] = []) ∧
    (AuditedWrite (evaluate network) 1 ∧ AllowedAlone network ⟨sidNetwork⟩ 1 ∧
      broadGroupWriteRule [evaluate network] = []) := by
  unfold AuditedWrite AllowedAlone
  decide

end RiskEngine
end Stars
