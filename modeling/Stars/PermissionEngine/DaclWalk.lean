import Stars.PermissionEngine.Mask
import Stars.PermissionEngine.Token
import Stars.AccessControl.MaskWalk

namespace Stars
namespace PermissionEngine

open AccessControl

/-!
# Walks over an access list in stored order

The walk that computes the shown result with its provenance, the walk in which
Allow and Deny entries match through different predicates, and the bounds the
second one gives around logon-dependent trustees.  Both walks are read as one
mask walk of the general library: `aceAllows` and `aceMask` are the rule list,
and only the entries that apply differ.
-/

/-- An inherit-only entry applies to children and not to this object. -/
def aceAppliesToCurrentObject (ace : AceEntry) : Bool :=
  ace.propagationFlags &&& inheritOnlyAce == 0#32

/-- The trustee is in the token, or the entry is a Deny for a deny-only
group. -/
def aceMatches (ace : AceEntry) (matchSids denyOnlySids : Finset Sid) : Bool :=
  ace.sid ∈ matchSids ∨ (ace.kind = .deny ∧ ace.sid ∈ denyOnlySids)

/-- Result of the single stored-order walk.  `decidedPerAce` is aligned with
the access list: the bits each entry decided itself. -/
structure DaclWalkOutcome where
  granted : AccessMask := 0
  denied : AccessMask := 0
  contributions : List ContributingAce := []
  decidedPerAce : List AccessMask := []
deriving DecidableEq

/-- Join decided bits to the trustee's contribution, or append the trustee. -/
def addContribution (sid : Sid) (bits : AccessMask) : List ContributingAce → List ContributingAce
  | [] => [⟨sid, bits⟩]
  | head :: rest =>
      if head.sid = sid then { head with mask := head.mask ||| bits } :: rest
      else head :: addContribution sid bits rest

namespace DaclWalkOutcome

/-- An entry that decides nothing. -/
def skip (outcome : DaclWalkOutcome) : DaclWalkOutcome :=
  { outcome with decidedPerAce := outcome.decidedPerAce ++ [0#32] }

/-- One entry of the list. -/
def step (matchSids denyOnlySids : Finset Sid) (outcome : DaclWalkOutcome) (ace : AceEntry) :
    DaclWalkOutcome :=
  if !aceAppliesToCurrentObject ace then outcome.skip
  else if !aceMatches ace matchSids denyOnlySids then outcome.skip
  else
    let mask := expandGenericRights ace.mask
    -- Bits that are already decided cannot flip.
    let bits := mask &&& ~~~(outcome.granted ||| outcome.denied)
    if bits = 0#32 then outcome.skip
    else
      match ace.kind with
      | .allow =>
          { outcome with
            granted := outcome.granted ||| bits
            contributions := addContribution ace.sid bits outcome.contributions
            decidedPerAce := outcome.decidedPerAce ++ [bits] }
      | .deny =>
          { outcome with
            denied := outcome.denied ||| bits
            decidedPerAce := outcome.decidedPerAce ++ [bits] }

/-- What the walk has decided, without the provenance. -/
def decision (outcome : DaclWalkOutcome) : Decision 32 := ⟨outcome.granted, outcome.denied⟩

end DaclWalkOutcome

/-- Walk the access list in its stored order. -/
def walkDaclStoredOrder (dacl : List AceEntry) (matchSids denyOnlySids : Finset Sid) :
    DaclWalkOutcome :=
  dacl.foldl (DaclWalkOutcome.step matchSids denyOnlySids) {}

/-- The entries that apply to the object and match the token. -/
def collectMatchedAces (dacl : List AceEntry) (userSids denyOnlySids : Finset Sid) :
    List AceEntry :=
  dacl.filter (fun ace => aceAppliesToCurrentObject ace && aceMatches ace userSids denyOnlySids)

/-- Granted bits of a stored-order walk in which Allow and Deny entries match
through different predicates. -/
def walkGrantedWith (dacl : List AceEntry) (allowMatches denyMatches : Sid → Bool) : AccessMask :=
  (dacl.foldl
    (fun (decision : Decision 32) ace =>
      if !aceAppliesToCurrentObject ace then decision
      else
        let applies := match ace.kind with
          | .allow => allowMatches ace.sid
          | .deny => denyMatches ace.sid
        if !applies then decision
        else
          let bits := expandGenericRights ace.mask &&& ~~~(decision.granted ||| decision.denied)
          match ace.kind with
          | .allow => { decision with granted := decision.granted ||| bits }
          | .deny => { decision with denied := decision.denied ||| bits })
    ⟨0#32, 0#32⟩).granted

/-- Lower and upper bound of a result, with the trustees they depend on in
sorted order. -/
structure LogonDependentBounds where
  sids : List Sid
  min : AccessMask
  max : AccessMask
deriving DecidableEq

/-- The trustees in sorted order and without repetitions. -/
def sortedDistinct (sids : List Sid) : List Sid :=
  (sids.mergeSort (fun left right => left.value ≤ right.value)).dedup

/-- An entry whose trustee is not certainly in the token and may be in it. -/
def aceUncertain (matchSids : Finset Sid) (context : AccessContext)
    (logonDependentGroups denyOnlyGroups : Finset Sid) (uncertainOwner : Option Sid)
    (uacFilterCertain : Bool) (ace : AceEntry) : Bool :=
  isLogonDependentFor ace.sid context matchSids || ace.sid ∈ logonDependentGroups ||
    (ace.kind = .allow && ace.sid ∈ denyOnlyGroups && !uacFilterCertain) ||
    (uncertainOwner.isSome && ace.sid = sidOwnerRights)

/-- The trustees of the applicable entries that may or may not apply. -/
def uncertainTrustees (dacl : List AceEntry) (matchSids : Finset Sid) (context : AccessContext)
    (logonDependentGroups denyOnlyGroups : Finset Sid) (uncertainOwner : Option Sid)
    (uacFilterCertain : Bool) : List Sid :=
  (((dacl.filter aceAppliesToCurrentObject).filter (fun ace => ace.sid ∉ matchSids)).filter
    (aceUncertain matchSids context logonDependentGroups denyOnlyGroups uncertainOwner
      uacFilterCertain)).map AceEntry.sid

/-- An applicable OWNER RIGHTS entry governs the owner's rights. -/
def ownerRightsAce (dacl : List AceEntry) : Bool :=
  dacl.any (fun ace => ace.sid = sidOwnerRights && aceAppliesToCurrentObject ace)

/-- Bound the stored-order result over the logon-dependent trustees of an
access list.  Counting every uncertain Allow and no uncertain Deny gives the
upper bound, the opposite the lower one; `none` means that they are equal. -/
def logonDependentBounds (dacl : List AceEntry) (matchSids : Finset Sid)
    (context : AccessContext) (logonDependentGroups denyOnlyGroups : Finset Sid)
    (ownerImplicitBits : AccessMask) (uncertainOwner : Option Sid) (uacFilterCertain : Bool) :
    Option LogonDependentBounds :=
  let uncertain := uncertainTrustees dacl matchSids context logonDependentGroups denyOnlyGroups
    uncertainOwner uacFilterCertain
  let upperOwnerBits :=
    if uncertainOwner.isSome && !ownerRightsAce dacl then
      ownerImplicitBits ||| fileReadControl ||| fileWriteDac
    else ownerImplicitBits
  if uncertain.isEmpty && upperOwnerBits = ownerImplicitBits then none
  else
    let certainAllow : Sid → Bool := fun sid => sid ∈ matchSids
    let certainDeny : Sid → Bool := fun sid => sid ∈ matchSids || sid ∈ denyOnlyGroups
    let maybeAllow : Sid → Bool := fun sid => certainAllow sid || sid ∈ uncertain
    let maybeDeny : Sid → Bool := fun sid => certainDeny sid || sid ∈ uncertain
    let max := walkGrantedWith dacl maybeAllow certainDeny ||| upperOwnerBits
    let min := walkGrantedWith dacl certainAllow maybeDeny ||| ownerImplicitBits
    if min = max then none
    else
      let sids := sortedDistinct uncertain
      -- Only the implicit owner grant is uncertain when no trustee is.
      some ⟨if sids.isEmpty then uncertainOwner.toList else sids, min, max⟩

/-! ## Both walks as one mask walk -/

def aceAllows (ace : AceEntry) : Bool := ace.kind = .allow

def aceMask (ace : AceEntry) : AccessMask := expandGenericRights ace.mask

/-- The first-match policy of an access list: an entry covers the bits of its
expanded mask. -/
abbrev acePolicy : Policy AceEntry Nat := Decision.bitPolicy aceAllows aceMask

/-- The entries that count in a walk with separate predicates. -/
def appliesWith (allowMatches denyMatches : Sid → Bool) (ace : AceEntry) : Bool :=
  aceAppliesToCurrentObject ace &&
    (match ace.kind with
      | .allow => allowMatches ace.sid
      | .deny => denyMatches ace.sid)

theorem aceMatches_eq (ace : AceEntry) (matchSids denyOnlySids : Finset Sid) :
    (aceAppliesToCurrentObject ace && aceMatches ace matchSids denyOnlySids) =
      appliesWith (fun sid => sid ∈ matchSids)
        (fun sid => sid ∈ matchSids || sid ∈ denyOnlySids) ace := by
  unfold appliesWith aceMatches
  cases kind : ace.kind with
  | allow => simp
  | deny => simp

theorem step_decision (matchSids denyOnlySids : Finset Sid) (outcome : DaclWalkOutcome)
    (ace : AceEntry) :
    (outcome.step matchSids denyOnlySids ace).decision =
      if aceAppliesToCurrentObject ace && aceMatches ace matchSids denyOnlySids then
        outcome.decision.extend (aceAllows ace) (aceMask ace)
      else outcome.decision := by
  unfold DaclWalkOutcome.step
  cases aceAppliesToCurrentObject ace with
  | false => rfl
  | true =>
      cases aceMatches ace matchSids denyOnlySids with
      | false => rfl
      | true =>
          simp only [Bool.not_true, Bool.false_eq_true, if_false, Bool.and_self, if_true]
          have same : outcome.decision.fresh (aceMask ace) =
              expandGenericRights ace.mask &&& ~~~(outcome.granted ||| outcome.denied) := rfl
          unfold Decision.extend
          rw [same]
          split
          · rename_i nothing
            -- An entry without undecided bits changes neither mask.
            rw [nothing]
            unfold DaclWalkOutcome.skip DaclWalkOutcome.decision
            simp only [BitVec.or_zero, ite_self]
          · cases kind : ace.kind with
            | allow => simp only [aceAllows, kind, decide_true, if_true, DaclWalkOutcome.decision]
            | deny =>
                have refused : aceAllows ace = false := by rw [aceAllows, kind]; rfl
                simp only [refused, Bool.false_eq_true, if_false, DaclWalkOutcome.decision]

/-- The stored-order walk decides what the mask walk decides. -/
theorem walkDaclStoredOrder_decision (dacl : List AceEntry) (matchSids denyOnlySids : Finset Sid) :
    (walkDaclStoredOrder dacl matchSids denyOnlySids).decision =
      Decision.walk aceAllows aceMask
        (fun ace => aceAppliesToCurrentObject ace && aceMatches ace matchSids denyOnlySids)
        Decision.start dacl := by
  have run : ∀ (rest : List AceEntry) (outcome : DaclWalkOutcome),
      (rest.foldl (DaclWalkOutcome.step matchSids denyOnlySids) outcome).decision =
        Decision.walk aceAllows aceMask
          (fun ace => aceAppliesToCurrentObject ace && aceMatches ace matchSids denyOnlySids)
          outcome.decision rest := by
    intro rest
    induction rest with
    | nil =>
        intro outcome
        rfl
    | cons ace rest ih =>
        intro outcome
        rw [List.foldl_cons, ih, step_decision, Decision.walk_cons]
  exact run dacl {}

theorem walkGrantedWith_eq (dacl : List AceEntry) (allowMatches denyMatches : Sid → Bool) :
    walkGrantedWith dacl allowMatches denyMatches =
      (Decision.walk aceAllows aceMask (appliesWith allowMatches denyMatches)
        Decision.start dacl).granted := by
  unfold walkGrantedWith Decision.walk Decision.start
  congr 2
  funext decision ace
  unfold appliesWith
  cases aceAppliesToCurrentObject ace with
  | false => rfl
  | true =>
      cases kind : ace.kind with
      | allow =>
          have allowed : aceAllows ace = true := by rw [aceAllows, kind]; rfl
          cases allowMatches ace.sid <;> simp [Decision.extend, Decision.fresh, aceMask, allowed]
      | deny =>
          have refused : aceAllows ace = false := by rw [aceAllows, kind]; rfl
          cases denyMatches ace.sid <;> simp [Decision.extend, Decision.fresh, aceMask, refused]

/-- The shown NTFS mask is the mask walk over the entries that match. -/
theorem walkDaclStoredOrder_granted (dacl : List AceEntry) (matchSids denyOnlySids : Finset Sid) :
    (walkDaclStoredOrder dacl matchSids denyOnlySids).granted =
      walkGrantedWith dacl (fun sid => sid ∈ matchSids)
        (fun sid => sid ∈ matchSids || sid ∈ denyOnlySids) := by
  rw [walkGrantedWith_eq]
  have decided := congrArg Decision.granted
    (walkDaclStoredOrder_decision dacl matchSids denyOnlySids)
  refine decided.trans ?_
  congr 2
  funext ace
  exact aceMatches_eq ace matchSids denyOnlySids

/-- A granted bit of a walk is a bit whose first applying entry is an
Allow. -/
theorem walkGrantedWith_getLsbD (dacl : List AceEntry) (allowMatches denyMatches : Sid → Bool)
    (bit : Nat) :
    (walkGrantedWith dacl allowMatches denyMatches).getLsbD bit =
      acePolicy.grants (appliesWith allowMatches denyMatches) dacl bit := by
  rw [walkGrantedWith_eq, Decision.walk_granted]

/-- Enlarging the matching Allow trustees and shrinking the matching Deny
trustees, each on the trustees of the list, never loses a granted bit. -/
theorem walkGrantedWith_le {dacl : List AceEntry} {lowAllow lowDeny highAllow highDeny : Sid → Bool}
    (allowed : ∀ ace ∈ dacl, aceAppliesToCurrentObject ace = true → ace.kind = .allow →
      lowAllow ace.sid = true → highAllow ace.sid = true)
    (denied : ∀ ace ∈ dacl, aceAppliesToCurrentObject ace = true → ace.kind = .deny →
      highDeny ace.sid = true → lowDeny ace.sid = true) :
    Within (walkGrantedWith dacl lowAllow lowDeny) (walkGrantedWith dacl highAllow highDeny) := by
  rw [walkGrantedWith_eq, walkGrantedWith_eq]
  apply Decision.walk_granted_mono
  · intro ace member allows applied
    have kind : ace.kind = .allow := of_decide_eq_true allows
    unfold appliesWith at applied ⊢
    rw [kind, Bool.and_eq_true] at applied
    rw [kind, Bool.and_eq_true]
    exact ⟨applied.1, allowed ace member applied.1 kind applied.2⟩
  · intro ace member refuses applied
    have kind : ace.kind = .deny := by
      cases kind : ace.kind with
      | allow => rw [aceAllows, kind] at refuses; cases refuses
      | deny => rfl
    unfold appliesWith at applied ⊢
    rw [kind, Bool.and_eq_true] at applied
    rw [kind, Bool.and_eq_true]
    exact ⟨applied.1, denied ace member applied.1 kind applied.2⟩

end PermissionEngine
end Stars
