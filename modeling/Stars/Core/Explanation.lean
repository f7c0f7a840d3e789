import Stars.Core.Result

namespace Stars

/-!
# Explained results

What a result carries beside its masks for the reader: the explanation path in
words, and its structured twin with the ACEs that applied or may apply and the
token groups they reached the account through.
-/

/-- Which DACL an ACE of the trace belongs to. -/
inductive TraceLayer where
  | ntfs
  | share
deriving DecidableEq

/-- The effect of one ACE on the result. -/
inductive AceEffect where
  | decided (bits : BitVec 32)
  | noEffect
  | inheritOnly
  | uncertain (reason : String)
  | notApplied (reason : String)
deriving DecidableEq

/-- What one ACE did for the result. -/
structure AceOutcome where
  layer : TraceLayer
  kind : AceKind
  sid : Sid
  trustee : String
  mask : AccessMask
  inherited : Bool
  effect : AceEffect
deriving DecidableEq

/-- How a token group of the trace is held in the token. -/
inductive TraceGroupState where
  | member
  | denyOnly
  | uncertain
  | implicit
deriving DecidableEq

/-- A token group the trace refers to. -/
structure TraceGroup where
  sid : Sid
  display : String
  route : String
  state : TraceGroupState
  decisive : Bool
deriving DecidableEq

/-- The structured explanation of one result: NTFS ACEs before share ACEs, the
groups an ACE names, and the memberships without one. -/
structure PermissionTrace where
  aces : List AceOutcome := []
  groups : List TraceGroup := []
  otherGroups : Nat := 0
  other : List TraceGroup := []
deriving DecidableEq

/-- A result together with its explanation. -/
structure ExplainedPermission extends EffectivePermission where
  pathExplanation : List String := []
  trace : PermissionTrace := {}
deriving DecidableEq

end Stars
