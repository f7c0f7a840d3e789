import Stars.Text.Ascii
import Mathlib.Data.BitVec

namespace Stars

/-!
# Identities and memberships

The records an identity resolution hands to the permission engine.  A SID is a
typed text; two SIDs are the same exactly when their texts are.  A membership
carries the group's own SID, its historical SIDs and the concrete chain that
leads to the group, when one is known.
-/

/-- Typed SID text. -/
structure Sid where
  value : String
deriving DecidableEq

/-- Windows access mask, a 32-bit value. -/
abbrev AccessMask := BitVec 32

inductive IdentityKind where
  | user
  | group
  | computer
  | wellKnown
  | foreignSecurityPrincipal
  | orphaned
  | unknown
deriving DecidableEq

/-- A user, group or computer.  `sidHistoryCount` is the total reported by the
directory; `sidHistory` holds the values that could be parsed and may be
shorter. -/
structure Identity where
  sid : Sid
  name : Option String := none
  domain : Option String := none
  kind : IdentityKind := .user
  disabled : Bool := false
  userPrincipalName : Option String := none
  sidHistoryCount : Nat := 0
  sidHistory : List Sid := []
deriving DecidableEq

/-- Where a reconstructed chain comes from. -/
inductive MembershipPathSource where
  | primaryGroup
  | domainGroup
  | localGroup
  | ldapMatchingRule
  | accountType
  | trustedDomainLogon
deriving DecidableEq

/-- One further entry into a target group. -/
structure MembershipHop where
  sid : Sid
  name : Option String
deriving DecidableEq

/-- Concrete chain from an identity to a group, `nodes` from the identity to
the target.  `complete` is false when only the transitive membership is
established.  `alsoVia` lists the further direct members of the target the
identity reaches. -/
structure MembershipPath where
  nodes : List Sid
  names : List (Option String)
  source : MembershipPathSource
  complete : Bool
  alsoVia : List MembershipHop
deriving DecidableEq

structure GroupMembership where
  memberSid : Sid
  groupSid : Sid
  direct : Bool
  groupName : Option String := none
  path : Option MembershipPath := none
  groupSidHistoryCount : Nat := 0
  groupSidHistory : List Sid := []
deriving DecidableEq

/-- The SIDs a membership puts into the token: the group and its historical
SIDs. -/
def GroupMembership.tokenSids (membership : GroupMembership) : List Sid :=
  membership.groupSid :: membership.groupSidHistory

/-- How the object is accessed; Windows adds different well-known SIDs. -/
inductive AccessContext where
  | localInteractive
  | remoteSmb
  | unspecified
deriving DecidableEq

/-- Whether remote User Account Control filters a local account's network
token, as decided from the target's policies. -/
inductive RemoteUacFiltering where
  | unknown
  | filtered (reason : String)
  | notFiltered (reason : String)
deriving DecidableEq

end Stars
