import Stars.Core.Input
import Mathlib.Data.Finset.Insert
import Mathlib.Data.Finset.SDiff
import Mathlib.Data.Finset.Dedup

namespace Stars
namespace PermissionEngine

/-!
# Token construction

The SIDs a logon token certainly holds, collected from the resolved identity
and the access context, and the classification of the SIDs whose presence
depends on how the user logs on.  The order in which SIDs arrive does not
matter, so a token is a finite set.
-/

def sidEveryone : Sid := ⟨"S-1-1-0"⟩

def sidAuthenticatedUsers : Sid := ⟨"S-1-5-11"⟩

def sidAnonymousLogon : Sid := ⟨"S-1-5-7"⟩

def sidNetwork : Sid := ⟨"S-1-5-2"⟩

def sidInteractive : Sid := ⟨"S-1-5-4"⟩

/-- BUILTIN\Cryptographic Operators, never a certain token group. -/
def sidCryptographicOperators : Sid := ⟨"S-1-5-32-569"⟩

/-- OWNER RIGHTS, the well-known SID that stands for the object's owner. -/
def sidOwnerRights : Sid := ⟨"S-1-3-4"⟩

def sidThisOrganization : Sid := ⟨"S-1-5-15"⟩

def sidOtherOrganization : Sid := ⟨"S-1-5-1000"⟩

/-- The built-in Guest account, RID 501 of a machine or domain. -/
def isGuestAccount (sid : Sid) : Bool :=
  match Text.stripPrefix "S-1-5-21-" sid.value.toList with
  | none => false
  | some rest =>
      match Text.rsplitOnce '-' rest with
      | none => false
      | some (domain, rid) => rid == "501".toList && (Text.split '-' domain).length == 3

/-- Universal well-knowns that are certainly not in this identity's token. -/
def identityAbsentWellKnowns (userSid : Sid) : List Sid :=
  if userSid = sidAnonymousLogon ∨ isGuestAccount userSid then [sidAuthenticatedUsers] else []

/-- Universal well-knowns that may or may not be in this identity's token. -/
def identityUncertainWellKnowns (userSid : Sid) : List Sid :=
  if userSid = sidAnonymousLogon then [sidEveryone] else []

/-- The uncertain well-knowns once `EveryoneIncludesAnonymous` may be known. -/
def uncertainWellKnownsWith (userSid : Sid) (anonymousEveryone : Option Bool) : List Sid :=
  if userSid = sidAnonymousLogon ∧ anonymousEveryone.isSome then []
  else identityUncertainWellKnowns userSid

/-- An anonymous token certainly carries Everyone. -/
def anonymousGetsEveryone (userSid : Sid) (anonymousEveryone : Option Bool) : Bool :=
  userSid = sidAnonymousLogon ∧ anonymousEveryone = some true

/-- The well-knowns every token carries, without those this identity lacks or
may lack. -/
def implicitWellKnowns (userSid : Sid) : List Sid :=
  [sidEveryone, sidAuthenticatedUsers].filter (fun wellKnown =>
    !(identityUncertainWellKnowns userSid).contains wellKnown &&
      !(identityAbsentWellKnowns userSid).contains wellKnown)

def contextWellKnowns : AccessContext → List Sid
  | .remoteSmb => [sidNetwork]
  | .localInteractive => [sidInteractive]
  | .unspecified => []

/-- Full token construction: the account with its historical SIDs, its groups
with theirs, the local groups and the implicit well-knowns. -/
def buildTokenSidsWithContext (userSid : Sid) (sidHistory : List Sid)
    (memberships : List GroupMembership) (localGroupSids : List Sid)
    (accessContext : AccessContext) : Finset Sid :=
  (userSid :: sidHistory ++ memberships.flatMap GroupMembership.tokenSids ++ localGroupSids ++
    implicitWellKnowns userSid ++ contextWellKnowns accessContext).toFinset

def collectUserSids (identity : Identity) (memberships : List GroupMembership)
    (localGroupSids : List Sid) (accessContext : AccessContext) : Finset Sid :=
  buildTokenSidsWithContext identity.sid identity.sidHistory memberships localGroupSids
    accessContext

private def alwaysLogonDependent : List Sid :=
  [⟨"S-1-5-15"⟩, ⟨"S-1-5-1000"⟩, ⟨"S-1-5-65-1"⟩, ⟨"S-1-5-113"⟩, ⟨"S-1-5-114"⟩]

private def localLogonDependent : List Sid :=
  [⟨"S-1-5-14"⟩, ⟨"S-1-2-1"⟩, ⟨"S-1-5-13"⟩, ⟨"S-1-2-0"⟩]

private def contextDependent : List Sid := [⟨"S-1-5-2"⟩, ⟨"S-1-5-4"⟩, ⟨"S-1-2-0"⟩]

/-- Well-known SIDs whose presence in a token depends on the authentication,
the organization or the kind of logon. -/
def isLogonDependentSid (sid : Sid) (context : AccessContext) : Bool :=
  if alwaysLogonDependent.contains sid || Text.startsWith "S-1-18-" sid.value ||
      Text.startsWith "S-1-5-64-" sid.value then true
  else match context with
    | .remoteSmb => false
    | .localInteractive => localLogonDependent.contains sid
    | .unspecified => localLogonDependent.contains sid || contextDependent.contains sid

/-- A token holds exactly one of the two organization SIDs, so a certain one
decides the other. -/
def organizationDecidedAbsent (sid : Sid) (token : Finset Sid) : Bool :=
  if sid = sidThisOrganization then sidOtherOrganization ∈ token
  else if sid = sidOtherOrganization then sidThisOrganization ∈ token
  else false

/-- The SID is logon-dependent for a token that certainly holds `token`. -/
def isLogonDependentFor (sid : Sid) (context : AccessContext) (token : Finset Sid) : Bool :=
  !organizationDecidedAbsent sid token && isLogonDependentSid sid context

end PermissionEngine
end Stars
