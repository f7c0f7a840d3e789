import Stars.PermissionEngine.Report

namespace Stars
namespace ShareScanner

open PermissionEngine AccessControl

/-!
# Share permissions

The share side keeps its own token, its own walk and its own rule for uncertain
trustees.  The token is built from the same lists as the NTFS token but removes
them in another order; the walk has no inheritance flags to look at.
`ShareToken.logonFacts` restates a share token as the facts of the NTFS bounds,
so that both sides are compared through one set of readings.
-/

structure SharePermission where
  shareName : String
  sid : Sid
  mask : AccessMask
  kind : AceKind
deriving DecidableEq

/-- The access list of a share.  A share without a security descriptor is not
unrestricted: the server then applies a default that cannot be seen. -/
inductive ShareDacl where
  | nullDacl
  | noSecurityDescriptor
  | acl (permissions : List SharePermission)
deriving DecidableEq

/-- A share read with the number of entries the parser could not interpret. -/
structure ShareDaclScan where
  dacl : ShareDacl
  unsupportedCount : Nat

/-- The token a share entry is matched against. -/
structure ShareToken where
  enabled : Finset Sid
  denyOnly : Finset Sid
  uncertain : Finset Sid
  denyOnlyCertain : Bool := false

/-- Build the share token.  Neither a filtered group, nor a logon-dependent
local group, nor Cryptographic Operators is an enabled group. -/
def shareToken (userSid : Sid) (sidHistory : List Sid) (memberships : List GroupMembership)
    (localGroupSids logonDependentGroupSids uacFilteredGroupSids : List Sid)
    (accessContext : AccessContext) : ShareToken :=
  let collected := buildTokenSidsWithContext userSid sidHistory memberships localGroupSids
    accessContext
  let denyOnly := uacFilteredGroupSids.toFinset
  let uncertain := (logonDependentGroupSids.toFinset.filter (fun sid => sid ∉ denyOnly)) ∪
    (identityUncertainWellKnowns userSid).toFinset
  let enabled := collected \ (denyOnly ∪ uncertain)
  if sidCryptographicOperators ∈ enabled then
    { enabled := enabled.erase sidCryptographicOperators
      denyOnly := denyOnly
      uncertain := insert sidCryptographicOperators uncertain }
  else { enabled := enabled, denyOnly := denyOnly, uncertain := uncertain }

/-- The policies read from the target: remote User Account Control, and
Everyone for an anonymous logon. -/
def ShareToken.withPolicies (token : ShareToken) (userSid : Sid) (uacFilterCertain : Bool)
    (anonymousEveryone : Option Bool) : ShareToken :=
  let token := { token with denyOnlyCertain := uacFilterCertain }
  if userSid = sidAnonymousLogon ∧ anonymousEveryone.isSome then
    { token with
      uncertain := token.uncertain.erase sidEveryone
      enabled :=
        if anonymousEveryone = some true then insert sidEveryone token.enabled else token.enabled }
  else token

/-- Stored-order walk with separate predicates for Allow and Deny entries. -/
def shareWalk (permissions : List SharePermission) (allowMatches denyMatches : Sid → Bool) :
    AccessMask :=
  (permissions.foldl
    (fun (decision : Decision 32) permission =>
      let applies := match permission.kind with
        | .allow => allowMatches permission.sid
        | .deny => denyMatches permission.sid
      if !applies then decision
      else
        let bits := expandGenericRights permission.mask &&&
          ~~~(decision.granted ||| decision.denied)
        match permission.kind with
        | .allow => { decision with granted := decision.granted ||| bits }
        | .deny => { decision with denied := decision.denied ||| bits })
    ⟨0#32, 0#32⟩).granted

/-- A share entry whose trustee may or may not be in the token. -/
def ShareToken.uncertainSid (token : ShareToken) (context : AccessContext)
    (permission : SharePermission) : Bool :=
  permission.sid ∉ token.enabled &&
    (permission.sid ∈ token.uncertain ||
      isLogonDependentFor permission.sid context token.enabled ||
      (permission.kind = .allow && permission.sid ∈ token.denyOnly && !token.denyOnlyCertain))

/-- The mask the known token gives, with the number of entries that make it not
determinable. -/
def evaluateShareDacl (dacl : ShareDacl) (token : ShareToken) (context : AccessContext) :
    Option AccessMask × Nat :=
  match dacl with
  | .nullDacl => (none, 0)
  | .noSecurityDescriptor => (some 0#32, 1)
  | .acl permissions =>
      let enabled : Sid → Bool := fun sid => sid ∈ token.enabled
      let denyOnly : Sid → Bool := fun sid => sid ∈ token.denyOnly
      let uncertain := permissions.filter (token.uncertainSid context)
      let maybe : Sid → Bool := fun sid => sid ∈ uncertain.map SharePermission.sid
      let shown := shareWalk permissions enabled (fun sid => enabled sid || denyOnly sid)
      if uncertain.isEmpty then (some shown, 0)
      else
        let max := shareWalk permissions (fun sid => enabled sid || maybe sid)
          (fun sid => enabled sid || denyOnly sid)
        let min := shareWalk permissions enabled
          (fun sid => enabled sid || denyOnly sid || maybe sid)
        (some shown, if max = min then 0 else uncertain.length)

def noSecurityDescriptorReason : String :=
  "the server reports no security descriptor for this share — it applies a built-in default " ++
  "Stars cannot see (for C$ and ADMIN$: administrators and backup operators only, " ++
  "lab-verified); the share permission is not determinable"

/-- A share token as the facts of the NTFS bounds. -/
def ShareToken.logonFacts (token : ShareToken) (context : AccessContext) : LogonFacts where
  matchSids := token.enabled
  context := context
  logonDependentGroups := token.uncertain
  denyOnlyGroups := token.denyOnly
  uacFilterCertain := token.denyOnlyCertain

/-- An NTFS entry as a share entry. -/
def asSharePermission (shareName : String) (ace : AceEntry) : SharePermission where
  shareName := shareName
  sid := ace.sid
  mask := ace.mask
  kind := ace.kind

/-- No entry is inherit-only, and none names OWNER RIGHTS. -/
def PlainDacl (dacl : List AceEntry) : Prop :=
  ∀ ace ∈ dacl, aceAppliesToCurrentObject ace = true ∧ ace.sid ≠ sidOwnerRights

/-- A share entry and an NTFS entry with the same kind, trustee and mask. -/
def SameEntry (permission : SharePermission) (ace : AceEntry) : Prop :=
  permission.kind = ace.kind ∧ permission.sid = ace.sid ∧ permission.mask = ace.mask

/-- The share walk has no inheritance flags to look at, so on entries that all
apply to the object it is the NTFS walk. -/
theorem shareWalk_of_sameEntries {permissions : List SharePermission} {dacl : List AceEntry}
    (same : List.Forall₂ SameEntry permissions dacl)
    (applies : ∀ ace ∈ dacl, aceAppliesToCurrentObject ace = true)
    (allowMatches denyMatches : Sid → Bool) :
    shareWalk permissions allowMatches denyMatches =
      walkGrantedWith dacl allowMatches denyMatches := by
  unfold shareWalk walkGrantedWith
  congr 1
  -- Both walks decide alike entry by entry, whatever was decided before.
  generalize (⟨0#32, 0#32⟩ : Decision 32) = decision
  induction same generalizing decision with
  | nil => rfl
  | cons entry rest ih =>
      rcases entry with ⟨kind, sid, mask⟩
      rw [List.foldl_cons, List.foldl_cons, ih (fun ace member => applies ace (.tail _ member)),
        applies _ (.head _), kind, sid, mask]
      rfl

theorem sameEntries_asSharePermission (shareName : String) (dacl : List AceEntry) :
    List.Forall₂ SameEntry (dacl.map (asSharePermission shareName)) dacl := by
  induction dacl with
  | nil => exact .nil
  | cons ace dacl ih => exact .cons ⟨rfl, rfl, rfl⟩ ih

theorem shareWalk_eq {dacl : List AceEntry} (plain : PlainDacl dacl) (shareName : String)
    (allowMatches denyMatches : Sid → Bool) :
    shareWalk (dacl.map (asSharePermission shareName)) allowMatches denyMatches =
      walkGrantedWith dacl allowMatches denyMatches :=
  shareWalk_of_sameEntries (sameEntries_asSharePermission shareName dacl)
    (fun ace member => (plain ace member).1) allowMatches denyMatches

/-! ## The walk in its match predicates -/

/-- The stored-order walk is the walk with its own match rules as
predicates. -/
theorem walkGrantedWith_of_matches {dacl : List AceEntry} {matchSids denyOnlySids : Finset Sid}
    {allowMatches denyMatches : Sid → Bool}
    (allowed : ∀ ace ∈ dacl, ace.kind = .allow →
      allowMatches ace.sid = aceMatches ace matchSids denyOnlySids)
    (denied : ∀ ace ∈ dacl, ace.kind = .deny →
      denyMatches ace.sid = aceMatches ace matchSids denyOnlySids) :
    walkGrantedWith dacl allowMatches denyMatches =
      (walkDaclStoredOrder dacl matchSids denyOnlySids).granted := by
  rw [walkDaclStoredOrder_granted]
  apply walkGrantedWith_congr
  · intro ace member _ kind
    rw [allowed ace member kind]
    simp [aceMatches, kind]
  · intro ace member _ kind
    rw [denied ace member kind]
    simp [aceMatches, kind]

/-- More matching Allow trustees never lose a granted bit, more matching Deny
trustees never gain one; with the match rules of a token the walk is the
stored-order walk of that token, and on entries that all apply to the object it
is the share walk. -/
theorem walkGrantedWith_predicates (dacl : List AceEntry) :
    (∀ lowAllow highAllow denyMatches : Sid → Bool,
      (∀ sid, lowAllow sid = true → highAllow sid = true) →
        Within (walkGrantedWith dacl lowAllow denyMatches)
          (walkGrantedWith dacl highAllow denyMatches)) ∧
    (∀ allowMatches lowDeny highDeny : Sid → Bool,
      (∀ sid, lowDeny sid = true → highDeny sid = true) →
        Within (walkGrantedWith dacl allowMatches highDeny)
          (walkGrantedWith dacl allowMatches lowDeny)) ∧
    (∀ (matchSids denyOnlySids : Finset Sid) (allowMatches denyMatches : Sid → Bool),
      (∀ ace ∈ dacl, ace.kind = .allow →
        allowMatches ace.sid = aceMatches ace matchSids denyOnlySids) →
      (∀ ace ∈ dacl, ace.kind = .deny →
        denyMatches ace.sid = aceMatches ace matchSids denyOnlySids) →
        walkGrantedWith dacl allowMatches denyMatches =
          (walkDaclStoredOrder dacl matchSids denyOnlySids).granted) ∧
    (∀ (permissions : List SharePermission) (allowMatches denyMatches : Sid → Bool),
      List.Forall₂ SameEntry permissions dacl →
      (∀ ace ∈ dacl, aceAppliesToCurrentObject ace = true) →
        shareWalk permissions allowMatches denyMatches =
          walkGrantedWith dacl allowMatches denyMatches) := by
  refine ⟨?_, ?_, ?_, ?_⟩
  · intro lowAllow highAllow denyMatches larger
    exact walkGrantedWith_le (fun ace _ _ _ => larger ace.sid) (fun _ _ _ _ => id)
  · intro allowMatches lowDeny highDeny larger
    exact walkGrantedWith_le (fun _ _ _ _ => id) (fun ace _ _ _ => larger ace.sid)
  · intro matchSids denyOnlySids allowMatches denyMatches allowed denied
    exact walkGrantedWith_of_matches allowed denied
  · intro permissions allowMatches denyMatches same applies
    exact shareWalk_of_sameEntries same applies allowMatches denyMatches

theorem uncertain_eq {dacl : List AceEntry} (plain : PlainDacl dacl) (shareName : String)
    (token : ShareToken) (context : AccessContext) :
    ((dacl.map (asSharePermission shareName)).filter (token.uncertainSid context)).map
        SharePermission.sid =
      (token.logonFacts context).uncertain none dacl := by
  unfold LogonFacts.uncertain uncertainTrustees
  rw [List.filter_map, List.map_map, List.filter_filter, List.filter_filter]
  have same : ∀ ace ∈ dacl,
      (token.uncertainSid context ∘ asSharePermission shareName) ace =
        (aceUncertain token.enabled context token.uncertain token.denyOnly none
          token.denyOnlyCertain ace && decide (ace.sid ∉ token.enabled) &&
            aceAppliesToCurrentObject ace) := by
    intro ace member
    unfold ShareToken.uncertainSid aceUncertain asSharePermission
    simp only [Function.comp_apply, (plain ace member).1, Option.isSome_none, Bool.false_and,
      Bool.or_false, Bool.and_true]
    rw [Bool.and_comm, Bool.or_comm (decide (ace.sid ∈ token.uncertain))]
  exact congrArg (List.map AceEntry.sid) (List.filter_congr same)

/-- The share evaluation shows the walk of its facts and counts uncertain
entries exactly when the two readings differ. -/
theorem evaluateShareDacl_eq {dacl : List AceEntry} (plain : PlainDacl dacl) (shareName : String)
    (token : ShareToken) (context : AccessContext) :
    (evaluateShareDacl (.acl (dacl.map (asSharePermission shareName))) token context).1 =
        some (walkDaclStoredOrder dacl token.enabled token.denyOnly).granted ∧
      ((evaluateShareDacl (.acl (dacl.map (asSharePermission shareName))) token context).2 ≠ 0 ↔
        (token.logonFacts context).lowest false dacl ≠
          (token.logonFacts context).highest false dacl) := by
  have trustees := uncertain_eq plain shareName token context
  have high : shareWalk (dacl.map (asSharePermission shareName))
      (fun sid => decide (sid ∈ token.enabled) ||
        decide (sid ∈ (token.logonFacts context).uncertain none dacl))
      (fun sid => decide (sid ∈ token.enabled) || decide (sid ∈ token.denyOnly)) =
        (token.logonFacts context).highest false dacl := by
    rw [shareWalk_eq plain]
    exact walkGrantedWith_congr dacl
      (fun ace member applies kind => allow_reading (token.logonFacts context) none dacl member
        applies kind) (fun _ _ _ _ => rfl)
  have low : shareWalk (dacl.map (asSharePermission shareName))
      (fun sid => decide (sid ∈ token.enabled))
      (fun sid => decide (sid ∈ token.enabled) || decide (sid ∈ token.denyOnly) ||
        decide (sid ∈ (token.logonFacts context).uncertain none dacl)) =
        (token.logonFacts context).lowest false dacl := by
    rw [shareWalk_eq plain]
    exact walkGrantedWith_congr dacl (fun _ _ _ _ => rfl)
      (fun ace member applies _ => deny_reading (token.logonFacts context) none dacl member applies)
  have shown : shareWalk (dacl.map (asSharePermission shareName))
      (fun sid => decide (sid ∈ token.enabled))
      (fun sid => decide (sid ∈ token.enabled) || decide (sid ∈ token.denyOnly)) =
        (walkDaclStoredOrder dacl token.enabled token.denyOnly).granted := by
    rw [shareWalk_eq plain, walkDaclStoredOrder_granted]
  simp only [evaluateShareDacl, trustees, high, low, shown]
  by_cases nothing : ((dacl.map (asSharePermission shareName)).filter
      (token.uncertainSid context)).isEmpty = true
  · rw [if_pos nothing]
    refine ⟨rfl, ?_⟩
    have empty : (token.logonFacts context).uncertain none dacl = [] := by
      rw [← trustees, List.isEmpty_iff.mp nothing]
      rfl
    have equal : (token.logonFacts context).lowest false dacl =
        (token.logonFacts context).highest false dacl := by
      rw [← high, ← low, empty]
      simp only [List.not_mem_nil, decide_false, Bool.or_false]
    simp [equal]
  · rw [if_neg nothing]
    refine ⟨rfl, ?_⟩
    have something : ((dacl.map (asSharePermission shareName)).filter
        (token.uncertainSid context)).length ≠ 0 := by
      intro absent
      exact nothing (List.isEmpty_iff.mpr (List.eq_nil_of_length_eq_zero absent))
    by_cases equal : (token.logonFacts context).highest false dacl =
        (token.logonFacts context).lowest false dacl
    · simp [equal]
    · rw [if_neg equal]
      exact ⟨fun _ same => equal same.symm, fun _ => something⟩

end ShareScanner
end Stars
