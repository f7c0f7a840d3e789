import Stars.PermissionEngine.Report

namespace Stars
namespace PermissionEngine

open AccessControl EffectivePermission

/-!
# Ownership under uncertainty

An owner that may or may not be an enabled SID of the token has one of two
results: with the implicit owner grant or the OWNER RIGHTS entries, and without
them.  The engine treats only an owner that may be filtered by User Account
Control as uncertain.  For every other uncertain owner the reported range is the
range of a token that does not own the object, and `ownership_bracketed_iff`
states when that range contains the owner's result all the same.

The argument compares every possible token with the smallest one that holds the
owner: an OWNER RIGHTS entry that decides a right for some token decides it for
the smallest one.
-/

/-- The owner of the object may or may not be an enabled SID of the token.  A
group that is certainly filtered is never enabled. -/
def OwnerUncertain (input : PermissionEvaluationInput) (owner : Sid) : Prop :=
  input.fileSystemObject.ownerSid = some owner ∧ owner ∉ input.userSids ∧
    input.logonFacts.mayBeEnabled owner = true ∧
    ¬ (owner ∈ input.denyOnlySids ∧ input.uacFilterCertain = true)

/-- What an access check grants to a token on an object with an owner: a token
that holds the owner is OWNER RIGHTS as well, and has the implicit owner grant
unless an OWNER RIGHTS entry governs it. -/
def LogonToken.ownedRights (token : LogonToken) (owner : Sid) (object : FileSystemObject)
    (bit : Nat) : Bool :=
  if object.nullDacl then maskFullControl.getLsbD bit
  else if owner ∈ token.enabled then
    allowedBy token.withOwnerRights.matchesAce object.dacl bit ||
      (!ownerRightsAce object.dacl && ownerGrant.getLsbD bit)
  else allowedBy token.matchesAce object.dacl bit

/-- The reported NTFS range contains the result of every possible token,
whether or not it holds the owner. -/
def OwnershipBracketed (input : PermissionEvaluationInput) (owner : Sid) : Prop :=
  ∀ (token : PossibleToken input.logonFacts) (bit : Nat),
    ((evaluate input).ntfsRange.1.getLsbD bit = true →
      token.ownedRights owner input.fileSystemObject bit = true) ∧
    (token.ownedRights owner input.fileSystemObject bit = true →
      (evaluate input).ntfsRange.2.getLsbD bit = true)

/-- The smallest token that holds the owner. -/
def ownerToken (input : PermissionEvaluationInput) (owner : Sid) : LogonToken where
  enabled := insert owner input.matchSids
  denyOnly := input.denyOnlySids

/-- The right is allowed when every Allow that may apply counts and only
certain Deny entries do. -/
def allowedAtMost (input : PermissionEvaluationInput) (bit : Nat) : Bool :=
  allowedBy (matchingWith (input.logonFacts.maybeAllow false) input.logonFacts.certainDeny)
    input.fileSystemObject.dacl bit

/-- The right is allowed when only certain Allow entries count and every Deny
that may apply does. -/
def allowedAtLeast (input : PermissionEvaluationInput) (bit : Nat) : Bool :=
  allowedBy (matchingWith input.logonFacts.certainAllow (input.logonFacts.maybeDeny false))
    input.fileSystemObject.dacl bit

/-- When the owner's result stays inside the range of the tokens that do not
own the object: the implicit grant is allowed anyway, or each OWNER RIGHTS entry
that decides a right for the owner agrees with a reading without it. -/
def OwnerCovered (input : PermissionEvaluationInput) (owner : Sid) : Prop :=
  input.fileSystemObject.nullDacl = true ∨ owner ∈ input.denyOnlySids ∨
    (ownerRightsAce input.fileSystemObject.dacl = false ∧
      allowedAtMost input 17 = true ∧ allowedAtMost input 18 = true) ∨
    (ownerRightsAce input.fileSystemObject.dacl = true ∧ ∀ bit ace,
      decidingAce (ownerToken input owner).withOwnerRights.matchesAce
        input.fileSystemObject.dacl bit = some ace → ace.sid = sidOwnerRights →
      (ace.kind = .allow → allowedAtMost input bit = true) ∧
        (ace.kind = .deny → allowedAtLeast input bit = false))

section Readings

variable {input : PermissionEvaluationInput} {owner : Sid}

theorem allowedAtMost_eq (bit : Nat) :
    allowedAtMost input bit =
      (input.logonFacts.highest false input.fileSystemObject.dacl).getLsbD bit :=
  (walkGrantedWith_eq_allowedBy _ _ _ bit).symm

theorem allowedAtLeast_eq (bit : Nat) :
    allowedAtLeast input bit =
      (input.logonFacts.lowest false input.fileSystemObject.dacl).getLsbD bit :=
  (walkGrantedWith_eq_allowedBy _ _ _ bit).symm

theorem userIsOwner_of_uncertain (uncertain : OwnerUncertain input owner) :
    input.userIsOwner = false := by
  unfold PermissionEvaluationInput.userIsOwner
  rw [uncertain.1, Option.any_some, decide_eq_false_iff_not]
  exact uncertain.2.1

theorem ownerImplicitBits_of_uncertain (uncertain : OwnerUncertain input owner) :
    input.ownerImplicitBits = 0#32 := by
  unfold PermissionEvaluationInput.ownerImplicitBits
  rw [userIsOwner_of_uncertain uncertain]
  rfl

/-- Only an owner that may be filtered is uncertain for the engine. -/
theorem uncertainOwner_of_uncertain (uncertain : OwnerUncertain input owner) :
    input.uncertainOwner = if owner ∈ input.denyOnlySids then some owner else none := by
  rcases uncertain with ⟨named, _, _, unfiltered⟩
  unfold PermissionEvaluationInput.uncertainOwner
  rw [named, Option.filter_some]
  by_cases listed : owner ∈ input.denyOnlySids
  · have undecided : input.uacFilterCertain = false :=
      Bool.eq_false_iff.mpr (fun decided => unfiltered ⟨listed, decided⟩)
    simp only [listed, undecided, decide_true, Bool.not_false, Bool.and_self, if_true]
  · simp only [listed, decide_false, Bool.false_and, Bool.false_eq_true, if_false]

theorem range_of_unlisted (uncertain : OwnerUncertain input owner)
    (present : input.fileSystemObject.nullDacl = false) (unlisted : owner ∉ input.denyOnlySids)
    (bit : Nat) :
    (evaluate input).ntfsRange.1.getLsbD bit = allowedAtLeast input bit ∧
      (evaluate input).ntfsRange.2.getLsbD bit = allowedAtMost input bit := by
  rw [evaluate_ntfsRange present, uncertainOwner_of_uncertain uncertain, if_neg unlisted,
    ownerImplicitBits_of_uncertain uncertain, allowedAtLeast_eq, allowedAtMost_eq]
  unfold upperOwnerBits
  constructor <;> simp

end Readings

/-! ## Tokens that hold the owner -/

section Tokens

variable {input : PermissionEvaluationInput} {owner : Sid}

/-- The smallest token that holds the owner is a possible token. -/
def smallestOwner (uncertain : OwnerUncertain input owner) : PossibleToken input.logonFacts where
  enabled := insert owner input.matchSids
  denyOnly := input.denyOnlySids
  contains := fun _ member => Finset.mem_insert_of_mem member
  further := fun sid member => by
    rcases Finset.mem_insert.mp member with same | certain
    · exact Or.inr (same ▸ uncertain.2.2.1)
    · exact Or.inl certain
  refusing := fun _ member => Or.inr (Or.inr member)
  filtered := fun _ member => Or.inr member

theorem allowedBy_token (token : LogonToken) (dacl : List AceEntry) (bit : Nat) :
    allowedBy token.matchesAce dacl bit = (token.mask dacl).getLsbD bit := by
  rw [token.matchesAce_eq, ← walkGrantedWith_eq_allowedBy]
  rfl

/-- Without an OWNER RIGHTS entry it does not matter whether a token is OWNER
RIGHTS. -/
theorem allowedBy_withOwnerRights (token : LogonToken) {dacl : List AceEntry}
    (absent : ownerRightsAce dacl = false) (bit : Nat) :
    allowedBy token.withOwnerRights.matchesAce dacl bit = allowedBy token.matchesAce dacl bit := by
  rw [ownerRightsAce_eq_false_iff] at absent
  apply allowedBy_congr
  intro ace member applies
  have other : ace.sid ≠ sidOwnerRights := by
    intro named
    rw [absent ace member named] at applies
    cases applies
  unfold LogonToken.matchesAce LogonToken.withOwnerRights
  simp only [Finset.mem_insert, other, false_or]

/-- An entry that decides a right for a token, and that a narrower token
matches too, decides it there. -/
theorem decidingAce_of_narrower {narrow wide : LogonToken} {dacl : List AceEntry} {bit : Nat}
    {ace : AceEntry}
    (narrower : ∀ next, narrow.matchesAce next = true → wide.matchesAce next = true)
    (decided : decidingAce wide.matchesAce dacl bit = some ace)
    (matched : narrow.matchesAce ace = true) :
    decidingAce narrow.matchesAce dacl bit = some ace := by
  have found : acePolicy.deciding
      (fun next => aceAppliesToCurrentObject next && wide.matchesAce next) dacl bit = some ace :=
    decided
  have applied := (acePolicy.deciding_spec found).2.1
  rw [Bool.and_eq_true] at applied
  refine acePolicy.deciding_of_wider ?_ found ?_
  · intro next _ both
    rw [Bool.and_eq_true] at both ⊢
    exact ⟨both.1, narrower next both.2⟩
  · rw [applied.1, matched]
    rfl

theorem matchesAce_withOwnerRights (token : LogonToken) {ace : AceEntry}
    (matched : token.matchesAce ace = true) : token.withOwnerRights.matchesAce ace = true := by
  unfold LogonToken.matchesAce at matched ⊢
  rw [decide_eq_true_iff] at matched ⊢
  exact matched.imp_left Finset.mem_insert_of_mem

/-- For a token that holds the owner, every right is decided by the same entry
as without OWNER RIGHTS, or by an OWNER RIGHTS entry that decides it for the
smallest such token as well. -/
theorem decidingAce_withOwnerRights (token : PossibleToken input.logonFacts)
    (held : owner ∈ token.enabled) {dacl : List AceEntry} {bit : Nat} {ace : AceEntry}
    (decided : decidingAce token.withOwnerRights.matchesAce dacl bit = some ace) :
    decidingAce token.matchesAce dacl bit = some ace ∨
      (ace.sid = sidOwnerRights ∧
        decidingAce (ownerToken input owner).withOwnerRights.matchesAce dacl bit = some ace) := by
  by_cases named : ace.sid = sidOwnerRights
  · right
    refine ⟨named, decidingAce_of_narrower ?_ decided ?_⟩
    · intro next matched
      unfold LogonToken.matchesAce LogonToken.withOwnerRights ownerToken at matched
      unfold LogonToken.matchesAce LogonToken.withOwnerRights
      simp only [decide_eq_true_iff, Finset.mem_insert] at matched ⊢
      rcases matched with (rights | same | certain) | ⟨kind, filtered⟩
      · exact Or.inl (Or.inl rights)
      · exact Or.inl (Or.inr (same ▸ held))
      · exact Or.inl (Or.inr (token.contains next.sid certain))
      · rcases token.filtered next.sid filtered with enabled | refusing
        · exact Or.inl (Or.inr enabled)
        · exact Or.inr ⟨kind, refusing⟩
    · unfold LogonToken.matchesAce LogonToken.withOwnerRights
      rw [decide_eq_true_iff, named]
      exact Or.inl (Finset.mem_insert_self _ _)
  · left
    have found : acePolicy.deciding
        (fun next => aceAppliesToCurrentObject next && token.withOwnerRights.matchesAce next)
        dacl bit = some ace := decided
    have applied := (acePolicy.deciding_spec found).2.1
    rw [Bool.and_eq_true] at applied
    refine decidingAce_of_narrower (fun next => matchesAce_withOwnerRights _) decided ?_
    have matched := applied.2
    unfold LogonToken.matchesAce LogonToken.withOwnerRights at matched
    unfold LogonToken.matchesAce
    simp only [decide_eq_true_iff, Finset.mem_insert, named, false_or] at matched ⊢
    exact matched

end Tokens

/-! ## Owners the engine treats as uncertain -/

section Filtered

variable {facts : LogonFacts} (dacl : List AceEntry) (token : PossibleToken facts)

/-- With OWNER RIGHTS among the uncertain trustees the readings also bracket a
token that is OWNER RIGHTS. -/
theorem ownerMask_within_highest :
    Within (token.withOwnerRights.mask dacl) (facts.highest true dacl) := by
  refine walkGrantedWith_le ?_ ?_
  · intro ace _ _ _ enabled
    unfold LogonToken.withOwnerRights at enabled
    unfold LogonFacts.maybeAllow LogonFacts.certainAllow
    rw [decide_eq_true_iff, Finset.mem_insert] at enabled
    rcases enabled with rights | member
    · simp only [rights, decide_true, Bool.true_and, Bool.or_true]
    · rcases token.further ace.sid member with certain | possible
      · simp only [certain, decide_true, Bool.true_or]
      · simp only [possible, Bool.or_true, Bool.true_or]
  · intro ace _ _ _ certain
    unfold LogonFacts.certainDeny at certain
    unfold LogonToken.withOwnerRights
    simp only [Bool.or_eq_true, decide_eq_true_iff, Finset.mem_insert] at certain ⊢
    rcases certain with matched | filtered
    · exact Or.inl (Or.inr (token.contains ace.sid matched))
    · exact (token.filtered ace.sid filtered).imp_left Or.inr

theorem lowest_within_ownerMask :
    Within (facts.lowest true dacl) (token.withOwnerRights.mask dacl) := by
  refine walkGrantedWith_le ?_ ?_
  · intro ace _ _ _ certain
    unfold LogonFacts.certainAllow at certain
    unfold LogonToken.withOwnerRights
    rw [decide_eq_true_iff] at certain ⊢
    exact Finset.mem_insert_of_mem (token.contains ace.sid certain)
  · intro ace _ _ _ matched
    unfold LogonToken.withOwnerRights at matched
    simp only [Bool.or_eq_true, decide_eq_true_iff, Finset.mem_insert] at matched
    have known : ace.sid = sidOwnerRights ∨ ace.sid ∈ facts.matchSids ∨
        facts.mayBeEnabled ace.sid = true ∨ ace.sid ∈ facts.denyOnlyGroups := by
      rcases matched with (rights | enabled) | refusing
      · exact Or.inl rights
      · exact Or.inr ((token.further ace.sid enabled).imp_right Or.inl)
      · exact Or.inr (token.refusing ace.sid refusing)
    unfold LogonFacts.maybeDeny LogonFacts.certainDeny
    rcases known with rights | certain | possible | filtered
    · simp only [rights, decide_true, Bool.true_and, Bool.or_true]
    · simp only [certain, decide_true, Bool.true_or]
    · simp only [possible, Bool.or_true, Bool.true_or]
    · simp only [filtered, decide_true, Bool.or_true, Bool.true_or]

end Filtered

section Owner

variable {input : PermissionEvaluationInput} {owner : Sid}

/-- An owner that may be filtered is bracketed. -/
theorem bracketed_of_filtered (uncertain : OwnerUncertain input owner)
    (present : input.fileSystemObject.nullDacl = false) (listed : owner ∈ input.denyOnlySids) :
    OwnershipBracketed input owner := by
  intro token bit
  have range := evaluate_ntfsRange present
  rw [uncertainOwner_of_uncertain uncertain, if_pos listed, Option.isSome_some,
    ownerImplicitBits_of_uncertain uncertain] at range
  have upperBits : upperOwnerBits (some owner) input.fileSystemObject.dacl 0#32 =
      if ownerRightsAce input.fileSystemObject.dacl then 0#32 else ownerGrant := by
    unfold upperOwnerBits ownerGrant
    cases ownerRightsAce input.fileSystemObject.dacl <;> simp
  rw [upperBits] at range
  have low : (evaluate input).ntfsRange.1.getLsbD bit =
      (input.logonFacts.lowest true input.fileSystemObject.dacl).getLsbD bit := by
    rw [range]
    simp
  have high : (evaluate input).ntfsRange.2.getLsbD bit =
      ((input.logonFacts.highest true input.fileSystemObject.dacl).getLsbD bit ||
        (!ownerRightsAce input.fileSystemObject.dacl && ownerGrant.getLsbD bit)) := by
    rw [range, BitVec.getLsbD_or]
    cases ownerRightsAce input.fileSystemObject.dacl <;> simp
  rw [low, high]
  unfold LogonToken.ownedRights
  rw [present, if_neg Bool.false_ne_true, allowedBy_token, allowedBy_token]
  split
  · constructor
    · intro least
      rw [within_iff.mp (lowest_within_ownerMask _ token) bit least, Bool.true_or]
    · intro granted
      rw [Bool.or_eq_true] at granted ⊢
      exact granted.imp_left (within_iff.mp (ownerMask_within_highest _ token) bit)
  · constructor
    · exact within_iff.mp (lowest_within_mask _ token true) bit
    · intro granted
      rw [within_iff.mp (mask_within_highest _ token true) bit granted, Bool.true_or]

theorem bracketed_of_nullDacl (uncertain : OwnerUncertain input owner)
    (absent : input.fileSystemObject.nullDacl = true) : OwnershipBracketed input owner := by
  have full : (evaluate input).ntfsRange = (maskFullControl, maskFullControl) := by
    rw [evaluate_ntfsRange_of_nullDacl absent, ntfsRaw_of_nullDacl absent,
      ownerImplicitBits_of_uncertain uncertain, BitVec.or_zero]
  intro token bit
  unfold LogonToken.ownedRights
  rw [full, if_pos absent]
  exact ⟨id, id⟩

/-- Tokens that do not hold the owner are inside the range in any case. -/
theorem bracketed_of_notHeld (token : PossibleToken input.logonFacts) (bit : Nat) :
    (allowedAtLeast input bit = true →
      allowedBy token.matchesAce input.fileSystemObject.dacl bit = true) ∧
    (allowedBy token.matchesAce input.fileSystemObject.dacl bit = true →
      allowedAtMost input bit = true) := by
  rw [allowedAtLeast_eq, allowedAtMost_eq, allowedBy_token]
  exact ⟨within_iff.mp (lowest_within_mask _ token false) bit,
    within_iff.mp (mask_within_highest _ token false) bit⟩

/-- Without an OWNER RIGHTS entry only the implicit grant has to be allowed. -/
theorem bracketed_of_grantAllowed (uncertain : OwnerUncertain input owner)
    (present : input.fileSystemObject.nullDacl = false) (unlisted : owner ∉ input.denyOnlySids)
    (absent : ownerRightsAce input.fileSystemObject.dacl = false)
    (readControl : allowedAtMost input 17 = true) (writeDac : allowedAtMost input 18 = true) :
    OwnershipBracketed input owner := by
  intro token bit
  rcases range_of_unlisted uncertain present unlisted bit with ⟨low, high⟩
  rcases bracketed_of_notHeld token bit with ⟨atLeast, atMost⟩
  rw [low, high]
  unfold LogonToken.ownedRights
  rw [present, if_neg Bool.false_ne_true, absent, allowedBy_withOwnerRights token.toLogonToken absent]
  split
  · constructor
    · intro least
      rw [atLeast least, Bool.true_or]
    · intro granted
      rw [Bool.or_eq_true, Bool.not_false, Bool.true_and, ownerGrant_getLsbD] at granted
      rcases granted with allowed | rfl | rfl
      · exact atMost allowed
      · exact readControl
      · exact writeDac
  · exact ⟨atLeast, atMost⟩

/-- With OWNER RIGHTS entries each one that decides a right for the smallest
token of the owner has to agree with a reading. -/
theorem bracketed_of_entriesAgree (uncertain : OwnerUncertain input owner)
    (present : input.fileSystemObject.nullDacl = false) (unlisted : owner ∉ input.denyOnlySids)
    (governed : ownerRightsAce input.fileSystemObject.dacl = true)
    (agree : ∀ bit ace, decidingAce (ownerToken input owner).withOwnerRights.matchesAce
        input.fileSystemObject.dacl bit = some ace → ace.sid = sidOwnerRights →
      (ace.kind = .allow → allowedAtMost input bit = true) ∧
        (ace.kind = .deny → allowedAtLeast input bit = false)) :
    OwnershipBracketed input owner := by
  intro token bit
  rcases range_of_unlisted uncertain present unlisted bit with ⟨low, high⟩
  rcases bracketed_of_notHeld token bit with ⟨atLeast, atMost⟩
  rw [low, high]
  unfold LogonToken.ownedRights
  rw [present, if_neg Bool.false_ne_true, governed]
  by_cases held : owner ∈ token.enabled
  · rw [if_pos held, Bool.not_true, Bool.false_and, Bool.or_false]
    constructor
    · intro least
      -- A granted right of the smaller token keeps a deciding entry.
      have granted := atLeast least
      unfold allowedBy at granted ⊢
      rw [Option.any_eq_true] at granted
      rcases granted with ⟨allow, decidedWithout, allows⟩
      cases decided : decidingAce token.withOwnerRights.matchesAce
          input.fileSystemObject.dacl bit with
      | none =>
          have undecided := List.find?_eq_none.mp decided allow
            (List.mem_of_find?_eq_some decidedWithout)
          have matched := List.find?_some decidedWithout
          simp only [Bool.and_eq_true] at matched
          refine absurd ?_ undecided
          rw [matched.1.1, matched.2, matchesAce_withOwnerRights token.toLogonToken matched.1.2]
          rfl
      | some ace =>
          rw [Option.any_some]
          rcases decidingAce_withOwnerRights token held decided with same | ⟨named, smallest⟩
          · rw [decidedWithout, Option.some.injEq] at same
            rw [← same]
            exact allows
          · cases kind : ace.kind with
            | allow => rw [aceAllows, kind]; rfl
            | deny =>
                rw [(agree bit ace smallest named).2 kind] at least
                cases least
    · intro granted
      unfold allowedBy at granted
      rw [Option.any_eq_true] at granted
      rcases granted with ⟨ace, decided, allows⟩
      rcases decidingAce_withOwnerRights token held decided with same | ⟨named, smallest⟩
      · refine atMost ?_
        rw [allowedBy, same]
        exact allows
      · exact (agree bit ace smallest named).1 (of_decide_eq_true allows)
  · rw [if_neg held]
    exact ⟨atLeast, atMost⟩

/-- A bracketed owner meets the condition: the smallest token that holds the
owner shows it. -/
theorem covered_of_bracketed (uncertain : OwnerUncertain input owner)
    (bracketed : OwnershipBracketed input owner) : OwnerCovered input owner := by
  by_cases absent : input.fileSystemObject.nullDacl = true
  · exact Or.inl absent
  by_cases listed : owner ∈ input.denyOnlySids
  · exact Or.inr (Or.inl listed)
  have present : input.fileSystemObject.nullDacl = false := Bool.eq_false_iff.mpr absent
  have held : owner ∈ (smallestOwner uncertain).enabled := Finset.mem_insert_self _ _
  have result : ∀ bit, (smallestOwner uncertain).ownedRights owner input.fileSystemObject bit =
      (allowedBy (ownerToken input owner).withOwnerRights.matchesAce
          input.fileSystemObject.dacl bit ||
        (!ownerRightsAce input.fileSystemObject.dacl && ownerGrant.getLsbD bit)) := by
    intro bit
    unfold LogonToken.ownedRights
    rw [present, if_neg Bool.false_ne_true, if_pos held]
    rfl
  have inside := fun bit => bracketed (smallestOwner uncertain) bit
  simp only [result, range_of_unlisted uncertain present listed] at inside
  cases governed : ownerRightsAce input.fileSystemObject.dacl with
  | false =>
      refine Or.inr (Or.inr (Or.inl ⟨governed, ?_, ?_⟩))
      · refine (inside 17).2 ?_
        rw [governed, (ownerGrant_getLsbD 17).mpr (Or.inl rfl)]
        simp
      · refine (inside 18).2 ?_
        rw [governed, (ownerGrant_getLsbD 18).mpr (Or.inr rfl)]
        simp
  | true =>
      refine Or.inr (Or.inr (Or.inr ⟨governed, ?_⟩))
      intro bit ace decided _
      have both := inside bit
      rw [governed, Bool.not_true, Bool.false_and, Bool.or_false, allowedBy, decided,
        Option.any_some] at both
      constructor
      · intro kind
        exact both.2 (by rw [aceAllows, kind]; rfl)
      · intro kind
        refine Bool.eq_false_iff.mpr (fun least => ?_)
        have allows := both.1 least
        rw [aceAllows, kind] at allows
        cases allows

/-- The reported range contains the results with and without an uncertain owner
in the token exactly when the owner is covered. -/
theorem ownership_bracketed_iff (uncertain : OwnerUncertain input owner) :
    OwnershipBracketed input owner ↔ OwnerCovered input owner := by
  constructor
  · exact covered_of_bracketed uncertain
  · intro covered
    by_cases absent : input.fileSystemObject.nullDacl = true
    · exact bracketed_of_nullDacl uncertain absent
    have present : input.fileSystemObject.nullDacl = false := Bool.eq_false_iff.mpr absent
    by_cases listed : owner ∈ input.denyOnlySids
    · exact bracketed_of_filtered uncertain present listed
    rcases covered with
      undecided | filtered | ⟨ungoverned, readControl, writeDac⟩ | ⟨governed, agree⟩
    · exact absurd undecided absent
    · exact absurd filtered listed
    · exact bracketed_of_grantAllowed uncertain present listed ungoverned readControl writeDac
    · exact bracketed_of_entriesAgree uncertain present listed governed agree

end Owner

/-- Administrators own the object, and whether they are filtered out of the
token is not known. -/
def administratorsOwn : PermissionEvaluationInput where
  identity := { sid := ⟨"S-1-5-21-1-2-3-1000"⟩ }
  fileSystemObject := { path := "D:\\Data", ownerSid := some ⟨"S-1-5-32-544"⟩ }
  localGroupSids := [⟨"S-1-5-32-544"⟩]
  uacFilteredGroupSids := [⟨"S-1-5-32-544"⟩]

theorem ownership_bracketed_iff_administratorsOwn :
    OwnershipBracketed administratorsOwn ⟨"S-1-5-32-544"⟩ := by
  have uncertain : OwnerUncertain administratorsOwn ⟨"S-1-5-32-544"⟩ := by
    refine ⟨rfl, ?_, ?_, ?_⟩
    · decide
    · decide
    · decide
  exact (ownership_bracketed_iff uncertain).mpr (Or.inr (Or.inl (by decide)))

/-- A group that is reached only through a logon-dependent SID owns an object
without any entry. -/
def dependentGroupOwns : PermissionEvaluationInput where
  identity := { sid := ⟨"S-1-5-21-1-2-3-1000"⟩ }
  fileSystemObject := { path := "D:\\Data", ownerSid := some ⟨"S-1-5-21-1-2-3-2000"⟩ }
  logonDependentGroupSids := [⟨"S-1-5-21-1-2-3-2000"⟩]

/-- The result is shown as exactly No access, though a member of the owning
group holds READ_CONTROL. -/
theorem dependentGroupOwns_notBracketed :
    OwnerUncertain dependentGroupOwns ⟨"S-1-5-21-1-2-3-2000"⟩ ∧
      (evaluate dependentGroupOwns).ntfsRange = (0#32, 0#32) ∧
      ¬ OwnershipBracketed dependentGroupOwns ⟨"S-1-5-21-1-2-3-2000"⟩ := by
  have uncertain : OwnerUncertain dependentGroupOwns ⟨"S-1-5-21-1-2-3-2000"⟩ := by
    refine ⟨rfl, ?_, ?_, ?_⟩
    · decide
    · decide
    · decide
  have range : (evaluate dependentGroupOwns).ntfsRange = (0#32, 0#32) := by decide
  refine ⟨uncertain, range, fun bracketed => ?_⟩
  have held : (ownerToken dependentGroupOwns ⟨"S-1-5-21-1-2-3-2000"⟩).ownedRights
      ⟨"S-1-5-21-1-2-3-2000"⟩ dependentGroupOwns.fileSystemObject 17 = true := by decide
  have above := (bracketed (smallestOwner uncertain) 17).2 held
  rw [range] at above
  exact absurd above (by decide)

end PermissionEngine
end Stars
