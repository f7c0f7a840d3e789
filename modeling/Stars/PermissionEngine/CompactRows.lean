import Stars.PermissionEngine.Explanation
import Stars.PermissionEngine.Withdrawal

namespace Stars

open Collections PermissionEngine

/-!
# Compact rows

A compact row leaves out the memberships that cannot change the result.  What it
shows is what the full row shows, but which memberships it may leave out is
decided on the one entry that is kept for a group, while the token holds the
historical SIDs of every entry.  `losesNothing_iff` says when the row loses
nothing that matters.
-/

namespace ExplanationRequest

variable (request : ExplanationRequest)

def compact (fullListAt : String) : ExplanationRequest :=
  { request with membershipDetail := .namedOnly fullListAt }

def full : ExplanationRequest := { request with membershipDetail := .all }

/-- Everything that could name a group was read and evaluated. -/
structure Compactable : Prop where
  evaluated : request.fileSystemObject.unsupportedAces = []
  shareKnown : ShareKnown request.toPermissionEvaluationInput
  unchecked : request.selectiveAuthentication = none

/-- The membership gets no step of its own. -/
def skips (detail : MembershipDetail) (membership : GroupMembership) : Bool :=
  match detail with
  | .all => false
  | .namedOnly _ =>
      !request.isNamed membership && (request.isQuiet membership ||
        isCollapsibleMembershipStep (request.membershipStep membership))

end ExplanationRequest

section Listing

variable (request : ExplanationRequest) (detail : MembershipDetail)

theorem MembershipListing.add_eq (listing : MembershipListing) (membership : GroupMembership) :
    listing.add request detail membership =
      if request.skips detail membership then listing.skip membership
      else listing.push (request.membershipStep membership) := by
  cases detail with
  | all => rfl
  | namedOnly fullListAt =>
      rw [MembershipListing.add, ExplanationRequest.skips]
      dsimp only
      cases request.isNamed membership <;> cases request.isQuiet membership <;>
        cases isCollapsibleMembershipStep (request.membershipStep membership) <;> rfl

theorem mem_steps_push {listing : MembershipListing} {step text : String} :
    text ∈ (listing.push step).steps ↔ text ∈ listing.steps ∨ text = step := by
  rw [MembershipListing.push]
  split
  · rename_i listed
    refine ⟨Or.inl, ?_⟩
    rintro (before | rfl)
    · exact before
    · exact listed
  · rw [List.mem_append, List.mem_singleton]

/-- One membership adds its step, or is counted. -/
theorem add_spec (listing : MembershipListing) (membership : GroupMembership) :
    (∀ text, text ∈ (listing.add request detail membership).steps ↔ text ∈ listing.steps ∨
      (request.skips detail membership = false ∧ text = request.membershipStep membership)) ∧
    ∀ other, other ∈ (listing.add request detail membership).notListed ↔
      other ∈ listing.notListed ∨ (request.skips detail membership = true ∧ other = membership) := by
  rw [MembershipListing.add_eq]
  cases request.skips detail membership with
  | true => simp [MembershipListing.skip]
  | false =>
      refine ⟨fun text => ?_, fun other => ?_⟩
      · rw [if_neg Bool.false_ne_true, mem_steps_push]
        simp
      · rw [if_neg Bool.false_ne_true, MembershipListing.push]
        split <;> simp

/-- What a run over the memberships lists and counts. -/
theorem foldl_add_spec (memberships : List GroupMembership) :
    ∀ listing : MembershipListing,
      (∀ text, text ∈ (memberships.foldl (MembershipListing.add request detail) listing).steps ↔
        text ∈ listing.steps ∨ ∃ membership ∈ memberships,
          request.skips detail membership = false ∧ text = request.membershipStep membership) ∧
      ∀ other, other ∈ (memberships.foldl (MembershipListing.add request detail)
          listing).notListed ↔
        other ∈ listing.notListed ∨ (other ∈ memberships ∧ request.skips detail other = true) := by
  induction memberships with
  | nil => simp
  | cons membership rest known =>
      intro listing
      have step := add_spec request detail listing membership
      have tail := known (listing.add request detail membership)
      refine ⟨fun text => ?_, fun other => ?_⟩
      · rw [List.foldl_cons, tail.1, step.1, or_assoc, List.exists_mem_cons_iff]
      · rw [List.foldl_cons, tail.2, step.2, or_assoc, List.mem_cons, or_and_right]
        refine or_congr_right (or_congr_left ?_)
        constructor
        · rintro ⟨skipped, rfl⟩
          exact ⟨rfl, skipped⟩
        · rintro ⟨rfl, skipped⟩
          exact ⟨skipped, rfl⟩

variable {request} (toLowercase : String → String)

theorem mem_listing_steps {text : String} :
    text ∈ (request.membershipListing toLowercase).steps ↔
      ∃ membership ∈ request.mergedMemberships toLowercase,
        request.skips request.effectiveDetail membership = false ∧
          text = request.membershipStep membership := by
  rw [ExplanationRequest.membershipListing, (foldl_add_spec _ _ _ _).1,
    or_iff_right List.not_mem_nil]

theorem mem_notListed {membership : GroupMembership} :
    membership ∈ (request.membershipListing toLowercase).notListed ↔
      membership ∈ request.mergedMemberships toLowercase ∧
        request.skips request.effectiveDetail membership = true := by
  rw [ExplanationRequest.membershipListing, (foldl_add_spec _ _ _ _).2,
    or_iff_right List.not_mem_nil]

end Listing

section Warnings

variable (request : ExplanationRequest) {membership : GroupMembership}

open Text

theorem not_collapsible_of_contains {step marker : String}
    (listed : marker ∈ ["[decisive", "[deny-only", "[uncertain", "chain unknown"])
    (inside : containsText marker step = true) : isCollapsibleMembershipStep step = false := by
  rw [isCollapsibleMembershipStep, List.any_eq_true.mpr ⟨marker, listed, inside⟩, Bool.not_true,
    Bool.and_false]

theorem remark_contains_denyOnly (filtered : membership.groupSid ∈ request.denyOnlySids) :
    containsText "[deny-only" (request.membershipRemark membership) = true := by
  rw [ExplanationRequest.membershipRemark, if_pos filtered]
  refine containsText_append_left ?_ _
  split
  · exact containsText_append_right (containsText_append_right (by decide) _) _
  · exact containsText_append_right (containsText_append_right (by decide) _) _

theorem remark_contains_uncertain (enabled : membership.groupSid ∉ request.denyOnlySids)
    (uncertain : membership.groupSid ∈ request.logonDependentGroups) :
    containsText "[uncertain" (request.membershipRemark membership) = true := by
  rw [ExplanationRequest.membershipRemark, if_neg enabled, if_pos uncertain]
  exact containsText_append_left (by decide) _

theorem step_contains_chainUnknown (unknown : membership.chainUnknown = true) :
    containsText "chain unknown" (formatMembershipStep request.sidNames membership) = true := by
  rw [GroupMembership.chainUnknown, Option.any_eq_true] at unknown
  rcases unknown with ⟨path, found, incomplete⟩
  rw [formatMembershipStep, formatMembershipStepBase, found]
  dsimp only
  rw [if_pos incomplete]
  refine containsText_append_right (containsText_append_right ?_ _) _
  exact containsText_append_left (containsText_append_right (by decide) _) _

theorem remark_contains_decisive (decisive : membership.groupSid ∈ request.decisiveSids) :
    containsText "[decisive" (request.membershipRemark membership) = true := by
  rw [ExplanationRequest.membershipRemark, if_pos decisive]
  exact containsText_append_right (by decide) _

/-- A step that may be collapsed carries none of the markers. -/
theorem unmarked_of_collapsible {step marker : String}
    (collapsible : isCollapsibleMembershipStep step = true)
    (listed : marker ∈ ["[decisive", "[deny-only", "[uncertain", "chain unknown"]) :
    containsText marker step ≠ true := by
  intro inside
  rw [not_collapsible_of_contains listed inside] at collapsible
  cases collapsible

/-- The rule by text drops nothing that the rule before it keeps. -/
theorem isQuiet_of_collapsible
    (collapsible : isCollapsibleMembershipStep (request.membershipStep membership) = true) :
    request.isQuiet membership = true := by
  have enabled : membership.groupSid ∉ request.denyOnlySids := fun filtered =>
    unmarked_of_collapsible collapsible (by decide)
      (containsText_append_left (remark_contains_denyOnly request filtered) _)
  have certain : membership.groupSid ∉ request.logonDependentGroups := fun uncertain =>
    unmarked_of_collapsible collapsible (by decide)
      (containsText_append_left (remark_contains_uncertain request enabled uncertain) _)
  have known : membership.chainUnknown = false := by
    apply Bool.eq_false_iff.mpr
    intro unknown
    exact unmarked_of_collapsible collapsible (by decide)
      (containsText_append_right (step_contains_chainUnknown request unknown) _)
  rw [ExplanationRequest.isQuiet, decide_eq_true enabled, decide_eq_true certain, known]
  rfl

theorem not_decisive_of_collapsible
    (collapsible : isCollapsibleMembershipStep (request.membershipStep membership) = true) :
    membership.groupSid ∉ request.decisiveSids := fun decisive =>
  unmarked_of_collapsible collapsible (by decide)
    (containsText_append_left (remark_contains_decisive request decisive) _)

theorem skips_namedOnly_iff (fullListAt : String) :
    request.skips (.namedOnly fullListAt) membership = true ↔
      request.isNamed membership = false ∧ request.isQuiet membership = true := by
  rw [ExplanationRequest.skips, Bool.and_eq_true, Bool.not_eq_true', Bool.or_eq_true]
  refine and_congr_right (fun _ => or_iff_left_of_imp ?_)
  exact isQuiet_of_collapsible request

end Warnings

/-- A compact row shows the values, the outcomes and the groups of the full row, and
none of its steps is missing there.  A membership it counts is named by nothing,
whichever entry of the group carries the SID, and withdrawing the group leaves the
values as they are. -/
structure LosesNothing (toLowercase : String → String) (request : ExplanationRequest)
    (fullListAt : String) : Prop where
  result : (evaluateExplained toLowercase (request.compact fullListAt)).1 =
    (evaluateExplained toLowercase request.full).1
  aces : (buildExplanation toLowercase (request.compact fullListAt)).trace.aces =
    (buildExplanation toLowercase request.full).trace.aces
  groups : (buildExplanation toLowercase (request.compact fullListAt)).trace.groups =
    (buildExplanation toLowercase request.full).trace.groups
  steps : ∀ step ∈ (buildExplanation toLowercase (request.compact fullListAt)).memberships,
    step ∈ (buildExplanation toLowercase request.full).memberships
  unnamed : ∀ counted ∈ ((request.compact fullListAt).membershipListing toLowercase).notListed,
    ∀ membership ∈ request.groupMemberships, membership.groupSid = counted.groupSid →
      ∀ sid ∈ membership.tokenSids, sid ∉ request.namedSids
  withdrawable : ∀ counted ∈
    ((request.compact fullListAt).membershipListing toLowercase).notListed,
      SameValues (evaluate (request.withoutGroup counted.groupSid))
        (evaluate request.toPermissionEvaluationInput)

/-- Where an entry of a group carries a named historical SID, the kept entry of the
group has a step of its own. -/
def HistoriesKept (request : ExplanationRequest) : Prop :=
  ∀ membership ∈ request.groupMemberships,
    (∃ old ∈ membership.groupSidHistory, old ∈ request.namedSids) →
      ∀ kept ∈ bestMembershipPerGroup request.groupMemberships,
        kept.groupSid = membership.groupSid →
          request.isNamed kept = true ∨ request.isQuiet kept = false

/-- The groups without a step of their own decide no organization SID that matters. -/
def OrganizationsSettled (request : ExplanationRequest) : Prop :=
  ∀ kept ∈ bestMembershipPerGroup request.groupMemberships,
    request.isNamed kept = false → request.isQuiet kept = true →
      OrganizationSettled request.toPermissionEvaluationInput kept.groupSid

section Compact

variable {toLowercase : String → String} {request : ExplanationRequest} {fullListAt : String}

theorem effectiveDetail_full : request.full.effectiveDetail = .all := by
  have all : request.full.membershipDetail = .all := rfl
  rw [ExplanationRequest.effectiveDetail, all, ite_self]

/-- Being compactable is what the rule for the detail of a row checks. -/
theorem effectiveDetail_iff :
    (request.fileSystemObject.unsupportedAces.isEmpty && request.unsupportedShareAceCount = 0 &&
        (match request.outputShareStatus with
          | .readFailed _ => false
          | _ => true) &&
        request.selectiveAuthentication.isNone) = true ↔ request.Compactable := by
  have readable : (match request.outputShareStatus with
      | .readFailed _ => false
      | _ => true) = true ↔ ∀ reason, request.shareStatus ≠ .readFailed reason := by
    rw [PermissionEvaluationInput.outputShareStatus]
    cases request.shareStatus <;> simp
  rw [Bool.and_eq_true, Bool.and_eq_true, Bool.and_eq_true, readable, List.isEmpty_iff,
    decide_eq_true_iff, Option.isNone_iff_eq_none]
  constructor
  · rintro ⟨⟨⟨evaluated, counted⟩, read⟩, unchecked⟩
    exact ⟨evaluated, ⟨counted, read⟩, unchecked⟩
  · intro known
    exact ⟨⟨⟨known.evaluated, known.shareKnown.evaluated⟩, known.shareKnown.readable⟩,
      known.unchecked⟩

theorem effectiveDetail_compact (known : request.Compactable) :
    (request.compact fullListAt).effectiveDetail = .namedOnly fullListAt :=
  if_pos (effectiveDetail_iff.mpr known)

theorem effectiveDetail_compact_of_not (unknown : ¬ request.Compactable) :
    (request.compact fullListAt).effectiveDetail = .all :=
  if_neg (fun checked => unknown (effectiveDetail_iff.mp checked))

/-- The memberships a compact row counts are the quiet ones without a name. -/
theorem mem_notListed_compact (known : request.Compactable) {counted : GroupMembership} :
    counted ∈ ((request.compact fullListAt).membershipListing toLowercase).notListed ↔
      ∃ kept ∈ bestMembershipPerGroup request.groupMemberships,
        request.isNamed kept = false ∧ request.isQuiet kept = true ∧
          counted = mergeRoutes toLowercase request.groupMemberships kept := by
  have named : ∀ kept, request.isNamed (mergeRoutes toLowercase request.groupMemberships kept) =
      request.isNamed kept := by
    intro kept
    rw [ExplanationRequest.isNamed, ExplanationRequest.isNamed, GroupMembership.tokenSids,
      GroupMembership.tokenSids, groupSid_mergeRoutes, groupSidHistory_mergeRoutes]
  have quiet : ∀ kept, request.isQuiet (mergeRoutes toLowercase request.groupMemberships kept) =
      request.isQuiet kept := by
    intro kept
    rw [ExplanationRequest.isQuiet, ExplanationRequest.isQuiet, groupSid_mergeRoutes,
      chainUnknown_mergeRoutes]
  have skipped : ∀ membership, (request.compact fullListAt).skips (.namedOnly fullListAt)
      membership = true ↔ request.isNamed membership = false ∧ request.isQuiet membership = true :=
    fun _ => skips_namedOnly_iff (request.compact fullListAt) fullListAt
  have merged : (request.compact fullListAt).mergedMemberships toLowercase =
      (bestMembershipPerGroup request.groupMemberships).map
        (mergeRoutes toLowercase request.groupMemberships) := rfl
  rw [mem_notListed, effectiveDetail_compact known, skipped, merged, List.mem_map]
  constructor
  · rintro ⟨⟨kept, member, rfl⟩, unnamed, silent⟩
    rw [named] at unnamed
    rw [quiet] at silent
    exact ⟨kept, member, unnamed, silent, rfl⟩
  · rintro ⟨kept, member, unnamed, silent, rfl⟩
    exact ⟨⟨kept, member, rfl⟩, (named kept).trans unnamed, (quiet kept).trans silent⟩

theorem notListed_of_not_compactable (unknown : ¬ request.Compactable)
    (counted : GroupMembership) :
    counted ∉ ((request.compact fullListAt).membershipListing toLowercase).notListed := by
  rw [mem_notListed, effectiveDetail_compact_of_not unknown]
  exact fun both => Bool.false_ne_true both.2

theorem steps_compact_subset {step : String}
    (listed : step ∈ (buildExplanation toLowercase (request.compact fullListAt)).memberships) :
    step ∈ (buildExplanation toLowercase request.full).memberships := by
  rcases (mem_listing_steps toLowercase).mp listed with ⟨membership, member, _, text⟩
  refine (mem_listing_steps toLowercase).mpr ⟨membership, member, ?_, text⟩
  rw [effectiveDetail_full]
  rfl

theorem isNamed_eq_false_iff {membership : GroupMembership} :
    request.isNamed membership = false ↔
      ∀ sid ∈ membership.tokenSids, sid ∉ request.namedSids := by
  rw [ExplanationRequest.isNamed, List.any_eq_false]
  simp only [List.contains_iff_mem]

theorem namedSids_of_regards {sid : Sid}
    (regarded : request.toPermissionEvaluationInput.Regards sid) : sid ∈ request.namedSids := by
  rw [ExplanationRequest.namedSids, List.mem_append, List.mem_append]
  rcases regarded with ⟨ace, member, same⟩ | owner
  · exact Or.inl (Or.inl (List.mem_map.mpr ⟨ace, member, same⟩))
  · rw [owner]
    exact Or.inr (List.mem_singleton_self sid)

theorem unregarded_of_unnamed {group : Sid}
    (unnamed : ∀ membership ∈ request.groupMemberships, membership.groupSid = group →
      ∀ sid ∈ membership.tokenSids, sid ∉ request.namedSids) :
    request.toPermissionEvaluationInput.Unregarded group :=
  fun membership member same sid inside regarded =>
    unnamed membership member same sid inside (namedSids_of_regards regarded)

/-- With the histories kept, no entry of a counted group carries a named SID. -/
theorem unnamed_of_historiesKept (histories : HistoriesKept request) {kept : GroupMembership}
    (member : kept ∈ bestMembershipPerGroup request.groupMemberships)
    (unnamed : request.isNamed kept = false) (silent : request.isQuiet kept = true) :
    ∀ membership ∈ request.groupMemberships, membership.groupSid = kept.groupSid →
      ∀ sid ∈ membership.tokenSids, sid ∉ request.namedSids := by
  intro membership arrived same sid inside named
  rcases List.mem_cons.mp inside with own | old
  · rw [own, same] at named
    exact isNamed_eq_false_iff.mp unnamed kept.groupSid List.mem_cons_self named
  · rcases histories membership arrived ⟨sid, old, named⟩ kept member same.symm with known | loud
    · rw [unnamed] at known
      cases known
    · rw [silent] at loud
      cases loud

/-- A compact row loses nothing that matters exactly when the kept entries stand for
all entries of their groups, and no group is left out that decides an organization
SID an entry names. -/
theorem losesNothing_iff (toLowercase : String → String) (request : ExplanationRequest)
    (fullListAt : String) :
    LosesNothing toLowercase request fullListAt ↔
      (request.Compactable → HistoriesKept request ∧ OrganizationsSettled request) := by
  constructor
  · intro kept known
    have counted : ∀ best ∈ bestMembershipPerGroup request.groupMemberships,
        request.isNamed best = false → request.isQuiet best = true →
          mergeRoutes toLowercase request.groupMemberships best ∈
            ((request.compact fullListAt).membershipListing toLowercase).notListed :=
      fun best member unnamed silent =>
        (mem_notListed_compact known).mpr ⟨best, member, unnamed, silent, rfl⟩
    constructor
    · intro membership member carries best bestMem same
      by_contra neither
      rcases not_or.mp neither with ⟨unnamed, silent⟩
      rcases carries with ⟨old, inside, named⟩
      have skipped := counted best bestMem (Bool.eq_false_iff.mpr unnamed)
        (Bool.eq_true_of_not_eq_false silent)
      refine kept.unnamed _ skipped membership member ?_ old (List.mem_cons_of_mem _ inside) named
      rw [groupSid_mergeRoutes, same]
    · intro best bestMem unnamed silent
      have skipped := counted best bestMem unnamed silent
      have absent := kept.unnamed _ skipped
      have values := kept.withdrawable _ skipped
      rw [groupSid_mergeRoutes] at absent values
      exact (sameValues_withoutGroup_iff (unregarded_of_unnamed absent) known.unchecked
        known.shareKnown).mp values
  · intro condition
    refine ⟨rfl, rfl, rfl, fun step listed => steps_compact_subset listed, ?_, ?_⟩
    · intro counted member
      by_cases known : request.Compactable
      · rcases (mem_notListed_compact known).mp member with ⟨best, bestMem, unnamed, silent, rfl⟩
        rw [groupSid_mergeRoutes]
        exact unnamed_of_historiesKept (condition known).1 bestMem unnamed silent
      · exact absurd member (notListed_of_not_compactable known counted)
    · intro counted member
      by_cases known : request.Compactable
      · rcases (mem_notListed_compact known).mp member with ⟨best, bestMem, unnamed, silent, rfl⟩
        rw [groupSid_mergeRoutes]
        have absent := unnamed_of_historiesKept (condition known).1 bestMem unnamed silent
        exact (sameValues_withoutGroup_iff (unregarded_of_unnamed absent) known.unchecked
          known.shareKnown).mpr ((condition known).2 best bestMem unnamed silent)
      · exact absurd member (notListed_of_not_compactable known counted)

/-! ## A group with two entries -/

/-- A migrated group as the directory returns it. -/
def migratedFromDirectory : GroupMembership where
  memberSid := ⟨"S-1-5-21-1-2-3-1105"⟩
  groupSid := ⟨"S-1-5-21-1-2-3-1200"⟩
  direct := false
  groupSidHistoryCount := 1
  groupSidHistory := [⟨"S-1-5-21-9-9-9-1200"⟩]

/-- The same group among the local groups of the server. -/
def migratedOnServer : GroupMembership where
  memberSid := ⟨"S-1-5-21-1-2-3-1105"⟩
  groupSid := ⟨"S-1-5-21-1-2-3-1200"⟩
  direct := true

/-- An entry of the object names the historical SID of the group. -/
def migratedTwice : ExplanationRequest where
  identity := { sid := ⟨"S-1-5-21-1-2-3-1105"⟩ }
  groupMemberships := [migratedFromDirectory, migratedOnServer]
  fileSystemObject :=
    { path := "D:\\Data"
      dacl := [{ kind := .allow, sid := ⟨"S-1-5-21-9-9-9-1200"⟩, mask := 0x1#32 }] }

theorem migratedTwice_loses : ¬ LosesNothing Text.toAsciiLowercase migratedTwice "D:\\" := by
  intro kept
  have counted : migratedOnServer ∈ ((migratedTwice.compact "D:\\").membershipListing
      Text.toAsciiLowercase).notListed := by
    decide
  exact kept.unnamed migratedOnServer counted migratedFromDirectory (by decide) rfl
    ⟨"S-1-5-21-9-9-9-1200"⟩ (by decide) (by decide)

/-- The only group decides that the other organization SID is absent, which an entry
of the object names. -/
def organizationDecided : ExplanationRequest where
  identity := { sid := ⟨"S-1-5-21-1-2-3-1105"⟩ }
  groupMemberships :=
    [{ memberSid := ⟨"S-1-5-21-1-2-3-1105"⟩, groupSid := sidThisOrganization, direct := true }]
  fileSystemObject :=
    { path := "D:\\Data", dacl := [{ kind := .allow, sid := sidOtherOrganization, mask := 0x1#32 }] }

example :
    (evaluate organizationDecided.toPermissionEvaluationInput).ntfsRange = (0#32, 0#32) ∧
      (evaluate (organizationDecided.withoutGroup sidThisOrganization)).ntfsRange =
        (0#32, 1#32) := by
  decide

end Compact

end Stars
