import Stars.AdResolver.Trusted

namespace Stars
namespace AdResolver

/-!
# What the SID filtering reports

The filtering of a trust lets the SIDs of the trusted domain through, on a forest
trust also those of the enabled domains of the forest.  Every other SID of the
account, of its groups and of their histories is taken away and named.  A group
that is taken away takes its history along, whatever the historical SIDs belong
to; these are named nowhere.
-/

section Filter

variable (domainSid : String) (attributes : TrustAttributes) (forest : Option TrustedForest)

/-- A SID of the trusted domain or, on a forest trust, of one of its enabled
domains. -/
def OfTrustedDomains (sid : Sid) : Prop :=
  ∃ domain, accountDomainOf sid = some domain ∧
    (Text.eqIgnoreAsciiCase domain domainSid = true ∨
      attributes.forestTransitive = true ∧ ∃ trusted, forest = some trusted ∧
        ∃ listed ∈ trusted.domainSids, Text.eqIgnoreAsciiCase listed domain = true)

theorem passesFilter_iff (sid : Sid) :
    passesFilter domainSid attributes forest sid = true ↔
      OfTrustedDomains domainSid attributes forest sid := by
  rw [passesFilter, ofDomain, OfTrustedDomains, Bool.or_eq_true]
  cases accountDomainOf sid with
  | none => simp
  | some domain =>
      cases forest with
      | none => simp
      | some trusted =>
          cases attributes.forestTransitive <;> simp [Option.filter, TrustedForest.contains]

instance (sid : Sid) : Decidable (OfTrustedDomains domainSid attributes forest sid) :=
  decidable_of_iff _ (passesFilter_iff domainSid attributes forest sid)

variable (identity : Identity) (memberships : List GroupMembership)

/-- The name under which a removed historical SID of a group is shown. -/
def historyLabel (membership : GroupMembership) : String :=
  let owner := membership.groupName.getD membership.groupSid.value
  s!"sIDHistory of {owner}"

/-- A SID that the filter takes from a list of its own, with the name it is given:
a historical SID of the account, a group, or a historical SID of a group that
stays. -/
inductive Removed : Sid → Option String → Prop where
  | account {sid : Sid} (member : sid ∈ identity.sidHistory)
      (foreign : ¬OfTrustedDomains domainSid attributes forest sid) :
      Removed sid (some "sIDHistory of the account")
  | group {membership : GroupMembership} (member : membership ∈ memberships)
      (foreign : ¬OfTrustedDomains domainSid attributes forest membership.groupSid) :
      Removed membership.groupSid membership.groupName
  | groupHistory {membership : GroupMembership} {sid : Sid} (member : membership ∈ memberships)
      (stays : OfTrustedDomains domainSid attributes forest membership.groupSid)
      (listed : sid ∈ membership.groupSidHistory)
      (foreign : ¬OfTrustedDomains domainSid attributes forest sid) :
      Removed sid (some (historyLabel membership))

/-- A SID that is no longer where it was: a removed one, or a historical SID of a
group that was taken away. -/
inductive TakenAway : Sid → Prop where
  | removed {sid : Sid} {label : Option String}
      (removed : Removed domainSid attributes forest identity memberships sid label) : TakenAway sid
  | withGroup {membership : GroupMembership} {sid : Sid} (member : membership ∈ memberships)
      (leaves : ¬OfTrustedDomains domainSid attributes forest membership.groupSid)
      (listed : sid ∈ membership.groupSidHistory) : TakenAway sid

/-- A historical SID of a group that leaves belongs to none of the trusted domains
and is shown like a SID that is removed elsewhere. -/
def DroppedHistoriesNamed : Prop :=
  ∀ membership ∈ memberships, ¬OfTrustedDomains domainSid attributes forest membership.groupSid →
    ∀ sid ∈ membership.groupSidHistory, ¬OfTrustedDomains domainSid attributes forest sid ∧
      ∃ name removed label, Removed domainSid attributes forest identity memberships removed label ∧
        display removed label = display sid name

/-- The historical SIDs that were counted but not parsed. -/
def unparsed (count : Nat) (history : List Sid) : Nat := count - history.length

/-- A group that stays, with the historical SIDs that belong to the trusted
domains and an unchanged number of unparsed ones. -/
structure KeepsGroup (membership filtered : GroupMembership) : Prop where
  same : filtered = { membership with
    groupSidHistory := membership.groupSidHistory.filter
      (fun sid => OfTrustedDomains domainSid attributes forest sid)
    groupSidHistoryCount := filtered.groupSidHistoryCount }
  remainder : unparsed filtered.groupSidHistoryCount filtered.groupSidHistory =
    unparsed membership.groupSidHistoryCount membership.groupSidHistory

/-- The list for the SIDs that are taken away: the quarantine of a trust that is no
forest trust removes them for certain. -/
def reportList (outcome : SidFilterOutcome) : List String :=
  if attributes.sidFilteringEnabled && !attributes.forestTransitive then outcome.filtered
  else outcome.notModelled

def otherList (outcome : SidFilterOutcome) : List String :=
  if attributes.sidFilteringEnabled && !attributes.forestTransitive then outcome.notModelled
  else outcome.filtered

/-- The filtering as a reported partition of the SIDs of a token. -/
structure ReportedPartition (token : FilteredToken) : Prop where
  keeps_history : token.identity.sidHistory = identity.sidHistory.filter
    (fun sid => OfTrustedDomains domainSid attributes forest sid)
  keeps_groups : List.Forall₂ (KeepsGroup domainSid attributes forest)
    (memberships.filter (fun membership =>
      OfTrustedDomains domainSid attributes forest membership.groupSid)) token.memberships
  takes_foreign : ∀ sid, TakenAway domainSid attributes forest identity memberships sid →
    ¬OfTrustedDomains domainSid attributes forest sid
  names_taken : ∀ sid, TakenAway domainSid attributes forest identity memberships sid →
    ∃ name, display sid name ∈ reportList attributes token.outcome
  other_empty : otherList attributes token.outcome = []
  remainder : unparsed token.identity.sidHistoryCount token.identity.sidHistory =
    unparsed identity.sidHistoryCount identity.sidHistory
  once : applySidFiltering token.identity token.memberships domainSid attributes forest =
    { token with outcome := {} }

end Filter

section Filtered

variable {domainSid : String} {attributes : TrustAttributes} {forest : Option TrustedForest}
  {identity : Identity} {memberships : List GroupMembership}

theorem passesFilter_eq : passesFilter domainSid attributes forest =
    fun sid => decide (OfTrustedDomains domainSid attributes forest sid) := by
  funext sid
  rw [Bool.eq_iff_iff, passesFilter_iff, decide_eq_true_iff]

/-- What is removed from a list leaves its count as well. -/
theorem unparsed_filter (passes : Sid → Bool) (count : Nat) (history : List Sid) :
    unparsed (count - (history.length - (history.filter passes).length)) (history.filter passes) =
      unparsed count history := by
  have shorter := List.length_filter_le passes history
  rw [unparsed, unparsed]
  omega

/-- The report lists exactly the removed SIDs under their names. -/
theorem mem_removedSids_iff {shown : String} :
    shown ∈ removedSids (passesFilter domainSid attributes forest) identity memberships ↔
      ∃ sid label, Removed domainSid attributes forest identity memberships sid label ∧
        display sid label = shown := by
  rw [removedSids, passesFilter_eq, List.mem_append, List.mem_append, List.mem_map, List.mem_map,
    List.mem_flatMap]
  constructor
  · rintro ((⟨sid, listed, rfl⟩ | ⟨membership, listed, rfl⟩) | ⟨membership, listed, inside⟩)
    · rcases List.mem_filter.mp listed with ⟨member, foreign⟩
      exact ⟨sid, _, .account member (by simpa using foreign), rfl⟩
    · rcases List.mem_filter.mp listed with ⟨member, foreign⟩
      exact ⟨_, _, .group member (by simpa using foreign), rfl⟩
    · rcases List.mem_filter.mp listed with ⟨member, stays⟩
      rcases List.mem_map.mp inside with ⟨sid, historical, rfl⟩
      rcases List.mem_filter.mp historical with ⟨carried, foreign⟩
      exact ⟨sid, _, .groupHistory member (of_decide_eq_true stays) carried
        (by simpa using foreign), rfl⟩
  · rintro ⟨sid, label, removed, rfl⟩
    cases removed with
    | account member foreign =>
        exact Or.inl (Or.inl ⟨sid, List.mem_filter.mpr ⟨member, by simpa using foreign⟩, rfl⟩)
    | @group membership member foreign =>
        exact Or.inl (Or.inr ⟨membership,
          List.mem_filter.mpr ⟨member, by simpa using foreign⟩, rfl⟩)
    | @groupHistory membership _ member stays carried foreign =>
        refine Or.inr ⟨membership, List.mem_filter.mpr ⟨member, decide_eq_true stays⟩, ?_⟩
        exact List.mem_map.mpr ⟨sid, List.mem_filter.mpr ⟨carried, by simpa using foreign⟩, rfl⟩

theorem reportList_applySidFiltering :
    reportList attributes
        (applySidFiltering identity memberships domainSid attributes forest).outcome =
      removedSids (passesFilter domainSid attributes forest) identity memberships := by
  rw [applySidFiltering, reportList]
  dsimp only
  split <;> rfl

theorem otherList_applySidFiltering :
    otherList attributes
      (applySidFiltering identity memberships domainSid attributes forest).outcome = [] := by
  rw [applySidFiltering, otherList]
  dsimp only
  split <;> rfl

theorem keepsGroup_filter (membership : GroupMembership) :
    KeepsGroup domainSid attributes forest membership
      (filterGroupHistory (passesFilter domainSid attributes forest) membership) := by
  constructor
  · rw [filterGroupHistory, passesFilter_eq]
  · exact unparsed_filter _ _ _

/-- A filtered group passes the filter unchanged. -/
theorem filterGroupHistory_again (passes : Sid → Bool) (membership : GroupMembership) :
    filterGroupHistory passes (filterGroupHistory passes membership) =
      filterGroupHistory passes membership := by
  simp [filterGroupHistory]

theorem filterIdentityHistory_again (passes : Sid → Bool) (identity : Identity) :
    filterIdentityHistory passes (filterIdentityHistory passes identity) =
      filterIdentityHistory passes identity := by
  simp [filterIdentityHistory]

/-- A group that stayed, with what is left of its history. -/
theorem passes_of_kept {passes : Sid → Bool} {membership : GroupMembership}
    (kept : membership ∈ (memberships.filter (fun membership => passes membership.groupSid)).map
      (filterGroupHistory passes)) :
    passes membership.groupSid = true ∧
      ∀ sid ∈ membership.groupSidHistory, passes sid = true := by
  rcases List.mem_map.mp kept with ⟨original, inside, rfl⟩
  exact ⟨(List.mem_filter.mp inside).2, fun sid listed => (List.mem_filter.mp listed).2⟩

/-- The groups that stayed stay again. -/
theorem filterMemberships_again (passes : Sid → Bool) :
    (((memberships.filter (fun membership => passes membership.groupSid)).map
        (filterGroupHistory passes)).filter (fun membership => passes membership.groupSid)).map
          (filterGroupHistory passes) =
      (memberships.filter (fun membership => passes membership.groupSid)).map
        (filterGroupHistory passes) := by
  rw [List.filter_eq_self.mpr (fun membership kept => (passes_of_kept kept).1), List.map_map]
  apply List.map_congr_left
  exact fun membership _ => filterGroupHistory_again passes membership

/-- Nothing is left to remove after the filtering. -/
theorem removedSids_again (passes : Sid → Bool) :
    removedSids passes (filterIdentityHistory passes identity)
      ((memberships.filter (fun membership => passes membership.groupSid)).map
        (filterGroupHistory passes)) = [] := by
  rw [removedSids, List.append_eq_nil_iff, List.append_eq_nil_iff, List.map_eq_nil_iff,
    List.map_eq_nil_iff, List.flatMap_eq_nil_iff, List.filter_eq_nil_iff, List.filter_eq_nil_iff]
  refine ⟨⟨?_, ?_⟩, ?_⟩
  · intro sid listed
    rw [filterIdentityHistory] at listed
    simp [(List.mem_filter.mp listed).2]
  · intro membership kept
    simp [(passes_of_kept kept).1]
  · intro membership kept
    rw [List.map_eq_nil_iff, List.filter_eq_nil_iff]
    intro sid listed
    simp [(passes_of_kept (List.mem_filter.mp kept).1).2 sid listed]

theorem applySidFiltering_again :
    applySidFiltering (applySidFiltering identity memberships domainSid attributes forest).identity
        (applySidFiltering identity memberships domainSid attributes forest).memberships
        domainSid attributes forest =
      { applySidFiltering identity memberships domainSid attributes forest with
        outcome := {} } := by
  rw [applySidFiltering]
  dsimp only [applySidFiltering]
  rw [removedSids_again, filterMemberships_again, filterIdentityHistory_again, ite_self]

end Filtered

/-- The filtering is a reported partition exactly when the historical SIDs of the
groups that leave are foreign and named for another reason. -/
theorem reportedPartition_iff (domainSid : String) (attributes : TrustAttributes)
    (forest : Option TrustedForest) (identity : Identity) (memberships : List GroupMembership) :
    ReportedPartition domainSid attributes forest identity memberships
        (applySidFiltering identity memberships domainSid attributes forest) ↔
      DroppedHistoriesNamed domainSid attributes forest identity memberships := by
  constructor
  · intro spec membership member leaves sid listed
    have taken : TakenAway domainSid attributes forest identity memberships sid :=
      .withGroup member leaves listed
    rcases spec.names_taken sid taken with ⟨name, shown⟩
    rw [reportList_applySidFiltering, mem_removedSids_iff] at shown
    exact ⟨spec.takes_foreign sid taken, name, shown⟩
  · intro named
    constructor
    · rw [applySidFiltering, filterIdentityHistory, passesFilter_eq]
    · rw [applySidFiltering, passesFilter_eq, List.forall₂_map_right_iff, List.forall₂_same,
        ← passesFilter_eq]
      exact fun membership _ => keepsGroup_filter membership
    · intro sid taken
      cases taken with
      | removed removed => cases removed <;> assumption
      | withGroup member leaves listed => exact (named _ member leaves sid listed).1
    · intro sid taken
      rw [reportList_applySidFiltering]
      cases taken with
      | @removed _ label removed =>
          exact ⟨label, mem_removedSids_iff.mpr ⟨sid, label, removed, rfl⟩⟩
      | withGroup member leaves listed =>
          rcases (named _ member leaves sid listed).2 with ⟨name, shown⟩
          exact ⟨name, mem_removedSids_iff.mpr shown⟩
    · exact otherList_applySidFiltering
    · exact unparsed_filter _ _ _
    · exact applySidFiltering_again

/-! ## A migrated group of a third domain -/

/-- A group of a third domain that was migrated from the trusted one. -/
def migratedForeignGroup : GroupMembership where
  memberSid := ⟨"S-1-5-21-1-1-1-1105"⟩
  groupSid := ⟨"S-1-5-21-7-7-7-1200"⟩
  direct := false
  groupSidHistoryCount := 1
  groupSidHistory := [⟨"S-1-5-21-1-1-1-1300"⟩]

/-- The group leaves with its historical SID, which belongs to the trusted domain;
the report names the group alone. -/
theorem migratedForeignGroup_unreported :
    (applySidFiltering { sid := ⟨"S-1-5-21-1-1-1-1105"⟩ } [migratedForeignGroup] "S-1-5-21-1-1-1"
        ⟨0x4#32⟩ none).memberships = [] ∧
      (applySidFiltering { sid := ⟨"S-1-5-21-1-1-1-1105"⟩ } [migratedForeignGroup]
        "S-1-5-21-1-1-1" ⟨0x4#32⟩ none).outcome =
          { filtered := ["S-1-5-21-7-7-7-1200"] } ∧
      ¬ReportedPartition "S-1-5-21-1-1-1" ⟨0x4#32⟩ none { sid := ⟨"S-1-5-21-1-1-1-1105"⟩ }
        [migratedForeignGroup] (applySidFiltering { sid := ⟨"S-1-5-21-1-1-1-1105"⟩ }
          [migratedForeignGroup] "S-1-5-21-1-1-1" ⟨0x4#32⟩ none) := by
  refine ⟨by decide, by decide, ?_⟩
  intro spec
  have taken : TakenAway "S-1-5-21-1-1-1" ⟨0x4#32⟩ none { sid := ⟨"S-1-5-21-1-1-1-1105"⟩ }
      [migratedForeignGroup] ⟨"S-1-5-21-1-1-1-1300"⟩ :=
    .withGroup List.mem_cons_self (by decide) (by decide)
  exact spec.takes_foreign _ taken (by decide)

end AdResolver
end Stars
