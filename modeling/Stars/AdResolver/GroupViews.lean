import Stars.AdResolver.Members

namespace Stars
namespace AdResolver

open Collections

/-!
# Both views of a membership

The groups of an account are resolved from the account, and the members of a group from the
group.  In neither direction is the primary group part of `memberOf`.  From the account, its SID is
put together of the domain of the account and of the `primaryGroupID`.  From the group, the
accounts are searched by the RID, and those of other domains are dropped.  Both take SIDs apart as
texts.

`views_agree` says that a resolution without a gap and a member report without a mark never
contradict each other.
-/

/-- The number of the primary group of an account. -/
def primaryGroupId (entry : RawEntry) : Option Nat :=
  (entry.firstAttr "primaryGroupID").bind
    (fun rawId => Text.parseUnsigned (2 ^ 32) (Text.trim rawId.toList))

/-- The objects of a directory, with all values of their attributes. -/
structure ObjectDirectory where
  objects : List RawEntry
  keys_unique : ∀ left ∈ objects, ∀ right ∈ objects, left.key = right.key → left = right
  sids_unique : ∀ left ∈ objects, ∀ right ∈ objects, ∀ sid,
    extractSidFromEntry left = some sid → extractSidFromEntry right = some sid → left = right

/-- A returned entry stands for an object.  It may hold the first range of its `memberOf`
only, and is the object when it is completed. -/
structure Shows (searches : GroupSearches) (returned object : RawEntry) : Prop where
  sid : extractSidFromEntry returned = extractSidFromEntry object
  primaryGroup : primaryGroupId returned = primaryGroupId object
  completed : ∀ place whole, completeEntry searches place returned = .ok whole → whole = object

/-- Every search that answers, answers from the directory. -/
structure ReadsDirectory (directory : ObjectDirectory) (up : GroupSearches)
    (down : MemberSearches) : Prop where
  bySid : ∀ sid returned, up.searchBySid sid = .ok (some returned) →
    ∃ object ∈ directory.objects, Shows up returned object ∧
      ∀ other ∈ directory.objects, extractSidFromEntry other = some sid → other = object
  transitive : ∀ dn answer, up.searchTransitiveGroups dn = .ok answer → ∀ returned ∈ answer,
    ∃ object ∈ directory.objects, Shows up returned object
  group : ∀ sid returned, down.searchBySid sid = .ok (some returned) →
    ∀ object ∈ directory.objects, extractSidFromEntry object = some sid →
      returned.key = object.key
  backlink : ∀ dn answer, down.searchMembersByBacklink dn = .ok answer → ∀ sid,
    (∃ returned ∈ answer, extractSidFromEntry returned = some sid) ↔
      ∃ object ∈ directory.objects, extractSidFromEntry object = some sid ∧
        Text.toAsciiLowercase dn ∈ sortedMemberOf object
  byPrimaryGroup : ∀ rid answer, down.searchByPrimaryGroup rid = .ok answer → ∀ sid,
    (∃ returned ∈ answer, extractSidFromEntry returned = some sid) ↔
      ∃ object ∈ directory.objects, extractSidFromEntry object = some sid ∧
        primaryGroupId object = some rid

section Cut

variable {sid : Sid} {domain : String} {rid : Nat} {entry : RawEntry}

/-- The RID is what stands behind the domain part. -/
theorem ridFromSid_of_cut {before after : List Char}
    (cut : Text.rsplitOnce '-' sid.value.toList = some (before, after)) :
    ridFromSid sid = Text.parseUnsigned (2 ^ 32) after := by
  rcases Text.rsplitOnce_eq_some cut with ⟨whole, absent⟩
  rw [ridFromSid, whole, Text.split_append absent, List.getLastD_concat]

theorem sidDomainPrefix_eq_some_iff : sidDomainPrefix sid = some domain ↔
    ∃ after, Text.rsplitOnce '-' sid.value.toList = some (domain.toList, after) := by
  rw [sidDomainPrefix, Option.map_eq_some_iff]
  constructor
  · intro known
    rcases known with ⟨⟨before, after⟩, cut, rfl⟩
    rw [String.toList_ofList]
    exact ⟨after, cut⟩
  · intro known
    rcases known with ⟨after, cut⟩
    exact ⟨_, cut, String.ofList_toList⟩

/-- The domain of an account is the part before its RID. -/
theorem sidDomainPrefix_of_accountDomain (known : accountDomainOf sid = some domain) :
    sidDomainPrefix sid = some domain := by
  rw [sidDomainPrefix_eq_some_iff]
  rw [accountDomainOf] at known
  rcases Option.ite_none_right_eq_some.mp known with ⟨shaped, same⟩
  have count := of_decide_eq_true (Bool.and_eq_true_iff.mp shaped).1
  cases cut : Text.rsplitOnce '-' sid.value.toList with
  | none =>
      -- A text without a hyphen is one piece.
      have single : Text.split '-' sid.value.toList = [sid.value.toList] :=
        List.splitOn_eq_singleton (Text.rsplitOnce_eq_none_iff.mp cut)
      rw [single] at count
      cases count
  | some parts =>
      rcases parts with ⟨before, after⟩
      rcases Text.rsplitOnce_eq_some cut with ⟨whole, absent⟩
      rw [whole, Text.split_append absent] at same count
      rw [List.length_append, List.length_singleton, Nat.succ_inj] at count
      rw [List.take_left' count, Text.join_split rfl, Option.some.injEq] at same
      rw [← same, String.toList_ofList]
      exact ⟨after, rfl⟩

theorem toList_shown (domain : String) (rid : Nat) :
    (s!"{domain}-{rid}").toList = domain.toList ++ '-' :: Nat.toDigits 10 rid := by
  have digits : (toString rid).toList = Nat.toDigits 10 rid := Nat.toList_repr
  have hyphen : (toString "-").toList = ['-'] := rfl
  have shown : toString domain = domain := rfl
  rw [String.toList_append, String.toList_append, digits, hyphen, shown, List.append_assoc]
  rfl

/-- A SID that is put together of a domain and a number is taken apart into them. -/
theorem cut_shown (domain : String) (rid : Nat) :
    Text.rsplitOnce '-' (s!"{domain}-{rid}").toList =
      some (domain.toList, Nat.toDigits 10 rid) := by
  rw [toList_shown]
  exact Text.rsplitOnce_append (@Text.notMem_toDigits '-' rfl rid) _

/-- The last component of a SID that was read is written without redundant digits. -/
theorem exists_cut_of_read (read : extractSidFromEntry entry = some sid) :
    ∃ before number, Text.rsplitOnce '-' sid.value.toList =
      some (before, Nat.toDigits 10 number) := by
  rcases Option.bind_eq_some_iff.mp read with ⟨bytes, _, decoded⟩
  cases made : bytesToSidStr bytes with
  | error reason =>
      rw [made] at decoded
      cases decoded
  | ok text =>
      rw [made] at decoded
      cases decoded
      rcases exists_of_bytesToSidStr made with ⟨binary, _, _, rfl⟩
      rcases List.eq_nil_or_concat (binary.revision.toNat :: binary.authority ::
        binary.subAuthorities) with empty | ⟨front, last, numbers⟩
      · cases empty
      · refine ⟨['S'] ++ Text.behind '-' (front.map (Nat.toDigits 10)), last, ?_⟩
        rw [binary.toList_text, numbers, List.concat_eq_append, List.map_append, Text.behind,
          List.flatMap_append, ← List.append_assoc, List.map_singleton, List.flatMap_singleton]
        exact Text.rsplitOnce_append (@Text.notMem_toDigits '-' rfl last) _

/-- A SID that was read is its domain part and its RID. -/
theorem eq_of_parts (read : extractSidFromEntry entry = some sid)
    (before : sidDomainPrefix sid = some domain) (number : ridFromSid sid = some rid) :
    sid = ⟨s!"{domain}-{rid}"⟩ := by
  rcases exists_cut_of_read read with ⟨front, last, cut⟩
  rcases sidDomainPrefix_eq_some_iff.mp before with ⟨after, other⟩
  cases cut.symm.trans other
  rw [ridFromSid_of_cut cut] at number
  have wide := Text.parseUnsigned_mono (Nat.le_max_left (2 ^ 32) (last + 1)) number
  have fits : last < max (2 ^ 32) (last + 1) :=
    Nat.lt_of_lt_of_le (Nat.lt_succ_self last) (Nat.le_max_right _ _)
  have same : last = rid := Option.some.inj ((Text.parseUnsigned_toDigits fits).symm.trans wide)
  have text : sid.value = s!"{domain}-{rid}" := by
    rw [← String.toList_inj, toList_shown, ← same]
    exact (Text.rsplitOnce_eq_some cut).1
  rw [← text]

end Cut

section Searches

variable {searches : GroupSearches} {entry : RawEntry}

theorem exists_of_primaryFound {sid : Sid} {found : RawEntry}
    (lookup : resolvePrimaryGroup searches entry = .found sid found) :
    ∃ rid account domain, primaryGroupId entry = some rid ∧
      extractSidFromEntry entry = some account ∧ accountDomainOf account = some domain ∧
        sid = ⟨s!"{domain}-{rid}"⟩ ∧ searches.searchBySid sid = .ok (some found) := by
  unfold resolvePrimaryGroup at lookup
  dsimp only at lookup
  split at lookup
  · split at lookup
    · cases lookup
    · cases lookup
  · next rawId read =>
      split at lookup
      · cases lookup
      · next rid numbered =>
          split at lookup
          · cases lookup
          · next domain known =>
              rcases Option.bind_eq_some_iff.mp known with ⟨account, own, before⟩
              split at lookup
              · next answered =>
                  cases lookup
                  refine ⟨rid, account, domain, ?_, own, before, rfl, answered⟩
                  rw [primaryGroupId, read]
                  exact numbered
              · cases lookup
              · cases lookup

/-- A number that is read leads to a group or to a reason. -/
theorem found_of_primaryGroupId {rid : Nat} (numbered : primaryGroupId entry = some rid)
    (certain : ∀ reason, resolvePrimaryGroup searches entry ≠ .missing reason) :
    ∃ sid found, resolvePrimaryGroup searches entry = .found sid found := by
  cases lookup : resolvePrimaryGroup searches entry with
  | found sid found => exact ⟨sid, found, rfl⟩
  | missing reason => exact absurd lookup (certain reason)
  | notApplicable =>
      rcases Option.bind_eq_some_iff.mp numbered with ⟨rawId, read, parsed⟩
      unfold resolvePrimaryGroup at lookup
      dsimp only at lookup
      rw [read] at lookup
      dsimp only at lookup
      rw [parsed] at lookup
      dsimp only at lookup
      split at lookup
      · cases lookup
      · split at lookup
        · cases lookup
        · cases lookup
        · cases lookup

theorem returned_of_completeEntries {place : Nat} {returned wholes : List RawEntry}
    (completed : completeEntries searches place returned = .ok wholes) :
    ∀ whole ∈ wholes, ∃ first ∈ returned, ∃ number,
      completeEntry searches number first = .ok whole := by
  induction returned generalizing place wholes with
  | nil =>
      cases completed
      exact fun whole inside => absurd inside List.not_mem_nil
  | cons first rest known =>
      rcases bind_eq_ok_iff.mp completed with ⟨head, made, further⟩
      rcases bind_eq_ok_iff.mp further with ⟨others, later, same⟩
      cases same
      intro whole inside
      rcases List.mem_cons.mp inside with here | there
      · rw [here]
        exact ⟨first, List.mem_cons_self, place, made⟩
      · rcases known later whole there with ⟨returned, listed, number, completed⟩
        exact ⟨returned, List.mem_cons_of_mem _ listed, number, completed⟩

/-- Everything the assembly starts from was returned by a search and completed. -/
structure SearchedFrom (searches : GroupSearches) (entry : RawEntry) (searched : SearchedGroups) :
    Prop where
  principal : ∃ place, completeEntry searches place entry = .ok searched.principal
  groups : ∀ group ∈ searched.transitiveGroups ++ searched.pgParents, ∃ dn answer,
    searches.searchTransitiveGroups dn = .ok answer ∧ ∃ returned ∈ answer, ∃ place,
      completeEntry searches place returned = .ok group
  primary : ∀ sid whole, searched.primary = some (sid, whole) → ∃ found place,
    resolvePrimaryGroup searches entry = .found sid found ∧
      completeEntry searches place found = .ok whole
  found : ∀ sid found, resolvePrimaryGroup searches entry = .found sid found →
    ∃ whole, searched.primary = some (sid, whole)

theorem searchPrimary_spec {primary : Option (Sid × RawEntry)} {parents : List RawEntry}
    {gaps : List String} (answered : searchPrimary searches entry = .ok (primary, parents, gaps)) :
    (∀ sid found, primary = some (sid, found) ↔
      resolvePrimaryGroup searches entry = .found sid found) ∧
        (parents = [] ∨ ∃ dn, searches.searchTransitiveGroups dn = .ok parents) := by
  rw [searchPrimary] at answered
  split at answered
  · next sid found lookup =>
      cases looked : searches.searchTransitiveGroups found.dn with
      | error reason =>
          rw [looked] at answered
          cases answered
      | ok groups =>
          rw [looked] at answered
          cases answered
          refine ⟨fun other whole => ?_, .inr ⟨found.dn, looked⟩⟩
          rw [lookup, Option.some.injEq, Prod.mk.injEq, PrimaryGroupLookup.found.injEq]
  · next lookup =>
      cases answered
      refine ⟨fun other whole => iff_of_false (Option.some_ne_none _).symm ?_, .inl rfl⟩
      rw [lookup]
      exact fun impossible => by cases impossible
  · next reason lookup =>
      cases answered
      refine ⟨fun other whole => iff_of_false (Option.some_ne_none _).symm ?_, .inl rfl⟩
      rw [lookup]
      exact fun impossible => by cases impossible

theorem searchedFrom_of_searchGroups {searched : SearchedGroups}
    (answered : searchGroups searches entry = .ok searched) :
    SearchedFrom searches entry searched := by
  rcases bind_eq_ok_iff.mp answered with ⟨groups, asked, answered⟩
  rcases bind_eq_ok_iff.mp answered with ⟨⟨primary, parents, gaps⟩, looked, answered⟩
  rcases bind_eq_ok_iff.mp answered with ⟨principal, own, answered⟩
  rcases bind_eq_ok_iff.mp answered with ⟨wholes, groupsDone, answered⟩
  rcases bind_eq_ok_iff.mp answered with ⟨wholeParents, parentsDone, answered⟩
  rcases searchPrimary_spec looked with ⟨same, behind⟩
  have returned : ∀ group ∈ wholes ++ wholeParents, ∃ dn answer,
      searches.searchTransitiveGroups dn = .ok answer ∧ ∃ returned ∈ answer, ∃ place,
        completeEntry searches place returned = .ok group := by
    intro group inside
    rcases List.mem_append.mp inside with direct | parent
    · exact ⟨entry.dn, groups, asked, returned_of_completeEntries groupsDone group direct⟩
    · rcases returned_of_completeEntries parentsDone group parent with ⟨first, listed, number⟩
      rcases behind with empty | ⟨dn, asked⟩
      · rw [empty] at listed
        cases listed
      · exact ⟨dn, parents, asked, first, listed, number⟩
  cases primary with
  | none =>
      cases answered
      refine ⟨⟨0, own⟩, returned, ?_, ?_⟩
      · intro sid whole impossible
        cases impossible
      · intro sid found lookup
        cases (same sid found).mpr lookup
  | some first =>
      rcases first with ⟨groupSid, found⟩
      rcases bind_eq_ok_iff.mp answered with ⟨completed, done, answered⟩
      cases answered
      refine ⟨⟨0, own⟩, returned, ?_, ?_⟩
      · intro sid whole known
        cases known
        exact ⟨found, _, (same groupSid found).mp rfl, done⟩
      · intro sid other lookup
        cases (same sid other).mpr lookup
        exact ⟨completed, rfl⟩

end Searches

/-! ## The groups that are counted -/

namespace SearchedGroups

variable {searched : SearchedGroups} {sid : Sid}

/-- A group of the closure is a returned entry under its key. -/
theorem entry_of_mem_closure {dn : String} {group : ClosureGroup}
    (inside : (dn, group) ∈ searched.closure sid) :
    (∃ returned ∈ searched.returned, returned.1 = group.entry) ∧
      extractSidFromEntry group.entry = some group.sid ∧ dn = group.entry.key ∧
        (groupIsSecurity group.entry ≠ some false → group.security ≠ some false) := by
  rcases collect_spec sid searched.returned [] [] List.nodup_nil with
    ⟨fresh, lost, ran, collected⟩
  rw [closure, collectClosure, ran, List.nil_append, List.mem_insertionSort] at inside
  rcases collected.stored dn group inside with ⟨returned, listed, read, _, key, shape⟩
  have entry : group.entry = returned.1 := by
    rw [shape]
    rfl
  have typed : group.security =
      if returned.2 then some true else groupIsSecurity returned.1 := by
    rw [shape]
    rfl
  rw [entry]
  refine ⟨⟨returned, listed, rfl⟩, read, key, ?_⟩
  intro security
  rw [typed]
  split
  · exact fun impossible => by cases impossible
  · exact security

/-- A direct group is counted unless it is a distribution group. -/
theorem mem_kept_of_seed {dn : String} {group : ClosureGroup}
    (inside : (dn, group) ∈ searched.closure sid) (seed : dn ∈ searched.seeds)
    (security : group.security ≠ some false) : (dn, group) ∈ searched.kept sid := by
  have candidate : (dn, group) ∈ securityCandidates (searched.closure sid) :=
    List.mem_filter.mpr ⟨inside, decide_eq_true security⟩
  have contained : (securityCandidates (searched.closure sid)).containsKey dn = true :=
    (lookup_isSome_iff_mem _).mpr (List.mem_map_of_mem candidate)
  have reached : (RouteTable.build (securityCandidates (searched.closure sid))
      searched.seeds).reached dn = true :=
    (RouteTable.reached_build_iff _ _ dn).mpr
      (.seed (List.mem_filter.mpr ⟨seed, contained⟩))
  refine List.mem_filter.mpr ⟨candidate, ?_⟩
  rw [isExcluded, reached, beq_eq_false_iff_ne.mpr security]
  rfl

/-- The direct memberships among a first part and those of counted groups. -/
theorem exists_direct_append {principal : RawEntry} {kept : Closure} {routes : RouteTable}
    {front : List GroupMembership} {listed : Closure} {counts : String × ClosureGroup → Bool}
    {groupSid : Sid} (arranged : listed.Perm (kept.filter counts)) :
    (∃ membership ∈ front ++ listed.map (closureMembership sid principal kept routes),
        membership.groupSid = groupSid ∧ membership.direct = true) ↔
      (∃ membership ∈ front, membership.groupSid = groupSid ∧ membership.direct = true) ∨
        ∃ group ∈ kept, counts group = true ∧ group.2.sid = groupSid ∧
          group.1 ∈ sortedMemberOf principal := by
  constructor
  · intro known
    rcases known with ⟨membership, inside, same, direct⟩
    rcases List.mem_append.mp inside with first | later
    · exact .inl ⟨membership, first, same, direct⟩
    · rcases List.mem_map.mp later with ⟨group, place, rfl⟩
      rcases List.mem_filter.mp (arranged.mem_iff.mp place) with ⟨counted, apart⟩
      exact .inr ⟨group, counted, apart, same, List.contains_iff_mem.mp direct⟩
  · intro known
    rcases known with ⟨membership, first, known⟩ | ⟨group, counted, apart, same, direct⟩
    · exact ⟨membership, List.mem_append_left _ first, known⟩
    · have place := arranged.mem_iff.mpr (List.mem_filter.mpr ⟨counted, apart⟩)
      exact ⟨_, List.mem_append_right _ (List.mem_map_of_mem place), same,
        List.contains_iff_mem.mpr direct⟩

/-- The direct memberships are the primary group and the counted groups of the `memberOf`. -/
theorem exists_direct_iff {toLowercase : String → String} {groupSid : Sid} :
    (∃ membership ∈ (assembleSearched toLowercase sid searched).memberships,
        membership.groupSid = groupSid ∧ membership.direct = true) ↔
      ((∃ whole, searched.primary = some (groupSid, whole)) ∧ groupSid ≠ sid) ∨
        ((∀ whole, searched.primary ≠ some (groupSid, whole)) ∧
          ∃ group ∈ searched.kept sid, group.2.sid = groupSid ∧
            group.1 ∈ sortedMemberOf searched.principal) := by
  rcases searched with ⟨principal, primary, transitiveGroups, pgParents, gaps⟩
  cases primary with
  | none =>
      refine (exists_direct_append (List.perm_insertionSort _ _)).trans ?_
      constructor
      · intro known
        rcases known with ⟨_, impossible, _⟩ | ⟨group, counted, _, same, direct⟩
        · cases impossible
        · exact .inr ⟨fun _ => (Option.some_ne_none _).symm, group, counted, same, direct⟩
      · intro known
        rcases known with ⟨⟨_, impossible⟩, _⟩ | ⟨_, group, counted, same, direct⟩
        · cases impossible
        · exact .inr ⟨group, counted, rfl, same, direct⟩
  | some first =>
      rcases first with ⟨primarySid, found⟩
      refine (exists_direct_append (List.perm_insertionSort _ _)).trans (or_congr ?_ ?_)
      · dsimp only [Option.map_some]
        by_cases self : primarySid ≠ sid
        · rw [if_pos self]
          constructor
          · intro known
            rcases known with ⟨membership, inside, same, _⟩
            rw [List.mem_singleton.mp inside] at same
            cases same
            exact ⟨⟨found, rfl⟩, self⟩
          · intro known
            rcases known with ⟨⟨whole, known⟩, _⟩
            cases known
            exact ⟨_, List.mem_singleton_self _, rfl, rfl⟩
        · rw [if_neg self]
          refine iff_of_false ?_ ?_
          · intro known
            rcases known with ⟨_, impossible, _⟩
            cases impossible
          · intro known
            rcases known with ⟨⟨_, known⟩, other⟩
            cases known
            exact self other
      · constructor
        · intro known
          rcases known with ⟨group, counted, apart, same, direct⟩
          refine ⟨fun whole known => ?_, group, counted, same, direct⟩
          cases known
          exact of_decide_eq_true apart (congrArg some same)
        · intro known
          rcases known with ⟨apart, group, counted, same, direct⟩
          refine ⟨group, counted, decide_eq_true ?_, same, direct⟩
          intro equal
          apply apart found
          rw [← same, Option.some.inj equal]

end SearchedGroups

/-! ## Both views -/

section Views

variable {directory : ObjectDirectory} {up : GroupSearches} {down : MemberSearches}
  {entry account groupObject groupEntry : RawEntry} {searched : SearchedGroups}
  {sid groupSid : Sid} {rid : Nat}

/-- What was returned for an account are objects. -/
theorem ReadsDirectory.objects_of_searched (reads : ReadsDirectory directory up down)
    (made : SearchedFrom up entry searched) :
    ∀ returned ∈ searched.returned, returned.1 ∈ directory.objects := by
  intro returned inside
  rcases List.mem_append.mp inside with transitive | looked
  · rcases List.mem_map.mp transitive with ⟨group, listed, rfl⟩
    rcases made.groups group listed with ⟨dn, answer, asked, first, there, place, completed⟩
    rcases reads.transitive dn answer asked first there with ⟨object, stored, shown⟩
    rw [shown.completed place group completed]
    exact stored
  · rcases List.mem_map.mp looked with ⟨whole, there, rfl⟩
    rcases Option.map_eq_some_iff.mp (Option.mem_toList.mp there) with ⟨⟨own, _⟩, known, rfl⟩
    rcases made.primary own _ known with ⟨found, place, lookup, completed⟩
    rcases exists_of_primaryFound lookup with ⟨_, _, _, _, _, _, _, answered⟩
    rcases reads.bySid own found answered with ⟨object, stored, shown, _⟩
    rw [shown.completed place _ completed]
    exact stored

theorem backlinkNames_iff (reads : ReadsDirectory directory up down)
    (listed : account ∈ directory.objects) (known : extractSidFromEntry account = some sid)
    (key : groupEntry.key = groupObject.key)
    (complete : ∃ entries, down.searchMembersByBacklink groupEntry.dn = .ok entries) :
    BacklinkNames (down.searchMembersByBacklink groupEntry.dn) sid ↔
      groupObject.key ∈ sortedMemberOf account := by
  rw [← key]
  constructor
  · intro named
    rcases named with ⟨entries, answered, inside⟩
    rcases (reads.backlink _ entries answered sid).mp inside with ⟨object, stored, own, member⟩
    rw [directory.sids_unique account listed object stored sid known own]
    exact member
  · intro member
    rcases complete with ⟨entries, answered⟩
    exact ⟨entries, answered,
      (reads.backlink _ entries answered sid).mpr ⟨account, listed, known, member⟩⟩

/-- The search by the RID names the accounts whose primary group is looked up as the group. -/
theorem primaryNames_iff (reads : ReadsDirectory directory up down)
    (listed : account ∈ directory.objects) (known : extractSidFromEntry account = some sid)
    (groupKnown : extractSidFromEntry groupObject = some groupSid)
    (viewed : Shows up entry account)
    (certain : ∀ reason, resolvePrimaryGroup up entry ≠ .missing reason)
    (number : ridFromSid groupSid = some rid)
    (complete : ∃ entries, down.searchByPrimaryGroup rid = .ok entries) :
    PrimaryNames groupSid (down.searchByPrimaryGroup rid) sid ↔
      ∃ found, resolvePrimaryGroup up entry = .found groupSid found := by
  constructor
  · intro named
    rcases named with ⟨entries, answered, inside, same⟩
    rcases (reads.byPrimaryGroup rid entries answered sid).mp inside with
      ⟨object, stored, own, numbered⟩
    rw [← directory.sids_unique account listed object stored sid known own,
      ← viewed.primaryGroup] at numbered
    rcases found_of_primaryGroupId numbered certain with ⟨primarySid, found, lookup⟩
    rcases exists_of_primaryFound lookup with ⟨other, read, domain, again, first, before, rfl, _⟩
    cases numbered.symm.trans again
    rw [viewed.sid, known] at first
    cases first
    rcases exists_cut_of_read groupKnown with ⟨front, last, cut⟩
    have prefixed : sidDomainPrefix groupSid = some (String.ofList front) := by
      rw [sidDomainPrefix_eq_some_iff, String.toList_ofList]
      exact ⟨_, cut⟩
    have shared := (same _ prefixed).symm.trans (sidDomainPrefix_of_accountDomain before)
    rw [Option.some.inj shared] at prefixed
    rw [eq_of_parts groupKnown prefixed number]
    exact ⟨found, lookup⟩
  · intro looked
    rcases looked with ⟨found, lookup⟩
    rcases exists_of_primaryFound lookup with
      ⟨other, read, domain, numbered, first, before, shown, _⟩
    rw [viewed.sid, known] at first
    cases first
    have cut := cut_shown domain other
    have text : groupSid.value = s!"{domain}-{other}" := congrArg Sid.value shown
    rw [← text] at cut
    have small : other < 2 ^ 32 := by
      rcases Option.bind_eq_some_iff.mp numbered with ⟨rawId, _, parsed⟩
      exact Text.parseUnsigned_lt parsed
    have own : ridFromSid groupSid = some other :=
      (ridFromSid_of_cut cut).trans (Text.parseUnsigned_toDigits small)
    cases number.symm.trans own
    rcases complete with ⟨entries, answered⟩
    rw [viewed.primaryGroup] at numbered
    refine ⟨entries, answered, (reads.byPrimaryGroup _ entries answered sid).mpr
      ⟨account, listed, known, numbered⟩, ?_⟩
    intro part prefixed
    have same := prefixed.symm.trans (sidDomainPrefix_eq_some_iff.mpr ⟨_, cut⟩)
    rw [Option.some.inj same]
    exact sidDomainPrefix_of_accountDomain before

/-- A group of the `memberOf` of an account is counted, unless it is a distribution group. -/
theorem exists_kept_iff (reads : ReadsDirectory directory up down)
    (made : SearchedFrom up entry searched) (settled : searched.Settled sid)
    (principal : searched.principal = account) (listed : account ∈ directory.objects)
    (known : extractSidFromEntry account = some sid) (groupListed : groupObject ∈ directory.objects)
    (groupKnown : extractSidFromEntry groupObject = some groupSid)
    (security : groupIsSecurity groupObject ≠ some false) (other : sid ≠ groupSid) :
    (∃ group ∈ searched.kept sid, group.2.sid = groupSid ∧
        group.1 ∈ sortedMemberOf searched.principal) ↔
      groupObject.key ∈ sortedMemberOf account := by
  have objects := reads.objects_of_searched made
  have ofClosure : ∀ dn group, (dn, group) ∈ searched.closure sid →
      group.entry ∈ directory.objects := by
    intro dn group inside
    rcases (SearchedGroups.entry_of_mem_closure inside).1 with ⟨returned, there, same⟩
    rw [← same]
    exact objects returned there
  rw [principal]
  constructor
  · intro counted
    rcases counted with ⟨⟨dn, group⟩, inside, same, member⟩
    have collected : (dn, group) ∈ searched.closure sid :=
      (List.mem_filter.mp (List.mem_filter.mp inside).1).1
    rcases SearchedGroups.entry_of_mem_closure collected with ⟨_, read, key, _⟩
    have own : extractSidFromEntry group.entry = some groupSid := read.trans (congrArg some same)
    rw [directory.sids_unique groupObject groupListed group.entry (ofClosure dn group collected)
      groupSid groupKnown own, ← key]
    exact member
  · intro member
    have direct := member
    rw [sortedMemberOf, mem_orderedSet] at direct
    rcases List.mem_map.mp direct with ⟨value, written, lowered⟩
    rcases settled.inside searched.principal List.mem_cons_self value
      (principal.symm ▸ written) with self | inside
    · -- A group with the key of the account is the account.
      rw [lowered, principal] at self
      have same := directory.keys_unique groupObject groupListed account listed self
      rw [same, known] at groupKnown
      exact absurd (Option.some.inj groupKnown) other
    · rw [lowered] at inside
      rcases List.mem_map.mp inside with ⟨⟨dn, group⟩, collected, rfl⟩
      rcases SearchedGroups.entry_of_mem_closure collected with ⟨_, read, key, typed⟩
      have same := directory.keys_unique groupObject groupListed group.entry
        (ofClosure _ group collected) key
      rw [← same] at read typed
      refine ⟨(groupObject.key, group), ?_, Option.some.inj (read.symm.trans groupKnown), member⟩
      refine SearchedGroups.mem_kept_of_seed collected ?_ (typed security)
      rw [SearchedGroups.seeds, seedKeys, mem_orderedSet, principal]
      exact List.mem_append_left _ member

/-- A report lists whom one of the searches names. -/
theorem listed_iff {toLowercase : String → String} {universal : Bool}
    {backlink primary : Except CoreError (List RawEntry)} {report : GroupMembersReport}
    (membersExact : MembersExact toLowercase groupSid universal backlink primary report) :
    (∃ node ∈ report.members, node.identity.sid = sid) ↔
      BacklinkNames backlink sid ∨ PrimaryNames groupSid primary sid := by
  constructor
  · intro listed
    rcases listed with ⟨node, inside, same⟩
    cases via : node.via with
    | direct => exact .inl ((membersExact.direct sid).mp ⟨node, inside, via, same⟩)
    | primaryGroup => exact .inr ((membersExact.primaryGroup sid).mp ⟨node, inside, via, same⟩).1
  · intro named
    by_cases direct : BacklinkNames backlink sid
    · rcases (membersExact.direct sid).mpr direct with ⟨node, inside, _, same⟩
      exact ⟨node, inside, same⟩
    · rcases (membersExact.primaryGroup sid).mpr ⟨named.resolve_left direct, direct⟩ with
        ⟨node, inside, _, same⟩
      exact ⟨node, inside, same⟩

end Views

/-- Where the resolution of an account has no gap and the report of a group has no mark of a
failed search, the account is a member in the one exactly when the group is a direct membership
in the other. -/
theorem views_agree {directory : ObjectDirectory} {up : GroupSearches} {down : MemberSearches}
    (reads : ReadsDirectory directory up down) {account groupObject : RawEntry} {sid : Sid}
    {group : Identity} (listed : account ∈ directory.objects)
    (known : extractSidFromEntry account = some sid) (groupListed : groupObject ∈ directory.objects)
    (groupKnown : extractSidFromEntry groupObject = some group.sid)
    (security : groupIsSecurity groupObject ≠ some false) (other : sid ≠ group.sid)
    {toLowercase : String → String} {report : GroupMembersReport}
    {resolution : GroupMembershipResolution}
    (reported : groupMembers toLowercase down group = .ok report)
    (unmarked : ∀ reason, .groupMemberEnumerationIncomplete reason ∉ report.diagnostics)
    (resolved : resolveMembershipsInner toLowercase up sid = .ok resolution)
    (silent : resolution.gaps = []) :
    (∃ node ∈ report.members, node.identity.sid = sid) ↔
      ∃ membership ∈ resolution.memberships,
        membership.groupSid = group.sid ∧ membership.direct = true := by
  rcases membersExact_of_report reported with ⟨rid, groupEntry, searchedGroup, membersExact⟩
  have complete : (∃ entries, down.searchMembersByBacklink groupEntry.dn = .ok entries) ∧
      ∃ entries, down.searchByPrimaryGroup rid = .ok entries := by
    rw [← failedSearches_eq_none_iff, ← Option.not_isSome_iff_eq_none, failedSearches_isSome_iff,
      ← membersExact.incomplete]
    exact not_exists.mpr unmarked
  rcases (resolveMembershipsInner_eq_ok_iff.mp resolved).2 with
    ⟨_, rfl⟩ | ⟨entry, searched, looked, answered, rfl⟩
  · cases silent
  · simp only [foundResolution, List.append_eq_nil_iff] at silent
    have certain := (searchGroups_primaryGaps answered).mp silent.1.1.1.1
    have settled := (SearchedGroups.assembled_gaps_eq_nil_iff toLowercase).mp silent.1.1.2
    have made := searchedFrom_of_searchGroups answered
    rcases reads.bySid sid entry looked with ⟨object, _, shown, only⟩
    cases only account listed known
    rcases made.principal with ⟨place, completed⟩
    have principal := shown.completed place searched.principal completed
    have key := reads.group group.sid groupEntry searchedGroup.found groupObject groupListed
      groupKnown
    have direct := backlinkNames_iff reads listed known key complete.1
    have primary := primaryNames_iff reads listed known groupKnown shown certain searchedGroup.rid
      complete.2
    have counted := exists_kept_iff reads made settled principal listed known groupListed groupKnown
      security other
    have same : (∃ whole, searched.primary = some (group.sid, whole)) ↔
        ∃ found, resolvePrimaryGroup up entry = .found group.sid found := by
      constructor
      · intro stored
        rcases stored with ⟨whole, stored⟩
        rcases made.primary group.sid whole stored with ⟨found, _, lookup, _⟩
        exact ⟨found, lookup⟩
      · intro looked
        rcases looked with ⟨found, lookup⟩
        exact made.found group.sid found lookup
    rw [listed_iff membersExact, direct, primary, ← same]
    refine Iff.trans ?_ SearchedGroups.exists_direct_iff.symm
    rw [counted]
    by_cases first : ∃ whole, searched.primary = some (group.sid, whole)
    · exact iff_of_true (.inr first) (.inl ⟨first, other.symm⟩)
    · have apart := not_exists.mp first
      constructor
      · intro either
        exact .inr ⟨apart, either.resolve_right first⟩
      · intro either
        rcases either with ⟨impossible, _⟩ | ⟨_, member⟩
        · exact absurd impossible first
        · exact .inl member

/-- An account whose only group is its primary group. -/
def domainUser : RawEntry where
  dn := "CN=Anna,DC=x"
  attrs := [("objectClass", ["user"]), ("primaryGroupID", ["513"])]
  binAttrs := [("objectSid", [domainSidBytes 81 4])]

def domainUsers : RawEntry where
  dn := "CN=Domain Users,DC=x"
  attrs := [("objectClass", ["group"]), ("groupType", ["-2147483646"])]
  binAttrs := [("objectSid", [domainSidBytes 1 2])]

def smallDomain : ObjectDirectory where
  objects := [domainUser, domainUsers]
  keys_unique := by decide
  sids_unique := by
    intro left leftListed right rightListed sid leftSid rightSid
    have same := leftSid.trans rightSid.symm
    clear leftSid rightSid
    revert left right
    decide

def smallDomainGroups : GroupSearches where
  config := { baseDn := "DC=x", globalCatalog := true }
  connect := .ok ()
  searchBySid sid :=
    .ok (smallDomain.objects.find? (fun object => extractSidFromEntry object = some sid))
  searchTransitiveGroups _ := .ok []
  ranges _ _ _ := .entries []
  constructed _ _ := .entries []

def smallDomainMembers : MemberSearches where
  config := { baseDn := "DC=x", globalCatalog := true }
  connect := .ok ()
  searchBySid sid :=
    .ok (smallDomain.objects.find? (fun object => extractSidFromEntry object = some sid))
  searchMembersByBacklink dn :=
    .ok (smallDomain.objects.filter (fun object =>
      Text.toAsciiLowercase dn ∈ sortedMemberOf object))
  searchByPrimaryGroup rid :=
    .ok (smallDomain.objects.filter (fun object => primaryGroupId object = some rid))

theorem smallDomain_reads :
    ReadsDirectory smallDomain smallDomainGroups smallDomainMembers where
  bySid := by
    intro sid returned answered
    have found := Except.ok.inj answered
    have member := List.mem_of_find?_eq_some found
    have holds := List.find?_some found
    have own : extractSidFromEntry returned = some sid := of_decide_eq_true holds
    refine ⟨returned, member, ⟨rfl, rfl, ?_⟩, ?_⟩
    · intro place whole completed
      have unranged : ∀ object ∈ smallDomain.objects, rangedKey object "memberOf" = none := by
        decide
      rw [completeEntry, completeRangedAttribute, unranged returned member] at completed
      exact (Except.ok.inj completed).symm
    · intro other listed same
      exact smallDomain.sids_unique other listed returned member sid same own
  transitive := by
    intro dn answer answered returned listed
    cases answered
    cases listed
  group := by
    intro sid returned answered object listed same
    have found := Except.ok.inj answered
    have holds := List.find?_some found
    have own : extractSidFromEntry returned = some sid := of_decide_eq_true holds
    rw [smallDomain.sids_unique object listed returned (List.mem_of_find?_eq_some found) sid same
      own]
  backlink := by
    intro dn answer answered sid
    rw [← Except.ok.inj answered]
    refine exists_congr (fun object => ?_)
    rw [List.mem_filter, decide_eq_true_iff, and_assoc]
    exact and_congr_right (fun _ => And.comm)
  byPrimaryGroup := by
    intro rid answer answered sid
    rw [← Except.ok.inj answered]
    refine exists_congr (fun object => ?_)
    rw [List.mem_filter, decide_eq_true_iff, and_assoc]
    exact and_congr_right (fun _ => And.comm)

theorem domainUsers_report : ∃ report,
    groupMembers Text.toAsciiLowercase smallDomainMembers { sid := ⟨"S-1-5-21-1-2-3-513"⟩ } =
        .ok report ∧ report.diagnostics = [.membersViaPrimaryGroupIncluded 1] :=
  ⟨_, rfl, rfl⟩

theorem domainUser_resolution : ∃ resolution,
    resolveMembershipsInner Text.toAsciiLowercase smallDomainGroups ⟨"S-1-5-21-1-2-3-1105"⟩ =
        .ok resolution ∧ resolution.gaps = [] :=
  ⟨_, rfl, rfl⟩

theorem views_agree_domainUsers : ∃ report resolution,
    groupMembers Text.toAsciiLowercase smallDomainMembers { sid := ⟨"S-1-5-21-1-2-3-513"⟩ } =
        .ok report ∧
      resolveMembershipsInner Text.toAsciiLowercase smallDomainGroups ⟨"S-1-5-21-1-2-3-1105"⟩ =
        .ok resolution ∧
      ((∃ node ∈ report.members, node.identity.sid = ⟨"S-1-5-21-1-2-3-1105"⟩) ↔
        ∃ membership ∈ resolution.memberships,
          membership.groupSid = ⟨"S-1-5-21-1-2-3-513"⟩ ∧ membership.direct = true) := by
  rcases domainUsers_report with ⟨report, reported, marks⟩
  rcases domainUser_resolution with ⟨resolution, resolved, silent⟩
  have listed : domainUser ∈ smallDomain.objects := List.mem_cons_self
  have groupListed : domainUsers ∈ smallDomain.objects :=
    List.mem_cons_of_mem _ List.mem_cons_self
  refine ⟨report, resolution, reported, resolved, views_agree smallDomain_reads listed (by decide)
    groupListed (by decide) (by decide) (by decide) reported ?_ resolved silent⟩
  intro reason marked
  rw [marks] at marked
  cases List.mem_singleton.mp marked

end AdResolver
end Stars
