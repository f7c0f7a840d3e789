import Stars.AdResolver.Reachability
import Stars.AdResolver.RangeRetrieval
import Stars.AdResolver.Resolver

namespace Stars
namespace AdResolver

open Collections

/-!
# The group search of an account

The memberships of an account take several searches: its own entry, its primary group, the
two transitive searches, further ranges of every `memberOf`, and the token groups as the
domain controller computes them.  A search that fails ends the resolution, or leaves a gap
that says so.

`noGap_iff` is what a resolution without a gap is worth.
-/

/-- What the directory answers while the groups of an account are searched. -/
structure GroupSearches where
  config : LdapConfig
  connect : Except CoreError Unit
  searchBySid : Sid → Except CoreError (Option RawEntry)
  searchTransitiveGroups : String → Except CoreError (List RawEntry)
  /-- The answers to the further ranges, entry by entry in the order they are completed. -/
  ranges : Nat → RangeServer
  /-- The answer to the search of a constructed attribute. -/
  constructed : String → String → RangeAnswer

/-- A constructed list of SIDs; a value that is none is an error. -/
def readSids (attr dn : String) : List (List UInt8) → Except CoreError (List String)
  | [] => .ok []
  | bytes :: rest =>
      match bytesToSidStr bytes with
      | .error reason =>
          .error (.ldapQuery s!"{attr} of {dn}: unreadable SID value ({reason.display})")
      | .ok sid => (readSids attr dn rest).map (fun sids => sid :: sids)

def searchConstructedSidList (searches : GroupSearches) (dn attr : String) :
    Except CoreError (Option (List String)) :=
  match searches.constructed dn attr with
  | .searchFailed reason => .error (.ldapQuery s!"{attr} search failed: {reason}")
  | .resultFailed reason => .error (.ldapQuery s!"{attr} search result error: {reason}")
  | .entries [] => .ok none
  | .entries (entry :: _) =>
      if entry.valueCount attr = 0 then .ok none
      else (readSids attr dn (entry.allValues attr)).map some

def searchTokenGroups (searches : GroupSearches) (dn : String) :
    Except CoreError (Option (List String)) :=
  searchConstructedSidList searches dn "tokenGroups"

inductive PrimaryGroupLookup where
  | notApplicable
  | found (sid : Sid) (entry : RawEntry)
  | missing (reason : String)

/-- An account has a primary group; what keeps it from being read is a reason. -/
def resolvePrimaryGroup (searches : GroupSearches) (entry : RawEntry) : PrimaryGroupLookup :=
  let kind := classifyIdentity (entry.allAttr "objectClass")
  let dn := entry.dn
  match entry.firstAttr "primaryGroupID" with
  | none =>
      if kind = .user ∨ kind = .computer then
        .missing (s!"the primaryGroupID of {dn} is not readable — its primary group is not in " ++
          "the evaluated token")
      else .notApplicable
  | some rawId =>
      match Text.parseUnsigned (2 ^ 32) (Text.trim rawId.toList) with
      | none =>
          .missing (s!"the primaryGroupID '{rawId}' of {dn} is not a number — its primary " ++
            "group is not in the evaluated token")
      | some primaryGroupId =>
          match (extractSidFromEntry entry).bind accountDomainOf with
          | none =>
              .missing (s!"the domain of {dn} could not be derived from its objectSid — its " ++
                "primary group is not in the evaluated token")
          | some domain =>
              let shown := s!"{domain}-{primaryGroupId}"
              match searches.searchBySid ⟨shown⟩ with
              | .ok (some found) => .found ⟨shown⟩ found
              | .ok none =>
                  let base := searches.config.baseDn
                  .missing (s!"the primary group {shown} was not found under the configured " ++
                    s!"LDAP base '{base}' — it is not in the evaluated token")
              | .error reason =>
                  .missing (s!"the primary group {shown} could not be read " ++
                    s!"({reason.display}) — it is not in the evaluated token")

def maxTokenGroupSids : Nat := 1015

/-- The SIDs of the memberships, in one case. -/
def countedSids (memberships : List GroupMembership) : List String :=
  orderedSet ((memberships.flatMap GroupMembership.tokenSids).map
    (fun sid => Text.toAsciiUppercase sid.value))

def tokenSizeGap (memberships : List GroupMembership) : Option String :=
  let count := (countedSids memberships).length
  if maxTokenGroupSids < count then
    some (s!"the account is in {count} security group SID(s) (SID history included) — more " ++
      s!"than the {maxTokenGroupSids} that fit into a Windows logon token; a logon of this " ++
      "account fails (\"too many security IDs\"), so its real access cannot be derived from " ++
      "the group set")
  else none

/-- Every difference to the token groups is a gap; a historical SID of a counted group is
counted. -/
def tokenGroupsGaps (memberships : List GroupMembership) (tokenGroups : List String) :
    List String :=
  let counted := countedSids memberships
  let groups := orderedSet (memberships.map (fun membership =>
    Text.toAsciiUppercase membership.groupSid.value))
  let token := orderedSet (tokenGroups.map Text.toAsciiUppercase)
  let extra := groups.filter (fun sid => !token.contains sid)
  let missing := token.filter (fun sid => !counted.contains sid)
  gapUnlessEmpty extra (fun extra =>
      let count := extra.length
      let shown := summarizeDns extra
      s!"{count} group(s) were resolved but are not in the account's tokenGroups on the " ++
        s!"domain controller — the computed rights may be too high: {shown}") ++
    gapUnlessEmpty missing (fun missing =>
      let count := missing.length
      let shown := summarizeDns missing
      s!"the account's tokenGroups on the domain controller contain {count} group SID(s) the " ++
        s!"group resolution did not find — the computed rights may be too low: {shown}")

/-- An entry with all values of its `memberOf`. -/
def completeEntry (searches : GroupSearches) (place : Nat) (entry : RawEntry) :
    Except CoreError RawEntry :=
  match completeRangedAttribute (searches.ranges place) entry "memberOf" with
  | (.ok _, whole) => .ok whole
  | (.error reason, _) => .error reason

def completeEntries (searches : GroupSearches) :
    Nat → List RawEntry → Except CoreError (List RawEntry)
  | _, [] => .ok []
  | place, entry :: rest => do
      let whole ← completeEntry searches place entry
      let others ← completeEntries searches (place + 1) rest
      pure (whole :: others)

/-- The primary group with its parents, and the reason why it is missing. -/
def searchPrimary (searches : GroupSearches) (entry : RawEntry) :
    Except CoreError (Option (Sid × RawEntry) × List RawEntry × List String) :=
  match resolvePrimaryGroup searches entry with
  | .found sid found =>
      (searches.searchTransitiveGroups found.dn).map (fun parents => (some (sid, found), parents, []))
  | .notApplicable => .ok (none, [], [])
  | .missing reason => .ok (none, [], [reason])

/-- The token groups of a bind that sees all of them, or why they could not be read. -/
def readTokenGroups (searches : GroupSearches) (dn : String) : Option (List String) × List String :=
  if searches.config.globalCatalog then (none, [])
  else
    match searchTokenGroups searches dn with
    | .ok token => (token, [])
    | .error reason =>
        (none,
          [s!"the account's tokenGroups could not be read for the cross-check ({reason.display})"])

def notFoundGap (searches : GroupSearches) (sid : Sid) : String :=
  let base := searches.config.baseDn
  s!"the account object of {sid.value} was not found by the group search under '{base}' — no " ++
    "group membership could be resolved"

/-- What the assembly starts from. -/
structure SearchedGroups where
  principal : RawEntry
  primary : Option (Sid × RawEntry)
  transitiveGroups : List RawEntry
  pgParents : List RawEntry
  /-- Why the primary group is missing. -/
  primaryGaps : List String

/-- The searches of an account that was found, with every `memberOf` completed. -/
def searchGroups (searches : GroupSearches) (entry : RawEntry) : Except CoreError SearchedGroups := do
  let transitiveGroups ← searches.searchTransitiveGroups entry.dn
  let (primary, pgParents, gaps) ← searchPrimary searches entry
  let principal ← completeEntry searches 0 entry
  let transitiveGroups ← completeEntries searches 1 transitiveGroups
  let pgParents ← completeEntries searches (1 + transitiveGroups.length) pgParents
  let place := 1 + transitiveGroups.length + pgParents.length
  match primary with
  | none => pure ⟨principal, none, transitiveGroups, pgParents, gaps⟩
  | some (sid, found) => do
      let whole ← completeEntry searches place found
      pure ⟨principal, some (sid, whole), transitiveGroups, pgParents, gaps⟩

def assembleSearched (toLowercase : String → String) (sid : Sid) (searched : SearchedGroups) :
    AssembledMemberships :=
  assembleMemberships toLowercase sid searched.principal
    (searched.primary.map (fun found => (found.1, some found.2))) searched.transitiveGroups
    searched.pgParents

def resolveMembershipsInner (toLowercase : String → String) (searches : GroupSearches) (sid : Sid) :
    Except CoreError GroupMembershipResolution := do
  searches.connect
  match ← searches.searchBySid sid with
  | none => pure { gaps := [notFoundGap searches sid] }
  | some entry => do
      let searched ← searchGroups searches entry
      let (tokenGroups, unread) := readTokenGroups searches entry.dn
      let assembled := assembleSearched toLowercase sid searched
      let difference := match tokenGroups with
        | some token => tokenGroupsGaps assembled.memberships token
        | none => []
      pure
        { memberships := assembled.memberships
          gaps := searched.primaryGaps ++ unread ++ assembled.gaps ++
            (tokenSizeGap assembled.memberships).toList ++ difference
          excludedGroups := assembled.excluded
          tokenSetGaps := assembled.tokenSetGaps ++ difference }

/-- The token of the domain controller holds every resolved group, and of other SIDs at most
historical ones of the groups. -/
structure AgreesWith (memberships : List GroupMembership) (token : List String) : Prop where
  confirmed : ∀ membership ∈ memberships, ∃ sid ∈ token,
    Text.toAsciiUppercase sid = Text.toAsciiUppercase membership.groupSid.value
  covered : ∀ sid ∈ token, ∃ membership ∈ memberships, ∃ counted ∈ membership.tokenSids,
    Text.toAsciiUppercase counted.value = Text.toAsciiUppercase sid

/-- An entry without a SID repeats an earlier one that has a SID. -/
def Identified (sid : Sid) (returned : List (RawEntry × Bool)) : Prop :=
  ∀ before entry after, returned = before ++ entry :: after →
    extractSidFromEntry entry.1 = none →
      ∃ earlier ∈ before, earlier.1.key = entry.1.key ∧
        ∃ groupSid, extractSidFromEntry earlier.1 = some groupSid ∧ groupSid ≠ sid

namespace SearchedGroups

variable (searched : SearchedGroups) (sid : Sid)

def returned : List (RawEntry × Bool) :=
  returnedEntries searched.transitiveGroups searched.pgParents (searched.primary.map Prod.snd)

def closure : Closure := (collectClosure sid searched.returned).1

def seeds : List String := seedKeys searched.principal (searched.primary.map Prod.snd)

def kept : Closure := keptClosure (searched.closure sid) searched.seeds

/-- Every returned group is known, and so is every group that the account and its groups are
direct members of. -/
structure Settled : Prop where
  identified : Identified sid searched.returned
  typed : ∀ group ∈ searched.kept sid, group.2.security ≠ none
  inside : ∀ member ∈ searched.principal :: (searched.kept sid).map (fun group => group.2.entry),
    ∀ value ∈ member.allAttr "memberOf", Text.toAsciiLowercase value = searched.principal.key ∨
      Text.toAsciiLowercase value ∈ (searched.closure sid).map Prod.fst

end SearchedGroups

/-- The resolved groups fit into a token, and a bind that sees all groups could compare them
with the token of the domain controller. -/
structure Confirmed (searches : GroupSearches) (dn : String) (memberships : List GroupMembership) :
    Prop where
  fits : (countedSids memberships).length ≤ maxTokenGroupSids
  compared : searches.config.globalCatalog = false →
    ∃ answer, searchTokenGroups searches dn = .ok answer ∧
      ∀ token, answer = some token → AgreesWith memberships token

/-- The searches answered, and what they answered leaves nothing open. -/
structure Whole (toLowercase : String → String) (searches : GroupSearches) (sid : Sid)
    (entry : RawEntry) (searched : SearchedGroups) : Prop where
  connected : searches.connect = .ok ()
  found : searches.searchBySid sid = .ok (some entry)
  answered : searchGroups searches entry = .ok searched
  primary : ∀ reason, resolvePrimaryGroup searches entry ≠ .missing reason
  settled : searched.Settled sid
  confirmed : Confirmed searches entry.dn (assembleSearched toLowercase sid searched).memberships

@[simp]
theorem gapUnlessEmpty_eq_nil_iff {groups : List String} {gap : List String → String} :
    gapUnlessEmpty groups gap = [] ↔ groups = [] := by
  cases groups with
  | nil => exact iff_of_true rfl rfl
  | cons group rest => exact iff_of_false (List.cons_ne_nil _ _) (List.cons_ne_nil _ _)

@[simp]
theorem orderedSet_eq_nil_iff {texts : List String} : orderedSet texts = [] ↔ texts = [] := by
  simp only [List.eq_nil_iff_forall_not_mem, mem_orderedSet]

section Lost

variable {sid : Sid}

/-- An entry without a SID is lost unless its key is in the closure already. -/
theorem lost_collectEntry {collected : Closure × List String} {returned : RawEntry × Bool} :
    (collectEntry sid collected returned).2 = [] ↔
      collected.2 = [] ∧ (extractSidFromEntry returned.1 = none →
        returned.1.key ∈ collected.1.map Prod.fst) := by
  rw [collectEntry, ← lookup_isSome_iff_mem]
  by_cases known : collected.1.containsKey returned.1.key
  · rw [if_pos known]
    exact (and_iff_left (fun _ => known)).symm
  · rw [if_neg known]
    cases read : extractSidFromEntry returned.1 with
    | none =>
        refine iff_of_false ?_ (fun settled => known (settled.2 rfl))
        exact List.append_ne_nil_of_right_ne_nil _ (List.cons_ne_nil _ _)
    | some groupSid =>
        have kept : (if groupSid = sid then collected else
            (collected.1 ++ [(returned.1.key, closureGroup returned.1 returned.2 groupSid)],
              collected.2)).2 = collected.2 := by
          split <;> rfl
        rw [kept]
        exact (and_iff_left (fun impossible => absurd impossible (Option.some_ne_none _))).symm

theorem lost_collect {returned : List (RawEntry × Bool)} :
    ∀ collected : Closure × List String,
      (returned.foldl (collectEntry sid) collected).2 = [] ↔
        collected.2 = [] ∧ ∀ before entry after, returned = before ++ entry :: after →
          extractSidFromEntry entry.1 = none →
            entry.1.key ∈ (before.foldl (collectEntry sid) collected).1.map Prod.fst := by
  induction returned with
  | nil =>
      intro collected
      refine (and_iff_left ?_).symm
      intro before entry after impossible
      exact absurd impossible.symm (List.append_ne_nil_of_right_ne_nil _ (List.cons_ne_nil _ _))
  | cons head tail known =>
      intro collected
      rw [List.foldl_cons, known, lost_collectEntry]
      constructor
      · rintro ⟨⟨empty, first⟩, later⟩
        refine ⟨empty, ?_⟩
        intro before entry after split
        rcases List.cons_eq_append_iff.mp split with ⟨rfl, front⟩ | ⟨rest, rfl, back⟩
        · cases front
          exact first
        · exact later rest entry after back
      · rintro ⟨empty, all⟩
        refine ⟨⟨empty, all [] head tail rfl⟩, ?_⟩
        intro before entry after split
        exact all (head :: before) entry after (congrArg (List.cons head) split)

theorem mem_keys_collect {returned : List (RawEntry × Bool)} {dn : String} :
    dn ∈ (returned.foldl (collectEntry sid) ([], [])).1.map Prod.fst ↔
      ∃ earlier ∈ returned, earlier.1.key = dn ∧
        ∃ groupSid, extractSidFromEntry earlier.1 = some groupSid ∧ groupSid ≠ sid := by
  rcases collect_spec sid returned [] [] List.nodup_nil with ⟨fresh, lost, ran, collected⟩
  rw [ran, List.nil_append]
  constructor
  · intro inside
    rcases List.mem_map.mp inside with ⟨⟨key, group⟩, member, rfl⟩
    rcases collected.stored key group member with ⟨earlier, listed, read, apart, same, _⟩
    exact ⟨earlier, listed, same.symm, group.sid, read, apart⟩
  · rintro ⟨earlier, listed, rfl, groupSid, read, apart⟩
    exact collected.covers earlier listed groupSid read apart

theorem collectClosure_lost_iff {returned : List (RawEntry × Bool)} :
    (collectClosure sid returned).2 = [] ↔ Identified sid returned := by
  rw [collectClosure, orderedSet_eq_nil_iff, lost_collect, and_iff_right rfl]
  simp only [mem_keys_collect]
  exact Iff.rfl

end Lost

/-! ## The gaps of the assembly -/

/-- The groups of a closure, counted or left out. -/
theorem keptClosure_or_excluded {closure : Closure} {seeds : List String} {dn : String} :
    ((keptClosure closure seeds).containsKey dn = true ∨
        dn ∈ (closure.filter (isExcluded closure seeds)).map Prod.fst) ↔
      dn ∈ closure.map Prod.fst := by
  rw [Closure.containsKey, lookup_isSome_iff_mem]
  constructor
  · rintro (inside | inside)
    · rcases List.mem_map.mp inside with ⟨entry, member, rfl⟩
      exact List.mem_map_of_mem (List.mem_filter.mp (List.mem_filter.mp member).1).1
    · rcases List.mem_map.mp inside with ⟨entry, member, rfl⟩
      exact List.mem_map_of_mem (List.mem_filter.mp member).1
  · intro inside
    rcases List.mem_map.mp inside with ⟨entry, member, rfl⟩
    by_cases left : isExcluded closure seeds entry = true
    · exact .inr (List.mem_map_of_mem (List.mem_filter.mpr ⟨member, left⟩))
    · refine .inl (List.mem_map_of_mem (List.mem_filter.mpr ⟨List.mem_filter.mpr ⟨member, ?_⟩, ?_⟩))
      · rw [decide_eq_true_iff]
        intro distribution
        apply left
        rw [isExcluded, distribution]
        rfl
      · rw [Bool.not_eq_true] at left
        rw [left]
        rfl

theorem unknownTypes_eq_nil_iff {closure : Closure} {seeds : List String} :
    unknownTypes closure seeds = [] ↔
      ∀ entry ∈ keptClosure closure seeds, entry.2.security ≠ none := by
  rw [unknownTypes, orderedSet_eq_nil_iff, List.filterMap_eq_nil_iff]
  constructor
  · intro silent entry member unknown
    rcases List.mem_filter.mp member with ⟨candidate, counted⟩
    have listed := silent entry (List.mem_filter.mp candidate).1
    rw [counted, unknown] at listed
    cases listed
  · intro typed entry member
    rw [if_neg]
    intro reported
    rcases Bool.and_eq_true_iff.mp reported with ⟨counted, unknown⟩
    rw [Option.isNone_iff_eq_none] at unknown
    refine typed entry (List.mem_filter.mpr ⟨List.mem_filter.mpr ⟨member, ?_⟩, counted⟩) unknown
    rw [unknown]
    rfl

namespace SearchedGroups

variable {searched : SearchedGroups} {sid : Sid}

theorem parents_of_mem_kept {group : String × ClosureGroup} (inside : group ∈ searched.kept sid) :
    group.2.parents = sortedMemberOf group.2.entry := by
  have member : group ∈ searched.closure sid :=
    (List.mem_filter.mp (List.mem_filter.mp inside).1).1
  rcases collect_spec sid searched.returned [] [] List.nodup_nil with
    ⟨fresh, lost, ran, collected⟩
  rw [closure, collectClosure, ran, List.nil_append, List.mem_insertionSort] at member
  rcases collected.stored group.1 group.2 member with ⟨returned, _, _, _, _, shape⟩
  rw [shape]
  rfl

/-- The keys of the direct memberships that the assembly looks up. -/
theorem mem_referenced {dn : String} :
    dn ∈ sortedMemberOf searched.principal ++
        (searched.kept sid).flatMap (fun group => group.2.parents) ↔
      ∃ member ∈ searched.principal :: (searched.kept sid).map (fun group => group.2.entry),
        ∃ value ∈ member.allAttr "memberOf", Text.toAsciiLowercase value = dn := by
  have own : ∀ entry : RawEntry, dn ∈ sortedMemberOf entry ↔
      ∃ value ∈ entry.allAttr "memberOf", Text.toAsciiLowercase value = dn := by
    intro entry
    rw [sortedMemberOf, mem_orderedSet, List.mem_map]
  simp only [List.mem_append, List.mem_flatMap, own, List.mem_cons, exists_eq_or_imp]
  apply or_congr_right
  constructor
  · rintro ⟨group, inside, parent⟩
    rw [parents_of_mem_kept inside, own] at parent
    exact ⟨group.2.entry, List.mem_map_of_mem inside, parent⟩
  · rintro ⟨member, inside, direct⟩
    rcases List.mem_map.mp inside with ⟨group, counted, rfl⟩
    refine ⟨group, counted, ?_⟩
    rw [parents_of_mem_kept counted, own]
    exact direct

/-- Nothing is outside exactly when every direct membership is a returned group or the account
itself. -/
theorem outsideGroups_eq_nil_iff :
    outsideGroups searched.principal (searched.kept sid)
        (((searched.closure sid).filter (isExcluded (searched.closure sid) searched.seeds)).map
          Prod.fst) [] = [] ↔
      ∀ member ∈ searched.principal :: (searched.kept sid).map (fun group => group.2.entry),
        ∀ value ∈ member.allAttr "memberOf", Text.toAsciiLowercase value = searched.principal.key ∨
          Text.toAsciiLowercase value ∈ (searched.closure sid).map Prod.fst := by
  rw [outsideGroups, orderedSet_eq_nil_iff, List.map_eq_nil_iff, List.filter_eq_nil_iff]
  have looked : ∀ dn : String,
      ¬(!(searched.kept sid).containsKey dn && !(((searched.closure sid).filter
            (isExcluded (searched.closure sid) searched.seeds)).map Prod.fst).contains dn &&
          dn != searched.principal.key &&
          !([] : List String).any (fun unread => Text.eqIgnoreAsciiCase unread dn)) = true ↔
        dn = searched.principal.key ∨ dn ∈ (searched.closure sid).map Prod.fst := by
    intro dn
    rw [← @keptClosure_or_excluded (searched.closure sid) searched.seeds]
    simp only [Bool.and_eq_true, Bool.not_eq_true', List.any_nil, bne_iff_ne, and_true,
      List.contains_eq_mem, decide_eq_false_iff_not, kept]
    rw [← Bool.not_eq_true]
    tauto
  constructor
  · intro silent member listed value direct
    exact (looked _).mp (silent _ (mem_referenced.mpr ⟨member, listed, value, direct, rfl⟩))
  · intro inside dn referenced
    rcases mem_referenced.mp referenced with ⟨member, listed, value, direct, rfl⟩
    exact (looked _).mpr (inside member listed value direct)

/-- The assembly is silent exactly when everything returned is settled. -/
theorem assembled_gaps_eq_nil_iff (toLowercase : String → String) :
    (assembleSearched toLowercase sid searched).gaps = [] ↔ searched.Settled sid := by
  have entries : (searched.primary.map (fun found => (found.1, some found.2))).bind Prod.snd =
      searched.primary.map Prod.snd := by
    cases searched.primary <;> rfl
  have gaps : (assembleSearched toLowercase sid searched).gaps =
      gapUnlessEmpty (unknownTypes (searched.closure sid) searched.seeds) unknownTypeGap ++
        gapUnlessEmpty (collectClosure sid searched.returned).2 withoutSidGap ++
        gapUnlessEmpty (outsideGroups searched.principal (searched.kept sid)
          (((searched.closure sid).filter (isExcluded (searched.closure sid) searched.seeds)).map
            Prod.fst) (collectClosure sid searched.returned).2) outsideGap := by
    rw [assembleSearched, assembleMemberships, entries]
    rfl
  rw [gaps]
  simp only [List.append_eq_nil_iff, gapUnlessEmpty_eq_nil_iff]
  constructor
  · rintro ⟨⟨typed, identified⟩, outside⟩
    rw [identified] at outside
    exact ⟨collectClosure_lost_iff.mp identified, unknownTypes_eq_nil_iff.mp typed,
      outsideGroups_eq_nil_iff.mp outside⟩
  · intro settled
    have identified := collectClosure_lost_iff.mpr settled.identified
    rw [identified]
    exact ⟨⟨unknownTypes_eq_nil_iff.mpr settled.typed, rfl⟩,
      outsideGroups_eq_nil_iff.mpr settled.inside⟩

end SearchedGroups

/-! ## The gaps of the searches -/

section Searches

variable {searches : GroupSearches} {entry : RawEntry}

theorem searchPrimary_gaps {primary : Option (Sid × RawEntry)} {parents : List RawEntry}
    {gaps : List String} (answered : searchPrimary searches entry = .ok (primary, parents, gaps)) :
    gaps = [] ↔ ∀ reason, resolvePrimaryGroup searches entry ≠ .missing reason := by
  rw [searchPrimary] at answered
  split at answered
  · next sid found lookup =>
      cases looked : searches.searchTransitiveGroups found.dn with
      | error reason =>
          rw [looked] at answered
          cases answered
      | ok groups =>
          rw [looked] at answered
          cases answered
          exact iff_of_true rfl (fun reason missing => by cases lookup.symm.trans missing)
  · next lookup =>
      cases answered
      exact iff_of_true rfl (fun reason missing => by cases lookup.symm.trans missing)
  · next reason lookup =>
      cases answered
      exact iff_of_false (List.cons_ne_nil _ _) (fun read => read reason lookup)

/-- The completed entries keep the reason why the primary group is missing. -/
theorem searchGroups_primaryGaps {searched : SearchedGroups}
    (answered : searchGroups searches entry = .ok searched) :
    searched.primaryGaps = [] ↔ ∀ reason, resolvePrimaryGroup searches entry ≠ .missing reason := by
  rcases bind_eq_ok_iff.mp answered with ⟨groups, _, answered⟩
  rcases bind_eq_ok_iff.mp answered with ⟨⟨primary, parents, gaps⟩, looked, answered⟩
  rcases bind_eq_ok_iff.mp answered with ⟨principal, _, answered⟩
  rcases bind_eq_ok_iff.mp answered with ⟨whole, _, answered⟩
  rcases bind_eq_ok_iff.mp answered with ⟨wholeParents, _, answered⟩
  have same : searched.primaryGaps = gaps := by
    cases primary with
    | none =>
        cases answered
        rfl
    | some found =>
        rcases bind_eq_ok_iff.mp answered with ⟨completed, _, answered⟩
        cases answered
        rfl
  rw [same]
  exact searchPrimary_gaps looked

/-- What the cross-check adds, with the failure to read the token. -/
def tokenDifference (searches : GroupSearches) (dn : String) (memberships : List GroupMembership) :
    List String :=
  match (readTokenGroups searches dn).1 with
  | some token => tokenGroupsGaps memberships token
  | none => []

/-- A resolution of an account that was found. -/
def foundResolution (toLowercase : String → String) (searches : GroupSearches) (sid : Sid)
    (entry : RawEntry) (searched : SearchedGroups) : GroupMembershipResolution :=
  let assembled := assembleSearched toLowercase sid searched
  let difference := tokenDifference searches entry.dn assembled.memberships
  { memberships := assembled.memberships
    gaps := searched.primaryGaps ++ (readTokenGroups searches entry.dn).2 ++ assembled.gaps ++
      (tokenSizeGap assembled.memberships).toList ++ difference
    excludedGroups := assembled.excluded
    tokenSetGaps := assembled.tokenSetGaps ++ difference }

/-- The account is not found, or all searches of it answered. -/
theorem resolveMembershipsInner_eq_ok_iff {toLowercase : String → String} {sid : Sid}
    {resolution : GroupMembershipResolution} :
    resolveMembershipsInner toLowercase searches sid = .ok resolution ↔
      searches.connect = .ok () ∧
        ((searches.searchBySid sid = .ok none ∧ resolution = { gaps := [notFoundGap searches sid] }) ∨
          ∃ entry searched, searches.searchBySid sid = .ok (some entry) ∧
            searchGroups searches entry = .ok searched ∧
            resolution = foundResolution toLowercase searches sid entry searched) := by
  rw [resolveMembershipsInner]
  constructor
  · intro finished
    rcases bind_eq_ok_iff.mp finished with ⟨⟨⟩, connected, finished⟩
    rcases bind_eq_ok_iff.mp finished with ⟨found, looked, finished⟩
    refine ⟨connected, ?_⟩
    cases found with
    | none =>
        cases finished
        exact .inl ⟨looked, rfl⟩
    | some entry =>
        rcases bind_eq_ok_iff.mp finished with ⟨searched, answered, finished⟩
        cases finished
        exact .inr ⟨entry, searched, looked, answered, rfl⟩
  · rintro ⟨connected, ⟨looked, rfl⟩ | ⟨entry, searched, looked, answered, rfl⟩⟩
    · rw [connected, ok_bind, looked]
      rfl
    · rw [connected, ok_bind, looked, ok_bind]
      dsimp only
      rw [answered]
      rfl

end Searches

end AdResolver
end Stars
