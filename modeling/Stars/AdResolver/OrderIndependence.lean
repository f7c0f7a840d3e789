import Stars.AdResolver.Arrangement

namespace Stars
namespace AdResolver

open Collections Stars.Order

/-!
# Independence of the order of an answer

The memberships are assembled through sorted collections, so the order in which
a server returns entries and attribute values should not show.  It shows in two
places that keep the order of the values: the historical SIDs of a group, and
the spelling in which a group outside the resolved set is named, which is that
of the last value with its key.

`orderIndependent_iff` says exactly when neither place shows it.
-/

/-- What the searches for one principal return.  The entries of one search have
distinct names. -/
structure RawAnswer where
  sid : Sid
  principal : RawEntry
  primary : Option (Sid × Option RawEntry)
  transitiveGroups : List RawEntry
  pgParents : List RawEntry
  groups_distinct : (transitiveGroups.map RawEntry.key).Nodup
  parents_distinct : (pgParents.map RawEntry.key).Nodup

/-- The same answer, with the entries of a search in another order and each
entry in a related form. -/
structure SameAnswer (related : RawEntry → RawEntry → Prop) (answer other : RawAnswer) : Prop where
  sid : other.sid = answer.sid
  principal : related answer.principal other.principal
  primary : ReorderedPrimary related answer.primary other.primary
  transitiveGroups : ReorderedEntries related answer.transitiveGroups other.transitiveGroups
  pgParents : ReorderedEntries related answer.pgParents other.pgParents

section Weaken

variable {related weaker : RawEntry → RawEntry → Prop}
  (weakens : ∀ entry form, related entry form → weaker entry form)

include weakens

theorem ReorderedPrimary.weaken {primary other : Option (Sid × Option RawEntry)}
    (reordered : ReorderedPrimary related primary other) : ReorderedPrimary weaker primary other := by
  cases reordered with
  | none => exact .none
  | notFound sid => exact .notFound sid
  | found sid form => exact .found sid (weakens _ _ form)

theorem ReorderedEntries.weaken {entries others : List RawEntry}
    (reordered : ReorderedEntries related entries others) :
    ReorderedEntries weaker entries others := by
  rcases reordered with ⟨shuffled, perm, forms⟩
  exact ⟨shuffled, perm, forms.imp weakens⟩

theorem SameAnswer.weaken {answer other : RawAnswer} (same : SameAnswer related answer other) :
    SameAnswer weaker answer other where
  sid := same.sid
  principal := weakens _ _ same.principal
  primary := same.primary.weaken weakens
  transitiveGroups := same.transitiveGroups.weaken weakens
  pgParents := same.pgParents.weaken weakens

end Weaken

def readSid (bytes : List UInt8) : Option Sid :=
  match bytesToSidStr bytes with
  | .ok text => some ⟨text⟩
  | .error _ => none

/-- The historical SIDs among the values classified as text. -/
def textSids (entry : RawEntry) : List Sid :=
  (entry.allAttr "sIDHistory").filterMap (fun text => readSid (utf8Bytes text))

/-- The historical SIDs among the values classified as binary. -/
def binSids (entry : RawEntry) : List Sid :=
  ((entry.binAttrs.lookup "sIDHistory").getD []).filterMap readSid

theorem parseSidHistory_eq (entry : RawEntry) :
    parseSidHistory entry = (entry.valueCount "sIDHistory", textSids entry ++ binSids entry) := by
  have texts : textSids entry =
      ((entry.allAttr "sIDHistory").map utf8Bytes).filterMap readSid := by
    rw [textSids, List.filterMap_map]
    rfl
  rw [texts, binSids, ← List.filterMap_append]
  rfl

/-- No two different historical SIDs among the values of one class. -/
def HistorySettled (entry : RawEntry) : Prop :=
  (∀ first ∈ textSids entry, ∀ second ∈ textSids entry, first = second) ∧
    ∀ first ∈ binSids entry, ∀ second ∈ binSids entry, first = second

/-- The values with a key that the last attribute with such a value offers. -/
def offered (dn : String) : List (List String) → List String
  | [] => []
  | values :: rest =>
      if (offered dn rest).isEmpty then
        values.filter (fun value => Text.toAsciiLowercase value = dn)
      else offered dn rest

/-- The membership in the primary group, when there is one. -/
def primaryMemberships (sid : Sid) (principal : RawEntry)
    (primary : Option (Sid × Option RawEntry)) (closure : Closure) (routes : RouteTable) :
    List GroupMembership :=
  match primary with
  | some found =>
      if found.1 ≠ sid then [primaryMembership sid principal found closure routes] else []
  | none => []

/-- The entry of the primary group, when the primary group is a membership. -/
def primaryEntries (sid : Sid) (primary : Option (Sid × Option RawEntry)) : List RawEntry :=
  match primary with
  | some found => if found.1 ≠ sid then found.2.toList else []
  | none => []

section Primary

variable {related : RawEntry → RawEntry → Prop} {closure other : Closure}
  {principal principalForm : RawEntry} {primary otherPrimary : Option (Sid × Option RawEntry)}

theorem primaryMemberships_eq_iff
    (reorders : ∀ entry form, related entry form → Reordered entry form)
    (alike : List.Forall₂ (Alike related) closure other)
    (principals : related principal principalForm)
    (primaries : ReorderedPrimary related primary otherPrimary) (sid : Sid) (routes : RouteTable) :
    primaryMemberships sid principalForm otherPrimary other routes =
        primaryMemberships sid principal primary closure routes ↔
      List.Forall₂ SameHistory (primaryEntries sid primary) (primaryEntries sid otherPrimary) := by
  cases primaries with
  | none => exact iff_of_true rfl .nil
  | notFound groupSid =>
      have names := (reorders _ _ principals).displayName
      rw [primaryMemberships, primaryMemberships, primaryEntries]
      dsimp only
      by_cases self : groupSid = sid
      · rw [if_neg (not_not_intro self), if_neg (not_not_intro self), if_neg (not_not_intro self)]
        exact iff_of_true rfl .nil
      · rw [if_pos self, if_pos self, if_pos self, primaryMembership, primaryMembership, names]
        exact iff_of_true rfl .nil
  | found groupSid same =>
      rename_i entry form
      have shared := alike_primaryMembership_iff reorders alike sid principals routes groupSid same
      rw [primaryMemberships, primaryMemberships, primaryEntries, primaryEntries]
      dsimp only
      by_cases self : groupSid = sid
      · rw [if_neg (not_not_intro self), if_neg (not_not_intro self), if_neg (not_not_intro self),
          if_neg (not_not_intro self)]
        exact iff_of_true rfl .nil
      · rw [if_pos self, if_pos self, if_pos self, if_pos self, List.cons.injEq, shared,
          Option.toList_some, Option.toList_some, List.forall₂_cons]
        exact ⟨fun both => ⟨both.1, .nil⟩, fun both => ⟨both.1, rfl⟩⟩

/-- The entries with a membership come in the forms of the lookups. -/
theorem ReorderedPrimary.entries (primaries : ReorderedPrimary related primary otherPrimary)
    (sid : Sid) :
    List.Forall₂ related (primaryEntries sid primary) (primaryEntries sid otherPrimary) := by
  cases primaries with
  | none => exact .nil
  | notFound groupSid =>
      rw [primaryEntries]
      dsimp only
      split
      · exact .nil
      · exact .nil
  | found groupSid form =>
      rw [primaryEntries, primaryEntries]
      dsimp only
      split
      · exact .cons form .nil
      · exact .nil

end Primary

namespace RawAnswer

variable (answer : RawAnswer)

def assemble (toLowercase : String → String) : AssembledMemberships :=
  assembleMemberships toLowercase answer.sid answer.principal answer.primary
    answer.transitiveGroups answer.pgParents

def closure : Closure :=
  (collectClosure answer.sid
    (returnedEntries answer.transitiveGroups answer.pgParents (answer.primary.bind Prod.snd))).1

def withoutSid : List String :=
  (collectClosure answer.sid
    (returnedEntries answer.transitiveGroups answer.pgParents (answer.primary.bind Prod.snd))).2

def seeds : List String := seedKeys answer.principal (answer.primary.bind Prod.snd)

/-- The groups of the token. -/
def kept : Closure := keptClosure answer.closure answer.seeds

/-- The groups of the token other than the primary group. -/
def rest : Closure :=
  answer.kept.filter (fun entry => some entry.2.sid ≠ answer.primary.map Prod.fst)

/-- The entries whose historical SIDs belong to a membership. -/
def historyEntries : List RawEntry :=
  primaryEntries answer.sid answer.primary ++ answer.rest.map (fun entry => entry.2.entry)

/-- The direct memberships of the principal and of the groups of the token. -/
def attributes : List (List String) :=
  (answer.principal :: answer.kept.map (fun entry => entry.2.entry)).map
    (fun entry => entry.allAttr "memberOf")

/-- The keys of the groups outside the resolved set. -/
def outsideKeys : List String :=
  (sortedMemberOf answer.principal ++ answer.kept.flatMap (fun entry => entry.2.parents)).filter
    (fun dn =>
      !answer.kept.containsKey dn &&
        !((answer.closure.filter (isExcluded answer.closure answer.seeds)).map Prod.fst).contains dn &&
        dn != answer.principal.key &&
        !answer.withoutSid.any (fun unread => Text.eqIgnoreAsciiCase unread dn))

/-- The gap about the groups outside the resolved set reads the same, whichever
of the offered spellings names each of them. -/
def SpellingsSettled : Prop :=
  ∀ one other : String → String,
    (∀ dn ∈ answer.outsideKeys, one dn ∈ offered dn answer.attributes) →
    (∀ dn ∈ answer.outsideKeys, other dn ∈ offered dn answer.attributes) →
      outsideGap (orderedSet (answer.outsideKeys.map one)) =
        outsideGap (orderedSet (answer.outsideKeys.map other))

/-- The assembled memberships are the same for every order of the answer. -/
def OrderIndependent (toLowercase : String → String) : Prop :=
  ∀ other, SameAnswer Reordered answer other →
    other.assemble toLowercase = answer.assemble toLowercase

/-- The name under which a group outside the resolved set is listed. -/
def spelling (dn : String) : String :=
  (((answer.attributes.flatten.map (fun value => (Text.toAsciiLowercase value, value))).reverse.lookup
    dn).getD dn)

def outside : List String := orderedSet (answer.outsideKeys.map answer.spelling)

def primaryPart : List GroupMembership :=
  primaryMemberships answer.sid answer.principal answer.primary answer.kept
    (RouteTable.build answer.kept answer.seeds)

def sortedRest (toLowercase : String → String) : Closure :=
  answer.rest.insertionSort (fun left right =>
    membershipLe toLowercase (RouteTable.build answer.kept answer.seeds) left right = true)

theorem assemble_eq (toLowercase : String → String) :
    answer.assemble toLowercase =
      { memberships := answer.primaryPart ++ (answer.sortedRest toLowercase).map
          (closureMembership answer.sid answer.principal answer.kept
            (RouteTable.build answer.kept answer.seeds))
        gaps := gapUnlessEmpty (unknownTypes answer.closure answer.seeds) unknownTypeGap ++
          gapUnlessEmpty answer.withoutSid withoutSidGap ++
          gapUnlessEmpty answer.outside outsideGap
        excluded := excludedReasons answer.closure answer.seeds
        tokenSetGaps := gapUnlessEmpty answer.outside outsideGap } := by
  rfl

section Same

variable {related : RawEntry → RawEntry → Prop} {answer : RawAnswer} {other : RawAnswer}
  (reorders : ∀ entry form, related entry form → Reordered entry form)
  (same : SameAnswer related answer other)

include reorders same

theorem closure_alike : List.Forall₂ (Alike related) answer.closure other.closure := by
  rw [closure, closure, same.sid]
  exact (collectClosure_alike reorders answer.sid answer.groups_distinct answer.parents_distinct
    same.transitiveGroups same.pgParents same.primary).1

theorem withoutSid_eq : other.withoutSid = answer.withoutSid := by
  rw [withoutSid, withoutSid, same.sid]
  exact (collectClosure_alike reorders answer.sid answer.groups_distinct answer.parents_distinct
    same.transitiveGroups same.pgParents same.primary).2.symm

theorem seeds_eq : other.seeds = answer.seeds := by
  rw [seeds, seeds, seedKeys, seedKeys, (reorders _ _ same.principal).sortedMemberOf,
    same.primary.keys_eq reorders]

theorem kept_alike : List.Forall₂ (Alike related) answer.kept other.kept := by
  rw [kept, kept, seeds_eq reorders same]
  exact alike_kept (closure_alike reorders same) answer.seeds

theorem routes_eq :
    RouteTable.build other.kept other.seeds = RouteTable.build answer.kept answer.seeds := by
  rw [seeds_eq reorders same]
  exact (alike_build (kept_alike reorders same) answer.seeds).symm

theorem sortedRest_alike (toLowercase : String → String) :
    List.Forall₂ (Alike related) (answer.sortedRest toLowercase)
      (other.sortedRest toLowercase) := by
  rw [sortedRest, sortedRest, routes_eq reorders same]
  refine forall₂_insertionSort (alike_membershipLe toLowercase _) ?_
  rw [rest, rest, same.primary.sid_eq]
  exact filter_forall₂ (fun _ _ alike => by rw [alike.sid]) (kept_alike reorders same)

theorem outsideKeys_eq : other.outsideKeys = answer.outsideKeys := by
  have keys : answer.kept.containsKey = other.kept.containsKey :=
    funext (alike_containsKey (kept_alike reorders same))
  have excluded := alike_excludedKeys (closure_alike reorders same) answer.seeds
  have parents : answer.kept.flatMap (fun entry => entry.2.parents) =
      other.kept.flatMap (fun entry => entry.2.parents) :=
    congrArg List.flatten
      (map_eq_of_forall₂ (fun _ _ alike => alike.parents) (kept_alike reorders same))
  rw [outsideKeys, outsideKeys, seeds_eq reorders same, withoutSid_eq reorders same,
    (reorders _ _ same.principal).key, (reorders _ _ same.principal).sortedMemberOf, ← keys,
    ← excluded, ← parents]

theorem primaryPart_eq_iff :
    other.primaryPart = answer.primaryPart ↔
      List.Forall₂ SameHistory (primaryEntries answer.sid answer.primary)
        (primaryEntries other.sid other.primary) := by
  rw [primaryPart, primaryPart, routes_eq reorders same, same.sid]
  exact primaryMemberships_eq_iff reorders (kept_alike reorders same) same.principal same.primary
    answer.sid _

theorem restPart_eq_iff (toLowercase : String → String) :
    (other.sortedRest toLowercase).map (closureMembership other.sid other.principal other.kept
          (RouteTable.build other.kept other.seeds)) =
        (answer.sortedRest toLowercase).map (closureMembership answer.sid answer.principal
          answer.kept (RouteTable.build answer.kept answer.seeds)) ↔
      List.Forall₂ (fun left right => SameHistory left.2.entry right.2.entry)
        (answer.sortedRest toLowercase) (other.sortedRest toLowercase) := by
  rw [routes_eq reorders same, same.sid]
  exact map_eq_map_iff_forall₂ (fun left right alike =>
    alike_membership_iff reorders (kept_alike reorders same) answer.sid same.principal _ alike)
    (sortedRest_alike reorders same toLowercase)

/-- Two forms of an answer assemble to the same memberships exactly when the
historical SIDs and the gap about groups outside the resolved set agree. -/
theorem assemble_eq_iff (toLowercase : String → String) :
    other.assemble toLowercase = answer.assemble toLowercase ↔
      List.Forall₂ SameHistory (primaryEntries answer.sid answer.primary)
        (primaryEntries other.sid other.primary) ∧
      List.Forall₂ (fun left right => SameHistory left.2.entry right.2.entry)
        (answer.sortedRest toLowercase) (other.sortedRest toLowercase) ∧
      gapUnlessEmpty other.outside outsideGap = gapUnlessEmpty answer.outside outsideGap := by
  have unknown := alike_unknownTypes reorders (closure_alike reorders same) answer.seeds
  have excluded := alike_excludedReasons reorders (closure_alike reorders same) answer.seeds
  have lengths := (sortedRest_alike reorders same toLowercase).length_eq
  rw [← primaryPart_eq_iff reorders same, ← restPart_eq_iff reorders same toLowercase,
    assemble_eq, assemble_eq, AssembledMemberships.mk.injEq]
  constructor
  · intro equal
    have parts := List.append_inj' equal.1 (by rw [List.length_map, List.length_map, lengths])
    exact ⟨parts.1, parts.2, equal.2.2.2⟩
  · intro parts
    refine ⟨by rw [parts.1, parts.2.1], ?_, ?_, parts.2.2⟩
    · rw [parts.2.2, seeds_eq reorders same, withoutSid_eq reorders same, unknown]
    · rw [seeds_eq reorders same, excluded]

end Same

theorem textSids_perm {entry form : RawEntry} (reordered : Reordered entry form) :
    (textSids form).Perm (textSids entry) :=
  reordered.textHistory.filterMap _

theorem binSids_perm {entry form : RawEntry} (reordered : Reordered entry form) :
    (binSids form).Perm (binSids entry) :=
  reordered.binHistory.filterMap _

theorem eq_of_perm_of_one {first second : List Sid} (perm : first.Perm second)
    (one : ∀ left ∈ second, ∀ right ∈ second, left = right) : first = second := by
  have same : ∀ left right, left ∈ first → right ∈ second → True → True → left = right :=
    fun left right leftMem rightMem _ _ => one left (perm.mem_iff.mp leftMem) right rightMem
  exact perm.eq_of_pairwise same (List.pairwise_of_forall (fun _ _ => trivial))
    (List.pairwise_of_forall (fun _ _ => trivial))

theorem sameHistory_of_settled {entry form : RawEntry} (reordered : Reordered entry form)
    (settled : HistorySettled entry) : SameHistory entry form := by
  rw [SameHistory, parseSidHistory_eq, parseSidHistory_eq,
    eq_of_perm_of_one (textSids_perm reordered) settled.1,
    eq_of_perm_of_one (binSids_perm reordered) settled.2]

theorem lookup_keyed (dn : String) (values : List String) :
    (values.map (fun value => (Text.toAsciiLowercase value, value))).lookup dn =
      (values.filter (fun value => Text.toAsciiLowercase value = dn)).head? := by
  induction values with
  | nil => rfl
  | cons value rest known =>
      rw [List.map_cons, List.lookup_cons, List.filter_cons]
      by_cases same : Text.toAsciiLowercase value = dn
      · rw [if_pos (decide_eq_true same), same, beq_self_eq_true]
        rfl
      · rw [if_neg (fun equal => same (of_decide_eq_true equal)),
          beq_false_of_ne (fun equal => same equal.symm)]
        exact known

theorem filter_flatten_getLast (dn : String) (blocks : List (List String)) :
    (blocks.flatten.filter (fun value => Text.toAsciiLowercase value = dn)).getLast? =
      (offered dn blocks).getLast? := by
  induction blocks with
  | nil => rfl
  | cons values rest known =>
      rw [List.flatten_cons, List.filter_append, List.getLast?_append, known, offered]
      cases offers : offered dn rest with
      | nil => rfl
      | cons first others =>
          rw [List.isEmpty_cons, if_neg Bool.false_ne_true, List.getLast?_cons, Option.some_or]

/-- The spelling is the last one offered. -/
theorem spelling_eq (answer : RawAnswer) (dn : String) :
    answer.spelling dn = ((offered dn answer.attributes).getLast?).getD dn := by
  rw [spelling, ← List.map_reverse, lookup_keyed, List.filter_reverse, List.head?_reverse,
    filter_flatten_getLast]

theorem offered_perm (dn : String) {blocks others : List (List String)}
    (perms : List.Forall₂ (fun values form => form.Perm values) blocks others) :
    (offered dn others).Perm (offered dn blocks) := by
  induction perms with
  | nil => exact List.Perm.refl _
  | cons head _ known =>
      have empty := known.isEmpty_eq
      rw [offered, offered, empty]
      split
      · exact head.filter _
      · exact known

theorem offered_ne_nil {dn value : String} {blocks : List (List String)} {values : List String}
    (block : values ∈ blocks) (inside : value ∈ values)
    (key : Text.toAsciiLowercase value = dn) : offered dn blocks ≠ [] := by
  intro empty
  have last := filter_flatten_getLast dn blocks
  rw [empty, List.getLast?_nil, List.getLast?_eq_none_iff] at last
  have member : value ∈ blocks.flatten.filter (fun value => Text.toAsciiLowercase value = dn) :=
    List.mem_filter.mpr ⟨List.mem_flatten.mpr ⟨values, block, inside⟩, decide_eq_true key⟩
  rw [last] at member
  cases member

/-- The groups of the token keep the direct memberships of their entries. -/
theorem parents_of_mem_kept {answer : RawAnswer} {entry : String × ClosureGroup}
    (inside : entry ∈ answer.kept) : entry.2.parents = sortedMemberOf entry.2.entry := by
  have member : entry ∈ answer.closure := by
    rw [kept, keptClosure] at inside
    exact (List.mem_filter.mp (List.mem_filter.mp inside).1).1
  rcases collect_spec answer.sid (returnedEntries answer.transitiveGroups answer.pgParents
    (answer.primary.bind Prod.snd)) [] [] List.nodup_nil with ⟨fresh, lost, ran, collected⟩
  rw [closure, collectClosure, ran, List.nil_append, List.mem_insertionSort] at member
  rcases collected.stored entry.1 entry.2 member with ⟨returned, _, _, _, _, shape⟩
  rw [shape]
  rfl

theorem mem_sortedMemberOf {entry : RawEntry} {dn : String} :
    dn ∈ sortedMemberOf entry ↔
      ∃ value ∈ entry.allAttr "memberOf", Text.toAsciiLowercase value = dn := by
  rw [sortedMemberOf, mem_orderedSet, List.mem_map]

theorem spelling_offered {answer : RawAnswer} {dn : String} (outside : dn ∈ answer.outsideKeys) :
    answer.spelling dn ∈ offered dn answer.attributes := by
  have present : offered dn answer.attributes ≠ [] := by
    rcases List.mem_append.mp (List.mem_filter.mp outside).1 with own | nested
    · rcases mem_sortedMemberOf.mp own with ⟨value, inside, key⟩
      exact offered_ne_nil List.mem_cons_self inside key
    · rcases List.mem_flatMap.mp nested with ⟨entry, member, parent⟩
      rw [parents_of_mem_kept member] at parent
      rcases mem_sortedMemberOf.mp parent with ⟨value, inside, key⟩
      refine offered_ne_nil (List.mem_map.mpr ⟨entry.2.entry, ?_, rfl⟩) inside key
      exact List.mem_cons_of_mem _ (List.mem_map_of_mem member)
  rw [spelling_eq, List.getLast?_eq_some_getLast present, Option.getD_some]
  exact List.getLast_mem present

theorem gap_outside (answer : RawAnswer) :
    gapUnlessEmpty answer.outside outsideGap =
      if answer.outsideKeys = [] then []
      else [outsideGap (orderedSet (answer.outsideKeys.map answer.spelling))] := by
  rw [outside, gapUnlessEmpty]
  by_cases nothing : answer.outsideKeys = []
  · rw [if_pos nothing, nothing]
    rfl
  · rw [if_neg nothing, if_neg]
    intro empty
    rcases List.exists_mem_of_ne_nil _ nothing with ⟨dn, inside⟩
    have member : answer.spelling dn ∈ orderedSet (answer.outsideKeys.map answer.spelling) :=
      mem_orderedSet.mpr (List.mem_map_of_mem inside)
    rw [List.isEmpty_iff.mp empty] at member
    cases member

/-- The answer with the values of every entry arranged. -/
def arranged (answer : RawAnswer) (arrangement : Arrangement) : RawAnswer where
  sid := answer.sid
  principal := arrangement.entry answer.principal
  primary := answer.primary.map (fun found => (found.1, found.2.map arrangement.entry))
  transitiveGroups := answer.transitiveGroups.map arrangement.entry
  pgParents := answer.pgParents.map arrangement.entry
  groups_distinct := by
    rw [List.map_map]
    exact answer.groups_distinct
  parents_distinct := by
    rw [List.map_map]
    exact answer.parents_distinct

theorem arranged_forms (arrangement : Arrangement) (entries : List RawEntry) :
    List.Forall₂ (fun entry form => form = arrangement.entry entry) entries
      (entries.map arrangement.entry) := by
  rw [List.forall₂_map_right_iff]
  exact List.forall₂_same.mpr (fun _ _ => rfl)

theorem arranged_same (answer : RawAnswer) (arrangement : Arrangement) :
    SameAnswer (fun entry form => form = arrangement.entry entry) answer
      (answer.arranged arrangement) where
  sid := rfl
  principal := rfl
  primary := by
    rw [arranged]
    dsimp only
    rcases answer.primary with _ | ⟨sid, _ | entry⟩
    · exact .none
    · exact .notFound sid
    · exact .found sid rfl
  transitiveGroups := ⟨_, List.Perm.refl _, arranged_forms arrangement _⟩
  pgParents := ⟨_, List.Perm.refl _, arranged_forms arrangement _⟩

theorem primaryEntries_arranged (answer : RawAnswer) (arrangement : Arrangement) :
    primaryEntries (answer.arranged arrangement).sid (answer.arranged arrangement).primary =
      (primaryEntries answer.sid answer.primary).map arrangement.entry := by
  rw [arranged]
  dsimp only
  rcases answer.primary with _ | ⟨sid, entry⟩
  · rfl
  · rw [Option.map_some, primaryEntries, primaryEntries]
    dsimp only
    split
    · exact Option.toList_map
    · rfl

theorem arranged_reordered (arrangement : Arrangement) :
    ∀ entry form, form = arrangement.entry entry → Reordered entry form := by
  intro entry form equal
  rw [equal]
  exact arrangement.reordered entry

/-- What independence says about an arrangement. -/
theorem OrderIndependent.assemble_arranged {toLowercase : String → String} {answer : RawAnswer}
    (independent : answer.OrderIndependent toLowercase) (arrangement : Arrangement) :
    (answer.arranged arrangement).assemble toLowercase = answer.assemble toLowercase :=
  independent _ ((answer.arranged_same arrangement).weaken (arranged_reordered arrangement))

/-- An entry with a membership lists the same historical SIDs in every
arrangement of its values. -/
theorem OrderIndependent.sameHistory {toLowercase : String → String} {answer : RawAnswer}
    (independent : answer.OrderIndependent toLowercase) (arrangement : Arrangement) :
    ∀ entry ∈ answer.historyEntries, SameHistory entry (arrangement.entry entry) := by
  have reorders := arranged_reordered arrangement
  have same := answer.arranged_same arrangement
  have parts := (assemble_eq_iff reorders same toLowercase).mp (independent.assemble_arranged arrangement)
  intro entry inside
  rcases List.mem_append.mp inside with primary | nested
  · have histories := parts.1
    rw [primaryEntries_arranged, List.forall₂_map_right_iff, List.forall₂_same] at histories
    exact histories entry primary
  · rcases List.mem_map.mp nested with ⟨group, member, rfl⟩
    have histories : List.Forall₂
        (fun (left right : String × ClosureGroup) =>
          SameHistory left.2.entry (arrangement.entry left.2.entry) ∧ right = right)
        (answer.sortedRest toLowercase) ((answer.arranged arrangement).sortedRest toLowercase) := by
      refine List.Forall₂.mp ?_ (sortedRest_alike reorders same toLowercase) parts.2.1
      intro left right alike history
      rw [alike.entry] at history
      exact ⟨history, rfl⟩
    exact ((List.forall₂_and_left _ _).mp histories).1 group ((List.mem_insertionSort _).mpr member)

/-- With the same history in every arrangement, the values of one class name one
SID: any of them can be brought to the front. -/
theorem historySettled_of_sameHistory {entry : RawEntry}
    (same : ∀ arrangement : Arrangement, SameHistory entry (arrangement.entry entry)) :
    HistorySettled entry := by
  have split : ∀ arrangement : Arrangement,
      textSids (arrangement.entry entry) = textSids entry ∧
        binSids (arrangement.entry entry) = binSids entry := by
    intro arrangement
    have history := same arrangement
    rw [SameHistory, parseSidHistory_eq, parseSidHistory_eq] at history
    exact List.append_inj history (textSids_perm (arrangement.reordered entry)).length_eq
  have textHead : ∀ sid ∈ textSids entry, (textSids entry).head? = some sid := by
    intro sid inside
    rcases List.mem_filterMap.mp inside with ⟨text, member, read⟩
    rcases head_frontFirst member with ⟨others, front⟩
    have arranged := (split (.historyFirst text [])).1
    rw [← arranged, textSids, Arrangement.allAttr_history, Arrangement.historyFirst]
    dsimp only
    rw [front, List.filterMap_cons, read]
    rfl
  have binHead : ∀ sid ∈ binSids entry, (binSids entry).head? = some sid := by
    intro sid inside
    rcases List.mem_filterMap.mp inside with ⟨bytes, member, read⟩
    rcases head_frontFirst member with ⟨others, front⟩
    have arranged := (split (.historyFirst "" bytes)).2
    rw [← arranged, binSids, Arrangement.binHistory_entry, Arrangement.historyFirst]
    dsimp only
    rw [front, List.filterMap_cons, read]
    rfl
  constructor
  · intro first firstMem second secondMem
    exact Option.some.inj ((textHead first firstMem).symm.trans (textHead second secondMem))
  · intro first firstMem second secondMem
    exact Option.some.inj ((binHead first firstMem).symm.trans (binHead second secondMem))

/-! ## Spellings of an order-independent answer -/

/-- The values whose spelling is the chosen one go last. -/
def chosenLast (choice : String → String) (values : List String) : List String :=
  values.filter (fun value => choice (Text.toAsciiLowercase value) ≠ value) ++
    values.filter (fun value => !decide (choice (Text.toAsciiLowercase value) ≠ value))

theorem chosenLast_perm (choice : String → String) (values : List String) :
    (chosenLast choice values).Perm values :=
  List.filter_append_perm _ values

theorem chosenLast_getLast {choice : String → String} {dn : String} {values : List String}
    (inside : choice dn ∈ values) (key : Text.toAsciiLowercase (choice dn) = dn) :
    ((chosenLast choice values).filter
      (fun value => Text.toAsciiLowercase value = dn)).getLast? = some (choice dn) := by
  have chosen : ∀ value, value ∈ (values.filter
      (fun value => !decide (choice (Text.toAsciiLowercase value) ≠ value))).filter
        (fun value => Text.toAsciiLowercase value = dn) ↔ value = choice dn := by
    intro value
    rw [List.mem_filter, List.mem_filter]
    constructor
    · intro both
      have same := of_decide_eq_true both.2
      have picked : choice (Text.toAsciiLowercase value) = value := by
        simpa using both.1.2
      rw [← picked, same]
    · intro equal
      rw [equal, key]
      exact ⟨⟨inside, by simp⟩, decide_eq_true rfl⟩
  have present := List.ne_nil_of_mem ((chosen (choice dn)).mpr rfl)
  rw [chosenLast, List.filter_append, List.getLast?_append, List.getLast?_eq_some_getLast present,
    Option.some_or, (chosen _).mp (List.getLast_mem present)]

theorem mem_offered {dn value : String} {blocks : List (List String)}
    (inside : value ∈ offered dn blocks) : Text.toAsciiLowercase value = dn := by
  induction blocks with
  | nil => cases inside
  | cons values rest known =>
      rw [offered] at inside
      split at inside
      · exact of_decide_eq_true (List.mem_filter.mp inside).2
      · exact known inside

/-- Any offered spelling becomes the last one in some arrangement. -/
theorem offered_chosenLast {choice : String → String} {dn : String} {blocks : List (List String)}
    (inside : choice dn ∈ offered dn blocks) :
    (offered dn (blocks.map (chosenLast choice))).getLast? = some (choice dn) := by
  induction blocks with
  | nil => cases inside
  | cons values rest known =>
      have key := mem_offered inside
      have perms : List.Forall₂ (fun values form => form.Perm values) rest
          (rest.map (chosenLast choice)) := by
        rw [List.forall₂_map_right_iff]
        exact List.forall₂_same.mpr (fun values _ => chosenLast_perm choice values)
      have empty := (offered_perm dn perms).isEmpty_eq
      rw [offered] at inside
      rw [List.map_cons, offered, empty]
      split at inside
      · rename_i nothing
        rw [if_pos nothing]
        exact chosenLast_getLast (List.mem_filter.mp inside).1 key
      · rename_i something
        rw [if_neg something]
        exact known inside

theorem attributes_arranged (answer : RawAnswer) (arrangement : Arrangement) :
    (answer.arranged arrangement).attributes = answer.attributes.map arrangement.memberOf := by
  have groups : answer.kept.map
        (fun entry => arrangement.memberOf (entry.2.entry.allAttr "memberOf")) =
      (answer.arranged arrangement).kept.map (fun entry => entry.2.entry.allAttr "memberOf") :=
    map_eq_of_forall₂
      (fun left right alike => by rw [alike.entry, arrangement.allAttr_memberOf])
      (kept_alike (arranged_reordered arrangement) (answer.arranged_same arrangement))
  have own := arrangement.allAttr_memberOf answer.principal
  rw [attributes, attributes, List.map_cons, List.map_cons, List.map_cons, List.map_map,
    List.map_map, List.map_map]
  exact congrArg₂ List.cons own groups.symm

/-- An arrangement names every group outside the resolved set in a chosen offered
spelling. -/
theorem gap_chosen (answer : RawAnswer) {choice : String → String}
    (offers : ∀ dn ∈ answer.outsideKeys, choice dn ∈ offered dn answer.attributes) :
    gapUnlessEmpty
        (answer.arranged (.ofMemberOf (chosenLast choice) (chosenLast_perm choice))).outside
        outsideGap =
      if answer.outsideKeys = [] then []
      else [outsideGap (orderedSet (answer.outsideKeys.map choice))] := by
  have keys := outsideKeys_eq (arranged_reordered _)
    (answer.arranged_same (.ofMemberOf (chosenLast choice) (chosenLast_perm choice)))
  have chosen : ∀ dn ∈ answer.outsideKeys,
      (answer.arranged (.ofMemberOf (chosenLast choice) (chosenLast_perm choice))).spelling dn =
        choice dn := by
    intro dn outside
    rw [spelling_eq, attributes_arranged, Arrangement.ofMemberOf]
    dsimp only
    rw [offered_chosenLast (offers dn outside), Option.getD_some]
  rw [gap_outside, keys, List.map_congr_left chosen]

theorem spellingsSettled_of_orderIndependent {toLowercase : String → String} {answer : RawAnswer}
    (independent : answer.OrderIndependent toLowercase) : answer.SpellingsSettled := by
  have read : ∀ choice : String → String,
      (∀ dn ∈ answer.outsideKeys, choice dn ∈ offered dn answer.attributes) →
        (if answer.outsideKeys = [] then []
          else [outsideGap (orderedSet (answer.outsideKeys.map choice))]) =
          gapUnlessEmpty answer.outside outsideGap := by
    intro choice offers
    rw [← gap_chosen answer offers]
    exact ((assemble_eq_iff (arranged_reordered _) (answer.arranged_same _) toLowercase).mp
      (independent.assemble_arranged _)).2.2
  intro one other oneOffers otherOffers
  have same := (read one oneOffers).trans (read other otherOffers).symm
  by_cases nothing : answer.outsideKeys = []
  · rw [nothing, List.map_nil, List.map_nil]
  · rw [if_neg nothing, if_neg nothing] at same
    exact List.head_eq_of_cons_eq same

/-! ## Settled answers -/

section Settled

variable {answer other : RawAnswer} (same : SameAnswer Reordered answer other)

include same

theorem attributes_forms :
    List.Forall₂ (fun values form => form.Perm values) answer.attributes other.attributes := by
  rw [attributes, attributes, List.forall₂_map_left_iff, List.forall₂_map_right_iff]
  refine .cons same.principal.memberOf ?_
  rw [List.forall₂_map_left_iff, List.forall₂_map_right_iff]
  exact (kept_alike (fun _ _ form => form) same).imp (fun _ _ alike => alike.entry.memberOf)

theorem histories_of_settled (toLowercase : String → String)
    (settled : ∀ entry ∈ answer.historyEntries, HistorySettled entry) :
    List.Forall₂ SameHistory (primaryEntries answer.sid answer.primary)
        (primaryEntries other.sid other.primary) ∧
      List.Forall₂ (fun left right => SameHistory left.2.entry right.2.entry)
        (answer.sortedRest toLowercase) (other.sortedRest toLowercase) := by
  constructor
  · have forms := (List.forall₂_and_left _ _).mpr
      ⟨fun entry inside => settled entry (List.mem_append_left _ inside),
        same.primary.entries answer.sid⟩
    rw [same.sid]
    exact forms.imp (fun _ _ both => sameHistory_of_settled both.2 both.1)
  · have groups : ∀ group ∈ answer.sortedRest toLowercase, HistorySettled group.2.entry := by
      intro group inside
      apply settled
      exact List.mem_append_right _
        (List.mem_map_of_mem ((List.mem_insertionSort _).mp inside))
    have forms := (List.forall₂_and_left _ _).mpr
      ⟨groups, sortedRest_alike (fun _ _ form => form) same toLowercase⟩
    exact forms.imp (fun _ _ both => sameHistory_of_settled both.2.entry both.1)

theorem gap_of_settled (settled : answer.SpellingsSettled) :
    gapUnlessEmpty other.outside outsideGap = gapUnlessEmpty answer.outside outsideGap := by
  have keys := outsideKeys_eq (fun _ _ form => form) same
  have offers : ∀ dn ∈ answer.outsideKeys, other.spelling dn ∈ offered dn answer.attributes := by
    intro dn outside
    rw [← keys] at outside
    exact (offered_perm dn (attributes_forms same)).mem_iff.mp (spelling_offered outside)
  rw [gap_outside, gap_outside, keys,
    settled other.spelling answer.spelling offers (fun dn outside => spelling_offered outside)]

end Settled

/-- The memberships do not depend on the order of the answer exactly when, in
every group with a membership, the historical SIDs of one class are one, and the
gap about groups outside the resolved set reads the same in every offered
spelling. -/
theorem orderIndependent_iff (toLowercase : String → String) (answer : RawAnswer) :
    answer.OrderIndependent toLowercase ↔
      (∀ entry ∈ answer.historyEntries, HistorySettled entry) ∧ answer.SpellingsSettled := by
  constructor
  · intro independent
    refine ⟨fun entry inside => ?_, spellingsSettled_of_orderIndependent independent⟩
    apply historySettled_of_sameHistory
    exact fun arrangement => independent.sameHistory arrangement entry inside
  · intro settled other same
    have histories := histories_of_settled same toLowercase settled.1
    apply (assemble_eq_iff (fun _ _ form => form) same toLowercase).mpr
    exact ⟨histories.1, histories.2, gap_of_settled same settled.2⟩

/-! ## A group with two historical SIDs -/

/-- A group that was migrated twice, with the values of `sIDHistory` as returned. -/
def migratedGroup (history : List (List UInt8)) : RawEntry where
  dn := "CN=Readers,DC=x"
  attrs := [("groupType", ["-2147483646"])]
  binAttrs := [("objectSid", [domainSidBytes 176 4]), ("sIDHistory", history)]

/-- A member of the migrated group. -/
def migratedAnswer (history : List (List UInt8)) : RawAnswer where
  sid := ⟨"S-1-5-21-1-2-3-1105"⟩
  principal := { dn := "CN=Anna,DC=x", attrs := [("memberOf", ["CN=Readers,DC=x"])] }
  primary := none
  transitiveGroups := [migratedGroup history]
  pgParents := []
  groups_distinct := List.nodup_singleton _
  parents_distinct := List.nodup_nil

/-- The historical SIDs in the two orders of the values. -/
theorem migrated_reordered :
    SameAnswer Reordered (migratedAnswer [domainSidBytes 177 4, domainSidBytes 178 4])
      (migratedAnswer [domainSidBytes 178 4, domainSidBytes 177 4]) where
  sid := rfl
  principal := ⟨rfl, fun _ _ _ => rfl, fun _ _ => rfl, .refl _, .refl _, .refl _⟩
  primary := .none
  transitiveGroups := by
    refine ⟨_, .refl _, .cons ⟨rfl, fun _ _ _ => rfl, ?_, .refl _, .refl _, ?_⟩ .nil⟩
    · intro name notHistory
      rw [migratedGroup, migratedGroup]
      dsimp only
      rw [List.lookup_cons, List.lookup_cons, List.lookup_cons, List.lookup_cons,
        beq_false_of_ne notHistory]
    · exact List.Perm.swap _ _ _
  pgParents := ⟨[], .refl _, .nil⟩

theorem migrated_orderDependent :
    ¬ (migratedAnswer [domainSidBytes 177 4, domainSidBytes 178 4]).OrderIndependent
      Text.toAsciiLowercase := by
  intro independent
  have differ : (migratedAnswer [domainSidBytes 178 4, domainSidBytes 177 4]).assemble
      Text.toAsciiLowercase ≠
        (migratedAnswer [domainSidBytes 177 4, domainSidBytes 178 4]).assemble
          Text.toAsciiLowercase := by
    decide
  exact differ (independent _ migrated_reordered)

end RawAnswer

end AdResolver
end Stars
