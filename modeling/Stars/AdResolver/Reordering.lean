import Stars.AdResolver.Reachability
import Stars.Order.Comparison
import Stars.Order.Sorting

namespace Stars
namespace AdResolver

open Collections Stars.Order

/-!
# The same answer in another order

A server returns entries, and the values of an attribute with several values, in
any order.  `Reordered` relates two forms of one entry; the facts the resolver
reads from an entry are the same for both, except for the list of its historical
SIDs.  The closure collected from a reordered answer has the same groups with
reordered entries, and so the same routes and the same groups left out.

A group of the one closure is `Alike` to a group of the other when they agree in
everything but the order of the values of their entries.
-/

/-- Two forms of one entry: the values of `memberOf` and of `sIDHistory` may
come in different orders.  Textual and binary values are kept apart. -/
structure Reordered (entry other : RawEntry) : Prop where
  dn : other.dn = entry.dn
  attrs : ∀ name, name ≠ "memberOf" → name ≠ "sIDHistory" →
    other.attrs.lookup name = entry.attrs.lookup name
  binAttrs : ∀ name, name ≠ "sIDHistory" → other.binAttrs.lookup name = entry.binAttrs.lookup name
  memberOf : (other.allAttr "memberOf").Perm (entry.allAttr "memberOf")
  textHistory : (other.allAttr "sIDHistory").Perm (entry.allAttr "sIDHistory")
  binHistory : ((other.binAttrs.lookup "sIDHistory").getD []).Perm
    ((entry.binAttrs.lookup "sIDHistory").getD [])

/-- The returned entries in another order, each of them in a related form. -/
def ReorderedEntries (related : RawEntry → RawEntry → Prop) (entries others : List RawEntry) :
    Prop :=
  ∃ shuffled, entries.Perm shuffled ∧ List.Forall₂ related shuffled others

/-- The answer to the primary-group lookup, with its entry in a related form. -/
inductive ReorderedPrimary (related : RawEntry → RawEntry → Prop) :
    Option (Sid × Option RawEntry) → Option (Sid × Option RawEntry) → Prop where
  | none : ReorderedPrimary related none none
  | notFound (sid : Sid) : ReorderedPrimary related (some (sid, none)) (some (sid, none))
  | found (sid : Sid) {entry other : RawEntry} (reordered : related entry other) :
      ReorderedPrimary related (some (sid, some entry)) (some (sid, some other))

/-- Two entries list the same historical SIDs. -/
def SameHistory (entry form : RawEntry) : Prop :=
  (parseSidHistory form).2 = (parseSidHistory entry).2

theorem textLe_total (left right : String) :
    textLe left right = true ∨ textLe right left = true := by
  rw [textLe, textLe, decide_eq_true_iff, decide_eq_true_iff]
  exact le_total _ _

theorem textLe_trans {first second third : String} (before : textLe first second = true)
    (after : textLe second third = true) : textLe first third = true := by
  rw [textLe, decide_eq_true_iff] at before after ⊢
  exact le_trans before after

theorem textLe_antisymm {left right : String} (before : textLe left right = true)
    (after : textLe right left = true) : left = right := by
  rw [textLe, decide_eq_true_iff] at before after
  exact codePoints_injective (le_antisymm before after)

section KeySort

variable {Item : Type} (key : Item → String)

instance : Std.Total (fun left right => textLe (key left) (key right) = true) where
  total := fun left right => textLe_total (key left) (key right)

instance : IsTrans Item (fun left right => textLe (key left) (key right) = true) where
  trans := fun _ _ _ before after => textLe_trans before after

/-- With distinct texts the sorted list does not depend on the order before. -/
theorem keySort_eq_of_perm {first second : List Item} (distinct : (first.map key).Nodup)
    (perm : first.Perm second) :
    first.insertionSort (fun left right => textLe (key left) (key right) = true) =
      second.insertionSort (fun left right => textLe (key left) (key right) = true) := by
  have sorted := (List.perm_insertionSort
    (fun left right => textLe (key left) (key right) = true) first).trans
      (perm.trans (List.perm_insertionSort
        (fun left right => textLe (key left) (key right) = true) second).symm)
  refine sorted.eq_of_pairwise ?_ (List.pairwise_insertionSort _ first)
    (List.pairwise_insertionSort _ second)
  intro left right leftMem rightMem before after
  apply List.inj_on_of_nodup_map distinct (List.mem_insertionSort _ |>.mp leftMem)
  · exact perm.mem_iff.mpr (List.mem_insertionSort _ |>.mp rightMem)
  · exact textLe_antisymm before after

end KeySort

/-- A set does not depend on the order of its elements. -/
theorem orderedSet_eq_of_mem_iff {first second : List String}
    (same : ∀ text, text ∈ first ↔ text ∈ second) : orderedSet first = orderedSet second := by
  apply keySort_eq_of_perm id
  · rw [List.map_id]
    exact List.nodup_dedup first
  · apply (List.perm_ext_iff_of_nodup (List.nodup_dedup first) (List.nodup_dedup second)).mpr
    intro text
    rw [List.mem_dedup, List.mem_dedup, same]

theorem orderedSet_eq_of_perm {first second : List String} (perm : first.Perm second) :
    orderedSet first = orderedSet second :=
  orderedSet_eq_of_mem_iff (fun _ => perm.mem_iff)

namespace Reordered

variable {entry other : RawEntry}

theorem key (reordered : Reordered entry other) : other.key = entry.key := by
  rw [RawEntry.key, RawEntry.key, reordered.dn]

theorem firstAttr (reordered : Reordered entry other) {name : String}
    (notMemberOf : name ≠ "memberOf") (notHistory : name ≠ "sIDHistory") :
    other.firstAttr name = entry.firstAttr name := by
  rw [RawEntry.firstAttr, RawEntry.firstAttr, reordered.attrs name notMemberOf notHistory]

theorem displayName (reordered : Reordered entry other) :
    entryDisplayName other = entryDisplayName entry := by
  rw [entryDisplayName, entryDisplayName, reordered.firstAttr (by decide) (by decide),
    reordered.firstAttr (by decide) (by decide)]

theorem isSecurity (reordered : Reordered entry other) :
    groupIsSecurity other = groupIsSecurity entry := by
  rw [groupIsSecurity, groupIsSecurity, reordered.firstAttr (by decide) (by decide)]

theorem sid (reordered : Reordered entry other) :
    extractSidFromEntry other = extractSidFromEntry entry := by
  rw [extractSidFromEntry, extractSidFromEntry, RawEntry.firstBinAttr, RawEntry.firstBinAttr,
    reordered.binAttrs "objectSid" (by decide), reordered.firstAttr (by decide) (by decide)]

theorem sortedMemberOf (reordered : Reordered entry other) :
    sortedMemberOf other = sortedMemberOf entry :=
  orderedSet_eq_of_perm (reordered.memberOf.map Text.toAsciiLowercase)

theorem label (reordered : Reordered entry other) : groupLabel other = groupLabel entry := by
  rw [groupLabel, groupLabel, reordered.dn, reordered.displayName]

theorem valueCount (reordered : Reordered entry other) :
    other.valueCount "sIDHistory" = entry.valueCount "sIDHistory" := by
  have texts := reordered.textHistory.length_eq
  have binaries := reordered.binHistory.length_eq
  rw [RawEntry.allAttr, RawEntry.allAttr] at texts
  rw [RawEntry.valueCount, RawEntry.valueCount, texts, binaries]

end Reordered

/-- What one returned entry adds to the closure and to the entries without a
readable SID. -/
def contribution (sid : Sid) (closure : Closure) (returned : RawEntry × Bool) :
    Closure × List String :=
  if closure.containsKey returned.1.key then ([], [])
  else
    match extractSidFromEntry returned.1 with
    | none => ([], [returned.1.dn])
    | some groupSid =>
        if groupSid = sid then ([], [])
        else ([(returned.1.key, closureGroup returned.1 returned.2 groupSid)], [])

theorem collectEntry_eq (sid : Sid) (closure : Closure) (lost : List String)
    (returned : RawEntry × Bool) :
    collectEntry sid (closure, lost) returned =
      (closure ++ (contribution sid closure returned).1,
        lost ++ (contribution sid closure returned).2) := by
  by_cases known : closure.containsKey returned.1.key
  · simp [collectEntry, contribution, known]
  · cases read : extractSidFromEntry returned.1 with
    | none => simp [collectEntry, contribution, known, read]
    | some groupSid =>
        by_cases self : groupSid = sid
        · simp [collectEntry, contribution, known, read, self]
        · simp [collectEntry, contribution, known, read, self]

theorem containsKey_iff {closure : Closure} {dn : String} :
    closure.containsKey dn = true ↔ dn ∈ closure.map Prod.fst :=
  lookup_isSome_iff_mem closure

theorem contribution_congr {sid : Sid} {closure other : Closure} {returned : RawEntry × Bool}
    (same : returned.1.key ∈ closure.map Prod.fst ↔ returned.1.key ∈ other.map Prod.fst) :
    contribution sid closure returned = contribution sid other returned := by
  have known : closure.containsKey returned.1.key = other.containsKey returned.1.key :=
    Bool.eq_iff_iff.mpr (containsKey_iff.trans (same.trans containsKey_iff.symm))
  rw [contribution, contribution, known]

theorem keys_contribution {sid : Sid} {closure : Closure} {returned : RawEntry × Bool} {dn : String}
    (inside : dn ∈ (contribution sid closure returned).1.map Prod.fst) : dn = returned.1.key := by
  rw [contribution] at inside
  split at inside
  · cases inside
  · split at inside
    · cases inside
    · split at inside
      · cases inside
      · exact List.mem_singleton.mp inside

/-- Entries with distinct names are collected each for itself. -/
theorem collect_eq (sid : Sid) (returned : List (RawEntry × Bool)) :
    ∀ (closure : Closure) (lost : List String),
      (returned.map (fun entry => entry.1.key)).Nodup →
      returned.foldl (collectEntry sid) (closure, lost) =
        (closure ++ returned.flatMap (fun entry => (contribution sid closure entry).1),
          lost ++ returned.flatMap (fun entry => (contribution sid closure entry).2)) := by
  induction returned with
  | nil => simp
  | cons head tail known =>
      intro closure lost distinct
      rcases List.nodup_cons.mp distinct with ⟨fresh, rest⟩
      have unaffected : ∀ entry ∈ tail,
          contribution sid (closure ++ (contribution sid closure head).1) entry =
            contribution sid closure entry := by
        intro entry inside
        refine contribution_congr ?_
        rw [List.map_append, List.mem_append]
        refine or_iff_left (fun added => fresh ?_)
        exact List.mem_map.mpr ⟨entry, inside, keys_contribution added⟩
      rw [List.foldl_cons, collectEntry_eq, known _ _ rest, List.flatMap_cons, List.flatMap_cons,
        List.append_assoc, List.append_assoc]
      congr 2
      · exact congrArg _ (List.flatMap_congr (fun entry inside => by rw [unaffected entry inside]))
      · exact congrArg _ (List.flatMap_congr (fun entry inside => by rw [unaffected entry inside]))

/-- The order of entries with distinct names does not matter, up to the order of
what is collected. -/
theorem collect_perm (sid : Sid) {closure other : Closure} {lost otherLost : List String}
    {returned shuffled : List (RawEntry × Bool)} (closures : closure.Perm other)
    (losts : lost.Perm otherLost) (perm : returned.Perm shuffled)
    (distinct : (returned.map (fun entry => entry.1.key)).Nodup) :
    (returned.foldl (collectEntry sid) (closure, lost)).1.Perm
        (shuffled.foldl (collectEntry sid) (other, otherLost)).1 ∧
      (returned.foldl (collectEntry sid) (closure, lost)).2.Perm
        (shuffled.foldl (collectEntry sid) (other, otherLost)).2 := by
  have same : ∀ entry, contribution sid closure entry = contribution sid other entry :=
    fun entry => contribution_congr (closures.map Prod.fst).mem_iff
  rw [collect_eq sid returned closure lost distinct,
    collect_eq sid shuffled other otherLost ((perm.map _).nodup_iff.mp distinct)]
  simp only [same]
  exact ⟨closures.append (perm.flatMap_right _), losts.append (perm.flatMap_right _)⟩

/-- The closure, and the entries without a SID, from another order of the
searches. -/
theorem collectClosure_perm {sid : Sid} {transitiveGroups shuffledGroups pgParents
    shuffledParents : List RawEntry} (primaryEntry : Option RawEntry)
    (groups : transitiveGroups.Perm shuffledGroups) (parents : pgParents.Perm shuffledParents)
    (groupsDistinct : (transitiveGroups.map RawEntry.key).Nodup)
    (parentsDistinct : (pgParents.map RawEntry.key).Nodup) :
    collectClosure sid (returnedEntries transitiveGroups pgParents primaryEntry) =
      collectClosure sid (returnedEntries shuffledGroups shuffledParents primaryEntry) := by
  have searched : ∀ {entries others : List RawEntry} {closure other : Closure}
      {lost otherLost : List String}, closure.Perm other → lost.Perm otherLost →
      entries.Perm others → (entries.map RawEntry.key).Nodup →
      ((entries.map (fun entry => (entry, false))).foldl (collectEntry sid)
          (closure, lost)).1.Perm
        ((others.map (fun entry => (entry, false))).foldl (collectEntry sid)
          (other, otherLost)).1 ∧
      ((entries.map (fun entry => (entry, false))).foldl (collectEntry sid)
          (closure, lost)).2.Perm
        ((others.map (fun entry => (entry, false))).foldl (collectEntry sid)
          (other, otherLost)).2 := by
    intro entries others closure other lost otherLost closures losts perm distinct
    refine collect_perm sid closures losts (perm.map _) ?_
    rw [List.map_map]
    exact distinct
  have first := searched (List.Perm.refl []) (List.Perm.refl []) groups groupsDistinct
  have second := searched first.1 first.2 parents parentsDistinct
  have looked : ((primaryEntry.toList.map (fun entry => (entry, true))).map
      (fun entry => entry.1.key)).Nodup := by
    cases primaryEntry with
    | none => exact List.nodup_nil
    | some entry => exact List.nodup_singleton _
  have third := collect_perm sid second.1 second.2
    (List.Perm.refl (primaryEntry.toList.map (fun entry => (entry, true)))) looked
  have split : ∀ groups parents : List RawEntry,
      (returnedEntries groups parents primaryEntry).foldl (collectEntry sid) ([], []) =
        (primaryEntry.toList.map (fun entry => (entry, true))).foldl (collectEntry sid)
          ((parents.map (fun entry => (entry, false))).foldl (collectEntry sid)
            ((groups.map (fun entry => (entry, false))).foldl (collectEntry sid) ([], []))) := by
    intro groups parents
    rw [returnedEntries, List.map_append, List.foldl_append, List.foldl_append]
  rw [← split, ← split] at third
  rcases collect_spec sid (returnedEntries transitiveGroups pgParents primaryEntry) [] []
    List.nodup_nil with ⟨fresh, rest, ran, collected⟩
  have distinct : (((returnedEntries transitiveGroups pgParents primaryEntry).foldl
      (collectEntry sid) ([], [])).1.map Prod.fst).Nodup := by
    rw [ran]
    exact collected.distinct
  rw [collectClosure, collectClosure, keySort_eq_of_perm Prod.fst distinct third.1,
    orderedSet_eq_of_perm third.2]

/-- Groups of two closures that differ in the form of their entries only. -/
structure Alike (related : RawEntry → RawEntry → Prop) (left right : String × ClosureGroup) :
    Prop where
  key : left.1 = right.1
  sid : left.2.sid = right.2.sid
  name : left.2.name = right.2.name
  parents : left.2.parents = right.2.parents
  security : left.2.security = right.2.security
  entry : related left.2.entry right.2.entry

section Related

variable {related : RawEntry → RawEntry → Prop}
  (reorders : ∀ entry other, related entry other → Reordered entry other)
  {closure other : Closure}

theorem alike_keys (alike : List.Forall₂ (Alike related) closure other) :
    closure.map Prod.fst = other.map Prod.fst := by
  induction alike with
  | nil => rfl
  | cons head _ known => rw [List.map_cons, List.map_cons, head.key, known]

theorem alike_containsKey (alike : List.Forall₂ (Alike related) closure other) (dn : String) :
    closure.containsKey dn = other.containsKey dn := by
  refine Bool.eq_iff_iff.mpr ?_
  rw [containsKey_iff, containsKey_iff, alike_keys alike]

theorem alike_lookup (alike : List.Forall₂ (Alike related) closure other) (dn : String) :
    (closure.lookup dn = none ∧ other.lookup dn = none) ∨
      ∃ left right, closure.lookup dn = some left ∧ other.lookup dn = some right ∧
        Alike related (dn, left) (dn, right) := by
  induction alike with
  | nil => exact Or.inl ⟨rfl, rfl⟩
  | @cons first second _ _ head _ known =>
      rcases first with ⟨key, left⟩
      rcases second with ⟨otherKey, right⟩
      cases head.key
      rw [List.lookup_cons, List.lookup_cons]
      by_cases here : dn = key
      · cases here
        rw [beq_self_eq_true]
        exact Or.inr ⟨left, right, rfl, rfl, head⟩
      · rw [beq_false_of_ne here]
        exact known

include reorders in
theorem closureGroup_alike {entry other : RawEntry} (same : related entry other) (flag : Bool)
    (sid : Sid) :
    Alike related (entry.key, closureGroup entry flag sid)
      (other.key, closureGroup other flag sid) := by
  have reordered := reorders entry other same
  refine ⟨reordered.key.symm, rfl, reordered.displayName.symm, reordered.sortedMemberOf.symm, ?_,
    same⟩
  simp only [closureGroup, reordered.isSecurity]

include reorders in
/-- Reordered entries are collected into alike closures. -/
theorem collectEntry_alike (sid : Sid) {entry other : RawEntry} (flag : Bool)
    {before after : Closure × List String}
    (alike : List.Forall₂ (Alike related) before.1 after.1) (lost : before.2 = after.2)
    (same : related entry other) :
    List.Forall₂ (Alike related) (collectEntry sid before (entry, flag)).1
        (collectEntry sid after (other, flag)).1 ∧
      (collectEntry sid before (entry, flag)).2 = (collectEntry sid after (other, flag)).2 := by
  have reordered := reorders entry other same
  have known : before.1.containsKey entry.key = after.1.containsKey other.key := by
    rw [reordered.key, alike_containsKey alike]
  rw [collectEntry, collectEntry]
  dsimp only
  rw [known, reordered.sid]
  split
  · exact ⟨alike, lost⟩
  · split
    · exact ⟨alike, by rw [lost, reordered.dn]⟩
    · split
      · exact ⟨alike, lost⟩
      · refine ⟨List.rel_append alike (.cons ?_ .nil), lost⟩
        exact closureGroup_alike reorders same flag _

include reorders in
theorem collect_alike (sid : Sid) {returned others : List (RawEntry × Bool)}
    (entries : List.Forall₂ (fun left right => related left.1 right.1 ∧ left.2 = right.2)
      returned others) :
    ∀ before after : Closure × List String,
      List.Forall₂ (Alike related) before.1 after.1 → before.2 = after.2 →
        List.Forall₂ (Alike related) (returned.foldl (collectEntry sid) before).1
            (others.foldl (collectEntry sid) after).1 ∧
          (returned.foldl (collectEntry sid) before).2 =
            (others.foldl (collectEntry sid) after).2 := by
  induction entries with
  | nil => exact fun _ _ alike lost => ⟨alike, lost⟩
  | @cons first second _ _ head _ known =>
      intro before after alike lost
      rcases first with ⟨entry, flag⟩
      rcases second with ⟨other, otherFlag⟩
      rcases head with ⟨same, rfl⟩
      have step := collectEntry_alike reorders sid flag alike lost same
      exact known _ _ step.1 step.2

/-! ## What alike closures share -/

variable (alike : List.Forall₂ (Alike related) closure other)

include alike in
theorem alike_parentsIn (dn : String) :
    RouteTable.parentsIn closure dn = RouteTable.parentsIn other dn := by
  have keys : closure.containsKey = other.containsKey := funext (alike_containsKey alike)
  rw [RouteTable.parentsIn, RouteTable.parentsIn]
  rcases alike_lookup alike dn with ⟨left, right⟩ | ⟨group, partner, left, right, same⟩
  · rw [left, right]
  · have parents : group.parents = partner.parents := same.parents
    rw [left, right]
    dsimp only
    rw [parents, keys]

include alike in
theorem alike_childrenIn (dn : String) :
    RouteTable.childrenIn closure dn = RouteTable.childrenIn other dn := by
  have members : List.Forall₂ (Alike related)
      (closure.filter (fun entry => entry.2.parents.contains dn))
      (other.filter (fun entry => entry.2.parents.contains dn)) :=
    filter_forall₂ (fun left right same => by rw [same.parents]) alike
  rw [RouteTable.childrenIn, RouteTable.childrenIn, alike_keys members]

include alike in
/-- Alike closures have the same routes. -/
theorem alike_build (seeds : List String) :
    RouteTable.build closure seeds = RouteTable.build other seeds := by
  have keys : closure.containsKey = other.containsKey := funext (alike_containsKey alike)
  have parents : RouteTable.parentsIn closure = RouteTable.parentsIn other :=
    funext (alike_parentsIn alike)
  have kids : closure.filterMap (fun entry =>
        let kids := RouteTable.childrenIn closure entry.1
        if kids.isEmpty then none else some (entry.1, kids)) =
      other.filterMap (fun entry =>
        let kids := RouteTable.childrenIn other entry.1
        if kids.isEmpty then none else some (entry.1, kids)) := by
    refine filterMap_eq_of_forall₂ (fun left right same => ?_) alike
    rw [same.key, alike_childrenIn alike]
  rw [RouteTable.build, RouteTable.build, kids, parents, keys, alike.length_eq]

include alike in
theorem alike_candidates :
    List.Forall₂ (Alike related) (securityCandidates closure) (securityCandidates other) :=
  filter_forall₂ (fun left right same => by rw [same.security]) alike

include alike in
theorem alike_isExcluded (seeds : List String) {left right : String × ClosureGroup}
    (same : Alike related left right) :
    isExcluded closure seeds left = isExcluded other seeds right := by
  rw [isExcluded, isExcluded, same.security, same.key, alike_build alike,
    alike_build (alike_candidates alike)]

include alike in
theorem alike_kept (seeds : List String) :
    List.Forall₂ (Alike related) (keptClosure closure seeds) (keptClosure other seeds) :=
  filter_forall₂ (fun _ _ same => by rw [alike_isExcluded alike seeds same])
    (alike_candidates alike)

include alike in
theorem alike_excludedKeys (seeds : List String) :
    (closure.filter (isExcluded closure seeds)).map Prod.fst =
      (other.filter (isExcluded other seeds)).map Prod.fst :=
  alike_keys (filter_forall₂ (fun _ _ same => alike_isExcluded alike seeds same) alike)

include reorders alike in
/-- The groups left out are named alike. -/
theorem alike_excludedReasons (seeds : List String) :
    excludedReasons closure seeds = excludedReasons other seeds := by
  refine filterMap_eq_of_forall₂ (fun left right same => ?_) alike
  rw [alike_isExcluded alike seeds same, same.security,
    (reorders _ _ same.entry).label]

include reorders alike in
theorem alike_unknownTypes (seeds : List String) :
    unknownTypes closure seeds = unknownTypes other seeds := by
  refine congrArg orderedSet (filterMap_eq_of_forall₂ (fun left right same => ?_) alike)
  rw [alike_isExcluded alike seeds same, same.security, (reorders _ _ same.entry).dn]

include alike in
/-- A fact about groups that alike groups share, looked up along some names. -/
theorem alike_filterMap {Fact : Type} (fact : ClosureGroup → Fact)
    (shared : ∀ (dn : String) (left right : ClosureGroup),
      Alike related (dn, left) (dn, right) → fact left = fact right) (dns : List String) :
    (dns.filterMap (fun dn => closure.lookup dn)).map fact =
      (dns.filterMap (fun dn => other.lookup dn)).map fact := by
  rw [List.map_filterMap, List.map_filterMap]
  refine congrArg (fun step => dns.filterMap step) (funext (fun dn => ?_))
  rcases alike_lookup alike dn with ⟨left, right⟩ | ⟨group, partner, left, right, same⟩
  · rw [left, right]
  · rw [left, right, Option.map_some, Option.map_some, shared dn group partner same]

include alike in
theorem alike_hops (dns : List String) : hops closure dns = hops other dns := by
  refine alike_filterMap alike _ (fun dn left right same => ?_) dns
  have sids : left.sid = right.sid := same.sid
  have names : left.name = right.name := same.name
  rw [sids, names]

include reorders alike in
theorem alike_membershipPath (sid : Sid) {principal principalForm : RawEntry}
    (principals : related principal principalForm) (routes : RouteTable)
    {left right : String × ClosureGroup} (same : Alike related left right) :
    membershipPath sid principal closure routes left.1 left.2 =
      membershipPath sid principalForm other routes right.1 right.2 := by
  have reordered := reorders _ _ principals
  have hopsEq : hops closure = hops other := funext (alike_hops alike)
  rw [membershipPath, membershipPath, same.key, hopsEq, reordered.displayName]
  cases routes.chainTo right.1 with
  | none =>
      dsimp only
      rw [same.sid, same.name]
  | some chain =>
      dsimp only
      rw [alike_filterMap alike ClosureGroup.sid (fun _ _ _ same => same.sid),
        alike_filterMap alike ClosureGroup.name (fun _ _ _ same => same.name)]

include reorders alike in
/-- Alike groups give the same membership exactly when their entries list the
same historical SIDs. -/
theorem alike_membership_iff (sid : Sid) {principal principalForm : RawEntry}
    (principals : related principal principalForm) (routes : RouteTable)
    {left right : String × ClosureGroup} (same : Alike related left right) :
    closureMembership sid principalForm other routes right =
        closureMembership sid principal closure routes left ↔
      SameHistory left.2.entry right.2.entry := by
  have reordered := reorders _ _ principals
  have counts : (parseSidHistory right.2.entry).1 = (parseSidHistory left.2.entry).1 :=
    (reorders _ _ same.entry).valueCount
  have paths := alike_membershipPath reorders alike sid principals routes same
  rw [closureMembership, closureMembership, GroupMembership.mk.injEq, SameHistory]
  simp only [counts, ← paths, same.sid, same.name, same.key, reordered.sortedMemberOf, true_and]

theorem alike_membershipLe (toLowercase : String → String) (routes : RouteTable) :
    ∀ first second first' second', Alike related first first' → Alike related second second' →
      (membershipLe toLowercase routes first second = true ↔
        membershipLe toLowercase routes first' second' = true) := by
  intro first second first' second' left right
  rw [membershipLe, membershipLe, left.key, left.name, right.key, right.name]

include reorders in
/-- Reordered answers are collected into alike closures. -/
theorem collectClosure_alike (sid : Sid) {transitiveGroups otherGroups pgParents otherParents :
    List RawEntry} {primary otherPrimary : Option (Sid × Option RawEntry)}
    (groupsDistinct : (transitiveGroups.map RawEntry.key).Nodup)
    (parentsDistinct : (pgParents.map RawEntry.key).Nodup)
    (groups : ReorderedEntries related transitiveGroups otherGroups)
    (parents : ReorderedEntries related pgParents otherParents)
    (primaries : ReorderedPrimary related primary otherPrimary) :
    List.Forall₂ (Alike related)
        (collectClosure sid
          (returnedEntries transitiveGroups pgParents (primary.bind Prod.snd))).1
        (collectClosure sid
          (returnedEntries otherGroups otherParents (otherPrimary.bind Prod.snd))).1 ∧
      (collectClosure sid
          (returnedEntries transitiveGroups pgParents (primary.bind Prod.snd))).2 =
        (collectClosure sid
          (returnedEntries otherGroups otherParents (otherPrimary.bind Prod.snd))).2 := by
  rcases groups with ⟨shuffledGroups, groupsPerm, groupForms⟩
  rcases parents with ⟨shuffledParents, parentsPerm, parentForms⟩
  rw [collectClosure_perm (primary.bind Prod.snd) groupsPerm parentsPerm groupsDistinct
    parentsDistinct]
  have marked : ∀ (flag : Bool) {entries others : List RawEntry},
      List.Forall₂ related entries others →
        List.Forall₂ (fun left right : RawEntry × Bool =>
          related left.1 right.1 ∧ left.2 = right.2)
          (entries.map (fun entry => (entry, flag))) (others.map (fun entry => (entry, flag))) := by
    intro flag entries others forms
    refine List.rel_map ?_ forms
    exact fun _ _ same => ⟨same, rfl⟩
  have looked : List.Forall₂ related (primary.bind Prod.snd).toList
      (otherPrimary.bind Prod.snd).toList := by
    cases primaries with
    | none => exact .nil
    | notFound sid => exact .nil
    | found sid same => exact .cons same .nil
  have collected := collect_alike reorders sid
    (List.rel_append (marked false (List.rel_append groupForms parentForms)) (marked true looked))
    ([], []) ([], []) .nil rfl
  refine ⟨?_, congrArg orderedSet collected.2⟩
  refine forall₂_insertionSort ?_ collected.1
  intro first second first' second' left right
  rw [left.key, right.key]

/-! ## The primary group -/

variable {primary otherPrimary : Option (Sid × Option RawEntry)}

theorem ReorderedPrimary.sid_eq (primaries : ReorderedPrimary related primary otherPrimary) :
    otherPrimary.map Prod.fst = primary.map Prod.fst := by
  cases primaries with
  | none => rfl
  | notFound sid => rfl
  | found sid form => rfl

include reorders in
theorem ReorderedPrimary.keys_eq (primaries : ReorderedPrimary related primary otherPrimary) :
    (otherPrimary.bind Prod.snd).toList.map RawEntry.key =
      (primary.bind Prod.snd).toList.map RawEntry.key := by
  cases primaries with
  | none => rfl
  | notFound sid => rfl
  | found sid form => exact congrArg (fun key => [key]) (reorders _ _ form).key

include reorders alike in
theorem alike_primaryMembership_iff (sid : Sid) {principal principalForm : RawEntry}
    (principals : related principal principalForm) (routes : RouteTable) (groupSid : Sid)
    {entry form : RawEntry} (same : related entry form) :
    primaryMembership sid principalForm (groupSid, some form) other routes =
        primaryMembership sid principal (groupSid, some entry) closure routes ↔
      SameHistory entry form := by
  have reordered := reorders _ _ same
  have hopsEq : hops closure = hops other := funext (alike_hops alike)
  have counts : (parseSidHistory form).1 = (parseSidHistory entry).1 := reordered.valueCount
  rw [primaryMembership, primaryMembership, GroupMembership.mk.injEq, SameHistory]
  simp only [Option.map_some, Option.getD_some, Option.bind_some, counts, hopsEq,
    reordered.displayName, reordered.key, (reorders _ _ principals).displayName, true_and]

end Related

end AdResolver
end Stars
