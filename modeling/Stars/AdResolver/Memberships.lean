import Stars.AdResolver.Routes

namespace Stars
namespace AdResolver

/-!
# Assembling the memberships

The memberships of a principal from the raw search results: the primary group,
every group of the transitive closure, and for each a concrete chain with the
further routes into it.  Windows puts only security groups into the token, and
nesting through a distribution group makes nobody a member of the groups above
it; such groups are left out and named.

Names are sorted without regard to case.  The case conversion is a parameter of
the assembly, which uses it for this order alone.
-/

/-- Memberships, the gaps found while assembling them, the groups left out of
the token and the part of the gaps that only concerns which groups the token
holds. -/
structure AssembledMemberships where
  memberships : List GroupMembership
  gaps : List String
  excluded : List String
  tokenSetGaps : List String
deriving DecidableEq

/-- One returned entry, marked when it is the result of the primary-group
lookup.  The directory enforces that a primary group is a security group, so the
type of the marked entry is not read. -/
def closureGroup (entry : RawEntry) (fromPrimaryLookup : Bool) (sid : Sid) : ClosureGroup where
  entry := entry
  sid := sid
  name := entryDisplayName entry
  parents := sortedMemberOf entry
  security := if fromPrimaryLookup then some true else groupIsSecurity entry

/-- The closure with the names of the entries without a readable SID, after one
more entry.  A cyclic nesting returns the principal as its own group; it is not
a membership. -/
def collectEntry (sid : Sid) (collected : Closure × List String) (returned : RawEntry × Bool) :
    Closure × List String :=
  if collected.1.containsKey returned.1.key then collected
  else
    match extractSidFromEntry returned.1 with
    | none => (collected.1, collected.2 ++ [returned.1.dn])
    | some groupSid =>
        if groupSid = sid then collected
        else
          (collected.1 ++ [(returned.1.key, closureGroup returned.1 returned.2 groupSid)],
            collected.2)

/-- The returned entries in the order in which they are collected. -/
def returnedEntries (transitiveGroups pgParents : List RawEntry) (primaryEntry : Option RawEntry) :
    List (RawEntry × Bool) :=
  (transitiveGroups ++ pgParents).map (fun entry => (entry, false)) ++
    primaryEntry.toList.map (fun entry => (entry, true))

def collectClosure (sid : Sid) (returned : List (RawEntry × Bool)) : Closure × List String :=
  let collected := returned.foldl (collectEntry sid) ([], [])
  (collected.1.insertionSort (fun left right => textLe left.1 right.1 = true),
    orderedSet collected.2)

/-- Hop-1 seeds: the direct groups of the principal and its primary group. -/
def seedKeys (principal : RawEntry) (primaryEntry : Option RawEntry) : List String :=
  orderedSet (sortedMemberOf principal ++ primaryEntry.toList.map RawEntry.key)

/-- The groups that are not known to be distribution groups. -/
def securityCandidates (closure : Closure) : Closure :=
  closure.filter (fun entry => entry.2.security ≠ some false)

/-- Not in the token: a distribution group, or a group that chains reach only
through one. -/
def isExcluded (closure : Closure) (seeds : List String) (entry : String × ClosureGroup) : Bool :=
  entry.2.security == some false ||
    (!(RouteTable.build (securityCandidates closure) seeds).reached entry.1 &&
      (RouteTable.build closure seeds).reached entry.1)

def groupLabel (entry : RawEntry) : String :=
  let dn := entry.dn
  match entryDisplayName entry with
  | some name => s!"{name} ({dn})"
  | none => dn

def distributionReason (label : String) : String := s!"{label} — distribution group"

def throughDistributionReason (label : String) : String :=
  s!"{label} — reached only through a distribution group"

/-- The reasons of the groups left out, in the order of the closure. -/
def excludedReasons (closure : Closure) (seeds : List String) : List String :=
  closure.filterMap (fun entry =>
    if entry.2.security = some false then some (distributionReason (groupLabel entry.2.entry))
    else if isExcluded closure seeds entry then
      some (throughDistributionReason (groupLabel entry.2.entry))
    else none)

/-- The counted groups whose type is not readable. -/
def unknownTypes (closure : Closure) (seeds : List String) : List String :=
  orderedSet (closure.filterMap (fun entry =>
    if !isExcluded closure seeds entry && entry.2.security.isNone then some entry.2.entry.dn
    else none))

def keptClosure (closure : Closure) (seeds : List String) : Closure :=
  (securityCandidates closure).filter (fun entry => !isExcluded closure seeds entry)

/-- Memberships of the principal and of its groups that are not part of the
resolved set, in the spelling of the directory. -/
def outsideGroups (principal : RawEntry) (kept : Closure) (excludedDns withoutSid : List String) :
    List String :=
  let spelled := ((principal :: kept.map (fun entry => entry.2.entry)).flatMap
    (fun entry => entry.allAttr "memberOf")).map (fun dn => (Text.toAsciiLowercase dn, dn))
  let referenced := sortedMemberOf principal ++ kept.flatMap (fun entry => entry.2.parents)
  orderedSet ((referenced.filter (fun dn =>
    !kept.containsKey dn && !excludedDns.contains dn && dn != principal.key &&
      !withoutSid.any (fun unread => Text.eqIgnoreAsciiCase unread dn))).map
    (fun dn => (spelled.reverse.lookup dn).getD dn))

def unknownTypeGap (unknown : List String) : String :=
  let count := unknown.length
  let names := summarizeDns unknown
  s!"the groupType of {count} group(s) is not readable, so whether they are security " ++
    s!"groups (and in the token) is unknown; they were counted: {names}"

def withoutSidGap (withoutSid : List String) : String :=
  let count := withoutSid.length
  let names := summarizeDns withoutSid
  s!"{count} group(s) of the transitive result have no readable objectSid and are not " ++
    s!"in the evaluated token: {names}"

def outsideGap (outside : List String) : String :=
  let count := outside.length
  let names := summarizeDns outside
  s!"the account is (directly or through its groups) a member of {count} group(s) outside " ++
    "the resolved set — typically outside the configured LDAP base or in another " ++
    s!"domain — which are not in the evaluated token: {names}"

/-- A gap about a set of groups, when there are any. -/
def gapUnlessEmpty (groups : List String) (gap : List String → String) : List String :=
  if groups.isEmpty then [] else [gap groups]

/-! ## Memberships -/

def hops (closure : Closure) (dns : List String) : List MembershipHop :=
  (dns.filterMap (fun dn => closure.lookup dn)).map
    (fun group => { sid := group.sid, name := group.name })

/-- The primary group as a membership of its own. -/
def primaryMembership (sid : Sid) (principal : RawEntry) (primary : Sid × Option RawEntry)
    (closure : Closure) (routes : RouteTable) : GroupMembership :=
  let name := primary.2.bind entryDisplayName
  let history := (primary.2.map parseSidHistory).getD (0, [])
  { memberSid := sid
    groupSid := primary.1
    direct := true
    groupName := name
    path := some
      { nodes := [sid, primary.1]
        names := [entryDisplayName principal, name]
        source := .primaryGroup
        complete := true
        alsoVia := (primary.2.map (fun entry =>
          hops closure (routes.otherEntries entry.key none))).getD [] }
    groupSidHistoryCount := history.1
    groupSidHistory := history.2 }

/-- The chain that leads to a closure group.  Membership is certain without
one; the hops are not. -/
def membershipPath (sid : Sid) (principal : RawEntry) (closure : Closure) (routes : RouteTable)
    (dn : String) (group : ClosureGroup) : MembershipPath :=
  match routes.chainTo dn with
  | some chain =>
      let reached := chain.filterMap (fun hop => closure.lookup hop)
      let lastHop := if chain.length < 2 then none else chain[chain.length - 2]?
      { nodes := sid :: reached.map ClosureGroup.sid
        names := entryDisplayName principal :: reached.map ClosureGroup.name
        source := .domainGroup
        complete := true
        alsoVia := hops closure (routes.otherEntries dn lastHop) }
  | none =>
      { nodes := [sid, group.sid]
        names := [entryDisplayName principal, group.name]
        source := .ldapMatchingRule
        complete := false
        alsoVia := hops closure (routes.otherEntries dn none) }

/-- A closure group as a membership, with its own historical SIDs. -/
def closureMembership (sid : Sid) (principal : RawEntry) (closure : Closure) (routes : RouteTable)
    (entry : String × ClosureGroup) : GroupMembership :=
  let history := parseSidHistory entry.2.entry
  { memberSid := sid
    groupSid := entry.2.sid
    direct := (sortedMemberOf principal).contains entry.1
    groupName := entry.2.name
    path := some (membershipPath sid principal closure routes entry.1 entry.2)
    groupSidHistoryCount := history.1
    groupSidHistory := history.2 }

/-- The distance by which a group is sorted; unreached groups come last. -/
def sortDistance (routes : RouteTable) (dn : String) : Nat :=
  (routes.dist.lookup dn).getD (2 ^ 64 - 1)

/-- By hop distance, then name without regard to case, then key. -/
def membershipLe (toLowercase : String → String) (routes : RouteTable)
    (left right : String × ClosureGroup) : Bool :=
  let leftDistance := sortDistance routes left.1
  let rightDistance := sortDistance routes right.1
  let leftName := toLowercase (left.2.name.getD "")
  let rightName := toLowercase (right.2.name.getD "")
  if leftDistance ≠ rightDistance then leftDistance < rightDistance
  else if leftName ≠ rightName then textLe leftName rightName
  else textLe left.1 right.1

def assembleMemberships (toLowercase : String → String) (sid : Sid) (principal : RawEntry)
    (primary : Option (Sid × Option RawEntry)) (transitiveGroups pgParents : List RawEntry) :
    AssembledMemberships :=
  let primaryEntry := primary.bind Prod.snd
  let (closure, withoutSid) :=
    collectClosure sid (returnedEntries transitiveGroups pgParents primaryEntry)
  let seeds := seedKeys principal primaryEntry
  let excludedDns := (closure.filter (isExcluded closure seeds)).map Prod.fst
  let unknown := unknownTypes closure seeds
  let kept := keptClosure closure seeds
  let outside := outsideGroups principal kept excludedDns withoutSid
  let outsideGaps := gapUnlessEmpty outside outsideGap
  let routes := RouteTable.build kept seeds
  let primaryPart := match primary with
    | some found =>
        if found.1 ≠ sid then [primaryMembership sid principal found kept routes] else []
    | none => []
  let rest := (kept.filter (fun entry => some entry.2.sid ≠ primary.map Prod.fst)).insertionSort
    (fun left right => membershipLe toLowercase routes left right = true)
  { memberships := primaryPart ++ rest.map (closureMembership sid principal kept routes)
    gaps := gapUnlessEmpty unknown unknownTypeGap ++ gapUnlessEmpty withoutSid withoutSidGap ++
      outsideGaps
    excluded := excludedReasons closure seeds
    tokenSetGaps := outsideGaps }

end AdResolver
end Stars
