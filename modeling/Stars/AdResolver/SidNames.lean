import Stars.AdResolver.ForestTrustInfo
import Stars.AdResolver.Pipeline
import Stars.Collections.AskOnce
import Stars.Validation.Net

namespace Stars
namespace AdResolver

open Collections Validation

/-!
# Names for SIDs

A report names the trustees of every entry.  The names come from the memberships,
from the analysed identity, and from Windows: the analysing machine first, then
the server whose own accounts it may not know.  A scan asks object by object and
an analysis asks for everything at once; both go through one resolver, which asks
for each SID once.
-/

/-- What Windows answers to a name lookup: the account's name and its domain. -/
structure NameLookups where
  lookupAccountForSid : Sid → Option (String × String)
  lookupSidOn : String → Sid → Option (String × String)

/-- `DOMAIN\name` of an identity; the bare name without a domain or when it
already carries one. -/
def identityDisplay (identity : Identity) : Option String :=
  let notBlank := fun text : String => !(Text.trim text.toList).isEmpty
  (identity.name.filter notBlank).map (fun name =>
    match identity.domain.filter notBlank with
    | some domain => if name.toList.contains '\\' then name else domain ++ "\\" ++ name
    | none => name)

/-- A name from the operating system is shown only when it is not blank, bounded
and free of control characters. -/
def plausibleAccountDisplay (name : String) : Bool :=
  !(Text.trim name.toList).isEmpty && decide (name.toList.length ≤ 512) &&
    !name.toList.any isControl

/-- The names so far, and the validated server that is asked second. -/
structure SidNameResolver where
  names : AskOnce Sid String := {}
  targetServer : Option String := none

/-- The plausible name Windows has for a SID. -/
def NameLookups.display (lookups : NameLookups) (targetServer : Option String) (sid : Sid) :
    Option String :=
  let found := (lookups.lookupAccountForSid sid).or
    (targetServer.bind (fun server => lookups.lookupSidOn server sid))
  (found.map (fun answer =>
    if answer.2 = "" then answer.1 else answer.2 ++ "\\" ++ answer.1)).filter
      plausibleAccountDisplay

namespace SidNameResolver

def resolve (lookups : NameLookups) (resolver : SidNameResolver) (sids : List Sid) :
    SidNameResolver :=
  { resolver with names := resolver.names.askAll ⟨lookups.display resolver.targetServer, sids⟩ }

/-- The name a membership brings along. -/
def membershipName (membership : GroupMembership) : Option String :=
  membership.groupName.filter plausibleAccountDisplay

/-- Of several named memberships in one group the last one counts. -/
def takeName (names : AskOnce Sid String) (membership : GroupMembership) : AskOnce Sid String :=
  match membershipName membership with
  | some name =>
      { known := (membership.groupSid, name) :: names.known
        tried := membership.groupSid :: names.tried }
  | none => names

/-- The groups without a name are asked for at once. -/
def newForTarget (lookups : NameLookups) (memberships : List GroupMembership)
    (targetServer : Option String) : SidNameResolver :=
  let resolver : SidNameResolver :=
    { names := memberships.foldl takeName {}
      targetServer := targetServer.bind (fun server => (validateSmbServer server).toOption) }
  resolver.resolve lookups
    ((memberships.filter (fun membership => (membershipName membership).isNone)).map
      GroupMembership.groupSid)

/-- A name that is known beforehand.  An entry that is there wins. -/
def seed (resolver : SidNameResolver) (sid : Sid) (display : String) : SidNameResolver :=
  if !(Sid.tryNew sid.value).isOk || !plausibleAccountDisplay display then resolver
  else
    { resolver with names :=
        { known := match resolver.names.known.lookup sid with
            | some _ => resolver.names.known
            | none => (sid, display) :: resolver.names.known
          tried := sid :: resolver.names.tried } }

/-- The resolver of one analysis: the memberships and the identity itself. -/
def forIdentity (lookups : NameLookups) (identity : Identity)
    (memberships : List GroupMembership) (targetServer : Option String) : SidNameResolver :=
  let resolver := newForTarget lookups memberships targetServer
  match identityDisplay identity with
  | some display => resolver.seed identity.sid display
  | none => resolver

/-- One call after the other, each with what Windows answers at that time. -/
def resolveEach (resolver : SidNameResolver) (calls : List (NameLookups × List Sid)) :
    SidNameResolver :=
  calls.foldl (fun resolver call => resolver.resolve call.1 call.2) resolver

def map (resolver : SidNameResolver) : List (Sid × String) := resolver.names.known

end SidNameResolver

open SidNameResolver

/-- Everything asked for at once. -/
def buildSidNameMapForTarget (lookups : NameLookups) (identity : Identity)
    (memberships : List GroupMembership) (extraSids : List Sid) (targetServer : Option String) :
    List (Sid × String) :=
  ((forIdentity lookups identity memberships targetServer).resolve lookups extraSids).map

/-! ## Whose name is shown -/

section Names

variable (lookups : NameLookups) (identity : Identity) (memberships : List GroupMembership)
  (targetServer : Option String)

/-- The name of the last membership in a group that brings one along. -/
def givenName (sid : Sid) : Option String :=
  ((memberships.filter (fun membership => membership.groupSid = sid)).filterMap
    membershipName).getLast?

/-- The name of the analysed identity, for its own valid SID. -/
def identityName (sid : Sid) : Option String :=
  if sid = identity.sid ∧ (Sid.tryNew identity.sid.value).isOk then
    (identityDisplay identity).filter plausibleAccountDisplay
  else none

/-- The server a resolver asks second. -/
def validServer : Option String :=
  targetServer.bind (fun server => (validateSmbServer server).toOption)

/-- Who names a SID before any object is read: its memberships, Windows for a group
without a name, and the identity. -/
def startName (sid : Sid) : Option String :=
  ((givenName memberships sid).or
    (if sid ∈ memberships.map GroupMembership.groupSid then
      lookups.display (validServer targetServer) sid
    else none)).or (identityName identity sid)

/-- The SIDs that are settled before any object is read. -/
def Settled (sid : Sid) : Prop :=
  sid ∈ memberships.map GroupMembership.groupSid ∨ (identityName identity sid).isSome

instance (sid : Sid) : Decidable (Settled identity memberships sid) :=
  inferInstanceAs (Decidable (_ ∨ _))

end Names

variable {lookups : NameLookups} {identity : Identity} {memberships : List GroupMembership}
  {targetServer : Option String} {sid : Sid} {names : AskOnce Sid String}

theorem takeName_spec (formed : names.WellFormed) (membership : GroupMembership) :
    (takeName names membership).WellFormed ∧
      (∀ sid, (takeName names membership).known.lookup sid =
        (if membership.groupSid = sid then membershipName membership else none).or
          (names.known.lookup sid)) ∧
      (∀ sid, sid ∈ (takeName names membership).tried ↔
        sid ∈ names.tried ∨ membership.groupSid = sid ∧ (membershipName membership).isSome) := by
  unfold takeName
  cases named : membershipName membership with
  | none =>
      refine ⟨formed, fun sid => ?_, fun sid => ?_⟩
      · rw [ite_self, Option.none_or]
      · simp
  | some name =>
      refine ⟨fun key member => ?_, fun sid => ?_, fun sid => ?_⟩
      · rcases List.mem_cons.mp member with same | earlier
        · exact same ▸ List.mem_cons_self
        · exact List.mem_cons_of_mem _ (formed key earlier)
      · change ((membership.groupSid, name) :: names.known).lookup sid = _
        by_cases here : membership.groupSid = sid
        · rw [if_pos here, here, List.lookup_cons_self, Option.some_or]
        · rw [if_neg here, List.lookup_cons, beq_false_of_ne (Ne.symm here), Option.none_or]
      · change sid ∈ membership.groupSid :: names.tried ↔ _
        rw [List.mem_cons, or_comm, eq_comm]
        simp

theorem givenName_cons (membership : GroupMembership) :
    givenName (membership :: memberships) sid =
      (givenName memberships sid).or
        (if membership.groupSid = sid then membershipName membership else none) := by
  unfold givenName
  by_cases here : membership.groupSid = sid
  · rw [if_pos here, List.filter_cons_of_pos (by simpa using here)]
    cases named : membershipName membership with
    | none => rw [List.filterMap_cons_none named, Option.or_none]
    | some name =>
        rw [List.filterMap_cons_some named, List.getLast?_cons, Option.or_some]
  · rw [if_neg here, List.filter_cons_of_neg (by simpa using here), Option.or_none]

theorem takeNames_spec (memberships : List GroupMembership) (formed : names.WellFormed) :
    (memberships.foldl takeName names).WellFormed ∧
      (∀ sid, (memberships.foldl takeName names).known.lookup sid =
        (givenName memberships sid).or (names.known.lookup sid)) ∧
      (∀ sid, sid ∈ (memberships.foldl takeName names).tried ↔
        sid ∈ names.tried ∨ ∃ membership ∈ memberships,
          membership.groupSid = sid ∧ (membershipName membership).isSome) := by
  induction memberships generalizing names with
  | nil =>
      refine ⟨formed, fun sid => ?_, fun sid => ?_⟩
      · exact (Option.none_or ..).symm
      · simp
  | cons membership rest further =>
      have head := takeName_spec formed membership
      have later := further head.1
      refine ⟨later.1, fun sid => ?_, fun sid => ?_⟩
      · rw [List.foldl_cons, later.2.1, head.2.1, givenName_cons, Option.or_assoc]
      · rw [List.foldl_cons, later.2.2, head.2.2, List.exists_mem_cons_iff, or_assoc]

theorem givenName_isSome_iff : (givenName memberships sid).isSome ↔
    ∃ membership ∈ memberships, membership.groupSid = sid ∧
      (membershipName membership).isSome := by
  induction memberships with
  | nil => simp [givenName]
  | cons membership rest known =>
      rw [givenName_cons, List.exists_mem_cons_iff, ← known, Option.isSome_or, or_comm]
      by_cases here : membership.groupSid = sid
      · simp [here]
      · simp [here]

/-- A group without a name of its own is asked for when the resolver is made. -/
theorem mem_pending_of_unnamed (unnamed : givenName memberships sid = none) :
    sid ∈ (memberships.filter (fun membership => (membershipName membership).isNone)).map
        GroupMembership.groupSid ↔
      sid ∈ memberships.map GroupMembership.groupSid := by
  constructor
  · intro pending
    rcases List.mem_map.mp pending with ⟨membership, listed, same⟩
    exact List.mem_map.mpr ⟨membership, List.mem_of_mem_filter listed, same⟩
  · intro member
    rcases List.mem_map.mp member with ⟨membership, listed, same⟩
    have nameless : (membershipName membership).isNone = true := by
      cases named : membershipName membership with
      | none => rfl
      | some name =>
          have given := givenName_isSome_iff.mpr
            ⟨membership, listed, same, by rw [named]; rfl⟩
          rw [unnamed] at given
          cases given
    exact List.mem_map.mpr ⟨membership, List.mem_filter.mpr ⟨listed, nameless⟩, same⟩

theorem newForTarget_spec :
    (newForTarget lookups memberships targetServer).names.WellFormed ∧
      (∀ sid, (newForTarget lookups memberships targetServer).names.known.lookup sid =
        (givenName memberships sid).or
          (if sid ∈ memberships.map GroupMembership.groupSid then
            lookups.display (validServer targetServer) sid
          else none)) ∧
      (∀ sid, sid ∈ (newForTarget lookups memberships targetServer).names.tried ↔
        sid ∈ memberships.map GroupMembership.groupSid) := by
  have taken := takeNames_spec memberships (@AskOnce.wellFormed_empty Sid String)
  refine ⟨AskOnce.wellFormed_askAll taken.1, fun sid => ?_, fun sid => ?_⟩
  · have empty : ({} : AskOnce Sid String).known.lookup sid = none := rfl
    rw [newForTarget, resolve, AskOnce.lookup_askAll taken.1, taken.2.1, empty, Option.or_none]
    simp only [taken.2.2, ← givenName_isSome_iff, List.not_mem_nil, false_or]
    cases given : givenName memberships sid with
    | some name => simp
    | none =>
        simp only [mem_pending_of_unnamed given, Option.isSome_none, Option.none_or]
        simp [validServer]
  · rw [newForTarget, resolve, AskOnce.mem_tried_askAll, taken.2.2, ← givenName_isSome_iff]
    cases given : givenName memberships sid with
    | some name =>
        have present : (givenName memberships sid).isSome := by rw [given]; rfl
        rcases givenName_isSome_iff.mp present with ⟨membership, listed, same, _⟩
        exact iff_of_true (Or.inl (Or.inr rfl)) (List.mem_map.mpr ⟨membership, listed, same⟩)
    | none => simp only [mem_pending_of_unnamed given, List.not_mem_nil]; simp

/-- A seed adds a name where there is none, and settles its SID. -/
theorem seed_spec {resolver : SidNameResolver} (formed : resolver.names.WellFormed) (owner : Sid)
    (display : String) :
    (resolver.seed owner display).names.WellFormed ∧
      (∀ sid, (resolver.seed owner display).map.lookup sid =
        (resolver.map.lookup sid).or
          (if sid = owner ∧ (Sid.tryNew owner.value).isOk ∧ plausibleAccountDisplay display then
            some display
          else none)) ∧
      (∀ sid, sid ∈ (resolver.seed owner display).names.tried ↔
        sid ∈ resolver.names.tried ∨
          sid = owner ∧ (Sid.tryNew owner.value).isOk ∧ plausibleAccountDisplay display) := by
  by_cases accepted : (Sid.tryNew owner.value).isOk = true ∧ plausibleAccountDisplay display = true
  · have step : resolver.seed owner display =
        { resolver with names :=
          { known := match resolver.names.known.lookup owner with
              | some _ => resolver.names.known
              | none => (owner, display) :: resolver.names.known
            tried := owner :: resolver.names.tried } } := by
      simp only [seed, accepted.1, accepted.2]
      rfl
    rw [step]
    refine ⟨fun key member => ?_, fun sid => ?_, fun sid => ?_⟩
    · cases found : resolver.names.known.lookup owner with
      | some name =>
          simp only [found] at member
          exact List.mem_cons_of_mem _ (formed key member)
      | none =>
          simp only [found, List.map_cons] at member
          rcases List.mem_cons.mp member with same | earlier
          · exact same ▸ List.mem_cons_self
          · exact List.mem_cons_of_mem _ (formed key earlier)
    · unfold SidNameResolver.map
      by_cases here : sid = owner
      · rw [if_pos ⟨here, accepted⟩, here]
        cases found : resolver.names.known.lookup owner with
        | some name => simp only [found, Option.some_or]
        | none => simp only [List.lookup_cons_self, Option.none_or]
      · rw [if_neg (fun both => here both.1), Option.or_none]
        cases resolver.names.known.lookup owner with
        | some name => rfl
        | none =>
            simp only []
            rw [List.lookup_cons, beq_false_of_ne here]
    · rw [List.mem_cons, or_comm]
      simp [accepted.1, accepted.2]
  · have step : resolver.seed owner display = resolver := by
      unfold seed
      refine if_pos ?_
      rw [Bool.or_eq_true, Bool.not_eq_true', Bool.not_eq_true', ← Bool.not_eq_true,
        ← Bool.not_eq_true, ← not_and_or]
      exact accepted
    rw [step]
    refine ⟨formed, fun sid => ?_, fun sid => ?_⟩
    · rw [if_neg (fun all => accepted all.2), Option.or_none]
    · exact (or_iff_left (fun all => accepted all.2)).symm

theorem identityName_of_display {display : String} (displayed : identityDisplay identity = some display) :
    identityName identity sid =
      if sid = identity.sid ∧ (Sid.tryNew identity.sid.value).isOk ∧
        plausibleAccountDisplay display then some display else none := by
  rw [identityName, displayed, Option.filter_some]
  by_cases own : sid = identity.sid ∧ (Sid.tryNew identity.sid.value).isOk = true
  · simp only [own, true_and, if_true]
  · rw [if_neg own, if_neg (fun all => own ⟨all.1, all.2.1⟩)]

/-- What is known before any object is read. -/
theorem forIdentity_spec :
    (forIdentity lookups identity memberships targetServer).names.WellFormed ∧
      (∀ sid, (forIdentity lookups identity memberships targetServer).map.lookup sid =
        startName lookups identity memberships targetServer sid) ∧
      (∀ sid, sid ∈ (forIdentity lookups identity memberships targetServer).names.tried ↔
        Settled identity memberships sid) := by
  have made := @newForTarget_spec lookups memberships targetServer
  unfold forIdentity
  cases displayed : identityDisplay identity with
  | none =>
      have unnamed : ∀ sid, identityName identity sid = none := by
        intro sid
        rw [identityName, displayed, Option.filter_none, ite_self]
      refine ⟨made.1, fun sid => ?_, fun sid => ?_⟩
      · rw [startName, unnamed, Option.or_none]
        exact made.2.1 sid
      · rw [Settled, unnamed]
        exact (made.2.2 sid).trans (or_iff_left (by simp)).symm
  | some display =>
      have seeded := seed_spec made.1 identity.sid display
      refine ⟨seeded.1, fun sid => ?_, fun sid => ?_⟩
      · rw [startName, identityName_of_display displayed, ← made.2.1]
        exact seeded.2.1 sid
      · rw [Settled, identityName_of_display displayed, ← made.2.2, seeded.2.2]
        refine or_congr_right ?_
        split
        · rename_i own
          exact iff_of_true own rfl
        · rename_i other
          exact iff_of_false other (by simp)

theorem targetServer_seed (resolver : SidNameResolver) (sid : Sid) (display : String) :
    (resolver.seed sid display).targetServer = resolver.targetServer := by
  unfold seed
  split
  · rfl
  · rfl

theorem targetServer_forIdentity :
    (forIdentity lookups identity memberships targetServer).targetServer =
      validServer targetServer := by
  unfold forIdentity
  cases identityDisplay identity with
  | none => rfl
  | some display => exact targetServer_seed _ _ _

/-! ## A run of calls -/

/-- A call as a round of questions to the server of the resolver. -/
def roundOf (targetServer : Option String) (call : NameLookups × List Sid) :
    AskOnce.Round Sid String :=
  ⟨call.1.display targetServer, call.2⟩

theorem resolveEach_eq (resolver : SidNameResolver) (calls : List (NameLookups × List Sid)) :
    resolver.resolveEach calls =
      { resolver with names := resolver.names.run (calls.map (roundOf resolver.targetServer)) } := by
  induction calls generalizing resolver with
  | nil => rfl
  | cons call rest further =>
      change (resolver.resolve call.1 call.2).resolveEach rest = _
      rw [further]
      rfl

theorem resolveEach_lookup (calls : List (NameLookups × List Sid)) :
    ((forIdentity lookups identity memberships targetServer).resolveEach calls).map.lookup sid =
      if Settled identity memberships sid then
        startName lookups identity memberships targetServer sid
      else (calls.find? (fun call => call.2.contains sid)).bind
        (fun call => call.1.display (validServer targetServer) sid) := by
  have start := @forIdentity_spec lookups identity memberships targetServer
  rw [resolveEach_eq, targetServer_forIdentity, SidNameResolver.map,
    AskOnce.lookup_run start.1, List.find?_map]
  by_cases settled : Settled identity memberships sid
  · rw [if_pos ((start.2.2 sid).mpr settled), if_pos settled]
    exact start.2.1 sid
  · rw [if_neg (fun tried => settled ((start.2.2 sid).mp tried)), if_neg settled]
    have same : (fun round => round.keys.contains sid) ∘ roundOf (validServer targetServer) =
        fun call => call.2.contains sid := rfl
    rw [same]
    cases calls.find? (fun call => call.2.contains sid) with
    | none => rfl
    | some call => rfl

theorem display_plausible {server : Option String} {name : String}
    (found : lookups.display server sid = some name) : plausibleAccountDisplay name = true :=
  (Option.filter_eq_some_iff.mp found).2

theorem startName_plausible {name : String}
    (found : startName lookups identity memberships targetServer sid = some name) :
    plausibleAccountDisplay name = true := by
  unfold startName at found
  rcases Option.or_eq_some_iff.mp found with start | ⟨_, own⟩
  · rcases Option.or_eq_some_iff.mp start with given | ⟨_, asked⟩
    · unfold givenName at given
      rcases List.mem_filterMap.mp (List.mem_of_getLast? given) with ⟨membership, _, named⟩
      exact (Option.filter_eq_some_iff.mp named).2
    · split at asked
      · exact display_plausible asked
      · cases asked
  · unfold identityName at own
    split at own
    · exact (Option.filter_eq_some_iff.mp own).2
    · cases own

/-- Whatever Windows answers from call to call: the names of the start stay, any
other SID has the name of the first call that asked for it, and no implausible
name is ever shown. -/
theorem resolver_names (lookups : NameLookups) (identity : Identity)
    (memberships : List GroupMembership) (targetServer : Option String)
    (calls : List (NameLookups × List Sid)) (sid : Sid) :
    (((forIdentity lookups identity memberships targetServer).resolveEach calls).map.lookup sid =
      if Settled identity memberships sid then
        startName lookups identity memberships targetServer sid
      else (calls.find? (fun call => call.2.contains sid)).bind
        (fun call => call.1.display (validServer targetServer) sid)) ∧
    (∀ name, ((forIdentity lookups identity memberships targetServer).resolveEach
        calls).map.lookup sid = some name →
      plausibleAccountDisplay name = true) := by
  refine ⟨resolveEach_lookup calls, ?_⟩
  intro name shown
  rw [resolveEach_lookup] at shown
  split at shown
  · exact startName_plausible shown
  · rcases Option.bind_eq_some_iff.mp shown with ⟨call, _, found⟩
    exact display_plausible found

/-- With constant answers only matters which SIDs were asked for. -/
theorem resolveEach_constant (batches : List (List Sid)) :
    ((forIdentity lookups identity memberships targetServer).resolveEach
        (batches.map (Prod.mk lookups))).map.lookup sid =
      if Settled identity memberships sid then
        startName lookups identity memberships targetServer sid
      else if sid ∈ batches.flatten then lookups.display (validServer targetServer) sid
      else none := by
  rw [resolveEach_lookup, List.find?_map]
  have same : (fun call : NameLookups × List Sid => call.2.contains sid) ∘ Prod.mk lookups =
      fun batch => batch.contains sid := rfl
  rw [same]
  congr 1
  induction batches with
  | nil => rfl
  | cons batch rest known =>
      by_cases here : sid ∈ batch
      · rw [List.find?_cons_of_pos (by simpa using here), if_pos (by simp [here])]
        rfl
      · rw [List.find?_cons_of_neg (by simpa using here), known]
        simp [here]

theorem buildSidNameMapForTarget_eq (extraSids : List Sid) :
    buildSidNameMapForTarget lookups identity memberships extraSids targetServer =
      ((forIdentity lookups identity memberships targetServer).resolveEach
        ([extraSids].map (Prod.mk lookups))).map := rfl

/-- A SID that has its name in time: it is settled, or asked for so far, or Windows has no
plausible name for it. -/
def Named (lookups : NameLookups) (identity : Identity) (memberships : List GroupMembership)
    (targetServer : Option String) (asked : List Sid) (sid : Sid) : Prop :=
  Settled identity memberships sid ∨ sid ∈ asked ∨
    lookups.display (validServer targetServer) sid = none

/-- Asking a part gives a SID the name it has when everything is asked for at once, exactly
where the SID is never asked for or has its name in time. -/
theorem streamed_lookup_iff {asked : List (List Sid)} {all : List Sid}
    (inside : asked.flatten ⊆ all) :
    ((forIdentity lookups identity memberships targetServer).resolveEach
        (asked.map (Prod.mk lookups))).map.lookup sid =
      (buildSidNameMapForTarget lookups identity memberships all targetServer).lookup sid ↔
    (sid ∈ all → Named lookups identity memberships targetServer asked.flatten sid) := by
  rw [buildSidNameMapForTarget_eq, resolveEach_constant, resolveEach_constant,
    List.flatten_singleton]
  unfold Named
  by_cases settled : Settled identity memberships sid
  · simp only [settled, if_true, true_or, implies_true]
  · by_cases early : sid ∈ asked.flatten
    · simp only [settled, early, inside early, if_true, if_false, true_or, or_true, implies_true]
    · by_cases late : sid ∈ all
      · simp only [settled, early, late, if_true, if_false, false_or, forall_const]
        exact eq_comm
      · simp only [settled, early, late, if_false, false_implies]

end AdResolver
end Stars
