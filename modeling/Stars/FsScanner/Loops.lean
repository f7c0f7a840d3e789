import Stars.FsScanner.Completeness
import Stars.FsScanner.Recursion
import Stars.Graph.Routes

namespace Stars
namespace FsScanner

open Stars.Graph Validation

/-!
# Loops of the directory walk

The graph behind a scan may hold cycles and several routes to a directory.  The
walk ends all the same, asks for each listing at most once, and tells a cycle
from another second route: a cycle leads back to a directory on the route to the
entry itself.  Without a depth limit it asks for the listing of every directory
that can be reached.
-/

section Attempts

variable (world : World) (config : WalkConfig) (path : String)

/-- The walk at a unit of work. -/
abbrev scan : Explorer PendingVisit FoundDirectory String String WalkEvent :=
  explorer world config (WalkRoot.of world path)

/-- What a unit of work emits. -/
def emittedAt (count : Nat) : List WalkEvent :=
  (scan world config path).emitted ((scan world config path).stateAt (rootVisit path) count)

/-- A unit of work asks for the listing of a directory. -/
def Attempts (count : Nat) (visit : PendingVisit) (key : String) : Prop :=
  (scan world config path).Enters (rootVisit path) count visit key ∧
    belowLimit config visit.depth = true

end Attempts

variable {world : World} {config : WalkConfig} {path : String}

namespace LoopGraph

/-- Directories that can be reached from the root over entries that pass. -/
inductive ReachableOver (graph : LoopGraph world path) (passes : graph.Entry → Prop) :
    graph.Directory → Prop where
  | root {directory : graph.Directory} (passed : passes (graph.entryAt path))
      (leads : graph.leads (graph.entryAt path) = some directory) :
      ReachableOver graph passes directory
  | inner {outer directory : graph.Directory} {entry : graph.Entry}
      (reached : ReachableOver graph passes outer) (inside : entry ∈ graph.entries outer)
      (passed : passes entry) (leads : graph.leads entry = some directory) :
      ReachableOver graph passes directory

/-- The walk handles the loops of the graph. -/
structure HandlesLoops (graph : LoopGraph world path) (config : WalkConfig) : Prop where
  ends : ∃ enough, ∀ fuel ≥ enough, (walkDir world config (fun _ => false) path fuel).stack = []
  listed_once : ∀ key first second visit other, Attempts world config path first visit key →
    Attempts world config path second other key → first = second ∧ visit = other
  one_route : ∀ count visit, (scan world config path).Visits (rootVisit path) count visit →
    ∃! above, (scan world config path).ComesOver (rootVisit path) count visit above
  cycle_iff : ∀ count visit above key found,
    (scan world config path).ComesOver (rootVisit path) count visit above →
    examine world (WalkRoot.of world path) visit = .directory key found →
      ((∃ notice, emitError visit.path (.reparseCycle notice) ∈ emittedAt world config path count) ↔
        key ∈ above)
  duplicate_iff : ∀ count visit above key found,
    (scan world config path).ComesOver (rootVisit path) count visit above →
    examine world (WalkRoot.of world path) visit = .directory key found →
      ((∃ notice,
          emitError visit.path (.reparseDuplicateTarget notice) ∈ emittedAt world config path count) ↔
        key ∉ above ∧ ∃ earlier < count, ∃ other,
          (scan world config path).Meets (rootVisit path) earlier other key)
  popped_once : ∀ count key, (scan world config path).Pushes (rootVisit path) count key →
    ∃ turn, count < turn ∧ (scan world config path).Pops (rootVisit path) turn key ∧
      ∀ other, (scan world config path).Pops (rootVisit path) other key → other = turn
  reached : config.maxDepth = none → ∀ passes : graph.Entry → Prop,
    (∀ count visit key, Attempts world config path count visit key →
      passes (graph.entryAt visit.path)) →
    ∀ directory, (∃ count visit, Attempts world config path count visit (graph.key directory)) ↔
      graph.ReachableOver passes directory

/-- The notices of a visit tell the three decisions apart. -/
theorem notices_of_directory {visit : PendingVisit} {key : String} {found : FoundDirectory}
    {count : Nat} (meets : (scan world config path).Meets (rootVisit path) count visit key)
    (looked : examine world (WalkRoot.of world path) visit = .directory key found) :
    ((∃ notice, emitError visit.path (.reparseCycle notice) ∈ emittedAt world config path count) ↔
        key ∈ ((scan world config path).stateAt (rootVisit path) count).detector.active) ∧
      ((∃ notice,
          emitError visit.path (.reparseDuplicateTarget notice) ∈ emittedAt world config path count) ↔
        key ∉ ((scan world config path).stateAt (rootVisit path) count).detector.active ∧
          key ∈ ((scan world config path).stateAt (rootVisit path) count).detector.seen) := by
  rcases meets.emitted_cases looked with
    ⟨active, ancestor, emitted⟩ | ⟨inactive, seen, first, emitted⟩ | ⟨enters, emitted⟩
  · rw [emittedAt, emitted]
    constructor
    · exact iff_of_true ⟨_, List.mem_cons_of_mem _ List.mem_cons_self⟩ active
    · refine iff_of_false ?_ (fun both => both.1 active)
      rintro ⟨notice, inside⟩
      simp [explorer, emitObject, emitError] at inside
  · rw [emittedAt, emitted]
    constructor
    · refine iff_of_false ?_ inactive
      rintro ⟨notice, inside⟩
      simp [explorer, emitObject, emitError] at inside
    · exact iff_of_true ⟨_, List.mem_cons_of_mem _ List.mem_cons_self⟩
        ⟨inactive, seen⟩
  · rw [emittedAt, emitted]
    have plain : ∀ shown error, emitError shown error ∈ (expand world config visit found).1 →
        isRouteNotice error = false := by
      intro shown error inside
      rw [expand] at inside
      split at inside
      · split at inside
        · simp only [emitObject, emitError, List.mem_cons, WalkEvent.item.injEq,
            List.not_mem_nil, or_false, reduceCtorEq, false_or, WalkItem.error.injEq,
            WalkError.mk.injEq] at inside
          rw [inside.2]
          rfl
        · simp [emitObject, emitError] at inside
      · simp [emitObject, emitError] at inside
    constructor
    · refine iff_of_false ?_ enters.inactive
      rintro ⟨notice, inside⟩
      cases plain _ _ inside
    · refine iff_of_false ?_ (fun both => enters.2 both.2)
      rintro ⟨notice, inside⟩
      cases plain _ _ inside

section Reached

variable (graph : LoopGraph world path)

/-- The walk comes only to visits that the listings show. -/
theorem arises_of_visits {count : Nat} {visit : PendingVisit}
    (visits : (scan world config path).Visits (rootVisit path) count visit) :
    Arises world path visit := by
  induction count using Nat.strong_induction_on generalizing visit with
  | _ count known =>
      rcases Explorer.visits_origin visits with
        rfl | ⟨earlier, before, parent, key, found, enters, looked, left⟩
      · exact .root
      · rcases visit_of_expand left with ⟨_, entries, listed, read, inside, task⟩
        exact .entry (known earlier before enters.1.1) looked read inside task

/-- The directory an entered entry leads to. -/
theorem leads_of_meets {count : Nat} {visit : PendingVisit} {directory : graph.Directory}
    (meets : (scan world config path).Meets (rootVisit path) count visit (graph.key directory)) :
    graph.leads (graph.entryAt visit.path) = some directory := by
  rcases meets with ⟨visits, found, looked⟩
  rcases graph.found visit _ found (arises_of_visits visits) looked with ⟨other, leads, same⟩
  rw [leads, graph.key_injective same]

/-- An entry that leads to a directory meets it. -/
theorem meets_of_leads {count : Nat} {visit : PendingVisit} {directory : graph.Directory}
    (visits : (scan world config path).Visits (rootVisit path) count visit)
    (leads : graph.leads (graph.entryAt visit.path) = some directory) :
    (scan world config path).Meets (rootVisit path) count visit (graph.key directory) := by
  refine ⟨visits, ?_⟩
  have arises := arises_of_visits visits
  cases looked : examine world (WalkRoot.of world path) visit with
  | stopped events =>
      rw [graph.stopped visit events arises looked] at leads
      cases leads
  | directory key found =>
      rcases graph.found visit key found arises looked with ⟨other, otherLeads, rfl⟩
      rw [leads] at otherLeads
      cases otherLeads
      exact ⟨found, looked⟩

/-- A directory that is met is entered, then or before. -/
theorem entered_of_meets {count : Nat} {visit : PendingVisit} {key : String}
    (meets : (scan world config path).Meets (rootVisit path) count visit key) :
    ∃ earlier other, (scan world config path).Enters (rootVisit path) earlier other key := by
  have seen := Explorer.seen_iff_met.mpr ⟨count, Nat.lt_succ_self count, visit, meets⟩
  rcases Explorer.entered_of_seen seen with ⟨earlier, _, other, enters⟩
  exact ⟨earlier, other, enters⟩

theorem reachable_of_attempts {passes : graph.Entry → Prop}
    (attempted : ∀ count visit key, Attempts world config path count visit key →
      passes (graph.entryAt visit.path)) {count : Nat} {visit : PendingVisit}
    {directory : graph.Directory}
    (attempts : Attempts world config path count visit (graph.key directory)) :
    graph.ReachableOver passes directory := by
  induction count using Nat.strong_induction_on generalizing visit directory with
  | _ count known =>
      have leads := graph.leads_of_meets attempts.1.1
      have passed := attempted count visit _ attempts
      rcases Explorer.visits_origin attempts.1.1.1 with
        rfl | ⟨earlier, before, parent, key, found, enters, looked, left⟩
      · exact .root passed leads
      · rcases graph.found parent key found (arises_of_visits enters.1.1) looked with
          ⟨outer, outerLeads, rfl⟩
        rcases visit_of_expand left with ⟨within, entries, listed, read, inside, task⟩
        have shown : listed ∈ shownEntries world parent.path :=
          mem_shownEntries.mpr ⟨entries, read, inside⟩
        have entry : graph.entryAt visit.path ∈ graph.entries outer := by
          refine (graph.listing parent outer (arises_of_visits enters.1.1) outerLeads _).mpr
            ⟨listed, shown, ?_⟩
          cases task
          rfl
        exact .inner (known earlier before ⟨enters, within⟩) entry passed leads

theorem attempted_of_reachable {passes : graph.Entry → Prop} (unlimited : config.maxDepth = none)
    {directory : graph.Directory} (reachable : graph.ReachableOver passes directory) :
    ∃ count visit, Attempts world config path count visit (graph.key directory) := by
  have within : ∀ depth, belowLimit config depth = true := by
    intro depth
    rw [belowLimit, unlimited]
    rfl
  induction reachable with
  | root passed leads =>
      have visits : (scan world config path).Visits (rootVisit path) 0 (rootVisit path) :=
        ⟨[], rfl⟩
      rcases entered_of_meets (graph.meets_of_leads visits leads) with ⟨count, visit, enters⟩
      exact ⟨count, visit, enters, within visit.depth⟩
  | inner reached inside passed leads known =>
      rcases known with ⟨count, visit, attempts⟩
      have outerLeads := graph.leads_of_meets attempts.1.1
      rcases (graph.listing visit _ (arises_of_visits attempts.1.1.1) outerLeads _).mp inside with
        ⟨listed, shown, rfl⟩
      rcases mem_shownEntries.mp shown with ⟨entries, read, member⟩
      rcases attempts.1.1 with ⟨_, found, looked⟩
      have left : entryTask visit found.canonical (.ok listed) ∈
          (expand world config visit found).2 := by
        rw [expand, if_pos (within visit.depth), read]
        exact List.mem_map_of_mem member
      rcases graph.ends config with ⟨finish, ended⟩
      rcases attempts.1.reaches_top looked left ended with ⟨turn, _, visits⟩
      rcases entered_of_meets (graph.meets_of_leads visits leads) with ⟨later, other, enters⟩
      exact ⟨later, other, enters, within other.depth⟩

/-- The walk ends, enters each directory once, and tells cycles from duplicates. -/
theorem handlesLoops (graph : LoopGraph world path) (config : WalkConfig) :
    graph.HandlesLoops config where
  ends := by
    rcases graph.ends config with ⟨finish, ended⟩
    refine ⟨finish, fun fuel enough => ?_⟩
    rw [walkDir, Explorer.walk_uncancelled]
    have stays := (scan world config path).stateAt_of_ended (rootVisit path) ended enough
    rw [Explorer.stateAt] at stays
    rw [stays]
    exact ended
  listed_once := fun _ _ _ _ _ attempts again => attempts.1.unique again.1
  one_route := fun _ _ => Explorer.comesOver_of_visits
  cycle_iff := by
    intro count visit above key found comes looked
    rw [← comes.active_eq]
    exact (notices_of_directory ⟨comes.visits, found, looked⟩ looked).1
  duplicate_iff := by
    intro count visit above key found comes looked
    rw [← comes.active_eq, ← Explorer.seen_iff_met]
    exact (notices_of_directory ⟨comes.visits, found, looked⟩ looked).2
  popped_once := by
    intro count key pushes
    rcases graph.ends config with ⟨finish, ended⟩
    exact pushes.popped_once ended
  reached := by
    intro unlimited passes attempted directory
    constructor
    · rintro ⟨count, visit, attempts⟩
      exact graph.reachable_of_attempts attempted attempts
    · exact graph.attempted_of_reachable unlimited

end Reached

end LoopGraph

/-- The walk meets the root again behind the junction. -/
theorem handlesLoops_rootLoop : RootLoop.graph.HandlesLoops ⟨none⟩ ∧
    ∃ notice, emitError "\\\\?\\C:\\r\\loop" (.reparseCycle notice) ∈
      emittedAt RootLoop.world ⟨none⟩ "C:\\r" 1 :=
  ⟨RootLoop.graph.handlesLoops ⟨none⟩, _, List.mem_cons_of_mem _ List.mem_cons_self⟩

/-! ## Graphs with objects -/

namespace DirectoryGraph

theorem placed_of_arises (graph : DirectoryGraph world path) {visit : PendingVisit}
    (arises : Arises world path visit) :
    PlacedVisit path graph.objectAt graph.children graph.canonical visit := by
  induction arises with
  | root => exact Or.inl ⟨rfl, rfl⟩
  | entry arises looked read inside task placed =>
      rename_i visit below key found entries listed
      rcases graph.found visit key found placed looked with ⟨directory, leads, _, canonical⟩
      cases task
      refine Or.inr ⟨directory, congrArg some canonical, ?_⟩
      exact ((graph.listing visit directory entries placed leads read).2.2 _).mpr
        ⟨listed, inside, rfl⟩

/-- The graph of a complete walk, with the objects as entries. -/
def loopGraph (graph : DirectoryGraph world path) : LoopGraph world path where
  Entry := graph.Object
  Directory := graph.Directory
  directories := graph.directories
  listed_all := graph.listed_all
  entryAt := graph.objectAt
  leads := graph.leads
  entries := fun directory => if graph.readable directory then graph.children directory else []
  key := graph.key
  key_injective := graph.key_injective
  stopped := fun visit events arises => graph.stopped visit events (graph.placed_of_arises arises)
  found := by
    intro visit identity found arises looked
    rcases graph.found visit identity found (graph.placed_of_arises arises) looked with
      ⟨directory, leads, same, _⟩
    exact ⟨directory, leads, same⟩
  listing := by
    intro visit directory arises leads entry
    have placed := graph.placed_of_arises arises
    cases read : world.readDir (toWindowsApiPath visit.path) with
    | error reason =>
        rw [graph.unlisted visit directory reason placed leads read, shownEntries, read]
        simp
    | ok entries =>
        rcases graph.listing visit directory entries placed leads read with ⟨readable, _, inside⟩
        rw [readable, if_pos rfl, inside entry]
        constructor
        · rintro ⟨listed, member, same⟩
          exact ⟨listed, mem_shownEntries.mpr ⟨entries, read, member⟩, same⟩
        · rintro ⟨listed, shown, same⟩
          rcases mem_shownEntries.mp shown with ⟨others, again, member⟩
          rw [read] at again
          cases again
          exact ⟨listed, member, same⟩

end DirectoryGraph

end FsScanner
end Stars
