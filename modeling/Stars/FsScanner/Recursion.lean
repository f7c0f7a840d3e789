import Stars.FsScanner.Walker
import Stars.Graph.Recursion

namespace Stars
namespace FsScanner

open Stars.Graph Validation

/-!
# The directory walk as a recursion

`walkRecursive` is the naive depth-first walk: a call for each directory, which
enters it, reads its listing, calls itself for the entries in their order and
leaves.  It shares with `walkDir` what a visit finds and reports, and has no
stack of its own.

The graph behind the paths is finite and may hold cycles.  A directory has one
loop key of its own, whichever path leads to it.
-/

/-- The visits a scan may come to: the root, and what the listings show. -/
inductive Arises (world : World) (path : String) : PendingVisit → Prop where
  | root : Arises world path (rootVisit path)
  | entry {visit below : PendingVisit} {key : String} {found : FoundDirectory}
      {entries : List (Except String DirEntry)} {listed : DirEntry}
      (arises : Arises world path visit)
      (looked : examine world (WalkRoot.of world path) visit = .directory key found)
      (read : world.readDir (toWindowsApiPath visit.path) = .ok entries)
      (inside : .ok listed ∈ entries)
      (task : entryTask visit found.canonical (.ok listed) = .visit below) :
      Arises world path below

/-- The entries a listing shows; none when it cannot be read. -/
def shownEntries (world : World) (path : String) : List DirEntry :=
  match world.readDir (toWindowsApiPath path) with
  | .error _ => []
  | .ok entries => entries.filterMap Except.toOption

/-- A finite directory graph.  An entry leads to a directory, unless it is a
file or an error stops the walk at it. -/
structure LoopGraph (world : World) (path : String) where
  Entry : Type
  Directory : Type
  directories : Finset Directory
  listed_all : ∀ directory, directory ∈ directories
  entryAt : String → Entry
  leads : Entry → Option Directory
  entries : Directory → List Entry
  key : Directory → String
  key_injective : Function.Injective key
  stopped : ∀ visit events, Arises world path visit →
    examine world (WalkRoot.of world path) visit = .stopped events →
      leads (entryAt visit.path) = none
  found : ∀ visit identity found, Arises world path visit →
    examine world (WalkRoot.of world path) visit = .directory identity found →
      ∃ directory, leads (entryAt visit.path) = some directory ∧ identity = key directory
  listing : ∀ visit directory, Arises world path visit →
    leads (entryAt visit.path) = some directory →
      ∀ entry, entry ∈ entries directory ↔
        ∃ listed ∈ shownEntries world visit.path, entryAt listed.path = entry

/-- What the recursive walk from a root emits, with calls nested at most `depth`
deep. -/
def walkRecursive (world : World) (config : WalkConfig) (path : String) (depth : Nat) :
    Option (List WalkItem) :=
  ((explorer world config (WalkRoot.of world path)).descend depth {} (rootVisit path)).map
    (fun done => WalkEvent.items done.1)

section Recursion

variable {world : World} {path : String}

theorem mem_shownEntries {shown : String} {listed : DirEntry} :
    listed ∈ shownEntries world shown ↔
      ∃ entries, world.readDir (toWindowsApiPath shown) = .ok entries ∧ .ok listed ∈ entries := by
  rw [shownEntries]
  cases world.readDir (toWindowsApiPath shown) with
  | error reason => simp
  | ok entries =>
      simp only [List.mem_filterMap, Except.ok.injEq, exists_eq_left']
      constructor
      · rintro ⟨entry, inside, same⟩
        cases entry with
        | error reason => cases same
        | ok other =>
            cases same
            exact inside
      · exact fun inside => ⟨.ok listed, inside, rfl⟩

/-- A visit below a directory is for an entry of its listing. -/
theorem visit_of_expand {config : WalkConfig} {visit below : PendingVisit}
    {found : FoundDirectory} (inside : .visit below ∈ (expand world config visit found).2) :
    belowLimit config visit.depth = true ∧
      ∃ entries listed, world.readDir (toWindowsApiPath visit.path) = .ok entries ∧
        .ok listed ∈ entries ∧ entryTask visit found.canonical (.ok listed) = .visit below := by
  rw [expand] at inside
  split at inside
  · rename_i within
    refine ⟨within, ?_⟩
    split at inside
    · cases inside
    · rename_i entries read
      rcases List.mem_map.mp inside with ⟨entry, member, task⟩
      cases entry with
      | error reason => cases task
      | ok listed => exact ⟨entries, listed, read, member, task⟩
  · cases inside

namespace LoopGraph

variable (graph : LoopGraph world path) (config : WalkConfig)

/-- The loop keys of the graph. -/
def keys : Finset String := graph.directories.image graph.key

theorem arises_known (visit : PendingVisit) (key : String) (found : FoundDirectory)
    (arises : Arises world path visit)
    (looked : examine world (WalkRoot.of world path) visit = .directory key found) :
    key ∈ graph.keys ∧ ∀ below, .visit below ∈ (expand world config visit found).2 →
      Arises world path below := by
  rcases graph.found visit key found arises looked with ⟨directory, _, rfl⟩
  refine ⟨Finset.mem_image_of_mem _ (graph.listed_all directory), ?_⟩
  intro below inside
  rcases visit_of_expand inside with ⟨_, entries, listed, read, member, task⟩
  exact .entry arises looked read member task

/-- The recursion needs no more nested calls than there are directories, and one
for what is below the last. -/
theorem descend_returns {depth : Nat} (enough : graph.directories.card < depth) :
    ∃ done, (explorer world config (WalkRoot.of world path)).descend depth {} (rootVisit path) =
      some done := by
  refine Explorer.descend_returns (graph.arises_known config) depth {} (rootVisit path) .root ?_
  calc
    (Explorer.unentered graph.keys {}).card ≤ graph.keys.card :=
      Finset.card_le_card (Finset.filter_subset _ _)
    _ ≤ graph.directories.card := Finset.card_image_le
    _ < depth := enough

/-- A call of the recursion that returns is the whole walk. -/
theorem ends_of_descend {depth : Nat} {done : List WalkEvent × LoopDetector String String}
    (returned : (explorer world config (WalkRoot.of world path)).descend depth {} (rootVisit path) =
      some done) :
    ∃ finish, (explorer world config (WalkRoot.of world path)).stateAt (rootVisit path) finish =
      ⟨[], done.2, done.1⟩ :=
  Explorer.runs_of_descend depth {} (rootVisit path) done returned [] []

theorem ends (graph : LoopGraph world path) (config : WalkConfig) :
    ∃ finish, ((explorer world config (WalkRoot.of world path)).stateAt (rootVisit path)
      finish).stack = [] := by
  rcases graph.descend_returns config (Nat.lt_succ_self _) with ⟨done, returned⟩
  rcases ends_of_descend config returned with ⟨finish, ended⟩
  exact ⟨finish, by rw [ended]⟩

theorem items_prefix {fewer more : List WalkEvent} (grows : fewer <+: more) :
    WalkEvent.items fewer <+: WalkEvent.items more :=
  grows.filterMap _

/-- The walk with the stack emits what the recursion emits, whatever number of
nested calls it was given, and a cancelled walk a prefix of it. -/
theorem walkDir_eq_walkRecursive (graph : LoopGraph world path) (config : WalkConfig) :
    ∃ items, (∀ depth, graph.directories.card < depth →
        walkRecursive world config path depth = some items) ∧
      (∃ enough, ∀ fuel ≥ enough,
        (walkDir world config (fun _ => false) path fuel).stack = [] ∧
          WalkEvent.items (walkDir world config (fun _ => false) path fuel).trace = items) ∧
      ∀ cancelled fuel,
        WalkEvent.items (walkDir world config cancelled path fuel).trace <+: items := by
  rcases graph.descend_returns config (Nat.lt_succ_self _) with ⟨done, returned⟩
  rcases ends_of_descend config returned with ⟨finish, ended⟩
  have empty : ((explorer world config (WalkRoot.of world path)).stateAt (rootVisit path)
      finish).stack = [] := by rw [ended]
  refine ⟨WalkEvent.items done.1, ?_, ⟨finish, ?_⟩, ?_⟩
  · intro depth enough
    rcases graph.descend_returns config enough with ⟨other, again⟩
    rcases ends_of_descend config again with ⟨later, endedAgain⟩
    have emptyAgain : ((explorer world config (WalkRoot.of world path)).stateAt (rootVisit path)
        later).stack = [] := by rw [endedAgain]
    have same : other.1 = done.1 := by
      rcases Nat.le_total finish later with order | order
      · have stays := Explorer.stateAt_of_ended _ (rootVisit path) empty order
        rw [ended, endedAgain] at stays
        exact congrArg WalkState.trace stays
      · have stays := Explorer.stateAt_of_ended _ (rootVisit path) emptyAgain order
        rw [ended, endedAgain] at stays
        exact (congrArg WalkState.trace stays).symm
    rw [walkRecursive, again, Option.map_some, same]
  · intro fuel enough
    have final : walkDir world config (fun _ => false) path fuel = ⟨[], done.2, done.1⟩ := by
      rw [walkDir, Explorer.walk_uncancelled]
      exact (Explorer.stateAt_of_ended _ (rootVisit path) empty enough).trans ended
    rw [final]
    exact ⟨rfl, rfl⟩
  · intro cancelled fuel
    rcases (explorer world config (WalkRoot.of world path)).walk_eq_iterate cancelled fuel 0
      (Explorer.start (rootVisit path)) with ⟨count, stopped⟩
    have grows := Explorer.iterate_prefix_of_ended empty count
    rw [walkDir, stopped]
    refine items_prefix ?_
    rw [Explorer.stateAt] at ended
    rw [ended] at grows
    exact grows

end LoopGraph

end Recursion

/-! ## A junction to the root -/

namespace RootLoop

def objectAt (path : String) : FileSystemObject where
  path := stripLongPathPrefix path
  isDirectory := true
  isReparsePoint := path ≠ "C:\\r"
  link := if path = "C:\\r" then none else some { kind := .junction, target := "C:\\r" }

/-- Every directory holds a junction that leads back to the root. -/
def world : World where
  readFileSystemObject := fun path => .ok (objectAt path)
  linkTarget := fun _ => none
  probeDirectory := fun _ => { identity := none, identityError := none, finalPath := none }
  finalUncPath := fun _ => none
  canonicalize := fun _ => .ok "\\\\?\\C:\\r"
  readDir := fun path => .ok [.ok ⟨path ++ "\\loop", true⟩]

theorem root_only {visit : PendingVisit} (arises : Arises world "C:\\r" visit) (same : visit.path = "C:\\r") :
    visit.parentCanonical = none := by
  cases arises with
  | root => rfl
  | entry arises looked read inside task =>
      cases read
      cases List.mem_singleton.mp inside
      cases task
      have last := congrArg (fun shown : String => shown.toList.getLast?) same
      simp [String.toList_append] at last

theorem canonicalIdentity_eq {visit : PendingVisit} (arises : Arises world "C:\\r" visit) :
    canonicalIdentity world (decide (visit.path ≠ "C:\\r")) visit = "\\\\?\\c:\\r" := by
  have resolved : canonicalizePath world visit.path = some "\\\\?\\c:\\r" := by
    have lower : Text.toAsciiLowercase "\\\\?\\C:\\r" = "\\\\?\\c:\\r" := by decide
    exact congrArg some lower
  rw [canonicalIdentity, resolved, Option.getD_some]
  by_cases same : visit.path = "C:\\r"
  · rw [root_only arises same]
  · rw [decide_eq_true same]
    split
    · rfl
    · rfl

theorem passes (visit : PendingVisit) {object : FileSystemObject}
    (directory : object.isDirectory = true) :
    stopEvents world ⟨false, none⟩ visit object none = none := by
  simp [stopEvents, otherShareMessage, reparseStop, world, directory]

/-- Every visit comes to the root. -/
theorem examined {visit : PendingVisit} (arises : Arises world "C:\\r" visit) :
    ∃ found, examine world (WalkRoot.of world "C:\\r") visit =
      .directory "\\\\?\\c:\\r" found := by
  have root : WalkRoot.of world "C:\\r" = ⟨false, none⟩ := by
    rw [WalkRoot.of, show isRemotePath "C:\\r" = false by decide]
    rfl
  let object := withListedLink world visit (objectAt visit.path)
  have kept : object.isDirectory = true ∧
      object.isReparsePoint = decide (visit.path ≠ "C:\\r") := by
    rw [show object = withListedLink world visit (objectAt visit.path) from rfl, withListedLink]
    split
    · exact ⟨rfl, rfl⟩
    · exact ⟨rfl, rfl⟩
  have key : (foundDirectory world ⟨false, none⟩ visit object none).1 = "\\\\?\\c:\\r" := by
    rw [foundDirectory, kept.2]
    exact canonicalIdentity_eq arises
  refine ⟨(foundDirectory world ⟨false, none⟩ visit object none).2, ?_⟩
  rw [examine, root, show world.readFileSystemObject visit.path = .ok (objectAt visit.path) from rfl]
  dsimp only
  rw [show probeOf world ⟨false, none⟩ visit object = none from rfl, passes visit kept.1, ← key]

/-- One directory, which holds one entry, which leads back to it. -/
def graph : LoopGraph world "C:\\r" where
  Entry := Unit
  Directory := Unit
  directories := {()}
  listed_all := fun _ => Finset.mem_singleton_self ()
  entryAt := fun _ => ()
  leads := fun _ => some ()
  entries := fun _ => [()]
  key := fun _ => "\\\\?\\c:\\r"
  key_injective := fun _ _ _ => rfl
  stopped := by
    intro visit events arises stopped
    rcases examined arises with ⟨found, looked⟩
    rw [looked] at stopped
    cases stopped
  found := by
    intro visit identity found arises looked
    rcases examined arises with ⟨other, known⟩
    rw [known] at looked
    cases looked
    exact ⟨(), rfl, rfl⟩
  listing := by
    intro visit directory arises leads entry
    refine iff_of_true List.mem_cons_self ⟨_, List.mem_cons_self, rfl⟩

theorem walkDir_eq_walkRecursive_rootLoop :
    ∃ items, (∀ depth > 1, walkRecursive world ⟨none⟩ "C:\\r" depth = some items) ∧
      (∃ enough, ∀ fuel ≥ enough,
        (walkDir world ⟨none⟩ (fun _ => false) "C:\\r" fuel).stack = [] ∧
          WalkEvent.items (walkDir world ⟨none⟩ (fun _ => false) "C:\\r" fuel).trace = items) ∧
      ∀ cancelled fuel,
        WalkEvent.items (walkDir world ⟨none⟩ cancelled "C:\\r" fuel).trace <+: items :=
  graph.walkDir_eq_walkRecursive ⟨none⟩

end RootLoop

end FsScanner
end Stars
