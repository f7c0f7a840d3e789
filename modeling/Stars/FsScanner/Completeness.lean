import Stars.FsScanner.Walker
import Stars.Graph.WalkRun

namespace Stars
namespace FsScanner

open Stars.Graph Validation

/-!
# Completeness of the directory walk

A directory graph stands behind the paths of a scan: objects with the
directories they lead to, and directories with the objects inside them.
Junctions and symbolic links may lead several objects to one directory, so the
graph may hold cycles and several routes to a directory.  An unreadable
directory has objects the walk cannot see.

A walk is complete when each duplicate notice is about a directory whose listing
was read, and when every object at the end of a route within the depth limit is
emitted unless the route reports an error.  The detector records a directory
before the depth limit is checked and before the listing is read.
`walk_complete_iff` says exactly when this does no harm.
-/

/-- The notice of a second route: a cycle or a duplicate target. -/
def isRouteNotice : CoreError → Bool
  | .reparseCycle _ => true
  | .reparseDuplicateTarget _ => true
  | _ => false

/-- A visit of the root, or of an object inside a directory. -/
def PlacedVisit {Object Directory : Type} (path : String) (objectAt : String → Object)
    (children : Directory → List Object) (canonical : Directory → String)
    (visit : PendingVisit) : Prop :=
  visit.path = path ∧ visit.parentCanonical = none ∨
    ∃ directory, visit.parentCanonical = some (canonical directory) ∧
      objectAt visit.path ∈ children directory

/-- A finite directory graph behind the paths of a scan.  A directory has one
loop key, whichever path leads to it. -/
structure DirectoryGraph (world : World) (path : String) where
  Object : Type
  Directory : Type
  objectAt : String → Object
  leads : Object → Option Directory
  children : Directory → List Object
  readable : Directory → Bool
  canonical : Directory → String
  key : Directory → String
  directories : Finset Directory
  size : Directory → Nat
  listed_all : ∀ directory, directory ∈ directories
  key_injective : Function.Injective key
  parent_unique : ∀ child left right, child ∈ children left → child ∈ children right → left = right
  root_not_child : ∀ directory, objectAt path ∉ children directory
  stopped : ∀ visit events, PlacedVisit path objectAt children canonical visit →
    examine world (WalkRoot.of world path) visit = .stopped events →
      leads (objectAt visit.path) = none
  found : ∀ visit identity found, PlacedVisit path objectAt children canonical visit →
    examine world (WalkRoot.of world path) visit = .directory identity found →
      ∃ directory, leads (objectAt visit.path) = some directory ∧
        identity = key directory ∧ found.canonical = canonical directory
  unlisted : ∀ visit directory reason, PlacedVisit path objectAt children canonical visit →
    leads (objectAt visit.path) = some directory →
      world.readDir (toWindowsApiPath visit.path) = .error reason → readable directory = false
  listing : ∀ visit directory entries, PlacedVisit path objectAt children canonical visit →
    leads (objectAt visit.path) = some directory →
      world.readDir (toWindowsApiPath visit.path) = .ok entries →
        readable directory = true ∧ entries.length ≤ size directory ∧
          ∀ object, object ∈ children directory ↔
            ∃ entry, .ok entry ∈ entries ∧ objectAt entry.path = object
  same_object : ∀ shown object, world.readFileSystemObject shown = .ok object →
    objectAt object.path = objectAt shown
  read_error : ∀ shown error, world.readFileSystemObject shown = .error error →
    isRouteNotice error = false

namespace DirectoryGraph

variable {world : World} {path : String} (graph : DirectoryGraph world path)

/-- A visit lists its directory: the depth limit allows it and the listing can
be read. -/
def Opens (world : World) (config : WalkConfig) (visit : PendingVisit) : Prop :=
  belowLimit config visit.depth = true ∧
    ∃ entries, world.readDir (toWindowsApiPath visit.path) = .ok entries

/-- The listing a visit asks for fails, wholly or for an entry. -/
def ListingFails (world : World) (visit : PendingVisit) : Prop :=
  match world.readDir (toWindowsApiPath visit.path) with
  | .error _ => True
  | .ok entries => ∃ reason, .error reason ∈ entries

/-- The tasks of an expansion. -/
theorem expand_tasks (config : WalkConfig) (visit : PendingVisit) (found : FoundDirectory)
    {entries : List (Except String DirEntry)} (below : belowLimit config visit.depth = true)
    (listed : world.readDir (toWindowsApiPath visit.path) = .ok entries) :
    expand world config visit found =
      ([.listed visit.path,
        emitObject { found.object with identityUnknown := found.identityReason }],
        entries.map (entryTask visit found.canonical)) := by
  simp only [expand, below, if_true, listed]

theorem expand_of_not_opens (config : WalkConfig) (visit : PendingVisit) (found : FoundDirectory)
    (closed : ¬Opens world config visit) : (expand world config visit found).2 = [] := by
  rw [expand]
  split
  · rename_i below
    split
    · rfl
    · rename_i entries listed
      exact absurd ⟨below, entries, listed⟩ closed
  · rfl

theorem visit_of_entryTask {visit below : PendingVisit} {canonical : String}
    {entry : Except String DirEntry} (same : entryTask visit canonical entry = .visit below) :
    ∃ listed, entry = .ok listed ∧ below.path = listed.path ∧
      below.parentCanonical = some canonical := by
  cases entry with
  | error reason => cases same
  | ok listed =>
      cases same
      exact ⟨listed, rfl, rfl, rfl⟩

/-- The landscape of the walk. -/
def land (config : WalkConfig) :
    Landscape (explorer world config (WalkRoot.of world path)) (rootVisit path) where
  Object := graph.Object
  Directory := graph.Directory
  object := fun visit => graph.objectAt visit.path
  leads := graph.leads
  children := graph.children
  key := graph.key
  opens := Opens world config
  directories := graph.directories
  size := graph.size
  Placed := PlacedVisit path graph.objectAt graph.children graph.canonical
  listed_all := graph.listed_all
  key_injective := graph.key_injective
  root_placed := Or.inl ⟨rfl, rfl⟩
  stopped := graph.stopped
  directory := by
    intro visit identity found placed looked
    rcases graph.found visit identity found placed looked with ⟨directory, target, same, _⟩
    exact ⟨directory, target, same⟩
  expanded := by
    intro visit identity found target placed looked leadsTo
    rcases graph.found visit identity found placed looked with ⟨directory, known, _, canonical⟩
    rw [leadsTo] at known
    cases known
    by_cases opens : Opens world config visit
    · rcases opens with ⟨below, entries, listed⟩
      rcases graph.listing visit target entries placed leadsTo listed with ⟨_, few, inside⟩
      change (expand world config visit found).2.length ≤ _ ∧
        ∀ below, .visit below ∈ (expand world config visit found).2 → _
      rw [expand_tasks config visit found below listed, List.length_map]
      refine ⟨few, ?_⟩
      intro child member
      rcases List.mem_map.mp member with ⟨entry, entered, same⟩
      rcases visit_of_entryTask same with ⟨shown, rfl, shownPath, parent⟩
      have contained : graph.objectAt child.path ∈ graph.children target :=
        (inside _).mpr ⟨shown, entered, by rw [shownPath]⟩
      exact ⟨Or.inr ⟨target, by rw [parent, canonical], contained⟩, contained⟩
    · change (expand world config visit found).2.length ≤ _ ∧
        ∀ below, .visit below ∈ (expand world config visit found).2 → _
      rw [expand_of_not_opens config visit found opens]
      exact ⟨Nat.zero_le _, fun _ impossible => nomatch impossible⟩
  opened := by
    intro visit identity found target placed opens looked leadsTo child member
    rcases opens with ⟨below, entries, listed⟩
    rcases graph.listing visit target entries placed leadsTo listed with ⟨_, _, inside⟩
    rcases (inside child).mp member with ⟨entry, entered, same⟩
    change ∃ below, .visit below ∈ (expand world config visit found).2 ∧ _
    rw [expand_tasks config visit found below listed]
    exact ⟨_, List.mem_map.mpr ⟨.ok entry, entered, rfl⟩, same⟩
  unopened := fun visit found closed => expand_of_not_opens config visit found closed

/-- The trace of a walk that is not cancelled and has the time to end. -/
def trace (config : WalkConfig) (extra : Nat) : List WalkEvent :=
  (walkDir world config (fun _ => false) path ((graph.land config).bound + extra)).trace

/-- The objects of a route from the root, the last one first. -/
inductive Route : List graph.Object → Prop where
  | start : Route [graph.objectAt path]
  | follow {here there : graph.Object} {before : List graph.Object} {directory : graph.Directory}
      (route : Route (here :: before)) (leads : graph.leads here = some directory)
      (child : there ∈ graph.children directory) : Route (there :: here :: before)

/-- The trace reports an error other than a route notice for an object. -/
def FailedAt (trace : List WalkEvent) (object : graph.Object) : Prop :=
  ∃ shown error, emitError shown error ∈ trace ∧ graph.objectAt shown = object ∧
    isRouteNotice error = false

def Emitted (trace : List WalkEvent) (object : graph.Object) : Prop :=
  ∃ read, emitObject read ∈ trace ∧ graph.objectAt read.path = object

def withinLimit (config : WalkConfig) (length : Nat) : Bool :=
  config.maxDepth.all (fun limit => length ≤ limit)

/-- Completeness of a walk. -/
structure Complete (config : WalkConfig) (trace : List WalkEvent) : Prop where
  duplicates_listed : ∀ shown notice,
    emitError shown (.reparseDuplicateTarget notice) ∈ trace →
      ∃ listedPath directory, .listed listedPath ∈ trace ∧
        graph.leads (graph.objectAt shown) = some directory ∧
        graph.leads (graph.objectAt listedPath) = some directory
  reachable_emitted : ∀ last before, graph.Route (last :: before) →
    withinLimit config before.length = true →
      (∀ object ∈ last :: before, ¬graph.FailedAt trace object) → graph.Emitted trace last

/-- The directory of an object is recorded through this object, and the listing
fails wholly or partly. -/
def Hindered (config : WalkConfig) (object : graph.Object) : Prop :=
  ∃ count directory visit, (graph.land config).Records count directory visit ∧
    graph.objectAt visit.path = object ∧ belowLimit config visit.depth = true ∧
    ListingFails world visit

/-- The steps of the walk do not meet the gaps that recording a directory before
it is listed leaves open. -/
structure RecordsListed (config : WalkConfig) : Prop where
  met_again : ∀ earlier later directory first second,
    (graph.land config).Records earlier directory first →
    (graph.land config).Meets later directory second → earlier < later →
    graph.key directory ∉ ((explorer world config (WalkRoot.of world path)).stateAt
      (rootVisit path) later).detector.active →
      belowLimit config first.depth = true ∧ graph.readable directory = true
  at_limit : ∀ count directory visit, (graph.land config).Records count directory visit →
    belowLimit config visit.depth = false → graph.children directory ≠ [] →
    ∀ last before, graph.Route (last :: before) → graph.leads last = some directory →
      belowLimit config before.length = true →
        ∃ object ∈ last :: before, graph.Hindered config object

theorem unresolvedReparseError_notNotice (osError : Option Nat) (link : Option LinkInfo)
    (remote : Bool) : isRouteNotice (unresolvedReparseError osError link remote) = false := by
  unfold unresolvedReparseError
  dsimp only
  repeat' split
  all_goals rfl

theorem reparseStop_notNotice {remote : Bool} {visit : PendingVisit} {link : Option LinkInfo}
    {error : CoreError} (stop : reparseStop world remote visit link = some error) :
    isRouteNotice error = false := by
  unfold reparseStop at stop
  split at stop
  · cases stop
    exact unresolvedReparseError_notNotice _ link remote
  · dsimp only at stop
    split at stop
    · cases stop
      rfl
    · cases stop

/-- What a stopped visit emits: an error, an object with an error, or an
object. -/
inductive StoppedEvents (world : World) (visit : PendingVisit) : List WalkEvent → Prop where
  | unread (error : CoreError) (fails : isRouteNotice error = false) :
      StoppedEvents world visit [emitError visit.path error]
  | blocked (read object : FileSystemObject) (error : CoreError)
      (known : world.readFileSystemObject visit.path = .ok read) (same : object.path = read.path)
      (fails : isRouteNotice error = false) :
      StoppedEvents world visit [emitObject object, emitError visit.path error]
  | plain (read object : FileSystemObject)
      (known : world.readFileSystemObject visit.path = .ok read) (same : object.path = read.path) :
      StoppedEvents world visit [emitObject object]

theorem stopEvents_spec {root : WalkRoot} {visit : PendingVisit} {read : FileSystemObject}
    {probe : Option DirectoryProbe} {events : List WalkEvent}
    (known : world.readFileSystemObject visit.path = .ok read)
    (stopped : stopEvents world root visit (withListedLink world visit read) probe = some events) :
    StoppedEvents world visit events := by
  have same := withListedLink_path world visit read
  generalize withListedLink world visit read = object at stopped same
  simp only [stopEvents] at stopped
  split at stopped
  · cases stopped
    exact .unread _ rfl
  · split at stopped
    · rename_i error stop
      cases stopped
      refine .blocked read object error known same ?_
      by_cases reparse : object.isReparsePoint = true
      · rw [if_pos reparse] at stop
        exact reparseStop_notNotice stop
      · rw [if_neg reparse] at stop
        cases stop
    · by_cases isDirectory : object.isDirectory = true
      · simp [isDirectory] at stopped
      · simp only [isDirectory, Bool.not_false, if_true, Option.some.injEq] at stopped
        subst stopped
        exact .plain read object known same

/-- What `examine` gives for a path. -/
theorem examine_spec (graph : DirectoryGraph world path) (visit : PendingVisit) :
    match examine world (WalkRoot.of world path) visit with
    | .stopped events => StoppedEvents world visit events
    | .directory _ found => ∃ read, world.readFileSystemObject visit.path = .ok read ∧
        found.object.path = read.path := by
  rw [examine]
  cases known : world.readFileSystemObject visit.path with
  | error error => exact .unread error (graph.read_error visit.path error known)
  | ok read =>
      dsimp only
      cases stopped : stopEvents world (WalkRoot.of world path) visit
          (withListedLink world visit read)
          (probeOf world (WalkRoot.of world path) visit (withListedLink world visit read)) with
      | some events => exact stopEvents_spec known stopped
      | none => exact ⟨read, rfl, withListedLink_path world visit read⟩

/-- Where an event of a step comes from. -/
inductive Source (config : WalkConfig) (count : Nat) : WalkEvent → Prop where
  | failure (visit : PendingVisit) (error : CoreError) (fails : isRouteNotice error = false)
      (visits : (explorer world config (WalkRoot.of world path)).Visits (rootVisit path) count visit)
      (blocked : graph.leads (graph.objectAt visit.path) = none) :
      Source config count (emitError visit.path error)
  | hindrance (visit : PendingVisit) (error : CoreError) (fails : isRouteNotice error = false)
      (hindered : graph.Hindered config (graph.objectAt visit.path)) :
      Source config count (emitError visit.path error)
  | object (read : FileSystemObject) (visit : PendingVisit)
      (visits : (explorer world config (WalkRoot.of world path)).Visits (rootVisit path) count visit)
      (same : graph.objectAt read.path = graph.objectAt visit.path) :
      Source config count (emitObject read)
  | cycle (visit : PendingVisit) (notice : String) :
      Source config count (emitError visit.path (.reparseCycle notice))
  | duplicate (directory : graph.Directory) (visit : PendingVisit) (notice : String)
      (meets : (graph.land config).Meets count directory visit)
      (inactive : graph.key directory ∉ ((explorer world config (WalkRoot.of world path)).stateAt
        (rootVisit path) count).detector.active)
      (seen : graph.key directory ∈ ((explorer world config (WalkRoot.of world path)).stateAt
        (rootVisit path) count).detector.seen) :
      Source config count (emitError visit.path (.reparseDuplicateTarget notice))
  | listed (directory : graph.Directory) (visit : PendingVisit)
      (records : (graph.land config).Records count directory visit)
      (opens : Opens world config visit) : Source config count (.listed visit.path)

/-- An entry of a listing that could not be read was reported by the visit that
listed its directory. -/
theorem source_of_reported {config : WalkConfig} {count earlier : Nat} {event : WalkEvent}
    {directory : graph.Directory} {visit : PendingVisit} {found : FoundDirectory}
    (records : (graph.land config).Records earlier directory visit)
    (reported : .report event ∈ (expand world config visit found).2) :
    graph.Source config count event := by
  by_cases opens : Opens world config visit
  · rcases opens with ⟨below, entries, listed⟩
    rw [expand_tasks config visit found below listed] at reported
    rcases List.mem_map.mp reported with ⟨entry, entered, same⟩
    cases entry with
    | ok shown => cases same
    | error reason =>
        cases same
        refine .hindrance visit _ rfl ⟨earlier, directory, visit, records, rfl, below, ?_⟩
        rw [ListingFails, listed]
        exact ⟨reason, entered⟩
  · rw [expand_of_not_opens config visit found opens] at reported
    cases reported

/-- What a visit emits that stops at its path. -/
theorem source_of_stopped {config : WalkConfig} {count : Nat} {event : WalkEvent}
    {visit : PendingVisit} {events : List WalkEvent}
    (visits : (explorer world config (WalkRoot.of world path)).Visits (rootVisit path) count visit)
    (looked : examine world (WalkRoot.of world path) visit = .stopped events)
    (inside : event ∈ events) : graph.Source config count event := by
  have blocked : graph.leads (graph.objectAt visit.path) = none :=
    graph.stopped visit events ((graph.land config).visits_placed visits) looked
  have spec := graph.examine_spec visit
  rw [looked] at spec
  cases spec with
  | unread error fails =>
      rw [List.mem_singleton.mp inside]
      exact .failure visit error fails visits blocked
  | blocked read object error known same fails =>
      rcases List.mem_cons.mp inside with first | second
      · rw [first]
        exact .object object visit visits (by rw [same, graph.same_object _ _ known])
      · rw [List.mem_singleton.mp second]
        exact .failure visit error fails visits blocked
  | plain read object known same =>
      rw [List.mem_singleton.mp inside]
      exact .object object visit visits (by rw [same, graph.same_object _ _ known])

/-- What a visit emits that records a new directory. -/
theorem source_of_expanded {config : WalkConfig} {count : Nat} {event : WalkEvent}
    {directory : graph.Directory} {visit : PendingVisit} {found : FoundDirectory}
    (records : (graph.land config).Records count directory visit)
    (visits : (explorer world config (WalkRoot.of world path)).Visits (rootVisit path) count visit)
    (sameObject : graph.objectAt found.object.path = graph.objectAt visit.path)
    (member : event ∈ (expand world config visit found).1) : graph.Source config count event := by
  unfold expand at member
  split at member
  · rename_i below
    split at member
    · rename_i reason unlisted
      rcases List.mem_cons.mp member with first | second
      · rw [first]
        exact .object _ visit visits sameObject
      · rw [List.mem_singleton.mp second]
        refine .hindrance visit _ rfl ⟨count, directory, visit, records, rfl, below, ?_⟩
        rw [ListingFails, unlisted]
        trivial
    · rename_i entries listed
      rcases List.mem_cons.mp member with first | second
      · rw [first]
        exact .listed directory visit records ⟨below, entries, listed⟩
      · rw [List.mem_singleton.mp second]
        exact .object _ visit visits sameObject
  · rw [List.mem_singleton.mp member]
    exact .object _ visit visits sameObject

/-- Every event has its source. -/
theorem source_of_emitted {config : WalkConfig} {count : Nat} {event : WalkEvent}
    (emits : event ∈ (explorer world config (WalkRoot.of world path)).emitted
      ((explorer world config (WalkRoot.of world path)).stateAt (rootVisit path) count)) :
    graph.Source config count event := by
  rcases (graph.land config).emitted_cases emits with
    ⟨earlier, _, directory, visit, found, records, looked, reported⟩ |
    ⟨visit, events, visits, looked, inside⟩ | ⟨directory, visit, found, meets, looked, inside⟩
  · exact graph.source_of_reported records reported
  · exact graph.source_of_stopped visits looked inside
  · have spec := graph.examine_spec visit
    change examine world (WalkRoot.of world path) visit = _ at looked
    rw [looked] at spec
    rcases spec with ⟨read, known, same⟩
    have sameObject : graph.objectAt found.object.path = graph.objectAt visit.path := by
      rw [same, graph.same_object _ _ known]
    rcases inside with ⟨_, ancestor, member⟩ | ⟨inactive, seen, first, member⟩ | ⟨records, member⟩
    · change event ∈ [emitObject found.object, emitError visit.path _] at member
      rcases List.mem_cons.mp member with first | second
      · rw [first]
        exact .object _ visit meets.1 sameObject
      · rw [List.mem_singleton.mp second]
        exact .cycle visit _
    · change event ∈ [emitObject found.object, emitError visit.path _] at member
      rcases List.mem_cons.mp member with start | second
      · rw [start]
        exact .object _ visit meets.1 sameObject
      · rw [List.mem_singleton.mp second]
        exact .duplicate directory visit _ meets inactive seen
    · exact graph.source_of_expanded records meets.1 sameObject member

variable {graph} {config : WalkConfig} {extra count : Nat}

theorem mem_trace_iff (graph : DirectoryGraph world path) (event : WalkEvent) :
    event ∈ graph.trace config extra ↔
      ∃ turn < (graph.land config).bound + extra,
        event ∈ (explorer world config (WalkRoot.of world path)).emitted
          ((explorer world config (WalkRoot.of world path)).stateAt (rootVisit path) turn) := by
  rw [trace, walkDir, Explorer.walk_uncancelled]
  exact Explorer.mem_trace_iff _ (rootVisit path) event _

theorem ended (graph : DirectoryGraph world path) (config : WalkConfig) (extra : Nat) :
    ((explorer world config (WalkRoot.of world path)).stateAt (rootVisit path)
      ((graph.land config).bound + extra)).stack = [] :=
  (graph.land config).ends (Nat.le_add_right _ _)

/-- A visit happens before the walk has ended. -/
theorem visits_before (graph : DirectoryGraph world path) {visit : PendingVisit}
    (visits : (explorer world config (WalkRoot.of world path)).Visits (rootVisit path) count visit) :
    count < (graph.land config).bound + extra := by
  rcases visits with ⟨rest, front⟩
  by_contra late
  have enough : (graph.land config).bound ≤ count := by omega
  have finished := (graph.land config).ends enough
  rw [front] at finished
  cases finished

/-- A visit emits its object, unless it reports an error that is no route
notice. -/
theorem visits_emit {visit : PendingVisit}
    (visits : (explorer world config (WalkRoot.of world path)).Visits (rootVisit path) count visit) :
    graph.Emitted (graph.trace config extra) (graph.objectAt visit.path) ∨
      graph.FailedAt (graph.trace config extra) (graph.objectAt visit.path) := by
  have inTrace : ∀ event, event ∈ (explorer world config (WalkRoot.of world path)).emitted
      ((explorer world config (WalkRoot.of world path)).stateAt (rootVisit path) count) →
      event ∈ graph.trace config extra :=
    fun event emits => (graph.mem_trace_iff event).mpr
      ⟨count, graph.visits_before visits, emits⟩
  have spec := graph.examine_spec visit
  rcases visits with ⟨rest, front⟩
  cases looked : examine world (WalkRoot.of world path) visit with
  | stopped events =>
      have emits := ((explorer world config (WalkRoot.of world path)).step_stopped front looked).2.2
      rw [emits] at inTrace
      rw [looked] at spec
      cases spec with
      | unread error fails =>
          exact Or.inr ⟨visit.path, error, inTrace _ (List.mem_singleton_self _), rfl, fails⟩
      | blocked read object error known same fails =>
          exact Or.inr ⟨visit.path, error, inTrace _ (List.mem_cons_of_mem _
            (List.mem_singleton_self _)), rfl, fails⟩
      | plain read object known same =>
          exact Or.inl ⟨object, inTrace _ (List.mem_singleton_self _),
            by rw [same, graph.same_object _ _ known]⟩
  | directory identity found =>
      rw [looked] at spec
      rcases spec with ⟨read, known, same⟩
      have sameObject : graph.objectAt found.object.path = graph.objectAt visit.path := by
        rw [same, graph.same_object _ _ known]
      by_cases active : identity ∈ ((explorer world config (WalkRoot.of world path)).stateAt
          (rootVisit path) count).detector.active
      · rcases (explorer world config (WalkRoot.of world path)).step_active front looked active with
          ⟨_, _, ancestor, emits⟩
        rw [emits] at inTrace
        exact Or.inl ⟨found.object, inTrace _ List.mem_cons_self, sameObject⟩
      · by_cases seen : identity ∈ ((explorer world config (WalkRoot.of world path)).stateAt
            (rootVisit path) count).detector.seen
        · rcases (explorer world config (WalkRoot.of world path)).step_seen front looked active seen
            with ⟨_, _, first, emits⟩
          rw [emits] at inTrace
          exact Or.inl ⟨found.object, inTrace _ List.mem_cons_self, sameObject⟩
        · have emits := ((explorer world config (WalkRoot.of world path)).step_fresh front looked
            active seen).2.2
          rw [emits] at inTrace
          change ∀ event, event ∈ (expand world config visit found).1 → _ at inTrace
          unfold expand at inTrace
          split at inTrace
          · split at inTrace
            · exact Or.inl ⟨_, inTrace _ List.mem_cons_self, sameObject⟩
            · exact Or.inl ⟨_, inTrace _ (List.mem_cons_of_mem _ (List.mem_singleton_self _)),
                sameObject⟩
          · exact Or.inl ⟨_, inTrace _ List.mem_cons_self, sameObject⟩

/-- An object through which the walk enters a directory with a failing listing
has an error in the trace. -/
theorem failedAt_of_hindered {object : graph.Object} (hindered : graph.Hindered config object) :
    graph.FailedAt (graph.trace config extra) object := by
  rcases hindered with ⟨count, directory, visit, records, rfl, below, fails⟩
  rcases records.1.examined with ⟨found, looked⟩
  cases listed : world.readDir (toWindowsApiPath visit.path) with
  | error reason =>
      have emits := records.emitted looked
      change _ = (expand world config visit found).1 at emits
      simp only [expand, below, if_true, listed] at emits
      refine ⟨visit.path, .accessDenied s!"Cannot enumerate directory: {reason}",
        (graph.mem_trace_iff _).mpr
          ⟨count, graph.visits_before records.1.1, ?_⟩, rfl, rfl⟩
      rw [emits]
      exact List.mem_cons_of_mem _ (List.mem_singleton_self _)
  | ok entries =>
      rw [ListingFails, listed] at fails
      rcases fails with ⟨reason, entered⟩
      have left : .report (emitError visit.path
          (.accessDenied s!"Directory entry error: {reason}")) ∈
          (expand world config visit found).2 := by
        rw [expand_tasks config visit found below listed]
        exact List.mem_map.mpr ⟨.error reason, entered, rfl⟩
      rcases records.reaches_top looked left (graph.ended config extra) with
        ⟨turn, bounded, rest, onTop⟩
      refine ⟨visit.path, .accessDenied s!"Directory entry error: {reason}",
        (graph.mem_trace_iff _).mpr ⟨turn, bounded, ?_⟩, rfl, rfl⟩
      rw [((explorer world config (WalkRoot.of world path)).step_report onTop).2.2]
      exact List.mem_singleton_self _

/-- The visit that records a directory below the limit reads its listing when
the directory is readable. -/
theorem opens_of_readable {directory : graph.Directory} {visit : PendingVisit}
    (records : (graph.land config).Records count directory visit)
    (below : belowLimit config visit.depth = true) (readable : graph.readable directory = true) :
    Opens world config visit := by
  cases listed : world.readDir (toWindowsApiPath visit.path) with
  | ok entries => exact ⟨below, entries, listed⟩
  | error reason =>
      have unreadable := graph.unlisted visit directory reason
        ((graph.land config).visits_placed records.1.1) records.1.2 listed
      rw [unreadable] at readable
      cases readable

theorem readable_of_opens {directory : graph.Directory} {visit : PendingVisit}
    (records : (graph.land config).Records count directory visit)
    (opens : Opens world config visit) : graph.readable directory = true := by
  rcases opens with ⟨_, entries, listed⟩
  exact (graph.listing visit directory entries
    ((graph.land config).visits_placed records.1.1) records.1.2 listed).1

/-! ## Completeness from the condition -/

/-- A directory reached by a route that reports no error was opened by the visit
that recorded it. -/
theorem opened_of_route (listed : graph.RecordsListed config) {here : graph.Object}
    {before : List graph.Object} {directory : graph.Directory} {visit : PendingVisit}
    (route : graph.Route (here :: before)) (leads : graph.leads here = some directory)
    (inner : graph.children directory ≠ []) (within : belowLimit config before.length = true)
    (clean : ∀ object ∈ here :: before, ¬graph.FailedAt (graph.trace config extra) object)
    (visits : (explorer world config (WalkRoot.of world path)).Visits (rootVisit path) count visit)
    (same : graph.objectAt visit.path = here) :
    ∃ earlier first, (graph.land config).Records earlier directory first ∧
      Opens world config first := by
  have meets : (graph.land config).Meets count directory visit := by
    refine ⟨visits, ?_⟩
    change graph.leads (graph.objectAt visit.path) = _
    rw [same]
    exact leads
  rcases meets.recorded with ⟨earlier, order, first, records⟩
  have below : belowLimit config first.depth = true := by
    by_contra atLimit
    obtain ⟨object, member, hindered⟩ := listed.at_limit earlier directory first records
      (by simpa using atLimit) inner here before route leads within
    exact clean object member (failedAt_of_hindered hindered)
  refine ⟨earlier, first, records, opens_of_readable records below ?_⟩
  rcases Nat.lt_or_eq_of_le order with later | equal
  · by_cases active : graph.key directory ∈ ((explorer world config (WalkRoot.of world path)).stateAt
        (rootVisit path) count).detector.active
    · rcases meets.active_opened active with ⟨opening, _, opener, opened, opens⟩
      exact readable_of_opens opened opens
    · exact (listed.met_again earlier count directory first visit records meets later active).2
  · -- The route itself records the directory, so a failed listing would be its error.
    subst equal
    have atVisit : first = visit := by
      rcases visits with ⟨rest, front⟩
      rcases records.1.1 with ⟨otherRest, otherFront⟩
      rw [front] at otherFront
      cases (List.cons.inj otherFront).1
      rfl
    subst atVisit
    by_contra unreadable
    refine clean here List.mem_cons_self (failedAt_of_hindered
      ⟨earlier, directory, first, records, same, below, ?_⟩)
    cases read : world.readDir (toWindowsApiPath first.path) with
    | error reason =>
        rw [ListingFails, read]
        trivial
    | ok entries => exact absurd (readable_of_opens records ⟨below, entries, read⟩) unreadable

/-- The objects of a route that reports no error are visited. -/
theorem visited_of_route (listed : graph.RecordsListed config) :
    ∀ {objects : List graph.Object}, graph.Route objects → ∀ last before,
      objects = last :: before → withinLimit config before.length = true →
      (∀ object ∈ last :: before, ¬graph.FailedAt (graph.trace config extra) object) →
      ∃ turn visit, (explorer world config (WalkRoot.of world path)).Visits (rootVisit path) turn
        visit ∧ graph.objectAt visit.path = last := by
  intro objects route
  induction route with
  | start =>
      intro last before whole within clean
      cases whole
      exact ⟨0, rootVisit path, ⟨[], rfl⟩, rfl⟩
  | @follow here there earlier directory route leads child known =>
      intro last before whole within clean
      cases whole
      have shorter : belowLimit config earlier.length = true := by
        cases limit : config.maxDepth with
        | none => simp [belowLimit, limit]
        | some maxDepth =>
            simp only [withinLimit, limit, Option.all_some, List.length_cons,
              decide_eq_true_eq] at within
            simp only [belowLimit, limit, Option.all_some, decide_eq_true_eq]
            omega
      have withinHere : withinLimit config earlier.length = true := by
        cases limit : config.maxDepth with
        | none => simp [withinLimit, limit]
        | some maxDepth =>
            simp only [belowLimit, limit, Option.all_some, decide_eq_true_eq] at shorter
            simp only [withinLimit, limit, Option.all_some, decide_eq_true_eq]
            omega
      have cleanHere : ∀ object ∈ here :: earlier,
          ¬graph.FailedAt (graph.trace config extra) object :=
        fun object member => clean object (List.mem_cons_of_mem _ member)
      rcases known here earlier rfl withinHere cleanHere with ⟨turn, visit, visits, same⟩
      rcases opened_of_route listed route leads
          (List.ne_nil_of_mem child) shorter cleanHere visits same with
        ⟨count, first, records, opens⟩
      rcases records.children_visited opens (graph.ended config extra) there child with
        ⟨later, _, below, visitsBelow, sameBelow⟩
      exact ⟨later, below, visitsBelow, sameBelow⟩

theorem complete_of_recordsListed (listed : graph.RecordsListed config) :
    graph.Complete config (graph.trace config extra) where
  duplicates_listed := by
    intro shown notice inTrace
    rcases (graph.mem_trace_iff _).mp inTrace with ⟨turn, bounded, emits⟩
    have source := graph.source_of_emitted emits
    generalize event : emitError shown (.reparseDuplicateTarget notice) = reported at source
    cases source with
    | failure visit error fails visits blocked =>
        cases event
        cases fails
    | hindrance visit error fails hindered =>
        cases event
        cases fails
    | object read visit visits same => cases event
    | cycle visit other => cases event
    | listed directory visit records opens => cases event
    | duplicate directory visit other meets inactive seen =>
        cases event
        rcases ((graph.land config).invariant turn).recorded _ seen with
          ⟨earlier, before, known, first, same, records⟩
        cases graph.key_injective same
        rcases listed.met_again earlier turn directory first visit records meets before inactive
          with ⟨below, readable⟩
        rcases opens_of_readable records below readable with ⟨_, entries, read⟩
        rcases records.1.examined with ⟨found, looked⟩
        refine ⟨first.path, directory, (graph.mem_trace_iff _).mpr
          ⟨earlier, Nat.lt_trans before bounded, ?_⟩, meets.2, records.1.2⟩
        rw [records.emitted looked]
        change _ ∈ (expand world config first found).1
        rw [expand_tasks config first found below read]
        exact List.mem_cons_self
  reachable_emitted := by
    intro last before route within clean
    rcases visited_of_route listed route last before rfl within clean with
      ⟨turn, visit, visits, rfl⟩
    exact (visits_emit visits).resolve_right (clean _ List.mem_cons_self)

/-! ## The condition from completeness -/

theorem met_again_of_complete (complete : graph.Complete config (graph.trace config extra))
    {earlier later : Nat} {directory : graph.Directory} {first second : PendingVisit}
    (records : (graph.land config).Records earlier directory first)
    (meets : (graph.land config).Meets later directory second) (order : earlier < later)
    (inactive : graph.key directory ∉ ((explorer world config (WalkRoot.of world path)).stateAt
      (rootVisit path) later).detector.active) :
    belowLimit config first.depth = true ∧ graph.readable directory = true := by
  rcases meets.examined with ⟨found, looked⟩
  rcases meets.emitted_duplicate looked inactive (records.seen_after order) with ⟨shown, emits⟩
  have reported : emitError second.path
      (.reparseDuplicateTarget (duplicateRouteMessage shown found.route)) ∈
      graph.trace config extra := by
    refine (graph.mem_trace_iff _).mpr
      ⟨later, graph.visits_before meets.1, ?_⟩
    rw [emits]
    exact List.mem_cons_of_mem _ (List.mem_singleton_self _)
  rcases complete.duplicates_listed second.path _ reported with
    ⟨listedPath, target, inTrace, leads, listedLeads⟩
  have same : target = directory := by
    have known : graph.leads (graph.objectAt second.path) = some directory := meets.2
    rw [leads] at known
    exact Option.some.inj known
  subst same
  rcases (graph.mem_trace_iff _).mp inTrace with ⟨turn, _, listing⟩
  have source := graph.source_of_emitted listing
  generalize event : WalkEvent.listed listedPath = reported at source
  cases source with
  | failure visit error fails visits blocked => cases event
  | hindrance visit error fails hindered => cases event
  | object read visit visits same => cases event
  | cycle visit other => cases event
  | duplicate directory visit other meets inactive seen => cases event
  | listed other visit opened opens =>
      cases event
      have known : graph.leads (graph.objectAt visit.path) = some other := opened.1.2
      rw [listedLeads] at known
      cases known
      rcases records.unique opened with ⟨_, rfl⟩
      exact ⟨opens.1, readable_of_opens records opens⟩

/-- No object of a directory that the walk records at the depth limit is
visited. -/
theorem child_unvisited {directory : graph.Directory} {first visit : PendingVisit} {turn : Nat}
    (records : (graph.land config).Records count directory first)
    (atLimit : belowLimit config first.depth = false) {child : graph.Object}
    (member : child ∈ graph.children directory)
    (visits : (explorer world config (WalkRoot.of world path)).Visits (rootVisit path) turn visit) :
    graph.objectAt visit.path ≠ child := by
  rintro rfl
  rcases (graph.land config).visits_origin visits with rfl | inner
  · exact graph.root_not_child directory member
  · rcases inner with ⟨_, _, other, parent, opened, opens, inside⟩
    cases graph.parent_unique _ directory other member inside
    rcases records.unique opened with ⟨_, rfl⟩
    rw [opens.1] at atLimit
    cases atLimit

theorem at_limit_of_complete (complete : graph.Complete config (graph.trace config extra))
    {directory : graph.Directory} {first : PendingVisit}
    (records : (graph.land config).Records count directory first)
    (atLimit : belowLimit config first.depth = false) (inner : graph.children directory ≠ [])
    {last : graph.Object} {before : List graph.Object} (route : graph.Route (last :: before))
    (leads : graph.leads last = some directory)
    (shorter : belowLimit config before.length = true)
    (allLead : ∀ object ∈ last :: before, (graph.leads object).isSome) :
    ∃ object ∈ last :: before, graph.Hindered config object := by
  by_contra unhindered
  rcases List.exists_mem_of_ne_nil _ inner with ⟨child, member⟩
  have within : withinLimit config (last :: before).length = true := by
    cases limit : config.maxDepth with
    | none => simp [withinLimit, limit]
    | some maxDepth =>
        simp only [belowLimit, limit, Option.all_some, decide_eq_true_eq] at shorter
        simp only [withinLimit, limit, Option.all_some, List.length_cons, decide_eq_true_eq]
        omega
  have clean : ∀ object ∈ child :: last :: before,
      ¬graph.FailedAt (graph.trace config extra) object := by
    rintro object inside ⟨shown, error, inTrace, same, fails⟩
    rcases (graph.mem_trace_iff _).mp inTrace with ⟨turn, _, emits⟩
    have source := graph.source_of_emitted emits
    generalize event : emitError shown error = reported at source
    cases source with
    | object read visit visits other => cases event
    | listed other visit opened opens => cases event
    | cycle visit notice =>
        cases event
        cases fails
    | duplicate other visit notice meets inactive seen =>
        cases event
        cases fails
    | failure visit other notNotice visits blocked =>
        cases event
        rcases List.mem_cons.mp inside with atChild | onRoute
        · exact child_unvisited records atLimit member visits (same.trans atChild)
        · have some := allLead object onRoute
          rw [← same, blocked] at some
          cases some
    | hindrance visit other notNotice hindered =>
        cases event
        rcases List.mem_cons.mp inside with atChild | onRoute
        · rcases hindered with ⟨_, _, through, opened, sameObject, _⟩
          exact child_unvisited records atLimit member opened.1.1
            (sameObject.trans (same.trans atChild))
        · exact unhindered ⟨object, onRoute, same ▸ hindered⟩
  rcases complete.reachable_emitted child (last :: before)
      (.follow route leads member) within clean with ⟨read, inTrace, same⟩
  rcases (graph.mem_trace_iff _).mp inTrace with ⟨turn, _, emits⟩
  have source := graph.source_of_emitted emits
  generalize event : emitObject read = reported at source
  cases source with
  | failure visit error fails visits blocked => cases event
  | hindrance visit error fails hindered => cases event
  | cycle visit notice => cases event
  | duplicate other visit notice meets inactive seen => cases event
  | listed other visit opened opens => cases event
  | object shown visit visits sameObject =>
      cases event
      exact child_unvisited records atLimit member visits (sameObject.symm.trans same)

/-- Every object of a route that leads on leads to a directory. -/
theorem route_leads {objects : List graph.Object} (route : graph.Route objects) :
    ∀ last before, objects = last :: before → ∀ object ∈ before, (graph.leads object).isSome := by
  induction route with
  | start =>
      intro last before whole object member
      cases whole
      cases member
  | follow route leads child known =>
      intro last before whole object member
      cases whole
      rcases List.mem_cons.mp member with equal | earlier
      · rw [equal, leads]
        rfl
      · exact known _ _ rfl object earlier

/-- The walk of a finite directory graph is complete exactly when every
directory it meets again was listed by the visit that recorded it, and no
directory it records at the depth limit has a shorter route without errors. -/
theorem walk_complete_iff (graph : DirectoryGraph world path) (config : WalkConfig) (extra : Nat) :
    graph.Complete config (graph.trace config extra) ↔ graph.RecordsListed config := by
  constructor
  · intro complete
    refine ⟨?_, ?_⟩
    · intro earlier later directory first second records meets order inactive
      exact met_again_of_complete complete records meets order inactive
    · intro count directory visit records atLimit inner last before route leads shorter
      refine at_limit_of_complete complete records atLimit inner route leads shorter ?_
      intro object member
      rcases List.mem_cons.mp member with equal | earlier
      · rw [equal, leads]
        rfl
      · exact route_leads route last before rfl object earlier
  · exact complete_of_recordsListed

end DirectoryGraph

/-! ## A directory met first at the depth limit

`C:\r` holds the directory `a` and the junction `b`, which leads to the directory
`a\c`.  With a depth limit of two the walk meets `a\c` at the limit and does not
list it.  It then meets `a\c` through `b`, where the limit would allow the
listing, and takes it for a directory it has enumerated. -/

namespace ShortRoute

inductive Place where
  | root
  | near
  | junction
  | deep
  | file
  | nowhere
deriving DecidableEq

inductive Folder where
  | root
  | near
  | deep
deriving DecidableEq

def places : List (String × Place) :=
  [("C:\\r", .root), ("C:\\r\\a", .near), ("C:\\r\\b", .junction), ("C:\\r\\a\\c", .deep),
    ("C:\\r\\a\\c\\x", .file), ("C:\\r\\b\\x", .file),
    ("\\\\?\\C:\\r\\a", .near), ("\\\\?\\C:\\r\\b", .junction),
    ("\\\\?\\C:\\r\\a\\c", .deep), ("\\\\?\\C:\\r\\a\\c\\x", .file),
    ("\\\\?\\C:\\r\\b\\x", .file)]

def placeAt (path : String) : Place := (places.lookup path).getD .nowhere

def leads : Place → Option Folder
  | .root => some .root
  | .near => some .near
  | .junction => some .deep
  | .deep => some .deep
  | .file => none
  | .nowhere => none

def children : Folder → List Place
  | .root => [.near, .junction]
  | .near => [.deep]
  | .deep => [.file]

def canonical : Folder → String
  | .root => "\\\\?\\c:\\r"
  | .near => "\\\\?\\c:\\r\\a"
  | .deep => "\\\\?\\c:\\r\\a\\c"

def objectAtPlace (path : String) (place : Place) : FileSystemObject where
  path := stripLongPathPrefix path
  isDirectory := place ≠ .file
  isReparsePoint := place = .junction
  link :=
    if place = .junction then some { kind := .junction, target := "C:\\r\\a\\c" } else none

theorem objectAtPlace_path (path : String) (place : Place) :
    (objectAtPlace path place).path = stripLongPathPrefix path := by
  rw [objectAtPlace]

def read (path : String) : Except CoreError FileSystemObject :=
  match places.lookup path with
  | none => .error (.pathNotFound path)
  | some place => .ok (objectAtPlace path place)

def listings : List (String × List (Except String DirEntry)) :=
  [("\\\\?\\C:\\r", [.ok ⟨"\\\\?\\C:\\r\\a", false⟩, .ok ⟨"\\\\?\\C:\\r\\b", true⟩]),
    ("\\\\?\\C:\\r\\a", [.ok ⟨"\\\\?\\C:\\r\\a\\c", false⟩]),
    ("\\\\?\\C:\\r\\a\\c", [.ok ⟨"\\\\?\\C:\\r\\a\\c\\x", false⟩]),
    ("\\\\?\\C:\\r\\b", [.ok ⟨"\\\\?\\C:\\r\\b\\x", false⟩])]

def world : World where
  readFileSystemObject := read
  linkTarget := fun _ => none
  probeDirectory := fun _ => { identity := none, identityError := none, finalPath := none }
  finalUncPath := fun _ => none
  canonicalize := fun path =>
    if path = "\\\\?\\C:\\r" then .ok path
    else if path = "\\\\?\\C:\\r\\b" then .ok "\\\\?\\C:\\r\\a\\c"
    else .error (some 2)
  readDir := fun path =>
    match listings.lookup path with
    | some entries => .ok entries
    | none => .error "path not found"

/-- The loop key and the canonical form that a look gives. -/
def identityOf : Examined FoundDirectory String WalkEvent → Option (String × String)
  | .stopped _ => none
  | .directory key found => some (key, found.canonical)

/-- The objects of a listing; a failed entry names none. -/
def objectsOf : Except String (List (Except String DirEntry)) → Option (List Place)
  | .error _ => none
  | .ok entries => some (entries.map (fun entry =>
      match entry with
      | .ok shown => placeAt shown.path
      | .error _ => .nowhere))

theorem root_identity : ∀ listedAsLink ∈ [true, false],
    identityOf (examine world (WalkRoot.of world "C:\\r") ⟨"C:\\r", none, 0, listedAsLink⟩) =
      some (canonical .root, canonical .root) := by decide

theorem inner_identity : ∀ place ∈ places, ∀ parent ∈ [Folder.root, .near, .deep],
    place.2 ∈ children parent → ∀ listedAsLink ∈ [true, false],
      identityOf (examine world (WalkRoot.of world "C:\\r")
        ⟨place.1, some (canonical parent), 0, listedAsLink⟩) =
          (leads place.2).map (fun folder => (canonical folder, canonical folder)) := by decide

theorem listed_objects : ∀ place ∈ places, ∀ folder ∈ [Folder.root, .near, .deep],
    leads place.2 = some folder →
      objectsOf (world.readDir (toWindowsApiPath place.1)) = some (children folder) := by decide

theorem stripped_places : ∀ place ∈ places, placeAt (stripLongPathPrefix place.1) = place.2 := by
  decide

theorem mem_places {path : String} (known : placeAt path ≠ .nowhere) :
    (path, placeAt path) ∈ places := by
  unfold placeAt at known ⊢
  cases found : places.lookup path with
  | none =>
      rw [found] at known
      exact absurd rfl known
  | some place => exact Collections.mem_of_lookup found

theorem read_ok {path : String} {object : FileSystemObject} (known : read path = .ok object) :
    object = objectAtPlace path (placeAt path) ∧ (path, placeAt path) ∈ places := by
  unfold read at known
  split at known
  · cases known
  · rename_i place found
    have at_place : placeAt path = place := by rw [placeAt, found, Option.getD_some]
    rw [at_place]
    exact ⟨(Except.ok.inj known).symm, Collections.mem_of_lookup found⟩

theorem read_failed {path : String} {error : CoreError} (known : read path = .error error) :
    error = .pathNotFound path := by
  unfold read at known
  split at known
  · exact (Except.error.inj known).symm
  · cases known

theorem nowhere_not_child (folder : Folder) : Place.nowhere ∉ children folder := by
  cases folder <;> decide

theorem mem_folders (folder : Folder) : folder ∈ [Folder.root, .near, .deep] := by
  cases folder <;> decide

theorem mem_flags (flag : Bool) : flag ∈ [true, false] := by
  cases flag <;> decide

/-- A placed visit looks at its directory under its canonical form. -/
theorem placed_identity {visit : PendingVisit}
    (placed : PlacedVisit "C:\\r" placeAt children canonical visit) :
    identityOf (examine world (WalkRoot.of world "C:\\r") visit) =
      (leads (placeAt visit.path)).map (fun folder => (canonical folder, canonical folder)) := by
  rcases visit with ⟨path, parent, depth, listedAsLink⟩
  rcases placed with ⟨atRoot, noParent⟩ | ⟨folder, inFolder, inside⟩
  · obtain rfl : path = "C:\\r" := atRoot
    obtain rfl : parent = none := noParent
    exact root_identity listedAsLink (mem_flags listedAsLink)
  · obtain rfl : parent = some (canonical folder) := inFolder
    have known : placeAt path ≠ .nowhere := fun equal =>
      nowhere_not_child folder (equal ▸ inside)
    exact inner_identity (path, placeAt path) (mem_places known) folder (mem_folders folder)
      inside listedAsLink (mem_flags listedAsLink)

theorem listing_of_leads {path : String} {folder : Folder}
    (leadsTo : leads (placeAt path) = some folder) :
    objectsOf (world.readDir (toWindowsApiPath path)) = some (children folder) := by
  have known : placeAt path ≠ .nowhere := by
    intro equal
    rw [equal] at leadsTo
    cases leadsTo
  exact listed_objects (path, placeAt path) (mem_places known) folder (mem_folders folder) leadsTo

def graph : DirectoryGraph world "C:\\r" where
  Object := Place
  Directory := Folder
  objectAt := placeAt
  leads := leads
  children := children
  readable := fun _ => true
  canonical := canonical
  key := canonical
  directories := {.root, .near, .deep}
  size := fun _ => 2
  listed_all := by
    intro folder
    cases folder <;> decide
  key_injective := by
    intro left right same
    cases left <;> cases right <;> first | rfl | exact absurd same (by decide)
  parent_unique := by
    intro child left right inLeft inRight
    cases left <;> cases right <;> first | rfl | (cases child <;> simp [children] at inLeft inRight)
  root_not_child := by
    intro folder
    cases folder <;> decide
  stopped := by
    intro visit events placed looked
    have identity := placed_identity placed
    rw [looked] at identity
    exact Option.map_eq_none_iff.mp identity.symm
  found := by
    intro visit key found placed looked
    have identity := placed_identity placed
    rw [looked] at identity
    rcases Option.map_eq_some_iff.mp identity.symm with ⟨folder, leadsTo, same⟩
    exact ⟨folder, leadsTo, (Prod.mk.inj same).1.symm, (Prod.mk.inj same).2.symm⟩
  unlisted := by
    intro visit folder reason placed leadsTo unread
    have listed := listing_of_leads leadsTo
    rw [unread] at listed
    cases listed
  listing := by
    intro visit folder entries placed leadsTo read
    have listed := listing_of_leads leadsTo
    rw [read] at listed
    have objects := Option.some.inj listed
    refine ⟨rfl, ?_, ?_⟩
    · have lengths := congrArg List.length objects
      rw [List.length_map] at lengths
      rw [lengths]
      cases folder <;> decide
    · intro object
      rw [← objects, List.mem_map]
      constructor
      · rintro ⟨entry, inside, same⟩
        cases entry with
        | ok shown => exact ⟨shown, inside, same⟩
        | error failure =>
            refine absurd ?_ (nowhere_not_child folder)
            rw [← objects]
            exact List.mem_map.mpr ⟨.error failure, inside, rfl⟩
      · rintro ⟨shown, inside, same⟩
        exact ⟨.ok shown, inside, same⟩
  same_object := by
    intro shown object known
    rcases read_ok known with ⟨same, inside⟩
    rw [same, objectAtPlace_path]
    exact stripped_places (shown, placeAt shown) inside
  read_error := by
    intro shown error known
    rw [read_failed known]
    rfl

/-- The paths whose listing a trace reads. -/
def listedPaths (trace : List WalkEvent) : List String :=
  trace.filterMap (fun event =>
    match event with
    | .listed path => some path
    | .item _ => none)

/-- The notice about `b` speaks of an enumerated directory, and `a\c` is never
listed. -/
theorem shortRoute_incomplete :
    ¬graph.Complete { maxDepth := some 2 } (graph.trace { maxDepth := some 2 } 0) := by
  intro complete
  have reported : emitError "\\\\?\\C:\\r\\b" (.reparseDuplicateTarget
      (duplicateRouteMessage "\\\\?\\C:\\r\\a\\c" (.localLink (canonical .deep)))) ∈
      graph.trace { maxDepth := some 2 } 0 := by decide +kernel
  rcases complete.duplicates_listed _ _ reported with
    ⟨listedPath, folder, listed, leadsTo, listedLeads⟩
  have isDeep : some folder = some Folder.deep := leadsTo.symm.trans rfl
  have inside : listedPath ∈ listedPaths (graph.trace { maxDepth := some 2 } 0) :=
    List.mem_filterMap.mpr ⟨.listed listedPath, listed, rfl⟩
  have others : ∀ path ∈ listedPaths (graph.trace { maxDepth := some 2 } 0),
      leads (placeAt path) ≠ some .deep := by decide
  exact others listedPath inside (listedLeads.trans isDeep)

end ShortRoute

end FsScanner
end Stars
