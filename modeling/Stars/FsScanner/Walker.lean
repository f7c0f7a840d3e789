import Stars.Core.Error
import Stars.Core.FileSystem
import Stars.Graph.StackWalk
import Stars.Validation.Path

namespace Stars
namespace FsScanner

open Stars.Graph Validation

/-!
# The directory walk

The walk follows junctions and symbolic links.  A second route to a directory is
recognized by its identity: the canonical path of a local directory, and over SMB
the volume serial with the file ID.  A route back to the active chain is a cycle,
any other second route a duplicate, and both stop there with a notice.

The calls that reach the file system are given by a `World`.  What the walk
emits, and each directory whose listing it reads, is the trace of the walk.
-/

/-- An entry of a directory listing. -/
structure DirEntry where
  path : String
  isSymlink : Bool
deriving DecidableEq

/-- What one open of a remote directory tells: its identity, or why there is
none, and the path it was opened on. -/
structure DirectoryProbe where
  identity : Option String
  identityError : Option String
  finalPath : Option String
deriving DecidableEq

/-- The answers of the file system.  A failed resolution carries the error code
of the operating system, a failed listing its text. -/
structure World where
  readFileSystemObject : String → Except CoreError FileSystemObject
  linkTarget : String → Option LinkInfo
  probeDirectory : String → DirectoryProbe
  finalUncPath : String → Option String
  canonicalize : String → Except (Option Nat) String
  readDir : String → Except String (List (Except String DirEntry))

structure WalkConfig where
  maxDepth : Option Nat

structure WalkError where
  path : String
  error : CoreError
deriving DecidableEq

inductive WalkItem where
  | object (object : FileSystemObject)
  | error (error : WalkError)
deriving DecidableEq

/-- One effect of the walk: an item handed to the caller, or a listing read. -/
inductive WalkEvent where
  | item (item : WalkItem)
  | listed (path : String)
deriving DecidableEq

/-- One pending visit.  `listedAsLink` says that the listing of the parent marks
the entry as a junction or symbolic link. -/
structure PendingVisit where
  path : String
  parentCanonical : Option String
  depth : Nat
  listedAsLink : Bool
deriving DecidableEq

/-- Resolved target form of a path, in lower case. -/
def canonicalizePath (world : World) (path : String) : Option String :=
  match world.canonicalize (toWindowsApiPath path) with
  | .ok resolved => some (Text.toAsciiLowercase resolved)
  | .error _ => none

/-- The path is reached over SMB. -/
def isRemotePath (path : String) : Bool := hasLongUncPrefix (toWindowsApiPath path)

/-- The key the loop detector compares. -/
def selectLoopKey (remote : Bool) (fileIdentity : Option String) (canonical : String) : String :=
  match remote, fileIdentity with
  | true, some identity => identity
  | _, _ => canonical

/-- How a second route to a directory was recognized, which decides what its
notice may claim. -/
inductive DuplicateRoute where
  | localLink (target : String)
  | localDirectory
  | remote (byFileId : Bool)
deriving DecidableEq

def DuplicateRoute.classify (remote byFileId isReparse : Bool) (canonical : String) :
    DuplicateRoute :=
  match remote, isReparse with
  | true, _ => .remote byFileId
  | false, true => .localLink canonical
  | false, false => .localDirectory

/-- A path on a drive of the computer that resolves it. -/
def isDrivePath (path : String) : Bool :=
  match path.toList with
  | drive :: ':' :: '\\' :: _ => drive.isAlpha
  | _ => false

def reparseTail : String :=
  "Recursion stopped at this junction/link. The object itself is in the " ++
    "result with its DACL; objects behind the link were not enumerated."

/-- A symbolic link of a share to a path of the server's own disk, which this
machine resolved on itself. -/
def serverDiskLinkError (osError : Option Nat) (target : String) : CoreError :=
  let why := match osError with
    | some 1463 =>
        "its symbolic link evaluation policy does not allow that (Windows " ++
          "error 1463: \"remote to local\", disabled by default; see `fsutil " ++
          "behavior query SymlinkEvaluation`)"
    | some 2 => "that path does not exist here (Windows error 2)"
    | some 3 => "that path does not exist here (Windows error 3)"
    | some code => s!"that failed (Windows error {code})"
    | none => "that failed"
  .reparseNotFollowed (s!"this symbolic link points to {target}, a path on the server's own disk. Over SMB, " ++
    s!"Windows follows a symbolic link on the client, so this machine resolved {target} on " ++
    s!"itself: {why}. No SMB client reaches the server's folder through this link, and " ++
    s!"whether that folder exists on the server cannot be seen over SMB. {reparseTail}")

/-- What an unresolvable junction or symbolic link means, from the error of
resolving it and what the link stores. -/
def unresolvedReparseError (osError : Option Nat) (link : Option LinkInfo) (remote : Bool) :
    CoreError :=
  let onServerDisk := link.filter (fun stored =>
    remote && stored.kind == LinkKind.symbolicLink && !stored.relative && isDrivePath stored.target)
  match onServerDisk with
  | some stored => serverDiskLinkError osError stored.target
  | none =>
      let what := match link with
        | some stored =>
            let target := stored.target
            if stored.kind = LinkKind.junction then s!"this junction (→ {target})"
            else s!"this symbolic link (→ {target})"
        | none => "this junction/link"
      let missing (code : Nat) : CoreError :=
        match link with
        | some stored =>
            let place := if stored.kind = LinkKind.junction ∧ remote then " on the server" else ""
            .pathNotFound (s!"the target of {what} does not exist{place} (Windows error {code}) — a broken " ++
              s!"link. {reparseTail}")
        | none =>
            if remote then
              .pathNotFound (s!"the target of this junction/link was not found (Windows error {code}): the link is " ++
                "broken, or it is a symbolic link to a path on the server's own disk, which Windows " ++
                s!"resolves on this machine over SMB. The link could not be read to tell which. {reparseTail}")
            else
              .pathNotFound (s!"the target of this junction/link does not exist (Windows error {code}) — a broken " ++
                s!"link. {reparseTail}")
      match osError with
      | some 1463 =>
          if link.isSome then
            .reparseNotFollowed ("this machine's symbolic link evaluation policy does not allow following " ++
              s!"{what} (Windows error 1463; see `fsutil behavior query SymlinkEvaluation`). " ++
              s!"A client with the same policy cannot follow it either. {reparseTail}")
          else
            .reparseNotFollowed ("this machine's symbolic link evaluation policy does not allow following this link " ++
              "type (Windows error 1463 — e.g. a link on a share that points to a local path of the " ++
              "server, \"remote to local\", which Windows disables by default; see `fsutil " ++
              "behavior query SymlinkEvaluation`). A client with the same policy cannot follow it " ++
              s!"either. {reparseTail}")
      | some 5 =>
          .accessDenied (s!"the target of {what} could not be opened (Windows error 5, access denied). " ++
            s!"{reparseTail}")
      | some 2 => missing 2
      | some 3 => missing 3
      | some 1921 =>
          .reparseNotFollowed ("Windows stopped resolving this link after too many reparse points (Windows error " ++
            s!"1921 — a loop of links). {reparseTail}")
      | some code =>
          .reparseNotFollowed (s!"the target of {what} could not be resolved (Windows error {code}). " ++
            s!"{reparseTail}")
      | none => .reparseNotFollowed s!"the target of {what} could not be resolved. {reparseTail}"

/-- A link of a share that resolves to a path of this machine. -/
def localResolutionError (resolved : String) (link : Option LinkInfo) : CoreError :=
  let stored := match link with
    | some info => let target := info.target; s!" (it stores {target})"
    | none => ""
  .reparseNotFollowed (s!"this link{stored} resolves to {resolved} on this machine, not on the server: over SMB, " ++
    "Windows follows a symbolic link on the client, and this machine's symbolic link " ++
    "evaluation policy allows \"remote to local\" (see `fsutil behavior query " ++
    "SymlinkEvaluation`). What it reaches is this computer's own folder, so it was not " ++
    "enumerated as part of the share. The link object itself is in the result with its " ++
    "DACL. Which folder the link reaches on the server cannot be seen over SMB.")

/-- The reason why a directory served from another share is not enumerated;
none without evidence of another share. -/
def otherShareMessage (rootShare : Option (String × String)) (finalPath : Option String) :
    Option String :=
  rootShare.bind (fun root => (finalPath.bind parseUncComponents).bind (fun opened =>
    let (server, share) := opened
    let (rootServer, rootName) := root
    if Text.eqIgnoreAsciiCase server rootServer && Text.eqIgnoreAsciiCase share rootName then none
    else
      some (s!"this directory is served from \\\\{server}\\{share}, not from the share of the scan root " ++
        s!"(\\\\{rootServer}\\{rootName}) — a folder of a DFS namespace or a link to another " ++
        "share. Its share permissions and local groups are those of that share's server, so it " ++
        "was not evaluated in this scan and its content was not enumerated; scan this path on " ++
        "its own.")))

/-- The notice for a second route to a directory met under `firstPath`. -/
def duplicateRouteMessage (firstPath : String) (route : DuplicateRoute) : String :=
  let first := stripLongPathPrefix firstPath
  match route with
  | .localLink target =>
      let shown := stripLongPathPrefix target
      s!"Reparse point target already enumerated in this scan under '{first}' — subtree not " ++
        "enumerated again under this namespace path (duplicate target, not a cycle). Target: " ++
        s!"{shown}. The link object itself is in the result with its DACL."
  | .localDirectory =>
      s!"Directory already enumerated in this scan under '{first}', reached there through a " ++
        "reparse point — subtree not enumerated again under this path (duplicate route, not a " ++
        "cycle). The directory itself is in the result with its DACL."
  | .remote byFileId =>
      let identity := if byFileId then "same volume serial and file ID" else "same resolved path"
      s!"Directory already enumerated in this scan under '{first}' — this path leads to the same " ++
        s!"directory ({identity}); its subtree is not enumerated again (duplicate route, not a " ++
        "cycle). The object at this path is in the result with its DACL."

def cycleMessage (ancestorPath : String) : String :=
  let ancestor := stripLongPathPrefix ancestorPath
  "Reparse point target is an ancestor of the current traversal chain — descending would loop " ++
    s!"forever; recursion stopped at this junction/link. Target: {ancestor}. The object itself " ++
    "is in the result with its DACL."

/-- The last component of a path, in lower case. -/
def componentName (path : String) : Option String :=
  let name := (path.toList.reverse.takeWhile (fun letter => !isSeparator letter)).reverse
  if name.isEmpty || name == ['.', '.'] then none
  else some (Text.toAsciiLowercase (String.ofList name))

/-- Facts about the scan that are decided once from its root. -/
structure WalkRoot where
  remote : Bool
  rootShare : Option (String × String)

/-- The share the root is really served from. -/
def WalkRoot.of (world : World) (path : String) : WalkRoot where
  remote := isRemotePath path
  rootShare :=
    if isRemotePath path then
      ((world.finalUncPath path).bind parseUncComponents).or (parseUncComponents path)
    else none

/-- A directory that the walk may enter, with what its items need. -/
structure FoundDirectory where
  object : FileSystemObject
  identityReason : Option String
  canonical : String
  route : DuplicateRoute

def emitError (path : String) (error : CoreError) : WalkEvent :=
  .item (.error { path := path, error := error })

def emitObject (object : FileSystemObject) : WalkEvent := .item (.object object)

/-- Canonical identity of a directory.  A plain child derives it from its
parent. -/
def canonicalIdentity (world : World) (isReparse : Bool) (visit : PendingVisit) : String :=
  let resolved := (canonicalizePath world visit.path).getD (Text.toAsciiLowercase visit.path)
  match visit.parentCanonical, componentName visit.path with
  | some parent, some name => if isReparse then resolved else parent ++ "\\" ++ name
  | _, _ => resolved

/-- The reason to stop at a reparse point: its target cannot be resolved, or it
is a folder of this machine. -/
def reparseStop (world : World) (remote : Bool) (visit : PendingVisit) (link : Option LinkInfo) :
    Option CoreError :=
  match world.canonicalize (toWindowsApiPath visit.path) with
  | .error osError => some (unresolvedReparseError osError link remote)
  | .ok resolved =>
      let shown := stripLongPathPrefix resolved
      if remote && (parseUncComponents shown).isNone then some (localResolutionError shown link)
      else none

/-- The object with the link that only the listing of its parent shows. -/
def withListedLink (world : World) (visit : PendingVisit) (read : FileSystemObject) :
    FileSystemObject :=
  if read.link.isNone && visit.listedAsLink then { read with link := world.linkTarget visit.path }
  else read

/-- One open of each remote directory. -/
def probeOf (world : World) (root : WalkRoot) (visit : PendingVisit) (object : FileSystemObject) :
    Option DirectoryProbe :=
  if root.remote && object.isDirectory then some (world.probeDirectory visit.path) else none

/-- Why a remote directory has no identity. -/
def identityReason (probe : Option DirectoryProbe) : Option String :=
  (probe.filter (fun opened => opened.identity.isNone)).bind DirectoryProbe.identityError

/-- The items at a path where the walk does not descend: a directory of another
share, a reparse point it cannot follow, or a file. -/
def stopEvents (world : World) (root : WalkRoot) (visit : PendingVisit)
    (object : FileSystemObject) (probe : Option DirectoryProbe) : Option (List WalkEvent) :=
  let otherShare :=
    if visit.parentCanonical.isSome then
      otherShareMessage root.rootShare (probe.bind DirectoryProbe.finalPath)
    else none
  match otherShare with
  | some message => some [emitError visit.path (.otherShare message)]
  | none =>
      let stop :=
        if object.isReparsePoint then reparseStop world root.remote visit object.link else none
      match stop with
      | some error => some [emitObject object, emitError visit.path error]
      | none => if !object.isDirectory then some [emitObject object] else none

/-- The loop key of a directory and what its items need. -/
def foundDirectory (world : World) (root : WalkRoot) (visit : PendingVisit)
    (object : FileSystemObject) (probe : Option DirectoryProbe) : String × FoundDirectory :=
  let canonical := canonicalIdentity world object.isReparsePoint visit
  let fileIdentity := probe.bind DirectoryProbe.identity
  (selectLoopKey root.remote fileIdentity canonical,
    { object := object
      identityReason := identityReason probe
      canonical := canonical
      route := .classify root.remote (root.remote && fileIdentity.isSome) object.isReparsePoint
        canonical })

/-- What the walk finds at a path: items to emit and no descent, or a directory
with its loop key. -/
def examine (world : World) (root : WalkRoot) (visit : PendingVisit) :
    Examined FoundDirectory String WalkEvent :=
  match world.readFileSystemObject visit.path with
  | .error error => .stopped [emitError visit.path error]
  | .ok read =>
      let object := withListedLink world visit read
      let probe := probeOf world root visit object
      match stopEvents world root visit object probe with
      | some events => .stopped events
      | none =>
          let (key, found) := foundDirectory world root visit object probe
          .directory key found

@[simp]
theorem withListedLink_path (world : World) (visit : PendingVisit) (read : FileSystemObject) :
    (withListedLink world visit read).path = read.path := by
  rw [withListedLink]
  split <;> rfl

/-! ## Entering a directory -/

def belowLimit (config : WalkConfig) (depth : Nat) : Bool :=
  config.maxDepth.all (fun limit => depth < limit)

/-- The work for one entry of a listing. -/
def entryTask (visit : PendingVisit) (canonical : String) :
    Except String DirEntry → Task PendingVisit WalkEvent
  | .error reason =>
      .report (emitError visit.path (.accessDenied s!"Directory entry error: {reason}"))
  | .ok entry =>
      .visit
        { path := entry.path
          parentCanonical := some canonical
          depth := visit.depth + 1
          listedAsLink := entry.isSymlink }

/-- The listing of a fresh directory, when the depth limit allows it.  The
object carries the missing identity only where the walk descends. -/
def expand (world : World) (config : WalkConfig) (visit : PendingVisit)
    (found : FoundDirectory) : List WalkEvent × List (Task PendingVisit WalkEvent) :=
  if belowLimit config visit.depth then
    match world.readDir (toWindowsApiPath visit.path) with
    | .error reason =>
        ([emitObject found.object,
          emitError visit.path (.accessDenied s!"Cannot enumerate directory: {reason}")], [])
    | .ok entries =>
        ([.listed visit.path,
          emitObject { found.object with identityUnknown := found.identityReason }],
          entries.map (entryTask visit found.canonical))
  else ([emitObject found.object], [])

/-- The explorer of a scan. -/
def explorer (world : World) (config : WalkConfig) (root : WalkRoot) :
    Explorer PendingVisit FoundDirectory String String WalkEvent where
  name := PendingVisit.path
  examine := examine world root
  onCycle := fun visit found ancestorPath =>
    [emitObject found.object, emitError visit.path (.reparseCycle (cycleMessage ancestorPath))]
  onDuplicate := fun visit found firstPath =>
    [emitObject found.object,
      emitError visit.path (.reparseDuplicateTarget (duplicateRouteMessage firstPath found.route))]
  expand := expand world config

def rootVisit (path : String) : PendingVisit where
  path := path
  parentCanonical := none
  depth := 0
  listedAsLink := false

/-- The walk from a root, for at most `fuel` units of work. -/
def walkDir (world : World) (config : WalkConfig) (cancelled : Nat → Bool) (path : String)
    (fuel : Nat) : WalkState PendingVisit String String WalkEvent :=
  (explorer world config (WalkRoot.of world path)).walk cancelled fuel 0
    (Explorer.start (rootVisit path))

/-- The items of a trace, in the order in which the caller gets them. -/
def WalkEvent.items (trace : List WalkEvent) : List WalkItem :=
  trace.filterMap (fun event =>
    match event with
    | .item handed => some handed
    | .listed _ => none)

end FsScanner
end Stars
