import Stars.AdResolver.ForestTrustInfo
import Stars.PermissionEngine.Markers
import Stars.Validation.OpenedPath

namespace Stars

open AdResolver (isControl)
open Validation

/-!
# Paths through a DFS namespace

A path is evaluated where Windows serves it.  The path the redirector opened and the
answer of the DFS client decide where that is and whether a folder has further
targets, whose permissions a client referred there has.

A target is a server and a share: an answer with a deeper share name is refused as
damaged, and targets are compared by server and share alone.
-/

/-- One target of a DFS folder; `active` is the one this client uses. -/
structure DfsTarget where
  server : String
  share : String
  active : Bool
  online : Bool
deriving DecidableEq

def DfsTarget.unc (target : DfsTarget) : String := s!"\\\\{target.server}\\{target.share}"

/-- The DFS folder, or root, a path lies in. -/
structure DfsLink where
  entryPath : String
  targets : List DfsTarget
deriving DecidableEq

inductive DfsLookup where
  | notDfs
  | link (link : DfsLink)
  | failed (reason : String)
deriving DecidableEq

/-- The folder the client names, if it names one. -/
def DfsLookup.link? : DfsLookup → Option DfsLink
  | .link found => some found
  | .notDfs | .failed _ => none

namespace ShareScanner

def dfsStorageStateOnline : BitVec 32 := 2

def dfsStorageStateActive : BitVec 32 := 4

/-- A name in one component. -/
def isTargetName (name : String) : Bool :=
  name ≠ "" && !name.toList.any (fun letter => isControl letter || letter == '\\')

def buildTarget (entryPath : String) (raw : String × String × BitVec 32) :
    Except String DfsTarget :=
  if !isTargetName raw.1 || !isTargetName raw.2.1 then
    .error s!"the DFS client reported the target '{raw.1}\\{raw.2.1}' for {entryPath}"
  else
    .ok
      { server := raw.1
        share := raw.2.1
        active := raw.2.2 &&& dfsStorageStateActive ≠ 0
        online := raw.2.2 &&& dfsStorageStateOnline ≠ 0 }

/-- Check the raw answer and build the link.  The client reports the folder with one
leading backslash. -/
def buildLink (entry : String) (rawTargets : List (String × String × BitVec 32)) :
    Except String DfsLink :=
  let entryPath := "\\\\" ++ String.ofList (entry.toList.dropWhile (fun letter => letter == '\\'))
  if (parseUncComponents entryPath).isNone then
    .error s!"the DFS client reported the folder path '{entry}'"
  else if rawTargets.isEmpty then
    .error s!"the DFS client reported no target for {entryPath}"
  else do
    let targets ← rawTargets.mapM (buildTarget entryPath)
    pure { entryPath := entryPath, targets := targets }

end ShareScanner

namespace Analysis

open ShareScanner

/-- The path the analysis reads; `dfs` is set for a path of a DFS namespace. -/
structure EvaluationTarget where
  evaluatedPath : String
  dfs : Option DfsEvaluation
deriving DecidableEq

def sameShare (left right : String) : Bool :=
  match parseUncComponents left, parseUncComponents right with
  | some (leftServer, leftShare), some (rightServer, rightShare) =>
      Text.eqIgnoreAsciiCase leftServer rightServer && Text.eqIgnoreAsciiCase leftShare rightShare
  | _, _ => false

/-- A path without its beginning, letter case aside, at the end of a component. -/
def stripPrefixIgnoreCase (path start : String) : Option String :=
  -- Texts that differ in ASCII case only take the same bytes.
  let head := String.ofList (path.toList.take start.toList.length)
  let rest := path.toList.drop start.toList.length
  if Text.eqIgnoreAsciiCase head start && (rest.isEmpty || rest.head? == some '\\') then
    some (String.ofList rest)
  else none

namespace EvaluationTarget

def unchanged (path : String) : EvaluationTarget where
  evaluatedPath := path
  dfs := none

/-- The one active target of a folder. -/
def activeTargets (link : DfsLink) : List DfsTarget := link.targets.filter DfsTarget.active

/-- The path was opened on another share. -/
def redirected (requested opened : String) (link? : Option DfsLink) : DfsEvaluation :=
  match link? with
  | some link =>
      { requested := requested
        target := opened
        folder := some link.entryPath
        otherTargets :=
          (link.targets.filter (fun target => !sameShare target.unc opened)).map DfsTarget.unc
        otherTargetsKnown :=
          match activeTargets link with
          | [active] => sameShare active.unc opened
          | _ => false }
  | none =>
      { requested := requested
        target := opened
        folder := none
        otherTargets := []
        otherTargetsKnown := false }

/-- The path was not opened, but the client names its folder. -/
def unopened (requested : String) (link : DfsLink) : DfsEvaluation :=
  match activeTargets link, stripPrefixIgnoreCase requested link.entryPath with
  | [active], some rest =>
      { requested := requested
        target := active.unc ++ rest
        folder := some link.entryPath
        otherTargets :=
          (link.targets.filter (fun target => !target.active)).map DfsTarget.unc
        otherTargetsKnown := true }
  | _, _ =>
      { requested := requested
        target := requested
        folder := some link.entryPath
        otherTargets := link.targets.map DfsTarget.unc
        otherTargetsKnown := false }

def ofEvaluation (dfs : DfsEvaluation) : EvaluationTarget where
  evaluatedPath := dfs.target
  dfs := some dfs

/-- The decision from the two answers. -/
def decide (requested : String) (finalPath : Option String) (lookup : DfsLookup) :
    EvaluationTarget :=
  match finalPath with
  | some opened =>
      if sameShare opened requested then unchanged requested
      else ofEvaluation (redirected requested opened lookup.link?)
  | none =>
      match lookup.link? with
      | none => unchanged requested
      | some link => ofEvaluation (unopened requested link)

end EvaluationTarget

def trimEndBackslashes (text : String) : String :=
  String.ofList (text.toList.reverse.dropWhile (fun letter => letter == '\\')).reverse

/-- The evaluation of a scan's root for one object. -/
def ownEvaluation (root : DfsEvaluation) (requested target : String) : DfsEvaluation :=
  { root with requested := requested, target := target }

/-- The requested form of a scanned object and its own evaluation. -/
def forScannedObject (path : String) (root : DfsEvaluation) : Option (String × DfsEvaluation) :=
  let path := stripLongPathPrefix path
  (stripPrefixIgnoreCase path (trimEndBackslashes root.target)).map (fun rest =>
    let requested := trimEndBackslashes root.requested ++ rest
    (requested, ownEvaluation root requested path))

/-- The layer that is open for the result of an evaluation. -/
def EvaluationTarget.openLayer (target : EvaluationTarget) : Option UncertainLayer :=
  target.dfs.bind (fun dfs => dfs.marker.uncertainLayer)

/-- The path is served where it points to: it was opened on its own share, or it was not
opened and the client names no folder. -/
def NotRedirected (requested : String) (finalPath : Option String) (lookup : DfsLookup) : Prop :=
  match finalPath with
  | some opened => sameShare opened requested = true
  | none => lookup.link? = none

/-- A target on the server and share of an evaluated path: by comparison, or because the
evaluated path is a path below the target. -/
def OnTarget (evaluated : String) (target : DfsTarget) : Prop :=
  sameShare target.unc evaluated = true ∨
    ∃ rest, evaluated = target.unc ++ rest ∧ (rest = "" ∨ rest.toList.head? = some '\\')

theorem layer_none_iff (dfs : DfsEvaluation) :
    dfs.marker.uncertainLayer = none ↔ dfs.otherTargets = [] ∧ dfs.otherTargetsKnown = true := by
  rw [PermissionEngine.dfsMarker_layer]
  by_cases single : dfs.otherTargets = [] ∧ dfs.otherTargetsKnown = true
  · rw [if_pos single]
    exact iff_of_true rfl single
  · rw [if_neg single]
    exact iff_of_false (by simp) single

theorem stripPrefixIgnoreCase_boundary {path start rest : String}
    (stripped : stripPrefixIgnoreCase path start = some rest) :
    rest = "" ∨ rest.toList.head? = some '\\' := by
  unfold stripPrefixIgnoreCase at stripped
  dsimp only at stripped
  split_ifs at stripped with ends
  cases stripped
  rw [Bool.and_eq_true, Bool.or_eq_true, List.isEmpty_iff, beq_iff_eq] at ends
  rcases ends.2 with empty | slash
  · exact Or.inl (by rw [empty])
  · exact Or.inr (by rw [String.toList_ofList, slash])

namespace EvaluationTarget

/-- With one active target on the opened share and no target on another one, every
target is on that share. -/
theorem redirected_single {requested opened : String} {link? : Option DfsLink}
    (none : (redirected requested opened link?).otherTargets = [])
    (known : (redirected requested opened link?).otherTargetsKnown = true) :
    ∃ link, link? = some link ∧ (∃ active, activeTargets link = [active]) ∧
      ∀ target ∈ link.targets, sameShare target.unc opened = true := by
  cases link? with
  | none => cases known
  | some link =>
      change (match activeTargets link with
        | [active] => sameShare active.unc opened
        | _ => false) = true at known
      change (link.targets.filter (fun target => !sameShare target.unc opened)).map
        DfsTarget.unc = [] at none
      refine ⟨link, rfl, ?_, ?_⟩
      · split at known
        · exact ⟨_, by assumption⟩
        · cases known
      · intro target listed
        have kept := List.filter_eq_nil_iff.mp (List.map_eq_nil_iff.mp none) target listed
        rwa [Bool.not_eq_true', Bool.not_eq_false] at kept

/-- Either the active target serves the rest of the path, or every target is open. -/
theorem unopened_cases (requested : String) (link : DfsLink) :
    (∃ active rest, activeTargets link = [active] ∧
      stripPrefixIgnoreCase requested link.entryPath = some rest ∧
      unopened requested link =
        { requested := requested
          target := active.unc ++ rest
          folder := some link.entryPath
          otherTargets :=
            (link.targets.filter (fun target => !target.active)).map DfsTarget.unc
          otherTargetsKnown := true }) ∨
      unopened requested link =
        { requested := requested
          target := requested
          folder := some link.entryPath
          otherTargets := link.targets.map DfsTarget.unc
          otherTargetsKnown := false } := by
  unfold unopened
  split
  · rename_i single stripped
    exact Or.inl ⟨_, _, single, stripped, rfl⟩
  · exact Or.inr rfl

theorem unopened_single {requested : String} {link : DfsLink}
    (none : (unopened requested link).otherTargets = [])
    (known : (unopened requested link).otherTargetsKnown = true) :
    ∃ active rest, link.targets = [active] ∧ activeTargets link = [active] ∧
      stripPrefixIgnoreCase requested link.entryPath = some rest ∧
      (unopened requested link).target = active.unc ++ rest := by
  rcases unopened_cases requested link with ⟨active, rest, single, stripped, same⟩ | same
  · rw [same] at none
    have all : ∀ target ∈ link.targets, target.active = true := by
      intro target listed
      have kept := List.filter_eq_nil_iff.mp (List.map_eq_nil_iff.mp none) target listed
      rwa [Bool.not_eq_true', Bool.not_eq_false] at kept
    have whole : activeTargets link = link.targets := List.filter_eq_self.mpr all
    exact ⟨active, rest, whole.symm.trans single, single, stripped,
      congrArg DfsEvaluation.target same⟩
  · rw [same] at known
    cases known

end EvaluationTarget

/-- A result without an open target: the path was not redirected, or the folder has one
active target and every target is on the evaluated share. -/
theorem decide_exact {requested : String} {finalPath : Option String} {lookup : DfsLookup}
    (noLayer : (EvaluationTarget.decide requested finalPath lookup).openLayer = none) :
    NotRedirected requested finalPath lookup ∨
      ∃ link, lookup.link? = some link ∧
        (∃ active, EvaluationTarget.activeTargets link = [active]) ∧
        ∀ target ∈ link.targets,
          OnTarget (EvaluationTarget.decide requested finalPath lookup).evaluatedPath target := by
  unfold EvaluationTarget.decide at noLayer ⊢
  cases finalPath with
  | some opened =>
      dsimp only at noLayer ⊢
      by_cases own : sameShare opened requested = true
      · exact Or.inl own
      · rw [if_neg own] at noLayer ⊢
        have single := (layer_none_iff _).mp noLayer
        rcases EvaluationTarget.redirected_single single.1 single.2 with
          ⟨link, named, active, shared⟩
        refine Or.inr ⟨link, named, active, fun target listed => Or.inl ?_⟩
        have kept : (EvaluationTarget.redirected requested opened lookup.link?).target = opened := by
          rw [named]
          rfl
        exact (congrArg (sameShare target.unc) kept).trans (shared target listed)
  | none =>
      cases named : lookup.link? with
      | none => exact Or.inl named
      | some link =>
          rw [named] at noLayer
          have single := (layer_none_iff _).mp noLayer
          rcases EvaluationTarget.unopened_single single.1 single.2 with
            ⟨active, rest, targets, only, stripped, served⟩
          refine Or.inr ⟨link, rfl, ⟨active, only⟩, fun target listed => Or.inr ⟨rest, ?_, ?_⟩⟩
          · rw [targets] at listed
            rw [List.mem_singleton.mp listed]
            exact served
          · exact stripPrefixIgnoreCase_boundary stripped

theorem decide_dfs_none_iff (requested : String) (finalPath : Option String)
    (lookup : DfsLookup) :
    (EvaluationTarget.decide requested finalPath lookup).dfs = none ↔
      NotRedirected requested finalPath lookup := by
  unfold EvaluationTarget.decide NotRedirected
  cases finalPath with
  | some opened =>
      dsimp only
      by_cases own : sameShare opened requested = true
      · rw [if_pos own]
        exact iff_of_true rfl own
      · rw [if_neg own]
        exact iff_of_false (fun none => by cases none) own
  | none =>
      cases named : lookup.link? with
      | none => exact iff_of_true rfl rfl
      | some link => exact iff_of_false (fun none => by cases none) (fun none => by cases none)

theorem evaluatedPath_eq_target {requested : String} {finalPath : Option String}
    {lookup : DfsLookup} {dfs : DfsEvaluation}
    (evaluated : (EvaluationTarget.decide requested finalPath lookup).dfs = some dfs) :
    EvaluationTarget.decide requested finalPath lookup = EvaluationTarget.ofEvaluation dfs ∧
      ((∃ opened, finalPath = some opened ∧
          dfs = EvaluationTarget.redirected requested opened lookup.link?) ∨
        ∃ link, lookup.link? = some link ∧ dfs = EvaluationTarget.unopened requested link) := by
  unfold EvaluationTarget.decide at evaluated ⊢
  cases finalPath with
  | some opened =>
      dsimp only at evaluated ⊢
      split_ifs at evaluated ⊢ with own
      · cases evaluated
      · cases evaluated
        exact ⟨rfl, Or.inl ⟨opened, rfl, rfl⟩⟩
  | none =>
      cases named : lookup.link? with
      | none =>
          rw [named] at evaluated
          cases evaluated
      | some link =>
          rw [named] at evaluated
          cases evaluated
          exact ⟨rfl, Or.inr ⟨link, rfl, rfl⟩⟩

/-- Every target that is not the evaluated one is named. -/
theorem otherTargets_named {requested : String} {finalPath : Option String}
    {lookup : DfsLookup} {dfs : DfsEvaluation} {link : DfsLink} {target : DfsTarget}
    (evaluated : (EvaluationTarget.decide requested finalPath lookup).dfs = some dfs)
    (named : lookup.link? = some link) (listed : target ∈ link.targets)
    (other : ¬ OnTarget dfs.target target) : target.unc ∈ dfs.otherTargets := by
  rcases (evaluatedPath_eq_target evaluated).2 with ⟨opened, _, same⟩ | ⟨found, again, same⟩
  · rw [named] at same
    rw [same] at other ⊢
    refine List.mem_map_of_mem (List.mem_filter.mpr ⟨listed, ?_⟩)
    rw [Bool.not_eq_true']
    exact Bool.eq_false_iff.mpr (fun shared => other (Or.inl shared))
  · rw [named] at again
    cases again
    rcases EvaluationTarget.unopened_cases requested link with
      ⟨active, rest, single, stripped, served⟩ | unknown
    · rw [same, served] at other ⊢
      refine List.mem_map_of_mem (List.mem_filter.mpr ⟨listed, ?_⟩)
      cases inUse : target.active with
      | false => rfl
      | true =>
          have member : target ∈ EvaluationTarget.activeTargets link :=
            List.mem_filter.mpr ⟨listed, inUse⟩
          rw [single] at member
          have only := List.mem_singleton.mp member
          exact absurd (Or.inr ⟨rest, by rw [only], stripPrefixIgnoreCase_boundary stripped⟩) other
    · rw [same, unknown]
      exact List.mem_map_of_mem listed

/-- A path at or below a root: the root, letter case aside, and a rest that begins a
component. -/
def AtOrBelow (root path rest : String) : Prop :=
  ∃ head, path = head ++ rest ∧ Text.eqIgnoreAsciiCase head root = true ∧
    (rest = "" ∨ rest.toList.head? = some '\\')

theorem length_eq_of_eqIgnoreAsciiCase {left right : String}
    (same : Text.eqIgnoreAsciiCase left right = true) :
    left.toList.length = right.toList.length := by
  rw [Text.eqIgnoreAsciiCase, beq_iff_eq, Text.toAsciiLowercase, Text.toAsciiLowercase,
    String.ofList_inj] at same
  have lengths := congrArg List.length same
  rwa [List.length_map, List.length_map] at lengths

theorem stripPrefixIgnoreCase_iff {path start rest : String} :
    stripPrefixIgnoreCase path start = some rest ↔ AtOrBelow start path rest := by
  constructor
  · intro stripped
    have boundary := stripPrefixIgnoreCase_boundary stripped
    unfold stripPrefixIgnoreCase at stripped
    dsimp only at stripped
    split_ifs at stripped with ends
    cases stripped
    rw [Bool.and_eq_true] at ends
    refine ⟨_, ?_, ends.1, boundary⟩
    rw [← String.toList_inj, String.toList_append, String.toList_ofList, String.toList_ofList,
      List.take_append_drop]
  · intro below
    rcases below with ⟨head, whole, same, boundary⟩
    have lengths := length_eq_of_eqIgnoreAsciiCase same
    have letters : path.toList = head.toList ++ rest.toList := by
      rw [whole, String.toList_append]
    have ends : (rest.toList.isEmpty || rest.toList.head? == some '\\') = true := by
      rw [Bool.or_eq_true, List.isEmpty_iff, beq_iff_eq]
      rcases boundary with empty | slash
      · exact Or.inl (by rw [empty]; rfl)
      · exact Or.inr slash
    unfold stripPrefixIgnoreCase
    dsimp only
    rw [letters, ← lengths, List.take_left, List.drop_left, String.ofList_toList, same, ends,
      Bool.and_self, if_pos rfl, String.ofList_toList]

/-- Exactly the paths whose display form is at or below the root have a requested form,
which is the requested root with the same rest. -/
theorem forScannedObject_iff {path requested : String} {root own : DfsEvaluation} :
    forScannedObject path root = some (requested, own) ↔
      ∃ rest, AtOrBelow (trimEndBackslashes root.target) (stripLongPathPrefix path) rest ∧
        requested = trimEndBackslashes root.requested ++ rest ∧
        own = ownEvaluation root requested (stripLongPathPrefix path) := by
  unfold forScannedObject
  dsimp only
  rw [Option.map_eq_some_iff]
  constructor
  · intro found
    rcases found with ⟨rest, stripped, same⟩
    cases same
    exact ⟨rest, stripPrefixIgnoreCase_iff.mp stripped, rfl, rfl⟩
  · intro found
    rcases found with ⟨rest, below, named, kept⟩
    refine ⟨rest, stripPrefixIgnoreCase_iff.mpr below, ?_⟩
    rw [kept, named]

/-! ## The long-path form -/

/-- A letter that is lowered to a mark below the lower-case letters is that mark. -/
theorem eq_of_toLower_mark {letter mark : Char} (below : mark.toNat < 97)
    (same : letter.toLower = mark) : letter = mark := by
  have code := Text.toNat_toLower letter
  rw [same] at code
  split_ifs at code with upper
  · omega
  · exact (Char.toNat_inj.mp code).symm

theorem hasLongUncPrefix_eq_false {path : String}
    (short : Text.stripPrefix longPrefix path.toList = none) : hasLongUncPrefix path = false := by
  have lowered : longUncPrefix.toList.map Char.toLower =
      ['\\', '\\', '?', '\\', 'u', 'n', 'c', '\\'] := by decide
  rw [hasLongUncPrefix, Text.eqIgnoreAsciiCase, Text.toAsciiLowercase, Text.toAsciiLowercase,
    beq_eq_false_iff_ne, ne_eq, String.ofList_inj, String.toList_ofList, lowered]
  intro same
  rcases letters : path.toList with _ | ⟨first, _ | ⟨second, _ | ⟨third, _ | ⟨fourth, rest⟩⟩⟩⟩
  all_goals rw [letters] at same short
  · cases same
  · simp [List.take] at same
  · simp [List.take] at same
  · simp [List.take] at same
  · simp only [List.take_succ_cons, List.map_cons, List.cons.injEq] at same
    have whole : first :: second :: third :: fourth :: rest = longPrefix.toList ++ rest := by
      rw [eq_of_toLower_mark (by decide) same.1, eq_of_toLower_mark (by decide) same.2.1,
        eq_of_toLower_mark (by decide) same.2.2.1, eq_of_toLower_mark (by decide) same.2.2.2.1]
      rfl
    rw [whole, stripPrefix_append] at short
    cases short

theorem strip_short {path : String} (short : Text.stripPrefix longPrefix path.toList = none) :
    stripLongPathPrefix path = path := by
  rw [stripLongPathPrefix, hasLongUncPrefix_eq_false short, if_neg Bool.false_ne_true, short]

/-- The display form of a path's long-path form is the path. -/
theorem strip_toWindowsApiPath {path : String}
    (short : Text.stripPrefix longPrefix path.toList = none) :
    stripLongPathPrefix (toWindowsApiPath path) = path := by
  have started : Text.startsWith longPrefix path = false := by
    rw [startsWith_eq, short]
    rfl
  unfold toWindowsApiPath
  rw [if_neg (Bool.eq_false_iff.mp started)]
  split
  · rename_i rest behind
    have whole := Text.stripPrefix_eq_some_iff.mp behind
    have letters : (longUncPrefix ++ String.ofList rest).toList = longUncPrefix.toList ++ rest := by
      rw [String.toList_append, String.toList_ofList]
    have unc : hasLongUncPrefix (longUncPrefix ++ String.ofList rest) = true := by
      rw [hasLongUncPrefix, letters]
      exact beq_self_eq_true _
    rw [stripLongPathPrefix, if_pos unc, letters, ← String.toList_inj, String.toList_append, whole]
    exact congrArg _ String.toList_ofList
  · split
    · rename_i drive rest whole
      split_ifs with alpha
      · have noUnc : hasLongUncPrefix (longPrefix ++ path) = false := by
          rw [hasLongUncPrefix, Text.eqIgnoreAsciiCase, Text.toAsciiLowercase,
            Text.toAsciiLowercase, beq_eq_false_iff_ne, ne_eq, String.ofList_inj,
            String.toList_ofList, String.toList_append, whole]
          intro same
          have sixth := congrArg (fun text => text[5]?) same
          revert sixth
          simp [longPrefix, longUncPrefix]
        rw [stripLongPathPrefix, noUnc, String.toList_append, stripPrefix_append,
          if_neg Bool.false_ne_true]
        exact String.ofList_toList
      · exact strip_short short
    · exact strip_short short

/-! ## Both decisions -/

theorem isTargetName_iff {name : String} (named : isTargetName name = true) :
    name ≠ "" ∧ '\\' ∉ name.toList := by
  rw [isTargetName, Bool.and_eq_true, decide_eq_true_iff, Bool.not_eq_true'] at named
  refine ⟨named.1, fun listed => ?_⟩
  have refused := List.any_eq_false.mp named.2 '\\' listed
  rw [beq_self_eq_true, Bool.or_true] at refused
  exact refused rfl

/-- An accepted answer has targets, and each of them is a server and a share. -/
theorem buildLink_targets {entry : String} {rawTargets : List (String × String × BitVec 32)}
    {link : DfsLink} (built : buildLink entry rawTargets = .ok link) :
    link.targets ≠ [] ∧ ∀ target ∈ link.targets,
      (target.server ≠ "" ∧ '\\' ∉ target.server.toList) ∧
        target.share ≠ "" ∧ '\\' ∉ target.share.toList := by
  unfold buildLink at built
  dsimp only at built
  rw [Collections.ite_error_eq_ok_iff, Collections.ite_error_eq_ok_iff] at built
  rcases built with ⟨_, filled, finished⟩
  rcases Collections.bind_eq_ok_iff.mp finished with ⟨targets, each, same⟩
  cases same
  constructor
  · intro empty
    have pairs := Collections.mapM_eq_ok_iff.mp each
    rw [show targets = [] from empty, List.forall₂_nil_right_iff] at pairs
    exact filled (by rw [pairs]; rfl)
  · intro target listed
    rcases Collections.exists_of_mapM_eq_ok each listed with ⟨raw, _, accepted⟩
    unfold buildTarget at accepted
    rw [Collections.ite_error_eq_ok_iff, Bool.or_eq_true, Bool.not_eq_true', Bool.not_eq_true',
      not_or, Bool.not_eq_false, Bool.not_eq_false] at accepted
    cases accepted.2
    exact ⟨isTargetName_iff accepted.1.1, isTargetName_iff accepted.1.2⟩

/-- Without an open target a path was not redirected, or the folder has one active target
and all its targets are on the server and share of the evaluated path; any other target
is named.  The objects of a scan keep their rest below the root under both names. -/
theorem dfsEvaluation_exact :
    (∀ requested finalPath lookup,
      ((EvaluationTarget.decide requested finalPath lookup).dfs = none ↔
          NotRedirected requested finalPath lookup) ∧
        ((EvaluationTarget.decide requested finalPath lookup).openLayer = none →
          NotRedirected requested finalPath lookup ∨
            ∃ link, lookup.link? = some link ∧
              (∃ active, EvaluationTarget.activeTargets link = [active]) ∧
              ∀ target ∈ link.targets,
                OnTarget (EvaluationTarget.decide requested finalPath lookup).evaluatedPath
                  target) ∧
        ∀ dfs, (EvaluationTarget.decide requested finalPath lookup).dfs = some dfs →
          dfs.requested = requested ∧
          dfs.target = (EvaluationTarget.decide requested finalPath lookup).evaluatedPath ∧
          ((EvaluationTarget.decide requested finalPath lookup).openLayer ≠ none →
            dfs.otherTargets ≠ [] ∨ dfs.otherTargetsKnown = false) ∧
          ∀ link, lookup.link? = some link → ∀ target ∈ link.targets,
            ¬ OnTarget dfs.target target → target.unc ∈ dfs.otherTargets) ∧
      (∀ entry rawTargets link, buildLink entry rawTargets = .ok link →
        link.targets ≠ [] ∧ ∀ target ∈ link.targets,
          (target.server ≠ "" ∧ '\\' ∉ target.server.toList) ∧
            target.share ≠ "" ∧ '\\' ∉ target.share.toList) ∧
      ∀ root path, Text.startsWith longPrefix path = false →
        (∀ rest, AtOrBelow (trimEndBackslashes root.target) path rest →
          forScannedObject path root =
            some (trimEndBackslashes root.requested ++ rest,
              ownEvaluation root (trimEndBackslashes root.requested ++ rest) path)) ∧
        forScannedObject (toWindowsApiPath path) root = forScannedObject path root ∧
        ∀ other, stripLongPathPrefix other = path →
          forScannedObject other root = forScannedObject path root := by
  refine ⟨fun requested finalPath lookup => ⟨decide_dfs_none_iff requested finalPath lookup,
    decide_exact, ?_⟩, fun _ _ _ => buildLink_targets, ?_⟩
  · intro dfs evaluated
    have whole := evaluatedPath_eq_target evaluated
    refine ⟨?_, ?_, ?_, fun _ named _ listed => otherTargets_named evaluated named listed⟩
    · rcases whole.2 with ⟨opened, _, same⟩ | ⟨link, _, same⟩
      · rw [same]
        cases lookup.link? <;> rfl
      · rw [same]
        rcases EvaluationTarget.unopened_cases requested link with ⟨_, _, _, _, served⟩ | unknown
        · rw [served]
        · rw [unknown]
    · rw [whole.1]
      rfl
    · intro undecided
      rw [whole.1] at undecided
      by_contra noLayer
      rw [not_or, not_not, Bool.not_eq_false] at noLayer
      exact undecided ((layer_none_iff dfs).mpr noLayer)
  · intro root path plain
    have short : Text.stripPrefix longPrefix path.toList = none := by
      rwa [startsWith_eq, Option.isSome_eq_false_iff, Option.isNone_iff_eq_none] at plain
    have displayed : ∀ other, stripLongPathPrefix other = path →
        forScannedObject other root = forScannedObject path root := by
      intro other same
      unfold forScannedObject
      rw [same, strip_short short]
    refine ⟨fun rest below => ?_, displayed _ (strip_toWindowsApiPath short), displayed⟩
    rw [forScannedObject_iff, strip_short short]
    exact ⟨rest, below, rfl, rfl⟩

/-- A folder with one target. -/
def teamLink : DfsLink where
  entryPath := "\\\\corp.test\\dfs\\Team"
  targets := [
    { server := "FS-02.corp.test", share := "DfsTeam", active := true, online := true }]

/-- The redirector opened another folder of the target's share than the rest of the path
names: the result is exact, though the target's own folder is not the evaluated one. -/
theorem decide_otherFolder :
    buildLink "\\corp.test\\dfs\\Team" [("FS-02.corp.test", "DfsTeam", 6)] = .ok teamLink ∧
      sameShare "\\\\FS-02.corp.test\\DfsTeam\\Other" "\\\\corp.test\\dfs\\Team\\Sub" = false ∧
      stripPrefixIgnoreCase "\\\\corp.test\\dfs\\Team\\Sub" teamLink.entryPath =
        some "\\Sub" ∧
      (EvaluationTarget.decide "\\\\corp.test\\dfs\\Team\\Sub"
        (some "\\\\FS-02.corp.test\\DfsTeam\\Other") (.link teamLink)).openLayer = none ∧
      ∀ target ∈ teamLink.targets,
        segmentsBehindRoot target.unc ≠
            segmentsBehindRoot "\\\\FS-02.corp.test\\DfsTeam\\Other" ∧
          segmentsBehindRoot (target.unc ++ "\\Sub") ≠
            segmentsBehindRoot "\\\\FS-02.corp.test\\DfsTeam\\Other" := by
  decide +kernel

end Analysis
end Stars
