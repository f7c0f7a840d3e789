import Stars.AdResolver.SidNames
import Stars.Analysis.Dfs
import Stars.Exporter.Trustees
import Stars.PermissionEngine.ShownNames
import Stars.PermissionEngine.StatedReasons
import Stars.ShareScanner.Decisions

namespace Stars

open AdResolver Exporter PermissionEngine ShareScanner SidNameResolver

/-!
# The rows of a scan

A scan evaluates every object of a walk with what was found out once about the account,
the share and the target.  One surface does so while it walks: the names of an object's
trustees are asked for right before its row.  The other one walks first and asks for all
names at once.

Both give the same rows as long as every SID a row shows has its name in time.  The
trustees of the entries, the groups and the trustees of the share always do.
-/

namespace ShareScanner

/-- What a share entry decided, in words.  An entry of somebody else has no step. -/
def ShareAceDecision.note (decision : ShareAceDecision) : Option String :=
  match decision.outcome with
  | .decided bits =>
      let verb := match decision.kind with
        | .allow => "share grants"
        | .deny => "share denies"
      some s!"[{verb} {rightsLabel bits}]"
  | .noEffect => some "[matched, no effective bits contributed]"
  | .uncertain => some ("[UNCERTAIN — the trustee is in the token only for certain logons or " ++
      "session states; not in the shown share value]")
  | .notApplicable => none

def ShareAceDecision.step (sidNames : List (Sid × String)) (decision : ShareAceDecision) :
    Option String :=
  decision.note.map (fun note =>
    let kind := match decision.kind with
      | .allow => "Allow"
      | .deny => "Deny"
    let trustee := trusteeWithSid sidNames decision.sid
    let rights := displayName (expandGenericRights decision.mask)
    let mask := Text.hex8 decision.mask
    s!"Share ACE {kind} for {trustee} → {rights} (0x{mask}) {note}")

/-- The share side explained entry by entry. -/
def shareDecisionSteps (decisions : List ShareAceDecision) (sidNames : List (Sid × String)) :
    List String :=
  let steps := decisions.filterMap (ShareAceDecision.step sidNames)
  if steps.isEmpty then
    [if decisions.isEmpty then "Share DACL has no entries — the share grants nobody access"
      else "No share ACE applies to this token — the share grants nothing"]
  else steps

end ShareScanner

namespace PermissionEngine

def opensSharePermission (step : String) : Bool := Text.startsWith "Share permission: " step

/-- The share steps right before the share's value.  Without an applied share there is
no place for them. -/
def attachShareProvenance (steps shareSteps : List String) : List String :=
  match steps.findIdx? opensSharePermission with
  | some place => steps.take place ++ shareSteps ++ steps.drop place
  | none => steps

end PermissionEngine

namespace Analysis

def dfsStep (dfs : DfsEvaluation) : String :=
  let folder := match dfs.folder with
    | some entry => "the " ++ DfsEvaluation.entryLabel entry
    | none => "a DFS namespace"
  s!"DFS: {dfs.requested} lies in {folder}; evaluated on {dfs.target}, the target this " ++
    "machine is referred to (its share permissions, local groups and policies)"

/-- Behind the step of the user. -/
def attachStep (steps : List String) (dfs : DfsEvaluation) : List String :=
  steps.take 1 ++ dfsStep dfs :: steps.drop 1

/-- What is found out once for a scan. -/
structure ScanContext where
  /-- The input of every row but for its object, its names and its DFS evaluation. -/
  common : PermissionEvaluationInput
  /-- The server that is asked for names the machine does not know. -/
  accountServer : Option String
  shareDecisions : List ShareAceDecision
  shareOverlay : Option ShareTrusteeOverlay
  dfs : Option DfsEvaluation

structure ScanRow where
  path : String
  result : ExplainedPermission
  trustees : List PathTrusteeEntry

/-- The row without the texts in which names of SIDs stand: its path, its masks and
statuses, the matched entries and the trustees. -/
def ScanRow.withoutTexts (row : ScanRow) : ScanRow :=
  { row with result := ⟨{ row.result.toEffectivePermission with diagnostics := [] }, [], {}⟩ }

namespace ScanContext

variable (context : ScanContext) (lookups : NameLookups) (toLowercase : String → String)

/-- The object under the requested form of its path, with its own evaluation. -/
def ownForm (object : FileSystemObject) : FileSystemObject × Option DfsEvaluation :=
  match context.dfs.bind (forScannedObject object.path) with
  | some (requested, own) => ({ object with path := requested }, some own)
  | none => (object, none)

/-- The first row lists the memberships in full, every other one refers to it. -/
def rowDetail (firstRowPath : Option String) : MembershipDetail :=
  match firstRowPath with
  | none => .all
  | some place => .namedOnly place

def rowRequest (sidNames : List (Sid × String)) (firstRowPath : Option String)
    (object : FileSystemObject) (dfs : Option DfsEvaluation) : ExplanationRequest :=
  { context.common with
    fileSystemObject := object
    sidNames := sidNames
    dfs := dfs
    shareTrace := shareAceOutcomes context.shareDecisions sidNames
    membershipDetail := rowDetail firstRowPath }

/-- A row that is evaluated while the walk goes on: the DFS step first. -/
def streamedRow (sidNames : List (Sid × String)) (firstRowPath : Option String)
    (object : FileSystemObject) (dfs : Option DfsEvaluation) : ScanRow :=
  let trustees := buildPathTrusteesWithShareAndNames object context.shareOverlay sidNames
  let result := evaluateWhole toLowercase (context.rowRequest sidNames firstRowPath object dfs)
  let steps := match dfs with
    | some own => attachStep result.pathExplanation own
    | none => result.pathExplanation
  let steps := attachShareProvenance steps (shareDecisionSteps context.shareDecisions sidNames)
  { path := object.path
    result := { result with pathExplanation := steps }
    trustees := trustees }

/-- A row that is evaluated after the walk: the share steps first. -/
def bufferedRow (sidNames : List (Sid × String)) (firstRowPath : Option String)
    (object : FileSystemObject) (dfs : Option DfsEvaluation) : ScanRow :=
  let trustees := buildPathTrusteesWithShareAndNames object context.shareOverlay sidNames
  let result := evaluateWhole toLowercase (context.rowRequest sidNames firstRowPath object dfs)
  let steps := attachShareProvenance result.pathExplanation
    (shareDecisionSteps context.shareDecisions sidNames)
  let steps := match dfs with
    | some own => attachStep steps own
    | none => steps
  { path := object.path
    result := { result with pathExplanation := steps }
    trustees := trustees }

/-- The names before the first object: the memberships, the identity, and the trustees
of the share. -/
def startResolver : SidNameResolver :=
  (forIdentity lookups context.common.identity context.common.groupMemberships
    context.accountServer).resolve lookups (context.shareDecisions.map ShareAceDecision.sid)

/-- The trustees an object asks for. -/
def askedBy (object : FileSystemObject) : List Sid :=
  collectAceSidsForResolution object context.shareOverlay

/-- Object by object: its names are asked for, then its row is evaluated. -/
def streamedRowsFrom : SidNameResolver → Option String → List FileSystemObject → List ScanRow
  | _, _, [] => []
  | resolver, firstRowPath, object :: rest =>
      let (own, dfs) := context.ownForm object
      let resolver := resolver.resolve lookups (context.askedBy own)
      let row := context.streamedRow toLowercase resolver.map firstRowPath own dfs
      row :: streamedRowsFrom resolver (firstRowPath.or (some row.path)) rest

def streamedRows (objects : List FileSystemObject) : List ScanRow :=
  context.streamedRowsFrom lookups toLowercase (context.startResolver lookups) none objects

/-- All trustees of a scan, without repetition, and those of the share. -/
def allTrustees (objects : List FileSystemObject) : List Sid :=
  (objects.flatMap context.askedBy).eraseDups ++ context.shareDecisions.map ShareAceDecision.sid

def scanSidNames (objects : List FileSystemObject) : List (Sid × String) :=
  buildSidNameMapForTarget lookups context.common.identity context.common.groupMemberships
    (context.allTrustees objects) context.accountServer

def bufferedRowsFrom (sidNames : List (Sid × String)) :
    Option String → List FileSystemObject → List ScanRow
  | _, [] => []
  | firstRowPath, object :: rest =>
      let (own, dfs) := context.ownForm object
      let row := context.bufferedRow toLowercase sidNames firstRowPath own dfs
      row :: bufferedRowsFrom sidNames (firstRowPath.or (some row.path)) rest

/-- All names first, then the rows. -/
def bufferedRows (objects : List FileSystemObject) : List ScanRow :=
  context.bufferedRowsFrom toLowercase (context.scanSidNames lookups objects) none objects

/-- The SIDs a row may show though no entry, no membership and no share entry names them:
the groups User Account Control filters, the nameless nodes of a route, and the owner where
the owner rule grants something. -/
def openSids (object : FileSystemObject) : List Sid :=
  context.common.uacFilteredGroupSids ++
    context.common.groupMemberships.flatMap GroupMembership.unnamedSids ++
    (context.rowRequest [] none object none).shownOwner

/-- What was asked for before a row is evaluated. -/
def askedUpTo (objects : List FileSystemObject) : List Sid :=
  context.shareDecisions.map ShareAceDecision.sid ++ objects.flatMap context.askedBy

/-- No row shows a SID whose name is first asked for by a later object. -/
structure NamesInTime (objects : List FileSystemObject) : Prop where
  /-- An object without a list has no entries. -/
  readable : ∀ object ∈ objects, object.nullDacl = true → object.dacl = []
  named : ∀ before object after, objects = before ++ object :: after →
    ∀ sid ∈ context.openSids object, sid ∈ after.flatMap context.askedBy →
      Named lookups context.common.identity context.common.groupMemberships
        context.accountServer (context.askedUpTo (before ++ [object])) sid

end ScanContext

end Analysis

namespace ShareScanner

variable {first second : List (Sid × String)} {decisions : List ShareAceDecision}

theorem shareAceOutcomes_congr
    (agree : NamesAgree first second (decisions.map ShareAceDecision.sid)) :
    shareAceOutcomes decisions first = shareAceOutcomes decisions second := by
  refine List.filterMap_congr (fun decision listed => ?_)
  rw [trusteeWithSid_congr (agree _ (List.mem_map_of_mem listed))]

theorem shareDecisionSteps_congr
    (agree : NamesAgree first second (decisions.map ShareAceDecision.sid)) :
    shareDecisionSteps decisions first = shareDecisionSteps decisions second := by
  have steps : decisions.filterMap (ShareAceDecision.step first) =
      decisions.filterMap (ShareAceDecision.step second) := by
    refine List.filterMap_congr (fun decision listed => ?_)
    unfold ShareAceDecision.step
    rw [trusteeWithSid_congr (agree _ (List.mem_map_of_mem listed))]
  rw [shareDecisionSteps, shareDecisionSteps, steps]

/-- An outcome is of a trustee of the share. -/
theorem outcome_sid {names : List (Sid × String)} {outcome : AceOutcome}
    (listed : outcome ∈ shareAceOutcomes decisions names) :
    outcome.sid ∈ decisions.map ShareAceDecision.sid := by
  rcases List.mem_filterMap.mp listed with ⟨decision, inside, built⟩
  rcases Option.map_eq_some_iff.mp built with ⟨effect, _, same⟩
  rw [← same]
  exact List.mem_map_of_mem inside

end ShareScanner

/-! ## The order of the steps that are put in -/

namespace PermissionEngine

theorem attachShareProvenance_cons {step : String} (other : opensSharePermission step = false)
    (rest shareSteps : List String) :
    attachShareProvenance (step :: rest) shareSteps =
      step :: attachShareProvenance rest shareSteps := by
  rw [attachShareProvenance, attachShareProvenance, List.findIdx?_cons, if_neg (by simp [other])]
  cases rest.findIdx? opensSharePermission with
  | none => rfl
  | some place => rfl

theorem userStep_other (request : ExplanationRequest) :
    opensSharePermission request.userStep = false :=
  Text.not_startsWith_append (by decide) _

theorem explanationSteps_user (toLowercase : String → String) (request : ExplanationRequest) :
    ∃ rest, request.explanationSteps toLowercase = request.userStep :: rest := by
  unfold ExplanationRequest.explanationSteps ExplanationRequest.tokenSteps
  exact ⟨_, rfl⟩

end PermissionEngine

namespace Analysis

theorem dfsStep_other (dfs : DfsEvaluation) : opensSharePermission (dfsStep dfs) = false := by
  have opens : ∃ rest, dfsStep dfs = "DFS: " ++ rest := by
    unfold dfsStep
    dsimp only
    simp only [toString, String.append_assoc]
    exact ⟨_, rfl⟩
  rcases opens with ⟨rest, same⟩
  rw [same]
  exact Text.not_startsWith_append (by decide) _

/-- The DFS step and the share steps can be put in in either order. -/
theorem attach_comm {user : String} (other : opensSharePermission user = false)
    (rest shareSteps : List String) (dfs : DfsEvaluation) :
    attachShareProvenance (attachStep (user :: rest) dfs) shareSteps =
      attachStep (attachShareProvenance (user :: rest) shareSteps) dfs := by
  rw [attachShareProvenance_cons other]
  change attachShareProvenance (user :: dfsStep dfs :: rest) shareSteps =
    user :: dfsStep dfs :: attachShareProvenance rest shareSteps
  rw [attachShareProvenance_cons other, attachShareProvenance_cons (dfsStep_other dfs)]

namespace ScanContext

variable {context : ScanContext} {lookups : NameLookups} {toLowercase : String → String}
  {objects : List FileSystemObject}

/-- With one table both surfaces give one row. -/
theorem streamedRow_eq_bufferedRow (sidNames : List (Sid × String)) (firstRowPath : Option String)
    (object : FileSystemObject) (dfs : Option DfsEvaluation) :
    context.streamedRow toLowercase sidNames firstRowPath object dfs =
      context.bufferedRow toLowercase sidNames firstRowPath object dfs := by
  unfold streamedRow bufferedRow
  cases dfs with
  | none => rfl
  | some own =>
      rcases explanationSteps_user toLowercase
        (context.rowRequest sidNames firstRowPath object (some own)) with ⟨rest, opens⟩
      have order := attach_comm (userStep_other
          (context.rowRequest sidNames firstRowPath object (some own))) rest
        (shareDecisionSteps context.shareDecisions sidNames) own
      rw [← opens] at order
      have whole : (evaluateWhole toLowercase
          (context.rowRequest sidNames firstRowPath object (some own))).pathExplanation =
          (context.rowRequest sidNames firstRowPath object (some own)).explanationSteps
            toLowercase := rfl
      simp only [whole, order]

/-- What a row needs of two tables. -/
structure RowNames (context : ScanContext) (object : FileSystemObject)
    (first second : List (Sid × String)) : Prop where
  entries : NamesAgree first second (object.dacl.map AceEntry.sid)
  groups : NamesAgree first second (context.common.groupMemberships.map GroupMembership.groupSid)
  share : NamesAgree first second (context.shareDecisions.map ShareAceDecision.sid)
  openOnes : NamesAgree first second (context.openSids object)
  listed : ∀ sid, sid.value = "" ∨ sid ∈ context.askedBy object →
    first.lookup sid = second.lookup sid

theorem RowNames.shown {object : FileSystemObject} {first second : List (Sid × String)}
    (agree : RowNames context object first second) (sidNames : List (Sid × String))
    (firstRowPath : Option String) (dfs : Option DfsEvaluation) :
    NamesAgree first second (context.rowRequest sidNames firstRowPath object dfs).shownSids := by
  intro sid shown
  simp only [ExplanationRequest.shownSids, List.mem_append] at shown
  rcases shown with (((entry | group) | filtered) | traced) | owner
  · exact agree.entries sid entry
  · rcases List.mem_flatMap.mp group with ⟨membership, listed, shown⟩
    rcases List.mem_cons.mp shown with own | unnamed
    · rw [own]
      exact agree.groups _ (List.mem_map_of_mem listed)
    · refine agree.openOnes sid (List.mem_append_left _ (List.mem_append_right _ ?_))
      exact List.mem_flatMap.mpr ⟨membership, listed, unnamed⟩
  · exact agree.openOnes sid (List.mem_append_left _ (List.mem_append_left _ filtered))
  · rcases List.mem_map.mp traced with ⟨outcome, listed, same⟩
    exact agree.share sid (same ▸ outcome_sid listed)
  · exact agree.openOnes sid (List.mem_append_right _ owner)

theorem bufferedRow_congr {object : FileSystemObject} {first second : List (Sid × String)}
    (agree : RowNames context object first second) (firstRowPath : Option String)
    (dfs : Option DfsEvaluation) :
    context.bufferedRow toLowercase first firstRowPath object dfs =
      context.bufferedRow toLowercase second firstRowPath object dfs := by
  have trace := shareAceOutcomes_congr agree.share
  have request : context.rowRequest second firstRowPath object dfs =
      (context.rowRequest first firstRowPath object dfs).withNames second := by
    unfold rowRequest
    rw [← trace]
    rfl
  have whole : evaluateWhole toLowercase (context.rowRequest first firstRowPath object dfs) =
      evaluateWhole toLowercase (context.rowRequest second firstRowPath object dfs) := by
    rw [request]
    exact evaluateWhole_congr (agree.shown first firstRowPath dfs)
  unfold bufferedRow
  rw [pathTrustees_congr agree.listed, shareDecisionSteps_congr agree.share, whole]

/-! ## Streaming -/

theorem ownForm_fields (object : FileSystemObject) :
    (context.ownForm object).1.dacl = object.dacl ∧
      (context.ownForm object).1.nullDacl = object.nullDacl ∧
      (context.ownForm object).1.ownerSid = object.ownerSid := by
  unfold ownForm
  cases context.dfs.bind (forScannedObject object.path) with
  | none => exact ⟨rfl, rfl, rfl⟩
  | some form => exact ⟨rfl, rfl, rfl⟩

theorem askedBy_ownForm (object : FileSystemObject) :
    context.askedBy (context.ownForm object).1 = context.askedBy object := by
  unfold askedBy collectAceSidsForResolution
  rw [(ownForm_fields object).1, (ownForm_fields object).2.1]

theorem openSids_ownForm (object : FileSystemObject) :
    context.openSids (context.ownForm object).1 = context.openSids object := by
  unfold openSids ownForm
  cases context.dfs.bind (forScannedObject object.path) with
  | none => rfl
  | some form => rfl

theorem askedBy_nonempty {object : FileSystemObject} {sid : Sid}
    (asked : sid ∈ context.askedBy object) : sid.value ≠ "" :=
  of_decide_eq_true (List.mem_filter.mp asked).2

/-- The batches a resolver was asked for, up to an object. -/
def batches (context : ScanContext) (objects : List FileSystemObject) : List (List Sid) :=
  context.shareDecisions.map ShareAceDecision.sid :: objects.map context.askedBy

theorem batches_flatten : (context.batches objects).flatten = context.askedUpTo objects := by
  rw [batches, List.flatten_cons, askedUpTo, List.flatMap]

/-- The resolver when the objects have been asked for. -/
def resolverAfter (context : ScanContext) (lookups : NameLookups)
    (objects : List FileSystemObject) : SidNameResolver :=
  (forIdentity lookups context.common.identity context.common.groupMemberships
    context.accountServer).resolveEach ((context.batches objects).map (Prod.mk lookups))

theorem resolverAfter_snoc (before : List FileSystemObject) (object : FileSystemObject) :
    (context.resolverAfter lookups before).resolve lookups (context.askedBy object) =
      context.resolverAfter lookups (before ++ [object]) := by
  unfold resolverAfter batches resolveEach
  simp only [List.map_append, List.map_cons, List.map_nil, List.foldl_append, List.foldl_cons,
    List.foldl_nil]

theorem mem_allTrustees {sid : Sid} : sid ∈ context.allTrustees objects ↔
    sid ∈ objects.flatMap context.askedBy ∨
      sid ∈ context.shareDecisions.map ShareAceDecision.sid := by
  rw [allTrustees, List.mem_append, List.mem_eraseDups]

/-- A trustee of the scan was asked for up to an object, or a later one asks for it. -/
theorem asked_or_later {before after : List FileSystemObject} {object : FileSystemObject}
    (split : objects = before ++ object :: after) {sid : Sid} :
    sid ∈ context.allTrustees objects ↔
      sid ∈ context.askedUpTo (before ++ [object]) ∨ sid ∈ after.flatMap context.askedBy := by
  rw [mem_allTrustees, split, askedUpTo]
  simp only [List.flatMap_append, List.flatMap_cons, List.flatMap_nil, List.mem_append,
    List.append_nil]
  tauto

/-- An entry's trustee is asked for unless its SID is empty. -/
theorem entry_listed {object : FileSystemObject}
    (readable : object.nullDacl = true → object.dacl = []) {sid : Sid}
    (entry : sid ∈ object.dacl.map AceEntry.sid) :
    sid.value = "" ∨ sid ∈ context.askedBy object := by
  by_cases empty : sid.value = ""
  · exact Or.inl empty
  · have present : object.nullDacl = false := by
      rw [← Bool.not_eq_true]
      intro null
      rw [readable null] at entry
      exact List.not_mem_nil entry
    refine Or.inr (List.mem_filter.mpr ⟨List.mem_append_left _ ?_, decide_eq_true empty⟩)
    rwa [if_neg (by rw [present]; exact Bool.false_ne_true)]

section Tables

variable {before after : List FileSystemObject} {object : FileSystemObject}
  (split : objects = before ++ object :: after)

include split

/-- The table of a walk agrees with the whole one at a SID that has its name in time. -/
theorem lookup_of_named {sid : Sid} (named : sid ∈ context.allTrustees objects →
    Named lookups context.common.identity context.common.groupMemberships context.accountServer
      (context.askedUpTo (before ++ [object])) sid) :
    (context.resolverAfter lookups (before ++ [object])).map.lookup sid =
      (context.scanSidNames lookups objects).lookup sid := by
  have inside : (context.batches (before ++ [object])).flatten ⊆ context.allTrustees objects := by
    intro sid early
    rw [batches_flatten] at early
    exact (asked_or_later split).mpr (Or.inl early)
  exact (streamed_lookup_iff inside).mpr (batches_flatten ▸ named)

theorem lookup_of_asked {sid : Sid} (asked : sid ∈ context.askedUpTo (before ++ [object])) :
    (context.resolverAfter lookups (before ++ [object])).map.lookup sid =
      (context.scanSidNames lookups objects).lookup sid :=
  lookup_of_named split (fun _ => Or.inr (Or.inl asked))

/-- The trustees of a row have their names. -/
theorem lookup_of_listed {sid : Sid} (shown : sid.value = "" ∨ sid ∈ context.askedBy object) :
    (context.resolverAfter lookups (before ++ [object])).map.lookup sid =
      (context.scanSidNames lookups objects).lookup sid := by
  rcases shown with empty | asked
  · refine lookup_of_named split (fun trustee => ?_)
    rcases mem_allTrustees.mp trustee with later | shared
    · rcases List.mem_flatMap.mp later with ⟨other, _, asked⟩
      exact absurd empty (askedBy_nonempty asked)
    · exact Or.inr (Or.inl (List.mem_append_left _ shared))
  · refine lookup_of_asked split
      (List.mem_append_right _ (List.mem_flatMap.mpr ⟨object, ?_, asked⟩))
    exact List.mem_append_right _ (List.mem_singleton_self object)

theorem rowNames_of_inTime (inTime : context.NamesInTime lookups objects) :
    RowNames context (context.ownForm object).1
      (context.resolverAfter lookups (before ++ [object])).map
      (context.scanSidNames lookups objects) where
  entries := by
    intro sid entry
    rw [(ownForm_fields object).1] at entry
    have member : object ∈ objects := by
      rw [split]
      exact List.mem_append_right _ List.mem_cons_self
    exact lookup_of_listed split (entry_listed (inTime.readable object member) entry)
  groups := fun _ group => lookup_of_named split (fun _ => Or.inl (Or.inl group))
  share := fun _ shared => lookup_of_asked split (List.mem_append_left _ shared)
  openOnes := by
    intro sid shown
    rw [openSids_ownForm] at shown
    refine lookup_of_named split (fun trustee => ?_)
    rcases (asked_or_later split).mp trustee with asked | later
    · exact Or.inr (Or.inl asked)
    · exact inTime.named before object after split sid shown later
  listed := fun sid shown => lookup_of_listed split (askedBy_ownForm object ▸ shown)

end Tables

/-- Masks, statuses and entries do not read the table of names. -/
theorem evaluate_withoutTexts (first second : List (Sid × String)) (input : PermissionEvaluationInput) :
    { evaluate { input with sidNames := first } with diagnostics := [] } =
      { evaluate { input with sidNames := second } with diagnostics := [] } := by
  unfold evaluate
  have refused : ({ input with sidNames := first } : PermissionEvaluationInput).logonRefused =
      ({ input with sidNames := second } : PermissionEvaluationInput).logonRefused := rfl
  rw [refused, settleLogon_eq, settleLogon_eq ({ input with
    sidNames := second } : PermissionEvaluationInput).draft]
  split_ifs
  · rfl
  · rfl

theorem bufferedRow_withoutTexts {object : FileSystemObject} {first second : List (Sid × String)}
    (agree : ∀ sid, sid.value = "" ∨ sid ∈ context.askedBy object →
      first.lookup sid = second.lookup sid)
    (firstRowPath : Option String) (dfs : Option DfsEvaluation) :
    (context.bufferedRow toLowercase first firstRowPath object dfs).withoutTexts =
      (context.bufferedRow toLowercase second firstRowPath object dfs).withoutTexts := by
  have result := evaluate_withoutTexts first second
    (context.rowRequest first firstRowPath object dfs).toPermissionEvaluationInput
  have whole : ∀ names,
      (evaluateWhole toLowercase (context.rowRequest names firstRowPath object
        dfs)).toEffectivePermission =
      evaluate { (context.rowRequest first firstRowPath object dfs).toPermissionEvaluationInput with
        sidNames := names } := fun _ => rfl
  unfold bufferedRow ScanRow.withoutTexts
  dsimp only
  rw [pathTrustees_congr agree, whole first, whole second, result]

/-- Only the texts of the rows depend on when the names are asked for. -/
theorem streamedRowsFrom_withoutTexts (before after : List FileSystemObject)
    (split : objects = before ++ after) (firstRowPath : Option String) :
    (context.streamedRowsFrom lookups toLowercase (context.resolverAfter lookups before)
        firstRowPath after).map ScanRow.withoutTexts =
      (context.bufferedRowsFrom toLowercase (context.scanSidNames lookups objects)
        firstRowPath after).map ScanRow.withoutTexts := by
  induction after generalizing before firstRowPath with
  | nil => rfl
  | cons object rest further =>
      have row := @bufferedRow_withoutTexts context toLowercase (context.ownForm object).1 _ _
        (fun sid shown => @lookup_of_listed context lookups objects before rest object split sid
          (askedBy_ownForm object ▸ shown)) firstRowPath (context.ownForm object).2
      unfold streamedRowsFrom bufferedRowsFrom
      dsimp only
      rw [askedBy_ownForm, resolverAfter_snoc, streamedRow_eq_bufferedRow, List.map_cons,
        List.map_cons, row]
      refine congrArg _ (further (before ++ [object]) ?_ _)
      rw [split, List.append_assoc, List.singleton_append]

theorem streamedRowsFrom_eq (inTime : context.NamesInTime lookups objects)
    (before after : List FileSystemObject) (split : objects = before ++ after)
    (firstRowPath : Option String) :
    context.streamedRowsFrom lookups toLowercase (context.resolverAfter lookups before)
        firstRowPath after =
      context.bufferedRowsFrom toLowercase (context.scanSidNames lookups objects)
        firstRowPath after := by
  induction after generalizing before firstRowPath with
  | nil => rfl
  | cons object rest further =>
      unfold streamedRowsFrom bufferedRowsFrom
      dsimp only
      rw [askedBy_ownForm, resolverAfter_snoc, streamedRow_eq_bufferedRow,
        bufferedRow_congr (rowNames_of_inTime split inTime)]
      refine congrArg _ (further (before ++ [object]) ?_ _)
      rw [split, List.append_assoc, List.singleton_append]

end ScanContext

/-- A scan that asks for names object by object and one that asks for all of them at once
give rows with the same paths, masks, statuses, entries and trustee lists, and, where no
row shows a SID whose name is first asked for by a later object, with the same explanations
and traces. -/
theorem streamed_rows_agree (context : ScanContext) (lookups : NameLookups)
    (toLowercase : String → String) (objects : List FileSystemObject) :
    (context.streamedRows lookups toLowercase objects).map ScanRow.withoutTexts =
        (context.bufferedRows lookups toLowercase objects).map ScanRow.withoutTexts ∧
      (context.NamesInTime lookups objects →
        context.streamedRows lookups toLowercase objects =
          context.bufferedRows lookups toLowercase objects) :=
  ⟨ScanContext.streamedRowsFrom_withoutTexts [] objects rfl none,
    fun inTime => ScanContext.streamedRowsFrom_eq inTime [] objects rfl none⟩

/-- A scan of an account without memberships. -/
def plainScan : ScanContext where
  common :=
    { identity := { sid := ⟨"S-1-5-21-1-2-3-1105"⟩ }
      fileSystemObject := { path := "C:\\" } }
  accountServer := none
  shareDecisions := []
  shareOverlay := none
  dfs := none

/-- Windows knows one name. -/
def everyoneOnly : NameLookups where
  lookupAccountForSid sid := if sid = sidEveryone then some ("Everyone", "") else none
  lookupSidOn _ _ := none

/-- Everyone owns it, and no entry names anybody. -/
def ownedByEveryone : FileSystemObject where
  path := "C:\\owned"
  ownerSid := some sidEveryone

def openToEveryone : FileSystemObject where
  path := "C:\\open"
  dacl := [{ kind := .allow, sid := sidEveryone, mask := 0x1#32 }]

/-- The owner is named in time when an earlier object names it. -/
theorem streamed_rows_agree_openFirst :
    plainScan.streamedRows everyoneOnly id [openToEveryone, ownedByEveryone] =
      plainScan.bufferedRows everyoneOnly id [openToEveryone, ownedByEveryone] := by
  refine (streamed_rows_agree plainScan everyoneOnly id [openToEveryone, ownedByEveryone]).2
    ⟨by decide, ?_⟩
  intro before object after split sid _ later
  have nobody : plainScan.askedBy ownedByEveryone = [] := by decide
  cases before with
  | nil =>
      cases split
      rw [List.flatMap_cons, nobody] at later
      exact absurd later List.not_mem_nil
  | cons first rest =>
      have tail : [ownedByEveryone] = rest ++ object :: after := (List.cons.inj split).2
      cases rest with
      | nil =>
          cases tail
          exact absurd later List.not_mem_nil
      | cons second rest =>
          have short := congrArg List.length tail
          simp only [List.length_cons, List.length_append, List.length_nil] at short
          omega

/-- The owner of the first object has no name in its row when only a later one names it. -/
example :
    (plainScan.resolverAfter everyoneOnly [ownedByEveryone]).map.lookup sidEveryone = none ∧
      (plainScan.scanSidNames everyoneOnly [ownedByEveryone, openToEveryone]).lookup
        sidEveryone = some "Everyone" ∧
      sidEveryone ∈ plainScan.openSids ownedByEveryone := by
  decide

end Analysis

end Stars
