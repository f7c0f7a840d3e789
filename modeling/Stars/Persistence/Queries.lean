import Stars.Persistence.Difference
import Stars.Persistence.StoredScans

namespace Stars
namespace Persistence

open Storage

/-!
# What the store answers

The queries read the tables row by row, as their connection sees them.  After any run they
answer for the scans that the run has left in the archive: every scan with its own results and
errors, and two scans of one target with their exact difference.  No row belongs to a scan that
is not there.  The connection that writes a scan sees it while it is in hand; another connection
sees it once it is stored.
-/

/-- The order of rows that a statement does not order; any may occur. -/
structure RowOrder where
  runs : List ScanRun → List ScanRun
  permissions : List PermissionRecord → List PermissionRecord
  runs_perm : ∀ rows, (runs rows).Perm rows
  permissions_perm : ∀ rows, (permissions rows).Perm rows

/-- The texts of a run as they are parsed. -/
structure RunCodec where
  parseUuid : String → Except String String
  parseTimestamp : String → Except String String

def RunCodec.readTimestamp (codec : RunCodec) (text : String) : Except CoreError String :=
  (codec.parseTimestamp text).mapError (databaseError "Invalid timestamp")

def RunCodec.readRun (codec : RunCodec) (run : ScanRun) : Except CoreError ScanRun := do
  let id ← (codec.parseUuid run.id).mapError (databaseError "Invalid UUID in scan_runs")
  let startedAt ← codec.readTimestamp run.startedAt
  let finishedAt ← match run.finishedAt with
    | none => pure none
    | some text => (codec.readTimestamp text).map some
  return { run with id := id, startedAt := startedAt, finishedAt := finishedAt }

def newestFirst (left right : String) : Ordering := Order.compareText right left

instance : Std.TransCmp newestFirst :=
  inferInstanceAs (Std.TransCmp (fun left right => Order.compareText right left))

namespace Tables

variable (tables : Tables) (id : String)

def listErrorsFor : List ScanError :=
  (tables.scanErrors.filter (fun record => record.scanRunId = id)).map ScanErrorRecord.error

def countPermissionsFor : Nat :=
  tables.effectivePermissions.countP (fun record => record.scanRunId = id)

def countErrorsFor : Nat := tables.scanErrors.countP (fun record => record.scanRunId = id)

def listScanRuns (codec : RunCodec) (order : RowOrder) : Except CoreError (List ScanRun) :=
  (Order.sortBy newestFirst ScanRun.startedAt (order.runs tables.scanRuns)).mapM codec.readRun

def getPermissions (codec : RowCodec) (order : RowOrder) :
    Except CoreError (List ExplainedPermission) :=
  ((order.permissions tables.effectivePermissions).filter
    (fun record => record.scanRunId = id)).mapM (fun record => readRow codec record.row)

def runTarget : Except CoreError String :=
  match tables.scanRuns.find? (fun run => run.id = id) with
  | none => .error (.validation s!"unknown scan run id '{id}'")
  | some run => .ok run.target

/-- Scans of different targets are not compared. -/
def compareScans (codec : RowCodec) (order : RowOrder) (newVisit oldVisit : Visit)
    (oldId newId : String) : Except CoreError (List DeltaEntry) := do
  let oldTarget ← tables.runTarget oldId
  let newTarget ← tables.runTarget newId
  if oldTarget ≠ newTarget then
    .error (.validation (s!"scan runs are not comparable: the old run scanned '{oldTarget}', " ++
      s!"the new run scanned '{newTarget}'"))
  else
    let oldPerms ← tables.getPermissions oldId codec order
    let newPerms ← tables.getPermissions newId codec order
    return diffPermissionLists newVisit oldVisit oldPerms newPerms

end Tables

section Rows

variable {codec : RowCodec} {scans : List StoredScan} {scan : StoredScan}

theorem mem_scanIds (stored : scan ∈ scans) : scan.run.id ∈ scanIds scans :=
  List.mem_map.mpr ⟨scan, stored, rfl⟩

theorem filter_own (distinct : (scanIds scans).Nodup) (stored : scan ∈ scans) :
    scans.filter (fun other => other.run.id = scan.run.id) = [scan] := by
  induction scans with
  | nil => cases stored
  | cons first rest known =>
      rcases List.nodup_cons.mp distinct with ⟨fresh, further⟩
      rcases List.mem_cons.mp stored with here | later
      · rw [here, List.filter_cons_of_pos (by simp)]
        refine congrArg (first :: ·) (List.filter_eq_nil_iff.mpr ?_)
        intro other inside same
        exact fresh (List.mem_map.mpr ⟨other, inside, of_decide_eq_true same⟩)
      · have other : first.run.id ≠ scan.run.id := by
          intro same
          exact fresh (List.mem_map.mpr ⟨scan, later, same.symm⟩)
        rw [List.filter_cons_of_neg (by simpa using other)]
        exact known further later

theorem filter_foreign {id : String} (foreign : id ∉ scanIds scans) :
    scans.filter (fun other => other.run.id = id) = [] := by
  refine List.filter_eq_nil_iff.mpr ?_
  intro other inside same
  exact foreign (List.mem_map.mpr ⟨other, inside, of_decide_eq_true same⟩)

/-- The rows of a scan in the table of all results. -/
theorem ownRecords (distinct : (scanIds scans).Nodup) (stored : scan ∈ scans) :
    (layOut codec scans).effectivePermissions.filter
      (fun record => record.scanRunId = scan.run.id) = scan.records codec := by
  refine (filter_flatMap_records (fun id => id = scan.run.id) (StoredScan.records codec)
    PermissionRecord.scanRunId (fun _ _ => owner_of_mem_records)).trans ?_
  rw [filter_own distinct stored, List.flatMap_singleton]

theorem ownErrorRecords (distinct : (scanIds scans).Nodup) (stored : scan ∈ scans) :
    (layOut codec scans).scanErrors.filter (fun record => record.scanRunId = scan.run.id) =
      scan.errorRecords := by
  refine (filter_flatMap_records (fun id => id = scan.run.id) StoredScan.errorRecords
    ScanErrorRecord.scanRunId (fun _ _ => owner_of_mem_errorRecords)).trans ?_
  rw [filter_own distinct stored, List.flatMap_singleton]

/-- The results of a scan with whole evidence are read as they are stored. -/
theorem records_read (lawful : ∀ perm ∈ scan.permissions,
      codec.RoundTripsOn perm ∧ perm.unsupportedAceCount < 2 ^ 63) :
    List.Forall₂ (fun record back => readRow codec record.row = .ok back) (scan.records codec)
      (scan.permissions.map asStored) := by
  rcases scan with ⟨run, permissions, errors⟩
  change ∀ perm ∈ permissions, _ at lawful
  change List.Forall₂ _ (permissions.filterMap _) _
  induction permissions with
  | nil => exact .nil
  | cons perm rest known =>
      rcases lawful perm List.mem_cons_self with ⟨roundTrips, bounded⟩
      rcases (readsBack_iff roundTrips).mpr bounded with ⟨row, back, written, read, same, _⟩
      rw [List.filterMap_cons_some (by rw [written]; rfl), List.map_cons]
      refine .cons (same ▸ read) (known ?_)
      exact fun other listed => lawful other (List.mem_cons_of_mem perm listed)

/-- Steps that succeed in one order succeed in every order. -/
theorem mapM_of_perm {First Second : Type} {step : First → Except CoreError Second}
    {items arranged : List First} {results : List Second} (perm : arranged.Perm items)
    (each : List.Forall₂ (fun item result => step item = .ok result) items results) :
    ∃ read, arranged.mapM step = .ok read ∧ read.Perm results := by
  rcases List.perm_comp_forall₂ perm each with ⟨read, done, same⟩
  exact ⟨read, Collections.mapM_eq_ok_iff.mpr done, same⟩

end Rows

theorem map_keyOf_asStored (rows : List ExplainedPermission) :
    (rows.map asStored).map keyOf = rows.map keyOf := List.map_map

/-- The comparison of rows with distinct keys, in whatever order they are read. -/
theorem exactDifference_of_perm {old new oldRows newRows : List ExplainedPermission}
    (newVisit oldVisit : Visit) (distinctOld : (old.map keyOf).Nodup)
    (distinctNew : (new.map keyOf).Nodup) (sameOld : oldRows.Perm old)
    (sameNew : newRows.Perm new) :
    ExactDifference old new (diffPermissionLists newVisit oldVisit oldRows newRows) := by
  have same : diffPermissionLists newVisit oldVisit oldRows newRows =
      diffPermissionLists newVisit oldVisit old new :=
    diffPermissionLists_perm distinctOld distinctNew sameOld sameNew
  have once : ((diffPermissionLists newVisit oldVisit old new).map DeltaEntry.key).Nodup :=
    nodup_diffPermissionLists distinctOld distinctNew
  have described : ∀ entry, entry ∈ diffPermissionLists newVisit oldVisit old new ↔
      Describes old new entry :=
    fun _ => mem_diffPermissionLists_iff distinctOld distinctNew
  rw [same]
  exact {
    once := once
    mem_iff := described
    reasons := fun _ _ _ => mem_signatureDiff_iff
    ordered := Order.pairwise_sortBy _
    applied := applyDelta_perm distinctOld distinctNew once described }

/-- The evidence of every result has a text that is read as the same evidence, and every count
fits its column. -/
def StoredScan.Whole (codec : RowCodec) (scan : StoredScan) : Prop :=
  ∀ perm ∈ scan.permissions, codec.RoundTripsOn perm ∧ perm.unsupportedAceCount < 2 ^ 63

/-- Two scans that can be compared: whole, each with one row for an identity and a path. -/
structure ComparableScans (codec : RowCodec) (old new : StoredScan) : Prop where
  oldWhole : old.Whole codec
  newWhole : new.Whole codec
  oldDistinct : (old.permissions.map keyOf).Nodup
  newDistinct : (new.permissions.map keyOf).Nodup

/-- What the queries answer over these tables is what these scans hold. -/
structure AnswersFor (codec : RowCodec) (runCodec : RunCodec) (order : RowOrder)
    (newVisit oldVisit : Visit) (scans : List StoredScan) (tables : Tables) : Prop where
  /-- No row without its scan. -/
  owned : (∀ record ∈ tables.effectivePermissions, record.scanRunId ∈ scanIds scans) ∧
    ∀ record ∈ tables.scanErrors, record.scanRunId ∈ scanIds scans
  counts : ∀ scan ∈ scans,
    tables.countPermissionsFor scan.run.id = scan.permissions.length ∧
      tables.countErrorsFor scan.run.id = scan.errors.length
  errors : ∀ scan ∈ scans, tables.listErrorsFor scan.run.id = scan.errors
  permissions : ∀ scan ∈ scans, scan.Whole codec → ∃ read,
    tables.getPermissions scan.run.id codec order = .ok read ∧
      read.Perm (scan.permissions.map asStored)
  runs : (∀ scan ∈ scans, runCodec.readRun scan.run = .ok scan.run) → ∃ listed,
    tables.listScanRuns runCodec order = .ok listed ∧
      listed.Perm (scans.map StoredScan.run) ∧
      listed.Pairwise (Order.NotAfter newestFirst ScanRun.startedAt)
  compared : ∀ old ∈ scans, ∀ new ∈ scans, ComparableScans codec old new →
    old.run.target = new.run.target → ∃ entries,
      tables.compareScans codec order newVisit oldVisit old.run.id new.run.id = .ok entries ∧
        ExactDifference (old.permissions.map asStored) (new.permissions.map asStored) entries
  incomparable : ∀ old ∈ scans, ∀ new ∈ scans, old.run.target ≠ new.run.target →
    ∃ reason, tables.compareScans codec order newVisit oldVisit old.run.id new.run.id =
      .error (.validation reason)
  unknown : ∀ id ∉ scanIds scans, ∀ other,
    tables.compareScans codec order newVisit oldVisit id other =
      .error (.validation s!"unknown scan run id '{id}'")

section Answers

variable {codec : RowCodec} {scans : List StoredScan} (order : RowOrder)

theorem getPermissions_layOut {scan : StoredScan} (distinct : (scanIds scans).Nodup)
    (stored : scan ∈ scans) (whole : scan.Whole codec) :
    ∃ read, (layOut codec scans).getPermissions scan.run.id codec order = .ok read ∧
      read.Perm (scan.permissions.map asStored) := by
  refine mapM_of_perm ?_ (records_read whole)
  rw [← ownRecords distinct stored]
  exact (order.permissions_perm _).filter _

theorem runTarget_layOut {scan : StoredScan} (distinct : (scanIds scans).Nodup)
    (stored : scan ∈ scans) : (layOut codec scans).runTarget scan.run.id = .ok scan.run.target := by
  rw [Tables.runTarget, layOut]
  dsimp only
  rw [List.find?_map]
  have found : scans.find? ((fun run : ScanRun => decide (run.id = scan.run.id)) ∘
      StoredScan.run) = some scan := by
    rw [← List.head?_filter]
    exact congrArg List.head? (filter_own distinct stored)
  rw [found]
  rfl

theorem runTarget_foreign {id : String} (foreign : id ∉ scanIds scans) :
    (layOut codec scans).runTarget id =
      .error (.validation s!"unknown scan run id '{id}'") := by
  rw [Tables.runTarget, layOut]
  dsimp only
  rw [List.find?_map]
  have missing : scans.find? ((fun run : ScanRun => decide (run.id = id)) ∘ StoredScan.run) =
      none := by
    rw [← List.head?_filter]
    exact congrArg List.head? (filter_foreign foreign)
  rw [missing]
  rfl

theorem answersFor_layOut (runCodec : RunCodec) (newVisit oldVisit : Visit)
    (distinct : (scanIds scans).Nodup) (encodes : ∀ scan ∈ scans, ∀ perm ∈ scan.permissions,
      Encodes codec perm = true) :
    AnswersFor codec runCodec order newVisit oldVisit scans (layOut codec scans) := by
  have rowsOf : ∀ scan ∈ scans, (scan.records codec).length = scan.permissions.length := by
    intro scan stored
    rw [StoredScan.records, List.length_filterMap_eq_countP, List.countP_eq_length]
    intro perm listed
    rw [Option.isSome_map]
    exact encodes scan stored perm listed
  have target : ∀ scan ∈ scans, (layOut codec scans).runTarget scan.run.id =
      .ok scan.run.target := fun scan stored => runTarget_layOut distinct stored
  constructor
  · constructor
    · intro record inside
      rcases List.mem_flatMap.mp inside with ⟨scan, stored, own⟩
      exact owner_of_mem_records own ▸ mem_scanIds stored
    · intro record inside
      rcases List.mem_flatMap.mp inside with ⟨scan, stored, own⟩
      exact owner_of_mem_errorRecords own ▸ mem_scanIds stored
  · intro scan stored
    rw [Tables.countPermissionsFor, Tables.countErrorsFor, List.countP_eq_length_filter,
      List.countP_eq_length_filter, ownRecords distinct stored, ownErrorRecords distinct stored,
      rowsOf scan stored, StoredScan.errorRecords, List.length_map]
    exact ⟨rfl, rfl⟩
  · intro scan stored
    rw [Tables.listErrorsFor, ownErrorRecords distinct stored, StoredScan.errorRecords,
      List.map_map]
    exact List.map_id scan.errors
  · exact fun scan stored whole => getPermissions_layOut order distinct stored whole
  · intro parses
    let rows := Order.sortBy newestFirst ScanRun.startedAt
      (order.runs (layOut codec scans).scanRuns)
    have arranged : rows.Perm (scans.map StoredScan.run) :=
      (Order.perm_sortBy _).trans (order.runs_perm _)
    have each : List.Forall₂ (fun run read => runCodec.readRun run = .ok read) rows rows := by
      refine List.forall₂_same.mpr ?_
      intro run inside
      rcases List.mem_map.mp (arranged.mem_iff.mp inside) with ⟨scan, stored, rfl⟩
      exact parses scan stored
    exact ⟨rows, Collections.mapM_eq_ok_iff.mpr each, arranged, Order.pairwise_sortBy _⟩
  · intro old oldStored new newStored comparable same
    rcases getPermissions_layOut order distinct oldStored comparable.oldWhole with
      ⟨oldRows, oldRead, oldSame⟩
    rcases getPermissions_layOut order distinct newStored comparable.newWhole with
      ⟨newRows, newRead, newSame⟩
    refine ⟨diffPermissionLists newVisit oldVisit oldRows newRows, ?_,
      exactDifference_of_perm newVisit oldVisit ?_ ?_ oldSame newSame⟩
    · rw [Tables.compareScans, target old oldStored, target new newStored]
      change (if old.run.target ≠ new.run.target then _ else _) = _
      rw [if_neg (not_not_intro same), oldRead, newRead]
      rfl
    · rw [map_keyOf_asStored]
      exact comparable.oldDistinct
    · rw [map_keyOf_asStored]
      exact comparable.newDistinct
  · intro old oldStored new newStored differ
    rw [Tables.compareScans, target old oldStored, target new newStored]
    change ∃ reason, (if old.run.target ≠ new.run.target then _ else _) = _
    rw [if_pos differ]
    exact ⟨_, rfl⟩
  · intro id foreign other
    rw [Tables.compareScans, runTarget_foreign foreign]
    rfl

end Answers

/-! ## Any run of the store -/

section Runs

variable (codec : RowCodec)

/-- Without a failing ROLLBACK and a failing COMMIT of a deletion every action is spared. -/
theorem runSpared_of_harmless (session : Session) (steps : List (Action × Option StoreFault))
    (rollbacks : ∀ action fault, (action, fault) ∈ steps → ¬Fails .rollback fault)
    (deletions : ∀ id fault, (Action.deleteScanRun id, fault) ∈ steps → ¬Fails .commit fault) :
    RunSpared codec session.toState steps := by
  induction steps generalizing session with
  | nil => trivial
  | cons first rest known =>
      rcases first with ⟨action, fault⟩
      have kept : ¬Fails .rollback fault := rollbacks action fault List.mem_cons_self
      have spared : Spared codec fault session action := by
        rw [Spared.eq_def]
        split
        · exact fun fails => absurd fails kept
        · exact fun fails => absurd fails kept
        · exact deletions _ fault List.mem_cons_self
        · exact kept
        · trivial
      rcases session_of_atomicStep ((atomicStep_iff codec session action fault).mpr spared) with
        ⟨next, left⟩
      refine ⟨⟨session, rfl, spared⟩, ?_⟩
      rw [left]
      exact known next
        (fun other fault inside => rollbacks other fault (List.mem_cons_of_mem _ inside))
        (fun id fault inside => deletions id fault (List.mem_cons_of_mem _ inside))

/-- What a run of the store leaves for the queries, from an empty database on: on its own
connection the stored scans with the one in hand, on another one the stored scans. -/
def ArchiveKept (steps : List (Action × Option StoreFault)) : Prop :=
  ∃ last, Recorded codec (.idle []) steps
      (runSteps codec (Session.idle {}).toState steps).1 last ∧
    (runSteps codec (Session.idle {}).toState steps).2 = (last.toSession codec).toState ∧
    ∀ (runCodec : RunCodec) (order : RowOrder) (newVisit oldVisit : Visit),
      AnswersFor codec runCodec order newVisit oldVisit last.all
          (runSteps codec (Session.idle {}).toState steps).2.connection.view ∧
        AnswersFor codec runCodec order newVisit oldVisit last.scans
          (runSteps codec (Session.idle {}).toState steps).2.connection.committed

theorem view_toSession (archive : Archive) :
    (archive.toSession codec).toState.connection.view = layOut codec archive.all := by
  cases archive with
  | idle scans => rfl
  | writing scans pending => rfl

theorem committed_toSession (archive : Archive) :
    (archive.toSession codec).toState.connection.committed = layOut codec archive.scans := by
  cases archive with
  | idle scans => rfl
  | writing scans pending => rfl

/-- After any run whose actions are spared, the queries answer for the scans that were stored
and not deleted since, and on the writing connection also for the scan in hand. -/
theorem store_keeps_archive (steps : List (Action × Option StoreFault))
    (spared : RunSpared codec (Session.idle {}).toState steps) : ArchiveKept codec steps := by
  have empty : (Archive.idle []).WellFormed codec :=
    ⟨List.nodup_nil, fun scan stored => absurd stored List.not_mem_nil⟩
  rcases recorded_of_spared codec empty steps spared with ⟨last, recorded, wellFormed, ended⟩
  have seen : (runSteps codec (Session.idle {}).toState steps).2.connection.view =
      layOut codec last.all := by
    have same := congrArg (fun state : StoreState => state.connection.view) ended
    exact same.trans (view_toSession codec last)
  have stored : (runSteps codec (Session.idle {}).toState steps).2.connection.committed =
      layOut codec last.scans := by
    have same := congrArg (fun state : StoreState => state.connection.committed) ended
    exact same.trans (committed_toSession codec last)
  have fewer : last.scans.Sublist last.all := by
    cases last with
    | idle scans => exact List.Sublist.refl scans
    | writing scans pending => exact List.sublist_append_left scans [pending]
  refine ⟨last, recorded, ended, ?_⟩
  intro runCodec order newVisit oldVisit
  rw [seen, stored]
  constructor
  · exact answersFor_layOut order runCodec newVisit oldVisit wellFormed.distinct
      wellFormed.encodes
  · refine answersFor_layOut order runCodec newVisit oldVisit ?_ ?_
    · exact List.Sublist.nodup (List.Sublist.map (fun scan : StoredScan => scan.run.id) fewer)
        wellFormed.distinct
    · exact fun scan inside => wellFormed.encodes scan (fewer.subset inside)

end Runs

/-- A scan is stored, another one fails at its COMMIT, and the first one is deleted. -/
def failedSecondScan : List (Action × Option StoreFault) := [
  (.persistScanAtomic finishedRun [readOnlyResult] [], none),
  (.persistScanAtomic { finishedRun with id := "9b07" } [readOnlyResult] [],
    some { statement := .commit, reason := "disk I/O error" }),
  (.deleteScanRun "2f1c", none)]

theorem store_keeps_archive_failedSecondScan : ArchiveKept emptyEvidence failedSecondScan := by
  refine store_keeps_archive emptyEvidence failedSecondScan
    (runSpared_of_harmless emptyEvidence (.idle {}) failedSecondScan ?_ ?_)
  · intro action fault inside fails
    rcases fails with ⟨next, found, statement, _⟩
    simp only [failedSecondScan, List.mem_cons, List.not_mem_nil, Prod.mk.injEq] at inside
    rcases inside with ⟨_, nothing⟩ | ⟨_, commit⟩ | ⟨_, nothing⟩ | impossible
    · rw [nothing] at found
      cases found
    · rw [commit] at found
      cases found
      cases statement
    · rw [nothing] at found
      cases found
    · exact impossible
  · intro id fault inside fails
    rcases fails with ⟨next, found, _, _⟩
    simp only [failedSecondScan, List.mem_cons, List.not_mem_nil, Prod.mk.injEq] at inside
    rcases inside with ⟨impossible, _⟩ | ⟨impossible, _⟩ | ⟨_, nothing⟩ | impossible
    · cases impossible
    · cases impossible
    · rw [nothing] at found
      cases found
    · exact impossible

end Persistence
end Stars
