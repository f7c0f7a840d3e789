import Stars.Persistence.StoredRow
import Stars.Storage.Transaction

namespace Stars
namespace Persistence

open Storage Operation

/-!
# The scan store

Scan runs with their results and errors, in three tables of one database.  A run
is written in a single transaction, which a writer holds open; a writer that is
dropped rolls it back.  Deleting a run is a transaction of its own.  Timestamps
and run ids are kept as the texts they are stored as.
-/

structure ScanRun where
  id : String
  startedAt : String
  finishedAt : Option String
  target : String
deriving DecidableEq

structure ScanError where
  path : Option String
  message : String
deriving DecidableEq

structure PermissionRecord where
  scanRunId : String
  row : StoredRow
deriving DecidableEq

structure ScanErrorRecord where
  scanRunId : String
  error : ScanError
deriving DecidableEq

/-- The tables, each in insertion order. -/
structure Tables where
  scanRuns : List ScanRun := []
  effectivePermissions : List PermissionRecord := []
  scanErrors : List ScanErrorRecord := []
deriving DecidableEq

/-- The statements that change the tables. -/
inductive TableChange where
  | insertScanRun
  | updateFinishedAt
  | insertPermission
  | insertError
  | deletePermissions
  | deleteErrors
  | deleteScanRun
deriving DecidableEq

abbrev StoreConnection : Type := Connection TableChange Tables

abbrev StoreOperation (Value : Type) : Type := Operation TableChange Tables CoreError Value

/-- An error of the database, with the words of the operation before it. -/
def databaseError (words : String) (reason : String) : CoreError :=
  .database s!"{words}: {reason}"

namespace Tables

/-- The id of a run is a primary key. -/
def insertScanRun (tables : Tables) (run : ScanRun) : Except String (Unit × Tables) :=
  if run.id ∈ tables.scanRuns.map ScanRun.id then .error "UNIQUE constraint failed: scan_runs.id"
  else .ok ((), { tables with scanRuns := tables.scanRuns ++ [run] })

def finishScanRun (tables : Tables) (id finishedAt : String) : Tables :=
  { tables with
    scanRuns := tables.scanRuns.map (fun run =>
      if run.id = id then { run with finishedAt := some finishedAt } else run) }

def insertPermission (tables : Tables) (record : PermissionRecord) : Tables :=
  { tables with effectivePermissions := tables.effectivePermissions ++ [record] }

def insertError (tables : Tables) (record : ScanErrorRecord) : Tables :=
  { tables with scanErrors := tables.scanErrors ++ [record] }

def deletePermissions (tables : Tables) (id : String) : Tables :=
  { tables with
    effectivePermissions :=
      tables.effectivePermissions.filter (fun record => record.scanRunId ≠ id) }

def deleteErrors (tables : Tables) (id : String) : Tables :=
  { tables with scanErrors := tables.scanErrors.filter (fun record => record.scanRunId ≠ id) }

def deleteScanRun (tables : Tables) (id : String) : Tables :=
  { tables with scanRuns := tables.scanRuns.filter (fun run => run.id ≠ id) }

end Tables

def insertScanRun (run : ScanRun) : StoreOperation Unit :=
  mapError (databaseError "insert_scan_run failed")
    (change .insertScanRun (fun tables => tables.insertScanRun run))

def finishScanRun (id finishedAt : String) : StoreOperation Unit :=
  mapError (databaseError "finish_scan_run failed")
    (change .updateFinishedAt (fun tables => .ok ((), tables.finishScanRun id finishedAt)))

/-- The evidence is encoded before the statement. -/
def insertPermission (codec : RowCodec) (scanRunId : String) (perm : ExplainedPermission) :
    StoreOperation Unit :=
  match permissionRow codec perm with
  | .error reason => refuse reason
  | .ok row =>
      mapError (databaseError "insert_permission failed")
        (change .insertPermission (fun tables => .ok ((), tables.insertPermission ⟨scanRunId, row⟩)))

def insertError (scanRunId : String) (error : ScanError) : StoreOperation Unit :=
  mapError (databaseError "insert_error failed")
    (change .insertError (fun tables => .ok ((), tables.insertError ⟨scanRunId, error⟩)))

/-- One scan run being written; its transaction is open. -/
structure ScanWriter where
  runId : String
deriving DecidableEq

/-- Begin a run.  A writer that could not insert it is dropped. -/
def beginScan (run : ScanRun) : StoreOperation ScanWriter := do
  mapError (databaseError "scan transaction BEGIN failed") beginImmediate
  rollbackOnError (do
    insertScanRun run
    return ⟨run.id⟩)

namespace ScanWriter

def addPermission (codec : RowCodec) (writer : ScanWriter) (perm : ExplainedPermission) :
    StoreOperation Unit := insertPermission codec writer.runId perm

def addError (writer : ScanWriter) (error : ScanError) : StoreOperation Unit :=
  insertError writer.runId error

/-- Set the finish time, when given, and commit.  The writer is consumed: after
an error it is dropped with its transaction open. -/
def commit (writer : ScanWriter) (finishedAt : Option String) : StoreOperation Unit :=
  rollbackOnError (do
    match finishedAt with
    | some time => finishScanRun writer.runId time
    | none => pure ()
    mapError (databaseError "scan transaction COMMIT failed") Storage.commit)

/-- Not committed: nothing of the run is kept. -/
def drop : StoreOperation Unit := fun connection => (.ok (), (rollback connection).2)

end ScanWriter

/-- A complete run in a single transaction. -/
def persistScanAtomic (codec : RowCodec) (run : ScanRun) (permissions : List ExplainedPermission)
    (errors : List ScanError) : StoreOperation Unit := do
  let writer ← beginScan run
  rollbackOnError (do
    permissions.forM (writer.addPermission codec)
    errors.forM writer.addError)
  writer.commit none

/-- Delete a run with its dependent rows; the result counts the removed runs. -/
def deleteScanRun (id : String) : StoreOperation Nat := do
  mapError (databaseError "delete_scan_run BEGIN failed") beginImmediate
  let removed ← rollbackOnError (do
    mapError (databaseError "delete effective_permissions failed")
      (change .deletePermissions (fun tables => .ok ((), tables.deletePermissions id)))
    mapError (databaseError "delete scan_errors failed")
      (change .deleteErrors (fun tables => .ok ((), tables.deleteErrors id)))
    mapError (databaseError "delete scan_runs failed")
      (change .deleteScanRun (fun tables =>
        .ok (tables.scanRuns.countP (fun run => run.id = id), tables.deleteScanRun id))))
  mapError (databaseError "delete_scan_run COMMIT failed") Storage.commit
  return removed

/-! ## One connection in use -/

/-- A connection with the writers that are alive on it. -/
structure StoreState where
  connection : StoreConnection
  writers : List ScanWriter := []
deriving DecidableEq

/-- What a caller does next.  A writer is named by its place. -/
inductive Action where
  | beginScan (run : ScanRun)
  | addPermission (writer : Nat) (perm : ExplainedPermission)
  | addError (writer : Nat) (error : ScanError)
  | commit (writer : Nat) (finishedAt : Option String)
  | dropWriter (writer : Nat)
  | persistScanAtomic (run : ScanRun) (permissions : List ExplainedPermission)
      (errors : List ScanError)
  | deleteScanRun (id : String)

abbrev StoreFault : Type := Fault TableChange

/-- The result of an action is the count of removed runs, for a deletion. -/
abbrev Reply : Type := Except CoreError (Option Nat)

/-- An operation in place of the connection's writers. -/
def perform {Value : Type} (state : StoreState) (fault : Option StoreFault)
    (operation : StoreOperation Value) (reply : Value → Option Nat)
    (writersAfter : Value → List ScanWriter) (writersFailed : List ScanWriter) :
    Reply × StoreState :=
  match withFault fault operation state.connection with
  | (.ok value, after) => (.ok (reply value), ⟨after, writersAfter value⟩)
  | (.error reason, after) => (.error reason, ⟨after, writersFailed⟩)

/-- One action on the connection, with a statement of it made to fail.  Without
the named writer nothing happens. -/
def step (codec : RowCodec) (state : StoreState) (action : Action) (fault : Option StoreFault) :
    Reply × StoreState :=
  match action with
  | .beginScan run =>
      perform state fault (beginScan run) (fun _ => none) (fun writer => state.writers ++ [writer])
        state.writers
  | .addPermission place perm =>
      match state.writers[place]? with
      | none => (.ok none, state)
      | some writer =>
          perform state fault (writer.addPermission codec perm) (fun _ => none)
            (fun _ => state.writers) state.writers
  | .addError place error =>
      match state.writers[place]? with
      | none => (.ok none, state)
      | some writer =>
          perform state fault (writer.addError error) (fun _ => none) (fun _ => state.writers)
            state.writers
  | .commit place finishedAt =>
      match state.writers[place]? with
      | none => (.ok none, state)
      | some writer =>
          perform state fault (writer.commit finishedAt) (fun _ => none)
            (fun _ => state.writers.eraseIdx place) (state.writers.eraseIdx place)
  | .dropWriter place =>
      match state.writers[place]? with
      | none => (.ok none, state)
      | some _ =>
          perform state fault ScanWriter.drop (fun _ => none)
            (fun _ => state.writers.eraseIdx place) (state.writers.eraseIdx place)
  | .persistScanAtomic run permissions errors =>
      perform state fault (persistScanAtomic codec run permissions errors) (fun _ => none)
        (fun _ => state.writers) state.writers
  | .deleteScanRun id =>
      perform state fault (deleteScanRun id) some (fun _ => state.writers) state.writers

end Persistence
end Stars
