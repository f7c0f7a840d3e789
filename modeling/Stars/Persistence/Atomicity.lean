import Stars.Persistence.History
import Stars.Persistence.ScanStore

namespace Stars
namespace Persistence

open Storage Operation

/-!
# Atomicity of the scan store

What a caller of the store relies on is a machine without statements: the stored
tables, and the tables a writer would store.  An action either completes or is
abandoned.  A run of the store follows this machine, whichever single statement
of an action fails, except for two kinds of statements: a ROLLBACK, and the
COMMIT of a deletion, after which nothing rolls back.
-/

/-- The stored tables, and what a writer has in hand. -/
inductive Session where
  | idle (stored : Tables)
  | writing (stored pending : Tables) (writer : ScanWriter)

/-- No transaction is open, or one that a writer is alive for. -/
def Session.toState : Session → StoreState
  | idle stored => ⟨⟨stored, none, none⟩, []⟩
  | writing stored pending writer => ⟨⟨stored, some pending, none⟩, [writer]⟩

section Effects

variable (codec : RowCodec)

def insertScanRunEffect (run : ScanRun) (tables : Tables) : Option (Unit × Tables) :=
  (tables.insertScanRun run).toOption

/-- A result whose evidence cannot be encoded has no effect. -/
def addPermissionEffect (runId : String) (perm : ExplainedPermission) (tables : Tables) :
    Option (Unit × Tables) :=
  (permissionRow codec perm).toOption.map (fun row => ((), tables.insertPermission ⟨runId, row⟩))

def addErrorEffect (runId : String) (error : ScanError) (tables : Tables) :
    Option (Unit × Tables) :=
  some ((), tables.insertError ⟨runId, error⟩)

def finishEffect (runId : String) (finishedAt : Option String) (tables : Tables) : Tables :=
  match finishedAt with
  | some time => tables.finishScanRun runId time
  | none => tables

/-- The rows of a run after its own row. -/
def addRowsEffect (runId : String) (permissions : List ExplainedPermission)
    (errors : List ScanError) (tables : Tables) : Option (Unit × Tables) :=
  (effectOfEach (addPermissionEffect codec runId) permissions tables).bind
    (fun done => effectOfEach (addErrorEffect runId) errors done.2)

/-- A complete run. -/
def persistEffect (run : ScanRun) (permissions : List ExplainedPermission)
    (errors : List ScanError) (tables : Tables) : Option (Unit × Tables) :=
  (insertScanRunEffect run tables).bind
    (fun done => addRowsEffect codec run.id permissions errors done.2)

def deleteEffect (id : String) (tables : Tables) : Nat × Tables :=
  let rows := (tables.deletePermissions id).deleteErrors id
  (rows.scanRuns.countP (fun run => run.id = id), rows.deleteScanRun id)

/-- The reply of an action that completes, and the session after it.  None
begins while a writer is alive. -/
def Session.complete : Session → Action → Option (Option Nat × Session)
  | idle stored, .beginScan run =>
      (insertScanRunEffect run stored).map (fun done => (none, writing stored done.2 ⟨run.id⟩))
  | idle stored, .persistScanAtomic run permissions errors =>
      (persistEffect codec run permissions errors stored).map (fun done => (none, idle done.2))
  | idle stored, .deleteScanRun id =>
      some (some (deleteEffect id stored).1, idle (deleteEffect id stored).2)
  | writing stored pending writer, .addPermission 0 perm =>
      (addPermissionEffect codec writer.runId perm pending).map
        (fun done => (none, writing stored done.2 writer))
  | writing stored pending writer, .addError 0 error =>
      (addErrorEffect writer.runId error pending).map
        (fun done => (none, writing stored done.2 writer))
  | writing _ pending writer, .commit 0 finishedAt =>
      some (none, idle (finishEffect writer.runId finishedAt pending))
  | writing stored _ _, .dropWriter 0 => some (none, idle stored)
  | writing _ _ _, .beginScan _ => none
  | writing _ _ _, .persistScanAtomic _ _ _ => none
  | writing _ _ _, .deleteScanRun _ => none
  -- There is no such writer.
  | session, _ => some (none, session)

end Effects

/-- The session after an action that fails: a failed COMMIT has consumed its
writer, everything else is as before. -/
def Session.abandon : Session → Action → Session
  | writing stored _ _, .commit 0 _ => idle stored
  | session, _ => session

/-- The action completes, or returns an error and is abandoned. -/
def AtomicStep (codec : RowCodec) (session : Session) (action : Action)
    (fault : Option StoreFault) : Prop :=
  (∃ reply next, session.complete codec action = some (reply, next) ∧
    step codec session.toState action fault = (.ok reply, next.toState)) ∨
  ∃ reason, step codec session.toState action fault =
    (.error reason, (session.abandon action).toState)

/-- Every action of the run is atomic, from the session the one before left. -/
def RunAtomic (codec : RowCodec) : StoreState → List (Action × Option StoreFault) → Prop
  | _, [] => True
  | state, (action, fault) :: rest =>
      (∃ session : Session, state = session.toState ∧ AtomicStep codec session action fault) ∧
        RunAtomic codec (step codec state action fault).2 rest

/-- The failing statement of the action is not the COMMIT of a deletion, and not
a ROLLBACK that the action comes to: the one of a dropped writer, or of a run
that cannot be inserted as it is. -/
def Spared (codec : RowCodec) (fault : Option StoreFault) : Session → Action → Prop
  | .idle stored, .beginScan run =>
      Fails .rollback fault → run.id ∉ stored.scanRuns.map ScanRun.id
  | .idle stored, .persistScanAtomic run permissions _ =>
      Fails .rollback fault → run.id ∉ stored.scanRuns.map ScanRun.id ∧
        ∀ perm ∈ permissions, ∃ row, permissionRow codec perm = .ok row
  | .idle _, .deleteScanRun _ => ¬ Fails .commit fault
  | .writing _ _ _, .dropWriter 0 => ¬ Fails .rollback fault
  | _, _ => True

/-- Every action of the run is spared, from the session the one before left. -/
def RunSpared (codec : RowCodec) : StoreState → List (Action × Option StoreFault) → Prop
  | _, [] => True
  | state, (action, fault) :: rest =>
      (∃ session : Session, state = session.toState ∧ Spared codec fault session action) ∧
        RunSpared codec (step codec state action fault).2 rest

section Inside

variable (codec : RowCodec)

theorem inTransaction_insertScanRun (run : ScanRun) :
    InTransaction (insertScanRun run) (insertScanRunEffect run) := by
  rw [insertScanRun]
  exact (inTransaction_change TableChange.insertScanRun _).mapError _

theorem inTransaction_insertPermission (runId : String) (perm : ExplainedPermission) :
    InTransaction (insertPermission codec runId perm) (addPermissionEffect codec runId perm) := by
  cases encoded : permissionRow codec perm with
  | error reason =>
      have effect : addPermissionEffect codec runId perm = fun _ => none := by
        funext tables
        rw [addPermissionEffect, encoded]
        rfl
      rw [insertPermission, encoded, effect]
      exact inTransaction_refuse reason
  | ok row =>
      have effect : addPermissionEffect codec runId perm =
          fun tables => some ((), tables.insertPermission ⟨runId, row⟩) := by
        funext tables
        rw [addPermissionEffect, encoded]
        rfl
      rw [insertPermission, encoded, effect]
      exact (inTransaction_change TableChange.insertPermission _).mapError _

theorem inTransaction_insertError (runId : String) (error : ScanError) :
    InTransaction (insertError runId error) (addErrorEffect runId error) := by
  rw [insertError]
  exact (inTransaction_change TableChange.insertError _).mapError _

theorem insertScanRunEffect_ne_none_iff {run : ScanRun} {tables : Tables} :
    insertScanRunEffect run tables ≠ none ↔ run.id ∉ tables.scanRuns.map ScanRun.id := by
  rw [insertScanRunEffect, Tables.insertScanRun]
  split
  · rename_i taken
    exact iff_of_false (fun impossible => impossible rfl) (fun free => free taken)
  · rename_i free
    exact iff_of_true (fun impossible => nomatch impossible) free

theorem addPermissionEffect_ne_none_iff (runId : String) (perm : ExplainedPermission)
    (tables : Tables) :
    addPermissionEffect codec runId perm tables ≠ none ↔ ∃ row, permissionRow codec perm = .ok row := by
  rw [addPermissionEffect]
  cases permissionRow codec perm with
  | error reason =>
      refine iff_of_false (fun something => something rfl) ?_
      rintro ⟨_, impossible⟩
      cases impossible
  | ok row => exact iff_of_true (fun impossible => nomatch impossible) ⟨row, rfl⟩

/-- Errors are always stored; only the evidence of a result can be in the way. -/
theorem addRowsEffect_ne_none_iff (runId : String) (permissions : List ExplainedPermission)
    (errors : List ScanError) (tables : Tables) :
    addRowsEffect codec runId permissions errors tables ≠ none ↔
      ∀ perm ∈ permissions, ∃ row, permissionRow codec perm = .ok row := by
  rw [← effectOfEach_ne_none_iff (addPermissionEffect_ne_none_iff codec runId) permissions tables,
    addRowsEffect]
  cases effectOfEach (addPermissionEffect codec runId) permissions tables with
  | none => simp
  | some done =>
      have each : ∀ error tables, addErrorEffect runId error tables ≠ none ↔ True :=
        fun error tables => iff_of_true (fun impossible => nomatch impossible) trivial
      have stored := (effectOfEach_ne_none_iff each errors done.2).mpr (fun _ _ => trivial)
      exact iff_of_true stored (fun impossible => nomatch impossible)

theorem persistEffect_ne_none_iff (run : ScanRun) (permissions : List ExplainedPermission)
    (errors : List ScanError) (tables : Tables) :
    persistEffect codec run permissions errors tables ≠ none ↔
      run.id ∉ tables.scanRuns.map ScanRun.id ∧
        ∀ perm ∈ permissions, ∃ row, permissionRow codec perm = .ok row := by
  rw [← insertScanRunEffect_ne_none_iff, persistEffect]
  cases insertScanRunEffect run tables with
  | none => simp
  | some done =>
      rw [← addRowsEffect_ne_none_iff codec run.id permissions errors done.2]
      simp

theorem inTransaction_addRows (writer : ScanWriter) (permissions : List ExplainedPermission)
    (errors : List ScanError) :
    InTransaction (do
      permissions.forM (writer.addPermission codec)
      errors.forM writer.addError) (addRowsEffect codec writer.runId permissions errors) :=
  (InTransaction.forM (inTransaction_insertPermission codec writer.runId) permissions).bind
    (fun _ => InTransaction.forM (inTransaction_insertError writer.runId) errors)

/-- The row of a run, and its writer. -/
def beginEffect (run : ScanRun) (tables : Tables) : Option (ScanWriter × Tables) :=
  (insertScanRunEffect run tables).bind (fun done => some (⟨run.id⟩, done.2))

theorem beginEffect_eq_none {run : ScanRun} {tables : Tables} :
    beginEffect run tables = none ↔ insertScanRunEffect run tables = none := by
  rw [beginEffect]
  cases insertScanRunEffect run tables with
  | none => simp
  | some done => simp

theorem beginEffect_eq_some {run : ScanRun} {tables after : Tables} {writer : ScanWriter}
    (reached : beginEffect run tables = some (writer, after)) :
    insertScanRunEffect run tables = some ((), after) ∧ writer = ⟨run.id⟩ := by
  rw [beginEffect] at reached
  cases inserted : insertScanRunEffect run tables with
  | none =>
      rw [inserted] at reached
      cases reached
  | some done =>
      rw [inserted] at reached
      cases reached
      exact ⟨rfl, rfl⟩

theorem inTransaction_begin (run : ScanRun) :
    InTransaction (do
      insertScanRun run
      return (⟨run.id⟩ : ScanWriter)) (beginEffect run) :=
  (inTransaction_insertScanRun run).bind (fun _ => inTransaction_pure _)

/-- The rows a deletion removes, between its BEGIN and its COMMIT. -/
def deleteRows (id : String) : StoreOperation Nat := do
  mapError (databaseError "delete effective_permissions failed")
    (change .deletePermissions (fun tables => .ok ((), tables.deletePermissions id)))
  mapError (databaseError "delete scan_errors failed")
    (change .deleteErrors (fun tables => .ok ((), tables.deleteErrors id)))
  mapError (databaseError "delete scan_runs failed")
    (change .deleteScanRun (fun tables =>
      .ok (tables.scanRuns.countP (fun run => run.id = id), tables.deleteScanRun id)))

theorem deleteScanRun_eq (id : String) :
    deleteScanRun id = (mapError (databaseError "delete_scan_run BEGIN failed") beginImmediate >>=
      fun _ => rollbackOnError (deleteRows id)) >>= fun removed =>
        mapError (databaseError "delete_scan_run COMMIT failed") Storage.commit >>= fun _ =>
          pure removed :=
  (Operation.bind_assoc _ _ _).symm

theorem inTransaction_deleteRows (id : String) :
    InTransaction (deleteRows id) (fun tables => some (deleteEffect id tables)) := by
  have permissions := (inTransaction_change TableChange.deletePermissions
    (fun tables : Tables => .ok ((), tables.deletePermissions id))).mapError
      (databaseError "delete effective_permissions failed")
  have errors := (inTransaction_change TableChange.deleteErrors
    (fun tables : Tables => .ok ((), tables.deleteErrors id))).mapError
      (databaseError "delete scan_errors failed")
  have runs := (inTransaction_change TableChange.deleteScanRun
    (fun tables : Tables => .ok (tables.scanRuns.countP (fun run => run.id = id),
      tables.deleteScanRun id))).mapError (databaseError "delete scan_runs failed")
  exact permissions.bind (fun _ => errors.bind (fun _ => runs))

/-- The finish time of a run, when given. -/
def finishWith (runId : String) : Option String → StoreOperation Unit
  | some time => finishScanRun runId time
  | none => pure ()

theorem inTransaction_finishWith (runId : String) (finishedAt : Option String) :
    InTransaction (finishWith runId finishedAt)
      (fun tables => some ((), finishEffect runId finishedAt tables)) := by
  cases finishedAt with
  | none => exact inTransaction_pure ()
  | some time =>
      rw [finishWith, finishScanRun]
      exact (inTransaction_change TableChange.updateFinishedAt _).mapError _

theorem commit_eq (writer : ScanWriter) (finishedAt : Option String) :
    writer.commit finishedAt = rollbackOnError (finishWith writer.runId finishedAt >>= fun _ =>
      mapError (databaseError "scan transaction COMMIT failed") Storage.commit) := by
  cases finishedAt with
  | none => rfl
  | some time => rfl

/-- A writer's COMMIT stores what it has, or the transaction is gone. -/
theorem commit_outcome (writer : ScanWriter) (finishedAt : Option String)
    (stored pending : Tables) (fault : Option StoreFault) :
    (∃ later, writer.commit finishedAt ⟨stored, some pending, fault⟩ =
      (.ok (), ⟨finishEffect writer.runId finishedAt pending, none, later⟩)) ∨
    ∃ reason later, writer.commit finishedAt ⟨stored, some pending, fault⟩ =
      (.error reason, ⟨stored, none, later⟩) := by
  rw [commit_eq]
  rcases body_then_commit (databaseError "scan transaction COMMIT failed")
    (inTransaction_finishWith writer.runId finishedAt) stored pending fault with
    ⟨after, later, reached, done⟩ | ⟨reason, working, later, gone, failed⟩
  · left
    have same : finishEffect writer.runId finishedAt pending = after :=
      congrArg Prod.snd (Option.some.inj reached)
    exact ⟨later, same ▸ done⟩
  · right
    have idle : working = none := gone (fun impossible => nomatch impossible)
    exact ⟨reason, later, idle ▸ failed⟩

end Inside

/-! ## One action -/

section Steps

variable {codec : RowCodec} {stored pending : Tables} {writer : ScanWriter}
  {fault : Option StoreFault} {session : Session} {action : Action}

theorem perform_of_ok {Value : Type} {operation : StoreOperation Value}
    {working next : Option Tables} {committed : Tables} {later : Option StoreFault} {value : Value}
    {writers : List ScanWriter} (reply : Value → Option Nat)
    (writersAfter : Value → List ScanWriter) (writersFailed : List ScanWriter)
    (done : operation ⟨stored, working, fault⟩ = (.ok value, ⟨committed, next, later⟩)) :
    perform ⟨⟨stored, working, none⟩, writers⟩ fault operation reply writersAfter writersFailed =
      (.ok (reply value), ⟨⟨committed, next, none⟩, writersAfter value⟩) := by
  rw [perform, withFault, done]

theorem perform_of_error {Value : Type} {operation : StoreOperation Value}
    {working next : Option Tables} {committed : Tables} {later : Option StoreFault}
    {reason : CoreError} {writers : List ScanWriter} (reply : Value → Option Nat)
    (writersAfter : Value → List ScanWriter) (writersFailed : List ScanWriter)
    (failed : operation ⟨stored, working, fault⟩ = (.error reason, ⟨committed, next, later⟩)) :
    perform ⟨⟨stored, working, none⟩, writers⟩ fault operation reply writersAfter writersFailed =
      (.error reason, ⟨⟨committed, next, none⟩, writersFailed⟩) := by
  rw [perform, withFault, failed]

/-- After an error only the state counts. -/
theorem atomicStep_of_error {reason : CoreError} {state : StoreState}
    (failed : step codec session.toState action fault = (.error reason, state)) :
    AtomicStep codec session action fault ↔ state = (session.abandon action).toState := by
  constructor
  · rintro (⟨reply, next, _, done⟩ | ⟨other, abandoned⟩)
    · rw [failed] at done
      cases done
    · rw [failed] at abandoned
      exact congrArg Prod.snd abandoned
  · intro same
    exact Or.inr ⟨reason, same ▸ failed⟩

/-- Outside a transaction an error must not leave one open. -/
theorem atomicStep_of_idle_error {reason : CoreError} {working : Option Tables}
    (failed : step codec (Session.idle stored).toState action fault =
      (.error reason, ⟨⟨stored, working, none⟩, []⟩)) :
    AtomicStep codec (.idle stored) action fault ↔ working = none := by
  rw [atomicStep_of_error failed]
  constructor
  · intro same
    exact congrArg (fun state : StoreState => state.connection.working) same
  · intro idle
    rw [idle]
    rfl

theorem idle_beginScan_iff (run : ScanRun) :
    AtomicStep codec (.idle stored) (.beginScan run) fault ↔
      (Fails .rollback fault → insertScanRunEffect run stored ≠ none) := by
  rcases begin_then_body (databaseError "scan transaction BEGIN failed")
    (inTransaction_begin run) stored fault with
    ⟨value, after, later, reached, _, done⟩ | ⟨reason, working, later, gone, unopened, failed⟩
  · rcases beginEffect_eq_some reached with ⟨inserted, rfl⟩
    refine iff_of_true (Or.inl ⟨none, .writing stored after ⟨run.id⟩, ?_, ?_⟩) ?_
    · rw [Session.complete, inserted]
      rfl
    · exact perform_of_ok _ _ _ done
    · rw [inserted]
      exact fun _ impossible => nomatch impossible
  · have ended : step codec (Session.idle stored).toState (.beginScan run) fault =
        (.error reason, ⟨⟨stored, working, none⟩, []⟩) := perform_of_error _ _ _ failed
    rw [atomicStep_of_idle_error ended, gone]
    exact ⟨fun spared hit => absurd hit spared,
      fun effect hit => effect hit (beginEffect_eq_none.mp (unopened .rollback trivial hit))⟩

theorem idle_persistScanAtomic_iff (run : ScanRun) (permissions : List ExplainedPermission)
    (errors : List ScanError) :
    AtomicStep codec (.idle stored) (.persistScanAtomic run permissions errors) fault ↔
      (Fails .rollback fault → persistEffect codec run permissions errors stored ≠ none) := by
  rcases begin_then_body (databaseError "scan transaction BEGIN failed")
    (inTransaction_begin run) stored fault with
    ⟨value, after, later, reached, kept, begun⟩ | ⟨reason, working, later, gone, unopened, failed⟩
  · rcases beginEffect_eq_some reached with ⟨inserted, rfl⟩
    have whole : persistEffect codec run permissions errors stored =
        addRowsEffect codec run.id permissions errors after := by
      rw [persistEffect, inserted]
      rfl
    have started : beginScan run ⟨stored, none, fault⟩ =
        (.ok ⟨run.id⟩, ⟨stored, some after, later⟩) := begun
    rw [whole, ← kept .rollback trivial]
    rcases rollbackOnError_outcome (inTransaction_addRows codec ⟨run.id⟩ permissions errors)
      stored after later with
      ⟨_, full, next, added, _, done⟩ | ⟨reason, working, next, cause, rolled, failed⟩
    · refine iff_of_true ?_ (fun _ => by rw [added]; exact fun impossible => nomatch impossible)
      rcases commit_outcome ⟨run.id⟩ none stored full next with
        ⟨last, committed⟩ | ⟨reason, last, failed⟩
      · left
        refine ⟨none, .idle full, ?_, ?_⟩
        · rw [Session.complete, whole, added]
          rfl
        · have ran : persistScanAtomic codec run permissions errors ⟨stored, none, fault⟩ =
              (.ok (), ⟨full, none, last⟩) :=
            (Operation.bind_of_ok started).trans ((Operation.bind_of_ok done).trans committed)
          exact perform_of_ok _ _ _ ran
      · have ended : step codec (Session.idle stored).toState
            (.persistScanAtomic run permissions errors) fault =
            (.error reason, ⟨⟨stored, none, none⟩, []⟩) :=
          perform_of_error _ _ _
            ((Operation.bind_of_ok started).trans ((Operation.bind_of_ok done).trans failed))
        exact (atomicStep_of_idle_error ended).mpr rfl
    · have ended : step codec (Session.idle stored).toState
          (.persistScanAtomic run permissions errors) fault =
          (.error reason, ⟨⟨stored, working, none⟩, []⟩) :=
        perform_of_error _ _ _
          ((Operation.bind_of_ok started).trans (Operation.bind_of_error failed))
      rw [atomicStep_of_idle_error ended, rolled]
      refine ⟨fun spared hit => absurd hit spared, fun effect hit => effect hit ?_⟩
      rcases cause with unopened | change
      · exact unopened
      · exact absurd hit (not_fails_of_changeFault change trivial)
  · have ended : step codec (Session.idle stored).toState
        (.persistScanAtomic run permissions errors) fault =
        (.error reason, ⟨⟨stored, working, none⟩, []⟩) :=
      perform_of_error _ _ _ (Operation.bind_of_error failed)
    rw [atomicStep_of_idle_error ended, gone]
    refine ⟨fun spared hit => absurd hit spared, fun effect hit => effect hit ?_⟩
    rw [persistEffect, beginEffect_eq_none.mp (unopened .rollback trivial hit)]
    rfl

theorem idle_deleteScanRun_iff (id : String) :
    AtomicStep codec (.idle stored) (.deleteScanRun id) fault ↔ ¬ Fails .commit fault := by
  rcases begin_then_body (databaseError "delete_scan_run BEGIN failed")
    (inTransaction_deleteRows id) stored fault with
    ⟨removed, after, later, reached, kept, begun⟩ | ⟨reason, working, later, gone, unopened, failed⟩
  · rw [← kept .commit trivial]
    by_cases fails : Fails .commit later
    · -- Nothing rolls back after this COMMIT.
      rcases commit_of_fails fails (some after) with ⟨text, stopped⟩
      have ended : step codec (Session.idle stored).toState (.deleteScanRun id) fault =
          (.error (databaseError "delete_scan_run COMMIT failed" text),
            ⟨⟨stored, some after, none⟩, []⟩) := by
        have ran : deleteScanRun id ⟨stored, none, fault⟩ =
            (.error (databaseError "delete_scan_run COMMIT failed" text),
              ⟨stored, some after, none⟩) := by
          rw [deleteScanRun_eq, Operation.bind_of_ok begun]
          exact Operation.bind_of_error (Operation.mapError_error _ stopped)
        exact perform_of_error _ _ _ ran
      rw [atomicStep_of_idle_error ended]
      exact iff_of_false (fun impossible => nomatch impossible) (not_not_intro fails)
    · refine iff_of_true (Or.inl ⟨some removed, .idle after, ?_, ?_⟩) fails
      · rw [Session.complete, Option.some.inj reached]
      · have ran : deleteScanRun id ⟨stored, none, fault⟩ =
            (.ok removed, ⟨after, none, passedFault later .commit⟩) := by
          rw [deleteScanRun_eq, Operation.bind_of_ok begun]
          exact Operation.bind_of_ok (Operation.mapError_ok _ (commit_of_open fails))
        exact perform_of_ok _ _ _ ran
  · have ended : step codec (Session.idle stored).toState (.deleteScanRun id) fault =
        (.error reason, ⟨⟨stored, working, none⟩, []⟩) := by
      have ran : deleteScanRun id ⟨stored, none, fault⟩ =
          (.error reason, ⟨stored, working, later⟩) := by
        rw [deleteScanRun_eq]
        exact Operation.bind_of_error failed
      exact perform_of_error _ _ _ ran
    have clean : ∀ statement : Statement TableChange, statement.Ends → ¬ Fails statement fault :=
      fun statement ends hit => nomatch unopened statement ends hit
    rw [atomicStep_of_idle_error ended, gone]
    exact iff_of_true (clean .rollback trivial) (clean .commit trivial)

/-- While a writer is alive no other transaction begins, and the writer is not
affected. -/
theorem writing_begin_atomic {reason : CoreError} {next : Option StoreFault} {Value : Type}
    {operation : StoreOperation Value} {reply : Value → Option Nat}
    {writersAfter : Value → List ScanWriter}
    (same : (Session.writing stored pending writer).abandon action = .writing stored pending writer)
    (begins : step codec (Session.writing stored pending writer).toState action fault =
      perform (Session.writing stored pending writer).toState fault operation reply writersAfter
        [writer])
    (failed : operation ⟨stored, some pending, fault⟩ = (.error reason, ⟨stored, some pending, next⟩)) :
    AtomicStep codec (.writing stored pending writer) action fault := by
  refine Or.inr ⟨reason, ?_⟩
  rw [begins, same]
  exact perform_of_error _ _ _ failed

/-- A single statement of a writer. -/
theorem writing_change_atomic {operation : StoreOperation Unit}
    {effect : Tables → Option (Unit × Tables)} (inside : InTransaction operation effect)
    (keeps : ErrorKeeps operation)
    (same : (Session.writing stored pending writer).abandon action = .writing stored pending writer)
    (completes : (Session.writing stored pending writer).complete codec action =
      (effect pending).map (fun done => (none, .writing stored done.2 writer)))
    (changes : step codec (Session.writing stored pending writer).toState action fault =
      perform (Session.writing stored pending writer).toState fault operation (fun _ => none)
        (fun _ => [writer]) [writer]) :
    AtomicStep codec (.writing stored pending writer) action fault := by
  rw [AtomicStep, changes, completes, same]
  have outcome := inside stored pending fault
  cases ran : operation ⟨stored, some pending, fault⟩ with
  | mk result after =>
      rw [ran] at outcome
      cases outcome with
      | done reached kept =>
          left
          exact ⟨none, .writing stored _ writer, by rw [reached]; rfl, perform_of_ok _ _ _ ran⟩
      | failed cause kept =>
          right
          rcases keeps _ _ _ ran with ⟨later, left⟩
          rw [left] at ran
          exact ⟨_, perform_of_error _ _ _ ran⟩

theorem errorKeeps_insertPermission (codec : RowCodec) (runId : String) (perm : ExplainedPermission) :
    ErrorKeeps (insertPermission codec runId perm) := by
  rw [insertPermission]
  split
  · exact errorKeeps_refuse _
  · exact (errorKeeps_change TableChange.insertPermission _).mapError _

theorem errorKeeps_insertError (runId : String) (error : ScanError) :
    ErrorKeeps (insertError runId error) := by
  rw [insertError]
  exact (errorKeeps_change TableChange.insertError _).mapError _

/-- A COMMIT of a writer needs no spared statement: dropping the writer rolls
back. -/
theorem writing_commit_atomic (finishedAt : Option String) :
    AtomicStep codec (.writing stored pending writer) (.commit 0 finishedAt) fault := by
  rcases commit_outcome writer finishedAt stored pending fault with
    ⟨later, done⟩ | ⟨reason, later, failed⟩
  · exact Or.inl ⟨none, .idle (finishEffect writer.runId finishedAt pending), rfl,
      perform_of_ok _ _ _ done⟩
  · exact Or.inr ⟨reason, perform_of_error _ _ _ failed⟩

theorem writing_dropWriter_iff :
    AtomicStep codec (.writing stored pending writer) (.dropWriter 0) fault ↔
      ¬ Fails .rollback fault := by
  by_cases fails : Fails .rollback fault
  · rcases rollback_of_fails fails (some pending) with ⟨reason, failed⟩
    have dropped : ScanWriter.drop ⟨stored, some pending, fault⟩ =
        (.ok (), ⟨stored, some pending, none⟩) := by rw [ScanWriter.drop, failed]
    have ended : step codec (Session.writing stored pending writer).toState (.dropWriter 0) fault =
        (.ok none, ⟨⟨stored, some pending, none⟩, []⟩) := perform_of_ok (fun _ => none) (fun _ => []) [] dropped
    refine iff_of_false ?_ (not_not_intro fails)
    rw [AtomicStep, ended]
    rintro (⟨reply, next, completes, same⟩ | ⟨_, impossible⟩)
    · cases completes
      cases same
    · cases impossible
  · have dropped : ScanWriter.drop ⟨stored, some pending, fault⟩ =
        (.ok (), ⟨stored, none, passedFault fault .rollback⟩) := by
      rw [ScanWriter.drop, rollback_of_open fails]
    exact iff_of_true (Or.inl ⟨none, .idle stored, rfl, perform_of_ok (fun _ => none) (fun _ => []) [] dropped⟩) fails

/-- Without the named writer nothing happens. -/
theorem atomicStep_of_no_writer (nothing : session.complete codec action = some (none, session))
    (still : step codec session.toState action fault = (.ok none, session.toState)) :
    AtomicStep codec session action fault :=
  Or.inl ⟨none, session, nothing, still⟩

/-- An action is atomic exactly when its failing statement is not one of those
nothing stands behind. -/
theorem atomicStep_iff (codec : RowCodec) (session : Session) (action : Action)
    (fault : Option StoreFault) :
    AtomicStep codec session action fault ↔ Spared codec fault session action := by
  cases session with
  | idle stored =>
      cases action with
      | beginScan run =>
          rw [idle_beginScan_iff, insertScanRunEffect_ne_none_iff]
          rfl
      | addPermission place perm => exact iff_of_true (atomicStep_of_no_writer rfl rfl) trivial
      | addError place error => exact iff_of_true (atomicStep_of_no_writer rfl rfl) trivial
      | commit place finishedAt => exact iff_of_true (atomicStep_of_no_writer rfl rfl) trivial
      | dropWriter place => exact iff_of_true (atomicStep_of_no_writer rfl rfl) trivial
      | persistScanAtomic run permissions errors =>
          rw [idle_persistScanAtomic_iff, persistEffect_ne_none_iff]
          rfl
      | deleteScanRun id => exact idle_deleteScanRun_iff id
  | writing stored pending writer =>
      cases action with
      | beginScan run =>
          refine iff_of_true ?_ trivial
          rcases begin_then_of_open (databaseError "scan transaction BEGIN failed")
            (fun _ => rollbackOnError (do
              insertScanRun run
              return (⟨run.id⟩ : ScanWriter))) stored pending fault with ⟨reason, later, failed⟩
          exact writing_begin_atomic rfl rfl failed
      | addPermission place perm =>
          refine iff_of_true ?_ trivial
          cases place with
          | zero =>
              exact writing_change_atomic (inTransaction_insertPermission codec writer.runId perm)
                (errorKeeps_insertPermission codec writer.runId perm) rfl rfl rfl
          | succ place => exact atomicStep_of_no_writer rfl rfl
      | addError place error =>
          refine iff_of_true ?_ trivial
          cases place with
          | zero =>
              exact writing_change_atomic (inTransaction_insertError writer.runId error)
                (errorKeeps_insertError writer.runId error) rfl rfl rfl
          | succ place => exact atomicStep_of_no_writer rfl rfl
      | commit place finishedAt =>
          refine iff_of_true ?_ trivial
          cases place with
          | zero => exact writing_commit_atomic finishedAt
          | succ place => exact atomicStep_of_no_writer rfl rfl
      | dropWriter place =>
          cases place with
          | zero => exact writing_dropWriter_iff
          | succ place => exact iff_of_true (atomicStep_of_no_writer rfl rfl) trivial
      | persistScanAtomic run permissions errors =>
          refine iff_of_true ?_ trivial
          rcases begin_then_of_open (databaseError "scan transaction BEGIN failed")
            (fun _ => rollbackOnError (do
              insertScanRun run
              return (⟨run.id⟩ : ScanWriter))) stored pending fault with ⟨reason, later, failed⟩
          exact writing_begin_atomic rfl rfl (Operation.bind_of_error failed)
      | deleteScanRun id =>
          refine iff_of_true ?_ trivial
          rcases begin_then_of_open (databaseError "delete_scan_run BEGIN failed")
            (fun _ => rollbackOnError (deleteRows id)) stored pending fault with
            ⟨reason, later, failed⟩
          have ran := (congrFun (deleteScanRun_eq id) _).trans (Operation.bind_of_error failed)
          exact writing_begin_atomic rfl rfl ran

/-- An atomic action leaves a session. -/
theorem session_of_atomicStep (atomic : AtomicStep codec session action fault) :
    ∃ next : Session, (step codec session.toState action fault).2 = next.toState := by
  rcases atomic with ⟨_, next, _, done⟩ | ⟨_, failed⟩
  · exact ⟨next, congrArg Prod.snd done⟩
  · exact ⟨session.abandon action, congrArg Prod.snd failed⟩

theorem toState_injective : Function.Injective Session.toState := by
  intro first second same
  cases first with
  | idle stored =>
      cases second with
      | idle _ =>
          cases same
          rfl
      | writing _ _ _ => cases same
  | writing stored pending writer =>
      cases second with
      | idle _ => cases same
      | writing _ _ _ =>
          cases same
          rfl

end Steps

/-! ## Runs -/

/-- From a session, a run is atomic exactly when each of its actions is spared. -/
theorem runAtomic_of_session (codec : RowCodec) (session : Session)
    (steps : List (Action × Option StoreFault)) :
    RunAtomic codec session.toState steps ↔ RunSpared codec session.toState steps := by
  induction steps generalizing session with
  | nil => exact Iff.rfl
  | cons first rest ih =>
      rcases first with ⟨action, fault⟩
      constructor
      · rintro ⟨⟨same, found, atomic⟩, further⟩
        cases toState_injective found
        rcases session_of_atomicStep atomic with ⟨next, left⟩
        refine ⟨⟨session, rfl, (atomicStep_iff codec session action fault).mp atomic⟩, ?_⟩
        rw [left] at further ⊢
        exact (ih next).mp further
      · rintro ⟨⟨same, found, spared⟩, further⟩
        cases toState_injective found
        have atomic := (atomicStep_iff codec session action fault).mpr spared
        rcases session_of_atomicStep atomic with ⟨next, left⟩
        refine ⟨⟨session, rfl, atomic⟩, ?_⟩
        rw [left] at further ⊢
        exact (ih next).mpr further

/-- A connection starts without a transaction and without a writer. -/
theorem runAtomic_iff (codec : RowCodec) (stored : Tables)
    (steps : List (Action × Option StoreFault)) :
    RunAtomic codec (Session.idle stored).toState steps ↔
      RunSpared codec (Session.idle stored).toState steps :=
  runAtomic_of_session codec (.idle stored) steps

def finishedRun : ScanRun where
  id := "2f1c"
  startedAt := "2026-01-01T00:00:00+00:00"
  finishedAt := some "2026-01-01T00:05:00+00:00"
  target := "D:\\Data"

def deletion : Action × Option StoreFault :=
  (.deleteScanRun "2f1c", some { statement := .commit, reason := "disk I/O error" })

/-- The COMMIT of a deletion fails: its transaction stays open, and the next run
cannot begin. -/
theorem failedDeletion_staysOpen :
    ¬ RunAtomic emptyEvidence (Session.idle { scanRuns := [finishedRun] }).toState [deletion] ∧
      (step emptyEvidence
        (step emptyEvidence (Session.idle { scanRuns := [finishedRun] }).toState deletion.1
          deletion.2).2 (.beginScan { finishedRun with id := "9b07" }) none).1 =
        .error (.database ("scan transaction BEGIN failed: " ++
          "cannot start a transaction within a transaction")) := by
  constructor
  · rintro ⟨⟨session, found, atomic⟩, _⟩
    rw [← toState_injective found] at atomic
    exact (idle_deleteScanRun_iff "2f1c").mp atomic ⟨_, rfl, rfl, rfl⟩
  · rfl

end Persistence
end Stars
