import Stars.Analysis.ScanRows
import Stars.Exporter.CsvOutcome
import Stars.FsScanner.Walker
import Stars.Persistence.Atomicity
import Stars.RiskEngine.Findings
import Stars.Storage.Steps

namespace Stars
namespace Cli

open AdResolver Analysis Exporter FsScanner Persistence RiskEngine Storage Operation

/-!
# A scan with its outputs

The scan of the command line evaluates what the walk hands over and passes every result on
at once: into one open database transaction, into the export file beside its target, and
to the risk rules.  At the end the transaction is committed first, and then the file is
renamed to its target.

Any call on the way can fail.  The scan stops at the first error, and the writers that are
still alive are dropped.  `scan_allOrNothing` says what is there afterwards.
-/

/-- One item of the walk as it is recorded. -/
inductive ScanItem where
  | row (result : ExplainedPermission)
  | error (error : ScanError)

/-- An error of the walk, under the path form of the rows. -/
def scanError (dfs : Option DfsEvaluation) (error : WalkError) : ScanError where
  path := some (match dfs.bind (forScannedObject error.path) with
    | some (requested, _) => requested
    | none => Validation.stripLongPathPrefix error.path)
  message := error.error.display

section Items

variable (context : ScanContext) (lookups : NameLookups) (toLowercase : String → String)

def scanItemsFrom : SidNameResolver → Option String → List WalkItem → List ScanItem
  | _, _, [] => []
  | resolver, firstRowPath, WalkItem.error found :: rest =>
      ScanItem.error (scanError context.dfs found) :: scanItemsFrom resolver firstRowPath rest
  | resolver, firstRowPath, WalkItem.object object :: rest =>
      let (own, dfs) := context.ownForm object
      let resolver := resolver.resolve lookups (context.askedBy own)
      let row := context.streamedRow toLowercase resolver.map firstRowPath own dfs
      ScanItem.row row.result :: scanItemsFrom resolver (firstRowPath.or (some row.path)) rest

/-- What a scan records of a walk, in the order of the walk. -/
def scanItems (items : List WalkItem) : List ScanItem :=
  scanItemsFrom context lookups toLowercase (context.startResolver lookups) none items

end Items

def ScanItem.row? : ScanItem → Option ExplainedPermission
  | .row found => some found
  | .error _ => none

def ScanItem.error? : ScanItem → Option ScanError
  | .row _ => none
  | .error found => some found

/-- What a scan writes to.  Without a database or an export there is no writer. -/
structure ScanOutputs where
  connection : StoreConnection
  writer : Option ScanWriter
  files : Files
  csv : Option CsvFileWriter
  risks : RiskAccumulator

/-- What happens while one item is recorded. -/
structure ItemTurn where
  store : Option StoreFault := none
  row : RowTurn := {}

/-- What happens while a scan runs.  A statement of each database call can be made to fail,
and the walk itself can break off. -/
structure ScanTurns where
  create : CreateTurns := {}
  beginning : Option StoreFault := none
  walkFailure : Option String := none
  cancellation : Option StoreFault := none
  commit : Option StoreFault := none
  finish : FinishTurns := {}
  dropWriter : Option StoreFault := none
  dropCsv : DropTurns := {}

/-- A step of a scan. -/
abbrev ScanStep : Type := Step ScanOutputs String

def persistFailed (reason : CoreError) : String := "Failed to persist scan: " ++ reason.display

def exportFailed (reason : CoreError) : String := "CSV export failed: " ++ reason.display

section Steps

variable (codec : RowCodec) (writeDiagnostic : PermissionDiagnostic → List Char)

def createCsv (target : Option ExportTarget) (turns : CreateTurns) : ScanStep := fun outputs =>
  match target with
  | none => (.ok (), outputs)
  | some target =>
      match runAction (CsvFileWriter.create target turns) outputs.files with
      | (.ok csv, files) => (.ok (), { outputs with csv := some csv, files := files })
      | (.error reason, files) => (.error (exportFailed reason), { outputs with files := files })

def beginRun (database : Bool) (run : ScanRun) (fault : Option StoreFault) : ScanStep :=
  fun outputs =>
    if database then
      match withFault fault (beginScan run) outputs.connection with
      | (.ok writer, after) =>
          (.ok (), { outputs with writer := some writer, connection := after })
      | (.error reason, after) =>
          (.error (persistFailed reason), { outputs with connection := after })
    else (.ok (), outputs)

/-- A call on the writer, where there is one. -/
def onWriter (call : ScanWriter → StoreOperation Unit) (fault : Option StoreFault) : ScanStep :=
  fun outputs =>
    match outputs.writer with
    | none => (.ok (), outputs)
    | some writer =>
        match withFault fault (call writer) outputs.connection with
        | (.ok _, after) => (.ok (), { outputs with connection := after })
        | (.error reason, after) =>
            (.error (persistFailed reason), { outputs with connection := after })

def writeCsv (result : ExplainedPermission) (turn : RowTurn) : ScanStep := fun outputs =>
  match outputs.csv with
  | none => (.ok (), outputs)
  | some csv =>
      match csv.write writeDiagnostic result turn outputs.files with
      | (.ok _, csv, files) => (.ok (), { outputs with csv := some csv, files := files })
      | (.error reason, csv, files) =>
          (.error (exportFailed reason), { outputs with csv := some csv, files := files })

def addRisks (result : ExplainedPermission) : ScanStep := fun outputs =>
  (.ok (), { outputs with risks := outputs.risks.add result.toEffectivePermission })

def recordError (error : ScanError) (fault : Option StoreFault) : ScanStep :=
  onWriter (fun writer => writer.addError error) fault

/-- A result goes into the database, then into the file, then to the rules. -/
def recordItem : ScanItem × ItemTurn → ScanStep
  | (.error error, turn) => recordError error turn.store
  | (.row result, turn) =>
      ((onWriter (fun writer => writer.addPermission codec result) turn.store).andThen
        (writeCsv writeDiagnostic result turn.row)).andThen (addRisks result)

def cancellationError : ScanError where
  path := none
  message := "Scan cancelled by user — results are partial"

/-- The walk has ended: it broke off, was cancelled, or is complete. -/
def endWalk (cancelled : Bool) (turns : ScanTurns) : ScanStep := fun outputs =>
  match turns.walkFailure with
  | some reason => (.error ("Scan task failed: " ++ reason), outputs)
  | none =>
      if cancelled then recordError cancellationError turns.cancellation outputs
      else (.ok (), outputs)

/-- The COMMIT consumes the writer. -/
def commitRun (finishedAt : String) (fault : Option StoreFault) : ScanStep := fun outputs =>
  let (result, after) :=
    onWriter (fun writer => writer.commit (some finishedAt)) fault outputs
  (result, { after with writer := none })

def finishCsv (turns : FinishTurns) : ScanStep := fun outputs =>
  match outputs.csv with
  | none => (.ok (), outputs)
  | some csv =>
      match runAction (csv.finish turns) outputs.files with
      | (.ok _, files) => (.ok (), { outputs with csv := none, files := files })
      | (.error reason, files) =>
          (.error (exportFailed reason), { outputs with csv := none, files := files })

/-- After an error the writers are dropped, the later one first. -/
def abandon (turns : ScanTurns) (outputs : ScanOutputs) : ScanOutputs :=
  let closed := match outputs.writer with
    | none => outputs.connection
    | some _ => (withFault turns.dropWriter ScanWriter.drop outputs.connection).2
  let files := match outputs.csv with
    | none => outputs.files
    | some csv => (runAction (csv.drop turns.dropCsv) outputs.files).2
  { outputs with connection := closed, writer := none, files := files, csv := none }

end Steps

/-- What a scan is asked to do. -/
structure ScanPlan where
  run : ScanRun
  finishedAt : String
  database : Bool
  target : Option ExportTarget

/-- The run as it is stored in the end. -/
def ScanPlan.finishedRun (plan : ScanPlan) : ScanRun :=
  { plan.run with finishedAt := some plan.finishedAt }

/-- The steps of a scan. -/
def scanSteps (codec : RowCodec) (writeDiagnostic : PermissionDiagnostic → List Char)
    (plan : ScanPlan) (turns : ScanTurns) (items : List (ScanItem × ItemTurn)) (cancelled : Bool) :
    ScanStep :=
  (createCsv plan.target turns.create).andThen
    ((beginRun plan.database plan.run turns.beginning).andThen
      ((Step.each (recordItem codec writeDiagnostic) items).andThen
        ((endWalk cancelled turns).andThen
          ((commitRun plan.finishedAt turns.commit).andThen (finishCsv turns.finish)))))

/-- A whole scan: its findings or its error, the database, and the files. -/
def runScan (codec : RowCodec) (writeDiagnostic : PermissionDiagnostic → List Char)
    (registry : RuleRegistry) (plan : ScanPlan) (turns : ScanTurns)
    (items : List (ScanItem × ItemTurn)) (cancelled : Bool) (connection : StoreConnection)
    (files : Files) : Except String (List RiskFinding) × StoreConnection × Files :=
  match scanSteps codec writeDiagnostic plan turns items cancelled
      ⟨connection, none, files, none, registry.accumulator⟩ with
  | (.ok _, outputs) => (.ok outputs.risks.finish, outputs.connection, outputs.files)
  | (.error reason, outputs) =>
      let closed := abandon turns outputs
      (.error reason, closed.connection, closed.files)

/-- The tables with one more run, its rows and its errors. -/
def withRun (tables : Tables) (run : ScanRun) (rows : List StoredRow) (errors : List ScanError) :
    Tables where
  scanRuns := tables.scanRuns ++ [run]
  effectivePermissions := tables.effectivePermissions ++ rows.map (PermissionRecord.mk run.id)
  scanErrors := tables.scanErrors ++ errors.map (ScanErrorRecord.mk run.id)

/-- The rows in which results are stored. -/
def StoredAs (codec : RowCodec) (results : List ExplainedPermission) (rows : List StoredRow) :
    Prop :=
  List.Forall₂ (fun result row => permissionRow codec result = .ok row) results rows

def addAll (registry : RuleRegistry) (results : List ExplainedPermission) : RiskAccumulator :=
  (results.map ExplainedPermission.toEffectivePermission).foldl RiskAccumulator.add
    registry.accumulator

section Runs

variable (codec : RowCodec) (writeDiagnostic : PermissionDiagnostic → List Char)
  (registry : RuleRegistry) (plan : ScanPlan) (stored : Tables)

/-- The transaction holds the run so far, and without a database there is none. -/
def StoreOpen (results : List ExplainedPermission) (errors : List ScanError)
    (outputs : ScanOutputs) : Prop :=
  (plan.database = false ∧ outputs.writer = none ∧ outputs.connection = ⟨stored, none, none⟩) ∨
    plan.database = true ∧ outputs.writer = some ⟨plan.run.id⟩ ∧
      plan.run.id ∉ stored.scanRuns.map ScanRun.id ∧
      ∃ rows, StoredAs codec results rows ∧
        outputs.connection = ⟨stored, some (withRun stored plan.run rows errors), none⟩

/-- The export file holds the header and the rows so far, beside an unchanged target. -/
structure CsvOpen (results : List ExplainedPermission) (outputs : ScanOutputs) : Prop where
  untouched : outputs.files.Untouched
  absent : plan.target = none → outputs.csv = none
  holds : plan.target ≠ none → ∃ csv, outputs.csv = some csv ∧
    csv.Holds (csvText writeDiagnostic results) outputs.files

/-- What is there while the walk goes on. -/
structure Recording (results : List ExplainedPermission) (errors : List ScanError)
    (outputs : ScanOutputs) : Prop where
  store : StoreOpen codec plan stored results errors outputs
  csv : CsvOpen writeDiagnostic plan results outputs
  risks : outputs.risks = addAll registry results

/-- Nothing is stored, and the target of the export is as it was. -/
structure Stopped (outputs : ScanOutputs) : Prop where
  stored : outputs.connection.committed = stored
  untouched : outputs.files.Untouched

end Runs

section Store

variable {codec : RowCodec} {plan : ScanPlan} {stored pending : Tables} {outputs : ScanOutputs}
  {writer : ScanWriter} {fault : Option StoreFault}

/-- A call inside the transaction has its effect, or the scan stops with nothing stored. -/
theorem leads_onWriter {call : ScanWriter → StoreOperation Unit}
    {effect : Tables → Option (Unit × Tables)} (inside : InTransaction (call writer) effect)
    (alive : outputs.writer = some writer)
    (connection : outputs.connection = ⟨stored, some pending, none⟩) :
    (onWriter call fault).Leads outputs
      (fun after => ∃ next, effect pending = some ((), next) ∧
        after = { outputs with connection := ⟨stored, some next, none⟩ })
      (fun _ after => after.connection.committed = stored ∧ after.files = outputs.files) := by
  have outcome := inside stored pending fault
  unfold Step.Leads onWriter withFault
  rw [alive, connection]
  dsimp only
  generalize call writer ⟨stored, some pending, fault⟩ = result at outcome ⊢
  cases outcome with
  | done reached _ => exact ⟨_, reached, rfl⟩
  | failed _ _ => exact ⟨rfl, rfl⟩

theorem onWriter_none (call : ScanWriter → StoreOperation Unit) (absent : outputs.writer = none) :
    onWriter call fault outputs = (.ok (), outputs) := by
  unfold onWriter
  rw [absent]

variable {results : List ExplainedPermission} {errors : List ScanError}

/-- Only the connection has changed. -/
def SameBut (outputs after : ScanOutputs) : Prop :=
  after = { outputs with connection := after.connection }

/-- A database call that failed has stored nothing. -/
def StoreFailed (stored : Tables) (outputs : ScanOutputs) (_ : String) (after : ScanOutputs) :
    Prop :=
  after.connection.committed = stored ∧ after.files = outputs.files

theorem storedAs_snoc {result : ExplainedPermission} {rows : List StoredRow} {row : StoredRow}
    (known : StoredAs codec results rows) (encoded : permissionRow codec result = .ok row) :
    StoredAs codec (results ++ [result]) (rows ++ [row]) :=
  List.rel_append known (.cons encoded .nil)

theorem withRun_insertPermission (run : ScanRun) (rows : List StoredRow) (row : StoredRow) :
    (withRun stored run rows errors).insertPermission ⟨run.id, row⟩ =
      withRun stored run (rows ++ [row]) errors := by
  simp only [withRun, Tables.insertPermission, List.map_append, List.map_cons, List.map_nil,
    List.append_assoc]

theorem withRun_insertError (run : ScanRun) (rows : List StoredRow) (error : ScanError) :
    (withRun stored run rows errors).insertError ⟨run.id, error⟩ =
      withRun stored run rows (errors ++ [error]) := by
  simp only [withRun, Tables.insertError, List.map_append, List.map_cons, List.map_nil,
    List.append_assoc]

theorem leads_recordError (known : StoreOpen codec plan stored results errors outputs)
    (error : ScanError) (fault : Option StoreFault) :
    (recordError error fault).Leads outputs
      (fun after => StoreOpen codec plan stored results (errors ++ [error]) after ∧
        SameBut outputs after)
      (StoreFailed stored outputs) := by
  unfold recordError
  rcases known with ⟨without, absent, idle⟩ | ⟨database, alive, fresh, rows, storedAs, connection⟩
  · rw [Step.Leads, onWriter_none _ absent]
    exact ⟨Or.inl ⟨without, absent, idle⟩, rfl⟩
  · have inside : InTransaction ((⟨plan.run.id⟩ : ScanWriter).addError error)
        (addErrorEffect plan.run.id error) := inTransaction_insertError plan.run.id error
    refine (leads_onWriter inside alive connection).mono ?_ (fun _ _ failed => failed)
    intro after reached
    rcases reached with ⟨next, effect, same⟩
    cases effect
    rw [same]
    refine ⟨Or.inr ⟨database, alive, fresh, rows, storedAs, ?_⟩, rfl⟩
    rw [withRun_insertError]

theorem leads_addPermission (known : StoreOpen codec plan stored results errors outputs)
    (result : ExplainedPermission) (fault : Option StoreFault) :
    (onWriter (fun writer => writer.addPermission codec result) fault).Leads outputs
      (fun after => StoreOpen codec plan stored (results ++ [result]) errors after ∧
        SameBut outputs after)
      (StoreFailed stored outputs) := by
  rcases known with ⟨without, absent, idle⟩ | ⟨database, alive, fresh, rows, storedAs, connection⟩
  · rw [Step.Leads, onWriter_none _ absent]
    exact ⟨Or.inl ⟨without, absent, idle⟩, rfl⟩
  · have inside : InTransaction ((⟨plan.run.id⟩ : ScanWriter).addPermission codec result)
        (addPermissionEffect codec plan.run.id result) :=
      inTransaction_insertPermission codec plan.run.id result
    refine (leads_onWriter inside alive connection).mono ?_ (fun _ _ failed => failed)
    intro after reached
    rcases reached with ⟨next, effect, same⟩
    rcases Option.map_eq_some_iff.mp effect with ⟨row, encoded, built⟩
    cases built
    rw [same]
    refine ⟨Or.inr ⟨database, alive, fresh, rows ++ [row], storedAs_snoc storedAs ?_, ?_⟩, rfl⟩
    · cases found : permissionRow codec result with
      | error reason =>
          rw [found] at encoded
          cases encoded
      | ok stored =>
          rw [found] at encoded
          cases encoded
          rfl
    · rw [withRun_insertPermission]

theorem insertScanRunEffect_eq {run : ScanRun} {tables after : Tables}
    (inserted : insertScanRunEffect run tables = some ((), after)) :
    run.id ∉ tables.scanRuns.map ScanRun.id ∧ after = withRun tables run [] [] := by
  have fresh : run.id ∉ tables.scanRuns.map ScanRun.id := by
    refine insertScanRunEffect_ne_none_iff.mp ?_
    rw [inserted]
    exact Option.some_ne_none _
  refine ⟨fresh, ?_⟩
  rw [insertScanRunEffect, Tables.insertScanRun, if_neg fresh] at inserted
  cases inserted
  simp only [withRun, List.map_nil, List.append_nil]

theorem leads_beginRun (idle : outputs.connection = ⟨stored, none, none⟩)
    (absent : outputs.writer = none) (fault : Option StoreFault) :
    (beginRun plan.database plan.run fault).Leads outputs
      (fun after => StoreOpen codec plan stored [] [] after ∧
        after = { outputs with connection := after.connection, writer := after.writer })
      (StoreFailed stored outputs) := by
  unfold beginRun Step.Leads
  cases database : plan.database with
  | false => exact ⟨Or.inl ⟨database, absent, idle⟩, rfl⟩
  | true =>
      have begun := begin_then_body (databaseError "scan transaction BEGIN failed")
        (inTransaction_begin plan.run) stored fault
      have same : beginScan plan.run ⟨stored, none, fault⟩ =
          (Operation.mapError (databaseError "scan transaction BEGIN failed") beginImmediate >>=
            fun _ => rollbackOnError (do
              insertScanRun plan.run
              return (⟨plan.run.id⟩ : ScanWriter))) ⟨stored, none, fault⟩ := rfl
      dsimp only
      rw [if_pos rfl, idle, withFault]
      dsimp only
      rw [same]
      rcases begun with ⟨writer, after, later, reached, _, done⟩ | ⟨reason, working, later, _, _, failed⟩
      · rw [done]
        rcases beginEffect_eq_some reached with ⟨inserted, writerOf⟩
        have run := insertScanRunEffect_eq inserted
        refine ⟨Or.inr ⟨database, congrArg some writerOf, run.1, [], .nil, ?_⟩, rfl⟩
        rw [run.2]
      · rw [failed]
        exact ⟨rfl, rfl⟩

/-- What a committed scan has stored: what the run as a whole would have stored in one
transaction. -/
def StoreDone (codec : RowCodec) (plan : ScanPlan) (stored : Tables)
    (results : List ExplainedPermission) (errors : List ScanError) (outputs : ScanOutputs) : Prop :=
  outputs.writer = none ∧ outputs.connection.working = none ∧
    outputs.connection.fault = none ∧
    if plan.database then
      plan.run.id ∉ stored.scanRuns.map ScanRun.id ∧
        ∃ rows, StoredAs codec results rows ∧ outputs.connection.committed =
          withRun stored plan.finishedRun rows errors
    else outputs.connection.committed = stored

/-- The finish time is set in the run's own row. -/
theorem finishEffect_withRun {run : ScanRun} (fresh : run.id ∉ stored.scanRuns.map ScanRun.id)
    (finishedAt : String) (rows : List StoredRow) :
    finishEffect run.id (some finishedAt) (withRun stored run rows errors) =
      withRun stored { run with finishedAt := some finishedAt } rows errors := by
  have others : stored.scanRuns.map (fun other =>
      if other.id = run.id then { other with finishedAt := some finishedAt } else other) =
      stored.scanRuns := by
    conv_rhs => rw [← List.map_id stored.scanRuns]
    refine List.map_congr_left (fun other listed => if_neg ?_)
    exact fun same => fresh (List.mem_map.mpr ⟨other, listed, same⟩)
  simp only [finishEffect, Tables.finishScanRun, withRun, List.map_append, others, List.map_cons,
    List.map_nil, if_true]

theorem leads_commitRun (known : StoreOpen codec plan stored results errors outputs)
    (fault : Option StoreFault) :
    (commitRun plan.finishedAt fault).Leads outputs
      (fun after => StoreDone codec plan stored results errors after ∧
        after = { outputs with connection := after.connection, writer := none })
      (StoreFailed stored outputs) := by
  unfold commitRun Step.Leads
  dsimp only
  rcases known with ⟨without, absent, idle⟩ | ⟨database, alive, fresh, rows, storedAs, connection⟩
  · rw [onWriter_none _ absent]
    refine ⟨⟨rfl, by rw [idle], by rw [idle], ?_⟩, rfl⟩
    rw [without, if_neg Bool.false_ne_true, idle]
  · unfold onWriter withFault
    rw [alive, connection]
    dsimp only
    rcases commit_outcome ⟨plan.run.id⟩ (some plan.finishedAt) stored
      (withRun stored plan.run rows errors) fault with ⟨later, done⟩ | ⟨reason, later, failed⟩
    · rw [done]
      refine ⟨⟨rfl, rfl, rfl, ?_⟩, rfl⟩
      rw [if_pos database]
      exact ⟨fresh, rows, storedAs, finishEffect_withRun fresh plan.finishedAt rows⟩
    · rw [failed]
      exact ⟨rfl, rfl⟩

end Store

section Csv

variable {writeDiagnostic : PermissionDiagnostic → List Char} {plan : ScanPlan}
  {outputs : ScanOutputs} {results : List ExplainedPermission}

theorem csvText_snoc (result : ExplainedPermission) :
    csvText writeDiagnostic (results ++ [result]) =
      csvText writeDiagnostic results ++ rowText writeDiagnostic result := by
  simp only [csvText, List.flatMap_append, List.flatMap_cons, List.flatMap_nil, List.append_nil,
    List.append_assoc]

theorem csvText_nil : csvText writeDiagnostic [] = headerText := by
  rw [csvText, List.flatMap_nil, List.append_nil]

/-- An export call that failed has changed neither the database nor the target. -/
def CsvFailed (outputs : ScanOutputs) (_ : String) (after : ScanOutputs) : Prop :=
  after.connection = outputs.connection ∧ after.writer = outputs.writer ∧ after.files.Untouched

theorem leads_createCsv (writeDiagnostic : PermissionDiagnostic → List Char)
    (untouched : outputs.files.Untouched) (absent : outputs.csv = none)
    (turns : CreateTurns) :
    (createCsv plan.target turns).Leads outputs
      (fun after => CsvOpen writeDiagnostic plan [] after ∧
        after = { outputs with files := after.files, csv := after.csv })
      (CsvFailed outputs) := by
  unfold createCsv Step.Leads
  cases target : plan.target with
  | none =>
      exact ⟨⟨untouched, fun _ => absent, fun present => absurd target present⟩, rfl⟩
  | some destination =>
      have created := CsvFileWriter.leads_create_any untouched destination turns
      rw [Storage.Leads] at created
      dsimp only
      generalize runAction (CsvFileWriter.create destination turns) outputs.files = outcome
        at created ⊢
      rcases outcome with ⟨reason | csv, files⟩
      · exact ⟨rfl, rfl, created.1⟩
      · refine ⟨⟨created.1, fun absent => ?_, fun _ => ⟨csv, rfl, ?_⟩⟩, rfl⟩
        · rw [target] at absent
          cases absent
        · rw [csvText_nil]
          exact created.2 csv rfl

theorem leads_writeCsv (known : CsvOpen writeDiagnostic plan results outputs)
    (result : ExplainedPermission) (turn : RowTurn) :
    (writeCsv writeDiagnostic result turn).Leads outputs
      (fun after => CsvOpen writeDiagnostic plan (results ++ [result]) after ∧
        after = { outputs with files := after.files, csv := after.csv })
      (CsvFailed outputs) := by
  unfold writeCsv Step.Leads
  dsimp only
  by_cases present : plan.target = none
  · rw [known.absent present]
    exact ⟨⟨known.untouched, fun _ => known.absent present,
      fun something => absurd present something⟩, rfl⟩
  · rcases known.holds present with ⟨csv, handle, holds⟩
    have kept := @untouched_write writeDiagnostic csv _ known.untouched result turn
    have grown := fun done =>
      @CsvFileWriter.holds_of_written csv _ _ writeDiagnostic result turn holds done
    rw [handle]
    dsimp only
    generalize csv.write writeDiagnostic result turn outputs.files = outcome at kept grown ⊢
    rcases outcome with ⟨reason | _, later, files⟩
    · exact ⟨rfl, rfl, kept⟩
    · refine ⟨⟨kept, fun absent => absurd absent present, fun _ => ⟨later, rfl, ?_⟩⟩, rfl⟩
      rw [csvText_snoc]
      exact grown rfl

/-- What a finished export has left: the whole file at its target, and without an export
nothing. -/
def CsvDone (writeDiagnostic : PermissionDiagnostic → List Char) (plan : ScanPlan)
    (results : List ExplainedPermission) (files : Files) : Prop :=
  match plan.target with
  | none => files.Untouched
  | some _ => files.target = some (csvText writeDiagnostic results) ∧ files.partialFile = none

theorem leads_finishCsv (known : CsvOpen writeDiagnostic plan results outputs)
    (turns : FinishTurns) :
    (finishCsv turns).Leads outputs
      (fun after => CsvDone writeDiagnostic plan results after.files ∧
        after = { outputs with files := after.files, csv := none })
      (fun reason after => (∃ error, reason = exportFailed error) ∧ after.files.Untouched ∧
        after = { outputs with files := after.files, csv := none }) := by
  unfold finishCsv Step.Leads CsvDone
  dsimp only
  cases target : plan.target with
  | none =>
      have missing := known.absent target
      rw [missing]
      refine ⟨known.untouched, ?_⟩
      rw [← missing]
  | some destination =>
      rcases known.holds (by rw [target]; exact Option.some_ne_none _) with ⟨csv, handle, holds⟩
      have finished := CsvFileWriter.leads_finish_any known.untouched holds turns
      rw [Storage.Leads] at finished
      rw [handle]
      dsimp only
      generalize runAction (csv.finish turns) outputs.files = outcome at finished ⊢
      rcases outcome with ⟨reason | _, files⟩
      · exact ⟨⟨reason, rfl⟩, finished, rfl⟩
      · exact ⟨finished, rfl⟩

end Csv

section Items

variable {codec : RowCodec} {writeDiagnostic : PermissionDiagnostic → List Char}
  {registry : RuleRegistry} {plan : ScanPlan} {stored : Tables} {outputs after : ScanOutputs}
  {results : List ExplainedPermission} {errors : List ScanError}

theorem StoreOpen.committed (known : StoreOpen codec plan stored results errors outputs) :
    outputs.connection.committed = stored := by
  rcases known with ⟨_, _, idle⟩ | ⟨_, _, _, _, _, connection⟩
  · rw [idle]
  · rw [connection]

theorem StoreOpen.congr (known : StoreOpen codec plan stored results errors outputs)
    (connection : after.connection = outputs.connection) (writer : after.writer = outputs.writer) :
    StoreOpen codec plan stored results errors after := by
  unfold StoreOpen at known ⊢
  rw [connection, writer]
  exact known

theorem CsvOpen.congr (known : CsvOpen writeDiagnostic plan results outputs)
    (files : after.files = outputs.files) (csv : after.csv = outputs.csv) :
    CsvOpen writeDiagnostic plan results after := by
  refine ⟨?_, ?_, ?_⟩
  · rw [files]
    exact known.untouched
  · rw [csv]
    exact known.absent
  · rw [files, csv]
    exact known.holds

theorem addAll_snoc (result : ExplainedPermission) :
    addAll registry (results ++ [result]) =
      (addAll registry results).add result.toEffectivePermission := by
  simp only [addAll, List.map_append, List.map_cons, List.map_nil, List.foldl_append,
    List.foldl_cons, List.foldl_nil]

/-- Where a database call fails, neither the tables nor the target have changed. -/
theorem StoreFailed.stopped {reason : String} (untouched : outputs.files.Untouched)
    (failed : StoreFailed stored outputs reason after) : Stopped stored after := by
  refine ⟨failed.1, ?_⟩
  rw [failed.2]
  exact untouched

theorem CsvFailed.stopped {reason : String} (committed : outputs.connection.committed = stored)
    (failed : CsvFailed outputs reason after) : Stopped stored after := by
  refine ⟨?_, failed.2.2⟩
  rw [failed.1]
  exact committed

theorem leads_error (known : Recording codec writeDiagnostic registry plan stored results errors
      outputs) (error : ScanError) (fault : Option StoreFault) :
    (recordError error fault).Leads outputs
      (Recording codec writeDiagnostic registry plan stored results (errors ++ [error]))
      (fun _ => Stopped stored) := by
  refine (leads_recordError known.store error fault).mono ?_ ?_
  · intro after done
    rcases done with ⟨store, same⟩
    refine ⟨store, known.csv.congr ?_ ?_, ?_⟩
    · rw [same]
    · rw [same]
    · rw [same]
      exact known.risks
  · intro reason after failed
    exact failed.stopped known.csv.untouched

/-- A result reaches the database, the file and the rules, or the scan stops. -/
theorem leads_row (known : Recording codec writeDiagnostic registry plan stored results errors
      outputs) (result : ExplainedPermission) (turn : ItemTurn) :
    (recordItem codec writeDiagnostic (.row result, turn)).Leads outputs
      (Recording codec writeDiagnostic registry plan stored (results ++ [result]) errors)
      (fun _ => Stopped stored) := by
  have inserted : (onWriter (fun writer => writer.addPermission codec result) turn.store).Leads
      outputs (fun after => StoreOpen codec plan stored (results ++ [result]) errors after ∧
        CsvOpen writeDiagnostic plan results after ∧ after.risks = addAll registry results)
      (fun _ => Stopped stored) := by
    refine (leads_addPermission known.store result turn.store).mono ?_ ?_
    · intro after done
      rcases done with ⟨store, same⟩
      refine ⟨store, known.csv.congr ?_ ?_, ?_⟩
      · rw [same]
      · rw [same]
      · rw [same]
        exact known.risks
    · intro reason after failed
      exact failed.stopped known.csv.untouched
  have written : ((onWriter (fun writer => writer.addPermission codec result) turn.store).andThen
      (writeCsv writeDiagnostic result turn.row)).Leads outputs
      (fun after => StoreOpen codec plan stored (results ++ [result]) errors after ∧
        CsvOpen writeDiagnostic plan (results ++ [result]) after ∧
        after.risks = addAll registry results)
      (fun _ => Stopped stored) := by
    refine Step.leads_sequence inserted ?_
    intro before held
    rcases held with ⟨store, csv, risks⟩
    refine (leads_writeCsv csv result turn.row).mono ?_ ?_
    · intro after done
      rcases done with ⟨longer, same⟩
      refine ⟨store.congr ?_ ?_, longer, ?_⟩
      · rw [same]
      · rw [same]
      · rw [same]
        exact risks
    · intro reason after failed
      exact failed.stopped store.committed
  refine Step.leads_sequence written ?_
  intro before held
  rcases held with ⟨store, csv, risks⟩
  refine ⟨store.congr rfl rfl, csv.congr rfl rfl, ?_⟩
  rw [addAll_snoc, ← risks]

def rowsOf (items : List ScanItem) : List ExplainedPermission := items.filterMap ScanItem.row?

def errorsOf (items : List ScanItem) : List ScanError := items.filterMap ScanItem.error?

theorem leads_item (before : List ScanItem) (item : ScanItem) (turn : ItemTurn)
    (known : Recording codec writeDiagnostic registry plan stored (rowsOf before) (errorsOf before)
      outputs) :
    (recordItem codec writeDiagnostic (item, turn)).Leads outputs
      (Recording codec writeDiagnostic registry plan stored (rowsOf (before ++ [item]))
        (errorsOf (before ++ [item]))) (fun _ => Stopped stored) := by
  rw [rowsOf, errorsOf, List.filterMap_append, List.filterMap_append]
  cases item with
  | row result =>
      have errors : errorsOf before ++ List.filterMap ScanItem.error? [.row result] =
          errorsOf before := List.append_nil _
      rw [show before.filterMap ScanItem.error? = errorsOf before from rfl, errors]
      exact leads_row known result turn
  | error error =>
      have rows : rowsOf before ++ List.filterMap ScanItem.row? [.error error] =
          rowsOf before := List.append_nil _
      rw [show before.filterMap ScanItem.row? = rowsOf before from rfl, rows]
      exact leads_error known error turn.store

/-- What is there after a part of the walk. -/
def RecordedUpTo (codec : RowCodec) (writeDiagnostic : PermissionDiagnostic → List Char)
    (registry : RuleRegistry) (plan : ScanPlan) (stored : Tables)
    (before : List (ScanItem × ItemTurn)) : ScanOutputs → Prop :=
  Recording codec writeDiagnostic registry plan stored (rowsOf (before.map Prod.fst))
    (errorsOf (before.map Prod.fst))

theorem leads_items (known : Recording codec writeDiagnostic registry plan stored [] [] outputs)
    (items : List (ScanItem × ItemTurn)) :
    (Step.each (recordItem codec writeDiagnostic) items).Leads outputs
      (RecordedUpTo codec writeDiagnostic registry plan stored items)
      (fun _ => Stopped stored) := by
  have keeps : ∀ (before : List (ScanItem × ItemTurn)) item outputs,
      RecordedUpTo codec writeDiagnostic registry plan stored before outputs →
        (recordItem codec writeDiagnostic item).Leads outputs
          (RecordedUpTo codec writeDiagnostic registry plan stored (before ++ [item]))
          (fun _ => Stopped stored) := by
    intro before item outputs held
    rcases item with ⟨item, turn⟩
    rw [RecordedUpTo, List.map_append]
    exact leads_item (before.map Prod.fst) item turn held
  exact Step.leads_each keeps items [] known

/-- The error of a cancelled walk, which is recorded last. -/
def cancellation (cancelled : Bool) : List ScanError :=
  if cancelled then [cancellationError] else []

theorem leads_endWalk (known : Recording codec writeDiagnostic registry plan stored results errors
      outputs) (cancelled : Bool) (turns : ScanTurns) :
    (endWalk cancelled turns).Leads outputs
      (Recording codec writeDiagnostic registry plan stored results
        (errors ++ cancellation cancelled)) (fun _ => Stopped stored) := by
  unfold endWalk
  cases failure : turns.walkFailure with
  | some reason => exact ⟨known.store.committed, known.csv.untouched⟩
  | none =>
      cases cancelled with
      | true => exact leads_error known cancellationError turns.cancellation
      | false =>
          have same : errors ++ cancellation false = errors := List.append_nil _
          rw [same]
          exact known

end Items

/-! ## One transaction, and the whole run in one transaction -/

section Whole

variable {codec : RowCodec} {stored : Tables} {run : ScanRun} {results : List ExplainedPermission}
  {rows before : List StoredRow}

theorem addPermissions_withRun (storedAs : StoredAs codec results rows) (before : List StoredRow) :
    effectOfEach (addPermissionEffect codec run.id) results (withRun stored run before []) =
      some ((), withRun stored run (before ++ rows) []) := by
  induction storedAs generalizing before with
  | nil => rw [effectOfEach, List.append_nil]
  | @cons result row results rows encoded _ further =>
      have added : addPermissionEffect codec run.id result (withRun stored run before []) =
          some ((), withRun stored run (before ++ [row]) []) := by
        rw [addPermissionEffect, encoded, ← withRun_insertPermission]
        rfl
      rw [effectOfEach, added, Option.bind_some, further, List.append_assoc,
        List.singleton_append]

theorem addErrors_withRun (rows : List StoredRow) (errors before : List ScanError) :
    effectOfEach (addErrorEffect run.id) errors (withRun stored run rows before) =
      some ((), withRun stored run rows (before ++ errors)) := by
  induction errors generalizing before with
  | nil => rw [effectOfEach, List.append_nil]
  | cons error errors further =>
      have added : addErrorEffect run.id error (withRun stored run rows before) =
          some ((), withRun stored run rows (before ++ [error])) := by
        rw [addErrorEffect, withRun_insertError]
      rw [effectOfEach, added, Option.bind_some, further, List.append_assoc,
        List.singleton_append]

/-- An operation that has an effect completes where no change fails. -/
theorem rollbackOnError_calm {Value : Type} {operation : StoreOperation Value}
    {effect : Tables → Option (Value × Tables)} (inside : InTransaction operation effect)
    {data after : Tables} {value : Value} {fault : Option StoreFault}
    (calm : ¬ ChangeFault fault) (reached : effect data = some (value, after)) :
    ∃ later, ControlKept fault later ∧ rollbackOnError operation ⟨stored, some data, fault⟩ =
      (.ok value, ⟨stored, some after, later⟩) := by
  rcases rollbackOnError_outcome inside stored data fault with
    ⟨other, further, later, same, kept, done⟩ | ⟨reason, working, later, cause, _, _⟩
  · rw [reached] at same
    cases same
    exact ⟨later, kept, done⟩
  · rcases cause with absent | change
    · rw [reached] at absent
      cases absent
    · exact absurd change calm

/-- Where nothing fails, a complete run is stored as it is. -/
theorem persistScanAtomic_withRun (fresh : run.id ∉ stored.scanRuns.map ScanRun.id)
    (storedAs : StoredAs codec results rows) (errors : List ScanError) :
    withFault none (persistScanAtomic codec run results errors) ⟨stored, none, none⟩ =
      (.ok (), ⟨withRun stored run rows errors, none, none⟩) := by
  have still : ¬ ChangeFault (none : Option StoreFault) := by
    intro change
    rcases change with ⟨_, _, impossible, _⟩
    cases impossible
  have never : ∀ statement : Statement TableChange, ¬ Fails statement (none : Option StoreFault) := by
    intro statement fails
    rcases fails with ⟨_, impossible, _⟩
    cases impossible
  have inserted : beginEffect run stored = some (⟨run.id⟩, withRun stored run [] []) := by
    rw [beginEffect, insertScanRunEffect, Tables.insertScanRun, if_neg fresh]
    simp only [withRun, List.map_nil, List.append_nil]
    rfl
  rcases rollbackOnError_calm (inTransaction_begin run) still inserted with ⟨first, kept, begun⟩
  have opened : beginScan run ⟨stored, none, none⟩ =
      (.ok ⟨run.id⟩, ⟨stored, some (withRun stored run [] []), first⟩) := by
    rw [beginScan, bind_of_ok (mapError_ok _ (beginImmediate_of_idle (never .begin)))]
    exact begun
  have added : addRowsEffect codec run.id results errors (withRun stored run [] []) =
      some ((), withRun stored run rows errors) := by
    rw [addRowsEffect, addPermissions_withRun storedAs, Option.bind_some]
    exact addErrors_withRun rows errors []
  have calm : ¬ ChangeFault first := fun change => still (kept.change change)
  rcases rollbackOnError_calm (inTransaction_addRows codec ⟨run.id⟩ results errors) calm added with
    ⟨second, keptAfter, filled⟩
  have passes : ¬ Fails .commit second := by
    intro fails
    exact never .commit ((kept.trans keptAfter).ends .commit trivial |>.mp fails)
  have committed : (⟨run.id⟩ : ScanWriter).commit none
      ⟨stored, some (withRun stored run rows errors), second⟩ =
      (.ok (), ⟨withRun stored run rows errors, none, passedFault second .commit⟩) := by
    have closing : Storage.commit (⟨stored, some (withRun stored run rows errors), second⟩ :
        StoreConnection) =
        (.ok (), ⟨withRun stored run rows errors, none, passedFault second .commit⟩) :=
      commit_of_open passes
    rw [commit_eq, finishWith, rollbackOnError,
      bind_of_ok (rfl : (pure () : StoreOperation Unit) _ = (.ok (), _)), mapError_ok _ closing]
  rw [withFault, persistScanAtomic]
  dsimp only
  rw [bind_of_ok opened, bind_of_ok filled, committed]

end Whole

/-! ## The end of a scan -/

section Ending

variable {codec : RowCodec} {writeDiagnostic : PermissionDiagnostic → List Char}
  {registry : RuleRegistry} {plan : ScanPlan} {stored : Tables} {outputs : ScanOutputs}
  {results : List ExplainedPermission} {errors : List ScanError}

theorem rollback_committed (connection : StoreConnection) :
    (rollback connection).2.committed = connection.committed := by
  rcases connection with ⟨committed, working, fault⟩
  by_cases fails : Fails .rollback fault
  · rcases rollback_of_fails fails working with ⟨reason, failed⟩
    rw [failed]
  · unfold rollback
    rw [execute_of_not_fails fails]
    cases working with
    | none => rfl
    | some data => rfl

/-- Dropping the writer of the database stores nothing. -/
theorem abandon_committed (turns : ScanTurns) :
    (abandon turns outputs).connection.committed = outputs.connection.committed := by
  unfold abandon
  cases writer : outputs.writer with
  | none => rfl
  | some _ => exact rollback_committed _

theorem abandon_connection (absent : outputs.writer = none) (turns : ScanTurns) :
    (abandon turns outputs).connection = outputs.connection := by
  unfold abandon
  rw [absent]

/-- Dropping the writer of the export leaves the target alone. -/
theorem abandon_untouched (untouched : outputs.files.Untouched) (turns : ScanTurns) :
    (abandon turns outputs).files.Untouched := by
  unfold abandon
  cases csv : outputs.csv with
  | none => exact untouched
  | some csv => exact CsvFileWriter.leads_drop_any untouched turns.dropCsv

/-- The database as one call that stores the whole run leaves it. -/
def StoredAtOnce (codec : RowCodec) (plan : ScanPlan) (stored : Tables)
    (results : List ExplainedPermission) (errors : List ScanError) (connection : StoreConnection) :
    Prop :=
  if plan.database then
    (∃ rows, StoredAs codec results rows ∧
      connection.committed = withRun stored plan.finishedRun rows errors) ∧
    withFault none (persistScanAtomic codec plan.finishedRun results errors)
      ⟨stored, none, none⟩ = (.ok (), connection)
  else connection = ⟨stored, none, none⟩

theorem StoreDone.atOnce (known : StoreDone codec plan stored results errors outputs) :
    StoredAtOnce codec plan stored results errors outputs.connection := by
  rcases known with ⟨_, idle, spent, held⟩
  have parts : outputs.connection = ⟨outputs.connection.committed, none, none⟩ := by
    rw [← idle, ← spent]
  unfold StoredAtOnce
  cases database : plan.database with
  | false =>
      rw [database, if_neg Bool.false_ne_true] at held
      rw [if_neg Bool.false_ne_true, parts, held]
  | true =>
      rw [database, if_pos rfl] at held
      rcases held with ⟨fresh, rows, storedAs, committed⟩
      rw [if_pos rfl]
      refine ⟨⟨rows, storedAs, committed⟩, ?_⟩
      have unused : plan.finishedRun.id ∉ stored.scanRuns.map ScanRun.id := fresh
      rw [parts, committed]
      exact persistScanAtomic_withRun unused storedAs errors

/-- The end of the steps when there was an error: nothing is stored, or everything is and
the export failed. -/
def EndedEarly (codec : RowCodec) (plan : ScanPlan) (stored : Tables)
    (results : List ExplainedPermission) (errors : List ScanError) (reason : String)
    (outputs : ScanOutputs) : Prop :=
  Stopped stored outputs ∨
    StoreDone codec plan stored results errors outputs ∧ outputs.files.Untouched ∧
      ∃ error, reason = exportFailed error

theorem leads_commit_finish (known : Recording codec writeDiagnostic registry plan stored results
      errors outputs) (turns : ScanTurns) :
    ((commitRun plan.finishedAt turns.commit).andThen (finishCsv turns.finish)).Leads outputs
      (fun after => StoreDone codec plan stored results errors after ∧
        CsvDone writeDiagnostic plan results after.files ∧ after.risks = addAll registry results)
      (EndedEarly codec plan stored results errors) := by
  have committed : (commitRun plan.finishedAt turns.commit).Leads outputs
      (fun after => StoreDone codec plan stored results errors after ∧
        CsvOpen writeDiagnostic plan results after ∧ after.risks = addAll registry results)
      (EndedEarly codec plan stored results errors) := by
    refine (leads_commitRun known.store turns.commit).mono ?_ ?_
    · intro after done
      rcases done with ⟨store, same⟩
      refine ⟨store, known.csv.congr ?_ ?_, ?_⟩
      · rw [same]
      · rw [same]
      · rw [same]
        exact known.risks
    · intro reason after failed
      exact Or.inl (failed.stopped known.csv.untouched)
  refine Step.leads_sequence committed ?_
  intro before held
  rcases held with ⟨store, csv, risks⟩
  refine (leads_finishCsv csv turns.finish).mono ?_ ?_
  · intro after done
    rcases done with ⟨placed, same⟩
    refine ⟨?_, placed, ?_⟩
    · rw [same]
      exact store
    · rw [same]
      exact risks
  · intro reason after failed
    rcases failed with ⟨words, untouched, same⟩
    refine Or.inr ⟨?_, untouched, words⟩
    rw [same]
    exact store

/-- The steps of a scan, from an idle connection and no files of its own. -/
theorem leads_scanSteps {files : Files} (untouched : files.Untouched) (turns : ScanTurns)
    (items : List (ScanItem × ItemTurn)) (cancelled : Bool) :
    (scanSteps codec writeDiagnostic plan turns items cancelled).Leads
      ⟨⟨stored, none, none⟩, none, files, none, registry.accumulator⟩
      (fun after =>
        StoreDone codec plan stored (rowsOf (items.map Prod.fst))
          (errorsOf (items.map Prod.fst) ++ cancellation cancelled) after ∧
        CsvDone writeDiagnostic plan (rowsOf (items.map Prod.fst)) after.files ∧
        after.risks = addAll registry (rowsOf (items.map Prod.fst)))
      (EndedEarly codec plan stored (rowsOf (items.map Prod.fst))
        (errorsOf (items.map Prod.fst) ++ cancellation cancelled)) := by
  have created : (createCsv plan.target turns.create).Leads
      ⟨⟨stored, none, none⟩, none, files, none, registry.accumulator⟩
      (fun after => CsvOpen writeDiagnostic plan [] after ∧
        after.connection = ⟨stored, none, none⟩ ∧ after.writer = none ∧
          after.risks = addAll registry []) (fun _ => Stopped stored) := by
    refine (leads_createCsv writeDiagnostic untouched rfl turns.create).mono ?_ ?_
    · intro after done
      rcases done with ⟨csv, same⟩
      refine ⟨csv, ?_, ?_, ?_⟩
      · rw [same]
      · rw [same]
      · rw [same]
        rfl
    · intro reason after failed
      exact failed.stopped rfl
  have early : ∀ reason after, Stopped stored after →
      EndedEarly codec plan stored (rowsOf (items.map Prod.fst))
        (errorsOf (items.map Prod.fst) ++ cancellation cancelled) reason after :=
    fun _ _ stopped => Or.inl stopped
  refine Step.leads_sequence (created.mono (fun _ done => done) early) ?_
  intro opened held
  rcases held with ⟨csv, connection, absent, risks⟩
  have begun : (beginRun plan.database plan.run turns.beginning).Leads opened
      (Recording codec writeDiagnostic registry plan stored [] []) (fun _ => Stopped stored) := by
    have opening : (beginRun plan.database plan.run turns.beginning).Leads opened
        (fun after => StoreOpen codec plan stored [] [] after ∧
          after = { opened with connection := after.connection, writer := after.writer })
        (StoreFailed stored opened) :=
      leads_beginRun connection absent turns.beginning
    refine opening.mono ?_ ?_
    · intro after done
      rcases done with ⟨store, only⟩
      refine ⟨store, csv.congr ?_ ?_, ?_⟩
      · rw [only]
      · rw [only]
      · rw [only]
        exact risks
    · intro reason after failed
      exact failed.stopped csv.untouched
  refine Step.leads_sequence (begun.mono (fun _ done => done) early) ?_
  intro recording known
  refine Step.leads_sequence ((leads_items known items).mono (fun _ done => done) early) ?_
  intro walked recorded
  refine Step.leads_sequence
    ((leads_endWalk recorded cancelled turns).mono (fun _ done => done) early) ?_
  intro ended complete
  exact leads_commit_finish complete turns

end Ending

/-! ## A scan of a walk -/

def objectsOf (walk : List WalkItem) : List FileSystemObject :=
  walk.filterMap (fun
    | .object found => some found
    | .error _ => none)

def failuresOf (walk : List WalkItem) : List WalkError :=
  walk.filterMap (fun
    | .object _ => none
    | .error found => some found)

section Walk

variable (context : ScanContext) (lookups : NameLookups) (toLowercase : String → String)

theorem rowsOf_scanItemsFrom (walk : List WalkItem) (resolver : SidNameResolver)
    (firstRowPath : Option String) :
    rowsOf (scanItemsFrom context lookups toLowercase resolver firstRowPath walk) =
      (context.streamedRowsFrom lookups toLowercase resolver firstRowPath (objectsOf walk)).map
        ScanRow.result := by
  induction walk generalizing resolver firstRowPath with
  | nil => rfl
  | cons item walk further =>
      cases item with
      | error found => exact further resolver firstRowPath
      | object found => exact congrArg (List.cons _) (further _ _)

theorem errorsOf_scanItemsFrom (walk : List WalkItem) (resolver : SidNameResolver)
    (firstRowPath : Option String) :
    errorsOf (scanItemsFrom context lookups toLowercase resolver firstRowPath walk) =
      (failuresOf walk).map (scanError context.dfs) := by
  induction walk generalizing resolver firstRowPath with
  | nil => rfl
  | cons item walk further =>
      cases item with
      | error found => exact congrArg (List.cons _) (further _ _)
      | object found => exact further _ _

/-- The rows of a walk. -/
def walkRows (walk : List WalkItem) : List ExplainedPermission :=
  (context.streamedRows lookups toLowercase (objectsOf walk)).map ScanRow.result

/-- The errors of a walk, and the mark of a cancelled one. -/
def walkErrors (walk : List WalkItem) (cancelled : Bool) : List ScanError :=
  (failuresOf walk).map (scanError context.dfs) ++ cancellation cancelled

/-- Every item of a walk with what happens while it is recorded. -/
def inTurn (turn : Nat → ItemTurn) (items : List ScanItem) : List (ScanItem × ItemTurn) :=
  items.zipIdx.map (fun (item, place) => (item, turn place))

theorem items_inTurn (turn : Nat → ItemTurn) (items : List ScanItem) :
    (inTurn turn items).map Prod.fst = items := by
  rw [inTurn, List.map_map]
  exact List.zipIdx_map_fst 0 items

end Walk

/-- What a scan leaves behind, over what was stored before it.  Nothing of it is stored and
the target is as it was; or everything is stored, and the export is complete or the target
is as it was. -/
def AllOrNothing (codec : RowCodec) (writeDiagnostic : PermissionDiagnostic → List Char)
    (registry : RuleRegistry) (plan : ScanPlan) (stored : Tables)
    (rows : List ExplainedPermission) (errors : List ScanError) :
    Except String (List RiskFinding) × StoreConnection × Files → Prop
  | (.error reason, connection, files) =>
      files.Untouched ∧ (connection.committed = stored ∨
        StoredAtOnce codec plan stored rows errors connection ∧
          ∃ error, reason = exportFailed error)
  | (.ok findings, connection, files) =>
      StoredAtOnce codec plan stored rows errors connection ∧
        CsvDone writeDiagnostic plan rows files ∧
        findings = registry.evaluateAll (rows.map ExplainedPermission.toEffectivePermission)

theorem scan_allOrNothing (codec : RowCodec) (writeDiagnostic : PermissionDiagnostic → List Char)
    (context : ScanContext) (lookups : NameLookups) (toLowercase : String → String)
    (plan : ScanPlan) (turns : ScanTurns) (turn : Nat → ItemTurn) (walk : List WalkItem)
    (cancelled : Bool) (stored : Tables) (target partialFile : Option (List Char)) :
    AllOrNothing codec writeDiagnostic (.withDefaults toLowercase) plan stored
      (walkRows context lookups toLowercase walk) (walkErrors context walk cancelled)
      (runScan codec writeDiagnostic (.withDefaults toLowercase) plan turns
        (inTurn turn (scanItems context lookups toLowercase walk)) cancelled
        ⟨stored, none, none⟩ (Files.start target partialFile)) := by
  have untouched : (Files.start target partialFile).Untouched := rfl
  have leads := @leads_scanSteps codec writeDiagnostic (.withDefaults toLowercase) plan stored _
    untouched turns (inTurn turn (scanItems context lookups toLowercase walk)) cancelled
  have rows : rowsOf (scanItems context lookups toLowercase walk) =
      walkRows context lookups toLowercase walk :=
    rowsOf_scanItemsFrom context lookups toLowercase walk _ none
  have errors : errorsOf (scanItems context lookups toLowercase walk) ++ cancellation cancelled =
      walkErrors context walk cancelled :=
    congrArg (· ++ cancellation cancelled)
      (errorsOf_scanItemsFrom context lookups toLowercase walk _ none)
  rw [items_inTurn, rows, errors] at leads
  unfold Step.Leads at leads
  unfold runScan
  generalize scanSteps codec writeDiagnostic plan turns _ cancelled _ = outcome at leads ⊢
  rcases outcome with ⟨reason | _, after⟩
  · rcases leads with stopped | ⟨done, kept, words⟩
    · refine ⟨abandon_untouched stopped.untouched turns, Or.inl ?_⟩
      exact (abandon_committed turns).trans stopped.stored
    · refine ⟨abandon_untouched kept turns, Or.inr ⟨?_, words⟩⟩
      rw [abandon_connection done.1]
      exact done.atOnce
  · rcases leads with ⟨done, placed, risks⟩
    refine ⟨done.atOnce, placed, ?_⟩
    rw [risks, ← evaluateStreamed_eq (rowwise_withDefaults toLowercase)]
    rfl

end Cli
end Stars
