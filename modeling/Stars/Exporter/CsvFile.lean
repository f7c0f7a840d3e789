import Stars.Core.Error
import Stars.Exporter.Csv
import Stars.Storage.FileAccess
import Stars.Text.Records

namespace Stars
namespace Exporter

open Storage

/-!
# The CSV file of a scan

The rows go to a file beside the target as they come, and the file is renamed to the
target at the end.  A writer that is dropped removes the file beside the target.  Other
processes may create the target at any time.

The rows pass through the writer of the `csv` crate, which is not part of this repository.
`CsvRowWriter` follows what the crate documents: a record that is reported as written is
in the file or in the buffer, letter by letter behind what was there; when the buffer is
written out is up to the crate; a writer that is dropped writes its buffer out and ignores
an error of that.  About a record whose write is reported as failed nothing is documented.
Some front of it has been taken in and a part of this may have left the buffer, so both are
left to the turn, as is what the crate puts between such a front and the next record.
-/

inductive ExportTarget where
  /-- Refuses a file that exists. -/
  | file (path : String)
  | fileOverwrite (path : String)

def ExportTarget.path : ExportTarget → String
  | .file path => path
  | .fileOverwrite path => path

def ExportTarget.overwrite : ExportTarget → Bool
  | .file _ => false
  | .fileOverwrite _ => true

def recordText (record : List String) : List Char :=
  Text.writeRecord (record.map String.toList)

def headerText : List Char := recordText headers

section Rows

-- The derived serialization of one marker.
variable (writeDiagnostic : PermissionDiagnostic → List Char)

def rowText (p : ExplainedPermission) : List Char := recordText (recordFor writeDiagnostic p)

/-- The complete file. -/
def csvText (permissions : List ExplainedPermission) : List Char :=
  headerText ++ permissions.flatMap (rowText writeDiagnostic)

end Rows

structure CsvRowWriter where
  pending : List Char := []
  /-- The last record was not taken in as a whole. -/
  cut : Bool := false

/-- What happens when the buffer is written out during a record. -/
structure FlushTurn extends Turn where
  /-- How many letters have left the buffer before the write that fails. -/
  gone : Nat := 0
  /-- How many letters the buffer holds at that write. -/
  held : Nat := 0

/-- What happens when one row is written. -/
structure RowTurn where
  unserialized : Option String := none
  /-- What stands between a cut record and this one. -/
  joint : List Char := []
  flush : Option FlushTurn := none

namespace CsvRowWriter

/-- A write that fails leaves some piece of the buffer and the text. -/
def put (writer : CsvRowWriter) (text : List Char) (flush : Option FlushTurn) (files : Files) :
    Except String Unit × CsvRowWriter × Files :=
  let whole := writer.pending ++ text
  match flush with
  | none => (.ok (), { pending := whole }, files)
  | some turn =>
      match runAction (writePartial turn.toTurn (whole.take turn.taken)) files with
      | (.ok (), after) => (.ok (), { pending := whole.drop turn.taken }, after)
      | (.error reason, after) =>
          (.error reason, { pending := (whole.drop turn.gone).take turn.held, cut := true }, after)

/-- A buffer that is dropped is written out, and an error of that is ignored. -/
def release {Error : Type} (writer : CsvRowWriter) (turn : Turn) : FileAction Error Unit :=
  ignored (writePartial turn writer.pending)

def new (flush : Option FlushTurn) (released : Turn) : FileAction String CsvRowWriter :=
  ExceptT.mk (fun files =>
    match ({} : CsvRowWriter).put headerText flush files with
    | (.ok (), writer, after) => (.ok writer, after)
    | (.error reason, writer, after) =>
        (.error reason, (runAction (writer.release released : FileAction String Unit) after).2))

def write (writeDiagnostic : PermissionDiagnostic → List Char) (writer : CsvRowWriter)
    (p : ExplainedPermission) (turn : RowTurn) (files : Files) :
    Except String Unit × CsvRowWriter × Files :=
  match turn.unserialized with
  | some reason => (.error reason, writer, files)
  | none =>
      let joint := if writer.cut then turn.joint else []
      writer.put (joint ++ rowText writeDiagnostic p) turn.flush files

def finish (writer : CsvRowWriter) (flush released : Turn) : FileAction String Unit :=
  tryCatch (writePartial flush writer.pending) (fun reason => do
    writer.release released
    throw reason)

end CsvRowWriter

structure CreateTurns where
  check : Turn := {}
  opening : Turn := {}
  header : Option FlushTurn := none
  released : Turn := {}

structure DropTurns where
  rows : Turn := {}
  check : Turn := {}
  remove : Turn := {}

structure FinishTurns where
  flush : Turn := {}
  released : Turn := {}
  sync : Turn := {}
  check : Turn := {}
  rename : Turn := {}
  drop : DropTurns := {}

structure CsvFileWriter where
  rows : Option CsvRowWriter
  path : String
  overwrite : Bool

def writeError (reason : String) : CoreError := .exportFailed s!"CSV write error: {reason}"

/-- `!overwrite && target.exists()`: nothing is asked where a file may be replaced. -/
def inTheWay (overwrite : Bool) (turn : Turn) : FileAction CoreError Bool :=
  if overwrite then pure false else present turn Files.target

namespace CsvFileWriter

/-- The steps of `create` behind the check of the target. -/
def startPartial (target : ExportTarget) (turns : CreateTurns) :
    FileAction CoreError CsvFileWriter := do
  let path := target.path
  ExceptT.adapt
    (fun reason => CoreError.exportFailed
      s!"Cannot open export file '{path}.partial' for overwrite: {reason}")
    (openPartial turns.opening)
  let rows ← ExceptT.adapt writeError (CsvRowWriter.new turns.header turns.released)
  pure { rows := some rows, path := path, overwrite := target.overwrite }

def create (target : ExportTarget) (turns : CreateTurns) : FileAction CoreError CsvFileWriter := do
  let path := target.path
  let found ← inTheWay target.overwrite turns.check
  if found then
    throw (.exportFailed s!"Cannot create export file '{path}': it already exists")
  else
    startPartial target turns

def write (writeDiagnostic : PermissionDiagnostic → List Char) (writer : CsvFileWriter)
    (p : ExplainedPermission) (turn : RowTurn) (files : Files) :
    Except CoreError Unit × CsvFileWriter × Files :=
  match writer.rows with
  | some rows =>
      match rows.write writeDiagnostic p turn files with
      | (result, rows, after) =>
          (result.mapError writeError, { writer with rows := some rows }, after)
  | none => (.error (.exportFailed "CSV export already finished"), writer, files)

/-- The target is looked for once more, and the file renamed. -/
def place (writer : CsvFileWriter) (turns : FinishTurns) : FileAction CoreError Unit := do
  let path := writer.path
  let found ← inTheWay writer.overwrite turns.check
  if found then
    throw (.exportFailed
      s!"Cannot create export file '{path}': it was created by someone else during the scan")
  else
    ExceptT.adapt
      (fun reason => CoreError.exportFailed s!"Cannot move the export to '{path}': {reason}")
      (renamePartial turns.rename)

/-- The steps of `finish` up to the drop of the writer. -/
def moveToTarget (writer : CsvFileWriter) (turns : FinishTurns) : FileAction CoreError Unit :=
  match writer.rows with
  | none => throw (.exportFailed "CSV export already finished")
  | some rows => do
      ExceptT.adapt writeError (rows.finish turns.flush turns.released)
      ExceptT.adapt writeError (syncPartial turns.sync)
      writer.place turns

/-- `rows.take()` -/
def releaseRows (writer : CsvFileWriter) (turn : Turn) : FileAction CoreError Unit :=
  match writer.rows with
  | some rows => rows.release turn
  | none => pure ()

def drop (writer : CsvFileWriter) (turns : DropTurns) : FileAction CoreError Unit := do
  writer.releaseRows turns.rows
  let found ← present turns.check Files.partialFile
  if found then ignored (removePartial turns.remove) else pure ()

/-- The writer is dropped on every way out. -/
def finish (writer : CsvFileWriter) (turns : FinishTurns) : FileAction CoreError Unit :=
  closing (writer.moveToTarget turns) (drop { writer with rows := none } turns.drop)

end CsvFileWriter

inductive Ending where
  | finish (turns : FinishTurns)
  | drop (turns : DropTurns)

/-- What is called on a writer, and what happens meanwhile.  Without an ending the
writer is still in use. -/
structure Life where
  target : ExportTarget
  create : CreateTurns := {}
  rows : List (ExplainedPermission × RowTurn) := []
  ending : Option Ending := none

inductive Stage where
  | refused (error : CoreError)
  | writing (writer : CsvFileWriter)
  | finished (result : Except CoreError Unit)
  | dropped

section Lives

variable (writeDiagnostic : PermissionDiagnostic → List Char)

/-- The rows are written one by one, whatever the earlier writes returned. -/
def writeAll (writer : CsvFileWriter) (rows : List (ExplainedPermission × RowTurn))
    (files : Files) : CsvFileWriter × Files :=
  rows.foldl (fun state row => (state.1.write writeDiagnostic row.1 row.2 state.2).2)
    (writer, files)

def endLife (ending : Option Ending) (writer : CsvFileWriter) (files : Files) : Stage × Files :=
  match ending with
  | none => (.writing writer, files)
  | some (.finish turns) =>
      match runAction (writer.finish turns) files with
      | (result, after) => (.finished result, after)
  | some (.drop turns) => (.dropped, (runAction (writer.drop turns) files).2)

def live (life : Life) (files : Files) : Stage × Files :=
  match runAction (CsvFileWriter.create life.target life.create) files with
  | (.error error, after) => (.refused error, after)
  | (.ok writer, created) =>
      match writeAll writeDiagnostic writer life.rows created with
      | (writer, written) => endLife life.ending writer written

end Lives

/-- Creation is refused because of a file at the target. -/
def CreateTurns.Refuses (turns : CreateTurns) (overwrite : Bool) (files : Files) : Prop :=
  overwrite = false ∧ turns.check.failure = none ∧ (turns.check.enter files).target.isSome = true

structure CreateTurns.Steady (turns : CreateTurns) (overwrite : Bool) (files : Files) : Prop where
  /-- The header is not lost once the file has been opened. -/
  header : ¬ turns.Refuses overwrite files → turns.opening.failure = none →
    ∀ turn, turns.header = some turn → turn.failure = none
  /-- Where no file is opened, none is left from before. -/
  leftover : turns.Refuses overwrite files ∨ turns.opening.failure.isSome = true →
    files.partialFile = none

def RowTurn.Steady (turn : RowTurn) : Prop :=
  turn.unserialized = none ∧ ∀ flush, turn.flush = some flush → flush.failure = none

structure DropTurns.Steady (turns : DropTurns) : Prop where
  check : turns.check.failure = none
  remove : turns.remove.failure = none

namespace FinishTurns

def Moves (turns : FinishTurns) : Prop :=
  turns.flush.failure = none ∧ turns.sync.failure = none ∧ turns.rename.failure = none

def synced (turns : FinishTurns) (files : Files) : Files :=
  turns.sync.enter (turns.flush.enter files)

/-- The files when the target is looked for. -/
def checked (turns : FinishTurns) (files : Files) : Files :=
  turns.check.enter (turns.synced files)

/-- Nothing fails, and no file is in the way. -/
def GoesThrough (turns : FinishTurns) (overwrite : Bool) (files : Files) : Prop :=
  turns.Moves ∧ (overwrite = false → (turns.checked files).target = none)

structure Steady (turns : FinishTurns) (overwrite : Bool) (rows : List RowTurn)
    (files : Files) : Prop where
  /-- A file that is in the way is seen. -/
  seen : overwrite = false → turns.Moves → (turns.checked files).target.isSome = true →
    turns.check.failure = none
  /-- No file appears between the question and the rename. -/
  alone : overwrite = false → turns.GoesThrough overwrite files → turns.rename.appears = none
  /-- No row was lost before. -/
  rows : turns.GoesThrough overwrite files → ∀ row ∈ rows, row.Steady
  cleaned : ¬ turns.GoesThrough overwrite files → turns.drop.Steady

end FinishTurns

def Ending.Steady (ending : Ending) (overwrite : Bool) (rows : List RowTurn) (files : Files) :
    Prop :=
  match ending with
  | .finish turns => turns.Steady overwrite rows files
  | .drop turns => turns.Steady

section Lives

variable (writeDiagnostic : PermissionDiagnostic → List Char)

/-- No step of a life meets one of the gaps. -/
structure Life.Steady (life : Life) (files : Files) : Prop where
  create : life.create.Steady life.target.overwrite files
  ending : ∀ ending, life.ending = some ending →
    ∀ writer created, runAction (CsvFileWriter.create life.target life.create) files =
      (.ok writer, created) →
    ending.Steady life.target.overwrite (life.rows.map Prod.snd)
      (writeAll writeDiagnostic writer life.rows created).2

/-- What the caller may rely on after a life: the target is as it was or complete, and
nothing else is left. -/
def Life.Safe (life : Life) (outcome : Stage × Files) : Prop :=
  match outcome with
  | (.refused _, after) => after.Untouched ∧ after.partialFile = none
  | (.writing _, after) => after.Untouched
  | (.finished (.ok _), after) =>
      after.target = some (csvText writeDiagnostic (life.rows.map Prod.fst)) ∧
        after.partialFile = none ∧ (life.target.overwrite = false → after.foreign = none)
  | (.finished (.error _), after) => after.Untouched ∧ after.partialFile = none
  | (.dropped, after) => after.Untouched ∧ after.partialFile = none

end Lives

theorem untouched_writePartial {files : Files} (untouched : files.Untouched) (turn : Turn)
    (text : List Char) : Leads (writePartial turn text) files (fun _ after => after.Untouched) := by
  apply leads_access
  · intro _ _
    exact Turn.untouched_enter _ untouched
  · intro _
    exact Turn.untouched_enter _ untouched

namespace CsvRowWriter

variable (writer : CsvRowWriter) {files : Files}

theorem untouched_put (untouched : files.Untouched) (text : List Char) (flush : Option FlushTurn) :
    (writer.put text flush files).2.2.Untouched := by
  cases flush with
  | none => exact untouched
  | some turn =>
      have written := untouched_writePartial untouched turn.toTurn
        ((writer.pending ++ text).take turn.taken)
      rw [Leads] at written
      simp only [put]
      generalize runAction (writePartial turn.toTurn ((writer.pending ++ text).take turn.taken))
        files = outcome at written
      rcases outcome with ⟨_ | _, after⟩
      · exact written
      · exact written

/-- What is in the file and the buffer together grows by the text. -/
theorem put_steady {content : List Char} (holds : files.partialFile = some content)
    (text : List Char) {flush : Option FlushTurn}
    (steady : ∀ turn, flush = some turn → turn.failure = none) :
    ∃ later written, (writer.put text flush files).1 = .ok () ∧
      (writer.put text flush files).2.1 = later ∧ later.cut = false ∧
      (writer.put text flush files).2.2.partialFile = some written ∧
      written ++ later.pending = content ++ writer.pending ++ text := by
  cases flush with
  | none => exact ⟨_, content, rfl, rfl, rfl, holds, (List.append_assoc _ _ _).symm⟩
  | some turn =>
      let whole := writer.pending ++ text
      have run : runAction (writePartial turn.toTurn (whole.take turn.taken)) files =
          (.ok (), (turn.enter files).append (whole.take turn.taken)) := by
        rw [writePartial, runAction_access, steady turn rfl]
      have there : ((turn.enter files).append (whole.take turn.taken)).partialFile =
          some (content ++ whole.take turn.taken) := by
        rw [Files.append, Turn.partialFile_enter, holds, Option.map_some]
      have outcome : writer.put text (some turn) files =
          (.ok (), { pending := whole.drop turn.taken },
            (turn.enter files).append (whole.take turn.taken)) := by
        simp only [put]
        rw [run]
      rw [outcome]
      refine ⟨_, _, rfl, rfl, rfl, there, ?_⟩
      rw [List.append_assoc, List.take_append_drop, List.append_assoc]

end CsvRowWriter

theorem leads_inTheWay {overwrite : Bool} {turn : Turn} {files : Files}
    {described : Except CoreError Bool → Files → Prop}
    (unasked : overwrite = true → described (.ok false) files)
    (asked : overwrite = false → ∀ found,
      found = (turn.failure.isNone && (turn.enter files).target.isSome) →
      described (.ok found) (turn.enter files)) :
    Leads (inTheWay overwrite turn) files described := by
  cases overwrite with
  | true => exact unasked rfl
  | false => exact leads_present (asked rfl)

theorem leads_new {files : Files} {flush : Option FlushTurn} (untouched : files.Untouched)
    (empty : files.partialFile = some [])
    (steady : ∀ turn, flush = some turn → turn.failure = none) (released : Turn) :
    Leads (CsvRowWriter.new flush released) files (fun result after =>
      after.Untouched ∧ ∃ writer content, result = .ok writer ∧ writer.cut = false ∧
        after.partialFile = some content ∧ content ++ writer.pending = headerText) := by
  have kept := CsvRowWriter.untouched_put {} untouched headerText flush
  rcases CsvRowWriter.put_steady {} empty headerText steady with
    ⟨later, written, done, left, entire, there, whole⟩
  have run : runAction (CsvRowWriter.new flush released) files =
      match ({} : CsvRowWriter).put headerText flush files with
      | (.ok (), writer, after) => (.ok writer, after)
      | (.error reason, writer, after) =>
          (.error reason,
            (runAction (writer.release released : FileAction String Unit) after).2) := rfl
  rw [Leads, run]
  generalize ({} : CsvRowWriter).put headerText flush files = outcome at kept done left there
  rcases outcome with ⟨result, writer, after⟩
  cases done
  cases left
  exact ⟨kept, _, written, rfl, entire, there, whole⟩

namespace CsvFileWriter

/-- What is in the file and in the buffer together, record by record. -/
def Holds (writer : CsvFileWriter) (text : List Char) (files : Files) : Prop :=
  ∃ rows content, writer.rows = some rows ∧ rows.cut = false ∧
    files.partialFile = some content ∧ content ++ rows.pending = text

/-- What a creation leaves behind. -/
def Created (target : ExportTarget) (result : Except CoreError CsvFileWriter) (after : Files) :
    Prop :=
  after.Untouched ∧
    match result with
    | .ok writer => writer.overwrite = target.overwrite ∧ writer.Holds headerText after
    | .error _ => after.partialFile = none

theorem leads_startPartial {target : ExportTarget} {turns : CreateTurns} {files asked : Files}
    (steady : turns.Steady target.overwrite files) (free : ¬ turns.Refuses target.overwrite files)
    (untouched : asked.Untouched) (same : asked.partialFile = files.partialFile) :
    Leads (startPartial target turns) asked (Created target) := by
  apply leads_bind
  apply leads_adapt
  apply leads_access
  · intro reason failure
    refine ⟨Turn.untouched_enter _ untouched, ?_⟩
    change (turns.opening.enter asked).partialFile = none
    rw [Turn.partialFile_enter, same]
    exact steady.leftover (.inr (by rw [failure, Option.isSome_some]))
  · intro failure
    apply leads_bind
    apply leads_adapt
    have header := steady.header free failure
    have kept : ({ turns.opening.enter asked with partialFile := some [] } : Files).Untouched :=
      Turn.untouched_enter _ untouched
    refine (leads_new kept rfl header turns.released).mono ?_
    intro result after described
    rcases described with ⟨later, writer, content, done, entire, there, whole⟩
    rw [done]
    exact leads_pure ⟨later, rfl, writer, content, rfl, entire, there, whole⟩

theorem leads_create {target : ExportTarget} {turns : CreateTurns} {files : Files}
    (untouched : files.Untouched) (steady : turns.Steady target.overwrite files) :
    Leads (create target turns) files (Created target) := by
  apply leads_bind
  apply leads_inTheWay
  · intro overwrite
    refine leads_startPartial steady ?_ untouched rfl
    intro refuses
    rw [refuses.1] at overwrite
    cases overwrite
  · intro refuse found answer
    have kept := Turn.untouched_enter turns.check untouched
    have same := Turn.partialFile_enter turns.check files
    cases found with
    | true =>
        have sees := Bool.and_eq_true_iff.mp answer.symm
        refine leads_throw ⟨kept, ?_⟩
        change (turns.check.enter files).partialFile = none
        rw [same]
        exact steady.leftover (.inl ⟨refuse, Option.isNone_iff_eq_none.mp sees.1, sees.2⟩)
    | false =>
        refine leads_startPartial steady ?_ kept same
        intro refuses
        rw [refuses.2.1, refuses.2.2] at answer
        cases answer

end CsvFileWriter

section Writes

variable {writeDiagnostic : PermissionDiagnostic → List Char} {writer : CsvFileWriter}
  {files : Files}

theorem untouched_write (untouched : files.Untouched) (p : ExplainedPermission) (turn : RowTurn) :
    (writer.write writeDiagnostic p turn files).2.2.Untouched := by
  rcases writer with ⟨_ | rows, path, overwrite⟩
  · exact untouched
  · simp only [CsvFileWriter.write, CsvRowWriter.write]
    cases turn.unserialized with
    | some _ => exact untouched
    | none => exact rows.untouched_put untouched _ _

theorem overwrite_write (p : ExplainedPermission) (turn : RowTurn) :
    (writer.write writeDiagnostic p turn files).2.1.overwrite = writer.overwrite := by
  rcases writer with ⟨_ | rows, path, overwrite⟩
  · rfl
  · rfl

theorem holds_write {text : List Char} (holds : writer.Holds text files) (p : ExplainedPermission)
    {turn : RowTurn} (steady : turn.Steady) :
    (writer.write writeDiagnostic p turn files).2.1.Holds (text ++ rowText writeDiagnostic p)
      (writer.write writeDiagnostic p turn files).2.2 := by
  rcases writer with ⟨known, path, overwrite⟩
  rcases holds with ⟨rows, content, rfl, entire, there, whole⟩
  rcases rows.put_steady there (rowText writeDiagnostic p) steady.2 with
    ⟨later, written, _, left, still, after, grown⟩
  simp only [CsvFileWriter.write, CsvRowWriter.write, steady.1, entire, Bool.false_eq_true,
    if_false, List.nil_append]
  exact ⟨later, written, congrArg some left, still, after, by rw [grown, whole]⟩

variable (writeDiagnostic writer)

/-- A row at a time. -/
theorem writeAll_cons (files : Files) (row : ExplainedPermission × RowTurn)
    (rest : List (ExplainedPermission × RowTurn)) :
    writeAll writeDiagnostic writer (row :: rest) files =
      writeAll writeDiagnostic (writer.write writeDiagnostic row.1 row.2 files).2.1 rest
        (writer.write writeDiagnostic row.1 row.2 files).2.2 := rfl

theorem untouched_writeAll (untouched : files.Untouched)
    (rows : List (ExplainedPermission × RowTurn)) :
    (writeAll writeDiagnostic writer rows files).2.Untouched := by
  induction rows generalizing writer files with
  | nil => exact untouched
  | cons row rest ih =>
      rw [writeAll_cons]
      exact ih _ (untouched_write untouched row.1 row.2)

theorem overwrite_writeAll (files : Files)
    (rows : List (ExplainedPermission × RowTurn)) :
    (writeAll writeDiagnostic writer rows files).1.overwrite = writer.overwrite := by
  induction rows generalizing writer files with
  | nil => rfl
  | cons row rest ih =>
      rw [writeAll_cons, ih]
      exact overwrite_write row.1 row.2

theorem holds_writeAll {text : List Char} (holds : writer.Holds text files)
    (rows : List (ExplainedPermission × RowTurn))
    (steady : ∀ turn ∈ rows.map Prod.snd, turn.Steady) :
    (writeAll writeDiagnostic writer rows files).1.Holds
      (text ++ (rows.map Prod.fst).flatMap (rowText writeDiagnostic))
      (writeAll writeDiagnostic writer rows files).2 := by
  induction rows generalizing writer files text with
  | nil =>
      rw [List.map_nil, List.flatMap_nil, List.append_nil]
      exact holds
  | cons row rest ih =>
      rw [List.map_cons] at steady
      rcases List.forall_mem_cons.mp steady with ⟨here, later⟩
      rw [writeAll_cons, List.map_cons, List.flatMap_cons, ← List.append_assoc]
      exact ih _ (holds_write holds row.1 here) later

end Writes

/-! ## Endings -/

namespace CsvFileWriter

variable {writer : CsvFileWriter} {files : Files}

theorem leads_releaseRows (untouched : files.Untouched) (turn : Turn) :
    Leads (writer.releaseRows turn) files (fun result after =>
      result = .ok () ∧ after.Untouched) := by
  rcases writer with ⟨_ | rows, path, overwrite⟩
  · exact leads_pure ⟨rfl, untouched⟩
  · apply leads_ignored
    refine (untouched_writePartial untouched turn _).mono ?_
    intro _ _ kept
    exact ⟨rfl, kept⟩

/-- A drop without failures removes the file beside the target. -/
theorem leads_drop (untouched : files.Untouched) {turns : DropTurns} (steady : turns.Steady) :
    Leads (writer.drop turns) files (fun _ after =>
      after.Untouched ∧ after.partialFile = none) := by
  apply leads_bind
  refine (leads_releaseRows untouched turns.rows).mono ?_
  intro result released described
  rcases described with ⟨done, kept⟩
  rw [done]
  apply leads_bind
  apply leads_present
  intro found answer
  rw [steady.check, Option.isNone_none, Bool.true_and] at answer
  cases found with
  | true =>
      rcases Option.isSome_iff_exists.mp answer.symm with ⟨content, there⟩
      apply leads_ignored
      apply leads_access
      · intro _ failure
        rw [steady.remove] at failure
        cases failure
      · intro _
        rw [Turn.partialFile_enter, there]
        exact ⟨Turn.untouched_enter _ (Turn.untouched_enter _ kept), rfl⟩
  | false =>
      refine leads_pure ⟨Turn.untouched_enter _ kept, ?_⟩
      exact Option.isSome_eq_false_iff.mp answer.symm |> Option.isNone_iff_eq_none.mp

/-- After a rename nothing is left to do for the drop, whatever fails there. -/
theorem leads_drop_moved {content : List Char} (empty : writer.rows = none)
    (moved : files.target = some content) (gone : files.partialFile = none) (turns : DropTurns) :
    Leads (writer.drop turns) files (fun _ after => after = files) := by
  apply leads_bind
  rw [releaseRows, empty]
  apply leads_pure
  apply leads_bind
  apply leads_present
  rw [Turn.enter_of_some moved, gone, Option.isSome_none, Bool.and_false]
  intro found answer
  rw [answer]
  exact leads_pure rfl

theorem leads_finishRows (untouched : files.Untouched) (rows : CsvRowWriter)
    (flush released : Turn) :
    Leads (rows.finish flush released) files (fun result after =>
      match result with
      | .ok _ => flush.failure = none ∧ after = (flush.enter files).append rows.pending
      | .error _ => flush.failure ≠ none ∧ after.Untouched) := by
  apply leads_tryCatch
  apply leads_access
  · intro reason failure
    apply leads_bind
    apply leads_ignored
    have kept : ((flush.enter files).append (rows.pending.take flush.taken)).Untouched :=
      Turn.untouched_enter flush untouched
    refine (untouched_writePartial kept released _).mono ?_
    intro _ after kept
    refine leads_throw ⟨?_, kept⟩
    rw [failure]
    exact Option.some_ne_none reason
  · intro failure
    exact ⟨failure, rfl⟩

/-- What the last steps leave: the complete text at the target, or the target as it is. -/
def Moved (writer : CsvFileWriter) (turns : FinishTurns) (text : List Char) (files : Files)
    (result : Except CoreError Unit) (after : Files) : Prop :=
  match result with
  | .ok _ =>
      after.target = some text ∧ after.partialFile = none ∧
        (writer.overwrite = false → after.foreign = none)
  | .error _ => after.Untouched ∧ ¬ turns.GoesThrough writer.overwrite files

section Finish

variable {turns : FinishTurns} {turnsOfRows : List RowTurn} {text : List Char}
  (steady : turns.Steady writer.overwrite turnsOfRows files)
  (complete : turns.GoesThrough writer.overwrite files → writer.Holds text files)

include steady complete

/-- The rename, where the question has found nothing in the way. -/
theorem leads_renamePartial {rows : CsvRowWriter} {asked : Files} {words : String → CoreError}
    (handle : writer.rows = some rows) (untouched : asked.Untouched)
    (flushed : turns.flush.failure = none) (synced : turns.sync.failure = none)
    (beside : asked.partialFile = (files.append rows.pending).partialFile)
    (free : writer.overwrite = false →
      asked.target = (turns.checked files).target ∧
        (turns.check.failure = none → (turns.checked files).target = none)) :
    Leads (ExceptT.adapt words (renamePartial turns.rename)) asked
      (Moved writer turns text files) := by
  apply leads_adapt
  apply leads_access
  · intro reason failure
    refine ⟨Turn.untouched_enter _ untouched, ?_⟩
    intro through
    rw [through.1.2.2] at failure
    cases failure
  · intro renamed
    have moves : turns.Moves := ⟨flushed, synced, renamed⟩
    have nothing (refuse : writer.overwrite = false) : (turns.checked files).target = none := by
      cases there : (turns.checked files).target with
      | none => rfl
      | some content =>
          have asks := steady.seen refuse moves (by rw [there, Option.isSome_some])
          rw [(free refuse).2 asks] at there
          cases there
    have through : turns.GoesThrough writer.overwrite files := ⟨moves, nothing⟩
    rcases complete through with ⟨known, content, handle', _, there, whole⟩
    rw [handle] at handle'
    cases handle'
    have full : (turns.rename.enter asked).partialFile = some text := by
      rw [Turn.partialFile_enter, beside, Files.append, there, Option.map_some, whole]
    rw [full]
    refine ⟨rfl, rfl, ?_⟩
    intro refuse
    change (turns.rename.enter asked).foreign = none
    rw [Turn.enter_of_none (steady.alone refuse through), ← untouched, (free refuse).1,
      nothing refuse]

/-- The last steps, once the rows are in the file. -/
theorem leads_place {rows : CsvRowWriter} (handle : writer.rows = some rows)
    (untouched : files.Untouched) (flushed : turns.flush.failure = none)
    (synced : turns.sync.failure = none) :
    Leads (writer.place turns) ((turns.synced files).append rows.pending)
      (Moved writer turns text files) := by
  have kept : ((turns.synced files).append rows.pending).Untouched :=
    Turn.untouched_enter turns.sync (Turn.untouched_enter turns.flush untouched)
  have beside : ((turns.synced files).append rows.pending).partialFile =
      (files.append rows.pending).partialFile := by
    rw [Files.append, Files.append, FinishTurns.synced, Turn.partialFile_enter,
      Turn.partialFile_enter]
  apply leads_bind
  apply leads_inTheWay
  · intro overwrite
    refine leads_renamePartial steady complete handle kept flushed synced beside ?_
    intro refuse
    rw [overwrite] at refuse
    cases refuse
  · intro refuse found answer
    rw [Turn.enter_append] at answer ⊢
    have kept : ((turns.checked files).append rows.pending).Untouched :=
      Turn.untouched_enter turns.check kept
    cases found with
    | true =>
        have sees := (Bool.and_eq_true_iff.mp answer.symm).2
        refine leads_throw ⟨kept, ?_⟩
        intro through
        change (turns.checked files).target.isSome = true at sees
        rw [through.2 refuse] at sees
        cases sees
    | false =>
        refine leads_renamePartial steady complete handle kept flushed synced ?_ ?_
        · rw [← beside]
          change ((turns.checked files).append rows.pending).partialFile = _
          rw [Files.append, Files.append, FinishTurns.checked, Turn.partialFile_enter]
        · intro _
          refine ⟨rfl, ?_⟩
          intro asks
          rw [asks, Option.isNone_none, Bool.true_and] at answer
          exact Option.isSome_eq_false_iff.mp answer.symm |> Option.isNone_iff_eq_none.mp

theorem leads_moveToTarget (untouched : files.Untouched) :
    Leads (writer.moveToTarget turns) files (Moved writer turns text files) := by
  rw [moveToTarget]
  cases handle : writer.rows with
  | none =>
      refine leads_throw ⟨untouched, ?_⟩
      intro through
      rcases complete through with ⟨rows, _, handle', _⟩
      rw [handle] at handle'
      cases handle'
  | some rows =>
      apply leads_bind
      apply leads_adapt
      refine (leads_finishRows untouched rows turns.flush turns.released).mono ?_
      intro flushed after described
      cases flushed with
      | error reason =>
          refine ⟨described.2, ?_⟩
          intro through
          exact described.1 through.1.1
      | ok _ =>
          rcases described with ⟨flushed, rfl⟩
          have kept : ((turns.flush.enter files).append rows.pending).Untouched :=
            Turn.untouched_enter turns.flush untouched
          apply leads_bind
          apply leads_adapt
          apply leads_access
          · intro reason failure
            refine ⟨Turn.untouched_enter turns.sync kept, ?_⟩
            intro through
            rw [through.1.2.1] at failure
            cases failure
          · intro synced
            have behind : turns.sync.enter ((turns.flush.enter files).append rows.pending) =
                (turns.synced files).append rows.pending := Turn.enter_append _ _ _
            rw [behind]
            exact leads_place steady complete handle untouched flushed synced

/-- A finished writer has either moved the complete text to the target or changed nothing. -/
theorem leads_finish (untouched : files.Untouched) :
    Leads (writer.finish turns) files (fun result after =>
      match result with
      | .ok _ =>
          after.target = some text ∧ after.partialFile = none ∧
            (writer.overwrite = false → after.foreign = none)
      | .error _ => after.Untouched ∧ after.partialFile = none) := by
  apply leads_closing
  refine (leads_moveToTarget steady complete untouched).mono ?_
  intro result after moved
  cases result with
  | ok _ =>
      refine (leads_drop_moved rfl moved.1 moved.2.1 turns.drop).mono ?_
      intro _ closed same
      rw [same]
      exact moved
  | error _ => exact leads_drop moved.1 (steady.cleaned moved.2)

end Finish

end CsvFileWriter

/-! ## A whole life -/

section Lives

variable (writeDiagnostic : PermissionDiagnostic → List Char)

theorem safe_of_steady (life : Life) (target partialFile : Option (List Char))
    (steady : life.Steady writeDiagnostic (Files.start target partialFile)) :
    life.Safe writeDiagnostic (live writeDiagnostic life (Files.start target partialFile)) := by
  have untouched : (Files.start target partialFile).Untouched := rfl
  have created := CsvFileWriter.leads_create untouched steady.create
  have ending := steady.ending
  rw [Leads] at created
  rw [live]
  generalize runAction (CsvFileWriter.create life.target life.create)
    (Files.start target partialFile) = outcome at created ending
  rcases outcome with ⟨error | writer, files⟩
  · exact created
  · rcases created with ⟨kept, overwrite, holds⟩
    have written := untouched_writeAll writeDiagnostic writer kept life.rows
    have grown := holds_writeAll writeDiagnostic writer holds life.rows
    have policy := overwrite_writeAll writeDiagnostic writer files life.rows
    have steadyEnding (last : Ending) (here : life.ending = some last) :=
      ending last here writer files rfl
    change life.Safe writeDiagnostic (endLife life.ending
      (writeAll writeDiagnostic writer life.rows files).1
      (writeAll writeDiagnostic writer life.rows files).2)
    generalize writeAll writeDiagnostic writer life.rows files = state
      at written grown policy steadyEnding
    rcases state with ⟨later, before⟩
    change later.overwrite = writer.overwrite at policy
    rw [overwrite] at policy
    cases last : life.ending with
    | none => exact written
    | some ending =>
        have here := steadyEnding ending last
        cases ending with
        | drop turns => exact CsvFileWriter.leads_drop written here
        | finish turns =>
            change turns.Steady life.target.overwrite _ before at here
            rw [← policy] at here
            have moved := CsvFileWriter.leads_finish here
              (fun through => grown (here.rows through)) written
            rw [Leads, policy] at moved
            change life.Safe writeDiagnostic
              (.finished (runAction (later.finish turns) before).1,
                (runAction (later.finish turns) before).2)
            generalize runAction (later.finish turns) before = outcome at moved
            rcases outcome with ⟨_ | _, after⟩
            · exact moved
            · exact moved

end Lives

/-! ## A refused and a lost rename -/

def readRow : ExplainedPermission where
  identity := { sid := ⟨"S-1-5-21-1-2-3-1000"⟩ }
  path := "D:\\Data"
  ntfsMask := 0x1#32
  shareMask := none
  effectiveMask := 0x1#32

/-- A row that is written through, and a rename that fails over an existing file. -/
def renameRefused : Life where
  target := .fileOverwrite "report.csv"
  rows := [(readRow, { flush := some { taken := 400 } })]
  ending := some (.finish { rename := { failure := some "access denied" } })

theorem renameRefused_steady (writeDiagnostic : PermissionDiagnostic → List Char) :
    renameRefused.Steady writeDiagnostic (Files.start (some ['o']) none) where
  create := {
    header := by
      intro _ _ turn given
      cases given
    leftover := fun _ => rfl }
  ending := by
    intro ending last writer created _
    cases last
    exact {
      seen := by
        intro refuse
        cases refuse
      alone := by
        intro refuse
        cases refuse
      rows := by
        intro through
        cases through.1.2.2
      cleaned := fun _ => ⟨rfl, rfl⟩ }

theorem safe_of_steady_renameRefused :
    renameRefused.Safe (fun _ => [])
      (live (fun _ => []) renameRefused (Files.start (some ['o']) none)) :=
  safe_of_steady (fun _ => []) renameRefused (some ['o']) none
    (renameRefused_steady (fun _ => []))

/-- The other process creates the target between the question and the rename. -/
def renameRace : Life where
  target := .file "report.csv"
  rows := [(readRow, {})]
  ending := some (.finish { rename := { appears := some ['x'] } })

/-- The file of the other process is replaced, and `finish` returns success. -/
theorem not_safe_renameRace :
    ¬ renameRace.Safe (fun _ => []) (live (fun _ => []) renameRace (Files.start none none)) := by
  intro safe
  have replaced : (live (fun _ => []) renameRace (Files.start none none)).2.foreign = some ['x'] :=
    rfl
  have kept : (live (fun _ => []) renameRace (Files.start none none)).2.foreign = none :=
    safe.2.2 rfl
  rw [replaced] at kept
  cases kept

end Exporter
end Stars
