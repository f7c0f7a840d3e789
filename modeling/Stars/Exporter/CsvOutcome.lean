import Stars.Exporter.CsvFile

namespace Stars
namespace Exporter

open Storage

/-!
# The CSV file, whatever fails

A caller that stops at the first error needs no assumption about what fails when.  Up to
the rename the target is not changed; a writer that reported no error holds the header
and every row; and a finish that reports no error has moved exactly that to the target.
-/

/-- A write that reports no error has not failed. -/
theorem CsvRowWriter.steady_of_put {writer later : CsvRowWriter} {text : List Char}
    {flush : Option FlushTurn} {files after : Files}
    (done : writer.put text flush files = (.ok (), later, after)) :
    ∀ turn, flush = some turn → turn.failure = none := by
  intro turn given
  rw [given] at done
  cases failure : turn.failure with
  | none => rfl
  | some reason =>
      simp only [put, writePartial, runAction_access, failure] at done
      cases done

namespace CsvFileWriter

variable {writer : CsvFileWriter} {files : Files} {text : List Char}

theorem leads_new_any (untouched : files.Untouched) (empty : files.partialFile = some [])
    (flush : Option FlushTurn) (released : Turn) :
    Leads (CsvRowWriter.new flush released) files (fun result after =>
      after.Untouched ∧ ∀ rows, result = .ok rows →
        rows.cut = false ∧
          ∃ content, after.partialFile = some content ∧ content ++ rows.pending = headerText) := by
  have kept := CsvRowWriter.untouched_put {} untouched headerText flush
  rw [Leads, runAction, CsvRowWriter.new]
  dsimp only [ExceptT.run, ExceptT.mk, StateT.run]
  cases outcome : ({} : CsvRowWriter).put headerText flush files with
  | mk result rest =>
      rcases rest with ⟨later, after⟩
      rw [outcome] at kept
      cases result with
      | error reason =>
          refine ⟨?_, fun rows impossible => by cases impossible⟩
          exact untouched_writePartial kept released later.pending
      | ok _ =>
          refine ⟨kept, fun rows made => ?_⟩
          cases made
          rcases CsvRowWriter.put_steady {} empty headerText
            (CsvRowWriter.steady_of_put outcome) with
            ⟨last, written, _, left, entire, there, whole⟩
          rw [outcome] at left there
          cases left
          exact ⟨entire, written, there, whole⟩

/-- What a creation leaves behind, whatever fails. -/
def CreatedAny (result : Except CoreError CsvFileWriter) (after : Files) : Prop :=
  after.Untouched ∧ ∀ writer, result = .ok writer → writer.Holds headerText after

theorem leads_startPartial_any (untouched : files.Untouched) (target : ExportTarget)
    (turns : CreateTurns) : Leads (startPartial target turns) files CreatedAny := by
  apply leads_bind
  apply leads_adapt
  apply leads_access
  · intro reason _
    exact ⟨Turn.untouched_enter _ untouched, fun writer impossible => by cases impossible⟩
  · intro _
    apply leads_bind
    apply leads_adapt
    have kept : ({ turns.opening.enter files with partialFile := some [] } : Files).Untouched :=
      Turn.untouched_enter _ untouched
    refine (leads_new_any kept rfl turns.header turns.released).mono ?_
    intro result after described
    cases result with
    | error reason => exact ⟨described.1, fun writer impossible => by cases impossible⟩
    | ok rows =>
        refine leads_pure ⟨described.1, fun writer made => ?_⟩
        cases made
        rcases described.2 rows rfl with ⟨entire, content, there, whole⟩
        exact ⟨rows, content, rfl, entire, there, whole⟩

theorem leads_create_any (untouched : files.Untouched) (target : ExportTarget)
    (turns : CreateTurns) : Leads (create target turns) files CreatedAny := by
  apply leads_bind
  apply leads_inTheWay
  · intro _
    exact leads_startPartial_any untouched target turns
  · intro _ found _
    have kept := Turn.untouched_enter turns.check untouched
    cases found with
    | true => exact leads_throw ⟨kept, fun writer impossible => by cases impossible⟩
    | false => exact leads_startPartial_any kept target turns

/-! ## Rows and endings -/

/-- A row that was reported as written is held. -/
theorem holds_of_written {writeDiagnostic : PermissionDiagnostic → List Char}
    {p : ExplainedPermission} {turn : RowTurn} (holds : writer.Holds text files)
    (done : (writer.write writeDiagnostic p turn files).1 = .ok ()) :
    (writer.write writeDiagnostic p turn files).2.1.Holds (text ++ rowText writeDiagnostic p)
      (writer.write writeDiagnostic p turn files).2.2 := by
  refine holds_write holds p ?_
  rcases holds with ⟨rows, content, handle, entire, _, _⟩
  simp only [CsvFileWriter.write, handle, CsvRowWriter.write, entire, Bool.false_eq_true,
    if_false, List.nil_append] at done
  cases serialized : turn.unserialized with
  | some reason =>
      rw [serialized] at done
      cases done
  | none =>
      refine ⟨serialized, ?_⟩
      rw [serialized] at done
      cases outcome : rows.put (rowText writeDiagnostic p) turn.flush files with
      | mk result rest =>
          rw [outcome] at done
          cases result with
          | error reason => cases done
          | ok _ => exact CsvRowWriter.steady_of_put outcome

theorem leads_drop_any (untouched : files.Untouched) (turns : DropTurns) :
    Leads (writer.drop turns) files (fun _ after => after.Untouched) := by
  apply leads_bind
  refine (leads_releaseRows untouched turns.rows).mono ?_
  intro result released described
  rw [described.1]
  apply leads_bind
  apply leads_present
  intro found _
  have kept := Turn.untouched_enter turns.check described.2
  cases found with
  | true =>
      apply leads_ignored
      apply leads_access
      · intro _ _
        exact Turn.untouched_enter _ kept
      · intro _
        have removed := Turn.untouched_enter turns.remove kept
        split
        · exact removed
        · exact removed
  | false => exact leads_pure kept

/-- What a finish leaves behind, whatever fails. -/
def FinishedAny (text : List Char) (result : Except CoreError Unit) (after : Files) : Prop :=
  match result with
  | .ok _ => after.target = some text ∧ after.partialFile = none
  | .error _ => after.Untouched

theorem leads_rename_any {words : String → CoreError} (untouched : files.Untouched)
    (there : files.partialFile = some text) (turn : Turn) :
    Leads (ExceptT.adapt words (renamePartial turn)) files (FinishedAny text) := by
  apply leads_adapt
  apply leads_access
  · intro _ _
    exact Turn.untouched_enter _ untouched
  · intro _
    have same : (turn.enter files).partialFile = some text := by
      rw [Turn.partialFile_enter, there]
    rw [same]
    exact ⟨rfl, rfl⟩

theorem leads_place_any (untouched : files.Untouched) (there : files.partialFile = some text)
    (turns : FinishTurns) : Leads (writer.place turns) files (FinishedAny text) := by
  apply leads_bind
  apply leads_inTheWay
  · intro _
    exact leads_rename_any untouched there turns.rename
  · intro _ found _
    have kept := Turn.untouched_enter turns.check untouched
    have same : (turns.check.enter files).partialFile = some text := by
      rw [Turn.partialFile_enter, there]
    cases found with
    | true => exact leads_throw kept
    | false => exact leads_rename_any kept same turns.rename

theorem leads_moveToTarget_any (untouched : files.Untouched) (holds : writer.Holds text files)
    (turns : FinishTurns) : Leads (writer.moveToTarget turns) files (FinishedAny text) := by
  rcases holds with ⟨rows, content, handle, _, there, whole⟩
  rw [moveToTarget, handle]
  apply leads_bind
  apply leads_adapt
  refine (leads_finishRows untouched rows turns.flush turns.released).mono ?_
  intro flushed after described
  cases flushed with
  | error reason => exact described.2
  | ok _ =>
      have kept : after.Untouched := by
        rw [described.2]
        exact Turn.untouched_enter turns.flush untouched
      have full : after.partialFile = some text := by
        rw [described.2, Files.append, Turn.partialFile_enter, there, Option.map_some, whole]
      apply leads_bind
      apply leads_adapt
      apply leads_access
      · intro _ _
        exact Turn.untouched_enter turns.sync kept
      · intro _
        refine leads_place_any (Turn.untouched_enter turns.sync kept) ?_ turns
        rw [Turn.partialFile_enter, full]

theorem leads_finish_any (untouched : files.Untouched) (holds : writer.Holds text files)
    (turns : FinishTurns) : Leads (writer.finish turns) files (FinishedAny text) := by
  apply leads_closing
  refine (leads_moveToTarget_any untouched holds turns).mono ?_
  intro result after moved
  cases result with
  | ok _ =>
      refine (leads_drop_moved rfl moved.1 moved.2 turns.drop).mono ?_
      intro _ closed same
      rw [same]
      exact moved
  | error _ => exact leads_drop_any moved turns.drop

end CsvFileWriter

end Exporter
end Stars
