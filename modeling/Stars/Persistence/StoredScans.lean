import Stars.Persistence.Atomicity

namespace Stars
namespace Persistence

open Storage

/-!
# The stored scans

What the store is for: a list of whole scans, each with its results and its errors, and at most
one more that is being written.  `Archive` knows nothing of tables; `layOut` says how its scans
lie in them.

`recorded_of_spared` carries a run of the store over to the archive.  Every action of the run
either does what it does to the archive, or is abandoned with an error, whichever single
statement of it fails.
-/

structure StoredScan where
  run : ScanRun
  permissions : List ExplainedPermission := []
  errors : List ScanError := []

/-- The scans that are stored, and the one in hand. -/
inductive Archive where
  | idle (scans : List StoredScan)
  | writing (scans : List StoredScan) (pending : StoredScan)

/-- The evidence of a result has a text. -/
def Encodes (codec : RowCodec) (perm : ExplainedPermission) : Bool :=
  (permissionRow codec perm).toOption.isSome

def StoredScan.finished (scan : StoredScan) : Option String → StoredScan
  | some time => { scan with run := { scan.run with finishedAt := some time } }
  | none => scan

def scanIds (scans : List StoredScan) : List String := scans.map (fun scan => scan.run.id)

namespace Archive

/-- The scans of an archive, the one in hand behind the stored ones. -/
def all : Archive → List StoredScan
  | idle scans => scans
  | writing scans pending => scans ++ [pending]

/-- What is stored. -/
def scans : Archive → List StoredScan
  | idle scans => scans
  | writing scans _ => scans

/-- The reply of an action that completes, and the archive after it. -/
def complete (codec : RowCodec) : Archive → Action → Option (Option Nat × Archive)
  | idle scans, .beginScan run =>
      if run.id ∈ scanIds scans then none else some (none, writing scans { run := run })
  | idle scans, .persistScanAtomic run permissions errors =>
      if run.id ∉ scanIds scans ∧ permissions.all (Encodes codec) then
        some (none, idle (scans ++ [⟨run, permissions, errors⟩]))
      else none
  | idle scans, .deleteScanRun id =>
      some (some (scans.countP (fun scan => scan.run.id = id)),
        idle (scans.filter (fun scan => scan.run.id ≠ id)))
  | writing scans pending, .addPermission 0 perm =>
      if Encodes codec perm then
        some (none, writing scans { pending with permissions := pending.permissions ++ [perm] })
      else none
  | writing scans pending, .addError 0 error =>
      some (none, writing scans { pending with errors := pending.errors ++ [error] })
  | writing scans pending, .commit 0 finishedAt =>
      some (none, idle (scans ++ [pending.finished finishedAt]))
  | writing scans _, .dropWriter 0 => some (none, idle scans)
  | writing _ _, .beginScan _ => none
  | writing _ _, .persistScanAtomic _ _ _ => none
  | writing _ _, .deleteScanRun _ => none
  | archive, _ => some (none, archive)

/-- A failed COMMIT loses the scan in hand, every other failure nothing. -/
def abandon : Archive → Action → Archive
  | writing scans _, .commit 0 _ => idle scans
  | archive, _ => archive

/-- The ids are distinct, and every result has a row. -/
structure WellFormed (codec : RowCodec) (archive : Archive) : Prop where
  distinct : (scanIds archive.all).Nodup
  encodes : ∀ scan ∈ archive.all, ∀ perm ∈ scan.permissions, Encodes codec perm = true

end Archive

/-! ## The scans in tables -/

section Layout

variable (codec : RowCodec)

def StoredScan.records (scan : StoredScan) : List PermissionRecord :=
  scan.permissions.filterMap (fun perm =>
    (permissionRow codec perm).toOption.map (fun row => ⟨scan.run.id, row⟩))

def StoredScan.errorRecords (scan : StoredScan) : List ScanErrorRecord :=
  scan.errors.map (fun error => ⟨scan.run.id, error⟩)

/-- The tables of these scans. -/
def layOut (scans : List StoredScan) : Tables where
  scanRuns := scans.map StoredScan.run
  effectivePermissions := scans.flatMap (StoredScan.records codec)
  scanErrors := scans.flatMap StoredScan.errorRecords

def Archive.toSession : Archive → Session
  | idle scans => .idle (layOut codec scans)
  | writing scans pending =>
      .writing (layOut codec scans) (layOut codec (scans ++ [pending])) ⟨pending.run.id⟩

end Layout

section Rows

variable {codec : RowCodec} {scans : List StoredScan} {pending : StoredScan}

theorem ids_layOut : (layOut codec scans).scanRuns.map ScanRun.id = scanIds scans :=
  List.map_map

/-- A further scan lies behind the others. -/
theorem layOut_append : layOut codec (scans ++ [pending]) =
    { scanRuns := (layOut codec scans).scanRuns ++ [pending.run]
      effectivePermissions := (layOut codec scans).effectivePermissions ++ pending.records codec
      scanErrors := (layOut codec scans).scanErrors ++ pending.errorRecords } := by
  unfold layOut
  rw [List.map_append, List.flatMap_append, List.flatMap_append, List.flatMap_singleton,
    List.flatMap_singleton]
  rfl

theorem insertScanRunEffect_layOut (run : ScanRun) :
    insertScanRunEffect run (layOut codec scans) =
      if run.id ∈ scanIds scans then none
      else some ((), layOut codec (scans ++ [{ run := run }])) := by
  rw [insertScanRunEffect, Tables.insertScanRun, ids_layOut]
  by_cases taken : run.id ∈ scanIds scans
  · rw [if_pos taken, if_pos taken]
    rfl
  · rw [if_neg taken, if_neg taken, layOut_append]
    change some ((), _) = some ((), _)
    simp [StoredScan.records, StoredScan.errorRecords]

/-- A result of the scan in hand lies behind its others. -/
theorem addPermissionEffect_layOut (perm : ExplainedPermission) :
    addPermissionEffect codec pending.run.id perm (layOut codec (scans ++ [pending])) =
      if Encodes codec perm then
        some ((), layOut codec
          (scans ++ [{ pending with permissions := pending.permissions ++ [perm] }]))
      else none := by
  rw [addPermissionEffect, Encodes, layOut_append, layOut_append]
  cases row : permissionRow codec perm with
  | error reason => rfl
  | ok stored =>
      change some ((), _) = some ((), _)
      unfold Tables.insertPermission StoredScan.records StoredScan.errorRecords
      simp [row, Except.toOption]

theorem addErrorEffect_layOut (error : ScanError) :
    addErrorEffect pending.run.id error (layOut codec (scans ++ [pending])) =
      some ((), layOut codec
        (scans ++ [{ pending with errors := pending.errors ++ [error] }])) := by
  rw [addErrorEffect, layOut_append, layOut_append]
  unfold Tables.insertError StoredScan.records StoredScan.errorRecords
  simp

theorem addPermissions_layOut (permissions : List ExplainedPermission) :
    effectOfEach (addPermissionEffect codec pending.run.id) permissions
        (layOut codec (scans ++ [pending])) =
      if permissions.all (Encodes codec) then
        some ((), layOut codec
          (scans ++ [{ pending with permissions := pending.permissions ++ permissions }]))
      else none := by
  induction permissions generalizing pending with
  | nil =>
      rw [effectOfEach, List.all_nil, if_pos rfl, List.append_nil]
  | cons perm rest known =>
      rw [effectOfEach, addPermissionEffect_layOut, List.all_cons]
      by_cases encodes : Encodes codec perm = true
      · have later := @known { pending with permissions := pending.permissions ++ [perm] }
        rw [if_pos encodes, Option.bind_some, encodes, Bool.true_and]
        refine later.trans ?_
        rw [List.append_assoc]
        rfl
      · rw [if_neg encodes, Bool.eq_false_iff.mpr encodes]
        rfl

theorem addErrors_layOut (errors : List ScanError) :
    effectOfEach (addErrorEffect pending.run.id) errors (layOut codec (scans ++ [pending])) =
      some ((), layOut codec
        (scans ++ [{ pending with errors := pending.errors ++ errors }])) := by
  induction errors generalizing pending with
  | nil => rw [effectOfEach, List.append_nil]
  | cons error rest known =>
      have later := @known { pending with errors := pending.errors ++ [error] }
      rw [effectOfEach, addErrorEffect_layOut, Option.bind_some]
      refine later.trans ?_
      rw [List.append_assoc]
      rfl

theorem persistEffect_layOut (run : ScanRun) (permissions : List ExplainedPermission)
    (errors : List ScanError) :
    persistEffect codec run permissions errors (layOut codec scans) =
      if run.id ∉ scanIds scans ∧ permissions.all (Encodes codec) then
        some ((), layOut codec (scans ++ [⟨run, permissions, errors⟩]))
      else none := by
  rw [persistEffect, insertScanRunEffect_layOut]
  by_cases taken : run.id ∈ scanIds scans
  · rw [if_pos taken, if_neg (fun both => both.1 taken)]
    rfl
  · rw [if_neg taken, Option.bind_some, addRowsEffect]
    have rows := @addPermissions_layOut codec scans { run := run } permissions
    dsimp only at rows ⊢
    rw [rows]
    by_cases encodes : permissions.all (Encodes codec) = true
    · rw [if_pos encodes, if_pos ⟨taken, encodes⟩, Option.bind_some]
      exact @addErrors_layOut codec scans ⟨run, permissions, []⟩ errors
    · rw [if_neg encodes, if_neg (fun both => encodes both.2)]
      rfl

/-- The finish time is that of the scan in hand alone. -/
theorem finishEffect_layOut (fresh : pending.run.id ∉ scanIds scans)
    (finishedAt : Option String) :
    finishEffect pending.run.id finishedAt (layOut codec (scans ++ [pending])) =
      layOut codec (scans ++ [pending.finished finishedAt]) := by
  cases finishedAt with
  | none => rfl
  | some time =>
      have others : (layOut codec scans).scanRuns.map (fun run =>
          if run.id = pending.run.id then { run with finishedAt := some time } else run) =
            (layOut codec scans).scanRuns := by
        refine (List.map_congr_left ?_).trans (List.map_id _)
        intro run listed
        have other : run.id ≠ pending.run.id := by
          intro same
          rw [← same, ← @ids_layOut codec] at fresh
          exact fresh (List.mem_map_of_mem listed)
        exact if_neg other
      rw [finishEffect, Tables.finishScanRun, layOut_append, layOut_append]
      dsimp only
      rw [List.map_append, others, List.map_singleton, if_pos rfl]
      rfl

/-- Rows that are chosen by their scan are the rows of the chosen scans. -/
theorem filter_flatMap_records {Record : Type} (chosen : String → Bool)
    (rows : StoredScan → List Record) (owner : Record → String)
    (owned : ∀ scan, ∀ record ∈ rows scan, owner record = scan.run.id) :
    (scans.flatMap rows).filter (fun record => chosen (owner record)) =
      (scans.filter (fun scan => chosen scan.run.id)).flatMap rows := by
  induction scans with
  | nil => rfl
  | cons scan rest known =>
      rw [List.flatMap_cons, List.filter_append, known]
      cases kept : chosen scan.run.id with
      | false =>
          have nothing : (rows scan).filter (fun record => chosen (owner record)) = [] := by
            refine List.filter_eq_nil_iff.mpr ?_
            intro record inside
            rw [owned scan record inside, kept]
            exact Bool.false_ne_true
          rw [List.filter_cons, if_neg (Bool.eq_false_iff.mp kept), nothing, List.nil_append]
      | true =>
          have everything :
              (rows scan).filter (fun record => chosen (owner record)) = rows scan := by
            refine List.filter_eq_self.mpr ?_
            intro record inside
            rw [owned scan record inside, kept]
          rw [List.filter_cons, if_pos kept, List.flatMap_cons, everything]

theorem owner_of_mem_records {scan : StoredScan} {record : PermissionRecord}
    (inside : record ∈ scan.records codec) : record.scanRunId = scan.run.id := by
  rcases List.mem_filterMap.mp inside with ⟨perm, _, made⟩
  rcases Option.map_eq_some_iff.mp made with ⟨row, _, rfl⟩
  rfl

theorem owner_of_mem_errorRecords {scan : StoredScan} {record : ScanErrorRecord}
    (inside : record ∈ scan.errorRecords) : record.scanRunId = scan.run.id := by
  rcases List.mem_map.mp inside with ⟨error, _, rfl⟩
  rfl

/-- A deleted scan takes its rows with it, and no others. -/
theorem deleteEffect_layOut (id : String) :
    deleteEffect id (layOut codec scans) =
      (scans.countP (fun scan => scan.run.id = id),
        layOut codec (scans.filter (fun scan => scan.run.id ≠ id))) := by
  rw [deleteEffect]
  unfold Tables.deleteScanRun Tables.deleteErrors Tables.deletePermissions layOut
  dsimp only
  rw [List.countP_map, List.filter_map,
    filter_flatMap_records (fun owner => owner ≠ id) (StoredScan.records codec)
      PermissionRecord.scanRunId (fun _ _ => owner_of_mem_records),
    filter_flatMap_records (fun owner => owner ≠ id) StoredScan.errorRecords
      ScanErrorRecord.scanRunId (fun _ _ => owner_of_mem_errorRecords)]
  rfl

end Rows

/-! ## Runs -/

section Steps

variable {codec : RowCodec} {archive : Archive} {action : Action}

/-- What a session does to the tables is what the archive does to the scans. -/
theorem complete_toSession (wellFormed : archive.WellFormed codec) :
    (archive.toSession codec).complete codec action =
      (archive.complete codec action).map (fun done => (done.1, done.2.toSession codec)) := by
  cases archive with
  | idle scans =>
      cases action with
      | beginScan run =>
          change (insertScanRunEffect run (layOut codec scans)).map _ = _
          rw [insertScanRunEffect_layOut, Archive.complete]
          split
          · rfl
          · rfl
      | persistScanAtomic run permissions errors =>
          change (persistEffect codec run permissions errors (layOut codec scans)).map _ = _
          rw [persistEffect_layOut, Archive.complete]
          split
          · rfl
          · rfl
      | deleteScanRun id =>
          change some (some (deleteEffect id (layOut codec scans)).1,
            Session.idle (deleteEffect id (layOut codec scans)).2) = _
          rw [deleteEffect_layOut]
          rfl
      | addPermission place perm => rfl
      | addError place error => rfl
      | commit place finishedAt => rfl
      | dropWriter place => rfl
  | writing scans pending =>
      have fresh : pending.run.id ∉ scanIds scans := by
        have distinct := wellFormed.distinct
        rw [Archive.all, scanIds, List.map_append, List.nodup_append] at distinct
        intro taken
        exact distinct.2.2 _ taken _ (List.mem_singleton_self _) rfl
      cases action with
      | beginScan run => rfl
      | persistScanAtomic run permissions errors => rfl
      | deleteScanRun id => rfl
      | addPermission place perm =>
          cases place with
          | succ place => rfl
          | zero =>
              change (addPermissionEffect codec pending.run.id perm
                (layOut codec (scans ++ [pending]))).map _ = _
              rw [addPermissionEffect_layOut, Archive.complete]
              split
              · rfl
              · rfl
      | addError place error =>
          cases place with
          | succ place => rfl
          | zero =>
              have effect := @addErrorEffect_layOut codec scans pending error
              change Option.map (fun done : Unit × Tables => (none,
                Session.writing (layOut codec scans) done.2 ⟨pending.run.id⟩))
                (addErrorEffect pending.run.id error (layOut codec (scans ++ [pending]))) = _
              rw [effect]
              rfl
      | commit place finishedAt =>
          cases place with
          | succ place => rfl
          | zero =>
              change some (none, Session.idle (finishEffect pending.run.id finishedAt
                (layOut codec (scans ++ [pending])))) = _
              rw [finishEffect_layOut fresh]
              rfl
      | dropWriter place =>
          cases place with
          | succ place => rfl
          | zero => rfl

theorem abandon_toSession :
    (archive.toSession codec).abandon action = (archive.abandon action).toSession codec := by
  cases archive with
  | idle scans => rfl
  | writing scans pending =>
      cases action with
      | commit place finishedAt =>
          cases place with
          | zero => rfl
          | succ place => rfl
      | beginScan run => rfl
      | persistScanAtomic run permissions errors => rfl
      | deleteScanRun id => rfl
      | addPermission place perm => rfl
      | addError place error => rfl
      | dropWriter place => rfl

/-- Fewer scans stay well-formed. -/
theorem Archive.WellFormed.of_sublist {next : Archive} (wellFormed : archive.WellFormed codec)
    (fewer : next.all.Sublist archive.all) : next.WellFormed codec where
  distinct := List.Sublist.nodup (List.Sublist.map (fun scan : StoredScan => scan.run.id) fewer)
    wellFormed.distinct
  encodes := fun scan inside => wellFormed.encodes scan (fewer.subset inside)

/-- The last scan may get another finish time and further rows that encode. -/
theorem Archive.WellFormed.of_last {scans : List StoredScan} {before after : StoredScan}
    {next : Archive} (wellFormed : archive.WellFormed codec)
    (last : archive.all = scans ++ [before]) (now : next.all = scans ++ [after])
    (same : after.run.id = before.run.id)
    (encodes : ∀ perm ∈ after.permissions, perm ∈ before.permissions ∨ Encodes codec perm = true) :
    next.WellFormed codec := by
  rcases wellFormed with ⟨distinct, written⟩
  rw [last] at distinct written
  constructor
  · rw [now, scanIds, List.map_append, List.map_singleton, same]
    rwa [scanIds, List.map_append] at distinct
  · intro scan inside perm listed
    rw [now] at inside
    rcases List.mem_append.mp inside with earlier | here
    · exact written scan (List.mem_append_left _ earlier) perm listed
    · rw [List.mem_singleton.mp here] at listed
      rcases encodes perm listed with known | encoded
      · exact written before (List.mem_append_right _ (List.mem_singleton_self _)) perm known
      · exact encoded

/-- A scan with an id of its own may be added. -/
theorem Archive.WellFormed.add {scans : List StoredScan} {added : StoredScan} {next : Archive}
    (wellFormed : (Archive.idle scans).WellFormed codec) (now : next.all = scans ++ [added])
    (fresh : added.run.id ∉ scanIds scans)
    (encodes : ∀ perm ∈ added.permissions, Encodes codec perm = true) : next.WellFormed codec := by
  constructor
  · rw [now, scanIds, List.map_append, List.map_singleton]
    refine List.nodup_append.mpr ⟨wellFormed.distinct, List.nodup_singleton _, ?_⟩
    intro id taken other here same
    rw [List.mem_singleton.mp here] at same
    exact fresh (same ▸ taken)
  · intro scan inside perm listed
    rw [now] at inside
    rcases List.mem_append.mp inside with earlier | here
    · exact wellFormed.encodes scan earlier perm listed
    · exact encodes perm (List.mem_singleton.mp here ▸ listed)

theorem wellFormed_complete {reply : Option Nat} {next : Archive}
    (wellFormed : archive.WellFormed codec)
    (completes : archive.complete codec action = some (reply, next)) : next.WellFormed codec := by
  cases archive with
  | idle scans =>
      cases action with
      | beginScan run =>
          rw [Archive.complete] at completes
          split at completes
          · cases completes
          · next fresh =>
              cases completes
              exact wellFormed.add rfl fresh (fun perm listed => absurd listed List.not_mem_nil)
      | persistScanAtomic run permissions errors =>
          rw [Archive.complete] at completes
          split at completes
          · next both =>
              cases completes
              exact wellFormed.add rfl both.1 (List.all_eq_true.mp both.2)
          · cases completes
      | deleteScanRun id =>
          cases completes
          exact wellFormed.of_sublist List.filter_sublist
      | addPermission place perm =>
          cases completes
          exact wellFormed
      | addError place error =>
          cases completes
          exact wellFormed
      | commit place finishedAt =>
          cases completes
          exact wellFormed
      | dropWriter place =>
          cases completes
          exact wellFormed
  | writing scans pending =>
      cases action with
      | beginScan run => cases completes
      | persistScanAtomic run permissions errors => cases completes
      | deleteScanRun id => cases completes
      | addPermission place perm =>
          cases place with
          | succ place =>
              cases completes
              exact wellFormed
          | zero =>
              rw [Archive.complete] at completes
              split at completes
              · next encodes =>
                  cases completes
                  refine wellFormed.of_last rfl rfl rfl ?_
                  intro other listed
                  rcases List.mem_append.mp listed with known | here
                  · exact .inl known
                  · exact .inr (List.mem_singleton.mp here ▸ encodes)
              · cases completes
      | addError place error =>
          cases place with
          | succ place =>
              cases completes
              exact wellFormed
          | zero =>
              cases completes
              exact wellFormed.of_last rfl rfl rfl (fun perm listed => .inl listed)
      | commit place finishedAt =>
          cases place with
          | succ place =>
              cases completes
              exact wellFormed
          | zero =>
              cases completes
              cases finishedAt with
              | none => exact wellFormed.of_last rfl rfl rfl (fun perm listed => .inl listed)
              | some time => exact wellFormed.of_last rfl rfl rfl (fun perm listed => .inl listed)
      | dropWriter place =>
          cases place with
          | succ place =>
              cases completes
              exact wellFormed
          | zero =>
              cases completes
              exact wellFormed.of_sublist (List.sublist_append_left scans [pending])

theorem wellFormed_abandon (wellFormed : archive.WellFormed codec) :
    (archive.abandon action).WellFormed codec := by
  rw [Archive.abandon.eq_def]
  split
  · next scans pending finishedAt =>
      exact wellFormed.of_sublist (List.sublist_append_left scans [pending])
  · exact wellFormed

end Steps

section Runs

variable (codec : RowCodec)

/-- The replies of a run, and the state after it. -/
def runSteps : StoreState → List (Action × Option StoreFault) → List Reply × StoreState
  | state, [] => ([], state)
  | state, (action, fault) :: rest =>
      let (reply, next) := step codec state action fault
      let (replies, last) := runSteps next rest
      (reply :: replies, last)

/-- What a run with these replies leaves of an archive: an action that replies has completed,
one that fails is abandoned. -/
inductive Recorded : Archive → List (Action × Option StoreFault) → List Reply → Archive → Prop where
  | done (archive : Archive) : Recorded archive [] [] archive
  | completed {archive next last : Archive} {action : Action} {fault : Option StoreFault}
      {reply : Option Nat} {rest : List (Action × Option StoreFault)} {replies : List Reply}
      (completes : archive.complete codec action = some (reply, next))
      (further : Recorded next rest replies last) :
      Recorded archive ((action, fault) :: rest) (.ok reply :: replies) last
  | abandoned {archive last : Archive} {action : Action} {fault : Option StoreFault}
      {reason : CoreError} {rest : List (Action × Option StoreFault)} {replies : List Reply}
      (further : Recorded (archive.abandon action) rest replies last) :
      Recorded archive ((action, fault) :: rest) (.error reason :: replies) last

/-- A run whose actions are spared follows the archive. -/
theorem recorded_of_spared {archive : Archive} (wellFormed : archive.WellFormed codec)
    (steps : List (Action × Option StoreFault))
    (spared : RunSpared codec (archive.toSession codec).toState steps) :
    ∃ last, Recorded codec archive steps
        (runSteps codec (archive.toSession codec).toState steps).1 last ∧
      last.WellFormed codec ∧
      (runSteps codec (archive.toSession codec).toState steps).2 =
        (last.toSession codec).toState := by
  induction steps generalizing archive with
  | nil => exact ⟨archive, .done archive, wellFormed, rfl⟩
  | cons first rest known =>
      rcases first with ⟨action, fault⟩
      rcases spared with ⟨⟨session, found, here⟩, later⟩
      cases toState_injective found
      rcases (atomicStep_iff codec _ action fault).mpr here with
        ⟨reply, next, completes, stepped⟩ | ⟨reason, stepped⟩
      · rw [complete_toSession wellFormed] at completes
        rcases Option.map_eq_some_iff.mp completes with ⟨⟨replied, after⟩, reached, same⟩
        cases same
        rw [stepped] at later
        rcases known (wellFormed_complete wellFormed reached) later with
          ⟨last, recorded, kept, ended⟩
        refine ⟨last, ?_, kept, ?_⟩
        · rw [runSteps, stepped]
          exact .completed reached recorded
        · rw [runSteps, stepped]
          exact ended
      · rw [abandon_toSession] at stepped
        rw [stepped] at later
        rcases known (wellFormed_abandon wellFormed) later with ⟨last, recorded, kept, ended⟩
        refine ⟨last, ?_, kept, ?_⟩
        · rw [runSteps, stepped]
          exact .abandoned recorded
        · rw [runSteps, stepped]
          exact ended

end Runs

end Persistence
end Stars
