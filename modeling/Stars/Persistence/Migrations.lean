import Stars.Core.Error
import Stars.Storage.Script

namespace Stars
namespace Persistence

open Storage

/-!
# Schema migrations

Each migration runs as one script: BEGIN, its statements, the new `user_version`, and
COMMIT.  A statement that fails ends the script where it stands; nothing rolls the
transaction back.  `resumable_iff` says at which statements that is harmless.

Of the database only the schema and its version are modelled; the statement that fills
new columns from another table needs these columns and changes none.
-/

structure Column where
  name : String
  declaration : String
deriving DecidableEq

structure TableSchema where
  name : String
  columns : List Column
  constraints : List String := []
deriving DecidableEq

structure IndexSchema where
  name : String
  table : String
  column : String
deriving DecidableEq

structure Database where
  tables : List TableSchema := []
  indexes : List IndexSchema := []
  userVersion : Nat := 0
deriving DecidableEq

inductive MigrationStatement where
  | readUserVersion
  | createTable (table : TableSchema)
  | addColumn (table : String) (column : Column)
  /-- Columns filled from those of the row of another table with the same key. -/
  | fillFrom (table : String) (assigned : List (String × String)) (source key : String)
  | createIndex (index : IndexSchema)
  | setUserVersion (version : Nat)
deriving DecidableEq

namespace Database

def columnsOf (database : Database) (table : String) : Except String (List String) :=
  match database.tables.find? (fun entry => entry.name = table) with
  | some entry => .ok (entry.columns.map Column.name)
  | none => .error s!"no such table: {table}"

def requireColumns (database : Database) (table : String) (names : List String) :
    Except String Unit := do
  let columns ← database.columnsOf table
  match names.find? (fun name => name ∉ columns) with
  | some name => .error s!"no such column: {name}"
  | none => .ok ()

/-- What a statement makes of the schema. -/
def apply (statement : MigrationStatement) (database : Database) : Except String Database :=
  match statement with
  | .readUserVersion => .ok database
  | .createTable table =>
      -- IF NOT EXISTS
      if database.tables.any (fun entry => entry.name = table.name) then .ok database
      else .ok { database with tables := database.tables ++ [table] }
  | .addColumn table column => do
      let columns ← database.columnsOf table
      if column.name ∈ columns then .error s!"duplicate column name: {column.name}"
      else .ok { database with tables := database.tables.map (fun entry =>
        if entry.name = table then { entry with columns := entry.columns ++ [column] }
        else entry) }
  | .fillFrom table assigned source key => do
      database.requireColumns table (key :: assigned.map Prod.fst)
      database.requireColumns source (key :: assigned.map Prod.snd)
      pure database
  | .createIndex index =>
      -- IF NOT EXISTS
      if database.indexes.any (fun entry => entry.name = index.name) then .ok database
      else do
        database.requireColumns index.table [index.column]
        pure { database with indexes := database.indexes ++ [index] }
  | .setUserVersion version => .ok { database with userVersion := version }

end Database

structure Migration where
  version : Nat
  statements : List MigrationStatement

def effectivePermissions : String := "effective_permissions"

def schemaV1 : List MigrationStatement := [
  .createTable
    { name := "scan_runs"
      columns := [⟨"id", "TEXT PRIMARY KEY"⟩, ⟨"started_at", "TEXT NOT NULL"⟩,
        ⟨"finished_at", "TEXT"⟩, ⟨"target", "TEXT NOT NULL"⟩] },
  .createTable
    { name := "scan_errors"
      columns := [⟨"id", "INTEGER PRIMARY KEY AUTOINCREMENT"⟩,
        ⟨"scan_run_id", "TEXT NOT NULL REFERENCES scan_runs(id)"⟩, ⟨"path", "TEXT"⟩,
        ⟨"message", "TEXT NOT NULL"⟩] },
  .createTable
    { name := "identities"
      columns := [⟨"sid", "TEXT PRIMARY KEY"⟩, ⟨"name", "TEXT"⟩, ⟨"domain", "TEXT"⟩,
        ⟨"kind", "TEXT NOT NULL"⟩, ⟨"disabled", "INTEGER NOT NULL DEFAULT 0"⟩] },
  .createTable
    { name := "group_memberships"
      columns := [⟨"member_sid", "TEXT NOT NULL"⟩, ⟨"group_sid", "TEXT NOT NULL"⟩,
        ⟨"direct", "INTEGER NOT NULL DEFAULT 1"⟩]
      constraints := ["PRIMARY KEY (member_sid, group_sid)"] },
  .createTable
    { name := effectivePermissions
      columns := [⟨"id", "INTEGER PRIMARY KEY AUTOINCREMENT"⟩,
        ⟨"scan_run_id", "TEXT NOT NULL REFERENCES scan_runs(id)"⟩, ⟨"sid", "TEXT NOT NULL"⟩,
        ⟨"path", "TEXT NOT NULL"⟩, ⟨"ntfs_mask", "INTEGER NOT NULL"⟩,
        ⟨"share_mask", "INTEGER"⟩, ⟨"effective_mask", "INTEGER NOT NULL"⟩,
        ⟨"explanation", "TEXT NOT NULL DEFAULT '[]'"⟩] }]

def schemaV2 : List MigrationStatement := [
  .addColumn effectivePermissions ⟨"share_status", "TEXT NOT NULL DEFAULT 'NotApplicable'"⟩,
  .addColumn effectivePermissions ⟨"share_error", "TEXT"⟩,
  .addColumn effectivePermissions ⟨"contributing_sids", "TEXT NOT NULL DEFAULT '[]'"⟩]

def schemaV3 : List MigrationStatement := [
  .addColumn effectivePermissions ⟨"unsupported_ace_count", "INTEGER NOT NULL DEFAULT 0"⟩]

def schemaV4 : List MigrationStatement := [
  .addColumn effectivePermissions ⟨"matched_aces", "TEXT NOT NULL DEFAULT '[]'"⟩]

def schemaV5 : List MigrationStatement := [
  .addColumn effectivePermissions
    ⟨"local_group_status", "TEXT NOT NULL DEFAULT 'NotQueried'"⟩,
  .addColumn effectivePermissions ⟨"local_group_error", "TEXT"⟩]

def schemaV6 : List MigrationStatement := [
  .addColumn effectivePermissions ⟨"diagnostics", "TEXT NOT NULL DEFAULT '[]'"⟩]

def schemaV7 : List MigrationStatement := [
  .addColumn effectivePermissions ⟨"identity_name", "TEXT"⟩,
  .addColumn effectivePermissions ⟨"identity_domain", "TEXT"⟩,
  .addColumn effectivePermissions ⟨"identity_kind", "TEXT NOT NULL DEFAULT 'Unknown'"⟩,
  .addColumn effectivePermissions ⟨"identity_disabled", "INTEGER NOT NULL DEFAULT 0"⟩,
  .fillFrom effectivePermissions
    [("identity_name", "name"), ("identity_domain", "domain"), ("identity_kind", "kind"),
      ("identity_disabled", "disabled")] "identities" "sid"]

def schemaV8 : List MigrationStatement := [
  .createIndex ⟨"idx_effective_permissions_scan_run_id", effectivePermissions, "scan_run_id"⟩,
  .createIndex ⟨"idx_scan_errors_scan_run_id", "scan_errors", "scan_run_id"⟩]

def migrations : List Migration := [
  ⟨1, schemaV1⟩, ⟨2, schemaV2⟩, ⟨3, schemaV3⟩, ⟨4, schemaV4⟩, ⟨5, schemaV5⟩, ⟨6, schemaV6⟩,
  ⟨7, schemaV7⟩, ⟨8, schemaV8⟩]

def latestVersion : Nat := 8

namespace Migration

/-- The changes between BEGIN and COMMIT. -/
def changes (migration : Migration) : List MigrationStatement :=
  migration.statements ++ [.setUserVersion migration.version]

def script (migration : Migration) : List (Statement MigrationStatement) :=
  transactionOf migration.changes

end Migration

abbrev MigrationOperation := Operation MigrationStatement Database CoreError

/-- `PRAGMA user_version`, as the connection sees it: also what an open transaction set. -/
def readUserVersion : MigrationOperation Nat :=
  Operation.mapError (fun reason => .database s!"Cannot read schema version: {reason}")
    (change .readUserVersion (fun database => .ok (database.userVersion, database)))

def applyPending (current : Nat) (migration : Migration) : MigrationOperation Unit :=
  if migration.version ≤ current then pure ()
  else
    Operation.mapError
      (fun reason => .database s!"Migration v{migration.version} failed: {reason}")
      (runScript Database.apply migration.script)

/-- All pending migrations in ascending order. -/
def runMigrations : MigrationOperation Unit := do
  let current ← readUserVersion
  migrations.forM (applyPending current)

def upgraded (database : Database) (migration : Migration) : Database :=
  match applyAll Database.apply migration.changes database with
  | .ok next => next
  | .error _ => database

/-- The database after the migrations up to a version. -/
def databaseAt (version : Nat) : Database := (migrations.take version).foldl upgraded {}

/-- What is executed from a version on after the version was read. -/
def scriptFrom (version : Nat) : List (Statement MigrationStatement) :=
  (migrations.drop version).flatMap Migration.script

theorem userVersion_databaseAt {version : Nat} (bounded : version ≤ latestVersion) :
    (databaseAt version).userVersion = version := by
  have all : ∀ number : Fin 9, (databaseAt number).userVersion = number := by decide
  exact all ⟨version, Nat.lt_succ_of_le bounded⟩

/-- A migration is the next one, and its statements apply to the schema before it. -/
theorem migration_at {version : Nat} (bounded : version < latestVersion) :
    ∃ migration, migrations.drop version = migration :: migrations.drop (version + 1) ∧
      migration.version = version + 1 ∧
      applyAll Database.apply migration.changes (databaseAt version) =
        .ok (databaseAt (version + 1)) := by
  have all : ∀ number : Fin 8,
      migrations[number].version = number + 1 ∧
        (applyAll Database.apply migrations[number].changes (databaseAt number)).toOption =
          some (databaseAt (number + 1)) := by decide
  have known := all ⟨version, bounded⟩
  refine ⟨migrations[version], List.drop_eq_getElem_cons bounded, known.1, ?_⟩
  cases applied : applyAll Database.apply migrations[version].changes (databaseAt version) with
  | error reason =>
      have none := known.2
      rw [show migrations[(⟨version, bounded⟩ : Fin 8)] = migrations[version] from rfl,
        applied] at none
      cases none
  | ok next =>
      have same := known.2
      rw [show migrations[(⟨version, bounded⟩ : Fin 8)] = migrations[version] from rfl,
        applied] at same
      exact congrArg Except.ok (Option.some.inj same)

theorem version_le_of_mem_take {version : Nat} (bounded : version ≤ latestVersion) :
    ∀ migration ∈ migrations.take version, migration.version ≤ version := by
  have all : ∀ number : Fin 9,
      (migrations.take number).all (fun migration => migration.version ≤ number) = true := by
    decide
  intro migration listed
  exact of_decide_eq_true
    (List.all_eq_true.mp (all ⟨version, Nat.lt_succ_of_le bounded⟩) migration listed)

/-! ## The pending migrations -/

section Pending

variable {current version : Nat} {fault : Option (Fault MigrationStatement)}

/-- How the pending migrations end: all are applied, or the fault hits one of them.
At its BEGIN the connection is left at a version; elsewhere in an open transaction. -/
inductive PendingOutcome (version : Nat) (fault : Option (Fault MigrationStatement)) :
    Except CoreError Unit × Connection MigrationStatement Database → Prop where
  | done (passed : ¬ Hits fault (scriptFrom version)) :
      PendingOutcome version fault
        (.ok (), ⟨databaseAt latestVersion, none, leftOf fault (scriptFrom version)⟩)
  | notBegun {reached : Nat} {reason : CoreError} (hit : Hits fault (scriptFrom version))
      (statement : fault.map Fault.statement = some .begin) (start : version ≤ reached)
      (bounded : reached ≤ latestVersion) :
      PendingOutcome version fault (.error reason, ⟨databaseAt reached, none, none⟩)
  | leftOpen {reached : Nat} {reason : CoreError} {working : Database}
      (hit : Hits fault (scriptFrom version))
      (statement : fault.map Fault.statement ≠ some .begin) :
      PendingOutcome version fault (.error reason, ⟨databaseAt reached, some working, none⟩)

theorem applyPending_of_lt {migration : Migration} (pending : current < migration.version) :
    applyPending current migration =
      Operation.mapError
        (fun reason => .database s!"Migration v{migration.version} failed: {reason}")
        (runScript Database.apply migration.script) := by
  rw [applyPending, if_neg (Nat.not_le.mpr pending)]

theorem scriptFrom_cons {migration : Migration}
    (listed : migrations.drop version = migration :: migrations.drop (version + 1)) :
    scriptFrom version = migration.script ++ scriptFrom (version + 1) := by
  rw [scriptFrom, listed, List.flatMap_cons]
  rfl

/-- A migration in front of the pending ones that the fault does not hit. -/
theorem PendingOutcome.before {migration : Migration}
    {outcome : Except CoreError Unit × Connection MigrationStatement Database}
    (listed : migrations.drop version = migration :: migrations.drop (version + 1))
    (passed : ¬ Hits fault migration.script)
    (later : PendingOutcome (version + 1) (leftOf fault migration.script) outcome) :
    PendingOutcome version fault outcome := by
  have hits : Hits fault (scriptFrom version) ↔
      Hits (leftOf fault migration.script) (scriptFrom (version + 1)) := by
    rw [scriptFrom_cons listed, hits_append, or_iff_right passed]
  cases later with
  | done clear =>
      rw [← leftOf_append, ← scriptFrom_cons listed]
      exact .done (fun hit => clear (hits.mp hit))
  | notBegun hit statement start bounded =>
      rw [statement_leftOf] at statement
      exact .notBegun (hits.mpr hit) statement (Nat.le_of_succ_le start) bounded
  | leftOpen hit statement =>
      rw [statement_leftOf] at statement
      exact .leftOpen (hits.mpr hit) statement

/-- The pending migrations one after the other, by the number of them. -/
theorem pendingOutcome (remaining : Nat) (reaches : version + remaining = latestVersion)
    (read : current ≤ version) :
    PendingOutcome version fault
      ((migrations.drop version).forM (applyPending current)
        ⟨databaseAt version, none, fault⟩) := by
  induction remaining generalizing version fault with
  | zero =>
      have last : version = latestVersion := reaches
      have empty : scriptFrom version = [] := by
        rw [last]
        rfl
      have passed : ¬ Hits fault (scriptFrom version) := by
        rw [empty]
        exact not_hits_nil
      have done := PendingOutcome.done passed
      rw [empty] at done
      rw [last] at done ⊢
      exact done
  | succ remaining ih =>
      have bounded : version < latestVersion := by omega
      rcases migration_at bounded with ⟨migration, listed, next, applied⟩
      have pending : current < migration.version := by omega
      rw [listed]
      change PendingOutcome version fault (Operation.andThen
        (applyPending current migration ⟨databaseAt version, none, fault⟩)
        (fun _ => (migrations.drop (version + 1)).forM (applyPending current)))
      rw [applyPending_of_lt pending]
      rcases runTransaction_outcome fault applied with
        ⟨passed, done⟩ | ⟨hit, statement, reason, failed⟩ | ⟨hit, statement, reason, working, failed⟩
      · rw [Migration.script, Operation.mapError_ok _ done, Operation.andThen]
        exact .before listed passed (ih (by omega) (by omega))
      · rw [Migration.script, Operation.mapError_error _ failed, Operation.andThen]
        refine .notBegun ?_ statement (Nat.le_refl version) (Nat.le_of_lt bounded)
        rw [scriptFrom_cons listed, hits_append]
        exact Or.inl hit
      · rw [Migration.script, Operation.mapError_error _ failed, Operation.andThen]
        refine .leftOpen ?_ statement
        rw [scriptFrom_cons listed, hits_append]
        exact Or.inl hit

end Pending

/-! ## Faults and resumption -/

/-- The statements executed from a version on. -/
def statementsFrom (version : Nat) : List (Statement MigrationStatement) :=
  .change .readUserVersion :: scriptFrom version

/-- The connection after a run from a version with a statement made to fail. -/
def disturbed (version : Nat) (fault : Option (Fault MigrationStatement)) :
    Except CoreError Unit × Connection MigrationStatement Database :=
  withFault fault runMigrations ⟨databaseAt version, none, none⟩

/-- The database is at a completed version, no transaction is open, and a later run
reaches the latest version. -/
def Resumable (version : Nat) (fault : Option (Fault MigrationStatement)) : Prop :=
  ∃ reached, version ≤ reached ∧ reached ≤ latestVersion ∧
    (disturbed version fault).2 = ⟨databaseAt reached, none, none⟩ ∧
    runMigrations (disturbed version fault).2 =
      (.ok (), ⟨databaseAt latestVersion, none, none⟩)

theorem forM_skipped {current : Nat} {skipped : List Migration}
    (below : ∀ migration ∈ skipped, migration.version ≤ current)
    (connection : Connection MigrationStatement Database) :
    skipped.forM (applyPending current) connection = (.ok (), connection) := by
  induction skipped with
  | nil => rfl
  | cons migration rest ih =>
      have first : applyPending current migration = pure () := by
        rw [applyPending, if_pos (below migration List.mem_cons_self)]
      change Operation.andThen (applyPending current migration connection) _ = _
      rw [first]
      exact ih (fun other listed => below other (.tail _ listed))

/-- From a version on only the later migrations run. -/
theorem forM_migrations {version : Nat} (bounded : version ≤ latestVersion)
    (connection : Connection MigrationStatement Database) :
    migrations.forM (applyPending version) connection =
      (migrations.drop version).forM (applyPending version) connection := by
  have parts := Operation.forM_append (applyPending version) (migrations.take version)
    (migrations.drop version) connection
  rw [List.take_append_drop, forM_skipped (version_le_of_mem_take bounded)] at parts
  exact parts

theorem readUserVersion_of_fails (version : Nat) {fault : Option (Fault MigrationStatement)}
    (fails : Fails (.change .readUserVersion) fault) :
    ∃ reason, readUserVersion ⟨databaseAt version, none, fault⟩ =
      (.error reason, ⟨databaseAt version, none, none⟩) := by
  have failing : Fails (.change .readUserVersion)
      (Connection.mk (databaseAt version) none fault).fault := fails
  rcases execute_of_fails failing with ⟨reason, failed⟩
  exact ⟨_, Operation.mapError_error _ failed⟩

theorem readUserVersion_of_passes {version : Nat} {fault : Option (Fault MigrationStatement)}
    (bounded : version ≤ latestVersion) (passes : ¬ Fails (.change .readUserVersion) fault) :
    readUserVersion ⟨databaseAt version, none, fault⟩ =
      (.ok version, ⟨databaseAt version, none, passedFault fault (.change .readUserVersion)⟩) := by
  have passing : ¬ Fails (.change .readUserVersion)
      (Connection.mk (databaseAt version) none fault).fault := passes
  refine Operation.mapError_ok _ ?_
  rw [change, execute_of_not_fails passing]
  dsimp only [Except.map]
  rw [userVersion_databaseAt bounded]

theorem runMigrations_of_passes {version : Nat} {fault : Option (Fault MigrationStatement)}
    (bounded : version ≤ latestVersion) (passes : ¬ Fails (.change .readUserVersion) fault) :
    PendingOutcome version (passedFault fault (.change .readUserVersion))
      (runMigrations ⟨databaseAt version, none, fault⟩) := by
  rw [runMigrations, Operation.bind_of_ok (readUserVersion_of_passes bounded passes),
    forM_migrations bounded]
  exact pendingOutcome (latestVersion - version) (by omega) (Nat.le_refl version)

/-- A run without a failure reaches the latest version from every version. -/
theorem runMigrations_undisturbed {version : Nat} (bounded : version ≤ latestVersion) :
    runMigrations ⟨databaseAt version, none, none⟩ =
      (.ok (), ⟨databaseAt latestVersion, none, none⟩) := by
  have passes : ¬ Fails (.change .readUserVersion)
      (none : Option (Fault MigrationStatement)) := by
    intro fails
    rcases fails with ⟨_, impossible, _⟩
    cases impossible
  have outcome := runMigrations_of_passes bounded passes
  generalize runMigrations ⟨databaseAt version, none, none⟩ = result at outcome
  cases outcome with
  | done _ => rw [passedFault, Option.map_none, leftOf_none]
  | notBegun hit => exact absurd hit not_hits_none
  | leftOpen hit => exact absurd hit not_hits_none

theorem readUserVersion_not_mem {version : Nat} (bounded : version ≤ latestVersion) :
    .change .readUserVersion ∉ scriptFrom version := by
  have all : ∀ number : Fin 9, Statement.change .readUserVersion ∉ scriptFrom number := by
    decide
  exact all ⟨version, Nat.lt_succ_of_le bounded⟩

/-- A run is resumable exactly when no statement is hit but the reading of the version or
a BEGIN. -/
theorem resumable_iff {version : Nat} (bounded : version ≤ latestVersion)
    (fault : Option (Fault MigrationStatement)) :
    Resumable version fault ↔
      (Hits fault (statementsFrom version) →
        fault.map Fault.statement = some .begin ∨
          fault.map Fault.statement = some (.change .readUserVersion)) := by
  by_cases fails : Fails (.change .readUserVersion) fault
  · rcases readUserVersion_of_fails version fails with ⟨reason, failed⟩
    have stopped : disturbed version fault =
        (.error reason, ⟨databaseAt version, none, none⟩) := by
      rw [disturbed, withFault, runMigrations, Operation.bind_of_error failed]
    refine iff_of_true ⟨version, Nat.le_refl _, bounded, ?_, ?_⟩
      (fun _ => Or.inr fails.statement_eq)
    · rw [stopped]
    · rw [stopped]
      exact runMigrations_undisturbed bounded
  · have outcome := runMigrations_of_passes bounded fails
    have hits : Hits fault (statementsFrom version) ↔
        Hits (passedFault fault (.change .readUserVersion)) (scriptFrom version) := by
      rw [statementsFrom, hits_cons, or_iff_right fails]
    have kept : (passedFault fault (.change .readUserVersion)).map Fault.statement =
        fault.map Fault.statement := statement_leftOf fault [.change .readUserVersion]
    rw [Resumable, disturbed, withFault, hits]
    generalize runMigrations ⟨databaseAt version, none, fault⟩ = result at outcome
    cases outcome with
    | done passed =>
        exact iff_of_true ⟨latestVersion, bounded, Nat.le_refl _, rfl,
          runMigrations_undisturbed (Nat.le_refl _)⟩ (fun hit => absurd hit passed)
    | notBegun _ statement start reachedBounded =>
        rw [kept] at statement
        exact iff_of_true ⟨_, start, reachedBounded, rfl, runMigrations_undisturbed reachedBounded⟩
          (fun _ => Or.inl statement)
    | leftOpen hit statement =>
        rw [kept] at statement
        refine iff_of_false ?_ ?_
        · intro resumable
          rcases resumable with ⟨_, _, _, same, _⟩
          cases congrArg Connection.working same
        · intro harmless
          rcases harmless hit with beginning | read
          · exact statement beginning
          · rcases hit.statement_mem with ⟨executed, listed, named⟩
            rw [kept, read] at named
            rw [← Option.some.inj named] at listed
            exact readUserVersion_not_mem bounded listed

/-- A BEGIN that fails is harmless, here the one of the third pending migration. -/
theorem resumable_iff_begin :
    latestVersion ≥ 2 ∧
      Resumable 2 (some { statement := .begin, after := 2, reason := "disk I/O error" }) :=
  ⟨by decide, (resumable_iff (by decide) _).mpr (fun _ => Or.inl rfl)⟩

/-- The COMMIT of the last migration fails because the database is locked. -/
def lockedCommit : Fault MigrationStatement where
  statement := .commit
  reason := "database is locked"

/-- A column of the third migration cannot be added. -/
def refusedColumn : Fault MigrationStatement where
  statement := .change
    (.addColumn effectivePermissions ⟨"unsupported_ace_count", "INTEGER NOT NULL DEFAULT 0"⟩)
  reason := "disk I/O error"

/-- After either failure the transaction is still open.  A later run finds the version of
the uncommitted migration and succeeds with nothing stored, or cannot begin. -/
theorem leftOpen_afterFailure :
    ¬ Resumable 7 (some lockedCommit) ∧ ¬ Resumable 2 (some refusedColumn) ∧
      (disturbed 7 (some lockedCommit)).2 = ⟨databaseAt 7, some (databaseAt 8), none⟩ ∧
      (runMigrations (disturbed 7 (some lockedCommit)).2).1.toOption = some () ∧
      (runMigrations (disturbed 7 (some lockedCommit)).2).2.committed = databaseAt 7 ∧
      (runMigrations (disturbed 2 (some refusedColumn)).2).1.toOption = none := by
  have locked : (disturbed 7 (some lockedCommit)).2 = ⟨databaseAt 7, some (databaseAt 8), none⟩ := by
    decide
  have refused : (disturbed 2 (some refusedColumn)).2.working ≠ none := by decide
  refine ⟨?_, ?_, locked, by decide, by decide, by decide⟩
  · intro resumable
    rcases resumable with ⟨_, _, _, same, _⟩
    cases congrArg Connection.working (locked.symm.trans same)
  · intro resumable
    rcases resumable with ⟨_, _, _, same, _⟩
    exact refused (congrArg Connection.working same)

end Persistence
end Stars
