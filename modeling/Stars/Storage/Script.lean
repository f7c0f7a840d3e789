import Stars.Storage.Transaction

namespace Stars
namespace Storage

/-!
# Scripts

A script runs a list of statements on a connection and stops at the first one that
fails.  Nothing is rolled back there: a script that begins a transaction and fails
before its COMMIT leaves the transaction open.  The fault of the connection hits a
script when it counts down to a statement of it.
-/

section Script

variable {Kind Data : Type} [DecidableEq Kind] (apply : Kind → Data → Except String Data)

def runStatement : Statement Kind → Operation Kind Data String Unit
  | .begin => beginImmediate
  | .commit => commit
  | .rollback => rollback
  | .change kind => change kind (fun data => (apply kind data).map (fun after => ((), after)))

def runScript (script : List (Statement Kind)) : Operation Kind Data String Unit :=
  script.forM (runStatement apply)

/-- The data after the changes of some kinds. -/
def applyAll (kinds : List Kind) (data : Data) : Except String Data :=
  kinds.foldlM (fun data kind => apply kind data) data

/-- Changes inside a transaction of their own. -/
def transactionOf (kinds : List Kind) : List (Statement Kind) :=
  .begin :: (kinds.map Statement.change ++ [.commit])

/-- The statement that is to fail is executed, as often as the fault waits. -/
def Hits (fault : Option (Fault Kind)) (script : List (Statement Kind)) : Prop :=
  ∃ next, fault = some next ∧ next.after < script.count next.statement

/-- What is left of a fault behind a script it does not hit. -/
def leftOf (fault : Option (Fault Kind)) (script : List (Statement Kind)) :
    Option (Fault Kind) :=
  script.foldl passedFault fault

variable {apply} {fault : Option (Fault Kind)} {statement : Statement Kind}
  {script first second : List (Statement Kind)}

theorem not_hits_nil : ¬ Hits fault [] := by
  intro hit
  rcases hit with ⟨next, _, below⟩
  exact absurd below (Nat.not_lt_zero _)

theorem not_hits_none : ¬ Hits none script := by
  intro hit
  rcases hit with ⟨_, impossible, _⟩
  cases impossible

theorem leftOf_none : leftOf none script = none := by
  induction script with
  | nil => rfl
  | cons statement rest ih => exact ih

theorem hits_cons :
    Hits fault (statement :: script) ↔
      Fails statement fault ∨ Hits (passedFault fault statement) script := by
  cases fault with
  | none =>
      refine iff_of_false not_hits_none ?_
      intro hit
      rcases hit with ⟨_, impossible, _⟩ | later
      · cases impossible
      · exact not_hits_none later
  | some next =>
      by_cases same : next.statement = statement
      · have passed : passedFault (some next) statement =
            some { next with after := next.after - 1 } := by
          rw [passedFault, Option.map_some, Fault.passed, if_pos same]
        rw [passed]
        simp only [Hits, Fails, Option.some.injEq, exists_eq_left', same, List.count_cons_self,
          true_and]
        omega
      · have passed : passedFault (some next) statement = some next := by
          rw [passedFault, Option.map_some, Fault.passed, if_neg same]
        rw [passed]
        simp only [Hits, Fails, Option.some.injEq, exists_eq_left', same, false_and, false_or,
          List.count_cons_of_ne (Ne.symm same)]

theorem hits_append :
    Hits fault (first ++ second) ↔ Hits fault first ∨ Hits (leftOf fault first) second := by
  induction first generalizing fault with
  | nil => exact (or_iff_right not_hits_nil).symm
  | cons statement rest ih =>
      rw [List.cons_append, hits_cons, hits_cons, ih, or_assoc]
      rfl

theorem leftOf_append : leftOf fault (first ++ second) = leftOf (leftOf fault first) second :=
  List.foldl_append

/-- A fault keeps its statement. -/
theorem statement_leftOf (fault : Option (Fault Kind)) (script : List (Statement Kind)) :
    (leftOf fault script).map Fault.statement = fault.map Fault.statement := by
  induction script generalizing fault with
  | nil => rfl
  | cons statement rest ih =>
      change (leftOf (passedFault fault statement) rest).map Fault.statement = _
      rw [ih]
      cases fault with
      | none => rfl
      | some next =>
          rw [passedFault, Option.map_some, Fault.passed]
          split
          · rfl
          · rfl

/-- A script is hit at one of its statements. -/
theorem Hits.statement_mem (hit : Hits fault script) :
    ∃ statement ∈ script, fault.map Fault.statement = some statement := by
  rcases hit with ⟨next, found, below⟩
  refine ⟨next.statement, List.count_pos_iff.mp (Nat.zero_lt_of_lt below), ?_⟩
  rw [found, Option.map_some]

omit [DecidableEq Kind] in
theorem Fails.statement_eq (fails : Fails statement fault) :
    fault.map Fault.statement = some statement := by
  rcases fails with ⟨next, found, same, _⟩
  rw [found, Option.map_some, same]

/-! ## Runs -/

variable {committed data after : Data} {kinds : List Kind}

theorem runScript_cons (connection : Connection Kind Data) :
    runScript apply (statement :: script) connection =
      Operation.andThen (runStatement apply statement connection) (fun _ => runScript apply script) :=
  rfl

omit [DecidableEq Kind] in
/-- Operations for the items of two lists, one list after the other. -/
theorem Operation.forM_append {Item Error : Type} (step : Item → Operation Kind Data Error Unit)
    (first second : List Item) (connection : Connection Kind Data) :
    (first ++ second).forM step connection =
      Operation.andThen (first.forM step connection) (fun _ => second.forM step) := by
  induction first generalizing connection with
  | nil => rfl
  | cons item rest ih =>
      change Operation.andThen (step item connection) (fun _ => (rest ++ second).forM step) =
        Operation.andThen (Operation.andThen (step item connection) (fun _ => rest.forM step)) _
      rcases step item connection with ⟨_ | value, next⟩
      · rfl
      · exact ih next

theorem runScript_append (connection : Connection Kind Data) :
    runScript apply (first ++ second) connection =
      Operation.andThen (runScript apply first connection) (fun _ => runScript apply second) :=
  Operation.forM_append (runStatement apply) first second connection

/-- Changes in an open transaction all take place, or one of them is hit and the
transaction stays open. -/
theorem runChanges_outcome (applied : applyAll apply kinds data = .ok after) :
    (¬ Hits fault (kinds.map Statement.change) ∧
      runScript apply (kinds.map .change) ⟨committed, some data, fault⟩ =
        (.ok (), ⟨committed, some after, leftOf fault (kinds.map .change)⟩)) ∨
    (Hits fault (kinds.map Statement.change) ∧ ∃ reason working,
      runScript apply (kinds.map .change) ⟨committed, some data, fault⟩ =
        (.error reason, ⟨committed, some working, none⟩)) := by
  induction kinds generalizing data fault with
  | nil =>
      cases applied
      exact Or.inl ⟨not_hits_nil, rfl⟩
  | cons kind rest ih =>
      have unfolded : (apply kind data >>= fun next => applyAll apply rest next) = .ok after :=
        applied
      cases changed : apply kind data with
      | error reason =>
          rw [changed] at unfolded
          cases unfolded
      | ok next =>
          rw [changed] at unfolded
          rw [List.map_cons, hits_cons, runScript_cons]
          by_cases fails : Fails (.change kind) fault
          · have failing : Fails (.change kind) (Connection.mk committed (some data) fault).fault :=
              fails
            rcases execute_of_fails failing with ⟨reason, failed⟩
            refine Or.inr ⟨Or.inl fails, reason, data, ?_⟩
            rw [runStatement, change, failed]
            rfl
          · have passing :
                ¬ Fails (.change kind) (Connection.mk committed (some data) fault).fault := fails
            have done : runStatement apply (.change kind) ⟨committed, some data, fault⟩ =
                (.ok (), ⟨committed, some next, passedFault fault (.change kind)⟩) := by
              rw [runStatement, change, execute_of_not_fails passing]
              simp only [changed]
              rfl
            rw [done, or_iff_right fails]
            exact ih unfolded

/-- A transaction from an idle connection: it is committed, its BEGIN fails, or it stays
open. -/
theorem runTransaction_outcome (fault : Option (Fault Kind))
    (applied : applyAll apply kinds data = .ok after) :
    (¬ Hits fault (transactionOf kinds) ∧
      runScript apply (transactionOf kinds) ⟨data, none, fault⟩ =
        (.ok (), ⟨after, none, leftOf fault (transactionOf kinds)⟩)) ∨
    (Hits fault (transactionOf kinds) ∧ fault.map Fault.statement = some .begin ∧ ∃ reason,
      runScript apply (transactionOf kinds) ⟨data, none, fault⟩ =
        (.error reason, ⟨data, none, none⟩)) ∨
    (Hits fault (transactionOf kinds) ∧ fault.map Fault.statement ≠ some .begin ∧
      ∃ reason working, runScript apply (transactionOf kinds) ⟨data, none, fault⟩ =
        (.error reason, ⟨data, some working, none⟩)) := by
  rw [transactionOf, hits_cons, hits_append, hits_cons, or_iff_left not_hits_nil, runScript_cons]
  by_cases fails : Fails .begin fault
  · rcases (beginImmediate_of_fails fails none : ∃ reason, beginImmediate
      (Connection.mk data none fault) = (.error reason, ⟨data, none, none⟩)) with ⟨reason, failed⟩
    refine Or.inr (Or.inl ⟨Or.inl fails, fails.statement_eq, reason, ?_⟩)
    rw [runStatement, failed]
    rfl
  · rw [runStatement, beginImmediate_of_idle fails, Operation.andThen, runScript_append,
      or_iff_right fails]
    have other : Hits (passedFault fault .begin) (kinds.map .change) ∨
        Fails .commit (leftOf (passedFault fault .begin) (kinds.map .change)) →
          fault.map Fault.statement ≠ some .begin := by
      intro hit same
      rw [← statement_leftOf fault [.begin]] at same
      rcases hit with changes | commit
      · rcases changes.statement_mem with ⟨statement, listed, named⟩
        rw [leftOf, List.foldl_cons, List.foldl_nil, named] at same
        rcases List.mem_map.mp listed with ⟨kind, _, change⟩
        cases change.trans (Option.some.inj same)
      · have named := commit.statement_eq
        rw [statement_leftOf] at named
        cases named.symm.trans same
    rcases runChanges_outcome applied with ⟨passed, done⟩ | ⟨hit, reason, working, failed⟩
    · rw [done, Operation.andThen, runScript_cons, runStatement, or_iff_right passed]
      by_cases last : Fails .commit (leftOf (passedFault fault .begin) (kinds.map .change))
      · rcases (commit_of_fails last (some after) : ∃ reason, commit
          (Connection.mk data (some after) _) = (.error reason, ⟨data, some after, none⟩)) with
          ⟨reason, failed⟩
        rw [failed]
        exact Or.inr (Or.inr ⟨last, other (Or.inr last), reason, after, rfl⟩)
      · have kept : leftOf fault (.begin :: (kinds.map .change ++ [.commit])) =
            passedFault (leftOf (passedFault fault .begin) (kinds.map .change)) .commit :=
          List.foldl_append
        rw [commit_of_open last, kept]
        exact Or.inl ⟨last, rfl⟩
    · rw [failed]
      exact Or.inr (Or.inr ⟨Or.inl hit, other (Or.inl hit), reason, working, rfl⟩)

end Script

end Storage
end Stars
