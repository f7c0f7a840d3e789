namespace Stars
namespace Storage

/-!
# Transactions on one connection

A connection holds the committed data and, while a transaction is open, the
data as the transaction has changed it.  Operations run statements on the
connection and stop at the first error, but what they have changed stays.  One
statement of an operation can be made to fail.  A statement that fails changes
nothing, and a COMMIT that fails leaves the transaction open.

This stands for SQLite, which is not part of this repository, as its documentation
describes it: a statement outside a transaction commits at once, BEGIN inside a
transaction is refused, COMMIT and ROLLBACK without one are refused, and a
connection reads its own uncommitted changes, which other connections do not see.
-/

/-- The statements of an operation.  Everything beside the control of the
transaction is of some kind of its own. -/
inductive Statement (Kind : Type) where
  | begin
  | commit
  | rollback
  | change (kind : Kind)
deriving DecidableEq

/-- The statement that fails: the one after a number of executions of the same
statement. -/
structure Fault (Kind : Type) where
  statement : Statement Kind
  after : Nat := 0
  reason : String
deriving DecidableEq

structure Connection (Kind Data : Type) where
  committed : Data
  working : Option Data := none
  fault : Option (Fault Kind) := none
deriving DecidableEq

/-- What the connection reads: its own changes are among it. -/
def Connection.view {Kind Data : Type} (connection : Connection Kind Data) : Data :=
  connection.working.getD connection.committed

/-- An operation: its result, and the connection after it in any case. -/
def Operation (Kind Data Error Value : Type) : Type :=
  Connection Kind Data → Except Error Value × Connection Kind Data

namespace Operation

variable {Kind Data Error Value Next : Type}

/-- What follows a result: the next operation, or nothing after an error. -/
def andThen (outcome : Except Error Value × Connection Kind Data)
    (next : Value → Operation Kind Data Error Next) : Except Error Next × Connection Kind Data :=
  match outcome with
  | (.ok value, connection) => next value connection
  | (.error reason, connection) => (.error reason, connection)

instance : Monad (Operation Kind Data Error) where
  pure value := fun connection => (.ok value, connection)
  bind first next := fun connection => andThen (first connection) next

theorem bind_apply (first : Operation Kind Data Error Value)
    (next : Value → Operation Kind Data Error Next) (connection : Connection Kind Data) :
    (first >>= next) connection = andThen (first connection) next := rfl

theorem bind_assoc {Last : Type} (first : Operation Kind Data Error Value)
    (next : Value → Operation Kind Data Error Next)
    (last : Next → Operation Kind Data Error Last) :
    first >>= next >>= last = first >>= fun value => next value >>= last := by
  funext connection
  rw [bind_apply, bind_apply, bind_apply]
  rcases first connection with ⟨_ | value, after⟩
  · rfl
  · rfl

/-- An error without any statement. -/
def refuse (reason : Error) : Operation Kind Data Error Value :=
  fun connection => (.error reason, connection)

/-- The errors of the statements in the words of the operation. -/
def mapError {Inner : Type} (words : Inner → Error) (operation : Operation Kind Data Inner Value) :
    Operation Kind Data Error Value :=
  fun connection =>
    match operation connection with
    | (.ok value, after) => (.ok value, after)
    | (.error reason, after) => (.error (words reason), after)

theorem mapError_ok {Inner : Type} {operation : Operation Kind Data Inner Value}
    {connection after : Connection Kind Data} {value : Value} (words : Inner → Error)
    (done : operation connection = (.ok value, after)) :
    operation.mapError words connection = (.ok value, after) := by
  rw [mapError, done]

theorem mapError_error {Inner : Type} {operation : Operation Kind Data Inner Value}
    {connection after : Connection Kind Data} {reason : Inner} (words : Inner → Error)
    (failed : operation connection = (.error reason, after)) :
    operation.mapError words connection = (.error (words reason), after) := by
  rw [mapError, failed]

theorem bind_of_error {first : Operation Kind Data Error Value}
    {next : Value → Operation Kind Data Error Next} {connection after : Connection Kind Data}
    {reason : Error} (failed : first connection = (.error reason, after)) :
    (first >>= next) connection = (.error reason, after) := by
  rw [bind_apply, failed, andThen]

theorem bind_of_ok {first : Operation Kind Data Error Value}
    {next : Value → Operation Kind Data Error Next} {connection after : Connection Kind Data}
    {value : Value} (done : first connection = (.ok value, after)) :
    (first >>= next) connection = next value after := by
  rw [bind_apply, done, andThen]

end Operation

section Statements

variable {Kind Data : Type} [DecidableEq Kind]

/-- The fault once a statement has been executed. -/
def Fault.passed (fault : Fault Kind) (statement : Statement Kind) : Fault Kind :=
  if fault.statement = statement then { fault with after := fault.after - 1 } else fault

/-- A statement on the connection, which fails where the fault says so. -/
def execute {Value : Type} (statement : Statement Kind)
    (run : Connection Kind Data → Except String (Value × Connection Kind Data)) :
    Operation Kind Data String Value :=
  fun connection =>
    let proceed (connection : Connection Kind Data) :=
      match run connection with
      | .ok (value, after) => (.ok value, after)
      | .error reason => (.error reason, connection)
    match connection.fault with
    | none => proceed connection
    | some fault =>
        if fault.statement = statement ∧ fault.after = 0 then
          (.error fault.reason, { connection with fault := none })
        else proceed { connection with fault := some (fault.passed statement) }

def beginImmediate : Operation Kind Data String Unit :=
  execute .begin (fun connection =>
    match connection.working with
    | none => .ok ((), { connection with working := some connection.committed })
    | some _ => .error "cannot start a transaction within a transaction")

def commit : Operation Kind Data String Unit :=
  execute .commit (fun connection =>
    match connection.working with
    | some data => .ok ((), { connection with committed := data, working := none })
    | none => .error "cannot commit - no transaction is active")

def rollback : Operation Kind Data String Unit :=
  execute .rollback (fun connection =>
    match connection.working with
    | some _ => .ok ((), { connection with working := none })
    | none => .error "cannot rollback - no transaction is active")

/-- A statement that changes data: in the open transaction, or at once without
one. -/
def change {Value : Type} (kind : Kind) (apply : Data → Except String (Value × Data)) :
    Operation Kind Data String Value :=
  execute (.change kind) (fun connection =>
    match connection.working with
    | some data => (apply data).map (fun done => (done.1, { connection with working := some done.2 }))
    | none => (apply connection.committed).map
        (fun done => (done.1, { connection with committed := done.2 })))

/-- After an error the transaction is rolled back, and an error of that is
ignored. -/
def rollbackOnError {Error Value : Type} (operation : Operation Kind Data Error Value) :
    Operation Kind Data Error Value :=
  fun connection =>
    match operation connection with
    | (.ok value, after) => (.ok value, after)
    | (.error reason, after) => (.error reason, (rollback after).2)

/-- The operation with a statement of it made to fail. -/
def withFault {Error Value : Type} (fault : Option (Fault Kind))
    (operation : Operation Kind Data Error Value) : Operation Kind Data Error Value :=
  fun connection =>
    match operation { connection with fault := fault } with
    | (result, after) => (result, { after with fault := none })

end Statements

section Control

variable {Kind Data : Type} [DecidableEq Kind]

/-- The next execution of the statement fails. -/
def Fails (statement : Statement Kind) (fault : Option (Fault Kind)) : Prop :=
  ∃ next, fault = some next ∧ next.statement = statement ∧ next.after = 0

/-- What is left of a fault after a statement that went through. -/
def passedFault (fault : Option (Fault Kind)) (statement : Statement Kind) : Option (Fault Kind) :=
  fault.map (fun next => next.passed statement)

theorem fails_passedFault {fault : Option (Fault Kind)} {statement other : Statement Kind}
    (differs : statement ≠ other) :
    Fails other (passedFault fault statement) ↔ Fails other fault := by
  cases fault with
  | none => simp [Fails, passedFault]
  | some next =>
      rw [passedFault, Option.map_some, Fault.passed]
      split
      · rename_i same
        simp [Fails, same, differs]
      · rfl

theorem execute_of_fails {Value : Type} {statement : Statement Kind}
    {run : Connection Kind Data → Except String (Value × Connection Kind Data)}
    {connection : Connection Kind Data} (fails : Fails statement connection.fault) :
    ∃ reason, execute statement run connection =
      (.error reason, { connection with fault := none }) := by
  rcases fails with ⟨next, found, same, now⟩
  refine ⟨next.reason, ?_⟩
  rw [execute, found]
  dsimp only
  rw [if_pos ⟨same, now⟩]

/-- A statement that does not fail does what it says. -/
theorem execute_of_not_fails {Value : Type} {statement : Statement Kind}
    {run : Connection Kind Data → Except String (Value × Connection Kind Data)}
    {connection : Connection Kind Data} (passes : ¬ Fails statement connection.fault) :
    execute statement run connection =
      match run { connection with fault := passedFault connection.fault statement } with
      | .ok (value, after) => (.ok value, after)
      | .error reason =>
          (.error reason, { connection with fault := passedFault connection.fault statement }) := by
  rw [execute]
  cases found : connection.fault with
  | none =>
      have unchanged : { connection with fault := passedFault none statement } = connection := by
        rw [passedFault, Option.map_none, ← found]
      rw [unchanged]
  | some next =>
      dsimp only
      rw [if_neg]
      · rfl
      · intro now
        exact passes ⟨next, found, now.1, now.2⟩

variable {committed data : Data} {fault : Option (Fault Kind)}

theorem beginImmediate_of_idle (passes : ¬ Fails .begin fault) :
    beginImmediate (Connection.mk committed none fault) =
      (.ok (), ⟨committed, some committed, passedFault fault .begin⟩) := by
  rw [beginImmediate, execute_of_not_fails passes]

theorem beginImmediate_of_fails (fails : Fails .begin fault) (working : Option Data) :
    ∃ reason, beginImmediate (Connection.mk committed working fault) =
      (.error reason, ⟨committed, working, none⟩) := execute_of_fails fails

/-- A transaction cannot begin while another one is open. -/
theorem beginImmediate_of_open :
    ∃ reason later, beginImmediate (Connection.mk committed (some data) fault) =
      (.error reason, ⟨committed, some data, later⟩) := by
  by_cases fails : Fails .begin fault
  · rcases beginImmediate_of_fails fails (some data) with ⟨reason, failed⟩
    exact ⟨reason, none, failed⟩
  · rw [beginImmediate, execute_of_not_fails fails]
    exact ⟨_, _, rfl⟩

theorem commit_of_open (passes : ¬ Fails .commit fault) :
    commit (Connection.mk committed (some data) fault) =
      (.ok (), ⟨data, none, passedFault fault .commit⟩) := by
  rw [commit, execute_of_not_fails passes]

theorem commit_of_fails (fails : Fails .commit fault) (working : Option Data) :
    ∃ reason, commit (Connection.mk committed working fault) =
      (.error reason, ⟨committed, working, none⟩) := execute_of_fails fails

theorem rollback_of_open (passes : ¬ Fails .rollback fault) :
    rollback (Connection.mk committed (some data) fault) =
      (.ok (), ⟨committed, none, passedFault fault .rollback⟩) := by
  rw [rollback, execute_of_not_fails passes]

theorem rollback_of_fails (fails : Fails .rollback fault) (working : Option Data) :
    ∃ reason, rollback (Connection.mk committed working fault) =
      (.error reason, ⟨committed, working, none⟩) := execute_of_fails fails

end Control

/-! ## Operations inside a transaction -/

section Body

variable {Kind Data Error Value Next Item : Type}

/-- Some changing statement is to fail. -/
def ChangeFault (fault : Option (Fault Kind)) : Prop :=
  ∃ next kind, fault = some next ∧ next.statement = .change kind

/-- The statements that end a transaction. -/
def Statement.Ends : Statement Kind → Prop
  | .commit => True
  | .rollback => True
  | .begin => False
  | .change _ => False

theorem Statement.Ends.ne_begin {statement : Statement Kind} (ends : statement.Ends) :
    .begin ≠ statement := by
  rintro rfl
  exact ends

theorem Statement.Ends.ne_change {statement : Statement Kind} (ends : statement.Ends)
    (kind : Kind) : .change kind ≠ statement := by
  rintro rfl
  exact ends

/-- Only one statement is to fail. -/
theorem not_fails_of_changeFault {fault : Option (Fault Kind)} {statement : Statement Kind}
    (change : ChangeFault fault) (ends : statement.Ends) : ¬ Fails statement fault := by
  rintro ⟨next, found, same, _⟩
  rcases change with ⟨other, kind, otherFound, otherSame⟩
  rw [found] at otherFound
  rw [← Option.some.inj otherFound, same] at otherSame
  exact ends.ne_change kind otherSame.symm

/-- The statements that end the transaction fail afterwards as before. -/
structure ControlKept (fault later : Option (Fault Kind)) : Prop where
  ends : ∀ statement : Statement Kind, statement.Ends →
    (Fails statement later ↔ Fails statement fault)
  change : ChangeFault later → ChangeFault fault

theorem ControlKept.refl (fault : Option (Fault Kind)) : ControlKept fault fault :=
  ⟨fun _ _ => Iff.rfl, id⟩

theorem ControlKept.trans {first second third : Option (Fault Kind)}
    (earlier : ControlKept first second) (later : ControlKept second third) :
    ControlKept first third :=
  ⟨fun statement ends => (later.ends statement ends).trans (earlier.ends statement ends),
    fun change => earlier.change (later.change change)⟩

theorem controlKept_passed [DecidableEq Kind] (fault : Option (Fault Kind)) (kind : Kind) :
    ControlKept fault (passedFault fault (.change kind)) := by
  refine ⟨fun statement ends => fails_passedFault (ends.ne_change kind), ?_⟩
  rintro ⟨next, later, found, same⟩
  cases fault with
  | none => cases found
  | some earlier =>
      refine ⟨earlier, later, rfl, ?_⟩
      rw [passedFault, Option.map_some, Option.some.injEq, Fault.passed] at found
      rw [← same, ← found]
      split
      · rfl
      · rfl

/-- Inside a transaction an operation changes nothing but the data of the
transaction.  It has its effect, or fails because it has none or because of a
changing statement that is to fail. -/
inductive BodyOutcome (effect : Data → Option (Value × Data)) (committed data : Data)
    (fault : Option (Fault Kind)) : Except Error Value × Connection Kind Data → Prop where
  | done {value : Value} {after : Data} {later : Option (Fault Kind)}
      (reached : effect data = some (value, after)) (kept : ControlKept fault later) :
      BodyOutcome effect committed data fault (.ok value, ⟨committed, some after, later⟩)
  | failed {reason : Error} {after : Data} {later : Option (Fault Kind)}
      (cause : effect data = none ∨ ChangeFault fault) (kept : ControlKept fault later) :
      BodyOutcome effect committed data fault (.error reason, ⟨committed, some after, later⟩)

def InTransaction (operation : Operation Kind Data Error Value)
    (effect : Data → Option (Value × Data)) : Prop :=
  ∀ committed data fault,
    BodyOutcome effect committed data fault (operation ⟨committed, some data, fault⟩)

theorem inTransaction_pure (value : Value) :
    InTransaction (pure value : Operation Kind Data Error Value) (fun data => some (value, data)) :=
  fun _ _ fault => .done rfl (.refl fault)

theorem inTransaction_refuse (reason : Error) :
    InTransaction (Operation.refuse reason : Operation Kind Data Error Value) (fun _ => none) :=
  fun _ _ fault => .failed (Or.inl rfl) (.refl fault)

theorem inTransaction_change [DecidableEq Kind] (kind : Kind)
    (apply : Data → Except String (Value × Data)) :
    InTransaction (change kind apply) (fun data => (apply data).toOption) := by
  intro committed data fault
  by_cases fails : Fails (.change kind) fault
  · have cause : ChangeFault fault := by
      rcases fails with ⟨next, found, same, _⟩
      exact ⟨next, kind, found, same⟩
    have kept : ControlKept fault none := by
      refine ⟨fun statement ends => ⟨?_, ?_⟩, ?_⟩
      · rintro ⟨_, impossible, _⟩
        cases impossible
      · exact fun hit => absurd hit (not_fails_of_changeFault cause ends)
      · rintro ⟨_, _, impossible, _⟩
        cases impossible
    have failing : Fails (.change kind) (Connection.mk committed (some data) fault).fault := fails
    rcases execute_of_fails failing with ⟨reason, failed⟩
    rw [change, failed]
    exact .failed (Or.inr cause) kept
  · have passing : ¬ Fails (.change kind) (Connection.mk committed (some data) fault).fault := fails
    have kept := controlKept_passed fault kind
    cases applied : apply data with
    | ok done =>
        have computed : change kind apply ⟨committed, some data, fault⟩ =
            (.ok done.1, ⟨committed, some done.2, passedFault fault (.change kind)⟩) := by
          rw [change, execute_of_not_fails passing]
          simp only [applied]
          rfl
        rw [computed]
        refine .done ?_ kept
        rw [applied]
        rfl
    | error reason =>
        have computed : change kind apply ⟨committed, some data, fault⟩ =
            (.error reason, ⟨committed, some data, passedFault fault (.change kind)⟩) := by
          rw [change, execute_of_not_fails passing]
          simp only [applied]
          rfl
        rw [computed]
        refine .failed (Or.inl ?_) kept
        rw [applied]
        rfl

theorem InTransaction.mapError {Inner : Type} {operation : Operation Kind Data Inner Value}
    {effect : Data → Option (Value × Data)} (inside : InTransaction operation effect)
    (words : Inner → Error) : InTransaction (operation.mapError words) effect := by
  intro committed data fault
  have outcome := inside committed data fault
  rw [Operation.mapError]
  generalize operation ⟨committed, some data, fault⟩ = result at outcome
  cases outcome with
  | done reached kept => exact .done reached kept
  | failed cause kept => exact .failed cause kept

theorem InTransaction.bind {first : Operation Kind Data Error Value}
    {next : Value → Operation Kind Data Error Next} {effect : Data → Option (Value × Data)}
    {further : Value → Data → Option (Next × Data)} (inside : InTransaction first effect)
    (after : ∀ value, InTransaction (next value) (further value)) :
    InTransaction (first >>= next)
      (fun data => (effect data).bind (fun done => further done.1 done.2)) := by
  intro committed data fault
  have outcome := inside committed data fault
  rw [Operation.bind_apply]
  generalize first ⟨committed, some data, fault⟩ = result at outcome
  cases outcome with
  | done reached kept =>
      rename_i value middle later
      have second := after value committed middle later
      rw [Operation.andThen]
      generalize next value ⟨committed, some middle, later⟩ = last at second
      cases second with
      | done continued keptAfter =>
          exact .done (by rw [reached]; exact continued) (kept.trans keptAfter)
      | failed cause keptAfter =>
          refine .failed ?_ (kept.trans keptAfter)
          exact cause.imp (fun unopened => by rw [reached]; exact unopened) kept.change
  | failed cause kept =>
      exact .failed (cause.imp_left (fun unopened => by rw [unopened]; rfl)) kept

/-- An error leaves the data as it was. -/
def ErrorKeeps (operation : Operation Kind Data Error Value) : Prop :=
  ∀ connection reason after, operation connection = (.error reason, after) →
    ∃ later, after = { connection with fault := later }

theorem errorKeeps_refuse (reason : Error) :
    ErrorKeeps (Operation.refuse reason : Operation Kind Data Error Value) := by
  intro connection _ after failed
  have same : connection = after := congrArg Prod.snd failed
  exact ⟨connection.fault, same.symm⟩

theorem errorKeeps_change [DecidableEq Kind] (kind : Kind)
    (apply : Data → Except String (Value × Data)) : ErrorKeeps (change kind apply) := by
  intro connection reason after failed
  by_cases fails : Fails (.change kind) connection.fault
  · rcases execute_of_fails fails with ⟨text, stopped⟩
    rw [change, stopped] at failed
    exact ⟨none, (congrArg Prod.snd failed).symm⟩
  · rw [change, execute_of_not_fails fails] at failed
    split at failed
    · cases failed
    · exact ⟨_, (congrArg Prod.snd failed).symm⟩

theorem ErrorKeeps.mapError {Inner : Type} {operation : Operation Kind Data Inner Value}
    (keeps : ErrorKeeps operation) (words : Inner → Error) :
    ErrorKeeps (operation.mapError words) := by
  intro connection reason after failed
  rw [Operation.mapError] at failed
  split at failed
  · cases failed
  · rename_i inner left ran
    have same : left = after := congrArg Prod.snd failed
    exact same ▸ keeps connection inner left ran

/-- The effects of a list of operations, one after the other. -/
def effectOfEach (effect : Item → Data → Option (Unit × Data)) :
    List Item → Data → Option (Unit × Data)
  | [], data => some ((), data)
  | item :: rest, data => (effect item data).bind (fun done => effectOfEach effect rest done.2)

/-- All of them have an effect when each has one, on whatever data. -/
theorem effectOfEach_ne_none_iff {effect : Item → Data → Option (Unit × Data)} {good : Item → Prop}
    (each : ∀ item data, effect item data ≠ none ↔ good item) (items : List Item) (data : Data) :
    effectOfEach effect items data ≠ none ↔ ∀ item ∈ items, good item := by
  induction items generalizing data with
  | nil => simp [effectOfEach]
  | cons item rest ih =>
      rw [effectOfEach, List.forall_mem_cons, ← each item data]
      cases effect item data with
      | none => simp
      | some done => simp [ih done.2]

theorem InTransaction.forM {step : Item → Operation Kind Data Error Unit}
    {effect : Item → Data → Option (Unit × Data)}
    (inside : ∀ item, InTransaction (step item) (effect item)) (items : List Item) :
    InTransaction (items.forM step) (effectOfEach effect items) := by
  induction items with
  | nil => exact inTransaction_pure ()
  | cons item rest ih => exact (inside item).bind (fun _ => ih)

/-- A failed operation takes its transaction with it, unless the ROLLBACK fails
as well. -/
theorem rollbackOnError_outcome [DecidableEq Kind] {operation : Operation Kind Data Error Value}
    {effect : Data → Option (Value × Data)} (inside : InTransaction operation effect)
    (committed data : Data) (fault : Option (Fault Kind)) :
    (∃ value after later, effect data = some (value, after) ∧ ControlKept fault later ∧
      rollbackOnError operation ⟨committed, some data, fault⟩ =
        (.ok value, ⟨committed, some after, later⟩)) ∨
    ∃ reason working later, (effect data = none ∨ ChangeFault fault) ∧
      (working = none ↔ ¬ Fails .rollback fault) ∧
      rollbackOnError operation ⟨committed, some data, fault⟩ =
        (.error reason, ⟨committed, working, later⟩) := by
  have outcome := inside committed data fault
  rw [rollbackOnError]
  generalize operation ⟨committed, some data, fault⟩ = result at outcome
  cases outcome with
  | done reached kept => exact Or.inl ⟨_, _, _, reached, kept, rfl⟩
  | failed cause kept =>
      rename_i reason after later
      have same : Fails .rollback later ↔ Fails .rollback fault :=
        kept.ends .rollback trivial
      right
      by_cases fails : Fails .rollback later
      · rcases rollback_of_fails fails (some after) with ⟨text, failed⟩
        refine ⟨reason, some after, none, cause, ?_, ?_⟩
        · exact iff_of_false (fun impossible => nomatch impossible) (not_not_intro (same.mp fails))
        · dsimp only
          rw [failed]
      · refine ⟨reason, none, passedFault later .rollback, cause, ?_, ?_⟩
        · exact iff_of_true rfl (fun hit => fails (same.mpr hit))
        · dsimp only
          rw [rollback_of_open fails]

end Body

/-! ## Whole transactions -/

section Whole

variable {Kind Data Error Value Next : Type} [DecidableEq Kind] {words : String → Error}

/-- What begins a transaction fails while another one is open, and leaves that
one alone. -/
theorem begin_then_of_open (words : String → Error) (next : Unit → Operation Kind Data Error Next)
    (committed data : Data) (fault : Option (Fault Kind)) :
    ∃ reason later, (beginImmediate.mapError words >>= next) ⟨committed, some data, fault⟩ =
      (.error reason, ⟨committed, some data, later⟩) := by
  rcases (beginImmediate_of_open : ∃ reason later, beginImmediate
    (Connection.mk committed (some data) fault) = (.error reason, ⟨committed, some data, later⟩)) with
    ⟨reason, later, failed⟩
  exact ⟨words reason, later, Operation.bind_of_error (Operation.mapError_error words failed)⟩

/-- A transaction is begun and its body run: it is open with the effect of the
body, or there is an error.  After an error it is gone, unless the ROLLBACK
fails; then it is the body that has no effect. -/
theorem begin_then_body (words : String → Error) {body : Operation Kind Data Error Value}
    {effect : Data → Option (Value × Data)} (inside : InTransaction body effect)
    (committed : Data) (fault : Option (Fault Kind)) :
    (∃ value after later, effect committed = some (value, after) ∧
      (∀ statement : Statement Kind, statement.Ends →
        (Fails statement later ↔ Fails statement fault)) ∧
      (beginImmediate.mapError words >>= fun _ => rollbackOnError body) ⟨committed, none, fault⟩ =
        (.ok value, ⟨committed, some after, later⟩)) ∨
    ∃ reason working later, (working = none ↔ ¬ Fails .rollback fault) ∧
      (∀ statement : Statement Kind, statement.Ends → Fails statement fault →
        effect committed = none) ∧
      (beginImmediate.mapError words >>= fun _ => rollbackOnError body) ⟨committed, none, fault⟩ =
        (.error reason, ⟨committed, working, later⟩) := by
  by_cases fails : Fails .begin fault
  · right
    have other : ∀ statement : Statement Kind, statement.Ends → ¬ Fails statement fault := by
      rintro statement ends ⟨next, found, same, _⟩
      rcases fails with ⟨first, firstFound, firstSame, _⟩
      rw [found] at firstFound
      rw [← Option.some.inj firstFound, same] at firstSame
      exact ends.ne_begin firstSame.symm
    have failing : Fails .begin (Connection.mk committed none fault).fault := fails
    rcases execute_of_fails failing with ⟨reason, failed⟩
    refine ⟨words reason, none, none, iff_of_true rfl (other .rollback trivial), ?_, ?_⟩
    · exact fun statement ends hit => absurd hit (other statement ends)
    · exact Operation.bind_of_error (Operation.mapError_error words failed)
  · have begun : beginImmediate.mapError words ⟨committed, none, fault⟩ =
        (.ok (), ⟨committed, some committed, passedFault fault .begin⟩) :=
      Operation.mapError_ok words (beginImmediate_of_idle fails)
    rw [Operation.bind_of_ok begun]
    have passed : ∀ statement : Statement Kind, statement.Ends →
        (Fails statement (passedFault fault .begin) ↔ Fails statement fault) :=
      fun statement ends => fails_passedFault ends.ne_begin
    rcases rollbackOnError_outcome inside committed committed (passedFault fault .begin) with
      ⟨value, after, later, reached, kept, done⟩ | ⟨reason, working, later, cause, rolled, failed⟩
    · left
      exact ⟨value, after, later, reached, fun statement ends =>
        (kept.ends statement ends).trans (passed statement ends), done⟩
    · right
      refine ⟨reason, working, later, ?_, ?_, failed⟩
      · rw [rolled, passed .rollback trivial]
      · intro statement ends hit
        rcases cause with unopened | change
        · exact unopened
        · exact absurd ((passed statement ends).mpr hit) (not_fails_of_changeFault change ends)

/-- A body and the COMMIT after it.  After an error the transaction is gone if
the body has an effect. -/
theorem body_then_commit (words : String → Error) {body : Operation Kind Data Error Unit}
    {effect : Data → Option (Unit × Data)} (inside : InTransaction body effect)
    (committed data : Data) (fault : Option (Fault Kind)) :
    (∃ after later, effect data = some ((), after) ∧
      rollbackOnError (body >>= fun _ => commit.mapError words) ⟨committed, some data, fault⟩ =
        (.ok (), ⟨after, none, later⟩)) ∨
    ∃ reason working later, (effect data ≠ none → working = none) ∧
      rollbackOnError (body >>= fun _ => commit.mapError words) ⟨committed, some data, fault⟩ =
        (.error reason, ⟨committed, working, later⟩) := by
  have outcome := inside committed data fault
  rw [rollbackOnError, Operation.bind_apply]
  generalize body ⟨committed, some data, fault⟩ = result at outcome
  cases outcome with
  | done reached kept =>
      rename_i value after later
      by_cases fails : Fails .commit later
      · right
        rcases commit_of_fails fails (some after) with ⟨reason, failed⟩
        have idle : ¬ Fails .rollback (none : Option (Fault Kind)) := by
          rintro ⟨_, impossible, _⟩
          cases impossible
        refine ⟨words reason, none, passedFault none .rollback, fun _ => rfl, ?_⟩
        rw [Operation.andThen, Operation.mapError_error words failed]
        dsimp only
        rw [rollback_of_open idle]
      · left
        refine ⟨after, passedFault later .commit, reached, ?_⟩
        rw [Operation.andThen, Operation.mapError_ok words (commit_of_open fails)]
  | failed cause kept =>
      rename_i reason after later
      right
      rw [Operation.andThen]
      dsimp only
      by_cases fails : Fails .rollback later
      · rcases rollback_of_fails fails (some after) with ⟨text, failed⟩
        refine ⟨reason, some after, none, ?_, by rw [failed]⟩
        intro has
        rcases cause with unopened | change
        · exact absurd unopened has
        · exact absurd ((kept.ends .rollback trivial).mp fails)
            (not_fails_of_changeFault change trivial)
      · exact ⟨reason, none, passedFault later .rollback, fun _ => rfl, by rw [rollback_of_open fails]⟩

end Whole

end Storage
end Stars
