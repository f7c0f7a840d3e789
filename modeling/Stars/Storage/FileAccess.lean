import Mathlib.Logic.Basic

namespace Stars
namespace Storage

/-!
# Writing beside a target

A file is written under a second name and moved to its target when it is complete.  Each
access to the files has a turn: another process may create the target just before it, and
the access may fail.  A rename replaces whatever is at the target, and a question whether
a file is there that fails is answered with no.
-/

/-- The target, the file written beside it, and the target as it would be without the
writer: as it was, or as the other process has created it. -/
structure Files where
  target : Option (List Char)
  partialFile : Option (List Char)
  foreign : Option (List Char)
deriving DecidableEq

/-- What happens at one access. -/
structure Turn where
  /-- What the other process creates the target with, just before the access. -/
  appears : Option (List Char) := none
  failure : Option String := none
  /-- How many letters a write takes before it fails. -/
  taken : Nat := 0
deriving DecidableEq

namespace Files

/-- Before a writer has started. -/
def start (target partialFile : Option (List Char)) : Files where
  target := target
  partialFile := partialFile
  foreign := target

/-- The writer has not changed the target. -/
def Untouched (files : Files) : Prop := files.target = files.foreign

end Files

namespace Turn

/-- The other process creates a target only where there is none. -/
def enter (turn : Turn) (files : Files) : Files :=
  match turn.appears, files.target with
  | some content, none => { files with target := some content, foreign := some content }
  | _, _ => files

variable {turn : Turn} {files : Files}

theorem enter_of_none (alone : turn.appears = none) : turn.enter files = files := by
  rw [enter, alone]

theorem enter_of_some {content : List Char} (present : files.target = some content) :
    turn.enter files = files := by
  rw [enter, present]
  cases turn.appears with
  | none => rfl
  | some _ => rfl

theorem partialFile_enter (turn : Turn) (files : Files) :
    (turn.enter files).partialFile = files.partialFile := by
  rw [enter]
  split
  · rfl
  · rfl

theorem untouched_enter (turn : Turn) (untouched : files.Untouched) :
    (turn.enter files).Untouched := by
  rw [enter]
  split
  · rfl
  · exact untouched

end Turn

/-- An action on the files: its result, and the files after it in any case. -/
abbrev FileAction (Error Value : Type) : Type := ExceptT Error (StateM Files) Value

section Actions

variable {Error Other Value Next : Type}

def runAction (action : FileAction Error Value) (files : Files) : Except Error Value × Files :=
  action.run.run files

/-- The result and the files after an action are as described. -/
def Leads (action : FileAction Error Value) (files : Files)
    (described : Except Error Value → Files → Prop) : Prop :=
  described (runAction action files).1 (runAction action files).2

/-- The action without its error. -/
def ignored (action : FileAction Other Unit) : FileAction Error Unit :=
  ExceptT.mk (fun files => (.ok (), (runAction action files).2))

/-- The last action comes after the result, whatever this is, and cannot change it. -/
def closing (action : FileAction Error Value) (last : FileAction Error Unit) :
    FileAction Error Value :=
  ExceptT.mk (fun files =>
    ((runAction action files).1, (runAction last (runAction action files).2).2))

variable {action : FileAction Error Value} {next : Value → FileAction Error Next} {files : Files}

theorem Leads.mono {described weaker : Except Error Value → Files → Prop}
    (leads : Leads action files described)
    (weaken : ∀ result after, described result after → weaker result after) :
    Leads action files weaker :=
  weaken _ _ leads

theorem leads_pure {value : Value} {described : Except Error Value → Files → Prop}
    (holds : described (.ok value) files) : Leads (pure value) files described := holds

theorem leads_throw {error : Error} {described : Except Error Value → Files → Prop}
    (holds : described (.error error) files) : Leads (throw error) files described := holds

/-- What follows a result is the next action, and after an error nothing. -/
theorem runAction_bind (action : FileAction Error Value) (next : Value → FileAction Error Next)
    (files : Files) :
    runAction (action >>= next) files =
      match runAction action files with
      | (.ok value, after) => runAction (next value) after
      | (.error error, after) => (.error error, after) := by
  rw [runAction, ExceptT.run_bind, StateT.run_bind]
  change (match (runAction action files).1 with
    | .ok value => (next value).run
    | .error error => pure (.error error)).run (runAction action files).2 = _
  rcases runAction action files with ⟨_ | value, after⟩
  · rfl
  · rfl

theorem runAction_tryCatch (action : FileAction Error Value)
    (handler : Error → FileAction Error Value) (files : Files) :
    runAction (tryCatch action handler) files =
      match runAction action files with
      | (.ok value, after) => (.ok value, after)
      | (.error error, after) => runAction (handler error) after := by
  rw [runAction, ExceptT.run_tryCatch, StateT.run_bind]
  change (match (runAction action files).1 with
    | .ok value => pure (Except.ok value)
    | .error error => (handler error).run).run (runAction action files).2 = _
  rcases runAction action files with ⟨_ | value, after⟩
  · rfl
  · rfl

theorem leads_bind {described : Except Error Next → Files → Prop}
    (first : Leads action files (fun result after =>
      match result with
      | .ok value => Leads (next value) after described
      | .error error => described (.error error) after)) :
    Leads (action >>= next) files described := by
  rw [Leads] at first
  rw [Leads, runAction_bind]
  generalize runAction action files = outcome at first
  rcases outcome with ⟨_ | value, after⟩
  · exact first
  · exact first

theorem leads_tryCatch {handler : Error → FileAction Error Value}
    {described : Except Error Value → Files → Prop}
    (first : Leads action files (fun result after =>
      match result with
      | .ok value => described (.ok value) after
      | .error error => Leads (handler error) after described)) :
    Leads (tryCatch action handler) files described := by
  rw [Leads] at first
  rw [Leads, runAction_tryCatch]
  generalize runAction action files = outcome at first
  rcases outcome with ⟨_ | value, after⟩
  · exact first
  · exact first

theorem leads_adapt {words : Error → Other} {described : Except Other Value → Files → Prop}
    (first : Leads action files (fun result after => described (result.mapError words) after)) :
    Leads (ExceptT.adapt words action) files described := by
  have run : runAction (ExceptT.adapt words action) files =
      ((runAction action files).1.mapError words, (runAction action files).2) := rfl
  rw [Leads, run]
  exact first

theorem leads_ignored {described : Except Other Unit → Files → Prop}
    {action : FileAction Error Unit}
    (first : Leads action files (fun _ after => described (.ok ()) after)) :
    Leads (ignored action) files described := first

theorem leads_closing {last : FileAction Error Unit}
    {described : Except Error Value → Files → Prop}
    (first : Leads action files (fun result after =>
      Leads last after (fun _ closed => described result closed))) :
    Leads (closing action last) files described := first

end Actions

/-! ## Accesses -/

section Accesses

/-- An access at its turn: what it does, or what is left when it fails. -/
def access (turn : Turn) (failed : Files → Files) (run : Files → Except String Unit × Files) :
    FileAction String Unit :=
  ExceptT.mk (fun files =>
    match turn.failure with
    | some reason => (.error reason, failed (turn.enter files))
    | none => run (turn.enter files))

/-- Whether a file is there.  The question has no error. -/
def present {Error : Type} (turn : Turn) (file : Files → Option (List Char)) :
    FileAction Error Bool :=
  ExceptT.mk (fun files =>
    (.ok (turn.failure.isNone && (file (turn.enter files)).isSome), turn.enter files))

/-- The file beside the target is created, or emptied. -/
def openPartial (turn : Turn) : FileAction String Unit :=
  access turn id (fun files => (.ok (), { files with partialFile := some [] }))

def Files.append (text : List Char) (files : Files) : Files :=
  { files with partialFile := files.partialFile.map (fun content => content ++ text) }

/-- Text behind what is in the file.  A write that fails may have written a front of it. -/
def writePartial (turn : Turn) (text : List Char) : FileAction String Unit :=
  access turn (Files.append (text.take turn.taken)) (fun files => (.ok (), files.append text))

def syncPartial (turn : Turn) : FileAction String Unit :=
  access turn id (fun files => (.ok (), files))

/-- The file takes the place of whatever is at the target. -/
def renamePartial (turn : Turn) : FileAction String Unit :=
  access turn id (fun files =>
    match files.partialFile with
    | some content => (.ok (), { files with target := some content, partialFile := none })
    | none => (.error "not found", files))

def removePartial (turn : Turn) : FileAction String Unit :=
  access turn id (fun files =>
    match files.partialFile with
    | some _ => (.ok (), { files with partialFile := none })
    | none => (.error "not found", files))

variable {turn : Turn} {files : Files}

/-- Whether another process comes between does not depend on the file beside the target. -/
theorem Turn.enter_append (turn : Turn) (files : Files) (text : List Char) :
    turn.enter (files.append text) = (turn.enter files).append text := by
  rcases files with ⟨target, partialFile, foreign⟩
  rw [Turn.enter, Turn.enter, Files.append]
  cases turn.appears with
  | none => rfl
  | some _ =>
      cases target with
      | none => rfl
      | some _ => rfl

theorem runAction_access (turn : Turn) (failed : Files → Files)
    (run : Files → Except String Unit × Files) (files : Files) :
    runAction (access turn failed run) files =
      match turn.failure with
      | some reason => (.error reason, failed (turn.enter files))
      | none => run (turn.enter files) := rfl

theorem leads_access {failed : Files → Files} {run : Files → Except String Unit × Files}
    {described : Except String Unit → Files → Prop}
    (fails : ∀ reason, turn.failure = some reason →
      described (.error reason) (failed (turn.enter files)))
    (succeeds : turn.failure = none →
      described (run (turn.enter files)).1 (run (turn.enter files)).2) :
    Leads (access turn failed run) files described := by
  rw [Leads, runAction_access]
  cases failure : turn.failure with
  | none => exact succeeds failure
  | some reason => exact fails reason failure

theorem leads_present {Error : Type} {file : Files → Option (List Char)}
    {described : Except Error Bool → Files → Prop}
    (answer : ∀ found, found = (turn.failure.isNone && (file (turn.enter files)).isSome) →
      described (.ok found) (turn.enter files)) :
    Leads (present turn file) files described :=
  answer _ rfl

end Accesses

end Storage
end Stars
