import Stars.Collections.KeyedList
import Mathlib.Logic.Function.Iterate

namespace Stars
namespace Graph

open Collections

/-!
# Depth-first walks with an explicit stack

A walk takes its work from a stack: places to visit, events to report at their
turn and, under the children of each entered directory, the mark to leave it.
A detector keeps the directories of the active chain and all directories ever
entered.  A visit whose directory is on the chain is a cycle, one whose
directory was entered before is a duplicate, and only a fresh directory is
entered and expanded.

What a visit finds, reports and expands to is given by an explorer, so that the
walk of any hierarchy is an instance.
-/

/-- What a look at a place finds. -/
inductive Examined (Found Key Event : Type) where
  | stopped (events : List Event)
  | directory (key : Key) (found : Found)

/-- Work below a directory: a place to visit, or an event to report. -/
inductive Task (Visit Event : Type) where
  | visit (place : Visit)
  | report (event : Event)

/-- Work on the stack. -/
inductive Work (Visit Event : Type) where
  | task (task : Task Visit Event)
  | leave

/-- The hierarchy a walk goes through. -/
structure Explorer (Visit Found Name Key Event : Type) where
  name : Visit → Name
  examine : Visit → Examined Found Key Event
  onCycle : Visit → Found → Name → List Event
  onDuplicate : Visit → Found → Name → List Event
  expand : Visit → Found → List Event × List (Task Visit Event)

/-- The decision about a directory. -/
inductive DescendDecision (Name : Type) where
  | fresh
  | cycle (ancestor : Name)
  | duplicateTarget (first : Name)

/-- The directories of the active chain, innermost first, and all directories
entered, each with the name under which it was entered. -/
structure LoopDetector (Name Key : Type) where
  chain : List (Key × Name) := []
  seenFirstPath : List (Key × Name) := []

namespace LoopDetector

variable {Name Key : Type} [DecidableEq Key]

/-- Decides about a directory, and records it when it is fresh. -/
def enter (detector : LoopDetector Name Key) (identity : Key) (name : Name) :
    DescendDecision Name × LoopDetector Name Key :=
  match detector.chain.lookup identity with
  | some ancestor => (.cycle ancestor, detector)
  | none =>
      match detector.seenFirstPath.lookup identity with
      | some first => (.duplicateTarget first, detector)
      | none =>
          (.fresh,
            { chain := (identity, name) :: detector.chain,
              seenFirstPath := detector.seenFirstPath ++ [(identity, name)] })

/-- Takes the innermost directory off the chain. -/
def leave (detector : LoopDetector Name Key) : LoopDetector Name Key :=
  { detector with chain := detector.chain.tail }

end LoopDetector

/-- The state between two units of work. -/
structure WalkState (Visit Name Key Event : Type) where
  stack : List (Work Visit Event)
  detector : LoopDetector Name Key
  trace : List Event

variable {Visit Found Name Key Event : Type} [DecidableEq Key]

namespace Explorer

variable (explorer : Explorer Visit Found Name Key Event)

/-- The state in which a walk begins. -/
def start (root : Visit) : WalkState Visit Name Key Event where
  stack := [.task (.visit root)]
  detector := {}
  trace := []

/-- The effect of a visit, with the work below it on the stack. -/
def visit (state : WalkState Visit Name Key Event) (rest : List (Work Visit Event))
    (place : Visit) : WalkState Visit Name Key Event :=
  match explorer.examine place with
  | .stopped events => { state with stack := rest, trace := state.trace ++ events }
  | .directory key found =>
      match state.detector.enter key (explorer.name place) with
      | (.cycle ancestor, _) =>
          { state with stack := rest, trace := state.trace ++ explorer.onCycle place found ancestor }
      | (.duplicateTarget first, _) =>
          { state with stack := rest, trace := state.trace ++ explorer.onDuplicate place found first }
      | (.fresh, entered) =>
          let expansion := explorer.expand place found
          { stack := expansion.2.map .task ++ .leave :: rest
            detector := entered
            trace := state.trace ++ expansion.1 }

/-- One unit of work. -/
def step (state : WalkState Visit Name Key Event) : WalkState Visit Name Key Event :=
  match state.stack with
  | [] => state
  | .leave :: rest => { state with stack := rest, detector := state.detector.leave }
  | .task (.report event) :: rest =>
      { state with stack := rest, trace := state.trace ++ [event] }
  | .task (.visit place) :: rest => explorer.visit state rest place

/-- The walk, with a check for cancellation before each unit of work. -/
def walk (cancelled : Nat → Bool) :
    (fuel check : Nat) → WalkState Visit Name Key Event → WalkState Visit Name Key Event
  | 0, _, state => state
  | fuel + 1, check, state =>
      if state.stack.isEmpty || cancelled check then state
      else walk cancelled fuel (check + 1) (explorer.step state)

/-- The state after a number of units of work. -/
def stateAt (root : Visit) (count : Nat) : WalkState Visit Name Key Event :=
  explorer.step^[count] (start root)

/-! ## Steps -/

theorem step_idle {state : WalkState Visit Name Key Event} (empty : state.stack = []) :
    explorer.step state = state := by
  rw [step, empty]

theorem iterate_idle {state : WalkState Visit Name Key Event} (empty : state.stack = [])
    (count : Nat) : explorer.step^[count] state = state :=
  Function.iterate_fixed (explorer.step_idle empty) count

/-- An uncancelled walk is the iteration of its step. -/
theorem walk_uncancelled (fuel : Nat) :
    ∀ (check : Nat) (state : WalkState Visit Name Key Event),
      explorer.walk (fun _ => false) fuel check state = explorer.step^[fuel] state := by
  induction fuel with
  | zero => exact fun _ _ => rfl
  | succ fuel known =>
      intro check state
      rw [walk, Bool.or_false]
      by_cases empty : state.stack = []
      · rw [if_pos (List.isEmpty_iff.mpr empty), explorer.iterate_idle empty]
      · rw [if_neg (fun holds => empty (List.isEmpty_iff.mp holds)), known,
          Function.iterate_succ_apply]

theorem stateAt_succ (root : Visit) (count : Nat) :
    explorer.stateAt root (count + 1) = explorer.step (explorer.stateAt root count) :=
  Function.iterate_succ_apply' explorer.step count (start root)

end Explorer

end Graph
end Stars
