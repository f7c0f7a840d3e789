import Stars.Graph.StackWalk
import Mathlib.Algebra.BigOperators.Group.Finset.Basic
import Mathlib.Algebra.Order.BigOperators.Group.Finset

namespace Stars
namespace Graph

open Collections

/-!
# The graph behind a walk

The places a walk visits are names for objects, and several names may lead to
one directory.  A landscape relates the two: the object at a place, the
directory an object leads to and the objects inside a directory.  Over it the
run of a walk is described by three facts: which places it visits, which
directories it meets, and which visit records a directory for the first time.

`invariant` is what holds between two units of work.  Its shape clause says that
the marks on the stack are the directories of the active chain, and that a
directory with work above its mark was opened.
-/

variable {Visit Found Name Key Event : Type}

/-- Objects and directories behind the places of an explorer.  `opens` says that
a visit lists its directory when it enters it. -/
structure Landscape (explorer : Explorer Visit Found Name Key Event) (root : Visit) where
  Object : Type
  Directory : Type
  object : Visit → Object
  leads : Object → Option Directory
  children : Directory → List Object
  key : Directory → Key
  opens : Visit → Prop
  directories : Finset Directory
  size : Directory → Nat
  Placed : Visit → Prop
  listed_all : ∀ directory, directory ∈ directories
  key_injective : Function.Injective key
  root_placed : Placed root
  stopped : ∀ place events, Placed place → explorer.examine place = .stopped events →
    leads (object place) = none
  directory : ∀ place identity found, Placed place →
    explorer.examine place = .directory identity found →
      ∃ target, leads (object place) = some target ∧ identity = key target
  expanded : ∀ place identity found target, Placed place →
    explorer.examine place = .directory identity found → leads (object place) = some target →
      (explorer.expand place found).2.length ≤ size target ∧
      ∀ below, .visit below ∈ (explorer.expand place found).2 →
        Placed below ∧ object below ∈ children target
  opened : ∀ place identity found target, Placed place → opens place →
    explorer.examine place = .directory identity found → leads (object place) = some target →
      ∀ child ∈ children target,
        ∃ below, .visit below ∈ (explorer.expand place found).2 ∧ object below = child
  unopened : ∀ place found, ¬opens place → (explorer.expand place found).2 = []

/-- The marks on the stack are the directories of the chain.  A directory is
open when it has work above its mark or a mark above its own. -/
inductive Shape (isOpen : Key → Prop) :
    List (Work Visit Event) → List (Key × Name) → Prop where
  | base (tasks : List (Task Visit Event)) : Shape isOpen (tasks.map .task) []
  | level (tasks : List (Task Visit Event)) (entry : Key × Name) {stack : List (Work Visit Event)}
      {chain : List (Key × Name)} (outer : Shape isOpen stack chain)
      (outerOpen : ∀ below ∈ chain, isOpen below.1) (ownOpen : tasks ≠ [] → isOpen entry.1) :
      Shape isOpen (tasks.map .task ++ .leave :: stack) (entry :: chain)

namespace Shape

variable {isOpen wider : Key → Prop} {stack : List (Work Visit Event)} {chain : List (Key × Name)}

theorem mono (weaker : ∀ key, isOpen key → wider key) (shape : Shape isOpen stack chain) :
    Shape wider stack chain := by
  induction shape with
  | base tasks => exact .base tasks
  | level tasks entry _ outerOpen ownOpen known =>
      exact .level tasks entry known (fun below inside => weaker _ (outerOpen below inside))
        (fun present => weaker _ (ownOpen present))

/-- Work on top of the stack: every directory of the chain is open. -/
theorem of_task {task : Task Visit Event} (shape : Shape isOpen (.task task :: stack) chain) :
    Shape isOpen stack chain ∧ ∀ entry ∈ chain, isOpen entry.1 := by
  generalize whole : Work.task task :: stack = all at shape
  cases shape with
  | base tasks =>
      cases tasks with
      | nil => cases whole
      | cons first others =>
          rcases List.cons.inj whole with ⟨_, rfl⟩
          exact ⟨.base others, fun _ impossible => nomatch impossible⟩
  | level tasks entry outer outerOpen ownOpen =>
      cases tasks with
      | nil => cases whole
      | cons first others =>
          rcases List.cons.inj whole with ⟨_, rfl⟩
          have own : isOpen entry.1 := ownOpen (List.cons_ne_nil first others)
          refine ⟨.level others entry outer outerOpen (fun _ => own), ?_⟩
          intro below inside
          rcases List.mem_cons.mp inside with equal | later
          · exact equal ▸ own
          · exact outerOpen below later

/-- A mark on top of the stack belongs to the innermost directory. -/
theorem of_leave (shape : Shape isOpen (.leave :: stack) chain) :
    Shape isOpen stack chain.tail := by
  generalize whole : Work.leave :: stack = all at shape
  cases shape with
  | base tasks =>
      cases tasks with
      | nil => cases whole
      | cons first others => cases whole
  | level tasks entry outer outerOpen ownOpen =>
      cases tasks with
      | nil =>
          rcases List.cons.inj whole with ⟨_, rfl⟩
          exact outer
      | cons first others => cases whole

end Shape

variable [DecidableEq Key]

namespace Explorer

variable (explorer : Explorer Visit Found Name Key Event)

/-- The events one unit of work emits. -/
def emitted (state : WalkState Visit Name Key Event) : List Event :=
  match state.stack with
  | [] => []
  | .leave :: _ => []
  | .task (.report event) :: _ => [event]
  | .task (.visit place) :: _ =>
      match explorer.examine place with
      | .stopped events => events
      | .directory key found =>
          match (state.detector.enter key (explorer.name place)).1 with
          | .cycle ancestor => explorer.onCycle place found ancestor
          | .duplicateTarget first => explorer.onDuplicate place found first
          | .fresh => (explorer.expand place found).1

theorem step_trace (state : WalkState Visit Name Key Event) :
    (explorer.step state).trace = state.trace ++ explorer.emitted state := by
  cases stack : state.stack with
  | nil => simp only [step, emitted, stack, List.append_nil]
  | cons work rest =>
      cases work with
      | leave => simp only [step, emitted, stack, List.append_nil]
      | task task =>
          cases task with
          | report event => simp only [step, emitted, stack]
          | visit place =>
              simp only [step, emitted, stack, visit]
              cases explorer.examine place with
              | stopped events => rfl
              | directory key found =>
                  simp only
                  rcases state.detector.enter key (explorer.name place) with ⟨decision, entered⟩
                  cases decision with
                  | fresh => rfl
                  | cycle ancestor => rfl
                  | duplicateTarget first => rfl

/-- The trace is what the steps so far emitted. -/
theorem mem_trace_iff (root : Visit) (event : Event) (count : Nat) :
    event ∈ (explorer.stateAt root count).trace ↔
      ∃ earlier < count, event ∈ explorer.emitted (explorer.stateAt root earlier) := by
  induction count with
  | zero => simp [stateAt, start]
  | succ count known =>
      rw [stateAt_succ, step_trace, List.mem_append, known]
      constructor
      · rintro (⟨earlier, before, inside⟩ | inside)
        · exact ⟨earlier, Nat.lt_succ_of_lt before, inside⟩
        · exact ⟨count, Nat.lt_succ_self count, inside⟩
      · rintro ⟨earlier, before, inside⟩
        rcases Nat.lt_succ_iff_lt_or_eq.mp before with earlier' | equal
        · exact Or.inl ⟨earlier, earlier', inside⟩
        · exact Or.inr (equal ▸ inside)

/-- The place is visited by the unit of work after a number of others. -/
def Visits (root : Visit) (count : Nat) (place : Visit) : Prop :=
  ∃ rest, (explorer.stateAt root count).stack = .task (.visit place) :: rest

end Explorer

/-! ## The detector -/

namespace LoopDetector

variable (detector : LoopDetector Name Key)

/-- The directories on the active chain. -/
def active : List Key := detector.chain.map Prod.fst

/-- The directories entered so far. -/
def seen : List Key := detector.seenFirstPath.map Prod.fst

theorem enter_active {identity : Key} (name : Name) (member : identity ∈ detector.active) :
    ∃ ancestor, detector.enter identity name = (.cycle ancestor, detector) := by
  rcases Option.isSome_iff_exists.mp ((lookup_isSome_iff_mem detector.chain).mpr member) with
    ⟨ancestor, found⟩
  exact ⟨ancestor, by rw [enter, found]⟩

theorem lookup_chain_of_not_active {identity : Key} (absent : identity ∉ detector.active) :
    detector.chain.lookup identity = none := by
  rw [← Option.not_isSome_iff_eq_none]
  exact fun found => absent ((lookup_isSome_iff_mem detector.chain).mp found)

theorem enter_seen {identity : Key} (name : Name) (absent : identity ∉ detector.active)
    (member : identity ∈ detector.seen) :
    ∃ first, detector.enter identity name = (.duplicateTarget first, detector) := by
  rcases Option.isSome_iff_exists.mp
      ((lookup_isSome_iff_mem detector.seenFirstPath).mpr member) with ⟨first, found⟩
  exact ⟨first, by rw [enter, detector.lookup_chain_of_not_active absent, found]⟩

theorem enter_fresh {identity : Key} (name : Name) (inactive : identity ∉ detector.active)
    (unseen : identity ∉ detector.seen) :
    detector.enter identity name =
      (.fresh, { chain := (identity, name) :: detector.chain,
                 seenFirstPath := detector.seenFirstPath ++ [(identity, name)] }) := by
  have notSeen : detector.seenFirstPath.lookup identity = none := by
    rw [← Option.not_isSome_iff_eq_none]
    exact fun found => unseen ((lookup_isSome_iff_mem detector.seenFirstPath).mp found)
  rw [enter, detector.lookup_chain_of_not_active inactive, notSeen]

end LoopDetector

end Graph
end Stars
