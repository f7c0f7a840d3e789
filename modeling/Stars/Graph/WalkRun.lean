import Stars.Graph.Landscape

namespace Stars
namespace Graph

/-!
# Runs of a walk

Every run of a walk over a landscape keeps `Landscape.Invariant`.  From it
follow the rules for whole runs: a directory is recorded by one visit, a
directory on the active chain was opened, the objects of an opened directory are
visited, and the walk ends after a number of steps that the sizes of the
directories bound.
-/

variable {Visit Found Name Key Event : Type} [DecidableEq Key]

namespace Explorer

variable (explorer : Explorer Visit Found Name Key Event)
  {state : WalkState Visit Name Key Event} {place : Visit} {rest : List (Work Visit Event)}

theorem step_stopped {events : List Event} (front : state.stack = .task (.visit place) :: rest)
    (looked : explorer.examine place = .stopped events) :
    (explorer.step state).stack = rest ∧ (explorer.step state).detector = state.detector ∧
      explorer.emitted state = events := by
  simp only [step, emitted, front, visit, looked, and_self]

variable {key : Key} {found : Found}

theorem step_active (front : state.stack = .task (.visit place) :: rest)
    (looked : explorer.examine place = .directory key found)
    (member : key ∈ state.detector.active) :
    (explorer.step state).stack = rest ∧ (explorer.step state).detector = state.detector ∧
      ∃ ancestor, explorer.emitted state = explorer.onCycle place found ancestor := by
  rcases state.detector.enter_active (explorer.name place) member with ⟨ancestor, decided⟩
  simp only [step, emitted, front, visit, looked, decided, true_and]
  exact ⟨ancestor, rfl⟩

theorem step_seen (front : state.stack = .task (.visit place) :: rest)
    (looked : explorer.examine place = .directory key found)
    (inactive : key ∉ state.detector.active) (member : key ∈ state.detector.seen) :
    (explorer.step state).stack = rest ∧ (explorer.step state).detector = state.detector ∧
      ∃ first, explorer.emitted state = explorer.onDuplicate place found first := by
  rcases state.detector.enter_seen (explorer.name place) inactive member with ⟨first, decided⟩
  simp only [step, emitted, front, visit, looked, decided, true_and]
  exact ⟨first, rfl⟩

theorem step_fresh (front : state.stack = .task (.visit place) :: rest)
    (looked : explorer.examine place = .directory key found)
    (inactive : key ∉ state.detector.active) (unseen : key ∉ state.detector.seen) :
    (explorer.step state).stack =
        (explorer.expand place found).2.map .task ++ .leave :: rest ∧
      (explorer.step state).detector =
        { chain := (key, explorer.name place) :: state.detector.chain,
          seenFirstPath := state.detector.seenFirstPath ++ [(key, explorer.name place)] } ∧
      explorer.emitted state = (explorer.expand place found).1 := by
  have decided := state.detector.enter_fresh (explorer.name place) inactive unseen
  simp only [step, emitted, front, visit, looked, decided, and_self]

theorem step_leave (front : state.stack = .leave :: rest) :
    (explorer.step state).stack = rest ∧
      (explorer.step state).detector = state.detector.leave := by
  simp only [step, front, and_self]

theorem step_report {event : Event} (front : state.stack = .task (.report event) :: rest) :
    (explorer.step state).stack = rest ∧ (explorer.step state).detector = state.detector ∧
      explorer.emitted state = [event] := by
  simp only [step, emitted, front, and_self]

/-- What a step does: nothing, a mark or a task taken off the stack, or a fresh
directory entered. -/
inductive StepOutcome (explorer : Explorer Visit Found Name Key Event)
    (state : WalkState Visit Name Key Event) : Prop where
  | idle (empty : state.stack = [])
  | left {rest : List (Work Visit Event)} (front : state.stack = .leave :: rest)
  | passed {task : Task Visit Event} {rest : List (Work Visit Event)}
      (front : state.stack = .task task :: rest)
      (stackEq : (explorer.step state).stack = rest)
      (detectorEq : (explorer.step state).detector = state.detector)
  | entered {place : Visit} {key : Key} {found : Found} {rest : List (Work Visit Event)}
      (front : state.stack = .task (.visit place) :: rest)
      (looked : explorer.examine place = .directory key found)
      (inactive : key ∉ state.detector.active) (unseen : key ∉ state.detector.seen)

theorem step_outcome (state : WalkState Visit Name Key Event) : explorer.StepOutcome state := by
  cases stack : state.stack with
  | nil => exact .idle stack
  | cons work rest =>
      cases work with
      | leave => exact .left stack
      | task task =>
          cases task with
          | report event =>
              have reported := explorer.step_report stack
              exact .passed stack reported.1 reported.2.1
          | visit place =>
              cases looked : explorer.examine place with
              | stopped events =>
                  have stopped := explorer.step_stopped stack looked
                  exact .passed stack stopped.1 stopped.2.1
              | directory key found =>
                  by_cases active : key ∈ state.detector.active
                  · have met := explorer.step_active stack looked active
                    exact .passed stack met.1 met.2.1
                  · by_cases seen : key ∈ state.detector.seen
                    · have met := explorer.step_seen stack looked active seen
                      exact .passed stack met.1 met.2.1
                    · exact .entered stack looked active seen

/-- A step forgets no directory. -/
theorem step_seen_mono (state : WalkState Visit Name Key Event) {key : Key}
    (member : key ∈ state.detector.seen) : key ∈ (explorer.step state).detector.seen := by
  cases stack : state.stack with
  | nil =>
      rw [explorer.step_idle stack]
      exact member
  | cons work rest =>
      cases work with
      | leave =>
          rw [(explorer.step_leave stack).2]
          exact member
      | task task =>
          cases task with
          | report event =>
              rw [(explorer.step_report stack).2.1]
              exact member
          | visit place =>
              cases looked : explorer.examine place with
              | stopped events =>
                  rw [(explorer.step_stopped stack looked).2.1]
                  exact member
              | directory identity found =>
                  by_cases active : identity ∈ state.detector.active
                  · rw [(explorer.step_active stack looked active).2.1]
                    exact member
                  · by_cases seen : identity ∈ state.detector.seen
                    · rw [(explorer.step_seen stack looked active seen).2.1]
                      exact member
                    · rw [(explorer.step_fresh stack looked active seen).2.1]
                      rw [LoopDetector.seen, List.map_append]
                      exact List.mem_append_left _ member

variable (root : Visit)

theorem seen_mono {earlier later : Nat} (order : earlier ≤ later) {key : Key}
    (member : key ∈ (explorer.stateAt root earlier).detector.seen) :
    key ∈ (explorer.stateAt root later).detector.seen := by
  induction order with
  | refl => exact member
  | step _ known =>
      rw [stateAt_succ]
      exact explorer.step_seen_mono _ known

/-- After its end a walk stays as it is. -/
theorem stateAt_of_ended {finish later : Nat} (ended : (explorer.stateAt root finish).stack = [])
    (after : finish ≤ later) : explorer.stateAt root later = explorer.stateAt root finish := by
  rcases Nat.exists_eq_add_of_le' after with ⟨further, rfl⟩
  rw [stateAt, Function.iterate_add_apply]
  exact explorer.iterate_idle ended further

/-- Work below the top of the stack stays on it. -/
theorem step_keeps_rest {work top : Work Visit Event} (front : state.stack = top :: rest)
    (inside : work ∈ rest) : work ∈ (explorer.step state).stack := by
  cases top with
  | leave =>
      rw [(explorer.step_leave front).1]
      exact inside
  | task task =>
      cases task with
      | report event =>
          rw [(explorer.step_report front).1]
          exact inside
      | visit place =>
          cases looked : explorer.examine place with
          | stopped events =>
              rw [(explorer.step_stopped front looked).1]
              exact inside
          | directory identity found =>
              by_cases active : identity ∈ state.detector.active
              · rw [(explorer.step_active front looked active).1]
                exact inside
              · by_cases seen : identity ∈ state.detector.seen
                · rw [(explorer.step_seen front looked active seen).1]
                  exact inside
                · rw [(explorer.step_fresh front looked active seen).1]
                  exact List.mem_append_right _ (List.mem_cons_of_mem _ inside)

/-- In a walk that ends, all work on the stack comes to the top of it. -/
theorem reaches_top {work : Work Visit Event} {finish : Nat}
    (ended : (explorer.stateAt root finish).stack = []) :
    ∀ {count : Nat}, count ≤ finish → work ∈ (explorer.stateAt root count).stack →
      ∃ turn, count ≤ turn ∧ turn < finish ∧
        ∃ rest, (explorer.stateAt root turn).stack = work :: rest := by
  intro count order inside
  induction order using Nat.decreasingInduction with
  | self =>
      rw [ended] at inside
      cases inside
  | of_succ count before known =>
      cases stack : (explorer.stateAt root count).stack with
      | nil =>
          rw [stack] at inside
          cases inside
      | cons top rest =>
          rw [stack] at inside
          rcases List.mem_cons.mp inside with equal | later
          · exact ⟨count, Nat.le_refl count, before, rest, by rw [stack, equal]⟩
          · have kept : work ∈ (explorer.stateAt root (count + 1)).stack := by
              rw [stateAt_succ]
              exact explorer.step_keeps_rest stack later
            rcases known kept with ⟨turn, reached, bounded, onTop⟩
            exact ⟨turn, Nat.le_of_succ_le reached, bounded, onTop⟩

/-- Work left by the visit that enters a directory comes to the top of the stack
in a walk that ends. -/
theorem entered_reaches_top {place : Visit} {rest : List (Work Visit Event)} {key : Key}
    {found : Found} {task : Task Visit Event} {count finish : Nat}
    (front : (explorer.stateAt root count).stack = .task (.visit place) :: rest)
    (looked : explorer.examine place = .directory key found)
    (inactive : key ∉ (explorer.stateAt root count).detector.active)
    (unseen : key ∉ (explorer.stateAt root count).detector.seen)
    (left : task ∈ (explorer.expand place found).2)
    (ended : (explorer.stateAt root finish).stack = []) :
    ∃ turn < finish, ∃ rest, (explorer.stateAt root turn).stack = .task task :: rest := by
  have pushed : .task task ∈ (explorer.stateAt root (count + 1)).stack := by
    rw [explorer.stateAt_succ, (explorer.step_fresh front looked inactive unseen).1]
    exact List.mem_append_left _ (List.mem_map_of_mem left)
  have before : count + 1 ≤ finish := by
    by_contra late
    rw [explorer.stateAt_of_ended root ended (Nat.le_of_lt_succ (Nat.lt_of_not_le late)),
      ended] at front
    cases front
  rcases explorer.reaches_top root ended before pushed with ⟨turn, _, bounded, onTop⟩
  exact ⟨turn, bounded, onTop⟩

end Explorer

namespace Landscape

variable {explorer : Explorer Visit Found Name Key Event} {root : Visit}
  (land : Landscape explorer root)

/-- A visit whose object leads to a directory. -/
def Meets (count : Nat) (directory : land.Directory) (place : Visit) : Prop :=
  explorer.Visits root count place ∧ land.leads (land.object place) = some directory

/-- The visit that meets a directory for the first time. -/
def Records (count : Nat) (directory : land.Directory) (place : Visit) : Prop :=
  land.Meets count directory place ∧
    land.key directory ∉ (explorer.stateAt root count).detector.seen

/-- A directory recorded by an earlier visit that opened it. -/
def OpenedBefore (count : Nat) (key : Key) : Prop :=
  ∃ earlier < count, ∃ directory place, key = land.key directory ∧
    land.Records earlier directory place ∧ land.opens place

/-- What holds before each unit of work. -/
structure Invariant (count : Nat) : Prop where
  placed : ∀ place, .task (.visit place) ∈ (explorer.stateAt root count).stack →
    land.Placed place
  active_seen : ∀ key ∈ (explorer.stateAt root count).detector.active,
    key ∈ (explorer.stateAt root count).detector.seen
  recorded : ∀ key ∈ (explorer.stateAt root count).detector.seen,
    ∃ earlier < count, ∃ directory place, key = land.key directory ∧
      land.Records earlier directory place
  origin : ∀ place, .task (.visit place) ∈ (explorer.stateAt root count).stack →
    place = root ∨ ∃ earlier < count, ∃ directory parent, land.Records earlier directory parent ∧
      land.opens parent ∧ land.object place ∈ land.children directory
  reports : ∀ event, .task (.report event) ∈ (explorer.stateAt root count).stack →
    ∃ earlier < count, ∃ directory place found, land.Records earlier directory place ∧
      explorer.examine place = .directory (land.key directory) found ∧
      .report event ∈ (explorer.expand place found).2
  shape : Shape (land.OpenedBefore count) (explorer.stateAt root count).stack
    (explorer.stateAt root count).detector.chain

theorem OpenedBefore.mono {land : Landscape explorer root} {earlier later : Nat}
    (order : earlier ≤ later) {key : Key} (opened : land.OpenedBefore earlier key) :
    land.OpenedBefore later key := by
  rcases opened with ⟨count, before, facts⟩
  exact ⟨count, Nat.lt_of_lt_of_le before order, facts⟩

theorem invariant_start : land.Invariant 0 where
  placed := by
    intro place inside
    have equal : place = root := by simpa [Explorer.stateAt, Explorer.start] using inside
    exact equal ▸ land.root_placed
  active_seen := fun _ impossible => nomatch impossible
  recorded := fun _ impossible => nomatch impossible
  origin := by
    intro place inside
    exact Or.inl (by simpa [Explorer.stateAt, Explorer.start] using inside)
  reports := by
    intro event inside
    simp [Explorer.stateAt, Explorer.start] at inside
  shape := Shape.base [.visit root]

/-- A step that only takes work off the stack and leaves the detector alone
keeps the invariant. -/
theorem invariant_of_popped {count : Nat} {task : Task Visit Event}
    {rest : List (Work Visit Event)} (holds : land.Invariant count)
    (front : (explorer.stateAt root count).stack = .task task :: rest)
    (stackEq : (explorer.stateAt root (count + 1)).stack = rest)
    (detectorEq : (explorer.stateAt root (count + 1)).detector =
      (explorer.stateAt root count).detector) :
    land.Invariant (count + 1) where
  placed := by
    intro place inside
    rw [stackEq] at inside
    exact holds.placed place (front ▸ List.mem_cons_of_mem _ inside)
  active_seen := by
    rw [detectorEq]
    exact holds.active_seen
  recorded := by
    rw [detectorEq]
    intro key member
    rcases holds.recorded key member with ⟨earlier, before, facts⟩
    exact ⟨earlier, Nat.lt_succ_of_lt before, facts⟩
  origin := by
    intro place inside
    rw [stackEq] at inside
    rcases holds.origin place (front ▸ List.mem_cons_of_mem _ inside) with atRoot | below
    · exact Or.inl atRoot
    · rcases below with ⟨earlier, before, facts⟩
      exact Or.inr ⟨earlier, Nat.lt_succ_of_lt before, facts⟩
  reports := by
    intro event inside
    rw [stackEq] at inside
    rcases holds.reports event (front ▸ List.mem_cons_of_mem _ inside) with ⟨earlier, before, facts⟩
    exact ⟨earlier, Nat.lt_succ_of_lt before, facts⟩
  shape := by
    rw [stackEq, detectorEq]
    have shape := holds.shape
    rw [front] at shape
    exact shape.of_task.1.mono (fun _ => OpenedBefore.mono (Nat.le_succ count))

/-- Leaving a directory keeps the invariant. -/
theorem invariant_of_left {count : Nat} {rest : List (Work Visit Event)}
    (holds : land.Invariant count) (front : (explorer.stateAt root count).stack = .leave :: rest) :
    land.Invariant (count + 1) := by
  have stackEq : (explorer.stateAt root (count + 1)).stack = rest := by
    rw [explorer.stateAt_succ]
    exact (explorer.step_leave front).1
  have detectorEq : (explorer.stateAt root (count + 1)).detector =
      (explorer.stateAt root count).detector.leave := by
    rw [explorer.stateAt_succ]
    exact (explorer.step_leave front).2
  refine ⟨?_, ?_, ?_, ?_, ?_, ?_⟩
  · intro place inside
    rw [stackEq] at inside
    exact holds.placed place (front ▸ List.mem_cons_of_mem _ inside)
  · rw [detectorEq]
    intro key member
    refine holds.active_seen key ?_
    rcases List.mem_map.mp member with ⟨entry, inside, same⟩
    exact List.mem_map.mpr ⟨entry, List.mem_of_mem_tail inside, same⟩
  · rw [detectorEq]
    intro key member
    rcases holds.recorded key member with ⟨earlier, before, facts⟩
    exact ⟨earlier, Nat.lt_succ_of_lt before, facts⟩
  · intro place inside
    rw [stackEq] at inside
    rcases holds.origin place (front ▸ List.mem_cons_of_mem _ inside) with atRoot | below
    · exact Or.inl atRoot
    · rcases below with ⟨earlier, before, facts⟩
      exact Or.inr ⟨earlier, Nat.lt_succ_of_lt before, facts⟩
  · intro event inside
    rw [stackEq] at inside
    rcases holds.reports event (front ▸ List.mem_cons_of_mem _ inside) with ⟨earlier, before, facts⟩
    exact ⟨earlier, Nat.lt_succ_of_lt before, facts⟩
  · rw [stackEq, detectorEq]
    have shape := holds.shape
    rw [front] at shape
    exact shape.of_leave.mono (fun _ => OpenedBefore.mono (Nat.le_succ count))

/-- Entering a fresh directory keeps the invariant. -/
theorem invariant_of_entered {count : Nat} {place : Visit} {rest : List (Work Visit Event)}
    {directory : land.Directory} {found : Found} (holds : land.Invariant count)
    (front : (explorer.stateAt root count).stack = .task (.visit place) :: rest)
    (looked : explorer.examine place = .directory (land.key directory) found)
    (target : land.leads (land.object place) = some directory)
    (unseen : land.key directory ∉ (explorer.stateAt root count).detector.seen) :
    land.Invariant (count + 1) := by
  have placed : land.Placed place := holds.placed place (front ▸ List.mem_cons_self)
  have inactive : land.key directory ∉ (explorer.stateAt root count).detector.active :=
    fun active => unseen (holds.active_seen _ active)
  have record : land.Records count directory place := ⟨⟨⟨rest, front⟩, target⟩, unseen⟩
  rcases explorer.step_fresh front looked inactive unseen with ⟨stepStack, stepDetector, _⟩
  rw [← explorer.stateAt_succ] at stepStack stepDetector
  have opensOf : (explorer.expand place found).2 ≠ [] → land.opens place := by
    intro present
    by_contra closed
    exact present (land.unopened place found closed)
  have split : ∀ work, work ∈ (explorer.stateAt root (count + 1)).stack →
      (∃ task ∈ (explorer.expand place found).2, work = .task task) ∨ work = .leave ∨
        work ∈ rest := by
    intro work inside
    rw [stepStack] at inside
    rcases List.mem_append.mp inside with new | old
    · rcases List.mem_map.mp new with ⟨task, member, equal⟩
      exact Or.inl ⟨task, member, equal.symm⟩
    · exact Or.inr (List.mem_cons.mp old)
  refine ⟨?_, ?_, ?_, ?_, ?_, ?_⟩
  · intro below inside
    rcases split _ inside with ⟨task, member, equal⟩ | mark | old
    · cases equal
      exact ((land.expanded place _ found directory placed looked target).2 below member).1
    · cases mark
    · exact holds.placed below (front ▸ List.mem_cons_of_mem _ old)
  · rw [stepDetector]
    intro key member
    rw [LoopDetector.seen, List.map_append]
    rcases List.mem_cons.mp member with equal | old
    · exact List.mem_append_right _ (by simp [equal])
    · exact List.mem_append_left _ (holds.active_seen key old)
  · rw [stepDetector]
    intro key member
    rw [LoopDetector.seen, List.map_append] at member
    rcases List.mem_append.mp member with old | new
    · rcases holds.recorded key old with ⟨earlier, before, facts⟩
      exact ⟨earlier, Nat.lt_succ_of_lt before, facts⟩
    · exact ⟨count, Nat.lt_succ_self count, directory, place, by simpa using new, record⟩
  · intro below inside
    rcases split _ inside with ⟨task, member, equal⟩ | mark | old
    · cases equal
      exact Or.inr ⟨count, Nat.lt_succ_self count, directory, place, record,
        opensOf (List.ne_nil_of_mem member),
        ((land.expanded place _ found directory placed looked target).2 below member).2⟩
    · cases mark
    · rcases holds.origin below (front ▸ List.mem_cons_of_mem _ old) with atRoot | lower
      · exact Or.inl atRoot
      · rcases lower with ⟨earlier, before, facts⟩
        exact Or.inr ⟨earlier, Nat.lt_succ_of_lt before, facts⟩
  · intro event inside
    rcases split _ inside with ⟨task, member, equal⟩ | mark | old
    · cases equal
      exact ⟨count, Nat.lt_succ_self count, directory, place, found, record, looked, member⟩
    · cases mark
    · rcases holds.reports event (front ▸ List.mem_cons_of_mem _ old) with ⟨earlier, before, facts⟩
      exact ⟨earlier, Nat.lt_succ_of_lt before, facts⟩
  · rw [stepStack, stepDetector]
    have shape := holds.shape
    rw [front] at shape
    rcases shape.of_task with ⟨outer, outerOpen⟩
    refine .level _ _ (outer.mono (fun _ => OpenedBefore.mono (Nat.le_succ count))) ?_ ?_
    · exact fun entry inside => OpenedBefore.mono (Nat.le_succ count) (outerOpen entry inside)
    · exact fun present =>
        ⟨count, Nat.lt_succ_self count, directory, place, rfl, record, opensOf present⟩

theorem invariant_step {count : Nat} (holds : land.Invariant count) :
    land.Invariant (count + 1) := by
  cases stack : (explorer.stateAt root count).stack with
  | nil =>
      have still : explorer.stateAt root (count + 1) = explorer.stateAt root count := by
        rw [explorer.stateAt_succ, explorer.step_idle stack]
      refine ⟨?_, ?_, ?_, ?_, ?_, ?_⟩
      · rw [still]
        exact holds.placed
      · rw [still]
        exact holds.active_seen
      · rw [still]
        intro key member
        rcases holds.recorded key member with ⟨earlier, before, facts⟩
        exact ⟨earlier, Nat.lt_succ_of_lt before, facts⟩
      · rw [still, stack]
        exact fun _ impossible => nomatch impossible
      · rw [still, stack]
        exact fun _ impossible => nomatch impossible
      · rw [still]
        exact holds.shape.mono (fun _ => OpenedBefore.mono (Nat.le_succ count))
  | cons work rest =>
      cases work with
      | leave => exact land.invariant_of_left holds stack
      | task task =>
          cases task with
          | report event =>
              rcases explorer.step_report stack with ⟨stackEq, detectorEq, _⟩
              rw [← explorer.stateAt_succ] at stackEq detectorEq
              exact land.invariant_of_popped holds stack stackEq detectorEq
          | visit place =>
              have placed : land.Placed place := holds.placed place (stack ▸ List.mem_cons_self)
              cases looked : explorer.examine place with
              | stopped events =>
                  rcases explorer.step_stopped stack looked with ⟨stackEq, detectorEq, _⟩
                  rw [← explorer.stateAt_succ] at stackEq detectorEq
                  exact land.invariant_of_popped holds stack stackEq detectorEq
              | directory identity found =>
                  rcases land.directory place _ found placed looked with ⟨directory, target, rfl⟩
                  by_cases active :
                      land.key directory ∈ (explorer.stateAt root count).detector.active
                  · rcases explorer.step_active stack looked active with ⟨stackEq, detectorEq, _⟩
                    rw [← explorer.stateAt_succ] at stackEq detectorEq
                    exact land.invariant_of_popped holds stack stackEq detectorEq
                  · by_cases seen :
                        land.key directory ∈ (explorer.stateAt root count).detector.seen
                    · rcases explorer.step_seen stack looked active seen with
                        ⟨stackEq, detectorEq, _⟩
                      rw [← explorer.stateAt_succ] at stackEq detectorEq
                      exact land.invariant_of_popped holds stack stackEq detectorEq
                    · exact land.invariant_of_entered holds stack looked target seen

/-- The invariant holds before every unit of work. -/
theorem invariant (count : Nat) : land.Invariant count := by
  induction count with
  | zero => exact land.invariant_start
  | succ count known => exact land.invariant_step known

/-! ## Rules for runs -/

theorem visits_placed {count : Nat} {place : Visit}
    (visits : explorer.Visits root count place) : land.Placed place := by
  rcases visits with ⟨rest, front⟩
  exact (land.invariant count).placed place (front ▸ List.mem_cons_self)

variable {land} {count : Nat} {directory : land.Directory} {place : Visit}

/-- A visit that meets a directory looks at it under its key. -/
theorem Meets.examined (meets : land.Meets count directory place) :
    ∃ found, explorer.examine place = .directory (land.key directory) found := by
  rcases meets with ⟨visits, target⟩
  have placed := land.visits_placed visits
  cases looked : explorer.examine place with
  | stopped events =>
      rw [land.stopped place events placed looked] at target
      cases target
  | directory identity found =>
      rcases land.directory place identity found placed looked with ⟨other, same, rfl⟩
      rw [target] at same
      exact ⟨found, by rw [Option.some.inj same]⟩

theorem Records.inactive (records : land.Records count directory place) :
    land.key directory ∉ (explorer.stateAt root count).detector.active :=
  fun active => records.2 ((land.invariant count).active_seen _ active)

theorem Records.seen_after (records : land.Records count directory place) {later : Nat}
    (order : count < later) : land.key directory ∈ (explorer.stateAt root later).detector.seen := by
  rcases records.1.examined with ⟨found, looked⟩
  rcases records.1.1 with ⟨rest, front⟩
  refine explorer.seen_mono root (Nat.succ_le_of_lt order) ?_
  rw [explorer.stateAt_succ, (explorer.step_fresh front looked records.inactive records.2).2.1,
    LoopDetector.seen, List.map_append]
  exact List.mem_append_right _ (by simp)

/-- A directory is recorded by one visit. -/
theorem Records.unique {other : Nat} {otherPlace : Visit}
    (records : land.Records count directory place)
    (again : land.Records other directory otherPlace) : count = other ∧ place = otherPlace := by
  have same : count = other := by
    rcases Nat.lt_trichotomy count other with before | equal | after
    · exact absurd (records.seen_after before) again.2
    · exact equal
    · exact absurd (again.seen_after after) records.2
  subst same
  rcases records.1 with ⟨⟨rest, front⟩, _⟩
  rcases again.1 with ⟨⟨otherRest, otherFront⟩, _⟩
  rw [front] at otherFront
  have equal := (List.cons.inj otherFront).1
  cases equal
  exact ⟨rfl, rfl⟩

/-- A directory that a visit meets is recorded, then or before. -/
theorem Meets.recorded (meets : land.Meets count directory place) :
    ∃ earlier ≤ count, ∃ first, land.Records earlier directory first := by
  by_cases seen : land.key directory ∈ (explorer.stateAt root count).detector.seen
  · rcases (land.invariant count).recorded _ seen with
      ⟨earlier, before, other, first, same, records⟩
    rw [← land.key_injective same] at records
    exact ⟨earlier, Nat.le_of_lt before, first, records⟩
  · exact ⟨count, Nat.le_refl count, place, meets, seen⟩

/-- A visit that meets a directory of the active chain meets an opened one. -/
theorem Meets.active_opened (meets : land.Meets count directory place)
    (active : land.key directory ∈ (explorer.stateAt root count).detector.active) :
    ∃ earlier < count, ∃ first, land.Records earlier directory first ∧ land.opens first := by
  rcases meets with ⟨⟨rest, front⟩, _⟩
  have shape := (land.invariant count).shape
  rw [front] at shape
  rcases List.mem_map.mp active with ⟨entry, inside, same⟩
  rcases shape.of_task.2 entry inside with ⟨earlier, before, other, first, key, records, opens⟩
  rw [← land.key_injective (same.symm.trans key)] at records
  exact ⟨earlier, before, first, records, opens⟩

/-- The sources of an event: a report left by the visit that recorded a
directory, a visit that stopped, or a visit that met a directory. -/
theorem emitted_cases (land : Landscape explorer root) {count : Nat} {event : Event}
    (emits : event ∈ explorer.emitted (explorer.stateAt root count)) :
    (∃ earlier < count, ∃ directory place found, land.Records earlier directory place ∧
        explorer.examine place = .directory (land.key directory) found ∧
        .report event ∈ (explorer.expand place found).2) ∨
      (∃ place events, explorer.Visits root count place ∧
        explorer.examine place = .stopped events ∧ event ∈ events) ∨
      ∃ directory place found, land.Meets count directory place ∧
        explorer.examine place = .directory (land.key directory) found ∧
        ((land.key directory ∈ (explorer.stateAt root count).detector.active ∧
            ∃ ancestor, event ∈ explorer.onCycle place found ancestor) ∨
          (land.key directory ∉ (explorer.stateAt root count).detector.active ∧
            land.key directory ∈ (explorer.stateAt root count).detector.seen ∧
            ∃ first, event ∈ explorer.onDuplicate place found first) ∨
          (land.Records count directory place ∧ event ∈ (explorer.expand place found).1)) := by
  cases stack : (explorer.stateAt root count).stack with
  | nil => simp [Explorer.emitted, stack] at emits
  | cons work rest =>
      cases work with
      | leave => simp [Explorer.emitted, stack] at emits
      | task task =>
          cases task with
          | report reported =>
              rw [(explorer.step_report stack).2.2, List.mem_singleton] at emits
              exact Or.inl ((land.invariant count).reports event
                (by rw [stack, emits]; exact List.mem_cons_self))
          | visit place =>
              have visits : explorer.Visits root count place := ⟨rest, stack⟩
              cases looked : explorer.examine place with
              | stopped events =>
                  rw [(explorer.step_stopped stack looked).2.2] at emits
                  exact Or.inr (Or.inl ⟨place, events, visits, looked, emits⟩)
              | directory identity found =>
                  rcases land.directory place _ found (land.visits_placed visits) looked with
                    ⟨directory, target, rfl⟩
                  refine Or.inr (Or.inr ⟨directory, place, found, ⟨visits, target⟩, looked, ?_⟩)
                  by_cases active :
                      land.key directory ∈ (explorer.stateAt root count).detector.active
                  · rcases explorer.step_active stack looked active with ⟨_, _, ancestor, same⟩
                    exact Or.inl ⟨active, ancestor, same ▸ emits⟩
                  · by_cases seen :
                        land.key directory ∈ (explorer.stateAt root count).detector.seen
                    · rcases explorer.step_seen stack looked active seen with ⟨_, _, first, same⟩
                      exact Or.inr (Or.inl ⟨active, seen, first, same ▸ emits⟩)
                    · refine Or.inr (Or.inr ⟨⟨⟨visits, target⟩, seen⟩, ?_⟩)
                      rw [(explorer.step_fresh stack looked active seen).2.2] at emits
                      exact emits

/-- The events of the visit that records a directory. -/
theorem Records.emitted {found : Found} (records : land.Records count directory place)
    (looked : explorer.examine place = .directory (land.key directory) found) :
    explorer.emitted (explorer.stateAt root count) = (explorer.expand place found).1 := by
  rcases records.1.1 with ⟨rest, front⟩
  exact (explorer.step_fresh front looked records.inactive records.2).2.2

/-- A visit that meets a recorded directory off the chain emits a duplicate
notice. -/
theorem Meets.emitted_duplicate {found : Found} (meets : land.Meets count directory place)
    (looked : explorer.examine place = .directory (land.key directory) found)
    (inactive : land.key directory ∉ (explorer.stateAt root count).detector.active)
    (seen : land.key directory ∈ (explorer.stateAt root count).detector.seen) :
    ∃ first, explorer.emitted (explorer.stateAt root count) =
      explorer.onDuplicate place found first := by
  rcases meets.1 with ⟨rest, front⟩
  exact (explorer.step_seen front looked inactive seen).2.2

/-- Work left by the visit that records a directory comes to the top of the
stack in a walk that ends. -/
theorem Records.reaches_top {finish : Nat} {found : Found} {task : Task Visit Event}
    (records : land.Records count directory place)
    (looked : explorer.examine place = .directory (land.key directory) found)
    (left : task ∈ (explorer.expand place found).2)
    (ended : (explorer.stateAt root finish).stack = []) :
    ∃ turn < finish, ∃ rest, (explorer.stateAt root turn).stack = .task task :: rest := by
  rcases records.1.1 with ⟨rest, front⟩
  exact explorer.entered_reaches_top root front looked records.inactive records.2 left ended

/-- In a walk that ends, every object of an opened directory is visited. -/
theorem Records.children_visited {finish : Nat} (records : land.Records count directory place)
    (opens : land.opens place) (ended : (explorer.stateAt root finish).stack = []) :
    ∀ child ∈ land.children directory, ∃ turn < finish, ∃ below,
      explorer.Visits root turn below ∧ land.object below = child := by
  intro child member
  rcases records.1.examined with ⟨found, looked⟩
  rcases land.opened place _ found directory
      (land.visits_placed records.1.1) opens looked records.1.2 child member with
    ⟨below, listed, same⟩
  rcases records.reaches_top looked listed ended with ⟨turn, bounded, onTop⟩
  exact ⟨turn, bounded, below, onTop, same⟩

/-- A visited place is the root or lies in a directory opened before. -/
theorem visits_origin (land : Landscape explorer root) {count : Nat} {place : Visit}
    (visits : explorer.Visits root count place) :
    place = root ∨ ∃ earlier < count, ∃ directory parent, land.Records earlier directory parent ∧
      land.opens parent ∧ land.object place ∈ land.children directory := by
  rcases visits with ⟨rest, front⟩
  exact (land.invariant count).origin place (front ▸ List.mem_cons_self)

/-! ## The end of a walk -/

open Classical in
/-- The directories that are still to be entered. -/
noncomputable def unseen (land : Landscape explorer root) (count : Nat) : Finset land.Directory :=
  land.directories.filter
    (fun directory => land.key directory ∉ (explorer.stateAt root count).detector.seen)

/-- The work on the stack and all work that entering directories can add. -/
noncomputable def remaining (land : Landscape explorer root) (count : Nat) : Nat :=
  (explorer.stateAt root count).stack.length +
    (land.unseen count).sum (fun directory => land.size directory + 1)

/-- A number of steps after which every walk has ended. -/
def bound (land : Landscape explorer root) : Nat :=
  land.directories.sum (fun directory => land.size directory + 1) + 1

theorem unseen_subset (land : Landscape explorer root) (count : Nat) :
    land.unseen (count + 1) ⊆ land.unseen count := by
  intro directory inside
  rw [unseen, Finset.mem_filter] at inside ⊢
  refine ⟨inside.1, fun seen => inside.2 ?_⟩
  exact explorer.seen_mono root (Nat.le_succ count) seen

theorem remaining_of_popped (land : Landscape explorer root) {count : Nat}
    {work : Work Visit Event} {rest : List (Work Visit Event)}
    (front : (explorer.stateAt root count).stack = work :: rest)
    (stackEq : (explorer.stateAt root (count + 1)).stack = rest) :
    land.remaining (count + 1) < land.remaining count := by
  have fewer := Finset.sum_le_sum_of_subset (f := fun directory => land.size directory + 1)
    (land.unseen_subset count)
  rw [remaining, remaining, stackEq, front, List.length_cons]
  omega

/-- Every step on a nonempty stack uses up work. -/
theorem remaining_decreases (land : Landscape explorer root) {count : Nat}
    (busy : (explorer.stateAt root count).stack ≠ []) :
    land.remaining (count + 1) < land.remaining count := by
  cases stack : (explorer.stateAt root count).stack with
  | nil => exact absurd stack busy
  | cons work rest =>
      cases work with
      | leave =>
          have stackEq := (explorer.step_leave stack).1
          rw [← explorer.stateAt_succ] at stackEq
          exact land.remaining_of_popped stack stackEq
      | task task =>
          cases task with
          | report event =>
              have stackEq := (explorer.step_report stack).1
              rw [← explorer.stateAt_succ] at stackEq
              exact land.remaining_of_popped stack stackEq
          | visit place =>
              have placed := land.visits_placed ⟨rest, stack⟩
              cases looked : explorer.examine place with
              | stopped events =>
                  have stackEq := (explorer.step_stopped stack looked).1
                  rw [← explorer.stateAt_succ] at stackEq
                  exact land.remaining_of_popped stack stackEq
              | directory identity found =>
                  rcases land.directory place _ found placed looked with ⟨directory, target, rfl⟩
                  by_cases seen :
                      land.key directory ∈ (explorer.stateAt root count).detector.seen
                  · have stackEq : (explorer.step (explorer.stateAt root count)).stack = rest := by
                      by_cases active :
                          land.key directory ∈ (explorer.stateAt root count).detector.active
                      · exact (explorer.step_active stack looked active).1
                      · exact (explorer.step_seen stack looked active seen).1
                    rw [← explorer.stateAt_succ] at stackEq
                    exact land.remaining_of_popped stack stackEq
                  · have records : land.Records count directory place :=
                      ⟨⟨⟨rest, stack⟩, target⟩, seen⟩
                    exact remaining_of_entered records stack looked
where
  remaining_of_entered {count : Nat} {directory : land.Directory} {place : Visit} {found : Found}
      {rest : List (Work Visit Event)} (records : land.Records count directory place)
      (front : (explorer.stateAt root count).stack = .task (.visit place) :: rest)
      (looked : explorer.examine place = .directory (land.key directory) found) :
      land.remaining (count + 1) < land.remaining count := by
    classical
    have placed := land.visits_placed ⟨rest, front⟩
    have few := (land.expanded place _ found directory placed looked records.1.2).1
    have inside : directory ∈ land.unseen count := by
      rw [unseen, Finset.mem_filter]
      exact ⟨land.listed_all directory, records.2⟩
    have gone : land.unseen (count + 1) ⊆ (land.unseen count).erase directory := by
      intro other member
      refine Finset.mem_erase.mpr ⟨?_, land.unseen_subset count member⟩
      rintro rfl
      rw [unseen, Finset.mem_filter] at member
      exact member.2 (records.seen_after (Nat.lt_succ_self count))
    have fewer := Finset.sum_le_sum_of_subset (f := fun other => land.size other + 1) gone
    have parts := Finset.add_sum_erase (land.unseen count) (fun other => land.size other + 1) inside
    have stackEq := (explorer.step_fresh front looked records.inactive records.2).1
    rw [← explorer.stateAt_succ] at stackEq
    rw [remaining, remaining, stackEq, front, List.length_append, List.length_map,
      List.length_cons, List.length_cons]
    omega

/-- The walk ends within the bound. -/
theorem ends (land : Landscape explorer root) {finish : Nat} (enough : land.bound ≤ finish) :
    (explorer.stateAt root finish).stack = [] := by
  have progress : ∀ count, (explorer.stateAt root count).stack = [] ∨
      land.remaining count + count ≤ land.remaining 0 := by
    intro count
    induction count with
    | zero => exact Or.inr (Nat.le_refl _)
    | succ count known =>
        by_cases empty : (explorer.stateAt root count).stack = []
        · exact Or.inl (by rw [explorer.stateAt_succ, explorer.step_idle empty, empty])
        · have bounded := known.resolve_left empty
          have fewer := land.remaining_decreases empty
          exact Or.inr (by omega)
  have begin : land.remaining 0 ≤ land.bound := by
    have all := Finset.sum_le_sum_of_subset (f := fun directory => land.size directory + 1)
      (Finset.filter_subset (fun directory =>
        land.key directory ∉ (explorer.stateAt root 0).detector.seen) land.directories)
    rw [remaining, unseen, bound]
    have single : (explorer.stateAt root 0).stack.length = 1 := rfl
    omega
  rcases progress finish with empty | bounded
  · exact empty
  · refine List.eq_nil_of_length_eq_zero ?_
    rw [remaining] at bounded
    omega

end Landscape

end Graph
end Stars
