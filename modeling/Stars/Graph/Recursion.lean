import Stars.Graph.WalkRun

namespace Stars
namespace Graph

/-!
# The walk as a recursion

The naive walk calls itself: it enters a directory, reports what the directory
shows, walks what is inside in the order of the listing, and leaves.  The stack
of `Explorer.walk` holds what the frames of these calls still have to do, so a
call that returns is a number of steps which take its work off the stack.

Calls return when the directories have finitely many keys, because each nested
call has entered another one.  A cancelled walk has taken fewer steps, and steps
only add to the trace.
-/

variable {Visit Found Name Key Event : Type} [DecidableEq Key]

namespace Explorer

variable (explorer : Explorer Visit Found Name Key Event)

/-- Tasks one after the other, each visit by the given call. -/
def descendEach
    (call : LoopDetector Name Key → Visit → Option (List Event × LoopDetector Name Key)) :
    LoopDetector Name Key → List (Task Visit Event) →
      Option (List Event × LoopDetector Name Key)
  | detector, [] => some ([], detector)
  | detector, .report event :: rest =>
      (descendEach call detector rest).map (fun done => (event :: done.1, done.2))
  | detector, .visit place :: rest =>
      (call detector place).bind (fun first =>
        (descendEach call first.2 rest).map (fun done => (first.1 ++ done.1, done.2)))

/-- The walk of a place by recursion, with calls nested at most `depth` deep. -/
def descend : (depth : Nat) → LoopDetector Name Key → Visit →
    Option (List Event × LoopDetector Name Key)
  | 0, _, _ => none
  | depth + 1, detector, place =>
      match explorer.examine place with
      | .stopped events => some (events, detector)
      | .directory key found =>
          match detector.enter key (explorer.name place) with
          | (.cycle ancestor, _) => some (explorer.onCycle place found ancestor, detector)
          | (.duplicateTarget first, _) => some (explorer.onDuplicate place found first, detector)
          | (.fresh, entered) =>
              let expansion := explorer.expand place found
              (descendEach (descend depth) entered expansion.2).map
                (fun below => (expansion.1 ++ below.1, below.2.leave))

/-- Some number of steps leads from one state to the other. -/
def Reaches (before after : WalkState Visit Name Key Event) : Prop :=
  ∃ count, explorer.step^[count] before = after

variable {explorer}

theorem Reaches.refl (state : WalkState Visit Name Key Event) : explorer.Reaches state state :=
  ⟨0, rfl⟩

theorem Reaches.trans {first second third : WalkState Visit Name Key Event}
    (before : explorer.Reaches first second) (after : explorer.Reaches second third) :
    explorer.Reaches first third := by
  rcases before with ⟨earlier, rfl⟩
  rcases after with ⟨later, rfl⟩
  exact ⟨later + earlier, Function.iterate_add_apply explorer.step later earlier first⟩

theorem Reaches.step (state : WalkState Visit Name Key Event) :
    explorer.Reaches state (explorer.step state) := ⟨1, rfl⟩

/-- The work of a call is taken off the stack, with its events and its
detector. -/
def Runs (explorer : Explorer Visit Found Name Key Event) (work : List (Work Visit Event))
    (detector : LoopDetector Name Key) (done : List Event × LoopDetector Name Key) : Prop :=
  ∀ rest trace, explorer.Reaches ⟨work ++ rest, detector, trace⟩ ⟨rest, done.2, trace ++ done.1⟩

theorem runs_of_step {task : Task Visit Event} {detector after : LoopDetector Name Key}
    {events : List Event}
    (steps : ∀ rest trace, explorer.step ⟨.task task :: rest, detector, trace⟩ =
      ⟨rest, after, trace ++ events⟩) :
    explorer.Runs [.task task] detector (events, after) :=
  fun rest trace => steps rest trace ▸ Reaches.step _

theorem Runs.append {first second : List (Work Visit Event)}
    {detector : LoopDetector Name Key} {done last : List Event × LoopDetector Name Key}
    (before : explorer.Runs first detector done) (after : explorer.Runs second done.2 last) :
    explorer.Runs (first ++ second) detector (done.1 ++ last.1, last.2) := by
  intro rest trace
  rw [List.append_assoc, ← List.append_assoc trace]
  exact (before (second ++ rest) trace).trans (after rest (trace ++ done.1))

theorem runs_of_descendEach
    {call : LoopDetector Name Key → Visit → Option (List Event × LoopDetector Name Key)}
    (calls : ∀ detector place done, call detector place = some done →
      explorer.Runs [.task (.visit place)] detector done) :
    ∀ (tasks : List (Task Visit Event)) (detector : LoopDetector Name Key)
      (done : List Event × LoopDetector Name Key),
      descendEach call detector tasks = some done → explorer.Runs (tasks.map .task) detector done
  | [], detector, done, returned => by
      cases returned
      intro rest trace
      rw [List.append_nil]
      exact Reaches.refl _
  | .report event :: tasks, detector, done, returned => by
      rcases Option.map_eq_some_iff.mp returned with ⟨last, below, rfl⟩
      have reported : explorer.Runs [.task (.report event)] detector ([event], detector) :=
        runs_of_step (fun rest trace => rfl)
      exact reported.append (runs_of_descendEach calls tasks detector last below)
  | .visit place :: tasks, detector, done, returned => by
      rcases Option.bind_eq_some_iff.mp returned with ⟨first, called, further⟩
      rcases Option.map_eq_some_iff.mp further with ⟨last, below, rfl⟩
      exact (calls detector place first called).append
        (runs_of_descendEach calls tasks first.2 last below)

/-- A call that returns is a run of the stack. -/
theorem runs_of_descend : ∀ (depth : Nat) (detector : LoopDetector Name Key) (place : Visit)
    (done : List Event × LoopDetector Name Key), explorer.descend depth detector place = some done →
      explorer.Runs [.task (.visit place)] detector done := by
  intro depth
  induction depth with
  | zero => exact fun _ _ _ impossible => nomatch impossible
  | succ depth known =>
      intro detector place done returned
      rw [descend] at returned
      cases looked : explorer.examine place with
      | stopped events =>
          rw [looked] at returned
          cases returned
          refine runs_of_step (fun rest trace => ?_)
          simp only [step, visit, looked]
      | directory key found =>
          rw [looked] at returned
          dsimp only at returned
          rcases decided : detector.enter key (explorer.name place) with ⟨decision, entered⟩
          rw [decided] at returned
          cases decision with
          | cycle ancestor =>
              cases returned
              refine runs_of_step (fun rest trace => ?_)
              simp only [step, visit, looked, decided]
          | duplicateTarget first =>
              cases returned
              refine runs_of_step (fun rest trace => ?_)
              simp only [step, visit, looked, decided]
          | fresh =>
              rcases Option.map_eq_some_iff.mp returned with ⟨below, inside, rfl⟩
              intro rest trace
              have opened : explorer.step ⟨.task (.visit place) :: rest, detector, trace⟩ =
                  ⟨(explorer.expand place found).2.map .task ++ .leave :: rest, entered,
                    trace ++ (explorer.expand place found).1⟩ := by
                simp only [step, visit, looked, decided]
              have ran := runs_of_descendEach known _ entered below inside (.leave :: rest)
                (trace ++ (explorer.expand place found).1)
              rw [← opened] at ran
              rw [← List.append_assoc]
              exact ((Reaches.step _).trans ran).trans (Reaches.step _)

section Return

variable {keys : Finset Key} {Arises : Visit → Prop}

/-- The keys that no call has entered. -/
def unentered (keys : Finset Key) (detector : LoopDetector Name Key) : Finset Key :=
  keys.filter (fun key => key ∉ detector.seen)

theorem unentered_subset {earlier later : LoopDetector Name Key}
    (grows : earlier.seen ⊆ later.seen) : unentered keys later ⊆ unentered keys earlier := by
  intro key inside
  rw [unentered, Finset.mem_filter] at inside ⊢
  exact ⟨inside.1, fun seen => inside.2 (grows seen)⟩

theorem enter_fresh_spec {detector entered : LoopDetector Name Key} {key : Key} {name : Name}
    (decided : detector.enter key name = (.fresh, entered)) :
    key ∉ detector.seen ∧ entered.seen = detector.seen ++ [key] := by
  by_cases active : key ∈ detector.active
  · rcases detector.enter_active name active with ⟨ancestor, cycle⟩
    rw [cycle] at decided
    cases decided
  · by_cases seen : key ∈ detector.seen
    · rcases detector.enter_seen name active seen with ⟨first, duplicate⟩
      rw [duplicate] at decided
      cases decided
    · rw [detector.enter_fresh name active seen] at decided
      cases decided
      exact ⟨seen, List.map_append⟩

omit [DecidableEq Key] in
/-- Calls forget no directory. -/
theorem descendEach_grows
    {call : LoopDetector Name Key → Visit → Option (List Event × LoopDetector Name Key)}
    (calls : ∀ detector place done, call detector place = some done →
      detector.seen ⊆ done.2.seen) :
    ∀ (tasks : List (Task Visit Event)) (detector : LoopDetector Name Key)
      (done : List Event × LoopDetector Name Key),
      descendEach call detector tasks = some done → detector.seen ⊆ done.2.seen
  | [], detector, done, returned => by
      cases returned
      exact List.Subset.refl _
  | .report event :: tasks, detector, done, returned => by
      rcases Option.map_eq_some_iff.mp returned with ⟨last, below, rfl⟩
      exact descendEach_grows calls tasks detector last below
  | .visit place :: tasks, detector, done, returned => by
      rcases Option.bind_eq_some_iff.mp returned with ⟨first, called, further⟩
      rcases Option.map_eq_some_iff.mp further with ⟨last, below, rfl⟩
      exact List.Subset.trans (calls detector place first called)
        (descendEach_grows calls tasks first.2 last below)

theorem descend_grows : ∀ (depth : Nat) (detector : LoopDetector Name Key) (place : Visit)
    (done : List Event × LoopDetector Name Key), explorer.descend depth detector place = some done →
      detector.seen ⊆ done.2.seen := by
  intro depth
  induction depth with
  | zero => exact fun _ _ _ impossible => nomatch impossible
  | succ depth known =>
      intro detector place done returned
      rw [descend] at returned
      cases looked : explorer.examine place with
      | stopped events =>
          rw [looked] at returned
          cases returned
          exact List.Subset.refl _
      | directory key found =>
          rw [looked] at returned
          dsimp only at returned
          rcases decided : detector.enter key (explorer.name place) with ⟨decision, entered⟩
          rw [decided] at returned
          cases decision with
          | cycle ancestor =>
              cases returned
              exact List.Subset.refl _
          | duplicateTarget first =>
              cases returned
              exact List.Subset.refl _
          | fresh =>
              rcases Option.map_eq_some_iff.mp returned with ⟨below, inside, rfl⟩
              have grows := descendEach_grows known _ entered below inside
              rw [(enter_fresh_spec decided).2] at grows
              exact List.Subset.trans (List.subset_append_left _ _) grows

theorem descendEach_returns
    {call : LoopDetector Name Key → Visit → Option (List Event × LoopDetector Name Key)}
    {bound : Nat}
    (calls : ∀ detector place, Arises place → (unentered keys detector).card < bound →
      ∃ done, call detector place = some done ∧ detector.seen ⊆ done.2.seen) :
    ∀ (tasks : List (Task Visit Event)) (detector : LoopDetector Name Key),
      (∀ place, .visit place ∈ tasks → Arises place) → (unentered keys detector).card < bound →
        ∃ done, descendEach call detector tasks = some done
  | [], detector, _, _ => ⟨_, rfl⟩
  | .report event :: tasks, detector, arise, few => by
      rcases descendEach_returns calls tasks detector
        (fun place inside => arise place (List.mem_cons_of_mem _ inside)) few with ⟨done, below⟩
      exact ⟨(event :: done.1, done.2), by rw [descendEach, below, Option.map_some]⟩
  | .visit place :: tasks, detector, arise, few => by
      rcases calls detector place (arise place List.mem_cons_self) few with ⟨first, called, grows⟩
      have fewer : (unentered keys first.2).card < bound :=
        Nat.lt_of_le_of_lt (Finset.card_le_card (unentered_subset grows)) few
      rcases descendEach_returns calls tasks first.2
        (fun place inside => arise place (List.mem_cons_of_mem _ inside)) fewer with ⟨done, below⟩
      exact ⟨(first.1 ++ done.1, done.2),
        by rw [descendEach, called, Option.bind_some, below, Option.map_some]⟩

/-- A call returns when more calls may be nested than directories are left. -/
theorem descend_returns
    (known : ∀ place key found, Arises place → explorer.examine place = .directory key found →
      key ∈ keys ∧ ∀ below, .visit below ∈ (explorer.expand place found).2 → Arises below) :
    ∀ (depth : Nat) (detector : LoopDetector Name Key) (place : Visit), Arises place →
      (unentered keys detector).card < depth →
        ∃ done, explorer.descend depth detector place = some done := by
  intro depth
  induction depth with
  | zero => exact fun _ _ _ impossible => absurd impossible (Nat.not_lt_zero _)
  | succ depth returns =>
      intro detector place arises few
      rw [descend]
      cases looked : explorer.examine place with
      | stopped events => exact ⟨_, rfl⟩
      | directory key found =>
          dsimp only
          rcases decided : detector.enter key (explorer.name place) with ⟨decision, entered⟩
          cases decision with
          | cycle ancestor => exact ⟨_, rfl⟩
          | duplicateTarget first => exact ⟨_, rfl⟩
          | fresh =>
              rcases known place key found arises looked with ⟨inside, below⟩
              rcases enter_fresh_spec decided with ⟨unseen, seen⟩
              have less : unentered keys entered ⊂ unentered keys detector := by
                refine (Finset.ssubset_iff_of_subset ?_).mpr ⟨key, ?_, ?_⟩
                · exact unentered_subset (seen ▸ List.subset_append_left _ _)
                · exact Finset.mem_filter.mpr ⟨inside, unseen⟩
                · rw [unentered, Finset.mem_filter, seen]
                  exact fun both => both.2 (List.mem_append_right _ List.mem_cons_self)
              have fewer : (unentered keys entered).card < depth :=
                Nat.lt_of_lt_of_le (Finset.card_lt_card less) (Nat.le_of_lt_succ few)
              have calls : ∀ detector place, Arises place →
                  (unentered keys detector).card < depth →
                    ∃ done, explorer.descend depth detector place = some done ∧
                      detector.seen ⊆ done.2.seen := by
                intro detector place arises few
                rcases returns detector place arises few with ⟨done, returned⟩
                exact ⟨done, returned, descend_grows depth detector place done returned⟩
              rcases descendEach_returns calls _ entered below fewer with ⟨done, inner⟩
              dsimp only
              exact ⟨_, by rw [inner, Option.map_some]⟩

end Return

/-! ## Cancelled walks -/

/-- Steps only add to the trace. -/
theorem trace_prefix (state : WalkState Visit Name Key Event) (count : Nat) :
    state.trace <+: (explorer.step^[count] state).trace := by
  induction count with
  | zero => exact List.prefix_refl _
  | succ count known =>
      rw [Function.iterate_succ_apply', step_trace]
      exact known.trans (List.prefix_append _ _)

/-- A walk that may be cancelled takes some number of steps. -/
theorem walk_eq_iterate (explorer : Explorer Visit Found Name Key Event)
    (cancelled : Nat → Bool) :
    ∀ (fuel check : Nat) (state : WalkState Visit Name Key Event),
      ∃ count, explorer.walk cancelled fuel check state = explorer.step^[count] state := by
  intro fuel
  induction fuel with
  | zero => exact fun _ _ => ⟨0, rfl⟩
  | succ fuel known =>
      intro check state
      rw [walk]
      split
      · exact ⟨0, rfl⟩
      · rcases known (check + 1) (explorer.step state) with ⟨count, same⟩
        exact ⟨count + 1, same⟩

/-- After the end of a walk nothing is added. -/
theorem iterate_prefix_of_ended {state : WalkState Visit Name Key Event} {finish : Nat}
    (ended : (explorer.step^[finish] state).stack = []) (count : Nat) :
    (explorer.step^[count] state).trace <+: (explorer.step^[finish] state).trace := by
  rcases Nat.le_total count finish with before | after
  · rcases Nat.exists_eq_add_of_le' before with ⟨further, rfl⟩
    rw [Function.iterate_add_apply]
    exact trace_prefix _ further
  · rcases Nat.exists_eq_add_of_le' after with ⟨further, rfl⟩
    rw [Function.iterate_add_apply, explorer.iterate_idle ended]

end Explorer

end Graph
end Stars
