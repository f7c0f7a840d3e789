import Stars.Graph.WalkRun

namespace Stars
namespace Graph

/-!
# Routes of a walk

The stack does not say how the walk came to a place.  `Explorer.routed` walks
the same hierarchy and notes with each place the keys of the directories above
it.  Forgetting the notes gives the original walk, step by step, and the active
chain is at each visit the noted route.

A visit of a directory is therefore a cycle exactly when its key is on the route
to it.  The chain changes only when a directory is entered, which happens once
for a key, and when its mark is taken off the stack.
-/

variable {Visit Found Name Key Event : Type}

/-- A place with the keys of the directories above it, innermost first. -/
structure Routed (Visit Key : Type) where
  place : Visit
  above : List Key

def Task.mapVisit {Other : Type} (change : Visit → Other) : Task Visit Event → Task Other Event
  | .visit place => .visit (change place)
  | .report event => .report event

def Work.mapVisit {Other : Type} (change : Visit → Other) : Work Visit Event → Work Other Event
  | .task inner => .task (inner.mapVisit change)
  | .leave => .leave

/-- The walk without the notes. -/
def WalkState.forget (state : WalkState (Routed Visit Key) Name Key Event) :
    WalkState Visit Name Key Event where
  stack := state.stack.map (Work.mapVisit Routed.place)
  detector := state.detector
  trace := state.trace

namespace Explorer

/-- The same hierarchy, with the route noted at each place. -/
def routed (explorer : Explorer Visit Found Name Key Event) :
    Explorer (Routed Visit Key) (Key × Found) Name Key Event where
  name := fun noted => explorer.name noted.place
  examine := fun noted =>
    match explorer.examine noted.place with
    | .stopped events => .stopped events
    | .directory key found => .directory key (key, found)
  onCycle := fun noted found => explorer.onCycle noted.place found.2
  onDuplicate := fun noted found => explorer.onDuplicate noted.place found.2
  expand := fun noted found =>
    let expansion := explorer.expand noted.place found.2
    (expansion.1, expansion.2.map (Task.mapVisit (fun below => ⟨below, found.1 :: noted.above⟩)))

variable (explorer : Explorer Visit Found Name Key Event)

theorem routed_examine_stopped {noted : Routed Visit Key} {events : List Event}
    (looked : explorer.examine noted.place = .stopped events) :
    explorer.routed.examine noted = .stopped events := by
  simp only [routed, looked]

theorem routed_examine_directory {noted : Routed Visit Key} {key : Key} {found : Found}
    (looked : explorer.examine noted.place = .directory key found) :
    explorer.routed.examine noted = .directory key (key, found) := by
  simp only [routed, looked]

theorem forget_pushed (noted : Routed Visit Key) (key : Key) (found : Found)
    (rest : List (Work (Routed Visit Key) Event)) :
    ((explorer.routed.expand noted (key, found)).2.map Work.task ++ Work.leave :: rest).map
        (Work.mapVisit Routed.place) =
      (explorer.expand noted.place found).2.map .task ++
        .leave :: rest.map (Work.mapVisit Routed.place) := by
  rw [List.map_append, List.map_cons, List.map_map, routed, List.map_map]
  refine congrArg (· ++ _) (List.map_congr_left (fun task _ => ?_))
  cases task with
  | visit place => rfl
  | report event => rfl

variable [DecidableEq Key]

/-- The noted walk takes the steps of the original walk. -/
theorem forget_step (state : WalkState (Routed Visit Key) Name Key Event) :
    (explorer.routed.step state).forget = explorer.step state.forget := by
  rcases state with ⟨stack, detector, trace⟩
  cases stack with
  | nil => rfl
  | cons work rest =>
      cases work with
      | leave => rfl
      | task task =>
          cases task with
          | report event => rfl
          | visit noted =>
              change (explorer.routed.visit _ rest noted).forget =
                explorer.visit (WalkState.forget ⟨_, detector, trace⟩) _ noted.place
              rw [visit, visit]
              cases looked : explorer.examine noted.place with
              | stopped events =>
                  rw [explorer.routed_examine_stopped looked]
                  rfl
              | directory key found =>
                  rw [explorer.routed_examine_directory looked]
                  rcases decided : detector.enter key (explorer.name noted.place) with
                    ⟨decision, entered⟩
                  have same : detector.enter key (explorer.routed.name noted) =
                      (decision, entered) := decided
                  simp only [WalkState.forget, same, decided]
                  cases decision with
                  | cycle ancestor => rfl
                  | duplicateTarget first => rfl
                  | fresh =>
                      have pushed := explorer.forget_pushed noted key found rest
                      exact congrArg (fun stack => WalkState.mk stack entered
                        (trace ++ (explorer.expand noted.place found).1)) pushed

/-- The state of the noted walk. -/
def routedAt (root : Visit) (count : Nat) : WalkState (Routed Visit Key) Name Key Event :=
  explorer.routed.stateAt ⟨root, []⟩ count

theorem forget_routedAt (root : Visit) (count : Nat) :
    (explorer.routedAt root count).forget = explorer.stateAt root count := by
  induction count with
  | zero => rfl
  | succ count known =>
      rw [routedAt, stateAt_succ, forget_step, stateAt_succ, ← known, routedAt]

/-- The walk comes to a place over the directories with the given keys. -/
def ComesOver (root : Visit) (count : Nat) (place : Visit) (above : List Key) : Prop :=
  explorer.routed.Visits ⟨root, []⟩ count ⟨place, above⟩

variable {explorer} {root : Visit} {count : Nat} {place : Visit}

theorem ComesOver.visits {above : List Key} (comes : explorer.ComesOver root count place above) :
    explorer.Visits root count place := by
  rcases comes with ⟨rest, noted⟩
  refine ⟨rest.map (Work.mapVisit Routed.place), ?_⟩
  rw [← explorer.forget_routedAt, WalkState.forget, routedAt, noted]
  rfl

theorem ComesOver.unique {above other : List Key}
    (comes : explorer.ComesOver root count place above)
    (again : explorer.ComesOver root count place other) : other = above := by
  rcases comes with ⟨rest, noted⟩
  rcases again with ⟨otherRest, otherNoted⟩
  rw [noted] at otherNoted
  cases otherNoted
  rfl

/-- Each visit of the walk has one route. -/
theorem comesOver_of_visits (visits : explorer.Visits root count place) :
    ∃! above, explorer.ComesOver root count place above := by
  rcases visits with ⟨rest, front⟩
  have forgotten := congrArg WalkState.stack (explorer.forget_routedAt root count)
  rw [front] at forgotten
  rcases List.map_eq_cons_iff.mp forgotten with ⟨work, others, noted, same, _⟩
  cases work with
  | leave => cases same
  | task task =>
      cases task with
      | report event => cases same
      | visit routed =>
          cases same
          have comes : explorer.ComesOver root count routed.place routed.above := ⟨others, noted⟩
          exact ⟨routed.above, comes, fun other again => comes.unique again⟩

end Explorer

/-- Under each mark lies the work of one directory of the chain, noted with the
chain from there on. -/
inductive Aligned : List (Work (Routed Visit Key) Event) → List (Key × Name) → Prop where
  | base (tasks : List (Task (Routed Visit Key) Event))
      (noted : ∀ visit, .visit visit ∈ tasks → visit.above = []) : Aligned (tasks.map .task) []
  | level (tasks : List (Task (Routed Visit Key) Event)) (entry : Key × Name)
      {stack : List (Work (Routed Visit Key) Event)} {chain : List (Key × Name)}
      (outer : Aligned stack chain)
      (noted : ∀ visit, .visit visit ∈ tasks →
        visit.above = (entry :: chain).map Prod.fst) :
      Aligned (tasks.map .task ++ .leave :: stack) (entry :: chain)

namespace Aligned

variable {stack : List (Work (Routed Visit Key) Event)} {chain : List (Key × Name)}

theorem of_task {task : Task (Routed Visit Key) Event}
    (aligned : Aligned (.task task :: stack) chain) :
    Aligned stack chain ∧ ∀ visit, task = .visit visit → visit.above = chain.map Prod.fst := by
  generalize whole : Work.task task :: stack = all at aligned
  cases aligned with
  | base tasks noted =>
      cases tasks with
      | nil => cases whole
      | cons first others =>
          rcases List.cons.inj whole with ⟨same, rfl⟩
          cases same
          refine ⟨.base others (fun visit inside => noted visit (List.mem_cons_of_mem _ inside)), ?_⟩
          rintro visit rfl
          exact noted visit List.mem_cons_self
  | level tasks entry outer noted =>
      cases tasks with
      | nil => cases whole
      | cons first others =>
          rcases List.cons.inj whole with ⟨same, rfl⟩
          cases same
          refine ⟨.level others entry outer
            (fun visit inside => noted visit (List.mem_cons_of_mem _ inside)), ?_⟩
          rintro visit rfl
          exact noted visit List.mem_cons_self

theorem of_leave (aligned : Aligned (.leave :: stack) chain) :
    ∃ entry outer, chain = entry :: outer ∧ Aligned stack outer := by
  generalize whole : Work.leave :: stack = all at aligned
  cases aligned with
  | base tasks noted =>
      cases tasks with
      | nil => cases whole
      | cons first others => cases whole
  | level tasks entry outer noted =>
      cases tasks with
      | nil =>
          rcases List.cons.inj whole with ⟨_, rfl⟩
          exact ⟨entry, _, rfl, outer⟩
      | cons first others => cases whole

theorem of_nil (aligned : Aligned ([] : List (Work (Routed Visit Key) Event)) chain) :
    chain = [] := by
  generalize whole : ([] : List (Work (Routed Visit Key) Event)) = all at aligned
  cases aligned with
  | base tasks noted => rfl
  | level tasks entry outer noted =>
      cases tasks with
      | nil => cases whole
      | cons first others => cases whole

end Aligned

namespace Explorer

variable [DecidableEq Key] (explorer : Explorer Visit Found Name Key Event)

theorem aligned_step {state : WalkState (Routed Visit Key) Name Key Event}
    (aligned : Aligned state.stack state.detector.chain) :
    Aligned (explorer.routed.step state).stack (explorer.routed.step state).detector.chain := by
  cases explorer.routed.step_outcome state with
  | idle empty =>
      rw [explorer.routed.step_idle empty]
      exact aligned
  | left front =>
      rw [front] at aligned
      rcases aligned.of_leave with ⟨entry, outer, chain, below⟩
      rw [(explorer.routed.step_leave front).1, (explorer.routed.step_leave front).2,
        LoopDetector.leave, chain]
      exact below
  | passed front stackEq detectorEq =>
      rw [front] at aligned
      rw [stackEq, detectorEq]
      exact aligned.of_task.1
  | entered front looked inactive unseen =>
      rename_i noted key found rest
      rw [front] at aligned
      rcases explorer.routed.step_fresh front looked inactive unseen with
        ⟨stackEq, detectorEq, _⟩
      rw [stackEq, detectorEq]
      refine .level _ _ aligned.of_task.1 ?_
      intro visit inside
      rcases List.mem_map.mp inside with ⟨task, _, same⟩
      have keyEq : found.1 = key := by
        simp only [routed] at looked
        split at looked
        · cases looked
        · cases looked
          rfl
      cases task with
      | report event => cases same
      | visit below =>
          cases same
          rw [keyEq, aligned.of_task.2 noted rfl]
          rfl

theorem aligned_routedAt (root : Visit) (count : Nat) :
    Aligned (explorer.routedAt root count).stack (explorer.routedAt root count).detector.chain := by
  induction count with
  | zero =>
      refine .base [.visit ⟨root, []⟩] ?_
      intro visit inside
      cases List.mem_singleton.mp inside
      rfl
  | succ count known =>
      rw [routedAt, stateAt_succ]
      exact explorer.aligned_step known

theorem routedAt_detector (root : Visit) (count : Nat) :
    (explorer.routedAt root count).detector = (explorer.stateAt root count).detector :=
  congrArg WalkState.detector (explorer.forget_routedAt root count)

variable {explorer} {root : Visit} {count : Nat}

/-- At each visit the active chain is the route to it. -/
theorem ComesOver.active_eq {place : Visit} {above : List Key}
    (comes : explorer.ComesOver root count place above) :
    (explorer.stateAt root count).detector.active = above := by
  rcases comes with ⟨rest, front⟩
  have aligned := explorer.aligned_routedAt root count
  rw [routedAt, front] at aligned
  rw [← explorer.routedAt_detector]
  exact (aligned.of_task.2 _ rfl).symm

/-! ## Entering and leaving -/

/-- A unit of work puts a key on the active chain. -/
def Pushes (explorer : Explorer Visit Found Name Key Event) (root : Visit) (count : Nat)
    (key : Key) : Prop :=
  (explorer.stateAt root (count + 1)).detector.active =
    key :: (explorer.stateAt root count).detector.active

/-- A unit of work takes a key off the active chain. -/
def Pops (explorer : Explorer Visit Found Name Key Event) (root : Visit) (count : Nat)
    (key : Key) : Prop :=
  (explorer.stateAt root count).detector.active =
    key :: (explorer.stateAt root (count + 1)).detector.active

/-- Each mark takes a directory off the chain. -/
theorem pops_of_leave {rest : List (Work Visit Event)}
    (front : (explorer.stateAt root count).stack = .leave :: rest) :
    ∃ key, explorer.Pops root count key := by
  have forgotten := congrArg WalkState.stack (explorer.forget_routedAt root count)
  rw [front] at forgotten
  rcases List.map_eq_cons_iff.mp forgotten with ⟨work, others, noted, same, _⟩
  have aligned := explorer.aligned_routedAt root count
  cases work with
  | task task => cases same
  | leave =>
      rw [noted] at aligned
      rcases aligned.of_leave with ⟨entry, outer, chain, _⟩
      rw [explorer.routedAt_detector] at chain
      refine ⟨entry.1, ?_⟩
      rw [Pops, explorer.stateAt_succ, (explorer.step_leave front).2, LoopDetector.active,
        LoopDetector.active, LoopDetector.leave, chain]
      rfl

/-- What a unit of work does to the directories on the chain and to those ever
entered. -/
theorem chain_cases (explorer : Explorer Visit Found Name Key Event) (root : Visit)
    (count : Nat) :
    ((explorer.stateAt root (count + 1)).detector = (explorer.stateAt root count).detector) ∨
      (∃ key, explorer.Pops root count key ∧ (explorer.stateAt root (count + 1)).detector.seen =
        (explorer.stateAt root count).detector.seen) ∨
      ∃ key, explorer.Pushes root count key ∧ key ∉ (explorer.stateAt root count).detector.seen ∧
        (explorer.stateAt root (count + 1)).detector.seen =
          (explorer.stateAt root count).detector.seen ++ [key] := by
  cases explorer.step_outcome (explorer.stateAt root count) with
  | idle empty => exact Or.inl (by rw [stateAt_succ, explorer.step_idle empty])
  | left front =>
      rcases explorer.pops_of_leave front with ⟨key, pops⟩
      refine Or.inr (Or.inl ⟨key, pops, ?_⟩)
      rw [stateAt_succ, (explorer.step_leave front).2]
      rfl
  | passed front stackEq detectorEq => exact Or.inl (by rw [stateAt_succ, detectorEq])
  | entered front looked inactive unseen =>
      rename_i place key found rest
      have detectorEq := (explorer.step_fresh front looked inactive unseen).2.1
      rw [← stateAt_succ] at detectorEq
      refine Or.inr (Or.inr ⟨key, ?_, unseen, ?_⟩)
      · rw [Pushes, detectorEq]
        rfl
      · rw [detectorEq, LoopDetector.seen, List.map_append]
        rfl

/-- The directories on the chain were entered, and are on it once. -/
theorem active_spec (explorer : Explorer Visit Found Name Key Event) (root : Visit) (count : Nat) :
    (explorer.stateAt root count).detector.active ⊆ (explorer.stateAt root count).detector.seen ∧
      (explorer.stateAt root count).detector.active.Nodup := by
  induction count with
  | zero => exact ⟨List.Subset.refl _, List.nodup_nil⟩
  | succ count known =>
      rcases explorer.chain_cases root count with same | ⟨key, pops, seen⟩ | ⟨key, pushes, unseen, seen⟩
      · rw [same]
        exact known
      · rw [Pops] at pops
        rw [pops] at known
        rw [seen]
        exact ⟨(List.cons_subset.mp known.1).2, (List.nodup_cons.mp known.2).2⟩
      · rw [Pushes] at pushes
        rw [pushes, seen]
        refine ⟨List.cons_subset.mpr ⟨List.mem_append_right _ List.mem_cons_self, ?_⟩, ?_⟩
        · exact List.Subset.trans known.1 (List.subset_append_left _ _)
        · exact List.nodup_cons.mpr ⟨fun active => unseen (known.1 active), known.2⟩

theorem active_of_ended {finish : Nat} (ended : (explorer.stateAt root finish).stack = []) :
    (explorer.stateAt root finish).detector.active = [] := by
  have forgotten := congrArg WalkState.stack (explorer.forget_routedAt root finish)
  rw [ended] at forgotten
  have aligned := explorer.aligned_routedAt root finish
  rw [List.map_eq_nil_iff.mp forgotten] at aligned
  rw [← explorer.routedAt_detector, LoopDetector.active, aligned.of_nil]
  rfl

theorem Pushes.spec {key : Key} (pushes : explorer.Pushes root count key) :
    key ∉ (explorer.stateAt root count).detector.seen ∧
      key ∈ (explorer.stateAt root (count + 1)).detector.seen := by
  rw [Pushes] at pushes
  rcases explorer.chain_cases root count with same | ⟨other, pops, _⟩ | ⟨other, again, unseen, seen⟩
  · rw [same] at pushes
    exact absurd pushes.symm (List.cons_ne_self _ _)
  · rw [Pops, pushes] at pops
    have lengths := congrArg List.length pops
    simp only [List.length_cons] at lengths
    omega
  · rw [Pushes, pushes] at again
    cases again
    rw [seen]
    exact ⟨unseen, List.mem_append_right _ List.mem_cons_self⟩

/-- A key that was taken off the chain stays off it. -/
theorem inactive_stays {key : Key} {earlier later : Nat} (order : earlier ≤ later)
    (seen : key ∈ (explorer.stateAt root earlier).detector.seen)
    (inactive : key ∉ (explorer.stateAt root earlier).detector.active) :
    key ∉ (explorer.stateAt root later).detector.active := by
  induction order with
  | refl => exact inactive
  | @step turn order known =>
      rcases explorer.chain_cases root turn with same | ⟨other, pops, _⟩ | ⟨other, pushes, unseen, _⟩
      · rw [same]
        exact known
      · rw [Pops] at pops
        rw [pops] at known
        exact fun active => known (List.mem_cons_of_mem _ active)
      · rw [Pushes] at pushes
        rw [pushes, List.mem_cons]
        rintro (rfl | active)
        · exact unseen (explorer.seen_mono root order seen)
        · exact known active

/-- A key that is on the chain and later is not was taken off in between. -/
theorem exists_pops {key : Key} {finish : Nat}
    (inactive : key ∉ (explorer.stateAt root finish).detector.active) :
    ∀ {earlier : Nat}, earlier ≤ finish →
      key ∈ (explorer.stateAt root earlier).detector.active →
        ∃ turn, earlier ≤ turn ∧ explorer.Pops root turn key := by
  intro earlier order active
  induction order using Nat.decreasingInduction with
  | self => exact absurd active inactive
  | of_succ turn _ known =>
      by_cases still : key ∈ (explorer.stateAt root (turn + 1)).detector.active
      · rcases known still with ⟨later, after, pops⟩
        exact ⟨later, Nat.le_of_succ_le after, pops⟩
      · rcases explorer.chain_cases root turn with same | ⟨other, pops, _⟩ | ⟨other, pushes, _, _⟩
        · rw [same] at still
          exact absurd active still
        · have gone := pops
          rw [Pops] at gone
          rw [gone, List.mem_cons] at active
          rcases active with rfl | inside
          · exact ⟨turn, Nat.le_refl turn, pops⟩
          · exact absurd inside still
        · rw [Pushes] at pushes
          rw [pushes] at still
          exact absurd (List.mem_cons_of_mem _ active) still

/-- A key goes off the chain once. -/
theorem Pops.unique {key : Key} {first second : Nat} (pops : explorer.Pops root first key)
    (again : explorer.Pops root second key) : first = second := by
  have gone : ∀ {earlier later : Nat}, explorer.Pops root earlier key →
      explorer.Pops root later key → ¬ earlier < later := by
    intro earlier later pops again before
    rw [Pops] at pops again
    have spec := explorer.active_spec root earlier
    rw [pops] at spec
    have seen := explorer.seen_mono root (Nat.le_succ earlier) (spec.1 List.mem_cons_self)
    have off := inactive_stays before seen (List.nodup_cons.mp spec.2).1
    rw [again] at off
    exact off List.mem_cons_self
  rcases Nat.lt_trichotomy first second with before | same | after
  · exact absurd before (gone pops again)
  · exact same
  · exact absurd after (gone again pops)

/-- In a walk that ends, a key put on the chain is taken off it exactly once. -/
theorem Pushes.popped_once {key : Key} {finish : Nat} (pushes : explorer.Pushes root count key)
    (ended : (explorer.stateAt root finish).stack = []) :
    ∃ turn, count < turn ∧ explorer.Pops root turn key ∧
      ∀ other, explorer.Pops root other key → other = turn := by
  have active : key ∈ (explorer.stateAt root (count + 1)).detector.active := by
    rw [Pushes] at pushes
    rw [pushes]
    exact List.mem_cons_self
  have inside : count + 1 ≤ finish := by
    by_contra late
    rw [explorer.stateAt_of_ended root ended (Nat.le_of_not_le late), active_of_ended ended] at active
    cases active
  have inactive : key ∉ (explorer.stateAt root finish).detector.active := by
    rw [active_of_ended ended]
    exact List.not_mem_nil
  rcases exists_pops inactive inside active with ⟨turn, after, pops⟩
  exact ⟨turn, after, pops, fun other again => again.unique pops⟩

/-! ## Directories met -/

/-- A unit of work meets a directory. -/
def Meets (explorer : Explorer Visit Found Name Key Event) (root : Visit) (count : Nat)
    (place : Visit) (key : Key) : Prop :=
  explorer.Visits root count place ∧ ∃ found, explorer.examine place = .directory key found

/-- A unit of work meets a directory for the first time, and enters it. -/
def Enters (explorer : Explorer Visit Found Name Key Event) (root : Visit) (count : Nat)
    (place : Visit) (key : Key) : Prop :=
  explorer.Meets root count place key ∧ key ∉ (explorer.stateAt root count).detector.seen

theorem Enters.inactive {place : Visit} {key : Key} (enters : explorer.Enters root count place key) :
    key ∉ (explorer.stateAt root count).detector.active :=
  fun active => enters.2 ((explorer.active_spec root count).1 active)

theorem Enters.pushes {place : Visit} {key : Key} (enters : explorer.Enters root count place key) :
    explorer.Pushes root count key := by
  rcases enters.1 with ⟨⟨rest, front⟩, found, looked⟩
  rw [Pushes, stateAt_succ, (explorer.step_fresh front looked enters.inactive enters.2).2.1]
  rfl

/-- Work left by a visit that enters a directory comes to the top of the stack in
a walk that ends. -/
theorem Enters.reaches_top {place : Visit} {key : Key} {found : Found} {task : Task Visit Event}
    {finish : Nat} (enters : explorer.Enters root count place key)
    (looked : explorer.examine place = .directory key found)
    (left : task ∈ (explorer.expand place found).2)
    (ended : (explorer.stateAt root finish).stack = []) :
    ∃ turn < finish, ∃ rest, (explorer.stateAt root turn).stack = .task task :: rest := by
  rcases enters.1.1 with ⟨rest, front⟩
  exact explorer.entered_reaches_top root front looked enters.inactive enters.2 left ended

/-- A place on the stack is the root, or was left by a visit that entered a
directory. -/
theorem origin_of_stack {place : Visit}
    (inside : .task (.visit place) ∈ (explorer.stateAt root count).stack) :
    place = root ∨ ∃ earlier < count, ∃ parent key found, explorer.Enters root earlier parent key ∧
      explorer.examine parent = .directory key found ∧
      .visit place ∈ (explorer.expand parent found).2 := by
  induction count with
  | zero =>
      cases List.mem_singleton.mp inside
      exact Or.inl rfl
  | succ count known =>
      have before : .task (.visit place) ∈ (explorer.stateAt root count).stack → place = root ∨
          ∃ earlier < count + 1, ∃ parent key found, explorer.Enters root earlier parent key ∧
            explorer.examine parent = .directory key found ∧
            .visit place ∈ (explorer.expand parent found).2 := by
        intro there
        refine (known there).imp_right ?_
        rintro ⟨earlier, order, facts⟩
        exact ⟨earlier, Nat.lt_succ_of_lt order, facts⟩
      rw [stateAt_succ] at inside
      cases explorer.step_outcome (explorer.stateAt root count) with
      | idle empty =>
          rw [explorer.step_idle empty] at inside
          exact before inside
      | left front =>
          rw [(explorer.step_leave front).1] at inside
          exact before (front ▸ List.mem_cons_of_mem _ inside)
      | passed front stackEq detectorEq =>
          rw [stackEq] at inside
          exact before (front ▸ List.mem_cons_of_mem _ inside)
      | entered front looked inactive unseen =>
          rename_i parent key found rest
          rw [(explorer.step_fresh front looked inactive unseen).1] at inside
          rcases List.mem_append.mp inside with pushed | kept
          · rcases List.mem_map.mp pushed with ⟨task, left, same⟩
            cases same
            exact Or.inr ⟨count, Nat.lt_succ_self count, parent, key, found,
              ⟨⟨⟨rest, front⟩, found, looked⟩, unseen⟩, looked, left⟩
          · rcases List.mem_cons.mp kept with impossible | below
            · cases impossible
            · exact before (front ▸ List.mem_cons_of_mem _ below)

theorem visits_origin {place : Visit} (visits : explorer.Visits root count place) :
    place = root ∨ ∃ earlier < count, ∃ parent key found, explorer.Enters root earlier parent key ∧
      explorer.examine parent = .directory key found ∧
      .visit place ∈ (explorer.expand parent found).2 := by
  rcases visits with ⟨rest, front⟩
  exact origin_of_stack (front ▸ List.mem_cons_self)

/-- Every directory entered so far was entered by a visit. -/
theorem entered_of_seen {key : Key} (seen : key ∈ (explorer.stateAt root count).detector.seen) :
    ∃ earlier < count, ∃ place, explorer.Enters root earlier place key := by
  induction count with
  | zero => cases seen
  | succ count known =>
      rw [stateAt_succ] at seen
      have before : key ∈ (explorer.stateAt root count).detector.seen →
          ∃ earlier < count + 1, ∃ place, explorer.Enters root earlier place key := by
        intro stated
        rcases known stated with ⟨earlier, order, facts⟩
        exact ⟨earlier, Nat.lt_succ_of_lt order, facts⟩
      cases explorer.step_outcome (explorer.stateAt root count) with
      | idle empty =>
          rw [explorer.step_idle empty] at seen
          exact before seen
      | left front =>
          rw [(explorer.step_leave front).2] at seen
          exact before seen
      | passed front stackEq detectorEq =>
          rw [detectorEq] at seen
          exact before seen
      | entered front looked inactive unseen =>
          rename_i place other found rest
          rw [(explorer.step_fresh front looked inactive unseen).2.1, LoopDetector.seen,
            List.map_append, List.mem_append] at seen
          rcases seen with old | new
          · exact before old
          · cases List.mem_singleton.mp new
            exact ⟨count, Nat.lt_succ_self count, place, ⟨⟨rest, front⟩, found, looked⟩, unseen⟩

/-- A directory is entered once. -/
theorem Enters.unique {key : Key} {first second : Nat} {place other : Visit}
    (enters : explorer.Enters root first place key)
    (again : explorer.Enters root second other key) : first = second ∧ place = other := by
  have seen : ∀ {earlier later : Nat} {place other : Visit},
      explorer.Enters root earlier place key → explorer.Enters root later other key →
        ¬ earlier < later :=
    fun enters again before => again.2 (explorer.seen_mono root before enters.pushes.spec.2)
  rcases Nat.lt_trichotomy first second with before | rfl | after
  · exact absurd before (seen enters again)
  · rcases enters.1.1 with ⟨rest, front⟩
    rcases again.1.1 with ⟨otherRest, otherFront⟩
    rw [front] at otherFront
    cases otherFront
    exact ⟨rfl, rfl⟩
  · exact absurd after (seen again enters)

/-- The directories ever entered are those met before. -/
theorem seen_iff_met {key : Key} :
    key ∈ (explorer.stateAt root count).detector.seen ↔
      ∃ earlier < count, ∃ place, explorer.Meets root earlier place key := by
  constructor
  · intro seen
    rcases entered_of_seen seen with ⟨earlier, before, place, enters⟩
    exact ⟨earlier, before, place, enters.1⟩
  · rintro ⟨earlier, before, place, meets⟩
    by_cases seen : key ∈ (explorer.stateAt root earlier).detector.seen
    · exact explorer.seen_mono root (Nat.le_of_lt before) seen
    · have enters : explorer.Enters root earlier place key := ⟨meets, seen⟩
      exact explorer.seen_mono root before enters.pushes.spec.2

/-- What a visit of a directory emits. -/
theorem Meets.emitted_cases {place : Visit} {key : Key} {found : Found}
    (meets : explorer.Meets root count place key)
    (looked : explorer.examine place = .directory key found) :
    (key ∈ (explorer.stateAt root count).detector.active ∧
        ∃ ancestor, explorer.emitted (explorer.stateAt root count) =
          explorer.onCycle place found ancestor) ∨
      (key ∉ (explorer.stateAt root count).detector.active ∧
        key ∈ (explorer.stateAt root count).detector.seen ∧
        ∃ first, explorer.emitted (explorer.stateAt root count) =
          explorer.onDuplicate place found first) ∨
      (explorer.Enters root count place key ∧
        explorer.emitted (explorer.stateAt root count) = (explorer.expand place found).1) := by
  rcases meets.1 with ⟨rest, front⟩
  by_cases active : key ∈ (explorer.stateAt root count).detector.active
  · exact Or.inl ⟨active, (explorer.step_active front looked active).2.2⟩
  · by_cases seen : key ∈ (explorer.stateAt root count).detector.seen
    · exact Or.inr (Or.inl ⟨active, seen, (explorer.step_seen front looked active seen).2.2⟩)
    · exact Or.inr (Or.inr ⟨⟨meets, seen⟩, (explorer.step_fresh front looked active seen).2.2⟩)

end Explorer

end Graph
end Stars
