namespace Stars
namespace Storage

/-!
# Steps that stop at the first error

A step changes a state and ends with an error or goes on.  What is changed before an error
stays.  `Step.Leads` is the rule of a step: what holds after it when it goes on, and what
holds when it ends with an error.
-/

abbrev Step (State Error : Type) : Type := State → Except Error Unit × State

namespace Step

variable {State Error Item : Type}

/-- The next step, unless there was an error. -/
def andThen (first next : Step State Error) : Step State Error := fun state =>
  match first state with
  | (.ok _, after) => next after
  | (.error reason, after) => (.error reason, after)

/-- The steps of a list, up to the first error. -/
def each (step : Item → Step State Error) : List Item → Step State Error
  | [] => fun state => (.ok (), state)
  | item :: rest => (step item).andThen (each step rest)

/-- What holds after a step. -/
def Leads (step : Step State Error) (state : State) (post : State → Prop)
    (failed : Error → State → Prop) : Prop :=
  match step state with
  | (.ok _, after) => post after
  | (.error reason, after) => failed reason after

variable {step first next : Step State Error} {state : State} {post middle : State → Prop}
  {failed : Error → State → Prop}

theorem Leads.mono {weaker : State → Prop} {other : Error → State → Prop}
    (leads : Leads step state post failed) (through : ∀ after, post after → weaker after)
    (stopped : ∀ reason after, failed reason after → other reason after) :
    Leads step state weaker other := by
  unfold Leads at leads ⊢
  generalize step state = outcome at leads ⊢
  rcases outcome with ⟨reason | done, after⟩
  · exact stopped reason after leads
  · exact through after leads

theorem leads_andThen
    (leads : Leads first state (fun after => Leads next after post failed) failed) :
    Leads (first.andThen next) state post failed := by
  unfold Leads at leads
  rw [Leads, andThen]
  generalize first state = outcome at leads ⊢
  rcases outcome with ⟨reason | done, after⟩
  · exact leads
  · exact leads

/-- One rule for a sequence: the first step reaches a state from which the next one leads on. -/
theorem leads_sequence (leads : Leads first state middle failed)
    (further : ∀ after, middle after → Leads next after post failed) :
    Leads (first.andThen next) state post failed :=
  leads_andThen (leads.mono further (fun _ _ stopped => stopped))

/-- What every item keeps, all of them keep. -/
theorem leads_each {step : Item → Step State Error} {invariant : List Item → State → Prop}
    (keeps : ∀ before item state, invariant before state →
      Leads (step item) state (invariant (before ++ [item])) failed)
    (items before : List Item) (holds : invariant before state) :
    Leads (each step items) state (invariant (before ++ items)) failed := by
  induction items generalizing before state with
  | nil =>
      rw [List.append_nil]
      exact holds
  | cons item rest further =>
      refine leads_sequence (keeps before item state holds) (fun after kept => ?_)
      have whole := further (before ++ [item]) kept
      rwa [List.append_assoc, List.singleton_append] at whole

end Step

end Storage
end Stars
