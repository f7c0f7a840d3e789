import Stars.Collections.KeyedList

namespace Stars
namespace Collections

/-!
# A memo that remembers misses

Every key is asked for once.  A key without an answer is remembered as well, so
that it is not asked for again.  The answerer may change from one round of
questions to the next; only the answer of the first round that names a key is
ever read.
-/

/-- The answers so far, and every key that was asked for. -/
structure AskOnce (Key Value : Type) where
  known : List (Key × Value) := []
  tried : List Key := []

namespace AskOnce

variable {Key Value : Type} [DecidableEq Key]

/-- What one round asks: the answerer and the keys in order. -/
structure Round (Key Value : Type) where
  answer : Key → Option Value
  keys : List Key

/-- A key that was tried keeps what is known of it. -/
def ask (answer : Key → Option Value) (memo : AskOnce Key Value) (key : Key) :
    AskOnce Key Value :=
  if key ∈ memo.tried then memo
  else
    { known := match answer key with
        | some value => (key, value) :: memo.known
        | none => memo.known
      tried := key :: memo.tried }

def askAll (memo : AskOnce Key Value) (round : Round Key Value) : AskOnce Key Value :=
  round.keys.foldl (ask round.answer) memo

/-- The rounds of a run, one after the other. -/
def run (memo : AskOnce Key Value) (rounds : List (Round Key Value)) : AskOnce Key Value :=
  rounds.foldl askAll memo

/-- What is known was tried. -/
def WellFormed (memo : AskOnce Key Value) : Prop :=
  ∀ key ∈ memo.known.map Prod.fst, key ∈ memo.tried

variable {memo : AskOnce Key Value} {answer : Key → Option Value} {round : Round Key Value}
  {rounds : List (Round Key Value)} {key asked : Key}

omit [DecidableEq Key] in
theorem wellFormed_empty : WellFormed ({} : AskOnce Key Value) := by
  intro key member
  cases member

theorem wellFormed_ask (formed : memo.WellFormed) : (memo.ask answer asked).WellFormed := by
  unfold ask
  by_cases tried : asked ∈ memo.tried
  · rw [if_pos tried]
    exact formed
  · rw [if_neg tried]
    intro key member
    cases found : answer asked with
    | none =>
        simp only [found] at member
        exact List.mem_cons_of_mem _ (formed key member)
    | some value =>
        simp only [found, List.map_cons] at member
        rcases List.mem_cons.mp member with same | earlier
        · exact same ▸ List.mem_cons_self
        · exact List.mem_cons_of_mem _ (formed key earlier)

theorem wellFormed_askAll (formed : memo.WellFormed) : (memo.askAll round).WellFormed := by
  unfold askAll
  induction round.keys generalizing memo with
  | nil => exact formed
  | cons asked rest further => exact further (wellFormed_ask formed)

theorem mem_tried_ask : key ∈ (memo.ask answer asked).tried ↔ key ∈ memo.tried ∨ key = asked := by
  unfold ask
  by_cases tried : asked ∈ memo.tried
  · rw [if_pos tried]
    constructor
    · exact Or.inl
    · intro either
      rcases either with known | same
      · exact known
      · exact same ▸ tried
  · rw [if_neg tried, List.mem_cons, or_comm]

theorem mem_tried_askAll :
    key ∈ (memo.askAll round).tried ↔ key ∈ memo.tried ∨ key ∈ round.keys := by
  unfold askAll
  induction round.keys generalizing memo with
  | nil => simp
  | cons asked rest further =>
      rw [List.foldl_cons, further, mem_tried_ask, List.mem_cons, or_assoc]

theorem lookup_of_untried (formed : memo.WellFormed)
    (untried : key ∉ memo.tried) : memo.known.lookup key = none := by
  rw [← Option.not_isSome_iff_eq_none, lookup_isSome_iff_mem]
  intro member
  exact untried (formed key member)

/-- One question, whatever was asked before. -/
theorem lookup_ask (formed : memo.WellFormed) :
    (memo.ask answer asked).known.lookup key =
      if key ∉ memo.tried ∧ key = asked then answer key else memo.known.lookup key := by
  unfold ask
  by_cases tried : asked ∈ memo.tried
  · rw [if_pos tried, if_neg (fun fresh => fresh.1 (fresh.2 ▸ tried))]
  · rw [if_neg tried]
    by_cases here : key = asked
    · cases here
      rw [if_pos ⟨tried, rfl⟩]
      cases found : answer key with
      | none =>
          change memo.known.lookup key = none
          exact lookup_of_untried formed tried
      | some value =>
          change ((key, value) :: memo.known).lookup key = some value
          rw [List.lookup_cons_self]
    · rw [if_neg (fun fresh => here fresh.2)]
      cases found : answer asked with
      | none => rfl
      | some value =>
          change ((asked, value) :: memo.known).lookup key = memo.known.lookup key
          rw [List.lookup_cons, beq_false_of_ne here]

/-- A round answers the keys it names that were not tried before. -/
theorem lookup_askAll (formed : memo.WellFormed) :
    (memo.askAll round).known.lookup key =
      if key ∉ memo.tried ∧ key ∈ round.keys then round.answer key
      else memo.known.lookup key := by
  unfold askAll
  induction round.keys generalizing memo with
  | nil => simp
  | cons asked rest further =>
      rw [List.foldl_cons, further (wellFormed_ask formed), lookup_ask formed]
      simp only [mem_tried_ask, List.mem_cons]
      by_cases tried : key ∈ memo.tried
      · rw [if_neg (fun fresh => fresh.1 (Or.inl tried)), if_neg (fun fresh => fresh.1 tried),
          if_neg (fun fresh => fresh.1 tried)]
      · by_cases here : key = asked
        · rw [if_neg (fun fresh => fresh.1 (Or.inr here)), if_pos ⟨tried, here⟩,
            if_pos ⟨tried, Or.inl here⟩]
        · simp only [tried, here, or_false, false_or, not_false_iff, true_and, if_false]

/-- Over a whole run the first round that names a key answers it. -/
theorem lookup_run (formed : memo.WellFormed) :
    (memo.run rounds).known.lookup key =
      if key ∈ memo.tried then memo.known.lookup key
      else (rounds.find? (fun round => round.keys.contains key)).bind
        (fun round => round.answer key) := by
  induction rounds generalizing memo with
  | nil =>
      change memo.known.lookup key = _
      by_cases tried : key ∈ memo.tried
      · rw [if_pos tried]
      · rw [if_neg tried]
        exact lookup_of_untried formed tried
  | cons round rest further =>
      change ((memo.askAll round).run rest).known.lookup key = _
      rw [further (wellFormed_askAll formed), lookup_askAll formed]
      by_cases tried : key ∈ memo.tried
      · rw [if_pos (mem_tried_askAll.mpr (Or.inl tried)), if_neg (fun fresh => fresh.1 tried),
          if_pos tried]
      · rw [if_neg tried]
        by_cases named : key ∈ round.keys
        · rw [if_pos (mem_tried_askAll.mpr (Or.inr named)), if_pos ⟨tried, named⟩,
            List.find?_cons_of_pos (by simpa using named)]
          rfl
        · have untried : key ∉ (memo.askAll round).tried := by
            intro member
            exact (mem_tried_askAll.mp member).elim tried named
          rw [if_neg untried, List.find?_cons_of_neg (by simpa using named)]

end AskOnce

end Collections
end Stars
