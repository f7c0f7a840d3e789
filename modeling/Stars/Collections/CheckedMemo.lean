import Stars.Collections.KeyedList

namespace Stars
namespace Collections

/-!
# A memo under a lossy key

Results kept under a key that several values may share, such as a hash.  The
value is kept with its result, and the result is reused only for that value.
When another value asks under the same key its result is computed afresh, and
the entry that holds the place stays.

Nothing is assumed of the key.  That every kept result is the result of its own
value is all a memo has to guarantee, and asking preserves it.
-/

/-- A result with the value it was computed for. -/
structure Kept (Value Result : Type) where
  value : Value
  result : Result

/-- What is kept under each key. -/
abbrev CheckedMemo (Key Value Result : Type) := List (Key × Kept Value Result)

namespace CheckedMemo

variable {Key Value Result : Type} [DecidableEq Key] [DecidableEq Value]

/-- The kept result, when it was computed for this very value. -/
def recalled (memo : CheckedMemo Key Value Result) (key : Key) (value : Value) : Option Result :=
  match memo.lookup key with
  | some kept => if kept.value = value then some kept.result else none
  | none => none

/-- Keep an entry under a free key; a taken key keeps its entry. -/
def orInsert (memo : CheckedMemo Key Value Result) (key : Key) (kept : Kept Value Result) :
    CheckedMemo Key Value Result :=
  match memo.lookup key with
  | some _ => memo
  | none => (key, kept) :: memo

/-- The kept result of a value, or the fresh one, which is then kept. -/
def ask (memo : CheckedMemo Key Value Result) (key : Key) (value : Value) (fresh : Result) :
    Result × CheckedMemo Key Value Result :=
  match memo.recalled key value with
  | some result => (result, memo)
  | none => (fresh, memo.orInsert key ⟨value, fresh⟩)

/-- Every kept result is the result of its own value. -/
def Faithful (compute : Value → Result) (memo : CheckedMemo Key Value Result) : Prop :=
  ∀ entry ∈ memo, entry.2.result = compute entry.2.value

variable {compute : Value → Result} {memo : CheckedMemo Key Value Result}

omit [DecidableEq Key] [DecidableEq Value] in
theorem faithful_nil : Faithful compute ([] : CheckedMemo Key Value Result) := by
  intro entry member
  cases member

theorem recall_eq_some (faithful : memo.Faithful compute) {key : Key} {value : Value}
    {result : Result} (found : memo.recalled key value = some result) : result = compute value := by
  unfold recalled at found
  cases stored : memo.lookup key with
  | none =>
      rw [stored] at found
      cases found
  | some kept =>
      have kept_result := faithful (key, kept) (mem_of_lookup stored)
      simp only [stored] at found
      split at found
      · rename_i same
        rw [← Option.some.inj found, kept_result, same]
      · cases found

omit [DecidableEq Value] in
theorem faithful_orInsert (faithful : memo.Faithful compute) (key : Key) (value : Value) :
    (memo.orInsert key ⟨value, compute value⟩).Faithful compute := by
  unfold orInsert
  cases memo.lookup key with
  | some kept => exact faithful
  | none =>
      intro entry member
      cases member with
      | head => rfl
      | tail _ earlier => exact faithful entry earlier

/-- Asking gives the fresh result, whatever is kept under the key. -/
theorem ask_result (faithful : memo.Faithful compute) (key : Key) (value : Value) :
    (memo.ask key value (compute value)).1 = compute value := by
  unfold ask
  cases found : memo.recalled key value with
  | none => rfl
  | some result => exact recall_eq_some faithful found

theorem faithful_ask (faithful : memo.Faithful compute) (key : Key) (value : Value) :
    (memo.ask key value (compute value)).2.Faithful compute := by
  unfold ask
  cases memo.recalled key value with
  | none => exact faithful_orInsert faithful key value
  | some result => exact faithful

end CheckedMemo

end Collections
end Stars
