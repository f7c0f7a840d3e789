import Mathlib.Data.List.Basic

namespace Stars
namespace Bytes

/-!
# Checked reads

A program that reads a buffer at computed offsets is stopped by a sum that does
not fit the machine word and by a place outside the buffer.  `Checked` computes
with these faults in the open.  A checked computation agrees with a plain one when
it is never stopped and gives the same value or the same error; `Agrees.bind`
carries this through a whole program.
-/

/-- What stops a program. -/
inductive Fault where
  | overflow
  | outOfRange

/-- A computation that ends with a value or with an error of its own, or is
stopped. -/
abbrev Checked (Reason Value : Type) := ExceptT Reason (Except Fault) Value

section Checked

variable {Reason Other Value Next Byte : Type}

def stopped (fault : Fault) : Checked Reason Value := ExceptT.mk (.error fault)

/-- A plain result. -/
def settled (result : Except Reason Value) : Checked Reason Value := ExceptT.mk (.ok result)

/-- The sum of two offsets, below the size of a word. -/
def addOffset (bound left right : Nat) : Checked Reason Nat :=
  if left + right < bound then pure (left + right) else stopped .overflow

/-- The product of two offsets, below the size of a word. -/
def mulOffset (bound left right : Nat) : Checked Reason Nat :=
  if left * right < bound then pure (left * right) else stopped .overflow

/-- The byte at a place of the buffer. -/
def index (buffer : List Byte) (place : Nat) : Checked Reason Byte :=
  match buffer[place]? with
  | some byte => pure byte
  | none => stopped .outOfRange

/-- The bytes from a start to an end. -/
def range (buffer : List Byte) (start stop : Nat) : Checked Reason (List Byte) :=
  if start ≤ stop ∧ stop ≤ buffer.length then pure ((buffer.drop start).take (stop - start))
  else stopped .outOfRange

/-- A checked computation is not stopped and does what a plain one does. -/
def Agrees (checked : Checked Reason Value) (plain : Except Reason Value) : Prop :=
  checked.run = .ok plain

theorem agrees_settled (result : Except Reason Value) : Agrees (settled result) result := rfl

theorem agrees_pure (value : Value) : Agrees (pure value : Checked Reason Value) (.ok value) := rfl

theorem agrees_throw (reason : Reason) :
    Agrees (throw reason : Checked Reason Value) (.error reason) := rfl

theorem Agrees.bind {checked : Checked Reason Value} {plain : Except Reason Value}
    {next : Value → Checked Reason Next} {plainNext : Value → Except Reason Next}
    (first : Agrees checked plain)
    (later : ∀ value, plain = .ok value → Agrees (next value) (plainNext value)) :
    Agrees (checked >>= next) (plain >>= plainNext) := by
  unfold Agrees at first
  unfold Agrees
  rw [ExceptT.run_bind, first]
  cases plain with
  | error reason => rfl
  | ok value => exact later value rfl

/-- A step with a known value is passed over. -/
theorem Agrees.pass {checked : Checked Reason Value} {value : Value}
    {next : Value → Checked Reason Next} {plain : Except Reason Next}
    (first : Agrees checked (.ok value)) (later : Agrees (next value) plain) :
    Agrees (checked >>= next) plain := by
  unfold Agrees at first
  unfold Agrees
  rw [ExceptT.run_bind, first]
  exact later

/-- An error ends the computation. -/
theorem Agrees.fail {checked : Checked Reason Value} {reason : Reason}
    (first : Agrees checked (.error reason)) (next : Value → Checked Reason Next) :
    Agrees (checked >>= next) (.error reason) := by
  unfold Agrees at first
  unfold Agrees
  rw [ExceptT.run_bind, first]
  rfl

theorem Agrees.adapt {checked : Checked Reason Value} {plain : Except Reason Value}
    (agrees : Agrees checked plain) (change : Reason → Other) :
    Agrees (ExceptT.adapt change checked) (plain.mapError change) := by
  unfold Agrees ExceptT.run at agrees
  unfold Agrees
  rw [agrees]
  rfl

theorem Agrees.ite {condition : Prop} [Decidable condition] {checked other : Checked Reason Value}
    {plain otherPlain : Except Reason Value} (positive : condition → Agrees checked plain)
    (negative : ¬ condition → Agrees other otherPlain) :
    Agrees (if condition then checked else other) (if condition then plain else otherPlain) := by
  by_cases decided : condition
  · rw [if_pos decided, if_pos decided]
    exact positive decided
  · rw [if_neg decided, if_neg decided]
    exact negative decided

theorem agrees_addOffset {bound left right : Nat} (fits : left + right < bound) :
    Agrees (addOffset bound left right : Checked Reason Nat) (.ok (left + right)) := by
  unfold addOffset
  rw [if_pos fits]
  exact agrees_pure _

theorem agrees_mulOffset {bound left right : Nat} (fits : left * right < bound) :
    Agrees (mulOffset bound left right : Checked Reason Nat) (.ok (left * right)) := by
  unfold mulOffset
  rw [if_pos fits]
  exact agrees_pure _

theorem agrees_index {buffer : List Byte} {place : Nat} {byte : Byte}
    (known : buffer[place]? = some byte) :
    Agrees (index buffer place : Checked Reason Byte) (.ok byte) := by
  unfold index
  rw [known]
  exact agrees_pure _

theorem agrees_range {buffer : List Byte} {start stop : Nat} (ordered : start ≤ stop)
    (inside : stop ≤ buffer.length) :
    Agrees (range buffer start stop : Checked Reason (List Byte))
      (.ok ((buffer.drop start).take (stop - start))) := by
  unfold range
  rw [if_pos ⟨ordered, inside⟩]
  exact agrees_pure _

/-- A checked computation is not stopped, and its outcome has a property. -/
def Ends (checked : Checked Reason Value) (outcome : Except Reason Value → Prop) : Prop :=
  ∃ plain, Agrees checked plain ∧ outcome plain

theorem Agrees.ends {checked : Checked Reason Value} {plain : Except Reason Value}
    {outcome : Except Reason Value → Prop} (agrees : Agrees checked plain)
    (known : outcome plain) : Ends checked outcome := ⟨plain, agrees, known⟩

theorem Ends.bind {checked : Checked Reason Value} {next : Value → Checked Reason Next}
    {middle : Except Reason Value → Prop} {outcome : Except Reason Next → Prop}
    (first : Ends checked middle)
    (failed : ∀ reason, middle (.error reason) → outcome (.error reason))
    (later : ∀ value, middle (.ok value) → Ends (next value) outcome) :
    Ends (checked >>= next) outcome := by
  rcases first with ⟨plain, agrees, known⟩
  cases plain with
  | error reason => exact (agrees.fail next).ends (failed reason known)
  | ok value =>
      rcases later value known with ⟨finished, agreesLater, knownLater⟩
      exact (agrees.pass agreesLater).ends knownLater

/-- A computation that is not stopped, whatever its outcome. -/
def Runs (checked : Checked Reason Value) : Prop := Ends checked (fun _ => True)

theorem Agrees.runs {checked : Checked Reason Value} {plain : Except Reason Value}
    (agrees : Agrees checked plain) : Runs checked := agrees.ends trivial

theorem Ends.runs {checked : Checked Reason Value} {next : Value → Checked Reason Next}
    {middle : Except Reason Value → Prop} (first : Ends checked middle)
    (later : ∀ value, middle (.ok value) → Runs (next value)) : Runs (checked >>= next) :=
  first.bind (fun _ _ => trivial) later

theorem Ends.ite {condition : Prop} [Decidable condition] {checked other : Checked Reason Value}
    {outcome : Except Reason Value → Prop} (positive : condition → Ends checked outcome)
    (negative : ¬ condition → Ends other outcome) :
    Ends (if condition then checked else other) outcome := by
  by_cases decided : condition
  · rw [if_pos decided]
    exact positive decided
  · rw [if_neg decided]
    exact negative decided

end Checked

end Bytes
end Stars
