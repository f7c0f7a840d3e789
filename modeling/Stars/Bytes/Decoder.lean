import Stars.Bytes.Checked
import Stars.Bytes.Fields

namespace Stars
namespace Bytes

/-!
# Sequential decoders

A decoder reads a buffer from a place on and returns a value with the place behind
it.  It decodes a grammar when it is never stopped and succeeds exactly on the
fields of the grammar, with their value.  Decoders of parts compose to decoders of
the concatenated parts, and a grammar that is decoded has at most one field at any
place.
-/

/-- A buffer and the place up to which it has been read. -/
structure Cursor (Byte : Type) where
  data : List Byte
  pos : Nat

def Cursor.advance {Byte : Type} (cursor : Cursor Byte) (length : Nat) : Cursor Byte :=
  { cursor with pos := cursor.pos + length }

section Decoder

variable {Reason Byte Value Next : Type}

@[simp] theorem Cursor.data_advance (cursor : Cursor Byte) (length : Nat) :
    (cursor.advance length).data = cursor.data := rfl

@[simp] theorem Cursor.pos_advance (cursor : Cursor Byte) (length : Nat) :
    (cursor.advance length).pos = cursor.pos + length := rfl

theorem Cursor.advance_advance (cursor : Cursor Byte) (first second : Nat) :
    (cursor.advance first).advance second = cursor.advance (first + second) := by
  rw [advance, advance, advance, Nat.add_assoc]

/-- The fields of values. -/
abbrev Grammar (Byte Value : Type) := List Byte → Value → Prop

/-- The buffer holds a field at the place of the cursor. -/
def Cursor.Has (cursor : Cursor Byte) (field : List Byte) : Prop :=
  Holds cursor.data cursor.pos field

theorem Cursor.has_append {cursor : Cursor Byte} {first second : List Byte} :
    cursor.Has (first ++ second) ↔ cursor.Has first ∧ (cursor.advance first.length).Has second :=
  holds_append

/-- A run at a cursor is not stopped, and its values are those of the fields that
stand there. -/
def Decodes (run : Checked Reason (Value × Cursor Byte)) (cursor : Cursor Byte)
    (grammar : Grammar Byte Value) : Prop :=
  ∃ result, Agrees run result ∧ ∀ value next, result = .ok (value, next) ↔
    ∃ field, grammar field value ∧ cursor.Has field ∧ next = cursor.advance field.length

variable {cursor : Cursor Byte} {grammar : Grammar Byte Value} {whole : Grammar Byte Next}

theorem Decodes.congr {run : Checked Reason (Value × Cursor Byte)} {other : Grammar Byte Value}
    (decodes : Decodes run cursor grammar)
    (same : ∀ field value, grammar field value ↔ other field value) :
    Decodes run cursor other := by
  rcases decodes with ⟨result, agrees, iff⟩
  refine ⟨result, agrees, ?_⟩
  intro value next
  rw [iff]
  simp only [same]

/-- A value without a field of its own. -/
theorem decodes_pure (value : Value) (inside : cursor.pos ≤ cursor.data.length) :
    Decodes (pure (value, cursor) : Checked Reason (Value × Cursor Byte)) cursor
      (fun field other => field = [] ∧ other = value) := by
  refine ⟨_, agrees_pure _, ?_⟩
  intro other next
  constructor
  · intro same
    cases same
    exact ⟨[], ⟨rfl, rfl⟩, holds_nil_iff.mpr inside, rfl⟩
  · rintro ⟨field, ⟨rfl, rfl⟩, _, rfl⟩
    rfl

/-- An error, where the grammar has no field. -/
theorem decodes_throw (reason : Reason) (nothing : ∀ field value, ¬ grammar field value) :
    Decodes (throw reason : Checked Reason (Value × Cursor Byte)) cursor grammar := by
  refine ⟨_, agrees_throw reason, ?_⟩
  intro value next
  constructor
  · intro impossible
    cases impossible
  · rintro ⟨field, parsed, _⟩
    exact absurd parsed (nothing field value)

/-- Parts are decoded one after the other. -/
theorem Decodes.bind {run : Checked Reason (Value × Cursor Byte)}
    {next : Value × Cursor Byte → Checked Reason (Next × Cursor Byte)}
    (later : List Byte → Value → Grammar Byte Next) (first : Decodes run cursor grammar)
    (rest : ∀ field value, grammar field value → cursor.Has field →
      Decodes (next (value, cursor.advance field.length)) (cursor.advance field.length)
        (later field value))
    (parts : ∀ field value, whole field value ↔ ∃ before head after, grammar before head ∧
      later before head after value ∧ field = before ++ after) :
    Decodes (run >>= next) cursor whole := by
  rcases first with ⟨result, agrees, iff⟩
  cases result with
  | error reason =>
      refine ⟨.error reason, agrees.fail next, ?_⟩
      intro value place
      constructor
      · intro impossible
        cases impossible
      · rintro ⟨field, parsed, has, _⟩
        rcases (parts field value).mp parsed with ⟨before, head, after, known, _, rfl⟩
        have impossible := (iff head _).mpr ⟨before, known, (Cursor.has_append.mp has).1, rfl⟩
        cases impossible
  | ok pair =>
      rcases pair with ⟨head, middle⟩
      rcases (iff head middle).mp rfl with ⟨before, known, has, rfl⟩
      rcases rest before head known has with ⟨finished, agreesLater, iffLater⟩
      refine ⟨finished, agrees.pass agreesLater, ?_⟩
      intro value place
      rw [iffLater]
      constructor
      · rintro ⟨after, parsed, hasAfter, rfl⟩
        refine ⟨before ++ after, (parts _ _).mpr ⟨before, head, after, known, parsed, rfl⟩,
          Cursor.has_append.mpr ⟨has, hasAfter⟩, ?_⟩
        rw [Cursor.advance_advance, List.length_append]
      · rintro ⟨field, parsed, hasField, rfl⟩
        rcases (parts field value).mp parsed with
          ⟨start, other, after, knownStart, parsedAfter, rfl⟩
        rcases Cursor.has_append.mp hasField with ⟨hasStart, hasAfter⟩
        have same := (iff other _).mpr ⟨start, knownStart, hasStart, rfl⟩
        rcases Prod.mk.inj (Except.ok.inj same) with ⟨rfl, places⟩
        have lengths := congrArg Cursor.pos places
        rw [Cursor.pos_advance, Cursor.pos_advance, Nat.add_left_cancel_iff] at lengths
        rw [← Holds.unique has hasStart lengths] at hasAfter parsedAfter ⊢
        refine ⟨after, parsedAfter, hasAfter, ?_⟩
        rw [Cursor.advance_advance, List.length_append]

/-- A step without a field is passed over. -/
theorem Decodes.pass {step : Checked Reason Value} {value : Value}
    {next : Value → Checked Reason (Next × Cursor Byte)} (first : Agrees step (.ok value))
    (later : Decodes (next value) cursor whole) : Decodes (step >>= next) cursor whole := by
  rcases later with ⟨result, agrees, iff⟩
  exact ⟨result, first.pass agrees, iff⟩

/-- The value of a field is checked or changed. -/
theorem Decodes.settle {run : Checked Reason (Value × Cursor Byte)}
    {next : Value × Cursor Byte → Checked Reason (Next × Cursor Byte)}
    (outcome : List Byte → Value → Except Reason Next) (first : Decodes run cursor grammar)
    (last : ∀ field value, grammar field value → cursor.Has field →
      Agrees (next (value, cursor.advance field.length))
        ((outcome field value).map (fun settled => (settled, cursor.advance field.length))))
    (same : ∀ field value, whole field value ↔
      ∃ head, grammar field head ∧ outcome field head = .ok value) :
    Decodes (run >>= next) cursor whole := by
  apply first.bind (fun field head after value => after = [] ∧ outcome field head = .ok value)
  · intro field head known has
    refine ⟨_, last field head known has, ?_⟩
    intro value place
    cases settled : outcome field head with
    | error reason =>
        constructor
        · intro impossible
          cases impossible
        · rintro ⟨_, ⟨_, impossible⟩, _⟩
          cases impossible
    | ok finished =>
        constructor
        · intro returned
          cases returned
          exact ⟨[], ⟨rfl, rfl⟩, holds_nil_iff.mpr has.le, rfl⟩
        · rintro ⟨_, ⟨rfl, finish⟩, _, rfl⟩
          cases finish
          rfl
  · intro field value
    rw [same]
    constructor
    · rintro ⟨head, known, settled⟩
      exact ⟨field, head, [], known, ⟨rfl, settled⟩, (List.append_nil field).symm⟩
    · rintro ⟨before, head, after, known, ⟨rfl, settled⟩, rfl⟩
      rw [List.append_nil]
      exact ⟨head, known, settled⟩

/-- A grammar that is decoded has one field and one value at a place. -/
theorem Decodes.unique {run : Checked Reason (Value × Cursor Byte)} {field other : List Byte}
    {value otherValue : Value} (decodes : Decodes run cursor grammar)
    (parsed : grammar field value) (has : cursor.Has field) (otherParsed : grammar other otherValue)
    (otherHas : cursor.Has other) : field = other ∧ value = otherValue := by
  rcases decodes with ⟨result, _, iff⟩
  have known := (iff value _).mpr ⟨field, parsed, has, rfl⟩
  have again := (iff otherValue _).mpr ⟨other, otherParsed, otherHas, rfl⟩
  rcases Prod.mk.inj (Except.ok.inj (known.symm.trans again)) with ⟨sameValue, places⟩
  have lengths := congrArg Cursor.pos places
  rw [Cursor.pos_advance, Cursor.pos_advance, Nat.add_left_cancel_iff] at lengths
  exact ⟨Holds.unique has otherHas lengths, sameValue⟩

end Decoder

end Bytes
end Stars
