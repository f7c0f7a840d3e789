import Mathlib.Data.List.Basic

namespace Stars
namespace Bytes

/-!
# Fields of a buffer

A buffer holds a field at an offset when its bytes from there on begin with the
field.  A composed field is held exactly when its parts are held one after the
other, so a reader of a nested format is verified part by part.
-/

section Fields

variable {Byte : Type} {buffer field first second : List Byte} {offset : Nat}

/-- The buffer holds a field at an offset. -/
def Holds (buffer : List Byte) (offset : Nat) (field : List Byte) : Prop :=
  offset + field.length ≤ buffer.length ∧ (buffer.drop offset).take field.length = field

theorem Holds.le (held : Holds buffer offset field) : offset + field.length ≤ buffer.length :=
  held.1

theorem Holds.take_drop (held : Holds buffer offset field) :
    (buffer.drop offset).take field.length = field := held.2

/-- Fields of one length at one offset are equal. -/
theorem Holds.unique (held : Holds buffer offset first) (other : Holds buffer offset second)
    (length : first.length = second.length) : first = second := by
  rw [← held.take_drop, ← other.take_drop, length]

theorem holds_self (buffer : List Byte) : Holds buffer 0 buffer := by
  constructor
  · exact Nat.le_of_eq (Nat.zero_add _)
  · rw [List.drop_zero, List.take_length]

theorem holds_append_left {rest : List Byte} : Holds (field ++ rest) 0 field := by
  constructor
  · rw [List.length_append]
    omega
  · rw [List.drop_zero, List.take_left']
    rfl

/-- A field that is as long as the buffer is the buffer. -/
theorem Holds.eq_of_length (held : Holds buffer 0 field) (length : field.length = buffer.length) :
    field = buffer := by
  rw [← held.take_drop, List.drop_zero, length, List.take_length]

/-- What follows the buffer does not matter. -/
theorem Holds.extend (held : Holds buffer offset field) (more : List Byte) :
    Holds (buffer ++ more) offset field := by
  have inside := held.le
  constructor
  · rw [List.length_append]
    omega
  · rw [List.drop_append_of_le_length (by omega), List.take_append_of_le_length, held.take_drop]
    rw [List.length_drop]
    omega

theorem holds_nil_iff : Holds buffer offset ([] : List Byte) ↔ offset ≤ buffer.length := by
  constructor
  · exact fun held => held.le
  · exact fun inside => ⟨inside, rfl⟩

/-- The parts of a field follow one another. -/
theorem holds_append : Holds buffer offset (first ++ second) ↔
    Holds buffer offset first ∧ Holds buffer (offset + first.length) second := by
  unfold Holds
  rw [List.length_append, List.take_add, List.drop_drop]
  constructor
  · rintro ⟨inside, same⟩
    have lengths : ((buffer.drop offset).take first.length).length = first.length := by
      rw [List.length_take, List.length_drop]
      omega
    rcases List.append_inj same lengths with ⟨sameFirst, sameSecond⟩
    exact ⟨⟨by omega, sameFirst⟩, by omega, sameSecond⟩
  · rintro ⟨⟨_, sameFirst⟩, inside, sameSecond⟩
    exact ⟨by omega, by rw [sameFirst, sameSecond]⟩

theorem holds_cons {byte : Byte} : Holds buffer offset (byte :: field) ↔
    Holds buffer offset [byte] ∧ Holds buffer (offset + 1) field := by
  rw [← List.singleton_append, holds_append]
  rfl

/-- The byte at the offset of a field is its first one. -/
theorem Holds.getElem? {byte : Byte} (held : Holds buffer offset (byte :: field)) :
    buffer[offset]? = some byte := by
  have first := (holds_cons.mp held).1.take_drop
  have read : ((buffer.drop offset).take 1)[0]? = some byte := by
    rw [List.length_singleton] at first
    rw [first]
    rfl
  rwa [List.getElem?_take_of_lt Nat.one_pos, List.getElem?_drop, Nat.add_zero] at read

end Fields

end Bytes
end Stars
