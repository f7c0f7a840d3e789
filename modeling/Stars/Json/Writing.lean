import Mathlib.Data.List.Basic
import Mathlib.Tactic.SplitIfs

namespace Stars
namespace Json

/-!
# Compact JSON texts

Strings, numbers and arrays as a compact writer produces them.  A text is unambiguous
when the value and everything behind it can be told from it; unambiguous parts between
fixed texts make unambiguous records, so a writer of records loses nothing.

This stands for the compact formatter of `serde_json`, which is not part of this
repository.  As it documents, there is no white space between tokens; quotes, backslashes
and control characters are escaped, with the short escape where there is one and
four lower-case hexadecimal digits otherwise; and every other letter stands for itself.
-/

/-- Two texts of one shape with anything behind them are equal only if the values and
what follows them are. -/
def Unambiguous {Value : Type} (write : Value → List Char) : Prop :=
  ∀ first second rest other,
    write first ++ rest = write second ++ other → first = second ∧ rest = other

section Strings

/-- The escapes of a string: quotes, backslashes and control characters. -/
def escape (letter : Char) : List Char :=
  if letter = '"' then ['\\', '"']
  else if letter = '\\' then ['\\', '\\']
  else if letter = '\x08' then ['\\', 'b']
  else if letter = '\x09' then ['\\', 't']
  else if letter = '\x0a' then ['\\', 'n']
  else if letter = '\x0c' then ['\\', 'f']
  else if letter = '\x0d' then ['\\', 'r']
  else if letter.toNat < 0x20 then
    ['\\', 'u', '0', '0', Nat.digitChar (letter.toNat / 16), Nat.digitChar (letter.toNat % 16)]
  else [letter]

def writeString (text : List Char) : List Char := '"' :: (text.flatMap escape ++ ['"'])

/-- The value of a hexadecimal digit. -/
def hexValue (digit : Char) : Nat :=
  if digit.isDigit then digit.toNat - '0'.toNat else digit.toNat - 'a'.toNat + 10

/-- The letter at the beginning of an escaped text, with the rest. -/
def readLetter : List Char → Option (Char × List Char)
  | '\\' :: 'u' :: '0' :: '0' :: high :: low :: rest =>
      some (Char.ofNat (hexValue high * 16 + hexValue low), rest)
  | '\\' :: letter :: rest =>
      let read :=
        if letter = 'b' then '\x08'
        else if letter = 't' then '\x09'
        else if letter = 'n' then '\x0a'
        else if letter = 'f' then '\x0c'
        else if letter = 'r' then '\x0d'
        else letter
      some (read, rest)
  | letter :: rest => some (letter, rest)
  | [] => none

theorem hexValue_digitChar : ∀ code < 0x20,
    hexValue (Nat.digitChar (code / 16)) * 16 + hexValue (Nat.digitChar (code % 16)) = code := by
  decide

/-- An escaped letter is read back, whatever follows it. -/
theorem readLetter_escape (letter : Char) (rest : List Char) :
    readLetter (escape letter ++ rest) = some (letter, rest) := by
  unfold escape
  split_ifs with quote backslash backspace tab newline feed carriage control
  · rw [quote]
    rfl
  · rw [backslash]
    rfl
  · rw [backspace]
    rfl
  · rw [tab]
    rfl
  · rw [newline]
    rfl
  · rw [feed]
    rfl
  · rw [carriage]
    rfl
  · change some (Char.ofNat (hexValue (Nat.digitChar (letter.toNat / 16)) * 16 +
      hexValue (Nat.digitChar (letter.toNat % 16))), rest) = some (letter, rest)
    rw [hexValue_digitChar letter.toNat control, Char.ofNat_toNat]
  · rw [List.singleton_append]
    unfold readLetter
    split
    · rename_i same
      exact absurd (List.head_eq_of_cons_eq same) backslash
    · rename_i same
      exact absurd (List.head_eq_of_cons_eq same) backslash
    · rename_i same
      cases same
      rfl
    · rename_i same
      cases same

theorem unambiguous_escape : Unambiguous escape := by
  intro first second rest other same
  have read := readLetter_escape first rest
  rw [same, readLetter_escape, Option.some_inj, Prod.mk.injEq] at read
  exact ⟨read.1.symm, read.2.symm⟩

/-- An escaped letter never begins with a quote. -/
theorem head_escape (letter : Char) (rest other : List Char) :
    escape letter ++ rest ≠ '"' :: other := by
  intro same
  have read := readLetter_escape letter rest
  rw [same, readLetter] at read
  · cases read
    have quoted := List.head_eq_of_cons_eq same
    cases quoted
  all_goals simp

theorem unambiguous_writeString : Unambiguous writeString := by
  intro first second rest other same
  rw [writeString, writeString, List.cons_append, List.cons_append, List.append_assoc,
    List.append_assoc] at same
  have inner := List.tail_eq_of_cons_eq same
  induction first generalizing second with
  | nil =>
      cases second with
      | nil => exact ⟨rfl, List.tail_eq_of_cons_eq inner⟩
      | cons letter letters =>
          rw [List.flatMap_cons, List.append_assoc] at inner
          exact absurd inner.symm (head_escape _ _ _)
  | cons letter letters ih =>
      cases second with
      | nil =>
          rw [List.flatMap_cons, List.append_assoc] at inner
          exact absurd inner (head_escape _ _ _)
      | cons another others =>
          rw [List.flatMap_cons, List.flatMap_cons, List.append_assoc, List.append_assoc] at inner
          rcases unambiguous_escape _ _ _ _ inner with ⟨head, tail⟩
          have known := ih others (congrArg _ tail) tail
          exact ⟨by rw [head, known.1], known.2⟩

def writeText (text : String) : List Char := writeString text.toList

theorem unambiguous_writeText : Unambiguous writeText := by
  intro first second rest other same
  rcases unambiguous_writeString _ _ _ _ same with ⟨texts, ends⟩
  exact ⟨String.toList_inj.mp texts, ends⟩

end Strings

section Numbers

def writeNumber (number : Nat) : List Char := Nat.toDigits 10 number

/-- A text that does not continue a number. -/
def EndsNumber (rest : List Char) : Prop := ∀ letter, rest.head? = some letter → ¬ letter.isDigit

/-- A number is told from what follows it unless this begins with a digit. -/
theorem writeNumber_cancel {first second : Nat} {rest other : List Char} (ends : EndsNumber rest)
    (otherEnds : EndsNumber other)
    (same : writeNumber first ++ rest = writeNumber second ++ other) :
    first = second ∧ rest = other := by
  have digits (number : Nat) (behind : List Char) (known : EndsNumber behind) :
      (writeNumber number ++ behind).takeWhile Char.isDigit = writeNumber number := by
    have own : ∀ letter ∈ writeNumber number, letter.isDigit = true :=
      fun _ listed => Nat.isDigit_of_mem_toDigits (by decide) (by decide) listed
    rw [List.takeWhile_append_of_pos own]
    cases behind with
    | nil => exact List.append_nil _
    | cons letter behind =>
        rw [List.takeWhile_cons_of_neg (known letter rfl), List.append_nil]
  have texts : writeNumber first = writeNumber second := by
    rw [← digits first rest ends, same, digits second other otherEnds]
  have values := congrArg (fun text => Nat.ofDigitChars 10 text 0) texts
  simp only [writeNumber, Nat.ofDigitChars_ten_toDigits] at values
  rw [texts] at same
  exact ⟨values, List.append_cancel_left same⟩

theorem endsNumber_cons {letter : Char} {rest : List Char} (other : letter.isDigit = false) :
    EndsNumber (letter :: rest) := by
  intro first same
  cases same
  rw [other]
  exact Bool.false_ne_true

end Numbers

section Records

/-- A named value of a record, before the rest of the record. -/
def member (name : String) (value rest : List Char) : List Char :=
  writeString name.toList ++ ':' :: (value ++ rest)

theorem member_append (name : String) (value rest other : List Char) :
    member name value rest ++ other = member name value (rest ++ other) := by
  rw [member, member, List.append_assoc, List.cons_append, List.append_assoc]

theorem member_value {name : String} {value valueOther rest other : List Char}
    (same : member name value rest = member name valueOther other) :
    value ++ rest = valueOther ++ other :=
  List.tail_eq_of_cons_eq (List.append_cancel_left same)

theorem member_cancel {Value : Type} {write : Value → List Char} (unambiguous : Unambiguous write)
    {name : String} {first second : Value} {rest other : List Char}
    (same : member name (write first) rest = member name (write second) other) :
    first = second ∧ rest = other :=
  unambiguous _ _ _ _ (member_value same)

end Records

section Arrays

variable {Item : Type} {write : Item → List Char}

/-- Items, each behind a comma. -/
def writeFurther (write : Item → List Char) (items : List Item) : List Char :=
  items.flatMap (fun item => ',' :: write item)

def writeArray (write : Item → List Char) : List Item → List Char
  | [] => ['[', ']']
  | item :: rest => '[' :: (write item ++ (writeFurther write rest ++ [']']))

theorem writeArray_nil_append (rest : List Char) :
    writeArray write [] ++ rest = '[' :: ']' :: rest := rfl

theorem writeArray_cons_append (item : Item) (items : List Item) (rest : List Char) :
    writeArray write (item :: items) ++ rest =
      '[' :: (write item ++ (writeFurther write items ++ ']' :: rest)) := by
  rw [writeArray, List.cons_append, List.append_assoc, List.append_assoc, List.singleton_append]

theorem writeFurther_cancel (unambiguous : Unambiguous write) {first second : List Item}
    {rest other : List Char}
    (same : writeFurther write first ++ ']' :: rest = writeFurther write second ++ ']' :: other) :
    first = second ∧ rest = other := by
  induction first generalizing second with
  | nil =>
      cases second with
      | nil => exact ⟨rfl, List.tail_eq_of_cons_eq same⟩
      | cons item items => cases List.head_eq_of_cons_eq same
  | cons item items ih =>
      cases second with
      | nil => cases List.head_eq_of_cons_eq same
      | cons another others =>
          rw [writeFurther, writeFurther, List.flatMap_cons, List.flatMap_cons, List.cons_append,
            List.cons_append, List.cons_append, List.cons_append, List.append_assoc,
            List.append_assoc] at same
          rcases unambiguous _ _ _ _ (List.tail_eq_of_cons_eq same) with ⟨head, tail⟩
          rcases ih tail with ⟨items, ends⟩
          exact ⟨by rw [head, items], ends⟩

/-- An array of records is as unambiguous as its records. -/
theorem unambiguous_writeArray (unambiguous : Unambiguous write)
    (record : ∀ item, (write item).head? = some '{') : Unambiguous (writeArray write) := by
  have begins (item : Item) (rest other : List Char) : write item ++ rest ≠ ']' :: other := by
    intro same
    have heads := congrArg List.head? same
    rw [List.head?_append, record item] at heads
    cases heads
  intro first second rest other same
  cases first with
  | nil =>
      rw [writeArray_nil_append] at same
      cases second with
      | nil => exact ⟨rfl, List.tail_eq_of_cons_eq (List.tail_eq_of_cons_eq same)⟩
      | cons item items =>
          rw [writeArray_cons_append] at same
          exact absurd (List.tail_eq_of_cons_eq same).symm (begins _ _ _)
  | cons item items =>
      rw [writeArray_cons_append] at same
      cases second with
      | nil => exact absurd (List.tail_eq_of_cons_eq same) (begins _ _ _)
      | cons another others =>
          rw [writeArray_cons_append] at same
          rcases unambiguous _ _ _ _ (List.tail_eq_of_cons_eq same) with ⟨head, tail⟩
          rcases writeFurther_cancel unambiguous tail with ⟨items, ends⟩
          exact ⟨by rw [head, items], ends⟩

end Arrays

end Json
end Stars
