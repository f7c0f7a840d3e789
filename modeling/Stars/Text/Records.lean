import Mathlib.Data.List.Basic

namespace Stars
namespace Text

/-!
# Comma-separated records

Records of fields as RFC 4180 describes them: fields between commas, records between
line breaks, and quotes around a field that holds a comma, a quote or a line break,
with the quotes inside it doubled.  The reader takes a line feed with or without a
carriage return before it for a line break, and every other letter for text.
Records with at least one field are read back as they were written.
-/

/-- The letters that force quotes around a field. -/
def needsQuotes (field : List Char) : Bool :=
  field.any (fun letter => letter ∈ [',', '"', '\n', '\r'])

/-- Each quote twice. -/
def doubleQuotes (field : List Char) : List Char :=
  field.flatMap (fun letter => if letter = '"' then ['"', '"'] else [letter])

def writeField (field : List Char) : List Char :=
  if needsQuotes field then '"' :: (doubleQuotes field ++ ['"']) else field

/-- The fields between commas, and a line break. -/
def writeRecord : List (List Char) → List Char
  | [] => ['\n']
  | [field] => writeField field ++ ['\n']
  | field :: rest => writeField field ++ ',' :: writeRecord rest

/-- Where the reader is: before a field, in a field without quotes, between
quotes, behind a quote in a quoted field, or behind a carriage return. -/
inductive ReadMode where
  | start
  | plain
  | quoted
  | closing
  | carriage
deriving DecidableEq

/-- The records and fields that are complete, and the field being read. -/
structure RecordReader where
  records : List (List (List Char)) := []
  record : List (List Char) := []
  field : List Char := []
  mode : ReadMode := .start

namespace RecordReader

def endField (reader : RecordReader) : RecordReader :=
  { reader with record := reader.record ++ [reader.field], field := [], mode := .start }

def endRecord (reader : RecordReader) : RecordReader where
  records := reader.records ++ [reader.record ++ [reader.field]]

/-- A letter behind a complete field. -/
def behindField (reader : RecordReader) (letter : Char) : Option RecordReader :=
  if letter = ',' then some reader.endField
  else if letter = '\n' then some reader.endRecord
  else if letter = '\r' then some { reader with mode := .carriage }
  else none

def step (reader : RecordReader) (letter : Char) : Option RecordReader :=
  match reader.mode with
  | .start =>
      if letter = '"' then some { reader with mode := .quoted }
      else (reader.behindField letter).or
        (some { reader with field := reader.field ++ [letter], mode := .plain })
  | .plain =>
      if letter = '"' then none
      else (reader.behindField letter).or (some { reader with field := reader.field ++ [letter] })
  | .quoted =>
      if letter = '"' then some { reader with mode := .closing }
      else some { reader with field := reader.field ++ [letter] }
  | .closing =>
      if letter = '"' then some { reader with field := reader.field ++ ['"'], mode := .quoted }
      else reader.behindField letter
  | .carriage => if letter = '\n' then some reader.endRecord else none

/-- The line break at the end of the last record may be missing. -/
def finish (reader : RecordReader) : Option (List (List (List Char))) :=
  match reader.mode with
  | .start => some (if reader.record.isEmpty then reader.records else reader.endRecord.records)
  | .plain => some reader.endRecord.records
  | .closing => some reader.endRecord.records
  | .quoted => none
  | .carriage => none

/-- The reader behind a text. -/
def run (reader : RecordReader) (text : List Char) : Option RecordReader := text.foldlM step reader

theorem run_append (reader : RecordReader) (first second : List Char) :
    reader.run (first ++ second) = (reader.run first).bind (fun behind => behind.run second) :=
  List.foldlM_append

theorem run_cons (reader : RecordReader) (letter : Char) (rest : List Char) :
    reader.run (letter :: rest) = (reader.step letter).bind (fun behind => behind.run rest) :=
  List.foldlM_cons

end RecordReader

def readRecords (text : List Char) : Option (List (List (List Char))) :=
  (({} : RecordReader).run text).bind RecordReader.finish

/-! ## What is written is read back -/

namespace RecordReader

variable {records : List (List (List Char))} {record : List (List Char)}

theorem behindField_of_plain (reader : RecordReader) {letter : Char}
    (plain : letter ∉ [',', '"', '\n', '\r']) : reader.behindField letter = none := by
  simp only [List.mem_cons, List.not_mem_nil, or_false, not_or] at plain
  rw [behindField, if_neg plain.1, if_neg plain.2.2.1, if_neg plain.2.2.2]

/-- Text without special letters is taken as it is. -/
theorem run_plain {field text : List Char} (plain : ∀ letter ∈ text, letter ∉ [',', '"', '\n', '\r']) :
    run ⟨records, record, field, .plain⟩ text =
      some ⟨records, record, field ++ text, .plain⟩ := by
  induction text generalizing field with
  | nil => rw [List.append_nil]; rfl
  | cons letter rest ih =>
      rcases List.forall_mem_cons.mp plain with ⟨here, later⟩
      have unquoted : letter ≠ '"' := by
        rintro rfl
        exact here (by decide)
      rw [run_cons]
      simp only [step, if_neg unquoted, behindField_of_plain _ here, Option.none_or,
        Option.bind_some]
      rw [ih later, List.append_assoc]
      rfl

/-- Between quotes every letter is taken, a doubled quote as one. -/
theorem run_doubleQuotes {field : List Char} (text : List Char) :
    run ⟨records, record, field, .quoted⟩ (doubleQuotes text) =
      some ⟨records, record, field ++ text, .quoted⟩ := by
  induction text generalizing field with
  | nil => rw [List.append_nil]; rfl
  | cons letter rest ih =>
      rw [doubleQuotes, List.flatMap_cons, run_append]
      have taken : run ⟨records, record, field, .quoted⟩
          (if letter = '"' then ['"', '"'] else [letter]) =
            some ⟨records, record, field ++ [letter], .quoted⟩ := by
        split
        · rename_i quote
          rw [quote]
          rfl
        · rename_i other
          rw [run_cons]
          simp only [step, if_neg other, Option.bind_some]
          rfl
      rw [taken, Option.bind_some, ← doubleQuotes, ih, List.append_assoc]
      rfl

/-- A letter behind a written field is seen behind the field itself. -/
theorem run_writeField (field : List Char) {letter : Char} (ends : letter = ',' ∨ letter = '\n')
    (rest : List Char) :
    run ⟨records, record, [], .start⟩ (writeField field ++ letter :: rest) =
      (behindField ⟨records, record, field, .start⟩ letter).bind (fun behind => behind.run rest) := by
  have unquoted : letter ≠ '"' := by
    rintro rfl
    revert ends
    decide
  have same (mode : ReadMode) : behindField ⟨records, record, field, mode⟩ letter =
      behindField ⟨records, record, field, .start⟩ letter := by
    rcases ends with rfl | rfl
    · rfl
    · rfl
  have something : (behindField ⟨records, record, field, .start⟩ letter).isSome = true := by
    rcases ends with rfl | rfl
    · rfl
    · rfl
  unfold writeField
  cases quoted : needsQuotes field with
  | true =>
      rw [if_pos rfl, List.cons_append, run_cons]
      change run ⟨records, record, [], .quoted⟩ _ = _
      rw [List.append_assoc, run_append, run_doubleQuotes, Option.bind_some, List.singleton_append,
        run_cons]
      change run ⟨records, record, [] ++ field, .closing⟩ (letter :: rest) = _
      rw [List.nil_append, run_cons]
      simp only [step, if_neg unquoted, same]
  | false =>
      rw [if_neg (by decide)]
      have plain : ∀ other ∈ field, other ∉ [',', '"', '\n', '\r'] := by
        intro other listed special
        have free := List.any_eq_false.mp quoted other listed
        exact free (decide_eq_true special)
      cases field with
      | nil =>
          rw [List.nil_append, run_cons]
          simp only [step, if_neg unquoted, Option.or_of_isSome something]
      | cons first others =>
          rcases List.forall_mem_cons.mp plain with ⟨here, later⟩
          have firstUnquoted : first ≠ '"' := by
            rintro rfl
            exact here (by decide)
          rw [List.cons_append, run_cons]
          simp only [step, if_neg firstUnquoted, behindField_of_plain _ here, Option.none_or,
            Option.bind_some]
          rw [List.nil_append, run_append, run_plain later, Option.bind_some, run_cons]
          simp only [step, if_neg unquoted]
          rw [Option.or_of_isSome]
          · rfl
          · exact something

theorem run_writeRecord (field : List Char) (fields : List (List Char)) (rest : List Char) :
    run ⟨records, record, [], .start⟩ (writeRecord (field :: fields) ++ rest) =
      run ⟨records ++ [record ++ field :: fields], [], [], .start⟩ rest := by
  induction fields generalizing field record with
  | nil =>
      rw [writeRecord, List.append_assoc, List.singleton_append, run_writeField field (.inr rfl)]
      rfl
  | cons next others ih =>
      rw [writeRecord, List.append_assoc, List.cons_append, run_writeField field (.inl rfl)]
      · change run ⟨records, record ++ [field], [], .start⟩ _ = _
        rw [ih, List.append_assoc]
        rfl
      · exact List.cons_ne_nil _ _

end RecordReader

/-- Records with at least one field are read back. -/
theorem readRecords_writeRecord (records : List (List (List Char)))
    (something : ∀ record ∈ records, record ≠ []) :
    readRecords (records.flatMap writeRecord) = some records := by
  have run : ∀ (rest done : List (List (List Char))), (∀ record ∈ rest, record ≠ []) →
      RecordReader.run ⟨done, [], [], .start⟩ (rest.flatMap writeRecord) =
        some ⟨done ++ rest, [], [], .start⟩ := by
    intro rest
    induction rest with
    | nil =>
        intro done _
        rw [List.append_nil]
        rfl
    | cons record others ih =>
        intro done nonempty
        rcases List.forall_mem_cons.mp nonempty with ⟨here, later⟩
        cases record with
        | nil => exact absurd rfl here
        | cons field fields =>
            rw [List.flatMap_cons, RecordReader.run_writeRecord, List.nil_append, ih _ later,
              List.append_assoc]
            rfl
  rw [readRecords]
  change (RecordReader.run ⟨[], [], [], .start⟩ _).bind _ = _
  rw [run records [] something]
  rfl

end Text
end Stars
