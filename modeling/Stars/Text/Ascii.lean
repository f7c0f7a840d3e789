import Mathlib.Algebra.Group.Nat.Defs

namespace Stars
namespace Text

/-!
# Text operations on characters

Identifiers and messages are compared and taken apart as character sequences.
The operations follow the usual library contracts: `split` keeps empty pieces,
`rsplitOnce` cuts at the last separator, and the case conversions change only
the twenty-six letters.  They recurse over the characters, so a concrete text
can be evaluated inside a proof.
-/

/-- The text begins with the given prefix. -/
def startsWith (start text : String) : Bool := start.toList.isPrefixOf text.toList

/-- The characters after a prefix, when the text has it. -/
def stripPrefix (start : String) (text : List Char) : Option (List Char) :=
  if start.toList.isPrefixOf text then some (text.drop start.toList.length) else none

/-- All pieces between separators.  A text without one is a single piece. -/
def split (separator : Char) (text : List Char) : List (List Char) := text.splitOn separator

/-- The pieces before and after the last separator. -/
def rsplitOnce (separator : Char) (text : List Char) : Option (List Char × List Char) :=
  match text with
  | [] => none
  | head :: rest =>
      match rsplitOnce separator rest with
      | some (before, after) => some (head :: before, after)
      | none => if head = separator then some ([], rest) else none

/-- The pieces before and after the first separator. -/
def splitOnce (separator : Char) (text : List Char) : Option (List Char × List Char) :=
  match text with
  | [] => none
  | head :: rest =>
      if head = separator then some ([], rest)
      else (splitOnce separator rest).map (fun pieces => (head :: pieces.1, pieces.2))

/-- White space as trimming removes it. -/
def isWhitespace (letter : Char) : Bool :=
  let code := letter.toNat
  (0x09 ≤ code && code ≤ 0x0D) || code == 0x20 || code == 0x85 || code == 0xA0 ||
    code == 0x1680 || (0x2000 ≤ code && code ≤ 0x200A) || code == 0x2028 || code == 0x2029 ||
    code == 0x202F || code == 0x205F || code == 0x3000

def trim (text : List Char) : List Char :=
  ((text.dropWhile isWhitespace).reverse.dropWhile isWhitespace).reverse

/-- The text with every upper-case letter lowered. -/
def toAsciiLowercase (text : String) : String := String.ofList (text.toList.map Char.toLower)

/-- The text with every lower-case letter raised. -/
def toAsciiUppercase (text : String) : String := String.ofList (text.toList.map Char.toUpper)

/-- Equality up to the case of letters. -/
def eqIgnoreAsciiCase (left right : String) : Bool :=
  toAsciiLowercase left == toAsciiLowercase right

/-- The code point of a lowered letter. -/
theorem toNat_toLower (letter : Char) : letter.toLower.toNat =
    if 65 ≤ letter.toNat ∧ letter.toNat ≤ 90 then letter.toNat + 32 else letter.toNat := by
  have same : ('A'.val ≤ letter.val ∧ letter.val ≤ 'Z'.val) ↔
      65 ≤ letter.toNat ∧ letter.toNat ≤ 90 := by
    simp [UInt32.le_iff_toNat_le]
  by_cases upper : 'A'.val ≤ letter.val ∧ letter.val ≤ 'Z'.val
  · have bound := same.mp upper
    rw [if_pos bound]
    delta Char.toLower
    rw [dif_pos upper]
    simp [← Char.toNat_val] at bound ⊢
    omega
  · rw [if_neg (mt same.mpr upper)]
    delta Char.toLower
    rw [dif_neg upper]

/-- The code point of a raised letter. -/
theorem toNat_toUpper (letter : Char) : letter.toUpper.toNat =
    if 97 ≤ letter.toNat ∧ letter.toNat ≤ 122 then letter.toNat - 32 else letter.toNat := by
  have same : ('a'.val ≤ letter.val ∧ letter.val ≤ 'z'.val) ↔
      97 ≤ letter.toNat ∧ letter.toNat ≤ 122 := by
    simp [UInt32.le_iff_toNat_le]
  by_cases lower : 'a'.val ≤ letter.val ∧ letter.val ≤ 'z'.val
  · have bound := same.mp lower
    rw [if_pos bound]
    delta Char.toUpper
    rw [dif_pos lower]
    simp [← Char.toNat_val] at bound ⊢
    omega
  · rw [if_neg (mt same.mpr lower)]
    delta Char.toUpper
    rw [dif_neg lower]

theorem toUpper_eq_toUpper_iff (left right : Char) :
    left.toUpper = right.toUpper ↔ left.toLower = right.toLower := by
  rw [← Char.toNat_inj, ← Char.toNat_inj, toNat_toUpper, toNat_toUpper, toNat_toLower,
    toNat_toLower]
  split <;> split <;> split <;> split <;> omega

/-- Two texts have the same upper-case form when they are equal up to case. -/
theorem toAsciiUppercase_eq_iff (left right : String) :
    toAsciiUppercase left = toAsciiUppercase right ↔ eqIgnoreAsciiCase left right = true := by
  rw [eqIgnoreAsciiCase, beq_iff_eq, toAsciiUppercase, toAsciiUppercase, toAsciiLowercase,
    toAsciiLowercase, String.ofList_inj, String.ofList_inj]
  generalize left.toList = first
  generalize right.toList = second
  induction first generalizing second with
  | nil => cases second <;> simp
  | cons head rest ih =>
      cases second with
      | nil => simp
      | cons other others =>
          rw [List.map_cons, List.map_cons, List.map_cons, List.map_cons, List.cons.injEq,
            List.cons.injEq, toUpper_eq_toUpper_iff, ih]

/-- Pieces joined by a separator. -/
def join (separator : String) : List String → String
  | [] => ""
  | [piece] => piece
  | piece :: rest => piece ++ separator ++ join separator rest

/-- A number is written in digits. -/
theorem isDigit_of_mem_toString {number : Nat} {letter : Char}
    (member : letter ∈ (toString number).toList) : letter.isDigit = true := by
  have written : (toString number).toList = Nat.toDigits 10 number := Nat.toList_repr
  rw [written] at member
  exact Nat.isDigit_of_mem_toDigits (by decide) (by decide) member

/-- The upper-case hexadecimal digit of a value below sixteen. -/
def hexDigit (value : Nat) : Char :=
  if value < 10 then Char.ofNat ('0'.toNat + value) else Char.ofNat ('A'.toNat + (value - 10))

/-- At least `width` upper-case hexadecimal digits. -/
def hexPadded (width value : Nat) : String :=
  String.ofList (List.leftpad width '0' ((Nat.toDigits 16 value).map Char.toUpper))

/-- Eight upper-case hexadecimal digits. -/
def hex8 (value : BitVec 32) : String :=
  String.ofList ((List.range 8).map
    (fun place => hexDigit (value.toNat / 16 ^ (7 - place) % 16)))

end Text
end Stars
