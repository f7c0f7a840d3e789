import Stars.Core.Error

namespace Stars
namespace AdResolver

/-!
# Binary SIDs

Little-endian fields of a byte sequence and the text of a binary SID: one
revision byte, the count of sub-authorities, six bytes of authority with the
most significant one first, and four bytes for each sub-authority.
-/

/-- The bytes from an offset on, when that many are there. -/
def slice (bytes : List UInt8) (offset length : Nat) : Option (List UInt8) :=
  if offset + length ≤ bytes.length then some ((bytes.drop offset).take length) else none

/-- The value of a little-endian field. -/
def littleEndian : List UInt8 → Nat
  | [] => 0
  | byte :: rest => byte.toNat + 256 * littleEndian rest

/-- The value of a field with the most significant byte first. -/
def bigEndian (bytes : List UInt8) : Nat :=
  bytes.foldl (fun value byte => value * 256 + byte.toNat) 0

def byteAt (bytes : List UInt8) (offset : Nat) : Option Nat := (bytes[offset]?).map UInt8.toNat

def u16At (bytes : List UInt8) (offset : Nat) : Option Nat :=
  (slice bytes offset 2).map littleEndian

def u32At (bytes : List UInt8) (offset : Nat) : Option Nat :=
  (slice bytes offset 4).map littleEndian

/-- The texts of the sub-authorities from an offset on. -/
def subAuthorities (bytes : List UInt8) (offset : Nat) : Nat → String
  | 0 => ""
  | count + 1 =>
      "-" ++ toString (littleEndian ((bytes.drop offset).take 4)) ++
        subAuthorities bytes (offset + 4) count

/-- Binary SID bytes as the canonical SID text. -/
def bytesToSidStr (bytes : List UInt8) : Except CoreError String :=
  if bytes.length < 8 then .error (.sidResolution "SID byte sequence too short")
  else
    let revision := (byteAt bytes 0).getD 0
    let subAuthorityCount := (byteAt bytes 1).getD 0
    let expectedLen := 8 + subAuthorityCount * 4
    let length := bytes.length
    if length < expectedLen then
      .error (.sidResolution s!"SID data incomplete: expected {expectedLen} bytes, got {length}")
    else
      let authority := bigEndian ((bytes.drop 2).take 6)
      .ok (s!"S-{revision}-{authority}" ++ subAuthorities bytes 8 subAuthorityCount)

end AdResolver
end Stars
