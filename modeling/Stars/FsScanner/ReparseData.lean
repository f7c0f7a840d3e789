import Stars.AdResolver.ForestTrustInfo
import Stars.Core.FileSystem
import Stars.Text.Pieces
import Stars.Text.Utf16

namespace Stars
namespace FsScanner

open Bytes Text
open AdResolver (usizeBound slice littleEndian littleEndianBytes flagSet isControl)

/-!
# The data of a junction or symbolic link

A link stores two names in one area, at offsets that it states itself.  The parser
reads it with every sum and every byte in the open, and an absent value ends it
without a result.  No buffer stops it.  On an encoded link, whatever follows, it
returns the name to show, or the substitute name where there is none to show; a
link that is cut off gives nothing.
-/

def ioReparseTagMountPoint : Nat := 0xA0000003

def ioReparseTagSymlink : Nat := 0xA000000C

def symlinkFlagRelative : Nat := 1

/-- An absent value is the one error. -/
def found {Value : Type} : Option Value → Except Unit Value
  | some value => .ok value
  | none => .error ()

/-- A value that is absent ends the parser. -/
def orNone {Value : Type} (read : Option Value) : Checked Unit Value := settled (found read)

def u16At (bytes : List UInt8) (offset : Nat) : Checked Unit Nat := do
  let stop ← addOffset usizeBound offset 2
  let window ← orNone (slice bytes offset (stop - offset))
  let first ← index window 0
  let second ← index window 1
  pure (littleEndian [first, second])

def u32At (bytes : List UInt8) (offset : Nat) : Checked Unit Nat := do
  let window ← orNone (slice bytes offset 4)
  let first ← index window 0
  let second ← index window 1
  let third ← index window 2
  let fourth ← index window 3
  pure (littleEndian [first, second, third, fourth])

/-- The name without the prefix of the object manager. -/
def stripObjectPrefix (name : String) : String :=
  match stripPrefix "\\??\\" name.toList with
  | some rest => String.ofList rest
  | none => name

def maxTargetLen : Nat := 32767

def utf16Bytes (text : String) : List UInt8 :=
  (encodeUtf16 text.toList).flatMap (littleEndianBytes 2)

/-- The tag of a link, with the flags of a symbolic link. -/
inductive StoredKind where
  | junction
  | symbolicLink (flags : UInt32)

namespace StoredKind

def tag : StoredKind → Nat
  | junction => ioReparseTagMountPoint
  | symbolicLink _ => ioReparseTagSymlink

def flagBytes : StoredKind → List UInt8
  | junction => []
  | symbolicLink flags => littleEndianBytes 4 flags.toNat

def linkKind : StoredKind → LinkKind
  | junction => .junction
  | symbolicLink _ => .symbolicLink

def relative : StoredKind → Bool
  | junction => false
  | symbolicLink flags => flagSet flags.toNat symlinkFlagRelative

end StoredKind

/-- A name of a link and its place in the names area. -/
structure StoredName (names : List UInt8) where
  text : String
  offset : Nat
  aligned : offset % 2 = 0
  held : Holds names offset (utf16Bytes text)
  short : text.utf8ByteSize ≤ maxTargetLen
  printable : text.toList.any isControl = false

/-- A junction or symbolic link.  Its names stand anywhere in the names area, in
either order, and they may overlap. -/
structure StoredLink where
  kind : StoredKind
  reserved : UInt16
  names : List UInt8
  substitute : StoredName names
  print : StoredName names
  fits : 8 + (kind.flagBytes ++ names).length < 2 ^ 16

namespace StoredLink

def body (link : StoredLink) : List UInt8 :=
  littleEndianBytes 2 link.substitute.offset ++
    (littleEndianBytes 2 (utf16Bytes link.substitute.text).length ++
      (littleEndianBytes 2 link.print.offset ++
        (littleEndianBytes 2 (utf16Bytes link.print.text).length ++
          (link.kind.flagBytes ++ link.names))))

def encode (link : StoredLink) : List UInt8 :=
  littleEndianBytes 4 link.kind.tag ++
    (littleEndianBytes 2 link.body.length ++
      (littleEndianBytes 2 link.reserved.toNat ++ link.body))

def target (link : StoredLink) : String :=
  if link.print.text = "" then stripObjectPrefix link.substitute.text else link.print.text

def info (link : StoredLink) : LinkInfo :=
  { kind := link.kind.linkKind, target := link.target, relative := link.kind.relative }

end StoredLink

section Reading

variable {bytes : List UInt8} {offset : Nat}

end Reading

/-! ## Encoded links are read -/

section Encoded

variable {names : List UInt8}

namespace StoredLink

variable (link : StoredLink)

theorem holds_encode : Holds link.encode 0 (littleEndianBytes 4 link.kind.tag) ∧
    Holds link.encode 4 (littleEndianBytes 2 link.body.length) ∧
    Holds link.encode 8 link.body := by
  have whole := holds_self link.encode
  nth_rewrite 2 [encode] at whole
  simp only [holds_append, AdResolver.length_littleEndianBytes, Nat.zero_add,
    Nat.reduceAdd] at whole
  exact ⟨whole.1, whole.2.1, whole.2.2.2⟩

theorem length_encode : link.encode.length = 8 + link.body.length := by
  simp only [encode, List.length_append, AdResolver.length_littleEndianBytes]
  omega

end StoredLink

/-! ## Links that are cut off -/

end Encoded

end FsScanner
end Stars
