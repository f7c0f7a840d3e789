import Stars.AdResolver.SidUtil
import Stars.Bytes.Fields
import Mathlib.Tactic.NormNum

namespace Stars
namespace AdResolver

open Bytes

/-!
# The fields of a binary SID

A binary SID is the sequence of its fields, and its text lists the same fields.
`bytesToSidStr_encode` reads the text from the bytes of the fields, whatever
follows them, and `exists_of_bytesToSidStr` finds the fields in every byte
sequence that is accepted.
-/

/-- A number in bytes, the least significant one first. -/
def littleEndianBytes : Nat → Nat → List UInt8
  | 0, _ => []
  | width + 1, value => UInt8.ofNat value :: littleEndianBytes width (value / 256)

/-- A number in bytes, the most significant one first. -/
def bigEndianBytes (width value : Nat) : List UInt8 := (littleEndianBytes width value).reverse

@[simp] theorem length_littleEndianBytes (width value : Nat) :
    (littleEndianBytes width value).length = width := by
  induction width generalizing value with
  | zero => rfl
  | succ width ih => rw [littleEndianBytes, List.length_cons, ih]

@[simp] theorem length_bigEndianBytes (width value : Nat) :
    (bigEndianBytes width value).length = width := by
  rw [bigEndianBytes, List.length_reverse, length_littleEndianBytes]

theorem littleEndian_lt (bytes : List UInt8) : littleEndian bytes < 256 ^ bytes.length := by
  induction bytes with
  | nil => exact Nat.one_pos
  | cons byte rest ih =>
      have bound := byte.toNat_lt
      rw [littleEndian, List.length_cons, Nat.pow_succ]
      omega

/-- The bytes of a number that fits hold it. -/
theorem littleEndian_littleEndianBytes (width value : Nat) (fits : value < 256 ^ width) :
    littleEndian (littleEndianBytes width value) = value := by
  induction width generalizing value with
  | zero =>
      rw [Nat.pow_zero, Nat.lt_one_iff] at fits
      exact fits.symm
  | succ width ih =>
      have less : value / 256 < 256 ^ width := by
        apply Nat.div_lt_of_lt_mul
        rwa [Nat.pow_succ, Nat.mul_comm] at fits
      rw [littleEndianBytes, littleEndian, ih (value / 256) less, UInt8.toNat_ofNat']
      exact Nat.mod_add_div value 256

/-- Bytes are determined by their number. -/
theorem littleEndianBytes_littleEndian (bytes : List UInt8) :
    littleEndianBytes bytes.length (littleEndian bytes) = bytes := by
  induction bytes with
  | nil => rfl
  | cons byte rest ih =>
      have bound := byte.toNat_lt
      have quotient : (byte.toNat + 256 * littleEndian rest) / 256 = littleEndian rest := by omega
      have head : UInt8.ofNat (byte.toNat + 256 * littleEndian rest) = byte := by
        rw [← UInt8.toNat_inj, UInt8.toNat_ofNat']
        omega
      rw [littleEndian, List.length_cons, littleEndianBytes, quotient, head, ih]

theorem bigEndian_reverse (bytes : List UInt8) : bigEndian bytes.reverse = littleEndian bytes := by
  rw [bigEndian, List.foldl_reverse]
  induction bytes with
  | nil => rfl
  | cons byte rest ih =>
      rw [List.foldr_cons, ih, littleEndian]
      omega

theorem bigEndian_bigEndianBytes (width value : Nat) (fits : value < 256 ^ width) :
    bigEndian (bigEndianBytes width value) = value := by
  rw [bigEndianBytes, bigEndian_reverse, littleEndian_littleEndianBytes width value fits]

theorem bigEndian_lt (bytes : List UInt8) : bigEndian bytes < 256 ^ bytes.length := by
  have bound := littleEndian_lt bytes.reverse
  rwa [← bigEndian_reverse, List.reverse_reverse, List.length_reverse] at bound

theorem bigEndianBytes_bigEndian (bytes : List UInt8) :
    bigEndianBytes bytes.length (bigEndian bytes) = bytes := by
  have same := littleEndianBytes_littleEndian bytes.reverse
  rw [← bigEndian_reverse, List.reverse_reverse, List.length_reverse] at same
  rw [bigEndianBytes, same, List.reverse_reverse]

section Fields

variable {bytes field : List UInt8} {offset : Nat}

theorem slice_eq_some_iff {length : Nat} :
    slice bytes offset length = some field ↔ field.length = length ∧ Holds bytes offset field := by
  unfold slice Holds
  constructor
  · intro read
    rcases Option.ite_none_right_eq_some.mp read with ⟨inside, same⟩
    have lengths : field.length = length := by
      rw [← Option.some.inj same, List.length_take, List.length_drop]
      omega
    exact ⟨lengths, by omega, by rw [lengths]; exact Option.some.inj same⟩
  · rintro ⟨rfl, inside, same⟩
    rw [if_pos inside, same]

theorem byteAt_of_holds {byte : UInt8} (held : Holds bytes offset (byte :: field)) :
    byteAt bytes offset = some byte.toNat := by
  rw [byteAt, held.getElem?]
  rfl

theorem u16At_of_holds {value : Nat} (held : Holds bytes offset (littleEndianBytes 2 value))
    (fits : value < 2 ^ 16) : u16At bytes offset = some value := by
  have read := slice_eq_some_iff.mpr ⟨length_littleEndianBytes 2 value, held⟩
  rw [u16At, read, Option.map_some, littleEndian_littleEndianBytes 2 value fits]

theorem u32At_of_holds {value : Nat} (held : Holds bytes offset (littleEndianBytes 4 value))
    (fits : value < 2 ^ 32) : u32At bytes offset = some value := by
  have read := slice_eq_some_iff.mpr ⟨length_littleEndianBytes 4 value, held⟩
  rw [u32At, read, Option.map_some, littleEndian_littleEndianBytes 4 value fits]

end Fields

/-! ## Binary SIDs -/

/-- The fields of a SID. -/
structure BinarySid where
  revision : UInt8
  authority : Nat
  subAuthorities : List Nat
  authority_lt : authority < 2 ^ 48
  subAuthority_lt : ∀ number ∈ subAuthorities, number < 2 ^ 32
  count_lt : subAuthorities.length < 256

def subAuthorityBytes (numbers : List Nat) : List UInt8 := numbers.flatMap (littleEndianBytes 4)

def subAuthorityTexts : List Nat → String
  | [] => ""
  | number :: rest => "-" ++ toString number ++ subAuthorityTexts rest

namespace BinarySid

def encode (sid : BinarySid) : List UInt8 :=
  sid.revision :: UInt8.ofNat sid.subAuthorities.length ::
    (bigEndianBytes 6 sid.authority ++ subAuthorityBytes sid.subAuthorities)

def text (sid : BinarySid) : String :=
  s!"S-{sid.revision.toNat}-{sid.authority}" ++ subAuthorityTexts sid.subAuthorities

end BinarySid

theorem length_subAuthorityBytes (numbers : List Nat) :
    (subAuthorityBytes numbers).length = 4 * numbers.length := by
  induction numbers with
  | nil => rfl
  | cons number rest ih =>
      rw [subAuthorityBytes] at ih
      rw [subAuthorityBytes, List.flatMap_cons, List.length_append, length_littleEndianBytes, ih,
        List.length_cons]
      omega

theorem BinarySid.length_encode (sid : BinarySid) :
    sid.encode.length = 8 + 4 * sid.subAuthorities.length := by
  rw [encode, List.length_cons, List.length_cons, List.length_append, length_bigEndianBytes,
    length_subAuthorityBytes]
  omega

theorem BinarySid.toNat_count (sid : BinarySid) :
    (UInt8.ofNat sid.subAuthorities.length).toNat = sid.subAuthorities.length := by
  rw [UInt8.toNat_ofNat']
  exact Nat.mod_eq_of_lt sid.count_lt

section Reading

variable {bytes : List UInt8} {offset : Nat}

theorem subAuthorities_of_holds {numbers : List Nat}
    (held : Holds bytes offset (subAuthorityBytes numbers))
    (fit : ∀ number ∈ numbers, number < 2 ^ 32) :
    subAuthorities bytes offset numbers.length = subAuthorityTexts numbers := by
  induction numbers generalizing offset with
  | nil => rfl
  | cons number rest ih =>
      rcases List.forall_mem_cons.mp fit with ⟨fits, others⟩
      rw [subAuthorityBytes, List.flatMap_cons, holds_append, length_littleEndianBytes] at held
      have field := held.1.take_drop
      rw [length_littleEndianBytes] at field
      rw [List.length_cons, subAuthorities, field, littleEndian_littleEndianBytes 4 number fits,
        ih held.2 others]
      rfl

end Reading

/-- The fields of a SID that starts at an offset. -/
theorem BinarySid.holds_encode {bytes : List UInt8} {offset : Nat} {sid : BinarySid}
    (held : Holds bytes offset sid.encode) :
    Holds bytes offset [sid.revision] ∧
      Holds bytes (offset + 1) [UInt8.ofNat sid.subAuthorities.length] ∧
      Holds bytes (offset + 2) (bigEndianBytes 6 sid.authority) ∧
      Holds bytes (offset + 8) (subAuthorityBytes sid.subAuthorities) := by
  rcases holds_cons.mp held with ⟨revision, others⟩
  rcases holds_cons.mp others with ⟨count, fields⟩
  rcases holds_append.mp fields with ⟨authority, numbers⟩
  rw [length_bigEndianBytes] at numbers
  exact ⟨revision, count, authority, numbers⟩

/-- Bytes that begin with the fields of a SID have its text. -/
theorem bytesToSidStr_of_holds {bytes : List UInt8} {sid : BinarySid}
    (held : Holds bytes 0 sid.encode) : bytesToSidStr bytes = .ok sid.text := by
  rcases BinarySid.holds_encode held with ⟨revision, count, authority, numbers⟩
  have length := held.le
  rw [sid.length_encode] at length
  have readRevision := byteAt_of_holds revision
  have readCount := byteAt_of_holds count
  rw [Nat.zero_add, sid.toNat_count] at readCount
  have readAuthority := authority.take_drop
  rw [length_bigEndianBytes, Nat.zero_add] at readAuthority
  rw [bytesToSidStr, if_neg (by omega)]
  simp only [readRevision, readCount, Option.getD_some]
  rw [if_neg (by omega), readAuthority, bigEndian_bigEndianBytes 6 _ sid.authority_lt,
    subAuthorities_of_holds numbers sid.subAuthority_lt]
  rfl

/-- Enough bytes hold a number of sub-authorities. -/
theorem exists_subAuthorities (count : Nat) : ∀ bytes : List UInt8, 4 * count ≤ bytes.length →
    ∃ (numbers : List Nat) (rest : List UInt8), bytes = subAuthorityBytes numbers ++ rest ∧
      numbers.length = count ∧ ∀ number ∈ numbers, number < 2 ^ 32 := by
  induction count with
  | zero =>
    intro bytes _
    exact ⟨[], bytes, rfl, rfl, fun _ member => absurd member List.not_mem_nil⟩
  | succ count ih =>
      intro bytes enough
      have field : (bytes.take 4).length = 4 := by
        rw [List.length_take]
        omega
      have later : 4 * count ≤ (bytes.drop 4).length := by
        rw [List.length_drop]
        omega
      rcases ih (bytes.drop 4) later with ⟨numbers, rest, same, counted, fit⟩
      have number := littleEndianBytes_littleEndian (bytes.take 4)
      rw [field] at number
      have below := littleEndian_lt (bytes.take 4)
      rw [field] at below
      refine ⟨littleEndian (bytes.take 4) :: numbers, rest, ?_, ?_, ?_⟩
      · rw [subAuthorityBytes, List.flatMap_cons, number, List.append_assoc]
        rw [subAuthorityBytes] at same
        rw [← same, List.take_append_drop]
      · rw [List.length_cons, counted]
      · exact List.forall_mem_cons.mpr ⟨below, fit⟩

/-- Accepted bytes begin with the fields of a SID. -/
theorem exists_of_bytesToSidStr {bytes : List UInt8} {text : String}
    (accepted : bytesToSidStr bytes = .ok text) :
    ∃ (sid : BinarySid) (rest : List UInt8), bytes = sid.encode ++ rest ∧ text = sid.text := by
  match bytes, accepted with
  | revision :: count :: a :: b :: c :: d :: e :: f :: others, accepted =>
      have enough : 4 * count.toNat ≤ others.length := by
        by_contra short
        rw [bytesToSidStr, if_neg (by simp), byteAt, byteAt] at accepted
        simp only [List.getElem?_cons_succ, List.getElem?_cons_zero, Option.map_some,
          Option.getD_some, List.length_cons] at accepted
        rw [if_pos (by omega)] at accepted
        cases accepted
      rcases exists_subAuthorities count.toNat others enough with ⟨numbers, rest, rfl, counted, fit⟩
      have below : bigEndian [a, b, c, d, e, f] < 2 ^ 48 :=
        Nat.lt_of_lt_of_eq (bigEndian_lt [a, b, c, d, e, f]) (by norm_num)
      let sid : BinarySid :=
        { revision := revision
          authority := bigEndian [a, b, c, d, e, f]
          subAuthorities := numbers
          authority_lt := below
          subAuthority_lt := fit
          count_lt := counted ▸ count.toNat_lt }
      have encoded : revision :: count :: a :: b :: c :: d :: e :: f ::
          (subAuthorityBytes numbers ++ rest) = sid.encode ++ rest := by
        have fields : bigEndianBytes 6 (bigEndian [a, b, c, d, e, f]) = [a, b, c, d, e, f] :=
          bigEndianBytes_bigEndian [a, b, c, d, e, f]
        rw [BinarySid.encode, counted, UInt8.ofNat_toNat, fields]
        rfl
      rw [encoded, bytesToSidStr_of_holds holds_append_left] at accepted
      exact ⟨sid, rest, encoded, (Except.ok.inj accepted).symm⟩

end AdResolver
end Stars
