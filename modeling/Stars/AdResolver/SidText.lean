import Stars.AdResolver.BinarySid
import Stars.AdResolver.Pipeline
import Stars.Collections.KeyedList
import Stars.Text.Pieces

namespace Stars
namespace AdResolver

open Bytes Collections

/-!
# Texts of SIDs

The text of a SID lists its numbers in decimal, and its bytes hold them in fields
of one, six and four bytes.  A text with redundant digits or signs is the same SID
as the canonical one.  The syntax check admits every number of 64 bits, and the
encoder refuses a sub-authority that does not fit its field.
-/

/-- The six bytes of an authority. -/
def authorityBytes (authority : Nat) : List UInt8 :=
  [40, 32, 24, 16, 8, 0].map (fun shift => UInt8.ofNat (authority >>> shift &&& 0xFF))

/-- A sub-authority of a SID text. -/
def parseSubAuthority (sid : String) (piece : List Char) : Except CoreError Nat :=
  match Text.parseUnsigned (2 ^ 32) piece with
  | none => .error (.sidResolution s!"Invalid sub-authority in SID: {sid}")
  | some number => .ok number

/-- The binary representation of a SID text. -/
def sidStrToBytes (sid : String) : Except CoreError (List UInt8) :=
  match Text.split '-' (Text.trim sid.toList) with
  | start :: revision :: authority :: numbers =>
      if start ≠ ['S'] then .error (.sidResolution s!"Invalid SID format: {sid}")
      else
        match Text.parseUnsigned (2 ^ 8) revision with
        | none => .error (.sidResolution s!"Invalid revision in SID: {sid}")
        | some revision =>
            match Text.parseUnsigned (2 ^ 64) authority with
            | none => .error (.sidResolution s!"Invalid identifier authority: {sid}")
            | some authority => do
                let subAuthorities ← numbers.mapM (parseSubAuthority sid)
                .ok (UInt8.ofNat revision :: UInt8.ofNat subAuthorities.length ::
                  (authorityBytes authority ++ subAuthorityBytes subAuthorities))
  | _ => .error (.sidResolution s!"Invalid SID format: {sid}")

/-- The numbers of a text, as the syntax check reads them. -/
def sidNumbers (sid : String) : List Nat :=
  ((Text.split '-' (Text.trim sid.toList)).drop 1).filterMap (Text.parseUnsigned (2 ^ 64))

def sidAuthority (sid : String) : Nat := (sidNumbers sid).getD 1 0

def sidSubAuthorities (sid : String) : List Nat := (sidNumbers sid).drop 2

/-- The pieces of a text are the revision, the authority and the
sub-authorities. -/
structure ListsNumbers (sid : String) (revision authority : Nat) (subAuthorities : List Nat) :
    Prop where
  pieces : ∃ first second others, Text.split '-' (Text.trim sid.toList) =
    ['S'] :: first :: second :: others ∧ Text.parseUnsigned (2 ^ 8) first = some revision ∧
      Text.parseUnsigned (2 ^ 64) second = some authority ∧
      List.Forall₂ (fun piece number => Text.parseUnsigned (2 ^ 32) piece = some number) others
        subAuthorities

/-- The bytes of numbers, of which the count and the authority are cut to their
fields. -/
def bytesOfNumbers (revision authority : Nat) (subAuthorities : List Nat) : List UInt8 :=
  UInt8.ofNat revision :: UInt8.ofNat subAuthorities.length ::
    (authorityBytes authority ++ subAuthorityBytes subAuthorities)

theorem parseSubAuthority_eq_ok_iff {sid : String} {piece : List Char} {number : Nat} :
    parseSubAuthority sid piece = .ok number ↔ Text.parseUnsigned (2 ^ 32) piece = some number := by
  unfold parseSubAuthority
  cases Text.parseUnsigned (2 ^ 32) piece <;> simp

theorem mapM_parseSubAuthority {sid : String} {pieces : List (List Char)} {numbers : List Nat} :
    pieces.mapM (parseSubAuthority sid) = .ok numbers ↔
      List.Forall₂ (fun piece number => Text.parseUnsigned (2 ^ 32) piece = some number) pieces
        numbers := by
  rw [mapM_eq_ok_iff]
  simp only [parseSubAuthority_eq_ok_iff]

theorem sidStrToBytes_eq_ok_iff {sid : String} {bytes : List UInt8} :
    sidStrToBytes sid = .ok bytes ↔ ∃ revision authority subAuthorities,
      ListsNumbers sid revision authority subAuthorities ∧
        bytes = bytesOfNumbers revision authority subAuthorities := by
  constructor
  · intro encoded
    unfold sidStrToBytes at encoded
    split at encoded
    · rename_i start first second others split
      split at encoded
      · cases encoded
      · rename_i named
        rw [not_not] at named
        split at encoded
        · cases encoded
        · rename_i revision readRevision
          split at encoded
          · cases encoded
          · rename_i authority readAuthority
            rcases bind_eq_ok_iff.mp encoded with ⟨subAuthorities, read, same⟩
            exact ⟨revision, authority, subAuthorities, ⟨first, second, others, named ▸ split,
              readRevision, readAuthority, mapM_parseSubAuthority.mp read⟩,
              (Except.ok.inj same).symm⟩
    · cases encoded
  · rintro ⟨revision, authority, subAuthorities, ⟨first, second, others, split, readRevision,
      readAuthority, read⟩, rfl⟩
    unfold sidStrToBytes
    rw [split]
    simp only [ne_eq, not_true_eq_false, if_false, readRevision, readAuthority]
    rw [mapM_parseSubAuthority.mpr read]
    rfl

/-- The numbers of an encoded text. -/
theorem ListsNumbers.sidNumbers {sid : String} {revision authority : Nat}
    {subAuthorities : List Nat} (lists : ListsNumbers sid revision authority subAuthorities) :
    sidNumbers sid = revision :: authority :: subAuthorities := by
  rcases lists.pieces with ⟨first, second, others, split, readRevision, readAuthority, read⟩
  have rest : others.filterMap (Text.parseUnsigned (2 ^ 64)) = subAuthorities := by
    clear split lists
    induction read with
    | nil => rfl
    | cons number _ ih =>
        rw [List.filterMap_cons_some (Text.parseUnsigned_mono (by decide) number), ih]
  rw [AdResolver.sidNumbers, split, List.drop_one, List.tail_cons,
    List.filterMap_cons_some (Text.parseUnsigned_mono (by decide) readRevision),
    List.filterMap_cons_some readAuthority, rest]

theorem toList_subAuthorityTexts (numbers : List Nat) :
    (subAuthorityTexts numbers).toList = Text.behind '-' (numbers.map (Nat.toDigits 10)) := by
  induction numbers with
  | nil => rfl
  | cons number rest ih =>
      have digits : (toString number).toList = Nat.toDigits 10 number := Nat.toList_repr
      rw [subAuthorityTexts, String.toList_append, String.toList_append, digits, ih]
      rfl

/-- The letters of a text: the numbers, each behind a hyphen. -/
theorem BinarySid.toList_text (sid : BinarySid) : sid.text.toList = ['S'] ++ Text.behind '-'
    ((sid.revision.toNat :: sid.authority :: sid.subAuthorities).map (Nat.toDigits 10)) := by
  have revision : (toString sid.revision.toNat).toList = Nat.toDigits 10 sid.revision.toNat :=
    Nat.toList_repr
  have authority : (toString sid.authority).toList = Nat.toDigits 10 sid.authority :=
    Nat.toList_repr
  have start : (toString "S-").toList = ['S', '-'] := rfl
  have hyphen : (toString "-").toList = ['-'] := rfl
  simp only [text, String.toList_append, start, revision, hyphen, authority,
    toList_subAuthorityTexts, Text.behind, List.map_cons, List.flatMap_cons, List.append_assoc,
    List.cons_append, List.nil_append]

theorem isWhitespace_of_isDigit {letter : Char} (digit : letter.isDigit = true) :
    Text.isWhitespace letter = false := by
  have bounds : 48 ≤ letter.toNat ∧ letter.toNat ≤ 57 := by
    simpa [Char.isDigit, UInt32.le_iff_toNat_le] using digit
  unfold Text.isWhitespace
  simp
  omega

/-- A text of numbers behind hyphens has no white space. -/
theorem isWhitespace_behind {numbers : List Nat} {letter : Char}
    (member : letter ∈ ['S'] ++ Text.behind '-' (numbers.map (Nat.toDigits 10))) :
    Text.isWhitespace letter = false := by
  rcases List.mem_append.mp member with start | inside
  · rw [List.mem_singleton.mp start]
    rfl
  · rcases List.mem_flatMap.mp inside with ⟨piece, listed, place⟩
    rcases List.mem_map.mp listed with ⟨number, _, rfl⟩
    rcases List.mem_cons.mp place with rfl | digit
    · rfl
    · exact isWhitespace_of_isDigit (Nat.isDigit_of_mem_toDigits (by decide) (by decide) digit)

/-- The text of a SID lists its fields. -/
theorem BinarySid.listsNumbers (sid : BinarySid) :
    ListsNumbers sid.text sid.revision.toNat sid.authority sid.subAuthorities := by
  have whole : '-' ∉ ['S'] := by decide
  have others : ∀ piece ∈ (sid.revision.toNat :: sid.authority :: sid.subAuthorities).map
      (Nat.toDigits 10), '-' ∉ piece := by
    intro piece listed
    rcases List.mem_map.mp listed with ⟨number, _, rfl⟩
    exact Text.notMem_toDigits rfl number
  have authority : sid.authority < 2 ^ 64 := Nat.lt_of_lt_of_le sid.authority_lt (by decide)
  refine ⟨Nat.toDigits 10 sid.revision.toNat, Nat.toDigits 10 sid.authority,
    sid.subAuthorities.map (Nat.toDigits 10), ?_, Text.parseUnsigned_toDigits sid.revision.toNat_lt,
    Text.parseUnsigned_toDigits authority, ?_⟩
  · rw [sid.toList_text, Text.trim_of_forall (fun _ => isWhitespace_behind),
      Text.split_behind whole others]
    rfl
  · rw [List.forall₂_map_left_iff, List.forall₂_same]
    exact fun number member => Text.parseUnsigned_toDigits (sid.subAuthority_lt number member)

theorem authorityBytes_eq (authority : Nat) :
    authorityBytes authority = bigEndianBytes 6 authority := by
  have byte : ∀ shift, UInt8.ofNat (authority >>> shift &&& 0xFF) =
      UInt8.ofNat (authority / 2 ^ shift) := by
    intro shift
    have mask : 0xFF = 2 ^ 8 - 1 := rfl
    rw [← UInt8.toNat_inj, UInt8.toNat_ofNat', UInt8.toNat_ofNat', Nat.shiftRight_eq_div_pow, mask,
      Nat.and_two_pow_sub_one_eq_mod, Nat.mod_mod]
  simp only [authorityBytes, List.map_cons, List.map_nil, byte]
  simp [bigEndianBytes, littleEndianBytes, Nat.div_div_eq_div_mul]

/-- The bytes of a number hold its lower part. -/
theorem littleEndianBytes_mod (width value : Nat) :
    littleEndianBytes width (value % 256 ^ width) = littleEndianBytes width value := by
  induction width generalizing value with
  | zero => rfl
  | succ width ih =>
      have head : UInt8.ofNat (value % (256 * 256 ^ width)) = UInt8.ofNat value := by
        rw [← UInt8.toNat_inj, UInt8.toNat_ofNat', UInt8.toNat_ofNat']
        exact Nat.mod_mul_right_mod value 256 (256 ^ width)
      rw [Nat.pow_succ, Nat.mul_comm, littleEndianBytes, littleEndianBytes, head,
        Nat.mod_mul_right_div_self, ih]

theorem BinarySid.encode_eq (sid : BinarySid) :
    sid.encode = bytesOfNumbers sid.revision.toNat sid.authority sid.subAuthorities := by
  rw [encode, bytesOfNumbers, authorityBytes_eq, UInt8.ofNat_toNat]

/-- Numbers with a count that fits are cut to the fields of a SID. -/
theorem exists_encode_eq (revision authority : Nat) {subAuthorities : List Nat}
    (fit : ∀ number ∈ subAuthorities, number < 2 ^ 32)
    (few : subAuthorities.length < 256) :
    ∃ sid : BinarySid, sid.encode = bytesOfNumbers revision authority subAuthorities := by
  have cut : authority % 2 ^ 48 < 2 ^ 48 := Nat.mod_lt _ (by decide)
  have whole : 2 ^ 48 = 256 ^ 6 := by norm_num
  have same : bigEndianBytes 6 (authority % 2 ^ 48) = bigEndianBytes 6 authority := by
    rw [bigEndianBytes, bigEndianBytes, whole, littleEndianBytes_mod]
  refine ⟨⟨UInt8.ofNat revision, authority % 2 ^ 48, subAuthorities, cut, fit, few⟩, ?_⟩
  rw [BinarySid.encode, bytesOfNumbers, authorityBytes_eq, same]

/-- The text of a SID is encoded as its fields. -/
theorem sidStrToBytes_text (sid : BinarySid) : sidStrToBytes sid.text = .ok sid.encode :=
  sidStrToBytes_eq_ok_iff.mpr ⟨_, _, _, sid.listsNumbers, sid.encode_eq⟩

theorem ListsNumbers.lt {sid : String} {revision authority : Nat} {subAuthorities : List Nat}
    (lists : ListsNumbers sid revision authority subAuthorities) :
    revision < 2 ^ 8 ∧ ∀ number ∈ subAuthorities, number < 2 ^ 32 := by
  rcases lists.pieces with ⟨_, _, others, _, readRevision, _, read⟩
  refine ⟨Text.parseUnsigned_lt readRevision, ?_⟩
  intro number member
  rcases exists_item_of_partner read member with ⟨piece, _, known⟩
  exact Text.parseUnsigned_lt known

/-- Fields of one width are equal when their bytes are. -/
theorem littleEndianBytes_inj {width left right : Nat} (leftFits : left < 256 ^ width)
    (rightFits : right < 256 ^ width)
    (same : littleEndianBytes width left = littleEndianBytes width right) : left = right := by
  have values := congrArg littleEndian same
  rwa [littleEndian_littleEndianBytes width left leftFits,
    littleEndian_littleEndianBytes width right rightFits] at values

theorem subAuthorityBytes_inj {left right : List Nat} (leftFit : ∀ number ∈ left, number < 2 ^ 32)
    (rightFit : ∀ number ∈ right, number < 2 ^ 32)
    (same : subAuthorityBytes left = subAuthorityBytes right) : left = right := by
  induction left generalizing right with
  | nil =>
      have lengths := congrArg List.length same
      rw [length_subAuthorityBytes, length_subAuthorityBytes, List.length_nil] at lengths
      exact (List.length_eq_zero_iff.mp (by omega)).symm
  | cons number rest ih =>
      cases right with
      | nil =>
          have lengths := congrArg List.length same
          rw [length_subAuthorityBytes, length_subAuthorityBytes, List.length_cons,
            List.length_nil] at lengths
          omega
      | cons other others =>
          rcases List.forall_mem_cons.mp leftFit with ⟨fits, restFit⟩
          rcases List.forall_mem_cons.mp rightFit with ⟨otherFits, othersFit⟩
          rw [subAuthorityBytes, subAuthorityBytes, List.flatMap_cons, List.flatMap_cons] at same
          rcases List.append_inj same (by simp) with ⟨sameField, sameRest⟩
          rw [littleEndianBytes_inj fits otherFits sameField, ih restFit othersFit sameRest]

/-- Numbers that fit their fields are determined by the bytes. -/
theorem bytesOfNumbers_inj {revision otherRevision authority otherAuthority : Nat}
    {subAuthorities others : List Nat} (low : revision < 2 ^ 8) (otherLow : otherRevision < 2 ^ 8)
    (fits : authority < 2 ^ 48) (otherFits : otherAuthority < 2 ^ 48)
    (fit : ∀ number ∈ subAuthorities, number < 2 ^ 32)
    (othersFit : ∀ number ∈ others, number < 2 ^ 32)
    (same : bytesOfNumbers revision authority subAuthorities =
      bytesOfNumbers otherRevision otherAuthority others) :
    revision = otherRevision ∧ authority = otherAuthority ∧ subAuthorities = others := by
  rw [bytesOfNumbers, bytesOfNumbers, authorityBytes_eq, authorityBytes_eq] at same
  rcases List.cons_eq_cons.mp same with ⟨sameRevision, afterRevision⟩
  rcases List.cons_eq_cons.mp afterRevision with ⟨_, fields⟩
  rcases List.append_inj fields (by simp) with ⟨sameAuthority, sameOthers⟩
  refine ⟨?_, ?_, subAuthorityBytes_inj fit othersFit sameOthers⟩
  · have values := congrArg UInt8.toNat sameRevision
    rwa [UInt8.toNat_ofNat', UInt8.toNat_ofNat', Nat.mod_eq_of_lt low, Nat.mod_eq_of_lt otherLow]
      at values
  · have field : 2 ^ 48 = 256 ^ 6 := by norm_num
    rw [field] at fits otherFits
    exact littleEndianBytes_inj fits otherFits (List.reverse_inj.mp sameAuthority)

theorem parsesAsU64_iff {piece : List Char} :
    parsesAsU64 piece = true ↔ ∃ number, Text.parseUnsigned (2 ^ 64) piece = some number :=
  Option.isSome_iff_exists

/-- What the syntax check establishes. -/
theorem tryNew_spec {input : String} {sid : Sid} (accepted : Sid.tryNew input = .ok sid) :
    sid.value.toList = Text.trim input.toList ∧ "S-1-".toList <+: sid.value.toList ∧
      ∀ piece ∈ (Text.split '-' sid.value.toList).drop 1, parsesAsU64 piece = true := by
  unfold Sid.tryNew at accepted
  dsimp only at accepted
  split at accepted
  · cases accepted
  · split at accepted
    · cases accepted
    · rename_i starts
      split at accepted
      · cases accepted
      · split at accepted
        · cases accepted
        · rename_i numeric
          cases accepted
          rw [Text.startsWith, Bool.not_eq_true, Bool.not_eq_false',
            List.isPrefixOf_iff_prefix] at starts
          refine ⟨String.toList_ofList, starts, ?_⟩
          intro piece member
          have known := List.find?_eq_none.mp numeric piece member
          rwa [Bool.not_eq_true, Bool.not_eq_false'] at known

/-- The pieces of an accepted text are `S`, the revision and at least one more
number. -/
theorem exists_pieces_of_tryNew {input : String} {sid : Sid}
    (accepted : Sid.tryNew input = .ok sid) :
    ∃ second others,
      Text.split '-' (Text.trim sid.value.toList) = ['S'] :: ['1'] :: second :: others ∧
      ∀ piece ∈ second :: others, ∃ number, Text.parseUnsigned (2 ^ 64) piece = some number := by
  rcases tryNew_spec accepted with ⟨trimmed, ⟨rest, letters⟩, numeric⟩
  have split : Text.split '-' sid.value.toList = ['S'] :: ['1'] :: rest.splitOn '-' := by
    rw [← letters]
    exact (List.splitOn_append_cons_self_of_not_mem (show '-' ∉ ['S'] by decide) _).trans
      (congrArg _ (List.splitOn_append_cons_self_of_not_mem (show '-' ∉ ['1'] by decide) _))
  cases pieces : rest.splitOn '-' with
  | nil => exact absurd pieces (List.splitOn_ne_nil _ _)
  | cons second others =>
      rw [pieces] at split
      refine ⟨second, others, ?_, ?_⟩
      · rw [trimmed, Text.trim_trim, ← trimmed, split]
      · intro piece member
        apply parsesAsU64_iff.mp
        apply numeric
        rw [split]
        exact List.mem_cons_of_mem ['1'] member

/-- Numbers below a bound are read below it. -/
theorem forall₂_parseUnsigned {bound narrower : Nat} {pieces : List (List Char)}
    (numeric : ∀ piece ∈ pieces, ∃ number, Text.parseUnsigned bound piece = some number)
    (fit : ∀ number ∈ pieces.filterMap (Text.parseUnsigned bound), number < narrower) :
    List.Forall₂ (fun piece number => Text.parseUnsigned narrower piece = some number) pieces
      (pieces.filterMap (Text.parseUnsigned bound)) := by
  induction pieces with
  | nil => exact List.Forall₂.nil
  | cons piece rest ih =>
      rcases List.forall_mem_cons.mp numeric with ⟨⟨number, read⟩, others⟩
      rw [List.filterMap_cons_some read] at fit ⊢
      rcases List.forall_mem_cons.mp fit with ⟨below, othersFit⟩
      exact List.Forall₂.cons (Text.parseUnsigned_of_lt read below) (ih others othersFit)

/-- An accepted text is encoded exactly when its sub-authorities fit their
fields. -/
theorem exists_sidStrToBytes_iff {input : String} {sid : Sid}
    (accepted : Sid.tryNew input = .ok sid) :
    (∃ bytes, sidStrToBytes sid.value = .ok bytes) ↔
      ∀ number ∈ sidSubAuthorities sid.value, number < 2 ^ 32 := by
  constructor
  · rintro ⟨bytes, encoded⟩
    rcases sidStrToBytes_eq_ok_iff.mp encoded with ⟨revision, authority, subAuthorities, lists, _⟩
    rw [sidSubAuthorities, lists.sidNumbers]
    exact lists.lt.2
  · intro fit
    rcases exists_pieces_of_tryNew accepted with ⟨second, others, split, numeric⟩
    rcases List.forall_mem_cons.mp numeric with ⟨⟨authority, readAuthority⟩, numericOthers⟩
    have one : Text.parseUnsigned (2 ^ 64) ['1'] = some 1 := by decide
    have numbers : sidSubAuthorities sid.value = others.filterMap (Text.parseUnsigned (2 ^ 64)) := by
      rw [sidSubAuthorities, sidNumbers, split, List.drop_one, List.tail_cons,
        List.filterMap_cons_some one, List.filterMap_cons_some readAuthority]
      rfl
    rw [numbers] at fit
    have lists : ListsNumbers sid.value 1 authority (others.filterMap (Text.parseUnsigned (2 ^ 64))) :=
      ⟨['1'], second, others, split, by decide, readAuthority,
        forall₂_parseUnsigned numericOthers fit⟩
    exact ⟨_, sidStrToBytes_eq_ok_iff.mpr ⟨_, _, _, lists, rfl⟩⟩

/-! ## Texts and bytes -/

/-- The text of accepted bytes is encoded as the bytes that were read. -/
theorem sidStrToBytes_of_bytesToSidStr {bytes : List UInt8} {text : String}
    (decoded : bytesToSidStr bytes = .ok text) :
    sidStrToBytes text = .ok (bytes.take (8 + 4 * (byteAt bytes 1).getD 0)) := by
  rcases exists_of_bytesToSidStr decoded with ⟨sid, rest, rfl, rfl⟩
  have held : Holds (sid.encode ++ rest) 0 sid.encode := holds_append_left
  have count := byteAt_of_holds (BinarySid.holds_encode held).2.1
  rw [Nat.zero_add] at count
  rw [count, Option.getD_some, sid.toNat_count, ← sid.length_encode, List.take_left']
  · exact sidStrToBytes_text sid
  · rfl

/-- Encoded bytes have a text that is encoded in the same way. -/
theorem exists_text_of_sidStrToBytes {text : String} {bytes : List UInt8}
    (encoded : sidStrToBytes text = .ok bytes) (few : (sidSubAuthorities text).length < 256) :
    ∃ other, bytesToSidStr bytes = .ok other ∧ sidStrToBytes other = .ok bytes := by
  rcases sidStrToBytes_eq_ok_iff.mp encoded with ⟨revision, authority, subAuthorities, lists, rfl⟩
  rw [sidSubAuthorities, lists.sidNumbers] at few
  rcases exists_encode_eq revision authority lists.lt.2 few with ⟨sid, same⟩
  rw [← same]
  exact ⟨sid.text, bytesToSidStr_of_holds (holds_self sid.encode), sidStrToBytes_text sid⟩

/-- Texts are encoded in the same way exactly when they have the same numbers. -/
theorem sidStrToBytes_eq_iff {first second : String} {bytes otherBytes : List UInt8}
    (encoded : sidStrToBytes first = .ok bytes)
    (otherEncoded : sidStrToBytes second = .ok otherBytes)
    (fits : sidAuthority first < 2 ^ 48) (otherFits : sidAuthority second < 2 ^ 48) :
    bytes = otherBytes ↔ sidNumbers first = sidNumbers second := by
  rcases sidStrToBytes_eq_ok_iff.mp encoded with ⟨revision, authority, subAuthorities, lists, rfl⟩
  rcases sidStrToBytes_eq_ok_iff.mp otherEncoded with
    ⟨otherRevision, otherAuthority, others, otherLists, rfl⟩
  rw [sidAuthority, lists.sidNumbers] at fits
  rw [sidAuthority, otherLists.sidNumbers] at otherFits
  rw [lists.sidNumbers, otherLists.sidNumbers]
  constructor
  · intro same
    rcases bytesOfNumbers_inj lists.lt.1 otherLists.lt.1 fits otherFits lists.lt.2 otherLists.lt.2
      same with ⟨rfl, rfl, rfl⟩
    rfl
  · intro same
    cases same
    rfl

/-- Bytes and texts of SIDs correspond as far as the numbers of a text fit their
fields. -/
theorem sid_correspondence :
    (∀ bytes text, bytesToSidStr bytes = .ok text →
      sidStrToBytes text = .ok (bytes.take (8 + 4 * (byteAt bytes 1).getD 0))) ∧
    (∀ text bytes, sidStrToBytes text = .ok bytes → (sidSubAuthorities text).length < 256 →
      ∃ other, bytesToSidStr bytes = .ok other ∧ sidStrToBytes other = .ok bytes) ∧
    (∀ first second bytes otherBytes, sidStrToBytes first = .ok bytes →
      sidStrToBytes second = .ok otherBytes → sidAuthority first < 2 ^ 48 →
        sidAuthority second < 2 ^ 48 →
          (bytes = otherBytes ↔ sidNumbers first = sidNumbers second)) ∧
    (∀ input sid, Sid.tryNew input = .ok sid →
      ((∃ bytes, sidStrToBytes sid.value = .ok bytes) ↔
        ∀ number ∈ sidSubAuthorities sid.value, number < 2 ^ 32)) :=
  ⟨fun _ _ decoded => sidStrToBytes_of_bytesToSidStr decoded,
    fun _ _ encoded few => exists_text_of_sidStrToBytes encoded few,
    fun _ _ _ _ encoded otherEncoded fits otherFits =>
      sidStrToBytes_eq_iff encoded otherEncoded fits otherFits,
    fun _ _ accepted => exists_sidStrToBytes_iff accepted⟩

/-- Two accepted texts have the same bytes, and an accepted text has none. -/
theorem redundant_digits_and_wide_numbers :
    Sid.tryNew "S-1-5-18" = .ok ⟨"S-1-5-18"⟩ ∧ Sid.tryNew "S-1-5-018" = .ok ⟨"S-1-5-018"⟩ ∧
      sidStrToBytes "S-1-5-18" = .ok [1, 1, 0, 0, 0, 0, 0, 5, 18, 0, 0, 0] ∧
      sidStrToBytes "S-1-5-018" = .ok [1, 1, 0, 0, 0, 0, 0, 5, 18, 0, 0, 0] ∧
      Sid.tryNew "S-1-5-4294967296" = .ok ⟨"S-1-5-4294967296"⟩ ∧
      sidStrToBytes "S-1-5-4294967296" =
        .error (.sidResolution "Invalid sub-authority in SID: S-1-5-4294967296") := by
  decide

end AdResolver
end Stars
