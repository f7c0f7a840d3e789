import Stars.PermissionEngine.Rights
import Stars.AccessControl.BitParts
import Stars.Collections.KeyedList

namespace Stars
namespace PermissionEngine

open AccessControl

/-!
# What a label says

A label is built from texts only.  `extraRights` restates the rights it lists
beyond the base level together with the bits they stand for, so that the bits of a
label can be added up.  Reading the words of a label back gives the mask, for the
short and for the long form.
-/

/-- One right of a label beyond its base level. -/
inductive ExtraRight where
  | writeSet
  | single (named : NamedBit)
  | otherBits (bits : AccessMask)

namespace ExtraRight

/-- The bits the right stands for. -/
def mask : ExtraRight → AccessMask
  | writeSet => maskWrite
  | single named => named.bit
  | otherBits bits => bits

/-- The name and the abbreviation of the right. -/
def wording : ExtraRight → String × String
  | writeSet => ("Write", "W")
  | single named => (named.name, named.short)
  | otherBits bits =>
      let other := hexDigits bits
      ("other bits", s!"0x{other}")

end ExtraRight

/-- The base level of a mask as a mask. -/
def baseMask (raw : AccessMask) : AccessMask := ((baseLevel raw).map StandardLevel.mask).getD 0#32

/-- A complete Write set stands on top of Read & Execute. -/
def WriteOnReadExecute (raw : AccessMask) : Prop :=
  baseLevel raw = some .readExecute ∧ contains raw maskWrite = true

instance (raw : AccessMask) : Decidable (WriteOnReadExecute raw) :=
  inferInstanceAs (Decidable (_ ∧ _))

/-- The bits that are named one by one. -/
def singleBits (raw : AccessMask) : AccessMask :=
  if WriteOnReadExecute raw then raw &&& ~~~baseMask raw &&& ~~~maskWrite
  else raw &&& ~~~baseMask raw

/-- The listed bits of a mask one by one, and what is left without a name. -/
def singleRights (bits : AccessMask) : List ExtraRight :=
  let taken := takeBits NamedBit.bit namedBits bits
  taken.1.map .single ++ (if taken.2 ≠ 0#32 then [.otherBits taken.2] else [])

/-- The rights a label lists beyond the base level, with their bits. -/
def extraRights (raw : AccessMask) : List ExtraRight :=
  (if WriteOnReadExecute raw then [.writeSet] else []) ++ singleRights (singleBits raw)

theorem foldl_nameBit (named : List NamedBit) (start : List (String × String))
    (mask : AccessMask) :
    named.foldl nameBit (start, mask) =
      (start ++ (takeBits NamedBit.bit named mask).1.map (fun named => (named.name, named.short)),
        (takeBits NamedBit.bit named mask).2) := by
  induction named generalizing start mask with
  | nil => simp [takeBits]
  | cons first rest ih =>
      rw [List.foldl_cons, nameBit, takeBits]
      split
      · rw [ih]
        simp
      · exact ih start mask

/-- A label lists the extra rights in their wording. -/
theorem decompose_eq (raw : AccessMask) :
    decompose raw = (baseLevel raw, (extraRights raw).map ExtraRight.wording) := by
  have start : nameWriteSet raw (baseLevel raw) (raw &&& ~~~baseMask raw) =
      (if WriteOnReadExecute raw then [("Write", "W")] else [], singleBits raw) := by
    unfold nameWriteSet singleBits
    by_cases both : WriteOnReadExecute raw
    · rw [if_pos both, if_pos both]
      exact if_pos both
    · rw [if_neg both, if_neg both]
      exact if_neg both
  have named := foldl_nameBit namedBits
    (if WriteOnReadExecute raw then [("Write", "W")] else []) (singleBits raw)
  rw [← start] at named
  unfold baseMask at named
  unfold decompose extraRights singleRights
  simp only [named]
  rw [List.map_append, List.map_append, List.map_map, List.append_assoc]
  congr 2
  · split <;> rfl
  · congr 1
    split <;> rfl

theorem baseMask_within (raw : AccessMask) : Within (baseMask raw) raw := by
  unfold baseMask
  cases found : baseLevel raw with
  | none => exact Within.zero raw
  | some level =>
      have complete : contains raw level.mask = true := by
        unfold baseLevel at found
        exact List.find?_some (p := fun (level : StandardLevel) => contains raw level.mask) found
      exact (BitVec.and_comm _ _).trans (of_decide_eq_true complete)

/-- Every named bit is one bit. -/
theorem single_namedBits : ∀ named ∈ namedBits, ∃ place, named.bit = BitVec.twoPow 32 place := by
  have places : namedBits.all (fun named =>
      (List.range 32).any (fun place => named.bit = BitVec.twoPow 32 place)) = true := by decide
  intro named listed
  have found := List.all_eq_true.mp places named listed
  rcases List.any_eq_true.mp found with ⟨place, _, same⟩
  exact ⟨place, of_decide_eq_true same⟩

/-- The rights listed one by one split the bits they are listed for. -/
theorem splits_singleRights (bits : AccessMask) :
    Splits bits ((singleRights bits).map ExtraRight.mask) := by
  have whole := splits_takeBits NamedBit.bit single_namedBits bits
  have listed : ((takeBits NamedBit.bit namedBits bits).1.map ExtraRight.single).map
      ExtraRight.mask = (takeBits NamedBit.bit namedBits bits).1.map NamedBit.bit := by
    rw [List.map_map]
    rfl
  unfold singleRights
  rw [List.map_append, listed]
  split
  · exact whole
  · rename_i nothing
    -- An empty rest is no part of its own.
    rw [not_not.mp nothing] at whole
    rw [List.map_nil, List.append_nil]
    have all := whole.whole
    rw [joined_append, joined_cons, joined_nil, BitVec.or_zero, BitVec.or_zero] at all
    exact ⟨all, (List.pairwise_append.mp whole.apart).1⟩

/-- The bits Write shares with Read & Execute. -/
theorem writeSet_shared : maskReadExecute &&& maskWrite = fileReadControl ||| fileSynchronize := by
  decide

/-- The base level and the extra rights are the whole mask. -/
theorem joined_extraRights (raw : AccessMask) :
    baseMask raw ||| joined ((extraRights raw).map ExtraRight.mask) = raw := by
  have rest := (splits_singleRights (singleBits raw)).whole
  have whole := or_without (baseMask_within raw)
  unfold extraRights
  rw [List.map_append, joined_append, rest]
  unfold singleBits
  by_cases both : WriteOnReadExecute raw
  · rw [if_pos both, if_pos both]
    have complete : Within maskWrite raw :=
      (BitVec.and_comm _ _).trans (of_decide_eq_true both.2)
    change baseMask raw ||| (maskWrite ||| 0#32 ||| (raw &&& ~~~baseMask raw &&& ~~~maskWrite)) = raw
    apply BitVec.eq_of_getLsbD_eq
    intro bit bounded
    have base := within_iff.mp (baseMask_within raw) bit
    have write := within_iff.mp complete bit
    simp only [BitVec.getLsbD_or, BitVec.getLsbD_and, BitVec.getLsbD_not, BitVec.getLsbD_zero,
      bounded, decide_true, Bool.true_and]
    grind
  · rw [if_neg both, if_neg both]
    change baseMask raw ||| (0#32 ||| (raw &&& ~~~baseMask raw)) = raw
    rw [BitVec.zero_or, whole]

theorem apart_extraRights (raw : AccessMask) :
    ((extraRights raw).map ExtraRight.mask).Pairwise Apart := by
  have splits := splits_singleRights (singleBits raw)
  unfold extraRights
  by_cases both : WriteOnReadExecute raw
  · rw [if_pos both]
    refine List.pairwise_cons.mpr ⟨?_, splits.apart⟩
    intro part listed
    have included := splits.within listed
    unfold singleBits at included
    rw [if_pos both] at included
    exact (Apart.of_within included (apart_without maskWrite _).symm).symm
  · rw [if_neg both]
    exact splits.apart

/-- Only the Write set shares bits with the base level. -/
theorem base_extraRights (raw : AccessMask) :
    ∀ extra ∈ extraRights raw, baseMask raw &&& extra.mask =
      match extra with
      | .writeSet => fileReadControl ||| fileSynchronize
      | _ => 0#32 := by
  have singles : ∀ extra ∈ singleRights (singleBits raw), Apart (baseMask raw) extra.mask := by
    intro extra listed
    have included := (splits_singleRights (singleBits raw)).within (List.mem_map_of_mem listed)
    have beyond : Within (singleBits raw) (raw &&& ~~~baseMask raw) := by
      unfold singleBits
      split
      · exact Within.and_left _ _
      · exact Within.refl _
    exact (Apart.of_within (included.trans beyond) (apart_without (baseMask raw) raw).symm).symm
  intro extra listed
  unfold extraRights at listed
  rcases List.mem_append.mp listed with write | single
  · by_cases both : WriteOnReadExecute raw
    · rw [if_pos both, List.mem_singleton] at write
      subst write
      have base : baseMask raw = maskReadExecute := by
        unfold baseMask
        rw [both.1]
        rfl
      exact base ▸ writeSet_shared
    · rw [if_neg both] at write
      cases write
  · have apart := singles extra single
    cases extra with
    | writeSet =>
        simp only [singleRights] at single
        split at single <;> simp at single
    | single named => exact apart
    | otherBits bits => exact apart

/-- The value of a hexadecimal digit. -/
def hexValue (digit : Char) : Nat :=
  if digit.toNat < 'A'.toNat then digit.toNat - '0'.toNat else digit.toNat - 'A'.toNat + 10

/-- The value of hexadecimal digits. -/
def parseHex (digits : List Char) : Nat :=
  digits.foldl (fun value digit => value * 16 + hexValue digit) 0

/-- How a form of label is taken apart: the letters between its words, the bits
of each word, and the mark before a number. -/
structure Wording where
  separators : List Char
  table : List (String × AccessMask)
  hexMark : String

namespace Wording

/-- Blanks inside a word carry no meaning. -/
def letters (text : String) : List Char := text.toList.filter (fun letter => letter ≠ ' ')

/-- The bits of one word; a word that names no right has none. -/
def wordMask (wording : Wording) (word : List Char) : AccessMask :=
  if (letters wording.hexMark).isPrefixOf word then
    BitVec.ofNat 32 (parseHex (word.drop (letters wording.hexMark).length))
  else (((wording.table.map (fun entry => (letters entry.1, entry.2))).lookup word).getD 0#32)

/-- The letters between words. -/
def separates (wording : Wording) (letter : Char) : Bool := letter ∈ wording.separators

/-- The bits of a label. -/
def read (wording : Wording) (text : String) : AccessMask :=
  joined (((letters text).splitOnP wording.separates).map wording.wordMask)

/-- Words on both sides of a separator are read on their own. -/
theorem read_append (wording : Wording) {separator : String} {mark : Char}
    (marked : letters separator = [mark]) (between : wording.separates mark = true)
    (left right : String) :
    wording.read (left ++ separator ++ right) = wording.read left ||| wording.read right := by
  have letters_eq : letters (left ++ separator ++ right) =
      letters left ++ mark :: letters right := by
    unfold letters at marked ⊢
    rw [String.toList_append, String.toList_append, List.filter_append, List.filter_append, marked,
      List.append_assoc]
    rfl
  unfold read
  rw [letters_eq, List.splitOnP_append_cons _ _ between, List.map_append,
    joined_append]

/-- A separator at the begin or the end of a text has no bits. -/
theorem read_before (wording : Wording) {separator : String} {mark : Char}
    (marked : letters separator = [mark]) (between : wording.separates mark = true)
    (empty : wording.read "" = 0#32) (text : String) :
    wording.read (separator ++ text) = wording.read text := by
  have parts := wording.read_append marked between "" text
  rwa [String.empty_append, empty, BitVec.zero_or] at parts

theorem read_after (wording : Wording) {separator : String} {mark : Char}
    (marked : letters separator = [mark]) (between : wording.separates mark = true)
    (empty : wording.read "" = 0#32) (text : String) :
    wording.read (text ++ separator) = wording.read text := by
  have parts := wording.read_append marked between text ""
  rwa [String.append_empty, empty, BitVec.or_zero] at parts

theorem read_join (wording : Wording) {separator : String} {mark : Char}
    (marked : letters separator = [mark]) (between : wording.separates mark = true)
    (empty : wording.read "" = 0#32) (words : List String) :
    wording.read (Text.join separator words) = joined (words.map wording.read) := by
  induction words with
  | nil => exact empty
  | cons word rest ih =>
      cases rest with
      | nil => exact BitVec.or_zero.symm
      | cons next rest =>
          rw [Text.join, read_append wording marked between, ih]
          · rfl
          · exact List.cons_ne_nil _ _

/-- No separator and no mark of a number. -/
def plain (wording : Wording) (word : List Char) : Bool :=
  word.all (fun letter => !wording.separates letter) && !(letters wording.hexMark).isPrefixOf word

/-- The words of the table and some others are told apart by their letters, and each is
plain. -/
def Clear (wording : Wording) (others : List String) : Prop :=
  let words := others.map letters ++ wording.table.map (fun entry => letters entry.1)
  words.Nodup ∧ words.all wording.plain = true

instance (wording : Wording) (others : List String) : Decidable (wording.Clear others) :=
  inferInstanceAs (Decidable (_ ∧ _))

theorem read_plain (wording : Wording) {text : String}
    (plain : wording.plain (letters text) = true) :
    wording.read text =
      ((wording.table.map (fun entry => (letters entry.1, entry.2))).lookup
        (letters text)).getD 0#32 := by
  rcases Bool.and_eq_true_iff.mp plain with ⟨single, unmarked⟩
  have whole : ∀ letter ∈ letters text, wording.separates letter = false := by
    intro letter listed
    exact Bool.not_eq_true' _ ▸ List.all_eq_true.mp single letter listed
  unfold read
  rw [List.splitOnP_eq_singleton whole, List.map_singleton, joined_cons, joined_nil,
    BitVec.or_zero, wordMask, if_neg (Bool.not_eq_true' _ ▸ unmarked |> Bool.eq_false_iff.mp)]

variable {wording : Wording} {others : List String} {text : String}

theorem read_entry (clear : wording.Clear others) {bits : AccessMask}
    (listed : (text, bits) ∈ wording.table) : wording.read text = bits := by
  have known : letters text ∈ wording.table.map (fun entry => letters entry.1) :=
    List.mem_map_of_mem listed
  have plain := List.all_eq_true.mp clear.2 _ (List.mem_append_right _ known)
  have distinct : ((wording.table.map (fun entry => (letters entry.1, entry.2))).map
      Prod.fst).Nodup := by
    rw [List.map_map]
    exact (List.nodup_append.mp clear.1).2.1
  have member : (letters text, bits) ∈
      wording.table.map (fun entry => (letters entry.1, entry.2)) := List.mem_map_of_mem listed
  rw [wording.read_plain plain, (Collections.lookup_eq_some_iff_mem distinct).mpr member,
    Option.getD_some]

theorem read_other (clear : wording.Clear others) (listed : text ∈ others) :
    wording.read text = 0#32 := by
  have known : letters text ∈ others.map letters := List.mem_map_of_mem listed
  have plain := List.all_eq_true.mp clear.2 _ (List.mem_append_left _ known)
  have apart := (List.nodup_append.mp clear.1).2.2 _ known
  rw [wording.read_plain plain]
  cases found : (wording.table.map (fun entry => (letters entry.1, entry.2))).lookup
      (letters text) with
  | none => rfl
  | some bits =>
      rcases List.mem_map.mp (Collections.mem_of_lookup found) with ⟨entry, member, same⟩
      have other : letters entry.1 ∈ wording.table.map (fun entry => letters entry.1) :=
        List.mem_map_of_mem member
      exact absurd (congrArg Prod.fst same).symm (apart _ other)

end Wording

theorem hexValue_hexDigit {value : Nat} (small : value < 16) :
    hexValue (Text.hexDigit value) = value := by
  revert small
  revert value
  decide

/-- Leading zeros do not count. -/
theorem parseHex_dropWhile (digits : List Char) :
    parseHex (digits.dropWhile (fun digit => digit == '0')) = parseHex digits := by
  induction digits with
  | nil => rfl
  | cons digit rest ih =>
      rw [List.dropWhile_cons]
      split
      · rename_i zero
        rw [ih, eq_of_beq zero]
        rfl
      · rfl

/-- The first digits of a number are the number without its last digits. -/
theorem parseHex_digits (value width : Nat) (small : value < 16 ^ width) {count : Nat}
    (bounded : count ≤ width) :
    parseHex ((List.range count).map
      (fun place => Text.hexDigit (value / 16 ^ (width - 1 - place) % 16))) =
        value / 16 ^ (width - count) := by
  induction count with
  | zero => exact (Nat.div_eq_of_lt small).symm
  | succ count ih =>
      have before := ih (Nat.le_of_succ_le bounded)
      have exponent : width - count = (width - (count + 1)) + 1 := by omega
      have place : width - 1 - count = width - (count + 1) := by omega
      have digit : value / 16 ^ (width - (count + 1)) % 16 < 16 := Nat.mod_lt _ (by decide)
      unfold parseHex at before ⊢
      rw [List.range_succ, List.map_append, List.foldl_append, before, List.map_singleton,
        List.foldl_cons, List.foldl_nil, place, hexValue_hexDigit digit, exponent, Nat.pow_succ,
        ← Nat.div_div_eq_div_mul]
      exact Nat.div_add_mod' _ _

theorem parseHex_hexDigits (bits : AccessMask) :
    BitVec.ofNat 32 (parseHex (hexDigits bits).toList) = bits := by
  have value : parseHex (Text.hex8 bits).toList = bits.toNat := by
    have digits := parseHex_digits bits.toNat 8 bits.isLt (Nat.le_refl 8)
    rw [Nat.sub_self, Nat.pow_zero, Nat.div_one] at digits
    rw [Text.hex8, String.toList_ofList]
    exact digits
  rw [hexDigits, String.toList_ofList, parseHex_dropWhile, value, BitVec.ofNat_toNat,
    BitVec.setWidth_eq]

/-- The letters of a number. -/
theorem mem_hexDigits {bits : AccessMask} {letter : Char}
    (listed : letter ∈ (hexDigits bits).toList) : ∃ value < 16, letter = Text.hexDigit value := by
  rw [hexDigits, String.toList_ofList] at listed
  have part := (List.dropWhile_suffix _).subset listed
  rw [Text.hex8, String.toList_ofList] at part
  rcases List.mem_map.mp part with ⟨place, _, same⟩
  exact ⟨_, Nat.mod_lt _ (by decide), same.symm⟩

/-! ## The two forms -/

/-- The words of the short form. -/
def shortWording : Wording where
  separators := ['+', ',', '(', ')']
  table := StandardLevel.all.map (fun level => (level.short, level.mask)) ++
    namedBits.map (fun named => (named.short, named.bit))
  hexMark := "0x"

/-- The words of the long form. -/
def longWording : Wording where
  separators := ['+', ',', ':']
  table := StandardLevel.all.map (fun level => (level.name, level.mask)) ++
    namedBits.map (fun named => (named.name, named.bit))
  hexMark := "other bits 0x"

/-- A number is one word of a form whose separators are no digits. -/
theorem read_number {wording : Wording}
    (mark : (Wording.letters wording.hexMark).any wording.separates = false)
    (digits : (List.range 16).all (fun value => !wording.separates (Text.hexDigit value)) = true)
    (bits : AccessMask) : wording.read (wording.hexMark ++ hexDigits bits) = bits := by
  have letters_eq : Wording.letters (wording.hexMark ++ hexDigits bits) =
      Wording.letters wording.hexMark ++ (hexDigits bits).toList := by
    have shown : (hexDigits bits).toList.filter (fun letter => letter ≠ ' ') =
        (hexDigits bits).toList := by
      rw [List.filter_eq_self]
      intro letter listed
      rcases mem_hexDigits listed with ⟨value, small, same⟩
      have plain : (List.range 16).all (fun value => Text.hexDigit value ≠ ' ') = true := by decide
      rw [same]
      exact List.all_eq_true.mp plain value (List.mem_range.mpr small)
    unfold Wording.letters
    rw [String.toList_append, List.filter_append, shown]
  have whole : ∀ letter ∈ Wording.letters wording.hexMark ++ (hexDigits bits).toList,
      wording.separates letter = false := by
    intro letter listed
    rcases List.mem_append.mp listed with first | second
    · exact Bool.eq_false_iff.mpr (List.any_eq_false.mp mark letter first)
    · rcases mem_hexDigits second with ⟨value, small, same⟩
      rw [same]
      have free := List.all_eq_true.mp digits value (List.mem_range.mpr small)
      exact Bool.not_eq_true' _ ▸ free
  unfold Wording.read Wording.wordMask
  rw [letters_eq, List.splitOnP_eq_singleton whole, List.map_singleton, joined_cons, joined_nil,
    BitVec.or_zero, if_pos (List.isPrefixOf_iff_prefix.mpr (List.prefix_append _ _)),
    List.drop_left, parseHex_hexDigits]

theorem short_clear : shortWording.Clear ["", "none"] := by
  decide +kernel

theorem long_clear : longWording.Clear ["", "No access", "Special", "other bits"] := by
  decide +kernel

theorem mem_all (level : StandardLevel) : level ∈ StandardLevel.all := by
  cases level <;> decide

theorem short_level (level : StandardLevel) : shortWording.read level.short = level.mask :=
  Wording.read_entry short_clear (List.mem_append_left _ (List.mem_map_of_mem (mem_all level)))

theorem long_level (level : StandardLevel) : longWording.read level.name = level.mask :=
  Wording.read_entry long_clear (List.mem_append_left _ (List.mem_map_of_mem (mem_all level)))

theorem short_named {named : NamedBit} (listed : named ∈ namedBits) :
    shortWording.read named.short = named.bit :=
  Wording.read_entry short_clear (List.mem_append_right _ (List.mem_map_of_mem listed))

theorem long_named {named : NamedBit} (listed : named ∈ namedBits) :
    longWording.read named.name = named.bit :=
  Wording.read_entry long_clear (List.mem_append_right _ (List.mem_map_of_mem listed))

/-- No listed bit is named like the rest without a name. -/
theorem ne_other_bits {named : NamedBit} (listed : named ∈ namedBits) :
    named.name ≠ "other bits" := by
  intro same
  have entry : (named.name, named.bit) ∈ longWording.table :=
    List.mem_append_right _ (List.mem_map_of_mem listed)
  have known : Wording.letters named.name ∈
      longWording.table.map (fun entry => Wording.letters entry.1) := List.mem_map_of_mem entry
  have other : Wording.letters "other bits" ∈
      ["", "No access", "Special", "other bits"].map Wording.letters :=
    List.mem_map_of_mem (by decide)
  exact (List.nodup_append.mp long_clear.1).2.2 _ other _ known (by rw [same])

/-! ## Both forms are read back -/

/-- An extra right of a mask is a listed bit, the Write set or a number. -/
theorem named_of_extraRights {raw : AccessMask} {named : NamedBit}
    (listed : ExtraRight.single named ∈ extraRights raw) : named ∈ namedBits := by
  unfold extraRights at listed
  rcases List.mem_append.mp listed with write | single
  · split at write <;> simp at write
  · simp only [singleRights] at single
    rcases List.mem_append.mp single with taken | other
    · rcases List.mem_map.mp taken with ⟨bit, found, same⟩
      cases same
      exact mem_of_takeBits NamedBit.bit found
    · split at other <;> simp at other

theorem short_extra {raw : AccessMask} : ∀ extra ∈ extraRights raw,
    shortWording.read extra.wording.2 = extra.mask := by
  intro extra listed
  cases extra with
  | writeSet => exact short_level .write
  | single named => exact short_named (named_of_extraRights listed)
  | otherBits bits =>
      have number : shortWording.read (shortWording.hexMark ++ hexDigits bits) = bits :=
        read_number (by decide) (by decide) bits
      simp only [ExtraRight.wording, toString]
      exact number

theorem long_extra {raw : AccessMask} : ∀ extra ∈ extraRights raw,
    longWording.read (extraName extra.wording) = extra.mask := by
  intro extra listed
  cases extra with
  | writeSet => exact long_level .write
  | single named =>
      have known := named_of_extraRights listed
      change longWording.read (if named.name = "other bits" then _ else named.name) = named.bit
      rw [if_neg (ne_other_bits known)]
      exact long_named known
  | otherBits bits =>
      have number : longWording.read (longWording.hexMark ++ hexDigits bits) = bits :=
        read_number (by decide) (by decide) bits
      have shown : extraName (ExtraRight.otherBits bits).wording =
          "other bits 0x" ++ hexDigits bits := by
        simp only [extraName, ExtraRight.wording, toString, if_true, ← String.append_assoc]
        rfl
      rw [shown]
      exact number

/-- The words of an extra list are read as the bits of the extra rights. -/
theorem read_extras {wording : Wording} {separator : String} {mark : Char}
    (marked : Wording.letters separator = [mark]) (between : wording.separates mark = true)
    (empty : wording.read "" = 0#32) {raw : AccessMask} {form : String × String → String}
    (each : ∀ extra ∈ extraRights raw, wording.read (form extra.wording) = extra.mask) :
    wording.read (Text.join separator (((extraRights raw).map ExtraRight.wording).map form)) =
      joined ((extraRights raw).map ExtraRight.mask) := by
  rw [Wording.read_join wording marked between empty, List.map_map, List.map_map]
  exact congrArg joined (List.map_congr_left each)

theorem read_label (raw : AccessMask) : shortWording.read (label raw) = raw := by
  unfold label
  by_cases nothing : raw = 0#32
  · rw [if_pos nothing, nothing]
    exact Wording.read_other short_clear (by decide)
  · rw [if_neg nothing, decompose_eq]
    have empty : shortWording.read "" = 0#32 := Wording.read_other short_clear (by decide)
    have whole := joined_extraRights raw
    have extras : shortWording.read
        (Text.join "," (((extraRights raw).map ExtraRight.wording).map Prod.snd)) = _ :=
      read_extras (by decide) (by decide : shortWording.separates ',' = true) empty short_extra
    unfold baseMask at whole
    cases base : baseLevel raw with
    | none =>
        rw [base] at whole
        simp only [toString]
        rw [shortWording.read_after (by decide) (by decide : shortWording.separates ')' = true) empty,
          shortWording.read_before (by decide) (by decide : shortWording.separates '(' = true) empty,
          extras]
        exact (BitVec.zero_or).symm.trans whole
    | some level =>
        rw [base] at whole
        simp only [toString]
        split
        · rename_i alone
          rw [List.isEmpty_iff, List.map_eq_nil_iff] at alone
          rw [alone] at whole
          rw [short_level]
          exact (BitVec.or_zero).symm.trans whole
        · rw [shortWording.read_append (by decide)
            (by decide : shortWording.separates '+' = true), short_level, extras]
          exact whole

theorem read_displayName (raw : AccessMask) : longWording.read (displayName raw) = raw := by
  unfold displayName
  by_cases nothing : raw = 0#32
  · rw [if_pos nothing, nothing]
    exact Wording.read_other long_clear (by decide)
  · rw [if_neg nothing, decompose_eq]
    have empty : longWording.read "" = 0#32 := Wording.read_other long_clear (by decide)
    have whole := joined_extraRights raw
    have extras : longWording.read
        (Text.join ", " (((extraRights raw).map ExtraRight.wording).map extraName)) = _ :=
      read_extras (by decide) (by decide : longWording.separates ',' = true) empty long_extra
    unfold baseMask at whole
    cases base : baseLevel raw with
    | none =>
        rw [base] at whole
        simp only [toString]
        have special (names : String) :
            longWording.read ("Special: " ++ names) = longWording.read names := by
          have parts := longWording.read_append (by decide : Wording.letters ": " = [':'])
            (by decide : longWording.separates ':' = true) "Special" names
          have unnamed : longWording.read "Special" = 0#32 :=
            Wording.read_other long_clear (by decide)
          rw [unnamed, BitVec.zero_or] at parts
          exact parts
        rw [special, extras]
        exact (BitVec.zero_or).symm.trans whole
    | some level =>
        rw [base] at whole
        simp only [toString]
        split
        · rename_i alone
          rw [List.isEmpty_iff, List.map_eq_nil_iff] at alone
          rw [alone] at whole
          rw [long_level]
          exact (BitVec.or_zero).symm.trans whole
        · rw [longWording.read_append (by decide)
            (by decide : longWording.separates '+' = true), long_level, extras]
          exact whole

/-- A mask is its base level and its extra rights, no two of which share a bit;
only the Write set shares bits with the base, READ_CONTROL and SYNCHRONIZE.  No two
masks have the same label, and expanding generic rights is idempotent and goes
bit set by bit set. -/
theorem labels_lossless :
    (∀ raw : AccessMask,
      decompose raw = (baseLevel raw, (extraRights raw).map ExtraRight.wording) ∧
      baseMask raw ||| joined ((extraRights raw).map ExtraRight.mask) = raw ∧
      ((extraRights raw).map ExtraRight.mask).Pairwise Apart ∧
      ∀ extra ∈ extraRights raw, baseMask raw &&& extra.mask =
        match extra with
        | .writeSet => fileReadControl ||| fileSynchronize
        | _ => 0#32) ∧
    Function.Injective label ∧ Function.Injective displayName ∧
    (∀ mask, expandGenericRights (expandGenericRights mask) = expandGenericRights mask) ∧
    ∀ left right, expandGenericRights (left ||| right) =
      expandGenericRights left ||| expandGenericRights right := by
  refine ⟨?_, ?_, ?_, expandGenericRights_idem, expandGenericRights_or⟩
  · intro raw
    exact ⟨decompose_eq raw, joined_extraRights raw, apart_extraRights raw, base_extraRights raw⟩
  · exact Function.LeftInverse.injective read_label
  · exact Function.LeftInverse.injective read_displayName

/-- Read & Execute with a complete Write set: the extra right Write repeats two
bits of the base. -/
theorem writeSet_repeats_base :
    decompose 0x001201bf#32 = (some .readExecute, [("Write", "W")]) ∧
      StandardLevel.readExecute.mask &&& StandardLevel.write.mask = 0x00120000#32 := by
  decide +kernel

end PermissionEngine
end Stars
