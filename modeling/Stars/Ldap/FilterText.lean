import Stars.Text.Pieces

namespace Stars
namespace Ldap

/-!
# Search filters as texts

The string form of search filters of RFC 4515: filters in parentheses, attribute
descriptions, and values in which `*`, parentheses, the backslash and NUL stand as
escapes.  An item is read at its first `=`, since an attribute description holds
none.  The grammar of nested filters is a relation; a text has at most one filter,
and a filter inside a longer text ends where its own parenthesis closes.
-/

/-- The octets of a value. -/
abbrev Octets := List UInt8

/-- The value of a hexadecimal digit. -/
def hexNibble (digit : Char) : Option Nat :=
  if '0' ≤ digit ∧ digit ≤ '9' then some (digit.toNat - '0'.toNat)
  else if 'a' ≤ digit ∧ digit ≤ 'f' then some (digit.toNat - 'a'.toNat + 10)
  else if 'A' ≤ digit ∧ digit ≤ 'F' then some (digit.toNat - 'A'.toNat + 10)
  else none

/-- The letters that stand in a value only as escapes. -/
def isSpecial (letter : Char) : Bool := letter ∈ ['*', '(', ')', '\\', '\x00']

/-- The octets a value stands for: a letter for its encoding, an escape for one
octet. -/
def decodeValue : List Char → Option Octets
  | [] => some []
  | '\\' :: high :: low :: rest => do
      let high ← hexNibble high
      let low ← hexNibble low
      let octets ← decodeValue rest
      return UInt8.ofNat (high * 16 + low) :: octets
  | letter :: rest =>
      if isSpecial letter then none
      else (decodeValue rest).map (fun octets => String.utf8EncodeChar letter ++ octets)

theorem decodeValue_cons {letter : Char} (plain : isSpecial letter = false) (rest : List Char) :
    decodeValue (letter :: rest) =
      (decodeValue rest).map (fun octets => String.utf8EncodeChar letter ++ octets) := by
  rw [decodeValue, if_neg (by rw [plain]; decide)]
  rintro high low others rfl
  exact absurd plain (by decide)

/-- A value holds no parenthesis and no asterisk. -/
theorem not_mem_of_decodeValue {text : List Char} {octets : Octets}
    (decoded : decodeValue text = some octets) {letter : Char}
    (outside : letter ∈ ['*', '(', ')']) : letter ∉ text := by
  have undigit : hexNibble letter = none := by
    simp only [List.mem_cons, List.not_mem_nil, or_false] at outside
    rcases outside with rfl | rfl | rfl <;> decide
  have special : isSpecial letter = true := by
    simp only [List.mem_cons, List.not_mem_nil, or_false] at outside
    rcases outside with rfl | rfl | rfl <;> decide
  have unslashed : letter ≠ '\\' := by
    rintro rfl
    revert outside
    decide
  induction text using decodeValue.induct generalizing octets with
  | case1 => exact List.not_mem_nil
  | case2 high low rest ih =>
      simp only [decodeValue, Option.bind_eq_bind, Option.bind_eq_some_iff] at decoded
      rcases decoded with ⟨first, highDigit, second, lowDigit, others, later, _⟩
      intro listed
      rcases List.mem_cons.mp listed with same | listed
      · exact unslashed same
      · rcases List.mem_cons.mp listed with same | listed
        · rw [← same, undigit] at highDigit
          cases highDigit
        · rcases List.mem_cons.mp listed with same | listed
          · rw [← same, undigit] at lowDigit
            cases lowDigit
          · exact ih later listed
  | case3 first rest unescaped bad =>
      rw [decodeValue, if_pos bad] at decoded
      · cases decoded
      · exact unescaped
  | case4 first rest _ good ih =>
      rw [decodeValue_cons (Bool.eq_false_iff.mpr good)] at decoded
      rcases Option.map_eq_some_iff.mp decoded with ⟨others, later, _⟩
      intro listed
      rcases List.mem_cons.mp listed with same | listed
      · rw [← same] at good
        exact good special
      · exact ih later listed

def isKeyLetter (letter : Char) : Bool := letter.isAlphanum || letter == '-'

/-- A short name of an attribute or a matching rule. -/
def isDescriptor : List Char → Bool
  | [] => false
  | first :: rest => first.isAlpha && rest.all isKeyLetter

/-- A number of an object identifier: digits without a leading zero. -/
def isNumber (digits : List Char) : Bool :=
  !digits.isEmpty && digits.all Char.isDigit && (digits.length == 1 || digits.head? != some '0')

def isNumericOid (text : List Char) : Bool :=
  2 ≤ (Text.split '.' text).length && (Text.split '.' text).all isNumber

def isOid (text : List Char) : Bool := isDescriptor text || isNumericOid text

/-- An attribute type with its options. -/
def isAttribute (text : List Char) : Bool :=
  match Text.split ';' text with
  | [] => false
  | type :: options =>
      isOid type && options.all (fun option => !option.isEmpty && option.all isKeyLetter)

/-- The letters of attribute descriptions. -/
def isAttributeLetter (letter : Char) : Bool :=
  isKeyLetter letter || letter == '.' || letter == ';'

theorem isAttributeLetter_of_isOid {text : List Char} (oid : isOid text = true) {letter : Char}
    (listed : letter ∈ text) : isAttributeLetter letter = true := by
  unfold isAttributeLetter
  rcases Bool.or_eq_true _ _ ▸ oid with descriptor | numeric
  · cases text with
    | nil => cases listed
    | cons first rest =>
        rcases Bool.and_eq_true _ _ ▸ descriptor with ⟨begins, others⟩
        rcases List.mem_cons.mp listed with rfl | later
        · simp [isKeyLetter, Char.isAlphanum, begins]
        · simp [List.all_eq_true.mp others letter later]
  · by_cases dot : letter = '.'
    · simp [dot]
    · rcases Bool.and_eq_true _ _ ▸ numeric with ⟨_, numbers⟩
      rcases Text.exists_piece_of_ne listed dot with ⟨piece, part, inside⟩
      have number := List.all_eq_true.mp numbers piece part
      simp only [isNumber, Bool.and_eq_true] at number
      have digit := List.all_eq_true.mp number.1.2 letter inside
      simp [isKeyLetter, Char.isAlphanum, digit]

theorem isAttributeLetter_of_isAttribute {text : List Char} (name : isAttribute text = true)
    {letter : Char} (listed : letter ∈ text) : isAttributeLetter letter = true := by
  by_cases semicolon : letter = ';'
  · simp [isAttributeLetter, semicolon]
  · rcases Text.exists_piece_of_ne listed semicolon with ⟨piece, part, inside⟩
    unfold isAttribute at name
    split at name
    · cases name
    · rename_i type options pieces
      rcases Bool.and_eq_true _ _ ▸ name with ⟨oid, allowed⟩
      have member : piece ∈ type :: options := pieces ▸ part
      rcases List.mem_cons.mp member with rfl | option
      · exact isAttributeLetter_of_isOid oid inside
      · have keys := List.all_eq_true.mp allowed piece option
        rcases Bool.and_eq_true _ _ ▸ keys with ⟨_, letters⟩
        simp [isAttributeLetter, List.all_eq_true.mp letters letter inside]

inductive Comparison where
  | equal
  | approx
  | greaterOrEqual
  | lessOrEqual
deriving DecidableEq

/-- One assertion.  The pieces of a substring assertion are what stands before,
between and behind its asterisks. -/
inductive Item where
  | simple (name : List Char) (comparison : Comparison) (value : Octets)
  | present (name : List Char)
  | substring (name : List Char) (pieces : List Octets)
  | extensible (name : Option (List Char)) (dnAttributes : Bool) (rule : Option (List Char))
      (value : Octets)
deriving DecidableEq

def readSimple (name : List Char) (comparison : Comparison) (value : List Char) :
    Option Item :=
  if isAttribute name then (decodeValue value).map (.simple name comparison) else none

/-- An equality, a presence or a substring assertion, by the asterisks. -/
def readEquality (name value : List Char) : Option Item :=
  if isAttribute name then
    match Text.split '*' value with
    | [whole] => (decodeValue whole).map (.simple name .equal)
    | [[], []] => some (.present name)
    | pieces => (pieces.mapM decodeValue).map (.substring name)
  else none

/-- The mark `dn`, in any case. -/
def isDnMark (part : List Char) : Bool :=
  part ∈ [['d', 'n'], ['D', 'n'], ['d', 'N'], ['D', 'N']]

/-- What stands before `:=`: an attribute, the mark `dn` and a matching rule, of
which the attribute or the rule may be missing. -/
def readExtensibleHead : List (List Char) →
    Option (Option (List Char) × Bool × Option (List Char))
  | [name] => if isAttribute name then some (some name, false, none) else none
  | [[], rule] => if isOid rule then some (none, false, some rule) else none
  | [name, part] =>
      if !isAttribute name then none
      else if isDnMark part then some (some name, true, none)
      else if isOid part then some (some name, false, some part)
      else none
  | [[], mark, rule] => if isDnMark mark && isOid rule then some (none, true, some rule) else none
  | [name, mark, rule] =>
      if isAttribute name && isDnMark mark && isOid rule then
        some (some name, true, some rule)
      else none
  | _ => none

def readExtensible (head value : List Char) : Option Item := do
  let (name, dnAttributes, rule) ← readExtensibleHead (Text.split ':' head)
  let octets ← decodeValue value
  return .extensible name dnAttributes rule octets

/-- An item is read at its first `=`; the letter before it names the kind. -/
def readItem (text : List Char) : Option Item := do
  let (left, value) ← Text.splitOnce '=' text
  match left.getLast? with
  | some '~' => readSimple left.dropLast .approx value
  | some '>' => readSimple left.dropLast .greaterOrEqual value
  | some '<' => readSimple left.dropLast .lessOrEqual value
  | some ':' => readExtensible left.dropLast value
  | _ => readEquality left value

/-- The letters before the first `=` of an item. -/
def isLeftLetter (letter : Char) : Bool :=
  isAttributeLetter letter || letter ∈ ['~', '>', '<', ':']

/-- An item begins with a letter of an attribute or a colon, and no parenthesis
stands in it. -/
structure ItemLetters (text : List Char) : Prop where
  begins : ∃ first rest, text = first :: rest ∧ isLeftLetter first = true
  opening : '(' ∉ text
  closing : ')' ∉ text

theorem isLeftLetter_of_isAttribute {name : List Char} (named : isAttribute name = true) :
    ∀ letter ∈ name, isLeftLetter letter = true := by
  intro letter listed
  simp [isLeftLetter, isAttributeLetter_of_isAttribute named listed]

theorem isLeftLetter_of_isOid {rule : List Char} (oid : isOid rule = true) :
    ∀ letter ∈ rule, isLeftLetter letter = true := by
  intro letter listed
  simp [isLeftLetter, isAttributeLetter_of_isOid oid listed]

theorem isLeftLetter_of_isDnMark {part : List Char} (mark : isDnMark part = true) :
    ∀ letter ∈ part, isLeftLetter letter = true := by
  have spelled := of_decide_eq_true mark
  have all : [['d', 'n'], ['D', 'n'], ['d', 'N'], ['D', 'N']].all
      (fun part => part.all isLeftLetter) = true := by decide
  exact List.all_eq_true.mp (List.all_eq_true.mp all part spelled)

/-- Every part of a head before `:=` consists of letters that may stand there. -/
theorem isLeftLetter_of_readExtensibleHead {parts : List (List Char)}
    {head : Option (List Char) × Bool × Option (List Char)}
    (read : readExtensibleHead parts = some head) :
    ∀ part ∈ parts, ∀ letter ∈ part, isLeftLetter letter = true := by
  unfold readExtensibleHead at read
  intro part listed
  split at read
  · split at read
    · rename_i named
      rw [List.mem_singleton] at listed
      exact listed ▸ isLeftLetter_of_isAttribute named
    · cases read
  · split at read
    · rename_i oid
      rcases List.mem_cons.mp listed with rfl | second
      · intro letter inside
        cases inside
      · rw [List.mem_singleton] at second
        exact second ▸ isLeftLetter_of_isOid oid
    · cases read
  · split at read
    · cases read
    · rename_i named
      rw [Bool.not_eq_true, Bool.not_eq_false'] at named
      rcases List.mem_cons.mp listed with rfl | second
      · exact isLeftLetter_of_isAttribute named
      · rw [List.mem_singleton] at second
        subst second
        split at read
        · rename_i mark
          exact isLeftLetter_of_isDnMark mark
        · split at read
          · rename_i oid
            exact isLeftLetter_of_isOid oid
          · cases read
  · split at read
    · rename_i both
      rcases Bool.and_eq_true _ _ ▸ both with ⟨mark, oid⟩
      rcases List.mem_cons.mp listed with rfl | later
      · intro letter inside
        cases inside
      · rcases List.mem_cons.mp later with rfl | third
        · exact isLeftLetter_of_isDnMark mark
        · rw [List.mem_singleton] at third
          exact third ▸ isLeftLetter_of_isOid oid
    · cases read
  · split at read
    · rename_i all
      simp only [Bool.and_eq_true] at all
      rcases List.mem_cons.mp listed with rfl | later
      · exact isLeftLetter_of_isAttribute all.1.1
      · rcases List.mem_cons.mp later with rfl | third
        · exact isLeftLetter_of_isDnMark all.1.2
        · rw [List.mem_singleton] at third
          exact third ▸ isLeftLetter_of_isOid all.2
    · cases read
  · cases read

theorem decodes_of_mapM {pieces : List (List Char)} {octets : List Octets}
    (decoded : pieces.mapM decodeValue = some octets) :
    ∀ piece ∈ pieces, ∃ value, decodeValue piece = some value := by
  induction pieces generalizing octets with
  | nil =>
      intro piece listed
      cases listed
  | cons first rest ih =>
      rw [List.mapM_cons, Option.bind_eq_bind, Option.bind_eq_some_iff] at decoded
      rcases decoded with ⟨value, here, decoded⟩
      rw [Option.bind_eq_bind, Option.bind_eq_some_iff] at decoded
      rcases decoded with ⟨others, later, _⟩
      intro piece listed
      rcases List.mem_cons.mp listed with rfl | member
      · exact ⟨value, here⟩
      · exact ih later piece member

/-- A parenthesis stands neither before nor behind the `=`. -/
private theorem readEquality_letters {name value : List Char} {item : Item}
    (read : readEquality name value = some item) :
    isAttribute name = true ∧ '(' ∉ value ∧ ')' ∉ value := by
  unfold readEquality at read
  split at read
  · rename_i named
    have pieces : ∀ piece ∈ Text.split '*' value, ∃ octets, decodeValue piece = some octets := by
      split at read
      · rename_i whole single
        rcases Option.map_eq_some_iff.mp read with ⟨octets, decoded, _⟩
        intro piece listed
        rw [single, List.mem_singleton] at listed
        exact ⟨octets, listed ▸ decoded⟩
      · rename_i empty
        intro piece listed
        rw [empty] at listed
        simp only [List.mem_cons, List.not_mem_nil, or_false, or_self] at listed
        exact ⟨[], listed ▸ rfl⟩
      · rcases Option.map_eq_some_iff.mp read with ⟨octets, decoded, _⟩
        exact decodes_of_mapM decoded
    have outside : ∀ letter, letter ∈ ['(', ')'] → letter ∉ value := by
      intro letter parenthesis listed
      have plain : letter ≠ '*' := by
        simp only [List.mem_cons, List.not_mem_nil, or_false] at parenthesis
        rcases parenthesis with rfl | rfl <;> decide
      rcases Text.exists_piece_of_ne listed plain with ⟨piece, part, inside⟩
      rcases pieces piece part with ⟨octets, decoded⟩
      exact not_mem_of_decodeValue decoded (List.mem_cons_of_mem _ parenthesis) inside
    exact ⟨named, outside '(' (by decide), outside ')' (by decide)⟩
  · cases read

private theorem readSimple_letters {name value : List Char} {comparison : Comparison} {item : Item}
    (read : readSimple name comparison value = some item) :
    isAttribute name = true ∧ '(' ∉ value ∧ ')' ∉ value := by
  unfold readSimple at read
  split at read
  · rename_i named
    rcases Option.map_eq_some_iff.mp read with ⟨octets, decoded, _⟩
    exact ⟨named, not_mem_of_decodeValue decoded (by decide),
      not_mem_of_decodeValue decoded (by decide)⟩
  · cases read

private theorem readExtensible_letters {head value : List Char} {item : Item}
    (read : readExtensible head value = some item) :
    (∀ letter ∈ head, isLeftLetter letter = true) ∧ '(' ∉ value ∧ ')' ∉ value := by
  simp only [readExtensible, Option.bind_eq_bind, Option.bind_eq_some_iff] at read
  rcases read with ⟨parts, known, octets, decoded, _⟩
  refine ⟨?_, not_mem_of_decodeValue decoded (by decide), not_mem_of_decodeValue decoded (by decide)⟩
  intro letter listed
  by_cases colon : letter = ':'
  · rw [colon]
    decide
  · rcases Text.exists_piece_of_ne listed colon with ⟨piece, part, inside⟩
    exact isLeftLetter_of_readExtensibleHead known piece part letter inside

/-- What an item consists of when its kind is known. -/
private theorem itemLetters_of_parts {text left value : List Char}
    (whole : text = left ++ '=' :: value) (something : left ≠ [])
    (letters : ∀ letter ∈ left, isLeftLetter letter = true)
    (plain : '(' ∉ value ∧ ')' ∉ value) : ItemLetters text := by
  have outside : ∀ letter, isLeftLetter letter = false → letter ≠ '=' → letter ∉ value →
      letter ∉ text := by
    intro letter odd other absent listed
    rw [whole] at listed
    rcases List.mem_append.mp listed with before | after
    · rw [letters letter before] at odd
      cases odd
    · rcases List.mem_cons.mp after with same | behind
      · exact other same
      · exact absent behind
  refine ⟨?_, outside '(' (by decide) (by decide) plain.1, outside ')' (by decide) (by decide) plain.2⟩
  cases left with
  | nil => exact absurd rfl something
  | cons first rest =>
      rw [whole]
      exact ⟨first, rest ++ '=' :: value, rfl, letters first (.head _)⟩

theorem itemLetters_of_readItem {text : List Char} {item : Item}
    (read : readItem text = some item) : ItemLetters text := by
  simp only [readItem, Option.bind_eq_bind, Option.bind_eq_some_iff] at read
  rcases read with ⟨⟨left, value⟩, cut, read⟩
  have whole := (Text.splitOnce_eq_some cut).1
  -- A mark before the `=` belongs to the letters that may stand there.
  have marked : ∀ {mark : Char}, left.getLast? = some mark → isLeftLetter mark = true →
      (∀ letter ∈ left.dropLast, isLeftLetter letter = true) →
        left ≠ [] ∧ ∀ letter ∈ left, isLeftLetter letter = true := by
    intro mark last odd others
    have split : left = left.dropLast ++ [mark] := (List.dropLast_append_getLast? mark last).symm
    rw [split]
    refine ⟨List.append_ne_nil_of_right_ne_nil _ (List.cons_ne_nil _ _), ?_⟩
    intro letter listed
    rcases List.mem_append.mp listed with before | final
    · exact others letter before
    · rw [List.mem_singleton.mp final]
      exact odd
  dsimp only at read
  split at read
  · rename_i last
    rcases readSimple_letters read with ⟨named, plain⟩
    rcases marked last (by decide) (isLeftLetter_of_isAttribute named) with ⟨something, letters⟩
    exact itemLetters_of_parts whole something letters plain
  · rename_i last
    rcases readSimple_letters read with ⟨named, plain⟩
    rcases marked last (by decide) (isLeftLetter_of_isAttribute named) with ⟨something, letters⟩
    exact itemLetters_of_parts whole something letters plain
  · rename_i last
    rcases readSimple_letters read with ⟨named, plain⟩
    rcases marked last (by decide) (isLeftLetter_of_isAttribute named) with ⟨something, letters⟩
    exact itemLetters_of_parts whole something letters plain
  · rename_i last
    rcases readExtensible_letters read with ⟨parts, plain⟩
    rcases marked last (by decide) parts with ⟨something, letters⟩
    exact itemLetters_of_parts whole something letters plain
  · rcases readEquality_letters read with ⟨named, plain⟩
    refine itemLetters_of_parts whole ?_ (isLeftLetter_of_isAttribute named) plain
    rintro rfl
    exact absurd named (by decide)

/-! ## Nested filters -/

inductive Filter where
  | and (filters : List Filter)
  | or (filters : List Filter)
  | not (filter : Filter)
  | item (item : Item)

/-- The texts of a filter.  A conjunction and a disjunction have at least one
part. -/
inductive Derives : Filter → List Char → Prop where
  | and {filters : List Filter} {texts : List (List Char)}
      (parts : List.Forall₂ Derives filters texts) (nonempty : filters ≠ []) :
      Derives (.and filters) ('(' :: '&' :: (texts.flatten ++ [')']))
  | or {filters : List Filter} {texts : List (List Char)}
      (parts : List.Forall₂ Derives filters texts) (nonempty : filters ≠ []) :
      Derives (.or filters) ('(' :: '|' :: (texts.flatten ++ [')']))
  | not {filter : Filter} {text : List Char} (part : Derives filter text) :
      Derives (.not filter) ('(' :: '!' :: (text ++ [')']))
  | item {item : Item} {text : List Char} (read : readItem text = some item) :
      Derives (.item item) ('(' :: (text ++ [')']))

theorem Derives.begins {filter : Filter} {text : List Char} (derives : Derives filter text) :
    ∃ rest, text = '(' :: rest := by
  cases derives with
  | and parts nonempty => exact ⟨_, rfl⟩
  | or parts nonempty => exact ⟨_, rfl⟩
  | not part => exact ⟨_, rfl⟩
  | item read => exact ⟨_, rfl⟩

/-- A filter and its end are told by the text, whatever follows it. -/
def ToldApart (text : List Char) : Prop :=
  ∀ {first second : Filter} {other rest behind : List Char}, Derives first text →
    Derives second other → text ++ rest = other ++ behind → first = second ∧ rest = behind

/-- So are the parts of a list and the parenthesis behind them. -/
theorem toldApart_list {texts : List (List Char)} (each : ∀ text ∈ texts, ToldApart text)
    {filters others : List Filter} {otherTexts : List (List Char)} {rest behind : List Char}
    (parts : List.Forall₂ Derives filters texts)
    (otherParts : List.Forall₂ Derives others otherTexts)
    (same : texts.flatten ++ ')' :: rest = otherTexts.flatten ++ ')' :: behind) :
    filters = others ∧ rest = behind := by
  induction parts generalizing others otherTexts with
  | nil =>
      cases otherParts with
      | nil =>
          rw [List.flatten_nil, List.nil_append, List.nil_append, List.cons.injEq] at same
          exact ⟨rfl, same.2⟩
      | cons second laterOthers =>
          rcases second.begins with ⟨inner, begins⟩
          rw [begins] at same
          cases same
  | cons first later ih =>
      cases otherParts with
      | nil =>
          rcases first.begins with ⟨inner, begins⟩
          rw [begins] at same
          cases same
      | cons second laterOthers =>
          rw [List.flatten_cons, List.flatten_cons, List.append_assoc, List.append_assoc] at same
          rcases each _ (.head _) first second same with ⟨equal, remaining⟩
          rcases ih (fun text listed => each text (.tail _ listed)) laterOthers remaining with
            ⟨lists, ends⟩
          rw [equal, lists]
          exact ⟨rfl, ends⟩

/-- The letter behind the opening parenthesis tells the kind of filter. -/
private theorem item_begins {text rest tail : List Char} {item : Item} {letter : Char}
    (read : readItem text = some item) (same : text ++ rest = letter :: tail) :
    isLeftLetter letter = true := by
  rcases (itemLetters_of_readItem read).begins with ⟨first, others, whole, odd⟩
  rw [whole, List.cons_append, List.cons.injEq] at same
  rw [← same.1]
  exact odd

/-- Two texts without a letter that stands behind both of them. -/
private theorem eq_of_append_closing {first second rest behind : List Char}
    (one : ')' ∉ first) (other : ')' ∉ second)
    (same : first ++ ')' :: rest = second ++ ')' :: behind) : first = second ∧ rest = behind := by
  induction first generalizing second with
  | nil =>
      cases second with
      | nil => exact ⟨rfl, (List.cons.inj same).2⟩
      | cons letter later =>
          rw [List.nil_append, List.cons_append, List.cons.injEq] at same
          exact absurd (List.mem_cons.mpr (Or.inl same.1)) other
  | cons letter later ih =>
      cases second with
      | nil =>
          rw [List.nil_append, List.cons_append, List.cons.injEq] at same
          exact absurd (List.mem_cons.mpr (Or.inl same.1.symm)) one
      | cons letter₂ later₂ =>
          rw [List.cons_append, List.cons_append, List.cons.injEq] at same
          rcases ih (fun listed => one (.tail _ listed)) (fun listed => other (.tail _ listed))
            same.2 with ⟨equal, ends⟩
          exact ⟨by rw [same.1, equal], ends⟩

/-- A part of a list is no longer than the whole list. -/
private theorem length_le_flatten {texts : List (List Char)} {text : List Char}
    (listed : text ∈ texts) : text.length ≤ texts.flatten.length :=
  (List.sublist_flatten_of_mem listed).length_le

theorem toldApart (text : List Char) : ToldApart text := by
  -- Parts are shorter than the filter they belong to.
  induction length : text.length using Nat.strong_induction_on generalizing text with
  | _ bound ih =>
      subst length
      intro first second other rest behind one another same
      cases one with
      | @and filters texts parts nonempty =>
          have shorter : ∀ text ∈ texts, ToldApart text := fun text listed =>
            ih text.length (by
              have part := length_le_flatten listed
              simp only [List.length_cons, List.length_append]
              omega) text rfl
          cases another with
          | and otherParts _ =>
              simp only [List.cons_append, List.append_assoc, List.nil_append, List.cons.injEq,
                true_and] at same
              rcases toldApart_list shorter parts otherParts same with ⟨lists, ends⟩
              exact ⟨by rw [lists], ends⟩
          | or otherParts _ => cases same
          | not part => cases same
          | item read =>
              simp only [List.cons_append, List.append_assoc, List.cons.injEq, true_and] at same
              exact absurd (item_begins read same.symm) (by decide)
      | @or filters texts parts nonempty =>
          have shorter : ∀ text ∈ texts, ToldApart text := fun text listed =>
            ih text.length (by
              have part := length_le_flatten listed
              simp only [List.length_cons, List.length_append]
              omega) text rfl
          cases another with
          | and otherParts _ => cases same
          | or otherParts _ =>
              simp only [List.cons_append, List.append_assoc, List.nil_append, List.cons.injEq,
                true_and] at same
              rcases toldApart_list shorter parts otherParts same with ⟨lists, ends⟩
              exact ⟨by rw [lists], ends⟩
          | not part => cases same
          | item read =>
              simp only [List.cons_append, List.append_assoc, List.cons.injEq, true_and] at same
              exact absurd (item_begins read same.symm) (by decide)
      | @not filter inner part =>
          cases another with
          | and otherParts _ => cases same
          | or otherParts _ => cases same
          | not otherPart =>
              simp only [List.cons_append, List.append_assoc, List.nil_append, List.cons.injEq,
                true_and] at same
              rcases ih inner.length (by simp; omega) inner rfl part otherPart same with
                ⟨equal, ends⟩
              exact ⟨by rw [equal], (List.cons.inj ends).2⟩
          | item read =>
              simp only [List.cons_append, List.append_assoc, List.cons.injEq, true_and] at same
              exact absurd (item_begins read same.symm) (by decide)
      | @item item inner read =>
          cases another with
          | and otherParts _ =>
              simp only [List.cons_append, List.append_assoc, List.cons.injEq, true_and] at same
              exact absurd (item_begins read same) (by decide)
          | or otherParts _ =>
              simp only [List.cons_append, List.append_assoc, List.cons.injEq, true_and] at same
              exact absurd (item_begins read same) (by decide)
          | not part =>
              simp only [List.cons_append, List.append_assoc, List.cons.injEq, true_and] at same
              exact absurd (item_begins read same) (by decide)
          | item otherRead =>
              simp only [List.cons_append, List.append_assoc, List.nil_append, List.cons.injEq,
                true_and] at same
              rcases eq_of_append_closing (itemLetters_of_readItem read).closing
                (itemLetters_of_readItem otherRead).closing same with ⟨equal, ends⟩
              rw [← equal, read] at otherRead
              cases otherRead
              exact ⟨rfl, ends⟩

/-- A text has at most one filter. -/
theorem Derives.unique {first second : Filter} {text : List Char} (one : Derives first text)
    (other : Derives second text) : first = second :=
  (toldApart text one other (rfl : text ++ [] = text ++ [])).1

/-! ## Reading items that are written from their parts -/

/-- An attribute description holds no `=`, no colon and none of the marks before
`=`. -/
theorem not_mem_of_isAttribute {name : List Char} (named : isAttribute name = true) {letter : Char}
    (odd : isAttributeLetter letter = false) : letter ∉ name := by
  intro listed
  rw [isAttributeLetter_of_isAttribute named listed] at odd
  cases odd

/-- An attribute with an `=` behind it is read as equality, presence or
substrings. -/
theorem readItem_of_isAttribute {name : List Char} (named : isAttribute name = true)
    (value : List Char) : readItem (name ++ '=' :: value) = readEquality name value := by
  have cut : Text.splitOnce '=' (name ++ '=' :: value) = some (name, value) :=
    Text.splitOnce_append (not_mem_of_isAttribute named (by decide)) value
  have plain : ∀ {mark : Char}, name.getLast? = some mark → isAttributeLetter mark = true :=
    fun last => isAttributeLetter_of_isAttribute named (List.mem_of_getLast? last)
  rw [readItem, cut]
  simp only [Option.bind_eq_bind, Option.bind_some]
  split
  · rename_i last
    exact absurd (plain last) (by decide)
  · rename_i last
    exact absurd (plain last) (by decide)
  · rename_i last
    exact absurd (plain last) (by decide)
  · rename_i last
    exact absurd (plain last) (by decide)
  · rfl

theorem readItem_simple {name value : List Char} {octets : Octets}
    (named : isAttribute name = true) (decoded : decodeValue value = some octets) :
    readItem (name ++ '=' :: value) = some (.simple name .equal octets) := by
  have whole : Text.split '*' value = [value] :=
    List.splitOn_eq_singleton (not_mem_of_decodeValue decoded (by decide))
  rw [readItem_of_isAttribute named, readEquality, if_pos named, whole]
  simp only [decoded, Option.map_some]

/-- A value between two asterisks. -/
theorem readItem_between {name value : List Char} {octets : Octets}
    (named : isAttribute name = true) (decoded : decodeValue value = some octets) :
    readItem (name ++ '=' :: '*' :: (value ++ ['*'])) = some (.substring name [[], octets, []]) := by
  have absent : '*' ∉ value := not_mem_of_decodeValue decoded (by decide)
  have pieces : Text.split '*' ('*' :: (value ++ ['*'])) = [[], value, []] := by
    have others : ∀ piece ∈ [value, []], '*' ∉ piece := by
      intro piece listed
      simp only [List.mem_cons, List.not_mem_nil, or_false] at listed
      rcases listed with rfl | rfl
      · exact absent
      · exact List.not_mem_nil
    have split := Text.split_behind (List.not_mem_nil : '*' ∉ []) others
    simpa [Text.behind] using split
  rw [readItem_of_isAttribute named, readEquality, if_pos named, pieces]
  simp [decoded, decodeValue]

/-- An attribute with a matching rule. -/
theorem readItem_rule {name rule value : List Char} {octets : Octets}
    (named : isAttribute name = true) (oid : isOid rule = true) (unmarked : isDnMark rule = false)
    (decoded : decodeValue value = some octets) :
    readItem (name ++ ':' :: (rule ++ ':' :: '=' :: value)) =
      some (.extensible (some name) false (some rule) octets) := by
  have colonless : ':' ∉ rule := by
    intro listed
    exact absurd (isAttributeLetter_of_isOid oid listed) (by decide)
  have absent : '=' ∉ name ++ ':' :: (rule ++ [':']) := by
    intro listed
    rcases List.mem_append.mp listed with before | after
    · exact not_mem_of_isAttribute named (by decide) before
    · rcases List.mem_cons.mp after with same | after
      · cases same
      · rcases List.mem_append.mp after with inside | final
        · exact absurd (isAttributeLetter_of_isOid oid inside) (by decide)
        · rw [List.mem_singleton] at final
          cases final
  have cut : Text.splitOnce '=' (name ++ ':' :: (rule ++ ':' :: '=' :: value)) =
      some (name ++ ':' :: (rule ++ [':']), value) := by
    have whole := Text.splitOnce_append absent value
    simpa using whole
  have last : (name ++ ':' :: (rule ++ [':'])).getLast? = some ':' := by
    rw [← List.cons_append, ← List.append_assoc, List.getLast?_concat]
  have head : (name ++ ':' :: (rule ++ [':'])).dropLast = name ++ ':' :: rule := by
    rw [← List.cons_append, ← List.append_assoc, List.dropLast_concat]
  have parts : Text.split ':' (name ++ ':' :: rule) = [name, rule] := by
    have others : ∀ piece ∈ [rule], ':' ∉ piece := by
      intro piece listed
      rw [List.mem_singleton.mp listed]
      exact colonless
    have split := Text.split_behind (not_mem_of_isAttribute named (by decide) : ':' ∉ name) others
    simpa [Text.behind] using split
  have known : readExtensibleHead [name, rule] = some (some name, false, some rule) := by
    cases name with
    | nil => exact absurd named (by decide)
    | cons first rest =>
        simp only [readExtensibleHead, named, unmarked, oid, Bool.not_true, Bool.false_eq_true,
          if_false, if_true]
  rw [readItem, cut]
  simp only [Option.bind_eq_bind, Option.bind_some, last, head, readExtensible, parts, known,
    decoded]
  rfl

end Ldap
end Stars
