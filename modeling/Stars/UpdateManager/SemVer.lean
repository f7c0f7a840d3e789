import Stars.Collections.Fallible
import Stars.Text.Pieces
import Stars.UpdateManager.Version

namespace Stars
namespace UpdateManager

open Std
open Collections

/-!
# Precedence of version texts

The precedence of semantic versioning is stated on the texts: a purely numeric
identifier counts by its value, however long it is.  The comparison of parsed
versions is a total preorder with this precedence wherever no identifier beyond the
unsigned 64-bit range decides, and it agrees with the equality of versions except
where two cores differ by trailing zeros.
-/

abbrev Identifier := List Char

def isNumeric (identifier : Identifier) : Bool := identifier.all Char.isDigit

/-- The value of the digits that follow a value. -/
def digitsValue (value : Nat) (digits : List Char) : Nat := Nat.ofDigitChars 10 digits value

def textOrder (left right : Identifier) : Ordering :=
  Order.compareText (String.ofList left) (String.ofList right)

def valueOrder (left right : Identifier) : Ordering :=
  compare (digitsValue 0 left) (digitsValue 0 right)

/-- Numeric identifiers come before the others and are compared by value. -/
def identifierPrecedence (left right : Identifier) : Ordering :=
  match isNumeric left, isNumeric right with
  | true, true => valueOrder left right
  | true, false => .lt
  | false, true => .gt
  | false, false => textOrder left right

def listPrecedence : List Identifier → List Identifier → Ordering :=
  Order.sharedThenLength identifierPrecedence

/-- A final release comes after each of its pre-releases. -/
def prePrecedence : Option (List Identifier) → Option (List Identifier) → Ordering
  | none, none => .eq
  | none, some _ => .gt
  | some _, none => .lt
  | some left, some right => listPrecedence left right

/-- The parts of a version text that have a precedence. -/
structure VersionText where
  core : List Nat
  pre : Option (List Identifier)

/-- The text without its build metadata. -/
def buildless (text : String) : List Char := (cutAt '+' (Text.trim text.toList)).1

def versionText (text : String) : VersionText where
  core := (Text.split '.' (cutAt '-' (buildless text)).1).map (digitsValue 0)
  pre := (cutAt '-' (buildless text)).2.map (Text.split '.')

def VersionText.precedence (left right : VersionText) : Ordering :=
  (Order.padded compare 0 left.core right.core).then (prePrecedence left.pre right.pre)

/-- A numeric identifier beyond the unsigned 64-bit range. -/
def isOversized (identifier : Identifier) : Bool :=
  isNumeric identifier && decide (2 ^ 64 ≤ digitsValue 0 identifier)

/-- One identifier in two spellings at most. -/
def SameIdentifier (left right : Identifier) : Prop :=
  left = right ∨ (isNumeric left = true ∧ isNumeric right = true ∧
    digitsValue 0 left = digitsValue 0 right ∧ digitsValue 0 left < 2 ^ 64)

/-- The order of two different identifiers as texts gives their place where one of them
is oversized.  Two oversized ones of one value leave the decision to what follows. -/
def PlacedAsText (left right : Identifier) (following : Ordering) : Prop :=
  (isOversized left = true → isOversized right = true →
    textOrder left right = (valueOrder left right).then following) ∧
  (isOversized left = true → isNumeric right = false → textOrder left right = .lt) ∧
  (isNumeric left = false → isOversized right = true → textOrder left right = .gt)

/-- At the first two identifiers that differ, their order as texts is right. -/
def FirstDifferencePlaced : List Identifier → List Identifier → Prop
  | left :: lefts, right :: rights =>
      (SameIdentifier left right ∧ FirstDifferencePlaced lefts rights) ∨
        (¬ SameIdentifier left right ∧ PlacedAsText left right (listPrecedence lefts rights))
  | _, _ => True

section Identifiers

variable {identifier left right : Identifier}

/-- Without a sign a number is parsed exactly from digits whose value fits. -/
theorem parseInteger_eq_ok_iff {result : Nat} (unsigned : '+' ∉ identifier) :
    Text.parseInteger (2 ^ 64) identifier = .ok result ↔
      identifier ≠ [] ∧ isNumeric identifier = true ∧
        digitsValue 0 identifier = result ∧ result < 2 ^ 64 := by
  rw [Text.parseInteger_eq_ok_iff, Text.withoutPlus_of_notMem unsigned, isNumeric, digitsValue]

/-- The form of a validated identifier. -/
structure IsIdentifier (identifier : Identifier) : Prop where
  nonempty : identifier ≠ []
  unsigned : '+' ∉ identifier

theorem parsePreReleaseId_of_small (known : IsIdentifier identifier)
    (numeric : isNumeric identifier = true) (small : digitsValue 0 identifier < 2 ^ 64) :
    parsePreReleaseId identifier = .num (digitsValue 0 identifier) := by
  have parsed := (parseInteger_eq_ok_iff known.unsigned).mpr ⟨known.nonempty, numeric, rfl, small⟩
  rw [parsePreReleaseId, parsed]

/-- A small number is parsed to its value; an oversized one and any other identifier are
kept as texts. -/
theorem parsePreReleaseId_cases (known : IsIdentifier identifier) :
    (isNumeric identifier = true ∧ isOversized identifier = false ∧
      digitsValue 0 identifier < 2 ^ 64 ∧
      parsePreReleaseId identifier = .num (digitsValue 0 identifier)) ∨
    (isNumeric identifier = true ∧ isOversized identifier = true ∧
      2 ^ 64 ≤ digitsValue 0 identifier ∧
      parsePreReleaseId identifier = .alpha (String.ofList identifier)) ∨
    (isNumeric identifier = false ∧ isOversized identifier = false ∧
      parsePreReleaseId identifier = .alpha (String.ofList identifier)) := by
  have parsed_iff (value : Nat) : Text.parseInteger (2 ^ 64) identifier = .ok value ↔ _ :=
    parseInteger_eq_ok_iff known.unsigned
  have kept (unparsed : ∀ value, Text.parseInteger (2 ^ 64) identifier ≠ .ok value) :
      parsePreReleaseId identifier = .alpha (String.ofList identifier) := by
    rw [parsePreReleaseId]
    cases parsed : Text.parseInteger (2 ^ 64) identifier with
    | error reason => rfl
    | ok value => exact absurd parsed (unparsed value)
  cases numeric : isNumeric identifier with
  | false =>
      refine Or.inr (Or.inr ⟨rfl, ?_, kept ?_⟩)
      · rw [isOversized, numeric, Bool.false_and]
      · intro value parsed
        rw [((parsed_iff value).mp parsed).2.1] at numeric
        cases numeric
  | true =>
      by_cases small : digitsValue 0 identifier < 2 ^ 64
      · refine Or.inl ⟨rfl, ?_, small, ?_⟩
        · rw [isOversized, numeric, Bool.true_and, decide_eq_false_iff_not]
          omega
        · exact parsePreReleaseId_of_small known numeric small
      · refine Or.inr (Or.inl ⟨rfl, ?_, Nat.le_of_not_lt small, kept ?_⟩)
        · rw [isOversized, numeric, Bool.true_and, decide_eq_true_eq]
          exact Nat.le_of_not_lt small
        · intro value parsed
          rcases (parsed_iff value).mp parsed with ⟨_, _, same, fits⟩
          exact small (by rw [same]; exact fits)

theorem cmp_eq_iff (left right : PreReleaseId) : PreReleaseId.cmp left right = .eq ↔
    left = right := by
  cases left with
  | num value =>
      cases right with
      | num other => rw [PreReleaseId.cmp, Nat.compare_eq_eq, PreReleaseId.num.injEq]
      | alpha other => simp [PreReleaseId.cmp]
  | alpha text =>
      cases right with
      | num other => simp [PreReleaseId.cmp]
      | alpha other =>
          rw [PreReleaseId.cmp, LawfulEqCmp.compare_eq_iff_eq, PreReleaseId.alpha.injEq]

/-- Two identifiers are parsed alike exactly when they are the same one. -/
theorem parsePreReleaseId_eq_iff (leftKnown : IsIdentifier left) (rightKnown : IsIdentifier right) :
    parsePreReleaseId left = parsePreReleaseId right ↔ SameIdentifier left right := by
  have kept_or_small (identifier : Identifier) (known : IsIdentifier identifier) :
      parsePreReleaseId identifier = .alpha (String.ofList identifier) ∨
        (isNumeric identifier = true ∧ digitsValue 0 identifier < 2 ^ 64 ∧
          parsePreReleaseId identifier = .num (digitsValue 0 identifier)) := by
    rcases parsePreReleaseId_cases known with
      ⟨numeric, _, small, parsed⟩ | ⟨_, _, _, kept⟩ | ⟨_, _, kept⟩
    · exact Or.inr ⟨numeric, small, parsed⟩
    · exact Or.inl kept
    · exact Or.inl kept
  constructor
  · intro same
    rcases kept_or_small left leftKnown with kept | ⟨leftNumeric, leftSmall, parsed⟩
    · rcases kept_or_small right rightKnown with otherKept | ⟨_, _, otherParsed⟩
      · rw [kept, otherKept, PreReleaseId.alpha.injEq, String.ofList_inj] at same
        exact Or.inl same
      · rw [kept, otherParsed] at same
        cases same
    · rcases kept_or_small right rightKnown with otherKept | ⟨rightNumeric, _, otherParsed⟩
      · rw [parsed, otherKept] at same
        cases same
      · rw [parsed, otherParsed, PreReleaseId.num.injEq] at same
        exact Or.inr ⟨leftNumeric, rightNumeric, same, leftSmall⟩
  · intro same
    rcases same with same | ⟨leftNumeric, rightNumeric, same, small⟩
    · rw [same]
    · have otherSmall : digitsValue 0 right < 2 ^ 64 := by
        rw [← same]
        exact small
      rw [parsePreReleaseId_of_small leftKnown leftNumeric small,
        parsePreReleaseId_of_small rightKnown rightNumeric otherSmall, same]

theorem identifierPrecedence_of_same (same : SameIdentifier left right) :
    identifierPrecedence left right = .eq := by
  rcases same with same | ⟨leftNumeric, rightNumeric, same, _⟩
  · rw [same, identifierPrecedence]
    cases isNumeric right with
    | true => exact Nat.compare_eq_eq.mpr rfl
    | false => exact (ReflCmp.compare_self : Order.compareText _ _ = .eq)
  · rw [identifierPrecedence, leftNumeric, rightNumeric]
    exact Nat.compare_eq_eq.mpr same

theorem textOrder_ne_eq (differ : ¬ SameIdentifier left right) : textOrder left right ≠ .eq := by
  intro same
  exact differ (Or.inl (String.ofList_inj.mp (LawfulEqCmp.eq_of_compare same)))

/-- Two different identifiers are compared by their precedence, and then by what
follows them, exactly when they are placed as texts. -/
theorem placedAsText_iff (leftKnown : IsIdentifier left) (rightKnown : IsIdentifier right)
    (differ : ¬ SameIdentifier left right) (following : Ordering) :
    PreReleaseId.cmp (parsePreReleaseId left) (parsePreReleaseId right) =
        (identifierPrecedence left right).then following ↔
      PlacedAsText left right following := by
  have decided (order : Ordering) (other : order ≠ .eq) : order.then following = order := by
    cases order with
    | eq => exact absurd rfl other
    | lt => rfl
    | gt => rfl
  rcases parsePreReleaseId_cases leftKnown with
    ⟨leftNumeric, leftFits, leftSmall, leftParsed⟩ | ⟨leftNumeric, leftLarge, leftBound, leftKept⟩ |
      ⟨leftPlain, leftFits, leftKept⟩
  · rcases parsePreReleaseId_cases rightKnown with
      ⟨rightNumeric, rightFits, _, rightParsed⟩ | ⟨rightNumeric, rightLarge, rightBound, rightKept⟩ |
        ⟨rightPlain, rightFits, rightKept⟩
    · have values : valueOrder left right ≠ .eq := by
        intro same
        exact differ (Or.inr ⟨leftNumeric, rightNumeric, Nat.compare_eq_eq.mp same, leftSmall⟩)
      simp [leftParsed, rightParsed, PreReleaseId.cmp, identifierPrecedence, PlacedAsText,
        leftNumeric, rightNumeric, leftFits, rightFits, decided _ values]
      rfl
    · have values : valueOrder left right = .lt := Nat.compare_eq_lt.mpr (by omega)
      simp [leftParsed, rightKept, PreReleaseId.cmp, identifierPrecedence, PlacedAsText,
        leftNumeric, rightNumeric, leftFits, values]
    · simp [leftParsed, rightKept, PreReleaseId.cmp, identifierPrecedence, PlacedAsText,
        leftNumeric, rightPlain, leftFits, rightFits]
  · rcases parsePreReleaseId_cases rightKnown with
      ⟨rightNumeric, rightFits, rightSmall, rightParsed⟩ | ⟨rightNumeric, rightLarge, _, rightKept⟩ |
        ⟨rightPlain, rightFits, rightKept⟩
    · have values : valueOrder left right = .gt := Nat.compare_eq_gt.mpr (by omega)
      simp [leftKept, rightParsed, PreReleaseId.cmp, identifierPrecedence, PlacedAsText,
        leftNumeric, rightNumeric, rightFits, values]
    · simp [leftKept, rightKept, PreReleaseId.cmp, identifierPrecedence, PlacedAsText,
        leftNumeric, rightNumeric, leftLarge, rightLarge, textOrder]
    · simp [leftKept, rightKept, PreReleaseId.cmp, identifierPrecedence, PlacedAsText,
        leftNumeric, rightPlain, leftLarge, rightFits, textOrder]
  · rcases parsePreReleaseId_cases rightKnown with
      ⟨rightNumeric, rightFits, _, rightParsed⟩ | ⟨rightNumeric, rightLarge, _, rightKept⟩ |
        ⟨rightPlain, rightFits, rightKept⟩
    · simp [leftKept, rightParsed, PreReleaseId.cmp, identifierPrecedence, PlacedAsText,
        leftPlain, rightNumeric, leftFits, rightFits]
    · simp [leftKept, rightKept, PreReleaseId.cmp, identifierPrecedence, PlacedAsText,
        leftPlain, rightNumeric, leftFits, rightLarge, textOrder]
    · simp [leftKept, rightKept, PreReleaseId.cmp, identifierPrecedence, PlacedAsText,
        leftPlain, rightPlain, leftFits, rightFits, decided _ (textOrder_ne_eq differ)]
      rfl

/-- The comparison of two lists has the precedence of their texts exactly when their
first difference is placed. -/
theorem firstDifferencePlaced_iff {lefts rights : List Identifier} :
    (∀ identifier ∈ lefts, IsIdentifier identifier) →
    (∀ identifier ∈ rights, IsIdentifier identifier) →
      (comparePrerelease (lefts.map parsePreReleaseId) (rights.map parsePreReleaseId) =
        listPrecedence lefts rights ↔ FirstDifferencePlaced lefts rights) := by
  induction lefts generalizing rights with
  | nil =>
      intro _ _
      cases rights with
      | nil => exact iff_of_true rfl trivial
      | cons right rights =>
          refine iff_of_true ?_ trivial
          simp [comparePrerelease, listPrecedence, Order.sharedThenLength]
  | cons left lefts ih =>
      intro leftsKnown rightsKnown
      cases rights with
      | nil =>
          refine iff_of_true ?_ trivial
          simp [comparePrerelease, listPrecedence, Order.sharedThenLength]
      | cons right rights =>
          rcases List.forall_mem_cons.mp leftsKnown with ⟨leftKnown, othersLeft⟩
          rcases List.forall_mem_cons.mp rightsKnown with ⟨rightKnown, othersRight⟩
          have same_iff := parsePreReleaseId_eq_iff leftKnown rightKnown
          rw [← cmp_eq_iff] at same_iff
          rw [List.map_cons, List.map_cons, comparePrerelease, listPrecedence,
            Order.sharedThenLength_cons, Order.sharedThenLength_cons, FirstDifferencePlaced]
          by_cases same : SameIdentifier left right
          · rw [same_iff.mpr same, identifierPrecedence_of_same same, Ordering.eq_then,
              Ordering.eq_then]
            have following := ih othersLeft othersRight
            rw [comparePrerelease, listPrecedence] at following
            rw [following]
            constructor
            · exact fun placed => Or.inl ⟨same, placed⟩
            · intro placed
              rcases placed with ⟨_, placed⟩ | ⟨differ, _⟩
              · exact placed
              · exact absurd same differ
          · have decided : PreReleaseId.cmp (parsePreReleaseId left) (parsePreReleaseId right) ≠ .eq :=
              fun equal => same (same_iff.mp equal)
            have placed_iff :=
              placedAsText_iff leftKnown rightKnown same (listPrecedence lefts rights)
            have first (following : Ordering) :
                (PreReleaseId.cmp (parsePreReleaseId left) (parsePreReleaseId right)).then following =
                  PreReleaseId.cmp (parsePreReleaseId left) (parsePreReleaseId right) := by
              cases order : PreReleaseId.cmp (parsePreReleaseId left) (parsePreReleaseId right) with
              | eq => exact absurd order decided
              | lt => rfl
              | gt => rfl
            rw [first]
            rw [listPrecedence] at placed_iff
            rw [placed_iff]
            constructor
            · exact fun placed => Or.inr ⟨same, placed⟩
            · intro placed
              rcases placed with ⟨again, _⟩ | ⟨_, placed⟩
              · exact absurd again same
              · exact placed

end Identifiers

/-! ## Parsed texts -/

section Texts

variable {text left right : String} {version leftVersion rightVersion : AppVersion}

theorem cutAt_fst_subset {separator letter : Char} {letters : List Char}
    (inside : letter ∈ (cutAt separator letters).1) : letter ∈ letters ∧ letter ≠ separator := by
  rw [cutAt] at inside
  cases found : Text.splitOnce separator letters with
  | none =>
      rw [found] at inside
      refine ⟨inside, ?_⟩
      intro same
      rw [same] at inside
      exact Text.splitOnce_eq_none found inside
  | some pieces =>
      rw [found] at inside
      rcases Text.splitOnce_eq_some found with ⟨whole, absent⟩
      refine ⟨by rw [whole]; exact List.mem_append_left _ inside, ?_⟩
      intro same
      rw [same] at inside
      exact absent inside

theorem validateIdentifier_eq_ok {what input : String} {identifier : Identifier}
    (valid : validateIdentifier what input identifier = .ok ()) : IsIdentifier identifier := by
  rw [validateIdentifier] at valid
  rcases ite_error_eq_ok_iff.mp valid with ⟨something, rest⟩
  refine ⟨fun nothing => something (List.isEmpty_iff.mpr nothing), ?_⟩
  intro sign
  split at rest
  · rename_i letters
    have impossible := List.all_eq_true.mp letters '+' sign
    revert impossible
    decide
  · cases rest

/-- The segments of a core are read as their values. -/
theorem core_of_parsed {input : String} {segments : List (List Char)} {core : List Nat}
    (unsigned : ∀ segment ∈ segments, '+' ∉ segment)
    (parsed : segments.mapM (parseSegment input) = .ok core) :
    core = segments.map (digitsValue 0) := by
  have each := mapM_eq_ok_iff.mp parsed
  induction each with
  | nil => rfl
  | @cons segment value segments core read others ih =>
      rcases List.forall_mem_cons.mp unsigned with ⟨first, later⟩
      have number : Text.parseInteger (2 ^ 64) segment = .ok value := by
        rw [parseSegment] at read
        cases found : Text.parseInteger (2 ^ 64) segment with
        | error reason =>
            rw [found] at read
            cases read
        | ok other =>
            rw [found] at read
            exact congrArg _ (Except.ok.inj read)
      rw [List.map_cons, ((parseInteger_eq_ok_iff first).mp number).2.2.1,
        ← ih later (mapM_eq_ok_iff.mpr others)]

theorem pre_of_parsed {input : String} {list : Option (List Char)}
    {pre : Option (List PreReleaseId)} (parsed : parsePre input list = .ok pre) :
    pre = (list.map (Text.split '.')).map (List.map parsePreReleaseId) ∧
      ∀ identifiers, list.map (Text.split '.') = some identifiers →
        ∀ identifier ∈ identifiers, IsIdentifier identifier := by
  cases list with
  | none =>
      cases parsed
      refine ⟨rfl, ?_⟩
      intro identifiers impossible
      cases impossible
  | some letters =>
      rcases bind_eq_ok_iff.mp parsed with ⟨_, valid, same⟩
      refine ⟨(Except.ok.inj same).symm, ?_⟩
      intro identifiers split identifier listed
      cases split
      exact validateIdentifier_eq_ok (forM_eq_ok_iff.mp valid identifier listed)

/-- A version is the one of its text, with the identifiers parsed. -/
theorem parse_eq_ok (parsed : AppVersion.parse text = .ok version) :
    version.core = (versionText text).core ∧
      version.pre = (versionText text).pre.map (List.map parsePreReleaseId) ∧
      ∀ list, (versionText text).pre = some list →
        ∀ identifier ∈ list, IsIdentifier identifier := by
  simp only [AppVersion.parse] at parsed
  rcases ite_error_eq_ok_iff.mp parsed with ⟨_, remaining⟩
  have numbers : (do
      let core ← (Text.split '.' (cutAt '-' (buildless text)).1).mapM (parseSegment text)
      let pre ← parsePre text (cutAt '-' (buildless text)).2
      return AppVersion.mk core pre) = .ok version := by
    split at remaining
    · rcases bind_eq_ok_iff.mp remaining with ⟨_, _, rest⟩
      exact rest
    · rcases bind_eq_ok_iff.mp remaining with ⟨_, _, rest⟩
      exact rest
  rcases bind_eq_ok_iff.mp numbers with ⟨core, coreParsed, remaining⟩
  rcases bind_eq_ok_iff.mp remaining with ⟨pre, preParsed, same⟩
  have unsigned : ∀ segment ∈ Text.split '.' (cutAt '-' (buildless text)).1, '+' ∉ segment := by
    intro segment listed sign
    rw [Text.split, List.splitOn_eq_splitOnP] at listed
    have inside := cutAt_fst_subset (Text.letter_of_piece listed sign).1
    exact (cutAt_fst_subset inside.1).2 rfl
  rw [← Except.ok.inj same]
  exact ⟨core_of_parsed unsigned coreParsed, pre_of_parsed preParsed⟩

/-! ## The laws -/

/-- Equal numbers at every place, a missing one counting as zero. -/
def SameCore (left right : List Nat) : Prop := ∀ place, left.getD place 0 = right.getD place 0

/-- The laws that hold of all versions. -/
structure RankLaws : Prop where
  total : ∀ left right, AppVersion.cmp right left = (AppVersion.cmp left right).swap
  transitive : ∀ first second third, (AppVersion.cmp first second).isLE →
    (AppVersion.cmp second third).isLE → (AppVersion.cmp first third).isLE
  padded : ∀ left right, SameCore left.core right.core →
    AppVersion.cmp left right = comparePre left.pre right.pre
  beforeRelease : ∀ left right list, SameCore left.core right.core → left.pre = some list →
    right.pre = none → AppVersion.cmp left right = .lt
  metadata : ∀ left right leftVersion rightVersion, AppVersion.parse left = .ok leftVersion →
    AppVersion.parse right = .ok rightVersion → buildless left = buildless right →
      leftVersion = rightVersion

/-- The comparison of two texts is the precedence, and the versions are equal exactly
when they compare equal. -/
structure Ranked (left right : String) (leftVersion rightVersion : AppVersion) : Prop where
  equal : AppVersion.cmp leftVersion rightVersion = .eq ↔ leftVersion = rightVersion
  precedence : AppVersion.cmp leftVersion rightVersion =
    (versionText left).precedence (versionText right)

/-- The first difference of two pre-release lists is placed. -/
def PreReleasesPlaced : Option (List Identifier) → Option (List Identifier) → Prop
  | some left, some right => FirstDifferencePlaced left right
  | _, _ => True

theorem padded_eq_iff (left right : List Nat) :
    Order.padded compare 0 left right = .eq ↔ SameCore left right := by
  rw [Order.padded, Order.firstUnequal_eq_iff, List.forall_mem_map]
  constructor
  · intro equal place
    by_cases inside : place < max left.length right.length
    · exact Nat.compare_eq_eq.mp (equal place (List.mem_range.mpr inside))
    · rw [List.getD_eq_default _ _ (by omega), List.getD_eq_default _ _ (by omega)]
  · intro same place _
    exact Nat.compare_eq_eq.mpr (same place)

theorem comparePre_eq_iff (left right : Option (List PreReleaseId)) :
    comparePre left right = .eq ↔ left = right := by
  cases left with
  | none => cases right <;> simp [comparePre]
  | some list =>
      cases right with
      | none => simp [comparePre]
      | some other =>
          rw [comparePre, comparePrerelease, Order.sharedThenLength_eq_iff cmp_eq_iff,
            Option.some_inj]

theorem cmp_of_sameCore {left right : AppVersion} (same : SameCore left.core right.core) :
    AppVersion.cmp left right = comparePre left.pre right.pre := by
  rw [AppVersion.cmp, (padded_eq_iff _ _).mpr same]
  rfl

theorem rankLaws : RankLaws where
  total := fun _ _ => OrientedCmp.eq_swap
  transitive := fun _ _ _ => TransCmp.isLE_trans
  padded := fun _ _ => cmp_of_sameCore
  beforeRelease := by
    intro left right list same pre release
    rw [cmp_of_sameCore same, pre, release]
    rfl
  metadata := by
    intro left right leftVersion rightVersion leftParsed rightParsed same
    have leftKnown := parse_eq_ok leftParsed
    have rightKnown := parse_eq_ok rightParsed
    have texts : versionText left = versionText right := by
      rw [versionText, versionText, same]
    rw [texts] at leftKnown
    rw [AppVersion.mk.injEq]
    exact ⟨leftKnown.1.trans rightKnown.1.symm, leftKnown.2.1.trans rightKnown.2.1.symm⟩

/-- Behind equal cores the pre-releases are compared by precedence exactly when their
first difference is placed. -/
theorem preReleasesPlaced_iff {lefts rights : Option (List Identifier)}
    (leftsKnown : ∀ list, lefts = some list → ∀ identifier ∈ list, IsIdentifier identifier)
    (rightsKnown : ∀ list, rights = some list → ∀ identifier ∈ list, IsIdentifier identifier) :
    comparePre (lefts.map (List.map parsePreReleaseId))
        (rights.map (List.map parsePreReleaseId)) = prePrecedence lefts rights ↔
      PreReleasesPlaced lefts rights := by
  cases lefts with
  | none => cases rights <;> exact iff_of_true rfl trivial
  | some left =>
      cases rights with
      | none => exact iff_of_true rfl trivial
      | some right =>
          exact firstDifferencePlaced_iff (leftsKnown left rfl) (rightsKnown right rfl)

/-- Two versions are ranked exactly when their cores differ beyond trailing zeros, or
when the cores are equal or the pre-releases differ, and the first difference of the
pre-releases is placed. -/
theorem ranked_iff (leftParsed : AppVersion.parse left = .ok leftVersion)
    (rightParsed : AppVersion.parse right = .ok rightVersion) :
    Ranked left right leftVersion rightVersion ↔
      (SameCore leftVersion.core rightVersion.core →
        (leftVersion.core = rightVersion.core ∨ leftVersion.pre ≠ rightVersion.pre) ∧
          PreReleasesPlaced (versionText left).pre (versionText right).pre) := by
  rcases parse_eq_ok leftParsed with ⟨leftCore, leftPre, leftKnown⟩
  rcases parse_eq_ok rightParsed with ⟨rightCore, rightPre, rightKnown⟩
  have placed_iff := preReleasesPlaced_iff leftKnown rightKnown
  rw [← leftPre, ← rightPre] at placed_iff
  by_cases same : SameCore leftVersion.core rightVersion.core
  · have compared := cmp_of_sameCore same
    have precedence : (versionText left).precedence (versionText right) =
        prePrecedence (versionText left).pre (versionText right).pre := by
      rw [VersionText.precedence, ← leftCore, ← rightCore, (padded_eq_iff _ _).mpr same]
      rfl
    have equal_iff : (AppVersion.cmp leftVersion rightVersion = .eq ↔ leftVersion = rightVersion) ↔
        (leftVersion.core = rightVersion.core ∨ leftVersion.pre ≠ rightVersion.pre) := by
      have versions : leftVersion = rightVersion ↔
          leftVersion.core = rightVersion.core ∧ leftVersion.pre = rightVersion.pre := by
        cases leftVersion
        cases rightVersion
        rw [AppVersion.mk.injEq]
      rw [compared, comparePre_eq_iff, versions]
      by_cases cores : leftVersion.core = rightVersion.core
      · simp only [cores, true_and, true_or]
      · simp only [cores, false_and, iff_false, false_or, ne_eq]
    rw [← placed_iff, ← precedence, ← compared, ← equal_iff]
    constructor
    · exact fun ranked _ => ⟨ranked.equal, ranked.precedence⟩
    · exact fun ranked => ⟨(ranked same).1, (ranked same).2⟩
  · refine iff_of_true ?_ (fun impossible => absurd impossible same)
    have decided : Order.padded compare 0 leftVersion.core rightVersion.core ≠ .eq :=
      fun equal => same ((padded_eq_iff _ _).mp equal)
    constructor
    · rw [AppVersion.cmp, Ordering.then_eq_eq]
      constructor
      · exact fun equal => absurd equal.1 decided
      · intro versions
        rw [versions] at same
        exact absurd (fun _ => rfl) same
    · rw [AppVersion.cmp, VersionText.precedence, ← leftCore, ← rightCore]
      cases order : Order.padded compare 0 leftVersion.core rightVersion.core with
      | eq => exact absurd order decided
      | lt => rfl
      | gt => rfl

/-- All versions are totally preordered with padded cores, pre-releases before their
release and no regard to build metadata, and it is known exactly which pairs have the
precedence of their texts and agree with equality. -/
theorem versionOrder {left right : String} {leftVersion rightVersion : AppVersion}
    (leftParsed : AppVersion.parse left = .ok leftVersion)
    (rightParsed : AppVersion.parse right = .ok rightVersion) :
    RankLaws ∧ (Ranked left right leftVersion rightVersion ↔
      (SameCore leftVersion.core rightVersion.core →
        (leftVersion.core = rightVersion.core ∨ leftVersion.pre ≠ rightVersion.pre) ∧
          PreReleasesPlaced (versionText left).pre (versionText right).pre)) :=
  ⟨rankLaws, ranked_iff leftParsed rightParsed⟩

theorem versionOrder_candidate :
    Ranked "1.0.0-rc1" "1.0.0+build" ⟨[1, 0, 0], some [.alpha "rc1"]⟩ ⟨[1, 0, 0], none⟩ := by
  have left : AppVersion.parse "1.0.0-rc1" = .ok ⟨[1, 0, 0], some [.alpha "rc1"]⟩ := by
    decide
  have right : AppVersion.parse "1.0.0+build" = .ok ⟨[1, 0, 0], none⟩ := by
    decide
  apply (versionOrder left right).2.mpr
  exact fun _ => ⟨Or.inl rfl, trivial⟩

/-- Versions that compare equal are not equal, and a longer number comes before a
smaller one. -/
theorem versionOrder_broken :
    (AppVersion.cmp ⟨[1, 2], none⟩ ⟨[1, 2, 0], none⟩ = .eq ∧
      AppVersion.parse "1.2" = .ok ⟨[1, 2], none⟩ ∧
      AppVersion.parse "1.2.0" = .ok ⟨[1, 2, 0], none⟩) ∧
    ∃ smaller larger, AppVersion.parse "1.0.0-99999999999999999999" = .ok smaller ∧
      AppVersion.parse "1.0.0-100000000000000000000" = .ok larger ∧
      AppVersion.cmp larger smaller = .lt ∧
      (versionText "1.0.0-99999999999999999999").precedence
        (versionText "1.0.0-100000000000000000000") = .lt := by
  refine ⟨by decide, ⟨[1, 0, 0], some [.alpha "99999999999999999999"]⟩,
    ⟨[1, 0, 0], some [.alpha "100000000000000000000"]⟩, ?_, ?_, ?_, ?_⟩
  all_goals decide

end Texts

end UpdateManager
end Stars
