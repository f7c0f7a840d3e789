import Stars.Viz.BoxText

namespace Stars
namespace Viz

open PermissionEngine

/-!
# The rights in a box

The rights of a mask are shown whole, in the long or in the short form, and each form
can be read back from the letters that can be seen.  So two masks never have the same
lines, and the box of an entry tells its rights and the bits that it decided.
-/

/-- All letters of a text pass a test. -/
def Made (good : Char → Bool) (text : String) : Prop := text.toList.all good = true

instance (good : Char → Bool) (text : String) : Decidable (Made good text) :=
  inferInstanceAs (Decidable (_ = _))

theorem Made.append {good : Char → Bool} {first second : String} (left : Made good first)
    (right : Made good second) : Made good (first ++ second) := by
  unfold Made at left right ⊢
  rw [String.toList_append, List.all_append, left, right]
  rfl

theorem Made.join {good : Char → Bool} {separator : String} (between : Made good separator)
    {pieces : List String} (each : ∀ piece ∈ pieces, Made good piece) :
    Made good (Text.join separator pieces) := by
  induction pieces with
  | nil => rfl
  | cons piece rest ih =>
      have later := ih (fun other listed => each other (.tail _ listed))
      cases rest with
      | nil => exact each piece (.head _)
      | cons next rest => exact ((each piece (.head _)).append between).append later

theorem length_join_le {separator : String} {width : Nat} {pieces : List String}
    (each : ∀ piece ∈ pieces, piece.length + separator.length ≤ width) :
    (Text.join separator pieces).length ≤ width * pieces.length := by
  induction pieces with
  | nil => exact Nat.le_refl 0
  | cons piece rest ih =>
      have own := each piece (.head _)
      have later := ih (fun other listed => each other (.tail _ listed))
      rw [List.length_cons, Nat.mul_succ]
      cases rest with
      | nil =>
          rw [Text.join]
          omega
      | cons next rest =>
          rw [Text.join, String.length_append, String.length_append]
          · omega
          · exact List.cons_ne_nil _ _

theorem made_hexDigits {good : Char → Bool}
    (digits : (List.range 16).all (fun value => good (Text.hexDigit value)) = true)
    (bits : AccessMask) : Made good (hexDigits bits) := by
  apply List.all_eq_true.mpr
  intro letter listed
  rcases mem_hexDigits listed with ⟨value, small, rfl⟩
  exact List.all_eq_true.mp digits value (List.mem_range.mpr small)

/-- A letter of the short form. -/
def shortLetter (letter : Char) : Bool :=
  0x28 ≤ letter.toNat && letter.toNat ≤ 0x7A && !(['a', 'i', 'l'].contains letter)

/-- A letter of the long form: of all blanks, it has the space only. -/
def longLetter (letter : Char) : Bool := 0x20 ≤ letter.toNat && letter.toNat ≤ 0x7E

theorem made_shorts (raw : AccessMask) :
    ∀ piece ∈ ((extraRights raw).map ExtraRight.wording).map Prod.snd, Made shortLetter piece := by
  have listed : ∀ named ∈ namedBits, Made shortLetter named.short := by decide
  intro piece member
  rcases List.mem_map.mp member with ⟨wording, inside, rfl⟩
  rcases List.mem_map.mp inside with ⟨extra, found, rfl⟩
  cases extra with
  | writeSet => exact (by decide : Made shortLetter "W")
  | single named => exact listed named (named_of_extraRights found)
  | otherBits bits =>
      simp only [ExtraRight.wording, toString]
      exact (by decide : Made shortLetter "0x").append (made_hexDigits (by decide) bits)

theorem made_label (raw : AccessMask) : Made shortLetter (label raw) := by
  have shorts := Made.join (by decide : Made shortLetter ",") (made_shorts raw)
  unfold label
  by_cases nothing : raw = 0#32
  · rw [if_pos nothing]
    decide
  · rw [if_neg nothing, decompose_eq]
    cases baseLevel raw with
    | none =>
        simp only [toString]
        exact ((by decide : Made shortLetter "(").append shorts).append
          (by decide : Made shortLetter ")")
    | some level =>
        have own : Made shortLetter level.short := by cases level <;> decide
        simp only [toString]
        split
        · exact own
        · exact (own.append (by decide : Made shortLetter "+")).append shorts

theorem made_names (raw : AccessMask) :
    ∀ piece ∈ ((extraRights raw).map ExtraRight.wording).map extraName, Made longLetter piece := by
  have listed : ∀ named ∈ namedBits, Made longLetter named.name := by decide
  intro piece member
  rcases List.mem_map.mp member with ⟨wording, inside, rfl⟩
  rcases List.mem_map.mp inside with ⟨extra, found, rfl⟩
  cases extra with
  | writeSet => exact (by decide : Made longLetter "Write")
  | single named =>
      have other := ne_other_bits (named_of_extraRights found)
      have name : extraName (named.name, named.short) = named.name := if_neg other
      change Made longLetter (extraName (named.name, named.short))
      rw [name]
      exact listed named (named_of_extraRights found)
  | otherBits bits =>
      simp only [extraName, ExtraRight.wording, toString]
      exact (by decide : Made longLetter "other bits ").append
        ((by decide : Made longLetter "0x").append (made_hexDigits (by decide) bits))

theorem made_displayName (raw : AccessMask) : Made longLetter (displayName raw) := by
  have names := Made.join (by decide : Made longLetter ", ") (made_names raw)
  unfold displayName
  by_cases nothing : raw = 0#32
  · rw [if_pos nothing]
    decide
  · rw [if_neg nothing, decompose_eq]
    cases baseLevel raw with
    | none =>
        simp only [toString]
        exact (by decide : Made longLetter "Special: ").append names
    | some level =>
        have own : Made longLetter level.name := by cases level <;> decide
        simp only [toString]
        split
        · exact own
        · exact (own.append (by decide : Made longLetter " + ")).append names

/-- Every long form has a letter that no short form has. -/
theorem tells_displayName (raw : AccessMask) :
    ∃ letter ∈ (displayName raw).toList, letter ∈ ['a', 'i', 'l'] := by
  unfold displayName
  by_cases nothing : raw = 0#32
  · rw [if_pos nothing]
    exact ⟨'a', by decide, by decide⟩
  · rw [if_neg nothing, decompose_eq]
    cases baseLevel raw with
    | none =>
        simp only [toString, String.toList_append]
        exact ⟨'i', List.mem_append_left _ (by decide), by decide⟩
    | some level =>
        have own : ∃ letter ∈ level.name.toList, letter ∈ ['a', 'i', 'l'] := by
          cases level with
          | fullControl => exact ⟨'l', by decide, by decide⟩
          | modify => exact ⟨'i', by decide, by decide⟩
          | readExecute => exact ⟨'a', by decide, by decide⟩
          | readWrite => exact ⟨'a', by decide, by decide⟩
          | read => exact ⟨'a', by decide, by decide⟩
          | write => exact ⟨'i', by decide, by decide⟩
        rcases own with ⟨letter, listed, told⟩
        refine ⟨letter, ?_, told⟩
        simp only [toString]
        split
        · exact listed
        · rw [String.toList_append, String.toList_append, List.append_assoc]
          exact List.mem_append_left _ listed

/-- In the letters of either form only a space is a blank. -/
theorem letters_eq_visible {good : Char → Bool} {text : String} (made : Made good text)
    (blanks : ∀ letter, good letter = true → Text.isWhitespace letter = true → letter = ' ') :
    Wording.letters text = visible text.toList := by
  apply List.filter_congr
  intro letter listed
  have passed := List.all_eq_true.mp made letter listed
  cases blank : Text.isWhitespace letter with
  | true =>
      rw [blanks letter passed blank]
      decide
  | false =>
      have other : letter ≠ ' ' := by
        intro same
        rw [same] at blank
        exact absurd blank (by decide)
      rw [decide_eq_true other]
      rfl

theorem blank_shortLetter (letter : Char) (short : shortLetter letter = true) :
    Text.isWhitespace letter = true → letter = ' ' := by
  unfold shortLetter at short
  unfold Text.isWhitespace
  simp only [Bool.and_eq_true, Bool.or_eq_true, decide_eq_true_eq, beq_iff_eq] at short ⊢
  omega

theorem blank_longLetter (letter : Char) (long : longLetter letter = true) :
    Text.isWhitespace letter = true → letter = ' ' := by
  unfold longLetter at long
  unfold Text.isWhitespace
  simp only [Bool.and_eq_true, Bool.or_eq_true, decide_eq_true_eq, beq_iff_eq] at long ⊢
  intro blank
  have code : letter.toNat = ' '.toNat := by
    change letter.toNat = 0x20
    omega
  exact Char.toNat_inj.mp code

/-- A form can be read off the letters that can be seen. -/
theorem read_of_visible {wording : Wording} {form : AccessMask → String}
    (read_form : ∀ raw, wording.read (form raw) = raw)
    (letters_form : ∀ raw, Wording.letters (form raw) = visible (form raw).toList)
    {first second : AccessMask}
    (same : visible (form first).toList = visible (form second).toList) : first = second := by
  have letters_same : Wording.letters (form first) = Wording.letters (form second) := by
    rw [letters_form, letters_form, same]
  calc
    first = wording.read (form first) := (read_form first).symm
    _ = wording.read (form second) := by
      unfold Wording.read
      rw [letters_same]
    _ = second := read_form second

theorem length_takeBits_le (named : List NamedBit) (mask : AccessMask) :
    (AccessControl.takeBits NamedBit.bit named mask).1.length ≤ named.length := by
  induction named generalizing mask with
  | nil => exact Nat.le_refl 0
  | cons first rest ih =>
      rw [AccessControl.takeBits]
      split
      · exact Nat.succ_le_succ (ih _)
      · exact Nat.le_succ_of_le (ih _)

theorem length_extraRights_le (raw : AccessMask) : (extraRights raw).length ≤ 22 := by
  have taken := length_takeBits_le namedBits (singleBits raw)
  have listed : namedBits.length = 20 := rfl
  unfold extraRights singleRights
  simp only [List.length_append, List.length_map]
  split <;> split <;> simp only [List.length_cons, List.length_nil] <;> omega

theorem length_label_le (raw : AccessMask) : (label raw).length ≤ 300 := by
  have each : ∀ piece ∈ ((extraRights raw).map ExtraRight.wording).map Prod.snd,
      piece.length + ",".length ≤ 11 := by
    have listed : ∀ named ∈ namedBits, named.short.length + 1 ≤ 11 := by decide
    intro piece member
    rcases List.mem_map.mp member with ⟨wording, inside, rfl⟩
    rcases List.mem_map.mp inside with ⟨extra, found, rfl⟩
    cases extra with
    | writeSet => exact (by decide : "W".length + ",".length ≤ 11)
    | single named => exact listed named (named_of_extraRights found)
    | otherBits bits =>
        have digits : (hexDigits bits).length ≤ 8 := by
          rw [hexDigits, String.length_ofList]
          refine (List.dropWhile_suffix _).length_le.trans ?_
          rw [Text.hex8, String.toList_ofList, List.length_map, List.length_range]
        simp only [ExtraRight.wording, toString]
        rw [String.length_append]
        have mark : "0x".length = 2 := rfl
        have comma : ",".length = 1 := rfl
        omega
  have lengths := length_join_le each
  rw [List.length_map, List.length_map] at lengths
  have count := length_extraRights_le raw
  unfold label
  by_cases nothing : raw = 0#32
  · rw [if_pos nothing]
    decide
  · rw [if_neg nothing, decompose_eq]
    cases baseLevel raw with
    | none =>
        have opening : "(".length = 1 := rfl
        have closing : ")".length = 1 := rfl
        simp only [toString]
        rw [String.length_append, String.length_append]
        omega
    | some level =>
        have own : level.short.length ≤ 2 := by cases level <;> decide
        have plus : "+".length = 1 := rfl
        simp only [toString]
        split
        · omega
        · rw [String.length_append, String.length_append]
          omega

/-! ## The rights in a box -/

/-- Lines that show a text whole. -/
structure ShowsAll (before : String) (text : String) (lines : List String) : Prop where
  width : ∀ line ∈ lines,
    line.length ≤ maxChars ∨ line = String.ofList (before.toList.rdropWhile Text.isWhitespace)
  shown : visibleIn lines = visible before.toList ++ visible text.toList

theorem rightsLines_showsAll {before : String} (small : before.length + 300 < 2 ^ 64)
    (mask : AccessMask) :
    ShowsAll before (displayName mask) (rightsLines before mask) ∨
      ShowsAll before (label mask) (rightsLines before mask) := by
  unfold rightsLines
  simp only
  by_cases long : (before ++ displayName mask).length ≤ maxChars
  · rw [if_pos long]
    refine .inl ⟨?_, ?_⟩
    · intro line listed
      rw [List.mem_singleton.mp listed]
      exact .inl long
    · rw [visibleIn_single, String.toList_append, visible_append]
  · rw [if_neg long]
    by_cases own : maxChars < (before ++ label mask).length ∧
        String.ofList (before.toList.rdropWhile Text.isWhitespace) ≠ "" ∧
          (label mask).length ≤ maxChars
    · rw [if_pos own]
      refine .inr ⟨?_, ?_⟩
      · intro line listed
        rcases List.mem_cons.mp listed with rfl | last
        · exact .inr rfl
        · rw [List.mem_singleton.mp last]
          exact .inl own.2.2
      · change visibleIn ([_] ++ [_]) = _
        rw [visibleIn_append, visibleIn_single, visibleIn_single, String.toList_ofList,
          visible_trimmed]
    · rw [if_neg own]
      have wrapped := @wrapLines_wrapped (2 ^ 64 - 1) (before ++ label mask) (by decide)
      refine .inr ⟨fun line listed => .inl (wrapped.width line listed), ?_⟩
      rcases wrapped.shown with whole | ⟨_, cut, _⟩
      · rw [← visible_append, ← String.toList_append]
        exact whole
      · have short := length_label_le mask
        rw [String.length_append] at cut
        omega

/-- A long form and a short form never show the same letters. -/
theorem visible_forms_ne (first second : AccessMask) :
    visible (displayName first).toList ≠ visible (label second).toList := by
  intro same
  rcases tells_displayName first with ⟨letter, listed, told⟩
  have seen : letter ∈ visible (displayName first).toList := by
    apply List.mem_filter.mpr
    refine ⟨listed, ?_⟩
    rcases List.mem_cons.mp told with rfl | later
    · decide
    · rcases List.mem_cons.mp later with rfl | last
      · decide
      · rw [List.mem_singleton.mp last]
        decide
  rw [same] at seen
  have passed := List.all_eq_true.mp (made_label second) letter (List.mem_filter.mp seen).1
  unfold shortLetter at passed
  rw [List.contains_iff_mem.mpr told] at passed
  simp at passed

theorem width_rightsLines {before : String} (small : before.length + 300 < 2 ^ 64)
    (mask : AccessMask) : ∀ line ∈ rightsLines before mask,
      line.length ≤ maxChars ∨
        line = String.ofList (before.toList.rdropWhile Text.isWhitespace) := by
  rcases rightsLines_showsAll small mask with long | short
  · exact long.width
  · exact short.width

/-- The lines of a box fit, apart from a prefix that does not, and no right is cut off:
two masks never have the same lines. -/
theorem rightsLines_complete (before : String) (small : before.length + 300 < 2 ^ 64) :
    (∀ mask, ∀ line ∈ rightsLines before mask,
      line.length ≤ maxChars ∨
        line = String.ofList (before.toList.rdropWhile Text.isWhitespace)) ∧
      Function.Injective (rightsLines before) := by
  have blankless := fun raw => letters_eq_visible (made_label raw) blank_shortLetter
  have spaced := fun raw => letters_eq_visible (made_displayName raw) blank_longLetter
  refine ⟨?_, ?_⟩
  · exact width_rightsLines small
  · intro first second same
    have shown := congrArg visibleIn same
    rcases rightsLines_showsAll small first with long | short
    · rcases rightsLines_showsAll small second with other | other
      · rw [long.shown, other.shown] at shown
        exact read_of_visible read_displayName spaced (List.append_cancel_left shown)
      · rw [long.shown, other.shown] at shown
        exact absurd (List.append_cancel_left shown) (visible_forms_ne first second)
    · rcases rightsLines_showsAll small second with other | other
      · rw [short.shown, other.shown] at shown
        exact absurd (List.append_cancel_left shown).symm (visible_forms_ne second first)
      · rw [short.shown, other.shown] at shown
        exact read_of_visible read_label blankless (List.append_cancel_left shown)

theorem rightsLines_complete_deny :
    (∀ mask, ∀ line ∈ rightsLines "Deny " mask,
      line.length ≤ maxChars ∨
        line = String.ofList ("Deny ".toList.rdropWhile Text.isWhitespace)) ∧
      Function.Injective (rightsLines "Deny ") :=
  rightsLines_complete "Deny " (by decide)

/-! ## The box of an entry -/

theorem length_fitMiddleTo {max : Nat} (room : 0 < max) (text : String) :
    (fitMiddleTo text max).length ≤ max := by
  unfold fitMiddleTo
  by_cases fits : text.length ≤ max
  · rw [if_pos fits]
    exact fits
  · rw [if_neg fits]
    simp only [String.length_append, String.length_ofList, List.length_take, List.length_drop,
      String.length_toList]
    have mark : "…".length = 1 := rfl
    omega

theorem length_fitName (text : String) : (fitName text).length ≤ maxChars := by
  unfold fitName
  by_cases fits : text.length ≤ maxChars
  · rw [if_pos fits]
    exact fits
  · rw [if_neg fits]
    split
    · rename_i rest _
      have tail := length_fitMiddleTo (by decide : 0 < maxChars - 2) (String.ofList rest)
      have mark : "…\\".length = 2 := rfl
      have wide : 2 ≤ maxChars := by decide
      rw [String.length_append]
      omega
    · exact length_fitMiddleTo (by decide) text

/-- Lines that show a prefix and the rights of a mask, in one of the two forms. -/
structure ShowsRights (before : String) (mask : AccessMask) (lines : List String) : Prop where
  width : ∀ line ∈ lines, line.length ≤ maxChars
  shown : ∃ form, (form = displayName mask ∨ form = label mask) ∧
    visibleIn lines = visible before.toList ++ visible form.toList

theorem rightsLines_showsRights {before : String} (small : before.length ≤ maxChars)
    (mask : AccessMask) : ShowsRights before mask (rightsLines before mask) := by
  have bounded : before.length + 300 < 2 ^ 64 := by
    have narrow : maxChars + 300 < 2 ^ 64 := by decide
    omega
  have head : (String.ofList (before.toList.rdropWhile Text.isWhitespace)).length ≤ maxChars := by
    rw [String.length_ofList]
    have part := (List.rdropWhile_prefix Text.isWhitespace (l := before.toList)).length_le
    rw [String.length_toList] at part
    omega
  have width : ∀ line ∈ rightsLines before mask, line.length ≤ maxChars := by
    intro line listed
    rcases (width_rightsLines bounded mask) line listed with fits | rfl
    · exact fits
    · exact head
  refine ⟨width, ?_⟩
  rcases rightsLines_showsAll bounded mask with long | short
  · exact ⟨_, .inl rfl, long.shown⟩
  · exact ⟨_, .inr rfl, short.shown⟩

/-- What the lines of an effect show: decided bits whole, and a reason whole or in two
lines of which the last one ends with a mark. -/
def ShowsEffect (outcome : AceOutcome) (lines : List String) : Prop :=
  match outcome.effect with
  | .decided bits =>
      ShowsRights (scopeWord outcome ++ (if outcome.kind = .allow then "grants " else "denies "))
        bits lines
  | .inheritOnly => Wrapped (scopeWord outcome ++ "inherit-only — not on this object") 2 lines
  | .uncertain reason => Wrapped (scopeWord outcome ++ "UNCERTAIN — " ++ reason) 2 lines
  | _ => Wrapped (scopeWord outcome ++ effectText outcome) 2 lines

theorem effectLines_showsEffect (outcome : AceOutcome) :
    ShowsEffect outcome (effectLines (scopeWord outcome) outcome) := by
  have two : 0 < 2 := by decide
  have small : (scopeWord outcome ++
      (if outcome.kind = .allow then "grants " else "denies ")).length ≤ maxChars := by
    unfold scopeWord
    cases outcome.inherited <;> cases outcome.kind <;> decide
  unfold ShowsEffect effectLines
  cases outcome.effect with
  | decided bits => exact rightsLines_showsRights small bits
  | noEffect => exact wrapLines_wrapped _ two
  | inheritOnly => exact wrapLines_wrapped _ two
  | uncertain reason => exact wrapLines_wrapped _ two
  | notApplied reason => exact wrapLines_wrapped _ two

theorem ShowsEffect.width {outcome : AceOutcome} {lines : List String}
    (shown : ShowsEffect outcome lines) : ∀ line ∈ lines, line.length ≤ maxChars := by
  unfold ShowsEffect at shown
  cases effect : outcome.effect with
  | decided bits =>
      rw [effect] at shown
      exact ShowsRights.width shown
  | noEffect =>
      rw [effect] at shown
      exact Wrapped.width shown
  | inheritOnly =>
      rw [effect] at shown
      exact Wrapped.width shown
  | uncertain reason =>
      rw [effect] at shown
      exact Wrapped.width shown
  | notApplied reason =>
      rw [effect] at shown
      exact Wrapped.width shown

/-- In the box of any entry every line fits, and its rights and the bits it decided are
shown whole. -/
theorem aceLines_shown (outcome : AceOutcome) :
    (∀ line ∈ aceLines outcome, line.length ≤ maxChars) ∧
      ∃ rights name effect, aceLines outcome = rights ++ [name] ++ effect ∧
        ShowsRights (kindWord outcome) (expandGenericRights outcome.mask) rights ∧
          ShowsEffect outcome effect := by
  have small : (kindWord outcome).length ≤ maxChars := by
    unfold kindWord
    cases outcome.kind <;> decide
  have rights := rightsLines_showsRights small (expandGenericRights outcome.mask)
  have effect := effectLines_showsEffect outcome
  refine ⟨?_, _, _, _, rfl, rights, effect⟩
  intro line listed
  rcases List.mem_append.mp listed with front | last
  · rcases List.mem_append.mp front with first | name
    · exact rights.width line first
    · rw [List.mem_singleton.mp name]
      exact length_fitName _
  · exact effect.width line last

end Viz
end Stars
