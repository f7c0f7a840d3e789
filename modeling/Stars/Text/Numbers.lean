import Stars.Text.Ascii

namespace Stars
namespace Text

/-!
# Decimal numbers

Texts of integers as the standard library parses them: a sign in front, then digits, and
a bound that the type of the integer sets.  Parsing ends at the first letter that is no
digit, or at the digit that takes the value past the bound.
-/

/-- The value behind the digits that were parsed before. -/
def parseDigits (bound : Nat) : Nat → List Char → Except String Nat
  | value, [] => .ok value
  | value, digit :: rest =>
      if digit.isDigit then
        let next := value * 10 + (digit.toNat - '0'.toNat)
        if next < bound then parseDigits bound next rest
        else .error "number too large to fit in target type"
      else .error "invalid digit found in string"

/-- An unsigned number below a bound.  A plus sign in front is allowed. -/
def parseInteger (bound : Nat) : List Char → Except String Nat
  | [] => .error "cannot parse integer from empty string"
  | ['+'] => .error "invalid digit found in string"
  | '+' :: digits => parseDigits bound 0 digits
  | digits => parseDigits bound 0 digits

/-- The number without the reason why there is none. -/
def parseUnsigned (bound : Nat) (text : List Char) : Option Nat :=
  (parseInteger bound text).toOption

/-- A signed number.  The bound itself is a magnitude of negative numbers only. -/
def parseSigned (bound : Nat) : List Char → Option Int
  | ['-'] => none
  | '-' :: digits =>
      (parseDigits (bound + 1) 0 digits).toOption.map (fun magnitude => -(magnitude : Int))
  | text => (parseUnsigned bound text).map (fun magnitude => (magnitude : Int))

/-- A text without a plus sign in front. -/
def withoutPlus : List Char → List Char
  | '+' :: digits => digits
  | digits => digits

section Parsed

variable {bound value number : Nat} {text digits : List Char}

theorem ofDigitChars_ge (value : Nat) (digits : List Char) :
    value ≤ Nat.ofDigitChars 10 digits value := by
  induction digits generalizing value with
  | nil => exact Nat.le_refl value
  | cons digit rest ih =>
      have next := ih (10 * value + (digit.toNat - '0'.toNat))
      rw [Nat.ofDigitChars_cons]
      omega

/-- Digits are parsed exactly when their value stays below the bound. -/
theorem parseDigits_eq_ok_iff (below : value < bound) :
    parseDigits bound value digits = .ok number ↔
      digits.all Char.isDigit = true ∧ Nat.ofDigitChars 10 digits value = number ∧
        number < bound := by
  induction digits generalizing value with
  | nil =>
      rw [parseDigits, Nat.ofDigitChars_nil, List.all_nil, Except.ok.injEq, eq_self_iff_true,
        true_and]
      constructor
      · intro same
        exact ⟨same, same ▸ below⟩
      · exact fun known => known.1
  | cons digit rest ih =>
      rw [parseDigits, Nat.ofDigitChars_cons, Nat.mul_comm 10, List.all_cons, Bool.and_eq_true]
      split
      · next isDigit =>
          rw [eq_true isDigit, true_and]
          dsimp only
          split
          · next fits => exact ih fits
          · next tooLarge =>
              constructor
              · intro impossible
                cases impossible
              · intro ⟨_, same, fits⟩
                have grows := ofDigitChars_ge (value * 10 + (digit.toNat - '0'.toNat)) rest
                omega
      · next other =>
          constructor
          · intro impossible
            cases impossible
          · exact fun known => absurd known.1.1 other

/-- A first digit does not need the bound to be positive. -/
theorem parseDigits_start_eq_ok_iff (something : digits ≠ []) :
    parseDigits bound 0 digits = .ok number ↔
      digits.all Char.isDigit = true ∧ Nat.ofDigitChars 10 digits 0 = number ∧ number < bound := by
  cases bound with
  | succ bound => exact parseDigits_eq_ok_iff (Nat.succ_pos bound)
  | zero =>
      refine iff_of_false ?_ (fun known => Nat.not_lt_zero _ known.2.2)
      cases digits with
      | nil => exact absurd rfl something
      | cons digit rest =>
          rw [parseDigits]
          split
          · intro impossible
            cases impossible
          · intro impossible
            cases impossible

theorem parseInteger_eq_ok_iff :
    parseInteger bound text = .ok number ↔
      withoutPlus text ≠ [] ∧ (withoutPlus text).all Char.isDigit = true ∧
        Nat.ofDigitChars 10 (withoutPlus text) 0 = number ∧ number < bound := by
  unfold parseInteger withoutPlus
  split
  · exact iff_of_false (fun impossible => by cases impossible) (fun known => known.1 rfl)
  · exact iff_of_false (fun impossible => by cases impossible) (fun known => known.1 rfl)
  · next digits something =>
      have nonempty : digits ≠ [] := fun empty => something (by rw [empty])
      rw [parseDigits_start_eq_ok_iff nonempty]
      exact (and_iff_right nonempty).symm
  · next nonempty _ unsigned =>
      split
      · next unsigned => exact (unsigned _ rfl).elim
      · rw [parseDigits_start_eq_ok_iff nonempty]
        exact (and_iff_right nonempty).symm

theorem parseUnsigned_eq_some_iff :
    parseUnsigned bound text = some number ↔ parseInteger bound text = .ok number := by
  rw [parseUnsigned]
  cases parseInteger bound text with
  | error reason =>
      constructor
      · intro impossible
        cases impossible
      · intro impossible
        cases impossible
  | ok found =>
      rw [Except.toOption, Option.some_inj, Except.ok.injEq]

theorem parseUnsigned_lt (read : parseUnsigned bound text = some number) : number < bound :=
  (parseInteger_eq_ok_iff.mp (parseUnsigned_eq_some_iff.mp read)).2.2.2

theorem parseUnsigned_of_lt {narrower : Nat} (read : parseUnsigned bound text = some number)
    (below : number < narrower) : parseUnsigned narrower text = some number := by
  rw [parseUnsigned_eq_some_iff, parseInteger_eq_ok_iff] at read ⊢
  exact ⟨read.1, read.2.1, read.2.2.1, below⟩

theorem parseUnsigned_mono {wider : Nat} (le : bound ≤ wider)
    (read : parseUnsigned bound text = some number) : parseUnsigned wider text = some number :=
  parseUnsigned_of_lt read (Nat.lt_of_lt_of_le (parseUnsigned_lt read) le)

theorem notMem_toDigits {letter : Char} (other : letter.isDigit = false) (number : Nat) :
    letter ∉ Nat.toDigits 10 number := by
  intro member
  rw [Nat.isDigit_of_mem_toDigits (by decide) (by decide) member] at other
  cases other

/-- A text without a plus sign in front is parsed as it is. -/
theorem withoutPlus_of_notMem (unsigned : '+' ∉ text) : withoutPlus text = text := by
  unfold withoutPlus
  split
  · exact absurd List.mem_cons_self unsigned
  · rfl

theorem parseUnsigned_toDigits (below : number < bound) :
    parseUnsigned bound (Nat.toDigits 10 number) = some number := by
  rw [parseUnsigned_eq_some_iff, parseInteger_eq_ok_iff,
    withoutPlus_of_notMem (notMem_toDigits rfl number)]
  refine ⟨Nat.toDigits_ne_nil, ?_, Nat.ofDigitChars_ten_toDigits, below⟩
  rw [List.all_eq_true]
  exact fun _ member => Nat.isDigit_of_mem_toDigits (by decide) (by decide) member

end Parsed

end Text
end Stars
