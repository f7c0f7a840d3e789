import Stars.AdResolver.ForestTrustInfo
import Stars.Collections.Fallible
import Stars.Core.Error
import Stars.Text.Pieces

namespace Stars
namespace Validation

open AdResolver (isControl)
open Collections

/-!
# Server and share names

The names that reach the network API.  Each validation trims its input and returns
the trimmed name exactly when this is well formed.
-/

def maxHostLen : Nat := 255

def maxShareLen : Nat := 80

def isHostLetter (letter : Char) : Bool :=
  letter.isAlphanum || letter == '.' || letter == '-' || letter == '_'

def checkHostname (trimmed : List Char) (label : String) : Except CoreError Unit :=
  let shown := String.ofList trimmed
  if trimmed.isEmpty then .error (.validation s!"{label} must not be empty")
  else if maxHostLen < shown.utf8ByteSize then
    .error (.validation s!"{label} must not exceed {maxHostLen} characters")
  else if trimmed.any isControl then
    .error (.validation s!"{label} must not contain control characters")
  else if trimmed.contains '\\' || trimmed.contains '/' then
    .error (.validation s!"{label} must be a host name without path separators: {shown}")
  else if trimmed.contains ':' then
    .error (.validation (s!"{label} must not contain ':' — IPv6 literals are not supported " ++
      s!"(known-limitations L13); use the host's DNS name or IPv4 address: {shown}"))
  else
    match trimmed.find? (fun letter => !isHostLetter letter) with
    | some bad => .error (.validation s!"{label} contains an invalid character '{bad}': {shown}")
    | none => .ok ()

def validateSmbServer (input : String) : Except CoreError String := do
  let trimmed := Text.trim input.toList
  checkHostname trimmed "SMB server name"
  pure (String.ofList trimmed)

def forbiddenShareChars : List Char :=
  ['\\', '/', '"', '[', ']', ':', '|', '<', '>', '+', '=', ';', ',', '*', '?']

def validateShareName (input : String) : Except CoreError String :=
  let trimmed := Text.trim input.toList
  let shown := String.ofList trimmed
  if trimmed.isEmpty then .error (.validation "Share name must not be empty")
  else if maxShareLen < shown.utf8ByteSize then
    .error (.validation s!"Share name must not exceed {maxShareLen} characters")
  else if trimmed.any isControl then
    .error (.validation "Share name must not contain control characters")
  else
    match trimmed.find? forbiddenShareChars.contains with
    | some bad =>
        .error (.validation s!"Share name contains a forbidden character '{bad}': {shown}")
    | none => .ok shown

/-! ## Well-formed names -/

/-- A name of at most so many bytes that consists of allowed letters. -/
structure WellFormed (maxLen : Nat) (allowed : Char → Bool) (name : List Char) : Prop where
  nonempty : name ≠ []
  short : (String.ofList name).utf8ByteSize ≤ maxLen
  letters : ∀ letter ∈ name, allowed letter = true

abbrev IsHostname : List Char → Prop := WellFormed maxHostLen isHostLetter

def isShareLetter (letter : Char) : Bool :=
  !isControl letter && !forbiddenShareChars.contains letter

abbrev IsShareName : List Char → Prop := WellFormed maxShareLen isShareLetter

section Names

variable {trimmed : List Char} {input result : String}

theorem isControl_of_alphanum {letter : Char} (alphanumeric : letter.isAlphanum = true) :
    isControl letter = false := by
  have known : letter.val.toNat = letter.toNat := rfl
  have bounds : 'A'.val.toNat = 65 ∧ 'Z'.val.toNat = 90 ∧ 'a'.val.toNat = 97 ∧
      'z'.val.toNat = 122 ∧ '0'.val.toNat = 48 ∧ '9'.val.toNat = 57 := by decide
  delta Char.isAlphanum Char.isAlpha Char.isUpper Char.isLower Char.isDigit at alphanumeric
  simp only [Bool.or_eq_true, Bool.and_eq_true, decide_eq_true_eq, UInt32.le_iff_toNat_le,
    ge_iff_le, known] at alphanumeric
  simp only [isControl, Bool.or_eq_false_iff, Bool.and_eq_false_iff, decide_eq_false_iff_not]
  omega

/-- A letter of a host name is neither a control character nor a separator. -/
theorem hostLetter_plain {letter : Char} (allowed : isHostLetter letter = true) :
    isControl letter = false ∧ letter ≠ '\\' ∧ letter ≠ '/' ∧ letter ≠ ':' ∧ letter ≠ '?' := by
  refine ⟨?_, ?_, ?_, ?_, ?_⟩
  · simp only [isHostLetter, Bool.or_eq_true, beq_iff_eq] at allowed
    rcases allowed with ((alphanumeric | same) | same) | same
    · exact isControl_of_alphanum alphanumeric
    all_goals
      rw [same]
      decide
  all_goals
    intro same
    rw [same] at allowed
    revert allowed
    decide

theorem checkHostname_eq_ok_iff (label : String) :
    checkHostname trimmed label = .ok () ↔ IsHostname trimmed := by
  have letters_iff : trimmed.find? (fun letter => !isHostLetter letter) = none ↔
      ∀ letter ∈ trimmed, isHostLetter letter = true := by
    simp only [List.find?_eq_none, Bool.not_eq_true', Bool.not_eq_false]
  simp only [checkHostname, ite_error_eq_ok_iff]
  constructor
  · intro ⟨something, short, _, _, _, last⟩
    refine ⟨fun nothing => something (List.isEmpty_iff.mpr nothing), Nat.le_of_not_lt short,
      letters_iff.mp ?_⟩
    cases searched : trimmed.find? (fun letter => !isHostLetter letter) with
    | none => rfl
    | some bad =>
        rw [searched] at last
        cases last
  · intro known
    -- No letter of a host name is one of those that are refused first.
    have plain (letter : Char) (listed : letter ∈ trimmed) :=
      hostLetter_plain (known.letters letter listed)
    refine ⟨fun nothing => known.nonempty (List.isEmpty_iff.mp nothing),
      Nat.not_lt.mpr known.short, ?_, ?_, ?_, ?_⟩
    · rw [List.any_eq_true]
      intro ⟨letter, listed, control⟩
      rw [(plain letter listed).1] at control
      cases control
    · rw [Bool.or_eq_true, List.contains_iff_mem, List.contains_iff_mem]
      intro separator
      rcases separator with listed | listed
      · exact (plain _ listed).2.1 rfl
      · exact (plain _ listed).2.2.1 rfl
    · rw [List.contains_iff_mem]
      exact fun listed => (plain _ listed).2.2.2.1 rfl
    · rw [letters_iff.mpr known.letters]

theorem validateSmbServer_eq_ok_iff : validateSmbServer input = .ok result ↔
    IsHostname (Text.trim input.toList) ∧ result = String.ofList (Text.trim input.toList) := by
  rw [← checkHostname_eq_ok_iff "SMB server name", validateSmbServer]
  cases checkHostname (Text.trim input.toList) "SMB server name" with
  | error reason =>
      constructor
      · intro impossible
        cases impossible
      · intro impossible
        cases impossible.1
  | ok checked =>
      constructor
      · intro accepted
        cases accepted
        exact ⟨rfl, rfl⟩
      · intro accepted
        rw [accepted.2]
        rfl

theorem validateShareName_eq_ok_iff : validateShareName input = .ok result ↔
    IsShareName (Text.trim input.toList) ∧ result = String.ofList (Text.trim input.toList) := by
  have letters_iff (trimmed : List Char) : (∀ letter ∈ trimmed, isShareLetter letter = true) ↔
      trimmed.any isControl = false ∧ trimmed.find? forbiddenShareChars.contains = none := by
    simp only [isShareLetter, Bool.and_eq_true, Bool.not_eq_true', List.any_eq_false,
      List.find?_eq_none, Bool.not_eq_true, forall_and]
  simp only [validateShareName, ite_error_eq_ok_iff]
  constructor
  · intro ⟨something, short, noControl, last⟩
    cases searched : (Text.trim input.toList).find? forbiddenShareChars.contains with
    | some bad =>
        rw [searched] at last
        cases last
    | none =>
        rw [searched] at last
        refine ⟨⟨fun nothing => something (List.isEmpty_iff.mpr nothing),
          Nat.le_of_not_lt short, (letters_iff _).mpr ⟨?_, searched⟩⟩, ?_⟩
        · exact Bool.eq_false_of_not_eq_true noControl
        · exact (Except.ok.inj last).symm
  · intro ⟨known, same⟩
    rcases (letters_iff _).mp known.letters with ⟨noControl, searched⟩
    refine ⟨fun nothing => known.nonempty (List.isEmpty_iff.mp nothing),
      Nat.not_lt.mpr known.short, Bool.not_eq_true _ ▸ noControl, ?_⟩
    rw [searched, same]

end Names

end Validation
end Stars
