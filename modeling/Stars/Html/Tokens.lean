import Mathlib.Data.List.Basic

namespace Stars
namespace Html

/-!
# HTML tokens

A text of HTML as the tags and the letters between them, with the references that
stand for letters, and the elements that a document opens and closes.  No quoted
attribute value holds the end of its tag here.
-/

inductive Token where
  | tag (inner : List Char)
  | text (letters : List Char)
  | unfinished (inner : List Char)
deriving DecidableEq

/-- The letters read since the last tag, as a token if there are any. -/
def flushText : List Char → List Token
  | [] => []
  | letters => [.text letters]

/-- The tokens of a text, read inside of a tag or between two, behind what has been
read of the current token. -/
def tokensFrom (inTag : Bool) (read : List Char) : List Char → List Token
  | [] => if inTag then [.unfinished read] else flushText read
  | letter :: rest =>
      if inTag then
        if letter = '>' then .tag read :: tokensFrom false [] rest
        else tokensFrom true (read ++ [letter]) rest
      else if letter = '<' then flushText read ++ tokensFrom true [] rest
      else tokensFrom false (read ++ [letter]) rest

def tokens (html : List Char) : List Token := tokensFrom false [] html

/-- A piece of a document with these tokens, whatever follows it. -/
def Whole (piece : List Char) (parts : List Token) : Prop :=
  ∀ rest, tokens (piece ++ rest) = parts ++ tokens rest

def tagText (inner : List Char) : List Char := '<' :: (inner ++ ['>'])

theorem tokensFrom_inner {inner : List Char} (plain : '>' ∉ inner) (read rest : List Char) :
    tokensFrom true read (inner ++ '>' :: rest) = .tag (read ++ inner) :: tokens rest := by
  induction inner generalizing read with
  | nil =>
      rw [List.nil_append, List.append_nil, tokensFrom, if_pos rfl, if_pos rfl]
      rfl
  | cons letter inner ih =>
      have other : letter ≠ '>' := fun same => plain (same ▸ List.mem_cons_self)
      rw [List.cons_append, tokensFrom, if_pos rfl, if_neg other,
        ih (fun listed => plain (.tail _ listed)), List.append_assoc]
      rfl

theorem tokensFrom_letters {letters : List Char} (plain : '<' ∉ letters) (read rest : List Char) :
    tokensFrom false read (letters ++ rest) = tokensFrom false (read ++ letters) rest := by
  induction letters generalizing read with
  | nil => rw [List.nil_append, List.append_nil]
  | cons letter letters ih =>
      have other : letter ≠ '<' := fun same => plain (same ▸ List.mem_cons_self)
      rw [List.cons_append, tokensFrom, if_neg Bool.false_ne_true, if_neg other,
        ih (fun listed => plain (.tail _ listed)), List.append_assoc]
      rfl

theorem whole_nil : Whole [] [] := fun _ => rfl

theorem whole_append {first second : List Char} {heads tails : List Token}
    (whole : Whole first heads) (next : Whole second tails) :
    Whole (first ++ second) (heads ++ tails) := by
  intro rest
  rw [List.append_assoc, whole, next, List.append_assoc]

theorem whole_flatMap {Item : Type} {items : List Item} {piece : Item → List Char}
    {parts : Item → List Token} (whole : ∀ item ∈ items, Whole (piece item) (parts item)) :
    Whole (items.flatMap piece) (items.flatMap parts) := by
  induction items with
  | nil => exact whole_nil
  | cons item items ih =>
      rw [List.flatMap_cons, List.flatMap_cons]
      exact whole_append (whole item List.mem_cons_self)
        (ih (fun other listed => whole other (.tail _ listed)))

theorem whole_tagText {inner : List Char} (plain : '>' ∉ inner) :
    Whole (tagText inner) [.tag inner] := by
  intro rest
  rw [tokens, tagText, List.cons_append, tokensFrom, if_neg Bool.false_ne_true, if_pos rfl,
    List.append_assoc, List.singleton_append, tokensFrom_inner plain]
  rfl

/-- Letters end where a tag begins. -/
theorem whole_letters_tagText {letters inner : List Char} (filled : letters ≠ [])
    (text : '<' ∉ letters) (plain : '>' ∉ inner) :
    Whole (letters ++ tagText inner) [.text letters, .tag inner] := by
  intro rest
  have flushed : flushText letters = [.text letters] := by
    cases letters with
    | nil => exact absurd rfl filled
    | cons letter letters => rfl
  have begun : tokens (letters ++ (tagText inner ++ rest)) =
      flushText letters ++ tokens (tagText inner ++ rest) := by
    rw [tokens, tokensFrom_letters text]
    rfl
  rw [List.append_assoc, begun, flushed, whole_tagText plain]
  rfl

theorem Whole.tokens_eq {piece : List Char} {parts : List Token} (whole : Whole piece parts) :
    tokens piece = parts := by
  rw [← List.append_nil piece, whole]
  exact List.append_nil parts

/-- A text as it is shown, with the references of the letters HTML reserves read. -/
def shownText : List Char → List Char
  | '&' :: 'a' :: 'm' :: 'p' :: ';' :: rest => '&' :: shownText rest
  | '&' :: 'l' :: 't' :: ';' :: rest => '<' :: shownText rest
  | '&' :: 'g' :: 't' :: ';' :: rest => '>' :: shownText rest
  | '&' :: 'q' :: 'u' :: 'o' :: 't' :: ';' :: rest => '"' :: shownText rest
  | '&' :: '#' :: '3' :: '9' :: ';' :: rest => '\'' :: shownText rest
  | letter :: rest => letter :: shownText rest
  | [] => []

theorem shownText_cons {letter : Char} (plain : letter ≠ '&') (rest : List Char) :
    shownText (letter :: rest) = letter :: shownText rest := by
  rw [shownText]
  all_goals
    intro _ same
    exact fun _ => plain same

/-- The letters directly behind each tag of one kind, as they are shown. -/
def textsBehind (inner : List Char) : List Token → List (List Char)
  | .tag found :: .text letters :: rest =>
      if found = inner then shownText letters :: textsBehind inner rest
      else textsBehind inner rest
  | _ :: rest => textsBehind inner rest
  | [] => []

theorem textsBehind_other {inner found : List Char} (other : found ≠ inner)
    (rest : List Token) :
    textsBehind inner (.tag found :: rest) = textsBehind inner rest := by
  cases rest with
  | nil => rfl
  | cons next rest =>
      cases next with
      | tag next => rfl
      | text letters => exact if_neg other
      | unfinished letters => rfl

/-! ## Balanced elements -/

/-- The element a tag opens or, behind a slash, closes. -/
def tagName (inner : List Char) : List Char := inner.takeWhile (fun letter => letter ≠ ' ')

/-- Whether the elements of a name are opened and closed in turn, from a place inside
one or outside, so that each is closed and none stands in another. -/
def flat (name : List Char) : Bool → List Token → Bool
  | inside, [] => !inside
  | inside, .tag inner :: rest =>
      if tagName inner = name then !inside && flat name true rest
      else if tagName inner = '/' :: name then inside && flat name false rest
      else flat name inside rest
  | inside, _ :: rest => flat name inside rest

/-- Tokens that open and close no element of a name. -/
def Without (name : List Char) (parts : List Token) : Prop :=
  ∀ inner, Token.tag inner ∈ parts → tagName inner ≠ name ∧ tagName inner ≠ '/' :: name

theorem flat_append_of_without {name : List Char} {parts : List Token}
    (without : Without name parts) (inside : Bool) (rest : List Token) :
    flat name inside (parts ++ rest) = flat name inside rest := by
  induction parts with
  | nil => rfl
  | cons part parts ih =>
      have later : Without name parts := fun inner listed => without inner (.tail _ listed)
      cases part with
      | tag inner =>
          have other := without inner List.mem_cons_self
          rw [List.cons_append, flat, if_neg other.1, if_neg other.2, ih later]
      | text letters => exact ih later
      | unfinished inner => exact ih later

end Html
end Stars
