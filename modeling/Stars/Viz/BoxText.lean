import Mathlib.Data.List.DropRight
import Mathlib.Data.List.TakeWhile
import Stars.Core.Explanation
import Stars.PermissionEngine.RightsLabels

namespace Stars
namespace Viz

open PermissionEngine

/-!
# The lines of a box

A box of the permission graph shows lines of a fixed width.  A text that is longer
breaks into lines, and only a last line for which no further one is allowed is cut.
The rights of a mask have as many lines as they need, so that no right is lost.
-/

/-- How many characters fit into one line: the width of a box without its padding, by
the average advance of a character, which is 6.7. -/
def maxChars : Nat := (270 - 2 * 10) * 10 / 67

/-- Cut a text that is too long at its end. -/
def fit (text : String) : String :=
  if text.length ≤ maxChars then text
  else String.ofList (text.toList.take (maxChars - 1)) ++ "…"

/-- A line may end behind a comma or in front of a space. -/
def breaksAt (text : List Char) (place : Nat) : Bool :=
  text[place - 1]? = some ',' || text[place]? = some ' '

/-- Where a text longer than a line breaks: as late as possible, but never in its first
half. -/
def breakIndex (text : List Char) : Nat :=
  ((List.range' (maxChars / 2) (maxChars + 1 - maxChars / 2)).reverse.find?
    (breaksAt text)).getD maxChars

/-- Put lines in front of a rest until the rest fits or only the last line is left. -/
def wrapFrom (maxLines : Nat) : Nat → List String → List Char → List String × List Char
  | 0, lines, rest => (lines, rest)
  | fuel + 1, lines, rest =>
      if maxChars < rest.length ∧ lines.length + 1 < maxLines then
        let cut := breakIndex rest
        let line := String.ofList ((rest.take cut).rdropWhile Text.isWhitespace)
        wrapFrom maxLines fuel (lines ++ [line])
          ((rest.drop cut).dropWhile (fun letter => letter = ' '))
      else (lines, rest)

def wrapLines (text : String) (maxLines : Nat) : List String :=
  let (lines, rest) := wrapFrom maxLines text.length [] text.toList
  let last := String.ofList rest
  if last ≠ "" ∨ lines = [] then lines ++ [fit last] else lines

/-- As many lines as the text needs. -/
def wrapAll (text : String) : List String := wrapLines text (2 ^ 64 - 1)

/-- A prefix and the rights of a mask: in the long form when it fits one line, else in the
short form, behind the prefix, on a line of its own or broken into lines. -/
def rightsLines (before : String) (mask : AccessMask) : List String :=
  let long := before ++ displayName mask
  if long.length ≤ maxChars then [long]
  else
    let short := before ++ label mask
    let head := String.ofList (before.toList.rdropWhile Text.isWhitespace)
    if maxChars < short.length ∧ head ≠ "" ∧ (label mask).length ≤ maxChars then
      [head, label mask]
    else wrapAll short

/-- One or two lines, for reasons. -/
def wrap2 (text : String) : List String := wrapLines text 2

/-- Keep the start and the end of a text. -/
def fitMiddleTo (text : String) (max : Nat) : String :=
  if text.length ≤ max then text
  else
    let head := (max - 1) / 2
    let tail := max - 1 - head
    String.ofList (text.toList.take head) ++ "…" ++
      String.ofList (text.toList.drop (text.length - tail))

/-- Of a name that does not fit the domain goes first, then the middle. -/
def fitName (text : String) : String :=
  if text.length ≤ maxChars then text
  else
    match text.toList.dropWhile (fun letter => letter ≠ '\\') with
    | _ :: rest => "…\\" ++ fitMiddleTo (String.ofList rest) (maxChars - 2)
    | [] => fitMiddleTo text maxChars

/-- A trustee without the SID behind its name. -/
def shortName (display : String) : String :=
  let mark := " (S-".toList
  match (List.range display.length).reverse.find? (fun place =>
      mark.isPrefixOf (display.toList.drop place)) with
  | some place => String.ofList (display.toList.take place)
  | none => display

def effectText (outcome : AceOutcome) : String :=
  match outcome.effect with
  | .decided bits =>
      (if outcome.kind = .allow then "grants" else "denies") ++ " " ++ displayName bits
  | .noEffect => "no effective bits"
  | .inheritOnly => "inherit-only — not on this object"
  | .uncertain _ => "UNCERTAIN"
  | .notApplied _ => "not applied (deny-only)"

/-- The effect of an entry behind a prefix, in lines. -/
def effectLines (before : String) (outcome : AceOutcome) : List String :=
  match outcome.effect with
  | .decided bits =>
      rightsLines (before ++ (if outcome.kind = .allow then "grants " else "denies ")) bits
  | .inheritOnly => wrap2 (before ++ "inherit-only — not on this object")
  | .uncertain reason => wrap2 (before ++ "UNCERTAIN — " ++ reason)
  | _ => wrap2 (before ++ effectText outcome)

def kindWord (outcome : AceOutcome) : String :=
  if outcome.kind = .allow then "Allow " else "Deny "

def scopeWord (outcome : AceOutcome) : String :=
  if outcome.inherited then "inherited · " else "explicit · "

/-- The lines of the box of an entry. -/
def aceLines (outcome : AceOutcome) : List String :=
  rightsLines (kindWord outcome) (expandGenericRights outcome.mask) ++
    [fitName (shortName outcome.trustee)] ++ effectLines (scopeWord outcome) outcome

/-- The letters of a text that can be seen. -/
def visible (text : List Char) : List Char :=
  text.filter (fun letter => !Text.isWhitespace letter)

/-- The letters of some lines that can be seen. -/
def visibleIn (lines : List String) : List Char :=
  lines.flatMap (fun line => visible line.toList)

theorem visible_append (first second : List Char) :
    visible (first ++ second) = visible first ++ visible second := List.filter_append _ _

theorem visibleIn_append (first second : List String) :
    visibleIn (first ++ second) = visibleIn first ++ visibleIn second := List.flatMap_append

theorem visibleIn_single (line : String) : visibleIn [line] = visible line.toList :=
  List.append_nil _

/-- Blanks at the end of a line cannot be seen. -/
theorem visible_trimmed (text : List Char) :
    visible (text.rdropWhile Text.isWhitespace) = visible text := by
  have split := congrArg visible (@List.rdropWhile_append_rtakeWhile _ Text.isWhitespace text)
  have blank : visible (text.rtakeWhile Text.isWhitespace) = [] := by
    apply List.filter_eq_nil_iff.mpr
    intro letter listed
    rw [List.mem_rtakeWhile_imp listed]
    exact Bool.false_ne_true
  rwa [visible_append, blank, List.append_nil] at split

theorem visible_dropBlanks (text : List Char) :
    visible (text.dropWhile (fun letter => letter = ' ')) = visible text := by
  have split := congrArg visible
    (List.takeWhile_append_dropWhile (p := fun letter : Char => letter = ' ') (l := text))
  have blank : visible (text.takeWhile (fun letter => letter = ' ')) = [] := by
    apply List.filter_eq_nil_iff.mpr
    intro letter listed
    have space := List.mem_takeWhile_imp listed
    rw [of_decide_eq_true space]
    decide
  rwa [visible_append, blank, List.nil_append] at split

theorem breakIndex_bounds (text : List Char) :
    0 < breakIndex text ∧ breakIndex text ≤ maxChars := by
  unfold breakIndex
  cases found : (List.range' (maxChars / 2) (maxChars + 1 - maxChars / 2)).reverse.find?
      (breaksAt text) with
  | none => exact ⟨by decide, Nat.le_refl _⟩
  | some place =>
      have listed := List.mem_reverse.mp (List.mem_of_find?_eq_some found)
      rcases List.mem_range'_1.mp listed with ⟨low, high⟩
      have half : 0 < maxChars / 2 := by decide
      rw [Option.getD_some]
      exact ⟨Nat.lt_of_lt_of_le half low, by omega⟩

/-- What holds while a text is broken into lines. -/
structure Breaks (maxLines : Nat) (text : List Char) (lines : List String) (rest : List Char) :
    Prop where
  width : ∀ line ∈ lines, line.length ≤ maxChars
  room : lines.length < maxLines
  size : lines.length + rest.length ≤ text.length
  kept : visibleIn lines ++ visible rest = visible text

variable {maxLines : Nat} {text rest : List Char} {lines : List String}

theorem Breaks.step (breaks : Breaks maxLines text lines rest) (long : maxChars < rest.length)
    (more : lines.length + 1 < maxLines) :
    Breaks maxLines text
      (lines ++ [String.ofList ((rest.take (breakIndex rest)).rdropWhile Text.isWhitespace)])
      ((rest.drop (breakIndex rest)).dropWhile (fun letter => letter = ' ')) := by
  rcases breakIndex_bounds rest with ⟨positive, bound⟩
  refine ⟨?_, ?_, ?_, ?_⟩
  · intro line listed
    rcases List.mem_append.mp listed with earlier | last
    · exact breaks.width line earlier
    · rw [List.mem_singleton.mp last, String.length_ofList]
      have part := (List.rdropWhile_prefix Text.isWhitespace
        (l := rest.take (breakIndex rest))).length_le
      rw [List.length_take] at part
      omega
  · rw [List.length_append, List.length_singleton]
    exact more
  · have part := (List.dropWhile_suffix (fun letter : Char => letter = ' ')
      (l := rest.drop (breakIndex rest))).length_le
    have size := breaks.size
    rw [List.length_drop] at part
    rw [List.length_append, List.length_singleton]
    omega
  · rw [visibleIn_append, visibleIn_single, String.toList_ofList, visible_trimmed,
      visible_dropBlanks, List.append_assoc, ← visible_append, List.take_append_drop]
    exact breaks.kept

/-- The loop ends with a rest that fits, or with room for one more line only. -/
theorem breaks_wrapFrom (fuel : Nat) : ∀ lines rest, Breaks maxLines text lines rest →
    rest.length ≤ fuel →
      let broken := wrapFrom maxLines fuel lines rest
      Breaks maxLines text broken.1 broken.2 ∧
        (broken.2.length ≤ maxChars ∨ maxLines = broken.1.length + 1) := by
  induction fuel with
  | zero =>
      intro lines rest breaks enough
      exact ⟨breaks, .inl (Nat.le_trans enough (Nat.zero_le _))⟩
  | succ fuel ih =>
      intro lines rest breaks enough
      rw [wrapFrom]
      by_cases again : maxChars < rest.length ∧ lines.length + 1 < maxLines
      · rw [if_pos again]
        have next := breaks.step again.1 again.2
        refine ih _ _ next ?_
        have size := (List.dropWhile_suffix (fun letter : Char => letter = ' ')
          (l := rest.drop (breakIndex rest))).length_le
        have positive := (breakIndex_bounds rest).1
        rw [List.length_drop] at size
        omega
      · rw [if_neg again]
        refine ⟨breaks, ?_⟩
        have room := breaks.room
        rcases Nat.lt_or_ge maxChars rest.length with long | fits
        · have last : ¬ lines.length + 1 < maxLines := not_and.mp again long
          have full : maxLines = lines.length + 1 := by omega
          exact .inr full
        · exact .inl fits

/-! ## The lines of a text -/

theorem length_fit (text : String) : (fit text).length ≤ maxChars := by
  unfold fit
  by_cases fits : text.length ≤ maxChars
  · rw [if_pos fits]
    exact fits
  · rw [if_neg fits, String.length_append, String.length_ofList, List.length_take]
    have one : "…".length = 1 := rfl
    have something : 0 < maxChars := by decide
    omega

theorem fit_of_short {text : String} (fits : text.length ≤ maxChars) : fit text = text :=
  if_pos fits

theorem visibleIn_fit_of_long {text : String} (long : maxChars < text.length) :
    visibleIn [fit text] = visible (text.toList.take (maxChars - 1)) ++ ['…'] := by
  have cut : fit text = String.ofList (text.toList.take (maxChars - 1)) ++ "…" :=
    if_neg (Nat.not_le.mpr long)
  have mark : visible "…".toList = ['…'] := by decide
  rw [visibleIn_single, cut, String.toList_append, visible_append, String.toList_ofList, mark]

/-- Lines for a text: each fits, there are no more than allowed, and all letters that can
be seen are in them, unless all lines are used and the last one ends with a mark. -/
structure Wrapped (text : String) (maxLines : Nat) (lines : List String) : Prop where
  width : ∀ line ∈ lines, line.length ≤ maxChars
  count : lines.length ≤ maxLines
  shown : visibleIn lines = visible text.toList ∨
    lines.length = maxLines ∧ maxLines < text.length ∧
      ∃ seen, seen <+: visible text.toList ∧ visibleIn lines = seen ++ ['…']

theorem wrapLines_wrapped (text : String) (room : 0 < maxLines) :
    Wrapped text maxLines (wrapLines text maxLines) := by
  have start : Breaks maxLines text.toList [] text.toList :=
    ⟨fun _ listed => absurd listed List.not_mem_nil, room, Nat.le_of_eq (Nat.zero_add _), rfl⟩
  have ended := breaks_wrapFrom text.length [] text.toList start
    (Nat.le_of_eq String.length_toList)
  unfold wrapLines
  cases broken : wrapFrom maxLines text.length [] text.toList with
  | mk lines rest =>
      rw [broken] at ended
      change Breaks maxLines text.toList lines rest ∧
        (rest.length ≤ maxChars ∨ maxLines = lines.length + 1) at ended
      rcases ended with ⟨breaks, ends⟩
      simp only
      by_cases last : String.ofList rest ≠ "" ∨ lines = []
      · rw [if_pos last]
        refine ⟨?_, ?_, ?_⟩
        · intro line listed
          rcases List.mem_append.mp listed with earlier | final
          · exact breaks.width line earlier
          · rw [List.mem_singleton.mp final]
            exact length_fit _
        · rw [List.length_append, List.length_singleton]
          exact breaks.room
        · rw [visibleIn_append]
          rcases Nat.lt_or_ge maxChars rest.length with long | fits
          · -- No further line was allowed, so the last one is cut.
            have full := ends.resolve_left (Nat.not_le.mpr long)
            have size := breaks.size
            rw [String.length_toList] at size
            have wide : 1 < maxChars := by decide
            refine .inr ⟨by rw [List.length_append, List.length_singleton, full], by omega, ?_⟩
            refine ⟨visibleIn lines ++ visible (rest.take (maxChars - 1)), ?_, ?_⟩
            · have whole := breaks.kept
              rw [← List.take_append_drop (maxChars - 1) rest, visible_append,
                ← List.append_assoc] at whole
              exact ⟨_, whole⟩
            · rw [visibleIn_fit_of_long (by rw [String.length_ofList]; exact long),
                String.toList_ofList, List.append_assoc]
          · rw [fit_of_short (by rw [String.length_ofList]; exact fits), visibleIn_single,
              String.toList_ofList]
            exact .inl breaks.kept
      · rw [if_neg last]
        have empty : rest = [] := by
          have blank := not_not.mp (not_or.mp last).1
          rw [← String.toList_ofList (l := rest), blank]
          rfl
        refine ⟨breaks.width, Nat.le_of_lt breaks.room, .inl ?_⟩
        have kept := breaks.kept
        rw [empty] at kept
        exact (List.append_nil _).symm.trans kept

end Viz
end Stars
