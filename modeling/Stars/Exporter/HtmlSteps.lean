import Stars.Collections.Runs
import Stars.Html.Tokens
import Stars.PermissionEngine.CollapsedSteps

namespace Stars

open Collections PermissionEngine

/-!
# Explanation steps in the HTML report

The report writes the steps of an explanation one after the other and opens a
`details` element where a run of collapsible steps begins.  `stepsHtml_complete`
reads the document back: the steps in their order, and each run in one element.
-/

namespace Exporter

/-- A text with each occurrence of one letter replaced. -/
def replaceLetter (letter : Char) (replacement : String) (text : String) : String :=
  String.ofList (text.toList.flatMap
    (fun other => if other = letter then replacement.toList else [other]))

def escapeHtml (text : String) : String :=
  replaceLetter '\'' "&#39;" (replaceLetter '"' "&quot;" (replaceLetter '>' "&gt;"
    (replaceLetter '<' "&lt;" (replaceLetter '&' "&amp;" text))))

def detailsStart : String := "<details class=\"memberships\"><summary>"

def notDecisive : String := " further membership(s) — not decisive for this result"

def summaryClosing : String := "</summary>"

/-- The beginning of a collapsed run of so many memberships. -/
def detailsOpening (hidden : Nat) : String :=
  detailsStart ++ (toString hidden ++ notDecisive) ++ summaryClosing

def detailsClosing : String := "</details>"

def stepOpening : String := "<div class=\"step\">• "

def stepClosing : String := "</div>"

def stepDiv (step : String) : String := stepOpening ++ escapeHtml step ++ stepClosing

structure StepsHtml where
  html : String := ""
  detailsOpen : Bool := false

namespace StepsHtml

/-- Open or close the `details` element before a step that may be collapsed or not. -/
def toggle (collapsible : List Bool) (state : StepsHtml) (collapse : Bool) (idx : Nat) :
    StepsHtml :=
  if collapse && !state.detailsOpen then
    -- The size of this collapsed run, not of all of them.
    let hidden := ((collapsible.drop idx).takeWhile id).length
    { html := state.html ++ detailsOpening hidden, detailsOpen := true }
  else if !collapse && state.detailsOpen then
    { html := state.html ++ detailsClosing, detailsOpen := false }
  else state

def push (collapsible : List Bool) (state : StepsHtml) (entry : (String × Bool) × Nat) :
    StepsHtml :=
  let toggled := state.toggle collapsible entry.1.2 entry.2
  { toggled with html := toggled.html ++ stepDiv entry.1.1 }

def finish (state : StepsHtml) : String :=
  if state.detailsOpen then state.html ++ detailsClosing else state.html

end StepsHtml

/-- The steps of one explanation as `write_permissions_table` writes them. -/
def stepsHtml (steps : List String) : String :=
  let collapsible := collapsibleSteps steps
  ((steps.zip collapsible).zipIdx.foldl (StepsHtml.push collapsible) {}).finish

/-- A membership without a marker in a path of many memberships. -/
def hiddenIn (steps : List String) (step : String) : Bool :=
  membershipCollapseThreshold < (steps.filter (Text.startsWith "Member of ")).length &&
    isCollapsibleMembershipStep step

/-- The letters of some steps. -/
def stepsText (steps : List String) : List Char := steps.flatMap (fun step => (stepDiv step).toList)

/-- A block of steps as it stands in the document. -/
def blockText : Block String → List Char
  | .single step => (stepDiv step).toList
  | .run steps =>
      (detailsOpening steps.length).toList ++ (stepsText steps ++ detailsClosing.toList)

theorem collapsibleSteps_eq (steps : List String) :
    collapsibleSteps steps = steps.map (hiddenIn steps) := by
  unfold collapsibleSteps
  by_cases few : (steps.filter (Text.startsWith "Member of ")).length ≤ membershipCollapseThreshold
  · rw [if_pos few]
    refine List.map_congr_left (fun step _ => ?_)
    rw [hiddenIn, decide_eq_false (Nat.not_lt.mpr few), Bool.false_and]
  · rw [if_neg few]
    refine List.map_congr_left (fun step _ => ?_)
    rw [hiddenIn, decide_eq_true (Nat.not_le.mp few), Bool.true_and]

/-- What is still to be written behind a state, given the steps to come. -/
def restText (hides : String → Bool) (steps : List String) : Bool → List Char
  | false => (blocksOf hides steps).flatMap blockText
  | true =>
      stepsText (steps.takeWhile hides) ++
        (detailsClosing.toList ++ (blocksOf hides (steps.dropWhile hides)).flatMap blockText)

variable {hides : String → Bool}

theorem restText_hidden {step : String} (hidden : hides step = true) (rest : List String) :
    restText hides (step :: rest) true = (stepDiv step).toList ++ restText hides rest true := by
  rw [restText, List.takeWhile_cons_of_pos hidden, List.dropWhile_cons_of_pos hidden, stepsText,
    List.flatMap_cons, List.append_assoc]
  rfl

theorem restText_shown {step : String} (shown : hides step = false) (rest : List String) :
    restText hides (step :: rest) false = (stepDiv step).toList ++ restText hides rest false := by
  rw [restText, blocksOf, if_neg (Bool.eq_false_iff.mp shown), List.flatMap_cons]
  rfl

/-- A run begins with its size, which is the number of its steps. -/
theorem restText_opens {step : String} (hidden : hides step = true) (rest : List String) :
    restText hides (step :: rest) false =
      (detailsOpening ((step :: rest).takeWhile hides).length).toList ++
        restText hides (step :: rest) true := by
  rw [restText, blocksOf_hidden hidden, List.flatMap_cons, blockText,
    List.takeWhile_cons_of_pos hidden, restText, List.takeWhile_cons_of_pos hidden,
    List.dropWhile_cons_of_pos hidden, List.append_assoc, List.append_assoc]

theorem restText_closes {step : String} (shown : hides step = false) (rest : List String) :
    restText hides (step :: rest) true =
      detailsClosing.toList ++ restText hides (step :: rest) false := by
  simp only [restText, List.takeWhile_cons_of_neg (Bool.eq_false_iff.mp shown),
    List.dropWhile_cons_of_neg (Bool.eq_false_iff.mp shown)]
  rfl

namespace StepsHtml

/-- Behind a step the element is open exactly when the step may be collapsed. -/
theorem toggle_detailsOpen (collapsible : List Bool) (state : StepsHtml) (collapse : Bool)
    (idx : Nat) : (state.toggle collapsible collapse idx).detailsOpen = collapse := by
  unfold toggle
  cases collapse with
  | true =>
      cases opened : state.detailsOpen with
      | true => exact opened
      | false => rfl
  | false =>
      cases opened : state.detailsOpen with
      | true => rfl
      | false => exact opened

theorem takeWhile_flags (steps : List String) :
    ((steps.map hides).takeWhile id).length = (steps.takeWhile hides).length := by
  rw [List.takeWhile_map, List.length_map]
  rfl

/-- What opens or closes before a step is what is due there. -/
theorem toggle_text (before : List Bool) (state : StepsHtml) (step : String)
    (rest : List String) :
    (state.toggle (before ++ (step :: rest).map hides) (hides step) before.length).html.toList ++
        restText hides (step :: rest) (hides step) =
      state.html.toList ++ restText hides (step :: rest) state.detailsOpen := by
  unfold toggle
  rw [List.drop_left, takeWhile_flags]
  cases hidden : hides step with
  | true =>
      cases opened : state.detailsOpen with
      | true => rfl
      | false =>
          rw [restText_opens hidden, ← List.append_assoc, ← String.toList_append]
          rfl
  | false =>
      cases opened : state.detailsOpen with
      | true =>
          rw [restText_closes hidden, ← List.append_assoc, ← String.toList_append]
          rfl
      | false => rfl

/-- A written step takes one step from what is still to be written. -/
theorem push_text (before : List Bool) (state : StepsHtml) (step : String) (rest : List String) :
    let pushed := state.push (before ++ (step :: rest).map hides)
      ((step, hides step), before.length)
    pushed.html.toList ++ restText hides rest pushed.detailsOpen =
      state.html.toList ++ restText hides (step :: rest) state.detailsOpen := by
  have own : restText hides (step :: rest) (hides step) =
      (stepDiv step).toList ++ restText hides rest (hides step) := by
    cases hidden : hides step with
    | true => exact restText_hidden hidden rest
    | false => exact restText_shown hidden rest
  rw [← toggle_text, own, ← List.append_assoc, ← String.toList_append]
  change _ ++ restText hides rest (state.toggle _ (hides step) before.length).detailsOpen = _
  rw [toggle_detailsOpen]
  rfl

theorem finish_text (state : StepsHtml) :
    state.finish.toList = state.html.toList ++ restText hides [] state.detailsOpen := by
  unfold finish
  cases state.detailsOpen with
  | true => exact String.toList_append
  | false => exact (List.append_nil _).symm

theorem foldl_push_text (before : List Bool) (state : StepsHtml) (steps : List String) :
    (((steps.zip (steps.map hides)).zipIdx before.length).foldl
        (push (before ++ steps.map hides)) state).finish.toList =
      state.html.toList ++ restText hides steps state.detailsOpen := by
  induction steps generalizing before state with
  | nil => exact finish_text state
  | cons step rest ih =>
      rw [← push_text before state step rest]
      have later := ih (before ++ [hides step])
        (state.push (before ++ (step :: rest).map hides) ((step, hides step), before.length))
      rw [List.append_assoc, List.length_append] at later
      exact later

end StepsHtml

theorem stepsHtml_text (steps : List String) :
    (stepsHtml steps).toList = (blocksOf (hiddenIn steps) steps).flatMap blockText := by
  unfold stepsHtml
  rw [collapsibleSteps_eq]
  exact StepsHtml.foldl_push_text [] {} steps

/-! ## The document read back -/

/-- What a letter is written as. -/
def escapeLetter (letter : Char) : List Char :=
  if letter = '&' then "&amp;".toList
  else if letter = '<' then "&lt;".toList
  else if letter = '>' then "&gt;".toList
  else if letter = '"' then "&quot;".toList
  else if letter = '\'' then "&#39;".toList
  else [letter]

/-- The replacements one after the other write each letter once: none of them brings a
letter that a later one replaces. -/
theorem escapeHtml_letters (text : String) :
    (escapeHtml text).toList = text.toList.flatMap escapeLetter := by
  simp only [escapeHtml, replaceLetter, String.toList_ofList, List.flatMap_assoc]
  refine List.flatMap_congr (fun letter _ => ?_)
  unfold escapeLetter
  split_ifs with ampersand less greater quote apostrophe
  · decide
  · rw [less]
    decide
  · rw [greater]
    decide
  · rw [quote]
    decide
  · rw [apostrophe]
    decide
  · simp only [List.flatMap_cons, List.flatMap_nil, List.append_nil, if_neg less, if_neg greater,
      if_neg quote, if_neg apostrophe]

theorem escapeLetter_plain (letter : Char) : '<' ∉ escapeLetter letter := by
  unfold escapeLetter
  split_ifs with ampersand less greater quote apostrophe
  · decide
  · decide
  · decide
  · decide
  · decide
  · exact fun listed => less (List.mem_singleton.mp listed).symm

theorem escapeHtml_plain (text : String) : '<' ∉ (escapeHtml text).toList := by
  rw [escapeHtml_letters]
  intro listed
  rcases List.mem_flatMap.mp listed with ⟨letter, _, own⟩
  exact escapeLetter_plain letter own

theorem shownText_escapeLetter (letter : Char) (rest : List Char) :
    Html.shownText (escapeLetter letter ++ rest) = letter :: Html.shownText rest := by
  unfold escapeLetter
  split_ifs with ampersand less greater quote apostrophe
  · rw [ampersand]
    rfl
  · rw [less]
    rfl
  · rw [greater]
    rfl
  · rw [quote]
    rfl
  · rw [apostrophe]
    rfl
  · exact Html.shownText_cons ampersand rest

/-- An escaped text is shown as it was. -/
theorem shownText_escapeHtml (text : String) :
    Html.shownText (escapeHtml text).toList = text.toList := by
  rw [escapeHtml_letters]
  induction text.toList with
  | nil => rfl
  | cons letter rest ih => rw [List.flatMap_cons, shownText_escapeLetter, ih]

def stepTag : List Char := "div class=\"step\"".toList

def stepEnd : List Char := "/div".toList

def detailsTag : List Char := "details class=\"memberships\"".toList

def detailsEnd : List Char := "/details".toList

def summaryTag : List Char := "summary".toList

def summaryEnd : List Char := "/summary".toList

def bullet : List Char := "• ".toList

/-- The element of one step. -/
def stepTokens (step : String) : List Html.Token :=
  [.tag stepTag, .text (bullet ++ (escapeHtml step).toList), .tag stepEnd]

/-- What a collapsed run says about itself. -/
def summaryOf (hidden : Nat) : String := toString hidden ++ notDecisive

/-- The beginning of a collapsed run. -/
def summaryTokens (hidden : Nat) : List Html.Token :=
  [.tag detailsTag, .tag summaryTag, .text (summaryOf hidden).toList, .tag summaryEnd]

def blockTokens : Block String → List Html.Token
  | .single step => stepTokens step
  | .run steps => summaryTokens steps.length ++ (steps.flatMap stepTokens ++ [.tag detailsEnd])

theorem whole_stepDiv (step : String) : Html.Whole (stepDiv step).toList (stepTokens step) := by
  have opening : stepOpening.toList = Html.tagText stepTag ++ bullet := by
    decide
  have closing : stepClosing.toList = Html.tagText stepEnd := by decide
  have filled : bullet ++ (escapeHtml step).toList ≠ [] :=
    List.append_ne_nil_of_left_ne_nil (by decide) _
  have plain : '<' ∉ bullet ++ (escapeHtml step).toList := by
    intro listed
    rcases List.mem_append.mp listed with own | own
    · exact absurd own (by decide)
    · exact escapeHtml_plain step own
  have first : Html.Whole (Html.tagText stepTag) [.tag stepTag] :=
    Html.whole_tagText (by decide)
  have rest : Html.Whole (bullet ++ (escapeHtml step).toList ++ Html.tagText stepEnd)
      [.text (bullet ++ (escapeHtml step).toList), .tag stepEnd] :=
    Html.whole_letters_tagText filled plain (by decide)
  have written : (stepDiv step).toList =
      Html.tagText stepTag ++ (bullet ++ (escapeHtml step).toList ++ Html.tagText stepEnd) := by
    rw [stepDiv, String.toList_append, String.toList_append, opening, closing]
    simp only [List.append_assoc]
  rw [written]
  exact Html.whole_append first rest

theorem summaryOf_plain (hidden : Nat) : '<' ∉ (summaryOf hidden).toList := by
  rw [summaryOf, String.toList_append]
  intro listed
  rcases List.mem_append.mp listed with own | own
  · exact absurd (Text.isDigit_of_mem_toString own) (by decide)
  · exact absurd own (by decide)

theorem whole_detailsOpening (hidden : Nat) :
    Html.Whole (detailsOpening hidden).toList (summaryTokens hidden) := by
  have opening : detailsStart.toList =
      Html.tagText detailsTag ++ Html.tagText summaryTag := by
    decide
  have closing : summaryClosing.toList = Html.tagText summaryEnd := by decide
  have filled : (summaryOf hidden).toList ≠ [] := by
    rw [summaryOf, String.toList_append]
    exact List.append_ne_nil_of_right_ne_nil _ (by decide)
  have first : Html.Whole (Html.tagText detailsTag) [.tag detailsTag] :=
    Html.whole_tagText (by decide)
  have second : Html.Whole (Html.tagText summaryTag) [.tag summaryTag] :=
    Html.whole_tagText (by decide)
  have rest : Html.Whole ((summaryOf hidden).toList ++ Html.tagText summaryEnd)
      [.text (summaryOf hidden).toList, .tag summaryEnd] :=
    Html.whole_letters_tagText filled (summaryOf_plain hidden) (by decide)
  have written : (detailsOpening hidden).toList = Html.tagText detailsTag ++
      (Html.tagText summaryTag ++ ((summaryOf hidden).toList ++ Html.tagText summaryEnd)) := by
    rw [detailsOpening, String.toList_append, String.toList_append, opening, closing]
    simp only [List.append_assoc]
    rfl
  rw [written]
  exact Html.whole_append first (Html.whole_append second rest)

theorem whole_blockText (block : Block String) :
    Html.Whole (blockText block) (blockTokens block) := by
  cases block with
  | single step => exact whole_stepDiv step
  | run steps =>
      have closing : detailsClosing.toList = Html.tagText detailsEnd := by decide
      have last : Html.Whole (Html.tagText detailsEnd) [.tag detailsEnd] :=
        Html.whole_tagText (by decide)
      rw [blockText, closing]
      exact Html.whole_append (whole_detailsOpening steps.length)
        (Html.whole_append (Html.whole_flatMap (fun step _ => whole_stepDiv step)) last)

/-- The written steps as a reader of HTML finds them. -/
def stepsDocument (steps : List String) : List Html.Token := Html.tokens (stepsHtml steps).toList

theorem stepsDocument_eq (steps : List String) :
    stepsDocument steps = (blocksOf (hiddenIn steps) steps).flatMap blockTokens := by
  rw [stepsDocument, stepsHtml_text]
  exact (Html.whole_flatMap (fun block _ => whole_blockText block)).tokens_eq

/-! ## Every step, and no element in another -/

def detailsName : List Char := "details".toList

theorem shownText_bullet (text : List Char) :
    Html.shownText (bullet ++ text) = bullet ++ Html.shownText text := by
  change Html.shownText ('•' :: ' ' :: text) = '•' :: ' ' :: Html.shownText text
  rw [Html.shownText_cons (by decide), Html.shownText_cons (by decide)]

theorem textsBehind_stepTokens (step : String) (rest : List Html.Token) :
    Html.textsBehind stepTag (stepTokens step ++ rest) =
      (bullet ++ step.toList) :: Html.textsBehind stepTag rest := by
  have other : stepEnd ≠ stepTag := by decide
  change Html.textsBehind stepTag
    (.tag stepTag :: .text (bullet ++ (escapeHtml step).toList) :: .tag stepEnd :: rest) = _
  rw [Html.textsBehind, if_pos rfl, shownText_bullet, shownText_escapeHtml,
    Html.textsBehind_other other]

theorem textsBehind_steps (steps : List String) (rest : List Html.Token) :
    Html.textsBehind stepTag (steps.flatMap stepTokens ++ rest) =
      steps.map (fun step => bullet ++ step.toList) ++ Html.textsBehind stepTag rest := by
  induction steps with
  | nil => rfl
  | cons step steps ih =>
      rw [List.flatMap_cons, List.append_assoc, textsBehind_stepTokens, ih]
      rfl

theorem textsBehind_blockTokens (block : Block String) (rest : List Html.Token) :
    Html.textsBehind stepTag (blockTokens block ++ rest) =
      block.items.map (fun step => bullet ++ step.toList) ++ Html.textsBehind stepTag rest := by
  cases block with
  | single step => exact textsBehind_stepTokens step rest
  | run steps =>
      have details : detailsTag ≠ stepTag := by decide
      have summary : summaryTag ≠ stepTag := by decide
      have summaryClosed : summaryEnd ≠ stepTag := by decide
      have detailsClosed : detailsEnd ≠ stepTag := by decide
      change Html.textsBehind stepTag (.tag detailsTag :: .tag summaryTag :: .text _ ::
        .tag summaryEnd :: (steps.flatMap stepTokens ++ [.tag detailsEnd] ++ rest)) = _
      rw [Html.textsBehind_other details, Html.textsBehind_other summary]
      change Html.textsBehind stepTag (.tag summaryEnd ::
        (steps.flatMap stepTokens ++ [.tag detailsEnd] ++ rest)) = _
      rw [Html.textsBehind_other summaryClosed, List.append_assoc, textsBehind_steps]
      change _ ++ Html.textsBehind stepTag (.tag detailsEnd :: rest) = _
      rw [Html.textsBehind_other detailsClosed]
      rfl

/-- The step elements show the steps of the blocks in their order. -/
theorem textsBehind_blocks (blocks : List (Block String)) :
    Html.textsBehind stepTag (blocks.flatMap blockTokens) =
      (blocks.flatMap Block.items).map (fun step => bullet ++ step.toList) := by
  induction blocks with
  | nil => rfl
  | cons block blocks ih =>
      rw [List.flatMap_cons, textsBehind_blockTokens, ih, List.flatMap_cons, List.map_append]

theorem without_stepTokens (step : String) : Html.Without detailsName (stepTokens step) := by
  intro inner listed
  rcases List.mem_cons.mp listed with same | later
  · cases same
    exact ⟨by decide, by decide +kernel⟩
  · rcases List.mem_cons.mp later with text | last
    · cases text
    · cases List.mem_singleton.mp last
      exact ⟨by decide, by decide +kernel⟩

theorem without_steps (steps : List String) :
    Html.Without detailsName (steps.flatMap stepTokens) := by
  intro inner listed
  rcases List.mem_flatMap.mp listed with ⟨step, _, own⟩
  exact without_stepTokens step inner own

/-- A block leaves the place outside of an element and comes back to it. -/
theorem flat_blockTokens (block : Block String) (rest : List Html.Token) :
    Html.flat detailsName false (blockTokens block ++ rest) =
      Html.flat detailsName false rest := by
  cases block with
  | single step => exact Html.flat_append_of_without (without_stepTokens step) false rest
  | run steps =>
      have opens : Html.tagName detailsTag = detailsName := by decide
      have closes : Html.tagName detailsEnd = '/' :: detailsName := by decide
      have different : '/' :: detailsName ≠ detailsName := by decide
      have summary : Html.Without detailsName
          [.tag summaryTag, .text (summaryOf steps.length).toList, .tag summaryEnd] := by
        intro inner listed
        rcases List.mem_cons.mp listed with same | later
        · cases same
          exact ⟨by decide, by decide +kernel⟩
        · rcases List.mem_cons.mp later with text | last
          · cases text
          · cases List.mem_singleton.mp last
            exact ⟨by decide, by decide +kernel⟩
      change Html.flat detailsName false (.tag detailsTag ::
        ([.tag summaryTag, .text (summaryOf steps.length).toList, .tag summaryEnd] ++
          (steps.flatMap stepTokens ++ [.tag detailsEnd] ++ rest))) = _
      rw [Html.flat, if_pos opens, Html.flat_append_of_without summary, List.append_assoc,
        Html.flat_append_of_without (without_steps steps)]
      change (!false && Html.flat detailsName true (.tag detailsEnd :: rest)) = _
      rw [Html.flat, closes, if_neg different, if_pos rfl]
      rfl

theorem flat_blocks (blocks : List (Block String)) :
    Html.flat detailsName false (blocks.flatMap blockTokens) = true := by
  induction blocks with
  | nil => rfl
  | cons block blocks ih => rw [List.flatMap_cons, flat_blockTokens, ih]

/-- A hidden step is a membership without a marker. -/
theorem unmarked_of_hiddenIn {steps : List String} {step : String}
    (hidden : hiddenIn steps step = true) :
    ∀ marker ∈ ["[decisive", "[deny-only", "[uncertain", "chain unknown"],
      Text.containsText marker step = false := by
  rw [hiddenIn, isCollapsibleMembershipStep, Bool.and_eq_true, Bool.and_eq_true,
    Bool.not_eq_true', List.any_eq_false] at hidden
  exact fun marker listed => Bool.eq_false_iff.mpr (hidden.2.2 marker listed)

/-- The document shows every step once and in order, its `details` elements stand side by
side, and each holds a maximal run of collapsible steps behind the length of that run. -/
theorem stepsHtml_complete (steps : List String) :
    collapsibleSteps steps = steps.map (hiddenIn steps) ∧
      Html.textsBehind stepTag (stepsDocument steps) =
        steps.map (fun step => bullet ++ step.toList) ∧
      Html.flat detailsName false (stepsDocument steps) = true ∧
      ∃ blocks, MaximalRuns (hiddenIn steps) steps blocks ∧
        stepsDocument steps = blocks.flatMap blockTokens ∧
        ∀ run, Block.run run ∈ blocks → ∀ step ∈ run,
          ∀ marker ∈ ["[decisive", "[deny-only", "[uncertain", "chain unknown"],
            Text.containsText marker step = false := by
  have maximal := maximalRuns_blocksOf (hiddenIn steps) steps
  have read := stepsDocument_eq steps
  refine ⟨collapsibleSteps_eq steps, ?_, ?_, _, maximal, read, ?_⟩
  · rw [read, textsBehind_blocks, maximal.whole]
  · rw [read]
    exact flat_blocks _
  · intro run listed step inside
    exact unmarked_of_hiddenIn ((maximal.run run listed).2 step inside)

end Exporter
end Stars
