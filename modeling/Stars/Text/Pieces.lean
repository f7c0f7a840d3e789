import Stars.Text.Ascii
import Mathlib.Data.List.DropRight
import Mathlib.Data.List.TakeWhile

namespace Stars
namespace Text

/-!
# Trimmed and separated texts

A trimmed text stays as it is when it is trimmed again, and a text of pieces with
a separator between them is split into these pieces.
-/

/-- A text begins as it does after the removal at its end. -/
private theorem head_rdropWhile {text : List Char} (begins : text.dropWhile isWhitespace = text) :
    (text.rdropWhile isWhitespace).dropWhile isWhitespace = text.rdropWhile isWhitespace := by
  rw [List.dropWhile_eq_self_iff] at begins ⊢
  intro nonempty
  have part := List.rdropWhile_prefix isWhitespace (l := text)
  rw [part.getElem nonempty]
  exact begins (Nat.lt_of_lt_of_le nonempty part.length_le)

theorem trim_trim (text : List Char) : trim (trim text) = trim text := by
  change ((((text.dropWhile isWhitespace).rdropWhile isWhitespace)).dropWhile
    isWhitespace).rdropWhile isWhitespace = (text.dropWhile isWhitespace).rdropWhile isWhitespace
  rw [head_rdropWhile (List.dropWhile_idempotent isWhitespace text)]
  exact List.rdropWhile_idempotent isWhitespace _

/-- A text without white space is trimmed. -/
theorem trim_of_forall {text : List Char} (letters : ∀ letter ∈ text, isWhitespace letter = false) :
    trim text = text := by
  have begins : text.dropWhile isWhitespace = text := by
    rw [List.dropWhile_eq_self_iff]
    intro nonempty white
    rw [letters _ (List.getElem_mem nonempty)] at white
    cases white
  change (text.dropWhile isWhitespace).rdropWhile isWhitespace = text
  rw [begins, List.rdropWhile_eq_self_iff]
  intro nonempty white
  rw [letters _ (List.getLast_mem nonempty)] at white
  cases white

/-- A text is trimmed when it neither begins nor ends with white space. -/
theorem trim_eq_self_iff {text : List Char} : trim text = text ↔
    (∀ letter, text.head? = some letter → isWhitespace letter = false) ∧
      ∀ letter, text.getLast? = some letter → isWhitespace letter = false := by
  have front : text.dropWhile isWhitespace = text ↔
      ∀ letter, text.head? = some letter → isWhitespace letter = false := by
    cases text with
    | nil => simp
    | cons first rest => simp [List.dropWhile_eq_self_iff]
  have back : text.rdropWhile isWhitespace = text ↔
      ∀ letter, text.getLast? = some letter → isWhitespace letter = false := by
    rw [List.rdropWhile_eq_self_iff]
    constructor
    · intro ends letter last
      rcases List.getLast?_eq_some_iff.mp last with ⟨before, whole⟩
      have final := ends (by rw [whole]; exact List.append_ne_nil_of_right_ne_nil _ (by simp))
      simpa [whole] using final
    · intro ends nonempty
      rw [Bool.not_eq_true]
      exact ends _ (List.getLast?_eq_some_getLast nonempty)
  rw [← front, ← back]
  change (text.dropWhile isWhitespace).rdropWhile isWhitespace = text ↔ _
  constructor
  · intro trimmed
    -- Neither removal can shorten the text.
    have shorter := (List.rdropWhile_prefix isWhitespace (text.dropWhile isWhitespace)).length_le
    rw [trimmed] at shorter
    have begins := (List.dropWhile_suffix isWhitespace (l := text)).eq_of_length_le shorter
    rw [begins] at trimmed
    exact ⟨begins, trimmed⟩
  · intro ⟨begins, ends⟩
    rw [begins, ends]

/-- A letter of a text is white space or a letter of the trimmed text. -/
theorem mem_trim_or {text : List Char} {letter : Char} (inside : letter ∈ text) :
    letter ∈ trim text ∨ isWhitespace letter = true := by
  have drop (part : List Char) (listed : letter ∈ part) :
      letter ∈ part.dropWhile isWhitespace ∨ isWhitespace letter = true := by
    rw [← List.takeWhile_append_dropWhile (p := isWhitespace) (l := part), List.mem_append]
      at listed
    rcases listed with taken | left
    · exact Or.inr (List.mem_takeWhile_imp taken)
    · exact Or.inl left
  rcases drop text inside with left | white
  · rcases drop _ (List.mem_reverse.mpr left) with kept | white
    · exact Or.inl (List.mem_reverse.mpr kept)
    · exact Or.inr white
  · exact Or.inr white

/-- Pieces, each behind a separator. -/
def behind (separator : Char) (pieces : List (List Char)) : List Char :=
  pieces.flatMap (fun piece => separator :: piece)

/-- A text is split where its pieces begin. -/
theorem split_behind {separator : Char} {first : List Char} {pieces : List (List Char)}
    (whole : separator ∉ first) (others : ∀ piece ∈ pieces, separator ∉ piece) :
    split separator (first ++ behind separator pieces) = first :: pieces := by
  induction pieces generalizing first with
  | nil =>
      rw [behind, List.flatMap_nil, List.append_nil]
      exact List.splitOn_eq_singleton whole
  | cons piece rest ih =>
      rcases List.forall_mem_cons.mp others with ⟨next, later⟩
      have split := ih next later
      rw [behind, List.flatMap_cons]
      exact (List.splitOn_append_cons_self_of_not_mem whole _).trans (congrArg _ split)

section Separated

variable {Letter : Type} {separates other : Letter → Bool} {text : List Letter}

theorem splitOnP_congr (same : ∀ letter ∈ text, separates letter = other letter) :
    text.splitOnP separates = text.splitOnP other := by
  induction text with
  | nil => rfl
  | cons letter rest ih =>
      rcases List.forall_mem_cons.mp same with ⟨first, later⟩
      rw [List.splitOnP_cons_eq_if_modifyHead, List.splitOnP_cons_eq_if_modifyHead, first, ih later]

/-- A letter of a piece is a letter of the text and no separator. -/
theorem letter_of_piece {piece : List Letter} {letter : Letter}
    (listed : piece ∈ text.splitOnP separates) (inside : letter ∈ piece) :
    letter ∈ text ∧ separates letter = false := by
  induction text generalizing piece with
  | nil =>
      rw [List.splitOnP_nil, List.mem_singleton] at listed
      rw [listed] at inside
      cases inside
  | cons first rest ih =>
      rw [List.splitOnP_cons_eq_if_modifyHead] at listed
      cases separated : separates first with
      | true =>
          rw [if_pos separated] at listed
          rcases List.mem_cons.mp listed with rfl | later
          · cases inside
          · exact ⟨List.mem_cons_of_mem _ (ih later inside).1, (ih later inside).2⟩
      | false =>
          rw [if_neg (by rw [separated]; decide)] at listed
          cases pieces : rest.splitOnP separates with
          | nil => exact absurd pieces (List.splitOnP_ne_nil _ _)
          | cons head others =>
              rw [pieces] at listed ih
              rcases List.mem_cons.mp listed with rfl | later
              · rcases List.mem_cons.mp inside with rfl | within
                · exact ⟨List.mem_cons_self, separated⟩
                · have known := ih List.mem_cons_self within
                  exact ⟨List.mem_cons_of_mem _ known.1, known.2⟩
              · have known := ih (List.mem_cons_of_mem _ later) inside
                exact ⟨List.mem_cons_of_mem _ known.1, known.2⟩

/-- A letter that is no separator stands in a piece. -/
theorem exists_piece {letter : Letter} (inside : letter ∈ text)
    (whole : separates letter = false) : ∃ piece ∈ text.splitOnP separates, letter ∈ piece := by
  induction text with
  | nil => cases inside
  | cons first rest ih =>
      rw [List.splitOnP_cons_eq_if_modifyHead]
      cases separated : separates first with
      | true =>
          rcases List.mem_cons.mp inside with rfl | later
          · rw [whole] at separated
            cases separated
          · rcases ih later with ⟨piece, listed, within⟩
            exact ⟨piece, List.mem_cons_of_mem _ listed, within⟩
      | false =>
          rw [if_neg (by decide)]
          cases pieces : rest.splitOnP separates with
          | nil => exact absurd pieces (List.splitOnP_ne_nil _ _)
          | cons head others =>
              rcases List.mem_cons.mp inside with rfl | later
              · exact ⟨_, List.mem_cons_self, List.mem_cons_self⟩
              · rcases ih later with ⟨piece, listed, within⟩
                rw [pieces] at listed
                rcases List.mem_cons.mp listed with rfl | other
                · exact ⟨_, List.mem_cons_self, List.mem_cons_of_mem _ within⟩
                · exact ⟨piece, List.mem_cons_of_mem _ other, within⟩

end Separated

/-- A letter other than the separator stands in a piece. -/
theorem exists_piece_of_ne {separator letter : Char} {text : List Char} (listed : letter ∈ text)
    (other : letter ≠ separator) : ∃ piece ∈ split separator text, letter ∈ piece :=
  have between : (fun next : Char => next == separator) letter = false :=
    beq_eq_false_iff_ne.mpr other
  exists_piece listed between

theorem splitOnce_eq_some {separator : Char} {text before after : List Char}
    (cut : splitOnce separator text = some (before, after)) :
    text = before ++ separator :: after ∧ separator ∉ before := by
  induction text generalizing before with
  | nil => cases cut
  | cons head rest ih =>
      rw [splitOnce] at cut
      split at cut
      · rename_i same
        cases cut
        rw [same]
        exact ⟨rfl, List.not_mem_nil⟩
      · rename_i other
        rcases Option.map_eq_some_iff.mp cut with ⟨pieces, found, same⟩
        cases same
        rcases ih found with ⟨whole, absent⟩
        refine ⟨by rw [whole, List.cons_append], ?_⟩
        rw [List.mem_cons, not_or]
        exact ⟨fun same => other same.symm, absent⟩

/-- A text is cut at a separator that stands nowhere before. -/
theorem splitOnce_append {separator : Char} {before : List Char} (absent : separator ∉ before)
    (after : List Char) : splitOnce separator (before ++ separator :: after) =
      some (before, after) := by
  induction before with
  | nil => exact if_pos rfl
  | cons head rest ih =>
      rcases not_or.mp (List.mem_cons.not.mp absent) with ⟨other, later⟩
      rw [List.cons_append, splitOnce, if_neg (fun same => other same.symm), ih later]
      rfl

theorem splitOnce_eq_none {separator : Char} {text : List Char}
    (uncut : splitOnce separator text = none) : separator ∉ text := by
  induction text with
  | nil => exact List.not_mem_nil
  | cons head rest ih =>
      rw [splitOnce] at uncut
      split at uncut
      · cases uncut
      · rename_i other
        rw [List.mem_cons, not_or]
        exact ⟨fun same => other same.symm, ih (Option.map_eq_none_iff.mp uncut)⟩

theorem rsplitOnce_eq_none_iff {separator : Char} {text : List Char} :
    rsplitOnce separator text = none ↔ separator ∉ text := by
  induction text with
  | nil => exact iff_of_true rfl List.not_mem_nil
  | cons head rest ih =>
      rw [rsplitOnce, List.mem_cons, not_or]
      cases found : rsplitOnce separator rest with
      | some pieces =>
          refine iff_of_false (Option.some_ne_none _) ?_
          intro ⟨_, absent⟩
          cases found.symm.trans (ih.mpr absent)
      | none =>
          dsimp only
          rw [ite_eq_right_iff, and_iff_left (ih.mp found), eq_comm]
          exact imp_congr_right (fun _ => iff_of_false (Option.some_ne_none _) not_false)

theorem rsplitOnce_eq_some {separator : Char} {text before after : List Char}
    (cut : rsplitOnce separator text = some (before, after)) :
    text = before ++ separator :: after ∧ separator ∉ after := by
  induction text generalizing before with
  | nil => cases cut
  | cons head rest ih =>
      rw [rsplitOnce] at cut
      cases found : rsplitOnce separator rest with
      | some pieces =>
          rw [found] at cut
          cases cut
          rcases ih found with ⟨whole, absent⟩
          exact ⟨congrArg (List.cons head) whole, absent⟩
      | none =>
          rw [found] at cut
          rcases Option.ite_none_right_eq_some.mp cut with ⟨same, pieces⟩
          cases pieces
          rw [same]
          exact ⟨rfl, rsplitOnce_eq_none_iff.mp found⟩

/-- A text is cut at a separator that stands nowhere behind. -/
theorem rsplitOnce_append {separator : Char} {after : List Char} (absent : separator ∉ after)
    (before : List Char) : rsplitOnce separator (before ++ separator :: after) =
      some (before, after) := by
  induction before with
  | nil =>
      rw [List.nil_append, rsplitOnce, rsplitOnce_eq_none_iff.mpr absent]
      exact if_pos rfl
  | cons head rest ih => rw [List.cons_append, rsplitOnce, ih]

/-- The last piece stands behind the last separator. -/
theorem split_append {separator : Char} {after : List Char} (absent : separator ∉ after)
    (before : List Char) : split separator (before ++ separator :: after) =
      split separator before ++ [after] :=
  (List.splitOn_append_cons_self before after).trans
    (congrArg _ (List.splitOn_eq_singleton absent))

theorem toList_join {between : String} (pieces : List (List Char)) :
    (join between (pieces.map String.ofList)).toList = between.toList.intercalate pieces := by
  induction pieces with
  | nil => rfl
  | cons piece rest ih =>
      cases rest with
      | nil =>
          rw [List.intercalate_singleton]
          exact String.toList_ofList
      | cons next others =>
          have step : join between ((piece :: next :: others).map String.ofList) =
              String.ofList piece ++ between ++ join between ((next :: others).map String.ofList) :=
            rfl
          rw [List.intercalate_cons_cons, ← ih, step, String.toList_append, String.toList_append,
            String.toList_ofList]

/-- The pieces of a text are joined to the text. -/
theorem join_split {between : String} {separator : Char} (shown : between.toList = [separator])
    (text : List Char) : join between ((split separator text).map String.ofList) =
      String.ofList text := by
  rw [← String.toList_inj, toList_join, String.toList_ofList, shown]
  exact List.intercalate_splitOn separator

theorem stripPrefix_eq_some_iff {start : String} {text rest : List Char} :
    stripPrefix start text = some rest ↔ text = start.toList ++ rest := by
  rw [stripPrefix, Option.ite_none_right_eq_some, List.isPrefixOf_iff_prefix]
  constructor
  · intro ⟨begins, same⟩
    rw [← Option.some.inj same]
    exact (List.prefix_iff_eq_append.mp begins).symm
  · intro whole
    rw [whole, List.drop_left]
    exact ⟨List.prefix_append _ _, rfl⟩

end Text
end Stars
