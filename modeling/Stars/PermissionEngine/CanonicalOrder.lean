import Stars.Order.Conflicts
import Stars.PermissionEngine.Evaluate

namespace Stars
namespace PermissionEngine

open Stars.Order

/-!
# Canonical order of an access list

Explicit entries stand before inherited ones, and within one level Deny entries
stand before Allow entries.  Inherited entries come from ancestors, nearer ones
first, but an entry does not record its ancestor.  An order is therefore
canonical when some assignment of ancestor levels makes it so.  One kind of
conflict excludes every assignment; the other one excludes only that all
inherited entries come from one ancestor.
-/

/-- Two entries, the first one earlier in the list, stand in canonical order when
they come from the given ancestor levels. -/
def InOrder (earlier later : AceEntry) (earlierLevel laterLevel : Nat) : Prop :=
  match earlier.inherited, later.inherited with
  | false, false => ¬ (earlier.kind = .allow ∧ later.kind = .deny)
  | false, true => True
  | true, false => False
  | true, true => earlierLevel ≤ laterLevel ∧
      (earlierLevel = laterLevel → ¬ (earlier.kind = .allow ∧ later.kind = .deny))

/-- The list is in canonical order when its inherited entries come from the given
levels, one for each position. -/
def CanonicalWith (level : Nat → Nat) (dacl : List AceEntry) : Prop :=
  ∀ first second, first < second → ∀ earlier later, dacl[first]? = some earlier →
    dacl[second]? = some later → InOrder earlier later (level first) (level second)

/-- Some assignment of levels makes the list canonical. -/
def HasLevels (dacl : List AceEntry) : Prop := ∃ level, CanonicalWith level dacl

/-- All inherited entries of a canonical list come from one ancestor. -/
def SingleLevel (dacl : List AceEntry) : Prop := CanonicalWith (fun _ => 0) dacl

/-- An explicit entry after an inherited one, or an explicit Deny after an
explicit Allow. -/
def Misplaced (earlier later : AceEntry) : Prop :=
  later.inherited = false ∧
    (earlier.inherited = true ∨ (earlier.kind = .allow ∧ later.kind = .deny))

/-- An inherited Deny after an inherited Allow. -/
def LevelsDiffer (earlier later : AceEntry) : Prop :=
  earlier.inherited = true ∧ earlier.kind = .allow ∧ later.inherited = true ∧ later.kind = .deny

theorem inOrder_of_lt {earlier later : AceEntry} {earlierLevel laterLevel : Nat}
    (below : earlierLevel < laterLevel) :
    InOrder earlier later earlierLevel laterLevel ↔ ¬ Misplaced earlier later := by
  unfold InOrder Misplaced
  cases earlier.inherited with
  | false =>
      cases later.inherited with
      | false => simp
      | true => simp
  | true =>
      cases later.inherited with
      | false => simp
      | true => simp; omega

theorem not_misplaced_of_inOrder {earlier later : AceEntry} {earlierLevel laterLevel : Nat}
    (ordered : InOrder earlier later earlierLevel laterLevel) : ¬ Misplaced earlier later := by
  unfold InOrder at ordered
  unfold Misplaced
  cases first : earlier.inherited <;> cases second : later.inherited <;>
    rw [first, second] at ordered <;> simp_all

theorem inOrder_same {earlier later : AceEntry} {level : Nat} :
    InOrder earlier later level level ↔
      ¬ Misplaced earlier later ∧ ¬ LevelsDiffer earlier later := by
  unfold InOrder Misplaced LevelsDiffer
  cases earlier.inherited <;> cases later.inherited <;> simp

/-- Levels exist exactly when no explicit entry is misplaced.  The positions
themselves are then an assignment: every entry is its own level. -/
theorem hasLevels_iff {dacl : List AceEntry} : HasLevels dacl ↔ ConflictFree Misplaced dacl := by
  rw [conflictFree_iff_getElem?]
  constructor
  · rintro ⟨level, canonical⟩ first second below earlier later found other
    exact not_misplaced_of_inOrder (canonical first second below earlier later found other)
  · intro free
    refine ⟨id, fun first second below earlier later found other => ?_⟩
    exact (inOrder_of_lt below).mpr (free first second below earlier later found other)

theorem singleLevel_iff {dacl : List AceEntry} :
    SingleLevel dacl ↔ ConflictFree Misplaced dacl ∧ ConflictFree LevelsDiffer dacl := by
  rw [conflictFree_iff_getElem?, conflictFree_iff_getElem?]
  constructor
  · intro canonical
    constructor
    · intro first second below earlier later found other
      exact (inOrder_same.mp (canonical first second below earlier later found other)).1
    · intro first second below earlier later found other
      exact (inOrder_same.mp (canonical first second below earlier later found other)).2
  · rintro ⟨placed, alike⟩ first second below earlier later found other
    exact inOrder_same.mpr ⟨placed first second below earlier later found other,
      alike first second below earlier later found other⟩

/-- The state of the scan describes the entries before a position. -/
structure DaclOrderState.Describes (state : DaclOrderState) (seen : List AceEntry) : Prop where
  inherited : state.seenInherited = true ↔ ∃ ace ∈ seen, ace.inherited = true
  explicitAllow : state.seenExplicitAllow = true ↔
    ∃ ace ∈ seen, ace.inherited = false ∧ ace.kind = .allow
  inheritedAllow : state.seenInheritedAllow = true ↔
    ∃ ace ∈ seen, ace.inherited = true ∧ ace.kind = .allow
  ambiguous : ∀ position, state.ambiguous = some position ↔
    IsLeast {place | ConflictAt LevelsDiffer seen place} position
  placed : ConflictFree Misplaced seen

/-- What a finding says about the list. -/
def DescribesOrder (dacl : List AceEntry) : Option DaclOrderFinding → Prop
  | none => ConflictFree Misplaced dacl ∧ ConflictFree LevelsDiffer dacl
  | some (.nonCanonical position) =>
      IsLeast {place | ConflictAt Misplaced dacl place} position
  | some (.inheritedLevelsUnknown position) =>
      ConflictFree Misplaced dacl ∧ IsLeast {place | ConflictAt LevelsDiffer dacl place} position

section Scan

variable {state : DaclOrderState} {seen rest : List AceEntry} {ace : AceEntry}

/-- The first misplaced entry follows a list without one. -/
theorem isLeast_misplaced (placed : ConflictFree Misplaced seen)
    (conflict : ∃ earlier ∈ seen, Misplaced earlier ace) :
    IsLeast {place | ConflictAt Misplaced (seen ++ ace :: rest) place} seen.length := by
  refine ⟨conflictAt_append_cons.mpr conflict, ?_⟩
  intro place reached
  by_contra below
  exact conflictFree_iff.mp placed place
    ((conflictAt_append_left (Nat.lt_of_not_le below)).mp reached)

/-- An entry that is not an inherited Deny opens no question. -/
theorem conflictAt_levelsDiffer_snoc (other : ¬ ∃ earlier ∈ seen, LevelsDiffer earlier ace) :
    {place | ConflictAt LevelsDiffer (seen ++ [ace]) place} =
      {place | ConflictAt LevelsDiffer seen place} := by
  ext place
  rw [Set.mem_ofPred_eq, Set.mem_ofPred_eq, conflictAt_snoc]
  exact or_iff_left (fun found => other found.2)

theorem exists_mem_snoc {property : AceEntry → Prop} :
    (∃ entry ∈ seen ++ [ace], property entry) ↔
      (∃ entry ∈ seen, property entry) ∨ property ace := by
  simp only [List.mem_append, List.mem_singleton, or_and_right, exists_or, exists_eq_left]

/-- An explicit entry that is not misplaced. -/
theorem describes_explicit (described : state.Describes seen) (explicit : ace.inherited = false)
    (placed : ¬ ∃ earlier ∈ seen, Misplaced earlier ace) :
    ({ state with seenExplicitAllow := state.seenExplicitAllow || decide (ace.kind = .allow) } :
      DaclOrderState).Describes (seen ++ [ace]) := by
  have other : ¬ ∃ earlier ∈ seen, LevelsDiffer earlier ace := by
    rintro ⟨earlier, _, _, _, inherited, _⟩
    rw [explicit] at inherited
    cases inherited
  refine ⟨?_, ?_, ?_, ?_, conflictFree_snoc.mpr ⟨described.placed, placed⟩⟩
  · rw [exists_mem_snoc, explicit, described.inherited]
    simp only [Bool.false_eq_true, or_false]
  · rw [exists_mem_snoc, explicit, ← described.explicitAllow]
    simp only [Bool.or_eq_true, decide_eq_true_iff, true_and]
  · rw [exists_mem_snoc, explicit, described.inheritedAllow]
    simp only [Bool.false_eq_true, false_and, or_false]
  · intro position
    rw [conflictAt_levelsDiffer_snoc other]
    exact described.ambiguous position

theorem not_misplaced_of_inherited (inherited : ace.inherited = true) :
    ¬ ∃ earlier ∈ seen, Misplaced earlier ace := by
  rintro ⟨earlier, _, explicit, _⟩
  rw [inherited] at explicit
  cases explicit

theorem describes_inherited_allow (described : state.Describes seen)
    (inherited : ace.inherited = true) (kind : ace.kind = .allow) :
    ({ state with seenInherited := true, seenInheritedAllow := true } :
      DaclOrderState).Describes (seen ++ [ace]) := by
  have other : ¬ ∃ earlier ∈ seen, LevelsDiffer earlier ace := by
    rintro ⟨earlier, _, _, _, _, denies⟩
    rw [kind] at denies
    cases denies
  refine ⟨?_, ?_, ?_, ?_,
    conflictFree_snoc.mpr ⟨described.placed, not_misplaced_of_inherited inherited⟩⟩
  · rw [exists_mem_snoc]
    exact iff_of_true rfl (Or.inr inherited)
  · rw [exists_mem_snoc, inherited, ← described.explicitAllow]
    simp only [Bool.true_eq_false, false_and, or_false]
  · rw [exists_mem_snoc]
    exact iff_of_true rfl (Or.inr ⟨inherited, kind⟩)
  · intro position
    rw [conflictAt_levelsDiffer_snoc other]
    exact described.ambiguous position

/-- The first inherited Deny after an inherited Allow is kept. -/
theorem describes_inherited_deny (described : state.Describes seen)
    (inherited : ace.inherited = true) (kind : ace.kind = .deny) :
    ({ state with
        seenInherited := true
        ambiguous := if state.seenInheritedAllow && state.ambiguous.isNone then some seen.length
          else state.ambiguous } : DaclOrderState).Describes (seen ++ [ace]) := by
  refine ⟨?_, ?_, ?_, ?_,
    conflictFree_snoc.mpr ⟨described.placed, not_misplaced_of_inherited inherited⟩⟩
  · rw [exists_mem_snoc]
    exact iff_of_true rfl (Or.inr inherited)
  · rw [exists_mem_snoc, inherited, ← described.explicitAllow]
    simp only [Bool.true_eq_false, false_and, or_false]
  · rw [exists_mem_snoc, kind, ← described.inheritedAllow]
    simp only [reduceCtorEq, and_false, or_false]
  · intro position
    have differs : (∃ earlier ∈ seen, LevelsDiffer earlier ace) ↔
        state.seenInheritedAllow = true := by
      rw [described.inheritedAllow]
      simp only [LevelsDiffer, inherited, kind, and_true]
    cases first : state.ambiguous with
    | some known =>
        have least := (described.ambiguous known).mp first
        have kept : IsLeast {place | ConflictAt LevelsDiffer (seen ++ [ace]) place} known := by
          refine ⟨conflictAt_snoc.mpr (Or.inl least.1), ?_⟩
          intro place reached
          rcases conflictAt_snoc.mp reached with before | ⟨rfl, _⟩
          · exact least.2 before
          · exact Nat.le_of_lt least.1.lt_length
        simp only [Option.isNone_some, Bool.and_false, Bool.false_eq_true, if_false,
          Option.some.injEq]
        constructor
        · rintro rfl
          exact kept
        · exact kept.unique
    | none =>
        have absent : ∀ place, ¬ ConflictAt LevelsDiffer seen place := by
          refine conflictFree_iff.mp (conflictFree_of_no_first (fun position least => ?_))
          rw [← described.ambiguous, first] at least
          cases least
        have only : ∀ place, ConflictAt LevelsDiffer (seen ++ [ace]) place ↔
            place = seen.length ∧ state.seenInheritedAllow = true := by
          intro place
          rw [conflictAt_snoc, differs]
          exact or_iff_right (absent place)
        simp only [Option.isNone_none, Bool.and_true, only]
        split
        · rename_i allowed
          simp only [allowed, and_true, Set.ofPred_eq_eq_singleton, Option.some.injEq]
          constructor
          · rintro rfl
            exact isLeast_singleton
          · exact isLeast_singleton.unique
        · rename_i denied
          simp only [denied, reduceCtorEq, false_iff, Bool.false_eq_true, and_false]
          exact fun least => least.1

theorem misplaced_explicit_iff (described : state.Describes seen)
    (explicit : ace.inherited = false) :
    (∃ earlier ∈ seen, Misplaced earlier ace) ↔
      (state.seenInherited || (state.seenExplicitAllow && decide (ace.kind = .deny))) = true := by
  rw [Bool.or_eq_true, Bool.and_eq_true, decide_eq_true_iff, described.inherited,
    described.explicitAllow]
  constructor
  · rintro ⟨earlier, member, _, inherited | ⟨allows, denies⟩⟩
    · exact Or.inl ⟨earlier, member, inherited⟩
    · cases kind : earlier.inherited with
      | true => exact Or.inl ⟨earlier, member, kind⟩
      | false => exact Or.inr ⟨⟨earlier, member, kind, allows⟩, denies⟩
  · rintro (⟨earlier, member, inherited⟩ | ⟨⟨earlier, member, _, allows⟩, denies⟩)
    · exact ⟨earlier, member, explicit, Or.inl inherited⟩
    · exact ⟨earlier, member, explicit, Or.inr ⟨allows, denies⟩⟩

/-- The scan from a described state describes the whole list. -/
theorem daclOrderFrom_describes (rest : List AceEntry) :
    ∀ (seen : List AceEntry) (state : DaclOrderState), state.Describes seen →
      DescribesOrder (seen ++ rest) (daclOrderFrom state seen.length rest) := by
  induction rest with
  | nil =>
      intro seen state described
      rw [daclOrderFrom, List.append_nil]
      cases first : state.ambiguous with
      | some position => exact ⟨described.placed, (described.ambiguous position).mp first⟩
      | none =>
          refine ⟨described.placed, conflictFree_of_no_first (fun position least => ?_)⟩
          rw [← described.ambiguous, first] at least
          cases least
  | cons ace rest ih =>
      intro seen state described
      have next : ∀ after : DaclOrderState, after.Describes (seen ++ [ace]) →
          DescribesOrder (seen ++ ace :: rest) (daclOrderFrom after (seen.length + 1) rest) := by
        intro after describes
        have whole := ih (seen ++ [ace]) after describes
        rw [List.append_assoc, List.length_append] at whole
        exact whole
      rw [daclOrderFrom]
      cases inherited : ace.inherited with
      | false =>
          have first := misplaced_explicit_iff described inherited
          have placed := describes_explicit described inherited
          cases kind : ace.kind with
          | deny =>
              simp only [kind, reduceCtorEq, decide_false, decide_true, Bool.and_true, Bool.or_false]
                at first placed
              by_cases conflict : (state.seenInherited || state.seenExplicitAllow) = true
              · rw [if_pos conflict]
                exact isLeast_misplaced described.placed (first.mpr conflict)
              · rw [if_neg conflict]
                exact next _ (placed (mt first.mp conflict))
          | allow =>
              simp only [kind, reduceCtorEq, decide_false, decide_true, Bool.and_false,
                Bool.or_false, Bool.or_true] at first placed
              by_cases conflict : state.seenInherited = true
              · rw [if_pos conflict]
                exact isLeast_misplaced described.placed (first.mpr conflict)
              · rw [if_neg conflict]
                exact next _ (placed (mt first.mp conflict))
      | true =>
          cases kind : ace.kind with
          | allow => exact next _ (describes_inherited_allow described inherited kind)
          | deny => exact next _ (describes_inherited_deny described inherited kind)

end Scan

theorem daclOrderFinding_describes (dacl : List AceEntry) :
    DescribesOrder dacl (daclOrderFinding dacl) := by
  refine daclOrderFrom_describes dacl [] {} ⟨?_, ?_, ?_, ?_, List.Pairwise.nil⟩
  · simp
  · simp
  · simp
  · intro position
    refine iff_of_false (by simp) (fun least => not_conflictAt_nil position least.1)

/-! ## What each finding says -/

section Findings

variable {dacl : List AceEntry}

theorem daclOrderFinding_eq_none_iff :
    daclOrderFinding dacl = none ↔
      ConflictFree Misplaced dacl ∧ ConflictFree LevelsDiffer dacl := by
  have described := daclOrderFinding_describes dacl
  constructor
  · intro nothing
    rwa [nothing] at described
  · rintro ⟨placed, alike⟩
    cases finding : daclOrderFinding dacl with
    | none => rfl
    | some found =>
        rw [finding] at described
        cases found with
        | nonCanonical position =>
            exact absurd described.1 (conflictFree_iff.mp placed position)
        | inheritedLevelsUnknown position =>
            exact absurd described.2.1 (conflictFree_iff.mp alike position)

theorem daclOrderFinding_eq_nonCanonical_iff (position : Nat) :
    daclOrderFinding dacl = some (.nonCanonical position) ↔
      IsLeast {place | ConflictAt Misplaced dacl place} position := by
  have described := daclOrderFinding_describes dacl
  constructor
  · intro found
    rwa [found] at described
  · intro least
    cases finding : daclOrderFinding dacl with
    | none =>
        rw [finding] at described
        exact absurd least.1 (conflictFree_iff.mp described.1 position)
    | some found =>
        rw [finding] at described
        cases found with
        | nonCanonical other =>
            rw [IsLeast.unique described least]
        | inheritedLevelsUnknown other =>
            exact absurd least.1 (conflictFree_iff.mp described.1 position)

theorem daclOrderFinding_eq_inheritedLevelsUnknown_iff (position : Nat) :
    daclOrderFinding dacl = some (.inheritedLevelsUnknown position) ↔
      ConflictFree Misplaced dacl ∧
        IsLeast {place | ConflictAt LevelsDiffer dacl place} position := by
  have described := daclOrderFinding_describes dacl
  constructor
  · intro found
    rwa [found] at described
  · rintro ⟨placed, least⟩
    cases finding : daclOrderFinding dacl with
    | none =>
        rw [finding] at described
        exact absurd least.1 (conflictFree_iff.mp described.2 position)
    | some found =>
        rw [finding] at described
        cases found with
        | nonCanonical other =>
            exact absurd described.1 (conflictFree_iff.mp placed other)
        | inheritedLevelsUnknown other =>
            rw [IsLeast.unique described.2 least]

/-- The position holds an inherited Deny that follows an inherited Allow. -/
theorem conflictAt_levelsDiffer_iff (position : Nat) :
    ConflictAt LevelsDiffer dacl position ↔
      ∃ later, dacl[position]? = some later ∧ later.inherited = true ∧ later.kind = .deny ∧
        ∃ earlier ∈ dacl.take position, earlier.inherited = true ∧ earlier.kind = .allow := by
  unfold ConflictAt LevelsDiffer
  constructor
  · rintro ⟨later, found, earlier, member, inherited, allows, follows, denies⟩
    exact ⟨later, found, follows, denies, earlier, member, inherited, allows⟩
  · rintro ⟨later, found, follows, denies, earlier, member, inherited, allows⟩
    exact ⟨later, found, earlier, member, inherited, allows, follows, denies⟩

/-- A finding is absent exactly when no entry breaks the order of its own part of
the list.  A list is not canonical exactly when no levels make it so, and the
finding names the end of the first prefix without levels.  The levels are unknown
exactly when some levels make the list canonical but a single one does not, and
the finding names the first inherited Deny after an inherited Allow. -/
theorem daclOrderFinding_spec (dacl : List AceEntry) :
    (daclOrderFinding dacl = none ↔
      ∀ first second : Nat, first < second → ∀ earlier later, dacl[first]? = some earlier →
        dacl[second]? = some later →
          ¬ (earlier.inherited = true ∧ later.inherited = false) ∧
          ¬ (earlier.inherited = false ∧ later.inherited = false ∧
            earlier.kind = .allow ∧ later.kind = .deny) ∧
          ¬ (earlier.inherited = true ∧ later.inherited = true ∧
            earlier.kind = .allow ∧ later.kind = .deny)) ∧
    (∀ position, daclOrderFinding dacl = some (.nonCanonical position) ↔
      ¬ HasLevels dacl ∧
        IsLeast {place | place < dacl.length ∧ ¬ HasLevels (dacl.take (place + 1))} position) ∧
    (∀ position, daclOrderFinding dacl = some (.inheritedLevelsUnknown position) ↔
      HasLevels dacl ∧ ¬ SingleLevel dacl ∧
        IsLeast {place | ∃ later, dacl[place]? = some later ∧ later.inherited = true ∧
          later.kind = .deny ∧ ∃ earlier ∈ dacl.take place,
            earlier.inherited = true ∧ earlier.kind = .allow} position) := by
  refine ⟨?_, ?_, ?_⟩
  · rw [daclOrderFinding_eq_none_iff, conflictFree_iff_getElem?, conflictFree_iff_getElem?,
      ← forall_and]
    refine forall_congr' (fun first => ?_)
    simp only [← forall_and]
    refine forall_congr' (fun second => forall_congr' (fun _ => forall_congr' (fun earlier =>
      forall_congr' (fun later => forall_congr' (fun _ => forall_congr' (fun _ => ?_))))))
    unfold Misplaced LevelsDiffer
    cases earlier.inherited <;> cases later.inherited <;> simp
  · intro position
    simp only [hasLevels_iff]
    rw [daclOrderFinding_eq_nonCanonical_iff, isLeast_conflictAt_iff]
    refine (and_iff_right_of_imp (fun least => ?_)).symm
    intro placed
    exact absurd (isLeast_conflictAt_iff.mpr least).1 (conflictFree_iff.mp placed position)
  · intro position
    simp only [← conflictAt_levelsDiffer_iff]
    rw [daclOrderFinding_eq_inheritedLevelsUnknown_iff, hasLevels_iff, singleLevel_iff]
    constructor
    · rintro ⟨placed, least⟩
      exact ⟨placed, fun both => conflictFree_iff.mp both.2 position least.1, least⟩
    · rintro ⟨placed, _, least⟩
      exact ⟨placed, least⟩

end Findings

/-- An inherited Deny after an inherited Allow leaves the levels open, until an
explicit entry follows. -/
example (first second third : Sid) :
    let entry := fun (kind : AceKind) (sid : Sid) (inherited : Bool) =>
      ({ kind := kind, sid := sid, mask := 0x1#32, inherited := inherited } : AceEntry)
    daclOrderFinding [entry .allow first true, entry .deny second true] =
        some (.inheritedLevelsUnknown 1) ∧
      daclOrderFinding [entry .allow first true, entry .deny second true,
        entry .allow third false] = some (.nonCanonical 2) :=
  ⟨rfl, rfl⟩

end PermissionEngine
end Stars
