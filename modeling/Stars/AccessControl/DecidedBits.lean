import Stars.AccessControl.MaskWalk

namespace Stars
namespace AccessControl

/-!
# The bits each rule of a walk decides

A walk decides every bit at one rule.  The bits are listed rule by rule: they are
pairwise disjoint, and joined over the allow rules and over the refuse rules they
are the granted and the denied mask of the walk.
-/

universe u v

variable {w : Nat}

/-- All bits of a list of masks. -/
def joined (masks : List (BitVec w)) : BitVec w := masks.foldr (fun first rest => first ||| rest) 0#w

@[simp] theorem joined_nil : joined ([] : List (BitVec w)) = 0#w := rfl

@[simp] theorem joined_cons (first : BitVec w) (rest : List (BitVec w)) :
    joined (first :: rest) = first ||| joined rest := rfl

theorem joined_getLsbD (masks : List (BitVec w)) (bit : Nat) :
    (joined masks).getLsbD bit = true ↔ ∃ value ∈ masks, value.getLsbD bit = true := by
  induction masks with
  | nil => simp
  | cons first rest ih =>
      rw [joined_cons, BitVec.getLsbD_or, Bool.or_eq_true, ih]
      simp only [List.mem_cons, exists_eq_or_imp]

/-- Masks without a bit do not matter. -/
theorem joined_filter_ne_zero (masks : List (BitVec w)) :
    joined (masks.filter (fun value => value ≠ 0#w)) = joined masks := by
  induction masks with
  | nil => rfl
  | cons first rest ih =>
      by_cases empty : first = 0#w
      · rw [List.filter_cons_of_neg (by simp [empty]), ih, joined_cons, empty, BitVec.zero_or]
      · rw [List.filter_cons_of_pos (by simp [empty]), joined_cons, joined_cons, ih]

/-- The masks of the items that satisfy a condition. -/
def joinedWhere {Item : Type u} (keep : Item → Bool) (entries : List (Item × BitVec w)) : BitVec w :=
  joined ((entries.filter (fun entry => keep entry.1)).map Prod.snd)

theorem joinedWhere_cons {Item : Type u} (keep : Item → Bool) (item : Item) (value : BitVec w)
    (rest : List (Item × BitVec w)) :
    joinedWhere keep ((item, value) :: rest) =
      (if keep item then value else 0#w) ||| joinedWhere keep rest := by
  rw [joinedWhere, joinedWhere, List.filter_cons]
  split
  · rfl
  · rw [BitVec.zero_or]

/-- Two masks without a common bit. -/
def Apart (first second : BitVec w) : Prop := first &&& second = 0#w

theorem apart_iff {first second : BitVec w} :
    Apart first second ↔ ∀ bit, ¬ (first.getLsbD bit = true ∧ second.getLsbD bit = true) := by
  constructor
  · intro apart bit both
    have zero := congrArg (fun value => value.getLsbD bit) apart
    simp only [BitVec.getLsbD_and, both.1, both.2, BitVec.getLsbD_zero, Bool.and_self,
      Bool.true_eq_false] at zero
  · intro apart
    apply BitVec.eq_of_getLsbD_eq
    intro bit _
    rw [BitVec.getLsbD_and, BitVec.getLsbD_zero, ← Bool.not_eq_true, Bool.and_eq_true]
    exact apart bit

namespace Policy

variable {Rule : Type u} {Right : Type v} (policy : Policy Rule Right)

theorem grants_or_refuses_iff (applies : Rule → Bool) (rules : List Rule) (right : Right) :
    policy.grants applies rules right = true ∨ policy.refuses applies rules right = true ↔
      ∃ rule ∈ rules, applies rule = true ∧ policy.covers rule right = true := by
  cases decided : policy.deciding applies rules right with
  | none =>
      rw [grants, refuses, decided]
      refine iff_of_false (by simp) ?_
      rintro ⟨rule, member, applied, covered⟩
      rw [(policy.deciding_eq_none_iff applies rules right).mp decided rule member applied]
        at covered
      cases covered
  | some rule =>
      rw [grants, refuses, decided]
      have spec := policy.deciding_spec decided
      refine iff_of_true ?_ ⟨rule, spec⟩
      cases kind : policy.allows rule <;> simp [kind]

theorem not_grants_and_refuses (applies : Rule → Bool) (rules : List Rule) (right : Right) :
    ¬ (policy.grants applies rules right = true ∧ policy.refuses applies rules right = true) := by
  rw [grants, refuses]
  cases policy.deciding applies rules right with
  | none => simp
  | some rule => cases policy.allows rule <;> simp

/-- Without its refuse rules a list grants whatever an allow rule covers. -/
theorem grants_allowing_iff (applies : Rule → Bool) (rules : List Rule) (right : Right) :
    policy.grants applies (rules.filter policy.allows) right = true ↔
      ∃ rule ∈ rules, policy.allows rule = true ∧ applies rule = true ∧
        policy.covers rule right = true := by
  have refuses : policy.refuses applies (rules.filter policy.allows) right = false := by
    rw [Policy.refuses, Option.any_eq_false]
    intro rule decided
    rw [(List.mem_filter.mp (policy.deciding_spec decided).1).2]
    rfl
  have decided := policy.grants_or_refuses_iff applies (rules.filter policy.allows) right
  rw [or_iff_left (Bool.eq_false_iff.mp refuses)] at decided
  rw [decided]
  simp only [List.mem_filter, and_assoc]

end Policy

/-! ## The bits of each rule -/

namespace Decision

variable {Rule : Type u} (allows : Rule → Bool) (mask : Rule → BitVec w)

/-- The bits each rule decides in a walk from an intermediate decision. -/
def decidedBits (applies : Rule → Bool) : Decision w → List Rule → List (BitVec w)
  | _, [] => []
  | decision, rule :: rest =>
      if applies rule then
        decision.fresh (mask rule) ::
          decidedBits applies (decision.extend (allows rule) (mask rule)) rest
      else 0#w :: decidedBits applies decision rest

theorem length_decidedBits (applies : Rule → Bool) (rules : List Rule) (decision : Decision w) :
    (decidedBits allows mask applies decision rules).length = rules.length := by
  induction rules generalizing decision with
  | nil => rfl
  | cons rule rest ih =>
      rw [decidedBits]
      split
      · rw [List.length_cons, List.length_cons, ih]
      · rw [List.length_cons, List.length_cons, ih]

/-- The bit is decided. -/
def decides (decision : Decision w) (bit : Nat) : Bool :=
  decision.granted.getLsbD bit || decision.denied.getLsbD bit

theorem extend_decides (decision : Decision w) (allow : Bool) (value : BitVec w) (bit : Nat) :
    (decision.extend allow value).decides bit = (decision.decides bit || value.getLsbD bit) := by
  have step := extend_getLsbD decision allow value bit
  rw [decides, decides, step.1, step.2]
  cases decision.granted.getLsbD bit <;> cases decision.denied.getLsbD bit <;>
    cases value.getLsbD bit <;> cases allow <;> rfl

theorem fresh_decides (decision : Decision w) (value : BitVec w) (bit : Nat) :
    (decision.fresh value).getLsbD bit = (value.getLsbD bit && !decision.decides bit) :=
  fresh_getLsbD decision value bit

/-- No rule decides a bit that is already decided. -/
theorem not_decides_of_mem (applies : Rule → Bool) (rules : List Rule) (decision : Decision w)
    {value : BitVec w} (member : value ∈ decidedBits allows mask applies decision rules) {bit : Nat}
    (selected : value.getLsbD bit = true) : decision.decides bit = false := by
  induction rules generalizing decision with
  | nil => cases member
  | cons rule rest ih =>
      rw [decidedBits] at member
      split at member
      · rcases List.mem_cons.mp member with rfl | later
        · rw [fresh_decides, Bool.and_eq_true, Bool.not_eq_true'] at selected
          exact selected.2
        · have kept := ih _ later
          rw [extend_decides, Bool.or_eq_false_iff] at kept
          exact kept.1
      · rcases List.mem_cons.mp member with rfl | later
        · rw [BitVec.getLsbD_zero] at selected
          cases selected
        · exact ih _ later

/-- No bit is decided twice. -/
theorem decidedBits_pairwise (applies : Rule → Bool) (rules : List Rule) (decision : Decision w) :
    (decidedBits allows mask applies decision rules).Pairwise Apart := by
  induction rules generalizing decision with
  | nil => exact List.Pairwise.nil
  | cons rule rest ih =>
      rw [decidedBits]
      split
      · refine List.pairwise_cons.mpr ⟨fun value later => ?_, ih _⟩
        rw [apart_iff]
        rintro bit ⟨first, second⟩
        have undecided := not_decides_of_mem allows mask applies rest _ later second
        rw [extend_decides, Bool.or_eq_false_iff] at undecided
        rw [fresh_decides, undecided.2] at first
        cases first
      · refine List.pairwise_cons.mpr ⟨fun value _ => ?_, ih _⟩
        exact BitVec.zero_and

/-- A rule that does not apply decides nothing. -/
theorem decidedBits_of_not_applies (applies : Rule → Bool) (rules : List Rule)
    (decision : Decision w) {entry : Rule × BitVec w}
    (member : entry ∈ rules.zip (decidedBits allows mask applies decision rules))
    (refused : applies entry.1 = false) : entry.2 = 0#w := by
  induction rules generalizing decision with
  | nil => cases member
  | cons rule rest ih =>
      rw [decidedBits] at member
      split at member
      · rename_i applied
        rcases List.mem_cons.mp member with rfl | later
        · rw [applied] at refused
          cases refused
        · exact ih _ later
      · rcases List.mem_cons.mp member with rfl | later
        · rfl
        · exact ih _ later

/-- An applying rule decides the bits of its mask that no rule before it decides. -/
theorem exists_decidedBits {applies : Rule → Bool} {before after : List Rule} {rule : Rule}
    {bit : Nat} (applied : applies rule = true) (covered : (mask rule).getLsbD bit = true)
    (free : (bitPolicy allows mask).deciding applies before bit = none) (decision : Decision w)
    (undecided : decision.decides bit = false) :
    ∃ value, (rule, value) ∈ (before ++ rule :: after).zip
        (decidedBits allows mask applies decision (before ++ rule :: after)) ∧
      value.getLsbD bit = true := by
  induction before generalizing decision with
  | nil =>
      rw [List.nil_append, decidedBits, if_pos applied, List.zip_cons_cons]
      refine ⟨_, List.mem_cons_self, ?_⟩
      rw [fresh_decides, covered, undecided]
      rfl
  | cons head rest known =>
      rw [Policy.deciding_cons] at free
      split at free
      · cases free
      · rename_i silent
        rw [Bool.and_eq_true, not_and] at silent
        rw [List.cons_append, decidedBits]
        split
        · rename_i matching
          have later : (decision.extend (allows head) (mask head)).decides bit = false := by
            rw [extend_decides, undecided, Bool.false_or]
            exact Bool.eq_false_iff.mpr (silent matching)
          rcases known free _ later with ⟨value, member, selected⟩
          exact ⟨value, List.mem_cons_of_mem _ member, selected⟩
        · rcases known free decision undecided with ⟨value, member, selected⟩
          exact ⟨value, List.mem_cons_of_mem _ member, selected⟩

/-- Joined over the rules of a kind, the decided bits are those whose deciding rule is
of this kind. -/
theorem joinedWhere_decidedBits_getLsbD (applies keep : Rule → Bool) (rules : List Rule)
    (decision : Decision w) (bit : Nat) :
    (joinedWhere keep (rules.zip (decidedBits allows mask applies decision rules))).getLsbD bit =
      (!decision.decides bit &&
        ((bitPolicy allows mask).deciding applies rules bit).any keep) := by
  induction rules generalizing decision with
  | nil =>
      rw [Policy.deciding_nil, Option.any_none, Bool.and_false]
      exact BitVec.getLsbD_zero
  | cons rule rest ih =>
      rw [Policy.deciding_cons, decidedBits]
      cases applied : applies rule with
      | false =>
          rw [if_neg Bool.false_ne_true, List.zip_cons_cons, joinedWhere_cons, ite_self,
            BitVec.zero_or, ih]
          rfl
      | true =>
          rw [if_pos rfl, List.zip_cons_cons, joinedWhere_cons, BitVec.getLsbD_or, ih,
            extend_decides, apply_ite (fun value => BitVec.getLsbD value bit), fresh_decides,
            BitVec.getLsbD_zero]
          simp only [Bool.true_and, bitPolicy]
          cases (mask rule).getLsbD bit <;> cases decision.decides bit <;>
            cases kind : keep rule <;> simp [kind]

/-- The granted bits of a walk are those its allow rules decide. -/
theorem walk_granted_eq_joined (applies : Rule → Bool) (rules : List Rule) (decision : Decision w) :
    (walk allows mask applies decision rules).granted = decision.granted |||
      joinedWhere allows (rules.zip (decidedBits allows mask applies decision rules)) := by
  induction rules generalizing decision with
  | nil => exact BitVec.or_zero.symm
  | cons rule rest ih =>
      rw [walk_cons, decidedBits]
      split
      · rw [ih, List.zip_cons_cons, joinedWhere_cons, ← BitVec.or_assoc]
        congr 1
        cases allows rule
        · exact BitVec.or_zero.symm
        · rfl
      · rw [ih, List.zip_cons_cons, joinedWhere_cons, ite_self, BitVec.zero_or]

/-- The denied bits of a walk are those its refuse rules decide. -/
theorem walk_denied_eq_joined (applies : Rule → Bool) (rules : List Rule) (decision : Decision w) :
    (walk allows mask applies decision rules).denied = decision.denied |||
      joinedWhere (fun rule => !allows rule)
        (rules.zip (decidedBits allows mask applies decision rules)) := by
  induction rules generalizing decision with
  | nil => exact BitVec.or_zero.symm
  | cons rule rest ih =>
      rw [walk_cons, decidedBits]
      split
      · rw [ih, List.zip_cons_cons, joinedWhere_cons, ← BitVec.or_assoc]
        congr 1
        cases allows rule
        · rfl
        · exact BitVec.or_zero.symm
      · rw [ih, List.zip_cons_cons, joinedWhere_cons, ite_self, BitVec.zero_or]

/-- A whole walk grants no bit that it denies. -/
theorem walk_apart (applies : Rule → Bool) (rules : List Rule) :
    Apart (walk allows mask applies start rules).granted
      (walk allows mask applies start rules).denied := by
  rw [apart_iff]
  intro bit
  rw [walk_granted, walk_denied]
  exact (bitPolicy allows mask).not_grants_and_refuses applies rules bit

/-- Without its refuse rules a walk grants what it grants with them, and those of
the denied bits that an applying allow rule covers. -/
theorem walk_allowing_granted (applies : Rule → Bool) (rules : List Rule) :
    (walk allows mask applies start (rules.filter allows)).granted =
      (walk allows mask applies start rules).granted |||
        ((walk allows mask applies start rules).denied &&&
          joined ((rules.filter (fun rule => allows rule && applies rule)).map mask)) := by
  apply BitVec.eq_of_getLsbD_eq
  intro bit _
  rw [BitVec.getLsbD_or, BitVec.getLsbD_and, Bool.eq_iff_iff, walk_granted, walk_granted,
    walk_denied, Bool.or_eq_true, Bool.and_eq_true, joined_getLsbD]
  have decided := (bitPolicy allows mask).grants_or_refuses_iff applies rules bit
  have allowing := (bitPolicy allows mask).grants_allowing_iff applies rules bit
  have covered : (∃ value ∈ (rules.filter (fun rule => allows rule && applies rule)).map mask,
      value.getLsbD bit = true) ↔ ∃ rule ∈ rules, allows rule = true ∧ applies rule = true ∧
        (mask rule).getLsbD bit = true := by
    constructor
    · rintro ⟨value, found, selected⟩
      rcases List.mem_map.mp found with ⟨rule, kept, rfl⟩
      rcases List.mem_filter.mp kept with ⟨member, both⟩
      rw [Bool.and_eq_true] at both
      exact ⟨rule, member, both.1, both.2, selected⟩
    · rintro ⟨rule, member, allowed, applied, selected⟩
      refine ⟨mask rule, List.mem_map_of_mem (List.mem_filter.mpr ⟨member, ?_⟩), selected⟩
      rw [allowed, applied]
      rfl
  rw [covered]
  refine allowing.trans ⟨fun found => ?_, ?_⟩
  · rcases found with ⟨rule, member, allowed, applied, selected⟩
    rcases decided.mpr ⟨rule, member, applied, selected⟩ with granted | refused
    · exact Or.inl granted
    · exact Or.inr ⟨refused, rule, member, allowed, applied, selected⟩
  · rintro (granted | ⟨_, found⟩)
    · rcases ((bitPolicy allows mask).grants_eq_true_iff applies rules bit).mp granted with
        ⟨rule, deciding, allowed⟩
      rcases (bitPolicy allows mask).deciding_spec deciding with ⟨member, applied, selected⟩
      exact ⟨rule, member, allowed, applied, selected⟩
    · exact found

end Decision

end AccessControl
end Stars
