import Mathlib.Data.Finset.Insert
import Mathlib.Data.Finset.Lattice.Basic

namespace Stars
namespace AccessControl

/-!
# Ordered rule lists decided by their first match

A rule list answers one right at a time: the first rule that applies to the
requester and covers the right decides it, and a right that no rule decides is
refused.  Which rules apply is a parameter of every definition, so that several
requesters, or two bounds around an unknown requester, can be compared over one
list.

The comparison principle is `Policy.grants_mono`.  It asks for an inclusion of
the applying allow rules in one direction and of the applying refuse rules in
the other, and it does not restrict how the two kinds interleave.  The last
section specializes the lists to requesters that are sets of subjects: whatever
a set of subjects changes, one of its members already changes alone.
-/

universe u v s

/-- The two questions a rule answers: what it decides, and which rights it
covers.  Neither depends on the requester. -/
structure Policy (Rule : Type u) (Right : Type v) where
  allows : Rule → Bool
  covers : Rule → Right → Bool

namespace Policy

variable {Rule : Type u} {Right : Type v} (policy : Policy Rule Right)

/-- The rule that decides a right, when there is one. -/
def deciding (applies : Rule → Bool) (rules : List Rule) (right : Right) : Option Rule :=
  rules.find? (fun rule => applies rule && policy.covers rule right)

/-- The deciding rule is an allow rule. -/
def grants (applies : Rule → Bool) (rules : List Rule) (right : Right) : Bool :=
  (policy.deciding applies rules right).any policy.allows

/-- The deciding rule is a refuse rule.  A right that no rule decides is
neither granted nor refused by the list. -/
def refuses (applies : Rule → Bool) (rules : List Rule) (right : Right) : Bool :=
  (policy.deciding applies rules right).any (fun rule => !policy.allows rule)

@[simp] theorem deciding_nil (applies : Rule → Bool) (right : Right) :
    policy.deciding applies [] right = none := rfl

theorem deciding_cons (applies : Rule → Bool) (rule : Rule) (rest : List Rule) (right : Right) :
    policy.deciding applies (rule :: rest) right =
      if applies rule && policy.covers rule right then some rule
      else policy.deciding applies rest right := by
  rw [deciding, List.find?_cons]
  cases applies rule && policy.covers rule right <;> rfl

@[simp] theorem grants_nil (applies : Rule → Bool) (right : Right) :
    policy.grants applies [] right = false := rfl

@[simp] theorem refuses_nil (applies : Rule → Bool) (right : Right) :
    policy.refuses applies [] right = false := rfl

theorem grants_cons (applies : Rule → Bool) (rule : Rule) (rest : List Rule) (right : Right) :
    policy.grants applies (rule :: rest) right =
      if applies rule && policy.covers rule right then policy.allows rule
      else policy.grants applies rest right := by
  rw [grants, deciding_cons]
  split
  · rfl
  · rfl

theorem refuses_cons (applies : Rule → Bool) (rule : Rule) (rest : List Rule) (right : Right) :
    policy.refuses applies (rule :: rest) right =
      if applies rule && policy.covers rule right then !policy.allows rule
      else policy.refuses applies rest right := by
  rw [refuses, deciding_cons]
  split
  · rfl
  · rfl

theorem grants_eq_true_iff (applies : Rule → Bool) (rules : List Rule) (right : Right) :
    policy.grants applies rules right = true ↔
      ∃ rule, policy.deciding applies rules right = some rule ∧ policy.allows rule = true := by
  rw [grants, Option.any_eq_true]

/-- A deciding rule is on the list, applies and covers the right. -/
theorem deciding_spec {applies : Rule → Bool} {rules : List Rule} {right : Right} {rule : Rule}
    (decided : policy.deciding applies rules right = some rule) :
    rule ∈ rules ∧ applies rule = true ∧ policy.covers rule right = true := by
  have found := List.find?_some decided
  rw [Bool.and_eq_true] at found
  exact ⟨List.mem_of_find?_eq_some decided, found.1, found.2⟩

theorem deciding_eq_none_iff (applies : Rule → Bool) (rules : List Rule) (right : Right) :
    policy.deciding applies rules right = none ↔
      ∀ rule ∈ rules, applies rule = true → policy.covers rule right = false := by
  rw [deciding, List.find?_eq_none]
  constructor
  · intro undecided rule member applied
    have refused := undecided rule member
    rw [applied, Bool.true_and] at refused
    exact Bool.eq_false_iff.mpr refused
  · intro undecided rule member
    cases applied : applies rule with
    | false => simp
    | true => simp [undecided rule member applied]

/-- Only the rules on the list matter for the requester. -/
theorem deciding_congr {applies other : Rule → Bool} {rules : List Rule} (right : Right)
    (agree : ∀ rule ∈ rules, applies rule = other rule) :
    policy.deciding applies rules right = policy.deciding other rules right := by
  induction rules with
  | nil => rfl
  | cons rule rest ih =>
      rw [deciding_cons, deciding_cons, agree rule List.mem_cons_self,
        ih (fun next member => agree next (List.mem_cons_of_mem _ member))]

/-- More applying allow rules and fewer applying refuse rules never lose a
right, however the two kinds are ordered. -/
theorem grants_mono {lower upper : Rule → Bool} {rules : List Rule} {right : Right}
    (allowed : ∀ rule ∈ rules, policy.allows rule = true → lower rule = true → upper rule = true)
    (refused : ∀ rule ∈ rules, policy.allows rule = false → upper rule = true → lower rule = true)
    (granted : policy.grants lower rules right = true) :
    policy.grants upper rules right = true := by
  induction rules with
  | nil => exact granted
  | cons rule rest ih =>
      have tail := ih (fun next member => allowed next (List.mem_cons_of_mem _ member))
        (fun next member => refused next (List.mem_cons_of_mem _ member))
      rw [grants_cons] at granted ⊢
      cases kind : policy.allows rule with
      | true =>
          have step := allowed rule List.mem_cons_self kind
          by_cases decides : (upper rule && policy.covers rule right) = true
          · rw [if_pos decides]
          · rw [if_neg decides]
            -- An allow rule that fails above fails below as well.
            have below : ¬ (lower rule && policy.covers rule right) = true := by
              intro both
              rw [Bool.and_eq_true] at both decides
              exact decides ⟨step both.1, both.2⟩
            rw [if_neg below] at granted
            exact tail granted
      | false =>
          have step := refused rule List.mem_cons_self kind
          by_cases decides : (lower rule && policy.covers rule right) = true
          · rw [if_pos decides, kind] at granted
            cases granted
          · rw [if_neg decides] at granted
            have above : ¬ (upper rule && policy.covers rule right) = true := by
              intro both
              rw [Bool.and_eq_true] at both decides
              exact decides ⟨step both.1, both.2⟩
            rw [if_neg above]
            exact tail granted

/-- When a wider requester is decided by a rule that already applies to the
narrower one, the narrower one is decided by the same rule. -/
theorem deciding_of_wider {narrow wide : Rule → Bool} {rules : List Rule} {right : Right}
    {rule : Rule}
    (wider : ∀ next ∈ rules, narrow next = true → wide next = true)
    (decided : policy.deciding wide rules right = some rule) (applied : narrow rule = true) :
    policy.deciding narrow rules right = some rule := by
  induction rules with
  | nil => cases decided
  | cons head rest ih =>
      have tail := ih (fun next member => wider next (List.mem_cons_of_mem _ member))
      rw [deciding_cons] at decided ⊢
      by_cases decides : (wide head && policy.covers head right) = true
      · rw [if_pos decides] at decided
        cases decided
        rw [Bool.and_eq_true] at decides
        rw [if_pos (by rw [applied, decides.2]; rfl)]
      · rw [if_neg decides] at decided
        have skipped : ¬ (narrow head && policy.covers head right) = true := by
          intro both
          rw [Bool.and_eq_true] at both decides
          exact decides ⟨wider head List.mem_cons_self both.1, both.2⟩
        rw [if_neg skipped]
        exact tail decided

/-! ## One rule of a list -/

theorem deciding_append (applies : Rule → Bool) (before after : List Rule) (right : Right) :
    policy.deciding applies (before ++ after) right =
      (policy.deciding applies before right).or (policy.deciding applies after right) :=
  List.find?_append

/-- An applying refuse rule refuses what the rules before it do not grant. -/
theorem refuses_of_split {applies : Rule → Bool} {before after : List Rule} {rule : Rule}
    {right : Right} (kind : policy.allows rule = false) (applied : applies rule = true)
    (covered : policy.covers rule right = true)
    (undecided : policy.grants applies before right = false) :
    policy.refuses applies (before ++ rule :: after) right = true := by
  rw [refuses, deciding_append]
  rw [grants] at undecided
  cases decided : policy.deciding applies before right with
  | some earlier =>
      rw [decided, Option.any_some] at undecided
      rw [Option.some_or, Option.any_some, undecided]
      rfl
  | none =>
      rw [Option.none_or, deciding_cons, applied, covered, Bool.and_self, if_pos rfl,
        Option.any_some, kind]
      rfl

/-- A rule that does not apply can be left out. -/
theorem grants_remove {applies : Rule → Bool} {before after : List Rule} {rule : Rule}
    (skipped : applies rule = false) (right : Right) :
    policy.grants applies (before ++ rule :: after) right =
      policy.grants applies (before ++ after) right := by
  rw [grants, grants, deciding_append, deciding_append, deciding_cons, skipped, Bool.false_and,
    if_neg Bool.false_ne_true]

/-- The rule decides the right, and the rules after it do not grant it. -/
def Adds (applies : Rule → Bool) (before : List Rule) (rule : Rule) (after : List Rule)
    (right : Right) : Prop :=
  applies rule = true ∧ policy.covers rule right = true ∧
    policy.deciding applies before right = none ∧ policy.grants applies after right = false

/-- An allow rule makes a difference exactly for the rights it adds. -/
theorem adds_iff {applies : Rule → Bool} {before after : List Rule} {rule : Rule}
    (kind : policy.allows rule = true) (right : Right) :
    policy.Adds applies before rule after right ↔
      policy.grants applies (before ++ rule :: after) right = true ∧
        policy.grants applies (before ++ after) right = false := by
  simp only [Adds, grants, deciding_append]
  cases first : policy.deciding applies before right with
  | some earlier =>
      rw [Option.some_or, Option.some_or]
      refine iff_of_false (fun adds => by cases adds.2.2.1) ?_
      rintro ⟨granted, refused⟩
      rw [granted] at refused
      cases refused
  | none =>
      rw [Option.none_or, Option.none_or, deciding_cons]
      by_cases decides : (applies rule && policy.covers rule right) = true
      · rw [if_pos decides, Option.any_some, kind]
        rw [Bool.and_eq_true] at decides
        simp only [decides, true_and]
      · rw [if_neg decides]
        rw [Bool.and_eq_true] at decides
        refine iff_of_false (fun adds => decides ⟨adds.1, adds.2.1⟩) ?_
        rintro ⟨granted, refused⟩
        rw [granted] at refused
        cases refused

/-- Where the rule is the first one that covers the right and applies to one of two
requesters only, the rules after it tell the other one the same. -/
def Concurs (first second : Rule → Bool) (before : List Rule) (rule : Rule) (after : List Rule)
    (right : Right) : Prop :=
  policy.covers rule right = true → policy.deciding first before right = none →
    policy.deciding second before right = none →
      (first rule = true → second rule = false →
        policy.grants second after right = policy.allows rule) ∧
      (first rule = false → second rule = true →
        policy.grants first after right = policy.allows rule)

theorem concurs_of_eq {first second : Rule → Bool} {before after : List Rule} {rule : Rule}
    {right : Right} (same : first rule = second rule) :
    policy.Concurs first second before rule after right := by
  intro _ _ _
  rw [same]
  constructor
  · intro applies skipped
    rw [applies] at skipped
    cases skipped
  · intro skipped applies
    rw [applies] at skipped
    cases skipped

/-- A rule that decides for neither requester can be put in front. -/
theorem concurs_cons {first second : Rule → Bool} {before after : List Rule} {rule head : Rule}
    {right : Right} (firstSkips : (first head && policy.covers head right) = false)
    (secondSkips : (second head && policy.covers head right) = false) :
    policy.Concurs first second (head :: before) rule after right ↔
      policy.Concurs first second before rule after right := by
  rw [Concurs, Concurs, deciding_cons, deciding_cons, firstSkips, secondSkips,
    if_neg Bool.false_ne_true, if_neg Bool.false_ne_true]

/-- A list tells two requesters the same exactly when the first rule that tells only
one of them concurs with the rules after it. -/
theorem grants_eq_iff (first second : Rule → Bool) (rules : List Rule) (right : Right) :
    policy.grants first rules right = policy.grants second rules right ↔
      ∀ before rule after, rules = before ++ rule :: after →
        policy.Concurs first second before rule after right := by
  induction rules with
  | nil =>
      refine iff_of_true rfl (fun before rule after divided => ?_)
      exact absurd divided.symm
        (List.append_ne_nil_of_right_ne_nil before (List.cons_ne_nil rule after))
  | cons head rest known =>
      rw [grants_cons, grants_cons]
      -- What the head tells either requester settles every later rule.
      by_cases decides : (first head && policy.covers head right) = false ∧
          (second head && policy.covers head right) = false
      · rw [decides.1, decides.2, if_neg Bool.false_ne_true, if_neg Bool.false_ne_true, known]
        constructor
        · intro concurs before rule after divided
          cases before with
          | nil =>
              rcases List.cons.inj divided with ⟨rfl, rfl⟩
              intro covered
              rw [covered, Bool.and_true, Bool.and_true] at decides
              exact policy.concurs_of_eq (decides.1.trans decides.2.symm) covered
          | cons other before =>
              rcases List.cons.inj divided with ⟨rfl, tail⟩
              exact (policy.concurs_cons decides.1 decides.2).mpr (concurs before rule after tail)
        · intro concurs before rule after divided
          exact (policy.concurs_cons decides.1 decides.2).mp
            (concurs (head :: before) rule after (congrArg (head :: ·) divided))
      · have settled : (∀ before rule after, head :: rest = before ++ rule :: after →
              policy.Concurs first second before rule after right) ↔
            policy.Concurs first second [] head rest right := by
          refine ⟨fun concurs => concurs [] head rest rfl, ?_⟩
          intro concurs before rule after divided
          cases before with
          | nil =>
              rcases List.cons.inj divided with ⟨rfl, rfl⟩
              exact concurs
          | cons other before =>
              rcases List.cons.inj divided with ⟨rfl, _⟩
              intro _ firstOpen secondOpen
              rw [deciding_cons] at firstOpen secondOpen
              refine absurd ⟨?_, ?_⟩ decides
              · apply Bool.eq_false_iff.mpr
                intro found
                rw [if_pos found] at firstOpen
                cases firstOpen
              · apply Bool.eq_false_iff.mpr
                intro found
                rw [if_pos found] at secondOpen
                cases secondOpen
        rw [settled]
        have covered : policy.covers head right = true := by
          by_contra uncovered
          rw [Bool.not_eq_true] at uncovered
          exact decides (by rw [uncovered, Bool.and_false, Bool.and_false]; exact ⟨rfl, rfl⟩)
        rw [covered, Bool.and_true, Bool.and_true] at decides ⊢
        rw [Concurs, covered]
        cases firstApplies : first head with
        | true =>
            cases secondApplies : second head with
            | true => simp
            | false => simp [eq_comm]
        | false =>
            cases secondApplies : second head with
            | true => simp
            | false => exact absurd ⟨firstApplies, secondApplies⟩ decides

/-- An allow rule takes no right away. -/
theorem grants_insert {applies : Rule → Bool} {before after : List Rule} {rule : Rule}
    {right : Right} (kind : policy.allows rule = true)
    (granted : policy.grants applies (before ++ after) right = true) :
    policy.grants applies (before ++ rule :: after) right = true := by
  rw [grants, deciding_append] at granted ⊢
  cases first : policy.deciding applies before right with
  | some earlier =>
      rw [first, Option.some_or] at granted
      rw [Option.some_or]
      exact granted
  | none =>
      rw [first, Option.none_or] at granted
      rw [Option.none_or, deciding_cons]
      split
      · exact kind
      · exact granted

/-- The most a requester gets when every doubtful rule that allows
applies, and no other doubtful one. -/
def most (known doubtful : Rule → Bool) (rule : Rule) : Bool :=
  known rule || (doubtful rule && policy.allows rule)

/-- The least such a requester gets. -/
def least (known doubtful : Rule → Bool) (rule : Rule) : Bool :=
  known rule || (doubtful rule && !policy.allows rule)

end Policy

/-! ## Requesters that are sets of subjects -/

section Subjects

variable {Rule : Type u} {Right : Type v} {Subject : Type s} [DecidableEq Subject]
variable (policy : Policy Rule Right) (subject : Rule → Subject)

/-- The rules that name a member of a set of subjects. -/
def named (subjects : Finset Subject) (rule : Rule) : Bool := decide (subject rule ∈ subjects)

theorem named_mono {small large : Finset Subject} (included : small ⊆ large) {rule : Rule}
    (applied : named subject small rule = true) : named subject large rule = true :=
  decide_eq_true (included (of_decide_eq_true applied))

/-- The decision for a set of subjects is the decision for a common base or
for the base and one single further member. -/
theorem deciding_named_single {base subjects : Finset Subject} (included : base ⊆ subjects)
    (rules : List Rule) (right : Right) :
    policy.deciding (named subject subjects) rules right =
        policy.deciding (named subject base) rules right ∨
      ∃ member ∈ subjects, member ∉ base ∧
        policy.deciding (named subject subjects) rules right =
          policy.deciding (named subject (insert member base)) rules right := by
  cases decided : policy.deciding (named subject subjects) rules right with
  | none =>
      left
      symm
      rw [Policy.deciding_eq_none_iff] at decided ⊢
      exact fun rule member applied => decided rule member (named_mono subject included applied)
  | some rule =>
      have member : subject rule ∈ subjects := of_decide_eq_true (policy.deciding_spec decided).2.1
      by_cases known : subject rule ∈ base
      · left
        exact (policy.deciding_of_wider (fun _ _ => named_mono subject included) decided
          (decide_eq_true known)).symm
      · right
        refine ⟨subject rule, member, known, ?_⟩
        have within : insert (subject rule) base ⊆ subjects :=
          Finset.insert_subset member included
        exact (policy.deciding_of_wider (fun _ _ => named_mono subject within) decided
          (decide_eq_true (Finset.mem_insert_self _ _))).symm

end Subjects

end AccessControl
end Stars
