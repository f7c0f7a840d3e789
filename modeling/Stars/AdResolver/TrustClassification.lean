import Stars.AdResolver.Trusts
import Stars.Collections.KeyedList

namespace Stars
namespace AdResolver

open Collections

/-!
# Trusts in any order

The classification takes the first trust object for a domain, and else the first
forest trust with the first of its records for the domain.  A directory returns
its objects in no particular order.  Two records can say different things of one
domain, and then the order decides.  A trust that one domain of the forest holds
can also stand before the forest trust that applies to all of them.

Equivalent partners may be named interchangeably.  What is compared besides is
everything else that an answer says.
-/

/-- The same trusted forest under the name of another partner. -/
def TrustedForest.Same (forest other : TrustedForest) : Prop :=
  forest.domainSids.Perm other.domainSids ∧ forest.infoError = other.infoError

/-- The reason of an answer that is left open by unread forests. -/
def unknownForestsReason (sidDomain : String) (unknown : List String) : String :=
  let count := unknown.length
  let names := Text.join "; " unknown
  s!"domain {sidDomain} is neither the configured domain nor one of its trust " ++
    s!"objects, and the domains of {count} trusted forest(s) are not known ({names}) " ++
    "— it may be a domain of such a forest"

/-- The same relation, with an equivalent partner named and unread forests listed
in any order. -/
inductive SameRelation : SidDomainRelation → SidDomainRelation → Prop where
  | trustedDomain {domainSid : String} {attributes : TrustAttributes}
      {forest other : Option TrustedForest} (partner otherPartner : String)
      (forests : Option.Rel TrustedForest.Same forest other) :
      SameRelation (.trustedDomain partner domainSid attributes forest)
        (.trustedDomain otherPartner domainSid attributes other)
  | forestDomainSidDisabled {domainSid : String} {flags : BitVec 32}
      (domain forest otherDomain otherForest : String) :
      SameRelation (.forestDomainSidDisabled domain domainSid forest flags)
        (.forestDomainSidDisabled otherDomain domainSid otherForest flags)
  | trustedByForestDomain {domainSid holder : String} (partner otherPartner : String) :
      SameRelation (.trustedByForestDomain partner domainSid holder)
        (.trustedByForestDomain otherPartner domainSid holder)
  | unknownForests {sidDomain : String} {unknown other : List String}
      (perm : unknown.Perm other) :
      SameRelation (.unknown (unknownForestsReason sidDomain unknown))
        (.unknown (unknownForestsReason sidDomain other))
  | refl (relation : SidDomainRelation) : SameRelation relation relation

/-- The domain is the partner of a trust. -/
def IsPartner (sidDomain : String) (held : HeldTrust) : Prop :=
  held.trust.sid.any (fun sid => Text.eqIgnoreAsciiCase sid.value sidDomain) = true

/-- A trust of this kind applies to every domain that the view sees: a forest
trust, or any trust of the one domain. -/
def Applies (view : TrustView) (held : HeldTrust) : Prop :=
  view = .forest → held.trust.attributes.forestTransitive = true

instance (view : TrustView) (held : HeldTrust) : Decidable (Applies view held) :=
  inferInstanceAs (Decidable (_ → _))

/-- The forest trust information of a forest trust lists a domain. -/
structure Lists (sidDomain : String) (held : HeldTrust) (domain : ForestTrustDomain) : Prop where
  forest : held.trust.attributes.forestTransitive = true
  member : domain ∈ held.trust.forestDomains
  same : Text.eqIgnoreAsciiCase domain.sid.value sidDomain = true

/-- A trust that may cover a SID of the domain: its partner is the domain or has
no known SID, or it is a forest trust that lists the domain or whose information
was not read. -/
def CouldCover (sidDomain : String) (held : HeldTrust) : Prop :=
  IsPartner sidDomain held ∨
    held.trust.attributes.forestTransitive = false ∧ held.trust.sid = none ∨
    (∃ domain, Lists sidDomain held domain) ∨
    held.trust.attributes.forestTransitive = true ∧ held.trust.forestInfoError ≠ none

/-- No trust of another domain of the forest is hidden from the view. -/
def SeesAll (view : TrustView) : Prop := view = .forest ∨ view = .domain (some true)

/-- A trust object with its forest trust information in another order. -/
def SameRecord (held other : HeldTrust) : Prop :=
  ∃ domains, held.trust.forestDomains.Perm domains ∧
    other = { held with trust := { held.trust with forestDomains := domains } }

/-- The trusts in another order, each with its forest trust information in any
order. -/
def RearrangedTrusts (trusts arranged : List HeldTrust) : Prop :=
  ∃ shuffled, trusts.Perm shuffled ∧ List.Forall₂ SameRecord shuffled arranged

/-- What the classification says of a set of trusts. -/
structure ClassifiedBySet (sidDomain : String) (trusts : List HeldTrust) (view : TrustView) :
    Prop where
  any_order : ∀ arranged, RearrangedTrusts trusts arranged →
    SameRelation (classifyAgainstTrusts sidDomain trusts view)
      (classifyAgainstTrusts sidDomain arranged view)
  trusted : ((∃ held ∈ trusts, ∃ domain, Lists sidDomain held domain ∧
        domain.sidEnabled = true) ∨
      ∃ held ∈ trusts, IsPartner sidDomain held ∧ Applies view held) →
    ∃ partner domainSid attributes forest, classifyAgainstTrusts sidDomain trusts view =
      .trustedDomain partner domainSid attributes forest
  disabled : ∀ domain domainSid forest flags, classifyAgainstTrusts sidDomain trusts view =
      .forestDomainSidDisabled domain domainSid forest flags →
    ∀ held ∈ trusts, ∀ listed, Lists sidDomain held listed → listed.sidEnabled = false
  other : ∀ domainSid, classifyAgainstTrusts sidDomain trusts view = .otherDomain domainSid →
    (∀ held ∈ trusts, ¬CouldCover sidDomain held) ∧ SeesAll view

/-- Two forest trusts with the same enabled domains and the same gap. -/
def SameForest (trust other : DomainTrust) : Prop :=
  ((trust.forestDomains.filter ForestTrustDomain.sidEnabled).map
      (fun domain => domain.sid.value)).Perm
      ((other.forestDomains.filter ForestTrustDomain.sidEnabled).map
        (fun domain => domain.sid.value)) ∧
    trust.forestInfoError = other.forestInfoError

/-- Two trusts with the same attributes and, for forest trusts, the same forest. -/
def SameTrust (trust other : DomainTrust) : Prop :=
  trust.attributes = other.attributes ∧
    (trust.attributes.forestTransitive = true → SameForest trust other)

/-- Two trusts with one partner that a view tells nothing different of. -/
def SamePartner (view : TrustView) (held other : HeldTrust) : Prop :=
  if Applies view held then SameTrust held.trust other.trust
  else ¬Applies view other ∧ held.holder = other.holder

/-- Two records of one domain that say the same: both enabled over trusts that are
alike, or both disabled in the same way. -/
def SameEntry (held other : HeldTrust) (domain listed : ForestTrustDomain) : Prop :=
  if domain.sidEnabled then listed.sidEnabled = true ∧ SameTrust held.trust other.trust
  else listed.sidEnabled = false ∧ domain.flags = listed.flags

/-- The records of a domain agree, and nothing that is not known about the other
trusts concerns it. -/
structure RecordsAgree (sidDomain : String) (trusts : List HeldTrust) (view : TrustView) :
    Prop where
  partners : ∀ held ∈ trusts, ∀ other ∈ trusts, IsPartner sidDomain held →
    IsPartner sidDomain other → SamePartner view held other
  applies : ∀ held ∈ trusts, IsPartner sidDomain held → ¬Applies view held →
    ∀ other ∈ trusts, ∀ domain, Lists sidDomain other domain → domain.sidEnabled = false
  entries : (∀ held ∈ trusts, ¬IsPartner sidDomain held) →
    ∀ held ∈ trusts, ∀ other ∈ trusts, ∀ domain listed, Lists sidDomain held domain →
      Lists sidDomain other listed → SameEntry held other domain listed
  known : (∀ held ∈ trusts, ¬IsPartner sidDomain held) →
    (∀ held ∈ trusts, ∀ domain, ¬Lists sidDomain held domain) →
    (∀ held ∈ trusts, held.trust.attributes.forestTransitive = true →
      held.trust.forestInfoError = none) → SeesAll view →
    ∀ held ∈ trusts, held.trust.attributes.forestTransitive = false → held.trust.sid ≠ none

section Decides

variable {sidDomain : String} {trusts : List HeldTrust} {view : TrustView}

theorem trustOfDomain_eq_some {held : HeldTrust}
    (found : trustOfDomain sidDomain trusts = some held) :
    held ∈ trusts ∧ IsPartner sidDomain held := by
  have hit := List.find?_some found
  exact ⟨List.mem_of_find?_eq_some found, hit⟩

theorem trustOfDomain_eq_none_iff :
    trustOfDomain sidDomain trusts = none ↔ ∀ held ∈ trusts, ¬IsPartner sidDomain held := by
  rw [trustOfDomain, List.find?_eq_none]
  rfl

theorem forestTrustOfDomain_eq_some {trust : DomainTrust} {domain : ForestTrustDomain}
    (found : forestTrustOfDomain sidDomain trusts = some (trust, domain)) :
    ∃ held ∈ trusts, held.trust = trust ∧ Lists sidDomain held domain := by
  rcases List.exists_of_findSome?_eq_some found with ⟨here, member, hit⟩
  rcases Option.map_eq_some_iff.mp hit with ⟨listed, first, same⟩
  cases same
  rcases List.mem_filter.mp member with ⟨inside, transitive⟩
  rcases List.mem_map.mp inside with ⟨held, listedTrust, rfl⟩
  exact ⟨held, listedTrust, rfl, transitive, List.mem_of_find?_eq_some first,
    by simpa using List.find?_some first⟩

theorem forestTrustOfDomain_eq_none_iff :
    forestTrustOfDomain sidDomain trusts = none ↔
      ∀ held ∈ trusts, ∀ domain, ¬Lists sidDomain held domain := by
  rw [forestTrustOfDomain, List.findSome?_eq_none_iff]
  constructor
  · intro none held member domain lists
    have unlisted := none held.trust
      (List.mem_filter.mpr ⟨List.mem_map_of_mem member, lists.forest⟩)
    rw [Option.map_eq_none_iff, List.find?_eq_none] at unlisted
    exact unlisted domain lists.member lists.same
  · intro none trust member
    rcases List.mem_filter.mp member with ⟨inside, transitive⟩
    rcases List.mem_map.mp inside with ⟨held, listed, rfl⟩
    rw [Option.map_eq_none_iff, List.find?_eq_none]
    exact fun domain found same => none held listed domain ⟨transitive, found, same⟩

/-- A domain that is a partner is classified by one of the trusts with it. -/
theorem classify_of_partner (named : ∃ held ∈ trusts, IsPartner sidDomain held) :
    ∃ first ∈ trusts, IsPartner sidDomain first ∧
      classifyAgainstTrusts sidDomain trusts view = directTrustRelation sidDomain view first := by
  cases found : trustOfDomain sidDomain trusts with
  | none =>
      rcases named with ⟨held, member, partner⟩
      exact absurd partner (trustOfDomain_eq_none_iff.mp found held member)
  | some first =>
      rcases trustOfDomain_eq_some found with ⟨member, partner⟩
      refine ⟨first, member, partner, ?_⟩
      rw [classifyAgainstTrusts, found]

/-- Any other domain is classified by one of its records. -/
theorem classify_of_listed (unnamed : ∀ held ∈ trusts, ¬IsPartner sidDomain held)
    (listed : ∃ held ∈ trusts, ∃ domain, Lists sidDomain held domain) :
    ∃ first ∈ trusts, ∃ entry, Lists sidDomain first entry ∧
      classifyAgainstTrusts sidDomain trusts view =
        forestDomainRelation sidDomain first.trust entry := by
  cases found : forestTrustOfDomain sidDomain trusts with
  | none =>
      rcases listed with ⟨held, member, domain, lists⟩
      exact absurd lists (forestTrustOfDomain_eq_none_iff.mp found held member domain)
  | some record =>
      rcases forestTrustOfDomain_eq_some found with ⟨first, member, same, lists⟩
      refine ⟨first, member, record.2, lists, ?_⟩
      rw [classifyAgainstTrusts, trustOfDomain_eq_none_iff.mpr unnamed, found, same]

theorem classify_of_unlisted (unnamed : ∀ held ∈ trusts, ¬IsPartner sidDomain held)
    (unlisted : ∀ held ∈ trusts, ∀ domain, ¬Lists sidDomain held domain) :
    classifyAgainstTrusts sidDomain trusts view = unlistedRelation sidDomain trusts view := by
  rw [classifyAgainstTrusts, trustOfDomain_eq_none_iff.mpr unnamed,
    forestTrustOfDomain_eq_none_iff.mpr unlisted]

/-- A trust with the domain decides, or else a record of it, or that there is none. -/
theorem classify_cases (sidDomain : String) (trusts : List HeldTrust) (view : TrustView) :
    (∃ first ∈ trusts, IsPartner sidDomain first ∧
      classifyAgainstTrusts sidDomain trusts view = directTrustRelation sidDomain view first) ∨
    (∀ held ∈ trusts, ¬IsPartner sidDomain held) ∧
      ((∃ first ∈ trusts, ∃ entry, Lists sidDomain first entry ∧
        classifyAgainstTrusts sidDomain trusts view =
          forestDomainRelation sidDomain first.trust entry) ∨
      (∀ held ∈ trusts, ∀ domain, ¬Lists sidDomain held domain) ∧
        classifyAgainstTrusts sidDomain trusts view = unlistedRelation sidDomain trusts view) := by
  by_cases named : ∃ held ∈ trusts, IsPartner sidDomain held
  · exact Or.inl (classify_of_partner named)
  have unnamed : ∀ held ∈ trusts, ¬IsPartner sidDomain held :=
    fun held member partner => named ⟨held, member, partner⟩
  refine Or.inr ⟨unnamed, ?_⟩
  by_cases listed : ∃ held ∈ trusts, ∃ domain, Lists sidDomain held domain
  · exact Or.inl (classify_of_listed unnamed listed)
  have unlisted : ∀ held ∈ trusts, ∀ domain, ¬Lists sidDomain held domain :=
    fun held member domain lists => listed ⟨held, member, domain, lists⟩
  exact Or.inr ⟨unlisted, classify_of_unlisted unnamed unlisted⟩

theorem unknownForests_eq_nil_iff :
    unknownForests trusts = [] ↔ ∀ held ∈ trusts,
      held.trust.attributes.forestTransitive = true → held.trust.forestInfoError = none := by
  rw [unknownForests, List.filterMap_eq_nil_iff]
  constructor
  · intro none held member transitive
    have unread := none held.trust (List.mem_filter.mpr ⟨List.mem_map_of_mem member, transitive⟩)
    exact Option.map_eq_none_iff.mp unread
  · intro none trust member
    rcases List.mem_filter.mp member with ⟨inside, transitive⟩
    rcases List.mem_map.mp inside with ⟨held, listed, rfl⟩
    exact Option.map_eq_none_iff.mpr (none held listed transitive)

/-- A domain that nothing mentions is another domain when every forest is known
and no trust is hidden. -/
theorem unlistedRelation_eq_other_iff {domainSid : String} :
    unlistedRelation sidDomain trusts view = .otherDomain domainSid ↔
      unknownForests trusts = [] ∧ SeesAll view ∧ sidDomain = domainSid := by
  by_cases known : unknownForests trusts = []
  · rw [unlistedRelation, known, SeesAll]
    rcases view with (_ | _ | _) | _ <;> simp [unmentionedRelation]
  · rw [unlistedRelation, if_neg (by simpa using known)]
    exact iff_of_false (fun impossible => by cases impossible) (fun all => known all.1)

end Decides

theorem SameForest.symm {trust other : DomainTrust} (same : SameForest trust other) :
    SameForest other trust := ⟨same.1.symm, same.2.symm⟩

theorem SameForest.trans {trust middle other : DomainTrust} (first : SameForest trust middle)
    (second : SameForest middle other) : SameForest trust other :=
  ⟨first.1.trans second.1, first.2.trans second.2⟩

theorem SameTrust.symm {trust other : DomainTrust} (same : SameTrust trust other) :
    SameTrust other trust := by
  refine ⟨same.1.symm, fun transitive => (same.2 ?_).symm⟩
  rw [same.1]
  exact transitive

theorem SameTrust.trans {trust middle other : DomainTrust} (first : SameTrust trust middle)
    (second : SameTrust middle other) : SameTrust trust other := by
  refine ⟨first.1.trans second.1, fun transitive => (first.2 transitive).trans (second.2 ?_)⟩
  rw [← first.1]
  exact transitive

theorem applies_congr {view : TrustView} {held other : HeldTrust}
    (same : held.trust.attributes = other.trust.attributes) :
    Applies view held ↔ Applies view other := by
  rw [Applies, Applies, same]

theorem SamePartner.symm {view : TrustView} {held other : HeldTrust}
    (same : SamePartner view held other) : SamePartner view other held := by
  rw [SamePartner] at same ⊢
  by_cases applies : Applies view held
  · rw [if_pos applies] at same
    rw [if_pos ((applies_congr same.1).mp applies)]
    exact SameTrust.symm same
  · rw [if_neg applies] at same
    rw [if_neg same.1]
    exact ⟨applies, same.2.symm⟩

theorem SamePartner.trans {view : TrustView} {held middle other : HeldTrust}
    (first : SamePartner view held middle) (second : SamePartner view middle other) :
    SamePartner view held other := by
  rw [SamePartner] at first second ⊢
  by_cases applies : Applies view held
  · rw [if_pos applies] at first ⊢
    rw [if_pos ((applies_congr first.1).mp applies)] at second
    exact SameTrust.trans first second
  · rw [if_neg applies] at first ⊢
    rw [if_neg first.1] at second
    exact ⟨second.1, first.2.trans second.2⟩

theorem SameEntry.symm {held other : HeldTrust} {domain listed : ForestTrustDomain}
    (same : SameEntry held other domain listed) : SameEntry other held listed domain := by
  rw [SameEntry] at same ⊢
  cases enabled : domain.sidEnabled with
  | true =>
      rw [enabled, if_pos rfl] at same
      rw [same.1, if_pos rfl]
      exact ⟨rfl, same.2.symm⟩
  | false =>
      rw [enabled, if_neg Bool.false_ne_true] at same
      rw [same.1, if_neg Bool.false_ne_true]
      exact ⟨rfl, same.2.symm⟩

theorem SameEntry.trans {held middle other : HeldTrust} {domain entry listed : ForestTrustDomain}
    (first : SameEntry held middle domain entry) (second : SameEntry middle other entry listed) :
    SameEntry held other domain listed := by
  rw [SameEntry] at first second ⊢
  cases enabled : domain.sidEnabled with
  | true =>
      rw [enabled, if_pos rfl] at first
      rw [first.1, if_pos rfl] at second
      exact ⟨second.1, first.2.trans second.2⟩
  | false =>
      rw [enabled, if_neg Bool.false_ne_true] at first
      rw [first.1, if_neg Bool.false_ne_true] at second
      exact ⟨second.1, first.2.trans second.2⟩

theorem sameForests_refl (forest : Option TrustedForest) :
    Option.Rel TrustedForest.Same forest forest := by
  cases forest with
  | none => exact .none
  | some forest => exact .some ⟨List.Perm.refl _, rfl⟩

theorem SameRelation.of_trustedDomain {partner domainSid otherPartner otherSid : String}
    {attributes others : TrustAttributes} {forest other : Option TrustedForest}
    (same : SameRelation (.trustedDomain partner domainSid attributes forest)
      (.trustedDomain otherPartner otherSid others other)) :
    attributes = others ∧ Option.Rel TrustedForest.Same forest other := by
  cases same with
  | trustedDomain _ _ forests => exact ⟨rfl, forests⟩
  | refl _ => exact ⟨rfl, sameForests_refl forest⟩

theorem SameRelation.of_forestDomainSidDisabled
    {domain domainSid forest otherDomain otherSid otherForest : String} {flags others : BitVec 32}
    (same : SameRelation (.forestDomainSidDisabled domain domainSid forest flags)
      (.forestDomainSidDisabled otherDomain otherSid otherForest others)) : flags = others := by
  cases same with
  | forestDomainSidDisabled => rfl
  | refl _ => rfl

theorem SameRelation.of_trustedByForestDomain
    {partner domainSid holder otherPartner otherSid otherHolder : String}
    (same : SameRelation (.trustedByForestDomain partner domainSid holder)
      (.trustedByForestDomain otherPartner otherSid otherHolder)) : holder = otherHolder := by
  cases same with
  | trustedByForestDomain => rfl
  | refl _ => rfl

theorem sameTrust_iff {trust other : DomainTrust} :
    trust.attributes = other.attributes ∧
        Option.Rel TrustedForest.Same (TrustedForest.of trust) (TrustedForest.of other) ↔
      SameTrust trust other := by
  rw [SameTrust]
  apply and_congr_right
  intro same
  rw [TrustedForest.of, TrustedForest.of, ← same]
  by_cases transitive : trust.attributes.forestTransitive = true
  · rw [if_pos transitive, if_pos transitive, Option.rel_some_some]
    exact ⟨fun forest _ => forest, fun forest => forest transitive⟩
  · rw [if_neg transitive, if_neg transitive]
    exact iff_of_true .none (fun impossible => absurd impossible transitive)

section Answers

variable {sidDomain : String} {view : TrustView} {held other : HeldTrust}

theorem directTrustRelation_eq :
    directTrustRelation sidDomain view held =
      if Applies view held then
        .trustedDomain held.trust.partner sidDomain held.trust.attributes
          (TrustedForest.of held.trust)
      else .trustedByForestDomain held.trust.partner sidDomain held.holder := by
  have opposite : view = .forest ∧ !held.trust.attributes.forestTransitive ↔
      ¬Applies view held := by
    rw [Applies, Classical.not_imp, Bool.not_eq_true, Bool.not_eq_true']
  rw [directTrustRelation, if_congr opposite rfl rfl, ite_not]

/-- Two trusts of one domain give the same answer exactly when they are alike. -/
theorem directTrustRelation_same_iff :
    SameRelation (directTrustRelation sidDomain view held)
        (directTrustRelation sidDomain view other) ↔ SamePartner view held other := by
  rw [directTrustRelation_eq, directTrustRelation_eq, SamePartner]
  by_cases applies : Applies view held
  · rw [if_pos applies, if_pos applies]
    constructor
    · intro same
      by_cases otherApplies : Applies view other
      · rw [if_pos otherApplies] at same
        exact sameTrust_iff.mp same.of_trustedDomain
      · rw [if_neg otherApplies] at same
        cases same
    · intro same
      rw [if_pos ((applies_congr same.1).mp applies), ← same.1]
      exact .trustedDomain _ _ (sameTrust_iff.mpr same).2
  · rw [if_neg applies, if_neg applies]
    constructor
    · intro same
      by_cases otherApplies : Applies view other
      · rw [if_pos otherApplies] at same
        cases same
      · rw [if_neg otherApplies] at same
        exact ⟨otherApplies, same.of_trustedByForestDomain⟩
    · rintro ⟨otherApplies, holder⟩
      rw [if_neg otherApplies, holder]
      exact .trustedByForestDomain _ _

/-- Two records of one domain give the same answer exactly when they are alike. -/
theorem forestDomainRelation_same_iff {domain listed : ForestTrustDomain} :
    SameRelation (forestDomainRelation sidDomain held.trust domain)
        (forestDomainRelation sidDomain other.trust listed) ↔
      SameEntry held other domain listed := by
  rw [forestDomainRelation, forestDomainRelation, SameEntry]
  cases domain.sidEnabled <;> cases listed.sidEnabled
  · simp only [Bool.false_eq_true, if_false, true_and]
    constructor
    · exact fun same => same.of_forestDomainSidDisabled
    · intro flags
      rw [flags]
      exact .forestDomainSidDisabled _ _ _ _
  · simp only [Bool.false_eq_true, if_false, if_true, Bool.true_eq_false, false_and, iff_false]
    intro same
    cases same
  · simp only [Bool.false_eq_true, if_false, if_true, false_and, iff_false]
    intro same
    cases same
  · simp only [if_true, true_and]
    constructor
    · exact fun same => sameTrust_iff.mp same.of_trustedDomain
    · intro same
      rw [← same.1]
      exact .trustedDomain _ _ (sameTrust_iff.mpr same).2

end Answers

/-! ## Rearranged trusts -/

section Rearranged

variable {sidDomain : String} {view : TrustView} {held other : HeldTrust}

theorem SameRecord.refl (held : HeldTrust) : SameRecord held held :=
  ⟨held.trust.forestDomains, List.Perm.refl _, rfl⟩

theorem SameRecord.symm (same : SameRecord held other) : SameRecord other held := by
  rcases same with ⟨domains, perm, rfl⟩
  exact ⟨held.trust.forestDomains, perm.symm, rfl⟩

theorem SameRecord.sameTrust (same : SameRecord held other) :
    SameTrust held.trust other.trust := by
  rcases same with ⟨domains, perm, rfl⟩
  exact ⟨rfl, fun _ => ⟨(perm.filter _).map _, rfl⟩⟩

theorem SameRecord.samePartner (same : SameRecord held other) : SamePartner view held other := by
  rw [SamePartner]
  split
  · exact same.sameTrust
  · rename_i applies
    rcases same with ⟨domains, _, rfl⟩
    exact ⟨applies, rfl⟩

theorem SameRecord.isPartner_iff (same : SameRecord held other) :
    IsPartner sidDomain other ↔ IsPartner sidDomain held := by
  rcases same with ⟨domains, _, rfl⟩
  rfl

theorem SameRecord.lists_iff (same : SameRecord held other) {domain : ForestTrustDomain} :
    Lists sidDomain other domain ↔ Lists sidDomain held domain := by
  rcases same with ⟨domains, perm, rfl⟩
  constructor
  · exact fun lists => ⟨lists.forest, perm.mem_iff.mpr lists.member, lists.same⟩
  · exact fun lists => ⟨lists.forest, perm.mem_iff.mp lists.member, lists.same⟩

theorem SameRecord.sameEntry (same : SameRecord held other) (domain : ForestTrustDomain) :
    SameEntry held other domain domain := by
  rw [SameEntry]
  split
  · rename_i enabled
    exact ⟨enabled, same.sameTrust⟩
  · rename_i disabled
    exact ⟨Bool.eq_false_of_not_eq_true disabled, rfl⟩

variable {trusts arranged : List HeldTrust}

theorem RearrangedTrusts.exists_original (rearranged : RearrangedTrusts trusts arranged)
    (member : other ∈ arranged) : ∃ held ∈ trusts, SameRecord held other := by
  rcases rearranged with ⟨shuffled, perm, records⟩
  rcases exists_item_of_partner records member with ⟨held, inside, same⟩
  exact ⟨held, perm.mem_iff.mpr inside, same⟩

theorem RearrangedTrusts.exists_arranged (rearranged : RearrangedTrusts trusts arranged)
    (member : held ∈ trusts) : ∃ other ∈ arranged, SameRecord held other := by
  rcases rearranged with ⟨shuffled, perm, records⟩
  exact exists_partner_of_mem records (perm.mem_iff.mp member)

theorem RearrangedTrusts.unnamed_iff (rearranged : RearrangedTrusts trusts arranged) :
    (∀ other ∈ arranged, ¬IsPartner sidDomain other) ↔
      ∀ held ∈ trusts, ¬IsPartner sidDomain held := by
  constructor
  · intro unnamed held member partner
    rcases rearranged.exists_arranged member with ⟨other, inside, same⟩
    exact unnamed other inside (same.isPartner_iff.mpr partner)
  · intro unnamed other member partner
    rcases rearranged.exists_original member with ⟨held, inside, same⟩
    exact unnamed held inside (same.isPartner_iff.mp partner)

theorem RearrangedTrusts.unlisted_iff (rearranged : RearrangedTrusts trusts arranged) :
    (∀ other ∈ arranged, ∀ domain, ¬Lists sidDomain other domain) ↔
      ∀ held ∈ trusts, ∀ domain, ¬Lists sidDomain held domain := by
  constructor
  · intro unlisted held member domain lists
    rcases rearranged.exists_arranged member with ⟨other, inside, same⟩
    exact unlisted other inside domain (same.lists_iff.mpr lists)
  · intro unlisted other member domain lists
    rcases rearranged.exists_original member with ⟨held, inside, same⟩
    exact unlisted held inside domain (same.lists_iff.mp lists)

/-- The unread forests are the same ones. -/
theorem RearrangedTrusts.unknownForests_perm (rearranged : RearrangedTrusts trusts arranged) :
    (unknownForests trusts).Perm (unknownForests arranged) := by
  rcases rearranged with ⟨shuffled, perm, records⟩
  have same : unknownForests shuffled = unknownForests arranged := by
    clear perm
    induction records with
    | nil => rfl
    | @cons held _ shuffled arranged record _ ih =>
        rcases record with ⟨domains, _, rfl⟩
        rw [unknownForests, unknownForests] at ih ⊢
        rw [List.map_cons, List.map_cons, List.filter_cons, List.filter_cons]
        cases held.trust.attributes.forestTransitive with
        | false => exact ih
        | true =>
            rw [if_pos rfl, if_pos rfl, List.filterMap_cons, List.filterMap_cons, ih]
  rw [← same]
  exact ((perm.map _).filter _).filterMap _

/-- A domain that nothing mentions gets the same answer. -/
theorem RearrangedTrusts.unlistedRelation_same (rearranged : RearrangedTrusts trusts arranged) :
    SameRelation (unlistedRelation sidDomain trusts view)
      (unlistedRelation sidDomain arranged view) := by
  have perm := rearranged.unknownForests_perm
  by_cases known : unknownForests trusts = []
  · rw [known] at perm
    rw [unlistedRelation, unlistedRelation, known, ← perm.nil_eq]
    exact .refl _
  · have otherUnknown : unknownForests arranged ≠ [] := by
      intro none
      rw [none] at perm
      exact known perm.eq_nil
    rw [unlistedRelation, unlistedRelation, if_neg (by simpa using known),
      if_neg (by simpa using otherUnknown)]
    exact .unknownForests perm

/-- Any trust of the domain can come first. -/
theorem exists_partner_first (member : held ∈ trusts) (partner : IsPartner sidDomain held) :
    ∃ arranged, RearrangedTrusts trusts arranged ∧
      classifyAgainstTrusts sidDomain arranged view = directTrustRelation sidDomain view held := by
  refine ⟨held :: trusts.erase held,
    ⟨_, List.perm_cons_erase member, List.forall₂_same.mpr (fun other _ => .refl other)⟩, ?_⟩
  have first : trustOfDomain sidDomain (held :: trusts.erase held) = some held :=
    List.find?_cons_of_pos partner
  rw [classifyAgainstTrusts, first]

/-- So can any record of the domain, when the domain is no partner itself. -/
theorem exists_record_first {domain : ForestTrustDomain}
    (unnamed : ∀ held ∈ trusts, ¬IsPartner sidDomain held) (member : held ∈ trusts)
    (lists : Lists sidDomain held domain) :
    ∃ arranged other, RearrangedTrusts trusts arranged ∧ SameRecord held other ∧
      classifyAgainstTrusts sidDomain arranged view =
        forestDomainRelation sidDomain other.trust domain := by
  let other := { held with
    trust := { held.trust with forestDomains := domain :: held.trust.forestDomains.erase domain } }
  have record : SameRecord held other := ⟨_, List.perm_cons_erase lists.member, rfl⟩
  have rearranged : RearrangedTrusts trusts (other :: trusts.erase held) :=
    ⟨_, List.perm_cons_erase member,
      .cons record (List.forall₂_same.mpr (fun other _ => .refl other))⟩
  have direct : trustOfDomain sidDomain (other :: trusts.erase held) = none :=
    trustOfDomain_eq_none_iff.mpr (rearranged.unnamed_iff.mpr unnamed)
  have first : forestTrustOfDomain sidDomain (other :: trusts.erase held) =
      some (other.trust, domain) := by
    have found : other.trust.forestDomains.find? (fun listed =>
        Text.eqIgnoreAsciiCase listed.sid.value sidDomain) = some domain :=
      List.find?_cons_of_pos lists.same
    have transitive : other.trust.attributes.forestTransitive = true := lists.forest
    rw [forestTrustOfDomain, List.map_cons, List.filter_cons, transitive, if_pos rfl,
      List.findSome?_cons, found]
    rfl
  refine ⟨_, other, rearranged, record, ?_⟩
  rw [classifyAgainstTrusts, direct, first]

end Rearranged

/-! ## Every order of the trusts -/

section Classified

variable {sidDomain : String} {trusts : List HeldTrust} {view : TrustView}

/-- Records that agree give the same answer in every order. -/
theorem classify_rearranged (agree : RecordsAgree sidDomain trusts view)
    {arranged : List HeldTrust} (rearranged : RearrangedTrusts trusts arranged) :
    SameRelation (classifyAgainstTrusts sidDomain trusts view)
      (classifyAgainstTrusts sidDomain arranged view) := by
  rcases classify_cases sidDomain trusts view with
    ⟨first, member, partner, relation⟩ | ⟨unnamed, decided⟩
  · have otherNamed : ∃ other ∈ arranged, IsPartner sidDomain other := by
      rcases rearranged.exists_arranged member with ⟨other, inside, record⟩
      exact ⟨other, inside, record.isPartner_iff.mpr partner⟩
    rcases classify_of_partner otherNamed with ⟨other, otherMember, otherPartner, otherRelation⟩
    rcases rearranged.exists_original otherMember with ⟨original, inside, record⟩
    have alike := agree.partners first member original inside partner
      (record.isPartner_iff.mp otherPartner)
    rw [relation, otherRelation]
    exact directTrustRelation_same_iff.mpr (alike.trans record.samePartner)
  have otherUnnamed := rearranged.unnamed_iff.mpr unnamed
  rcases decided with ⟨first, member, domain, lists, relation⟩ | ⟨unlisted, relation⟩
  · have otherListed : ∃ other ∈ arranged, ∃ domain, Lists sidDomain other domain := by
      rcases rearranged.exists_arranged member with ⟨other, inside, record⟩
      exact ⟨other, inside, domain, record.lists_iff.mpr lists⟩
    rcases classify_of_listed otherUnnamed otherListed with
      ⟨other, otherMember, entry, otherLists, otherRelation⟩
    rcases rearranged.exists_original otherMember with ⟨original, inside, record⟩
    have alike := agree.entries unnamed first member original inside domain entry lists
      (record.lists_iff.mp otherLists)
    rw [relation, otherRelation]
    exact forestDomainRelation_same_iff.mpr (alike.trans (record.sameEntry entry))
  · rw [relation, classify_of_unlisted otherUnnamed (rearranged.unlisted_iff.mpr unlisted)]
    exact rearranged.unlistedRelation_same

/-- Where the order decides nothing, every trust of the domain is alike to the one
that came first. -/
theorem samePartner_of_any_order {first held : HeldTrust}
    (anyOrder : ∀ arranged, RearrangedTrusts trusts arranged →
      SameRelation (classifyAgainstTrusts sidDomain trusts view)
        (classifyAgainstTrusts sidDomain arranged view))
    (relation : classifyAgainstTrusts sidDomain trusts view =
      directTrustRelation sidDomain view first)
    (member : held ∈ trusts) (partner : IsPartner sidDomain held) :
    SamePartner view first held := by
  rcases exists_partner_first member partner with ⟨arranged, rearranged, heldFirst⟩
  have same := anyOrder arranged rearranged
  rw [relation, heldFirst] at same
  exact directTrustRelation_same_iff.mp same

theorem sameEntry_of_any_order {first held : HeldTrust} {entry domain : ForestTrustDomain}
    (anyOrder : ∀ arranged, RearrangedTrusts trusts arranged →
      SameRelation (classifyAgainstTrusts sidDomain trusts view)
        (classifyAgainstTrusts sidDomain arranged view))
    (relation : classifyAgainstTrusts sidDomain trusts view =
      forestDomainRelation sidDomain first.trust entry)
    (unnamed : ∀ held ∈ trusts, ¬IsPartner sidDomain held) (member : held ∈ trusts)
    (lists : Lists sidDomain held domain) : SameEntry first held entry domain := by
  rcases exists_record_first unnamed member lists with
    ⟨arranged, other, rearranged, record, domainFirst⟩
  have same := anyOrder arranged rearranged
  rw [relation, domainFirst] at same
  exact (forestDomainRelation_same_iff.mp same).trans (record.symm.sameEntry domain)

theorem recordsAgree_of_classified (spec : ClassifiedBySet sidDomain trusts view) :
    RecordsAgree sidDomain trusts view := by
  constructor
  · intro held member other otherMember partner otherPartner
    rcases classify_of_partner ⟨held, member, partner⟩ with ⟨first, _, _, relation⟩
    have left := samePartner_of_any_order spec.any_order relation member partner
    have right := samePartner_of_any_order spec.any_order relation otherMember otherPartner
    exact left.symm.trans right
  · intro held member partner applies other otherMember domain lists
    rcases classify_of_partner ⟨held, member, partner⟩ with ⟨first, _, _, relation⟩
    have alike := (samePartner_of_any_order spec.any_order relation member partner).symm
    rw [SamePartner, if_neg applies] at alike
    cases enabled : domain.sidEnabled with
    | false => rfl
    | true =>
        rcases spec.trusted (Or.inl ⟨other, otherMember, domain, lists, enabled⟩) with
          ⟨_, _, _, _, trusted⟩
        rw [relation, directTrustRelation_eq, if_neg alike.1] at trusted
        cases trusted
  · intro unnamed held member other otherMember domain listed lists otherLists
    rcases classify_of_listed unnamed ⟨held, member, domain, lists⟩ with
      ⟨first, _, entry, _, relation⟩
    have left := sameEntry_of_any_order spec.any_order relation unnamed member lists
    exact left.symm.trans
      (sameEntry_of_any_order spec.any_order relation unnamed otherMember otherLists)
  · intro unnamed unlisted read all held member domainTrust missing
    have relation : classifyAgainstTrusts sidDomain trusts view = .otherDomain sidDomain := by
      rw [classify_of_unlisted unnamed unlisted]
      exact unlistedRelation_eq_other_iff.mpr ⟨unknownForests_eq_nil_iff.mpr read, all, rfl⟩
    exact (spec.other sidDomain relation).1 held member (Or.inr (Or.inl ⟨domainTrust, missing⟩))

/-- A trust that applies is never passed over for one that does not. -/
theorem applies_of_recordsAgree (agree : RecordsAgree sidDomain trusts view) {first : HeldTrust}
    (member : first ∈ trusts) (partner : IsPartner sidDomain first)
    (covered : (∃ held ∈ trusts, ∃ domain, Lists sidDomain held domain ∧
        domain.sidEnabled = true) ∨
      ∃ held ∈ trusts, IsPartner sidDomain held ∧ Applies view held) : Applies view first := by
  by_contra idle
  rcases covered with ⟨held, inside, domain, lists, enabled⟩ | ⟨held, inside, other, applies⟩
  · rw [agree.applies first member partner idle held inside domain lists] at enabled
    cases enabled
  · have alike := agree.partners first member held inside partner other
    rw [SamePartner, if_neg idle] at alike
    exact alike.1 applies

theorem trusted_of_recordsAgree (agree : RecordsAgree sidDomain trusts view)
    (covered : (∃ held ∈ trusts, ∃ domain, Lists sidDomain held domain ∧
        domain.sidEnabled = true) ∨
      ∃ held ∈ trusts, IsPartner sidDomain held ∧ Applies view held) :
    ∃ partner domainSid attributes forest, classifyAgainstTrusts sidDomain trusts view =
      .trustedDomain partner domainSid attributes forest := by
  rcases classify_cases sidDomain trusts view with
    ⟨first, member, partner, relation⟩ |
      ⟨unnamed, ⟨first, member, entry, firstLists, relation⟩ | ⟨unlisted, _⟩⟩
  · rw [relation, directTrustRelation_eq,
      if_pos (applies_of_recordsAgree agree member partner covered)]
    exact ⟨_, _, _, _, rfl⟩
  · rcases covered with ⟨held, inside, domain, lists, enabled⟩ | ⟨held, inside, partner, _⟩
    · have alike := agree.entries unnamed held inside first member domain entry lists firstLists
      rw [SameEntry, if_pos enabled] at alike
      rw [relation, forestDomainRelation, if_pos alike.1]
      exact ⟨_, _, _, _, rfl⟩
    · exact absurd partner (unnamed held inside)
  · rcases covered with ⟨held, inside, domain, lists, _⟩ | ⟨held, inside, partner, _⟩
    · exact absurd lists (unlisted held inside domain)
    · exact absurd partner (unnamed held inside)

theorem disabled_of_recordsAgree (agree : RecordsAgree sidDomain trusts view)
    {domain domainSid forest : String} {flags : BitVec 32}
    (disabled : classifyAgainstTrusts sidDomain trusts view =
      .forestDomainSidDisabled domain domainSid forest flags) {held : HeldTrust}
    (member : held ∈ trusts) {listed : ForestTrustDomain} (lists : Lists sidDomain held listed) :
    listed.sidEnabled = false := by
  rcases classify_cases sidDomain trusts view with
    ⟨first, _, _, relation⟩ |
      ⟨unnamed, ⟨first, inside, entry, firstLists, relation⟩ | ⟨unlisted, _⟩⟩
  · rw [relation, directTrustRelation_eq] at disabled
    split at disabled <;> cases disabled
  · have alike := agree.entries unnamed first inside held member entry listed firstLists lists
    rw [relation, forestDomainRelation] at disabled
    split at disabled
    · cases disabled
    · rename_i off
      rw [SameEntry, if_neg off] at alike
      exact alike.1
  · exact absurd lists (unlisted held member listed)

theorem uncovered_of_recordsAgree (agree : RecordsAgree sidDomain trusts view) {domainSid : String}
    (other : classifyAgainstTrusts sidDomain trusts view = .otherDomain domainSid) :
    (∀ held ∈ trusts, ¬CouldCover sidDomain held) ∧ SeesAll view := by
  rcases classify_cases sidDomain trusts view with
    ⟨first, _, _, relation⟩ | ⟨unnamed, ⟨first, _, entry, _, relation⟩ | ⟨unlisted, relation⟩⟩
  · rw [relation, directTrustRelation_eq] at other
    split at other <;> cases other
  · rw [relation, forestDomainRelation] at other
    split at other <;> cases other
  · rw [relation, unlistedRelation_eq_other_iff, unknownForests_eq_nil_iff] at other
    refine ⟨?_, other.2.1⟩
    rintro held member (partner | ⟨domainTrust, missing⟩ | ⟨domain, lists⟩ | ⟨transitive, unread⟩)
    · exact unnamed held member partner
    · exact agree.known unnamed unlisted other.1 other.2.1 held member domainTrust missing
    · exact unlisted held member domain lists
    · exact unread (other.1 held member transitive)

theorem classified_of_recordsAgree (agree : RecordsAgree sidDomain trusts view) :
    ClassifiedBySet sidDomain trusts view where
  any_order _ rearranged := classify_rearranged agree rearranged
  trusted covered := trusted_of_recordsAgree agree covered
  disabled _ _ _ _ disabled _ member _ lists :=
    disabled_of_recordsAgree agree disabled member lists
  other _ other := uncovered_of_recordsAgree agree other

end Classified

/-- The classification depends on the set of the trusts alone and answers by what
any of them says exactly when the records of the domain agree. -/
theorem classifiedBySet_iff (sidDomain : String) (trusts : List HeldTrust) (view : TrustView) :
    ClassifiedBySet sidDomain trusts view ↔ RecordsAgree sidDomain trusts view :=
  ⟨recordsAgree_of_classified, classified_of_recordsAgree⟩

/-! ## A domain trust beside a forest trust -/

/-- A trust that one domain of the forest holds with another domain. -/
def childTrust : HeldTrust where
  trust :=
    { partner := "partner.test"
      attributes := ⟨0x4#32⟩
      sid := some ⟨"S-1-5-21-1-1-1"⟩ }
  holder := "DC=child,DC=corp,DC=test"

/-- The forest trust with the forest of that domain. -/
def rootTrust : HeldTrust where
  trust :=
    { partner := "partner.test"
      attributes := ⟨0x8#32⟩
      sid := some ⟨"S-1-5-21-1-1-1"⟩
      forestDomains := [⟨"partner.test", "PARTNER", ⟨"S-1-5-21-1-1-1"⟩, 0#32⟩] }
  holder := "DC=corp,DC=test"

/-- With the trust of the child domain first, a Global Catalog bind does not see
that the forest trust applies to every domain. -/
theorem childTrust_hides_forest :
    classifyAgainstTrusts "S-1-5-21-1-1-1" [rootTrust, childTrust] .forest =
        .trustedDomain "partner.test" "S-1-5-21-1-1-1" ⟨0x8#32⟩
          (TrustedForest.of rootTrust.trust) ∧
      classifyAgainstTrusts "S-1-5-21-1-1-1" [childTrust, rootTrust] .forest =
        .trustedByForestDomain "partner.test" "S-1-5-21-1-1-1" "DC=child,DC=corp,DC=test" ∧
      ¬ClassifiedBySet "S-1-5-21-1-1-1" [childTrust, rootTrust] .forest := by
  have hidden : classifyAgainstTrusts "S-1-5-21-1-1-1" [childTrust, rootTrust] .forest =
      .trustedByForestDomain "partner.test" "S-1-5-21-1-1-1" "DC=child,DC=corp,DC=test" := by
    decide
  refine ⟨by decide, hidden, ?_⟩
  intro spec
  rcases spec.trusted (Or.inr ⟨rootTrust, by decide, by unfold IsPartner; decide, by decide⟩) with
    ⟨_, _, _, _, trusted⟩
  rw [hidden] at trusted
  cases trusted

end AdResolver
end Stars
