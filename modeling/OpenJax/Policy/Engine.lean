import OpenJax.Policy.Schema
import OpenJax.Shared.Selection
import Mathlib.Data.Finset.Card
import Mathlib.Data.Prod.Lex
import Mathlib.Data.String.Basic
import Mathlib.Order.Bounds.Basic

set_option autoImplicit false

namespace OpenJax.Policy

open Shared

def compareRulePrecedence (left right : PolicyRule) : Ordering :=
  (compare left.priority right.priority).then <|
    (compare left.specificity right.specificity).then <|
      (compare left.decision.conservativeRank right.decision.conservativeRank).then
        -- The smaller id wins a full tie.
        (compare right.id left.id)

def decide (input : PolicyInput) (rules : List PolicyRule) (default : DecisionKind) :
    PolicyDecision :=
  match maxBy compareRulePrecedence (rules.filter fun rule => rule.matchesInput input) with
  | some rule =>
      { kind := rule.decision
        matchedRuleId := some rule.id
        policyVersion := input.policyVersion
        reason := rule.reason }
  | none =>
      { kind := default
        matchedRuleId := none
        policyVersion := input.policyVersion
        reason := "no matching rule; default decision applied" }

theorem compareRulePrecedence_lex :
    compareRulePrecedence =
      compareLex (compareOn PolicyRule.priority) (compareLex (compareOn PolicyRule.specificity)
        (compareLex (compareOn fun rule => rule.decision.conservativeRank)
          (fun left right => compareOn PolicyRule.id right left))) := rfl

instance : Std.TransCmp compareRulePrecedence := by
  rw [compareRulePrecedence_lex]
  infer_instance

/-- Strictly ahead on the two keys a rule's author chooses, priority and specificity. -/
def PolicyRule.outranks (rule other : PolicyRule) : Bool :=
  other.priority < rule.priority ||
    (rule.priority == other.priority && Nat.blt other.specificity rule.specificity)

theorem outranks_iff (rule other : PolicyRule) :
    rule.outranks other = true ↔
      other.priority < rule.priority ∨
        rule.priority = other.priority ∧ other.specificity < rule.specificity := by
  simp [PolicyRule.outranks]

theorem precedence_isLE_iff (left right : PolicyRule) :
    (compareRulePrecedence left right).isLE ↔
      right.outranks left = true ∨
        left.priority = right.priority ∧ left.specificity = right.specificity ∧
          (left.decision.conservativeRank < right.decision.conservativeRank ∨
            left.decision.conservativeRank = right.decision.conservativeRank ∧
              (compare right.id left.id).isLE) := by
  simp only [compareRulePrecedence, Ordering.isLE_then_iff_or, Std.compare_eq_lt,
    Std.LawfulEqOrd.compare_eq_iff_eq, outranks_iff]
  constructor
  · rintro (higher | ⟨same, narrower | ⟨equal, rest⟩⟩)
    · exact .inl (.inl higher)
    · exact .inl (.inr ⟨same.symm, narrower⟩)
    · exact .inr ⟨same, equal, rest⟩
  · rintro ((higher | ⟨same, narrower⟩) | ⟨same, equal, rest⟩)
    · exact .inl higher
    · exact .inr ⟨same.symm, .inl narrower⟩
    · exact .inr ⟨same, .inr ⟨equal, rest⟩⟩

variable {left right : PolicyRule}

theorem not_outranks_of_isLE (below : (compareRulePrecedence left right).isLE) :
    left.outranks right = false := by
  rw [precedence_isLE_iff] at below
  by_contra ahead
  rw [Bool.not_eq_false, outranks_iff] at ahead
  rcases below with behind | ⟨same, equal, -⟩
  · rw [outranks_iff] at behind
    rcases behind with higher | ⟨same, narrower⟩ <;>
      rcases ahead with lower | ⟨other, wider⟩
    · exact Std.not_lt.mpr (Std.le_of_lt higher) lower
    · exact absurd (other ▸ higher) Std.lt_irrefl
    · exact absurd (same ▸ lower) Std.lt_irrefl
    · omega
  · rcases ahead with lower | ⟨-, wider⟩
    · exact absurd (same ▸ lower) Std.lt_irrefl
    · omega

theorem outranks_of_permissive_above (below : (compareRulePrecedence left right).isLE)
    (restrictive : left.decision.restrictive = true)
    (permissive : right.decision.restrictive = false) : right.outranks left = true := by
  rw [precedence_isLE_iff] at below
  rcases below with ahead | ⟨-, -, rank⟩
  · exact ahead
  · rw [restrictive_iff_rank] at restrictive
    have low : ¬ 2 ≤ right.decision.conservativeRank := by
      rw [← restrictive_iff_rank, permissive]
      decide
    omega

variable (input : PolicyInput) (rules : List PolicyRule)

theorem decide_cases (default : DecisionKind) :
    (∃ rule ∈ rules, rule.matchesInput input = true ∧
      (∀ other ∈ rules, other.matchesInput input = true →
        (compareRulePrecedence other rule).isLE) ∧
      (decide input rules default).kind = rule.decision ∧
      (decide input rules default).matchedRuleId = some rule.id) ∨
    ((∀ rule ∈ rules, rule.matchesInput input = false) ∧
      (decide input rules default).kind = default ∧
      (decide input rules default).matchedRuleId = none) := by
  unfold decide
  cases chosen : maxBy compareRulePrecedence
      (rules.filter fun rule => rule.matchesInput input) with
  | none =>
    right
    rw [maxBy_none, List.filter_eq_nil_iff] at chosen
    exact ⟨fun rule member => by simpa using chosen rule member, rfl, rfl⟩
  | some rule =>
    left
    have member := List.mem_filter.mp (maxBy_member _ chosen)
    refine ⟨rule, member.1, member.2, ?_, rfl, rfl⟩
    intro other present fits
    exact maxBy_bound _ chosen other (List.mem_filter.mpr ⟨present, fits⟩)

def PolicyRule.requirementCount (rule : PolicyRule) : Nat :=
  [rule.toolName, rule.action, rule.sessionId, rule.actor, rule.resource].countP Option.isSome +
    rule.capabilitiesAll.toFinset.card + rule.riskTagsAll.toFinset.card

/-- Priority, specificity, how conservative the decision is, and last the smaller id. -/
abbrev Precedence := Int ×ₗ Nat ×ₗ Nat ×ₗ Stringᵒᵈ

def PolicyRule.precedence (rule : PolicyRule) : Precedence :=
  toLex (rule.priority.toInt, toLex (rule.requirementCount,
    toLex (rule.decision.conservativeRank, OrderDual.toDual rule.id)))

def matchingRules (input : PolicyInput) (rules : List PolicyRule) : Set PolicyRule :=
  {rule | rule ∈ rules ∧ rule.matchesInput input = true}

theorem uniqueCount_eq_card (values : List String) : uniqueCount values = values.toFinset.card := by
  rw [uniqueCount, List.card_toFinset]

theorem specificity_eq_requirementCount (rule : PolicyRule) :
    rule.specificity = rule.requirementCount := by
  have count (value : Option String) (rest : List (Option String)) :
      (value :: rest).countP Option.isSome = value.isSome.toNat + rest.countP Option.isSome := by
    cases value <;> simp [Nat.add_comm]
  simp only [PolicyRule.specificity, PolicyRule.requirementCount, count, List.countP_nil,
    uniqueCount_eq_card]
  omega

theorem conservativeRank_injective : Function.Injective DecisionKind.conservativeRank := by
  intro left right same
  cases left <;> cases right <;> first | rfl | cases same

theorem compare_isLE_iff (left right : PolicyRule) :
    (compareRulePrecedence left right).isLE ↔ left.precedence ≤ right.precedence := by
  have ids : (compare right.id left.id).isLE ↔ right.id ≤ left.id := by
    rw [Ordering.isLE_iff_ne_gt]
    exact compare_le_iff_le
  have priorities : left.priority = right.priority ↔
      left.priority.toInt = right.priority.toInt := Int32.toInt_inj.symm
  have higher : left.priority < right.priority ↔
      left.priority.toInt < right.priority.toInt := Int32.lt_iff_toInt_lt
  rw [precedence_isLE_iff, outranks_iff, ids, specificity_eq_requirementCount,
    specificity_eq_requirementCount, priorities, higher, ← priorities, eq_comm, priorities]
  simp only [PolicyRule.precedence, Prod.Lex.toLex_le_toLex, OrderDual.toDual_le_toDual]
  tauto

theorem same_of_precedence_eq (same : left.precedence = right.precedence) :
    left.decision = right.decision ∧ left.id = right.id := by
  simp only [PolicyRule.precedence, EmbeddingLike.apply_eq_iff_eq, Prod.mk.injEq] at same
  exact ⟨conservativeRank_injective same.2.2.1, same.2.2.2⟩

theorem decide_policyVersion (default : DecisionKind) :
    (decide input rules default).policyVersion = input.policyVersion := by
  unfold decide
  split <;> rfl

theorem decide_greatest (default : DecisionKind) :
    (∃ rule ∈ matchingRules input rules,
      IsGreatest (PolicyRule.precedence '' matchingRules input rules) rule.precedence ∧
      (decide input rules default).kind = rule.decision ∧
      (decide input rules default).matchedRuleId = some rule.id) ∨
    (matchingRules input rules = ∅ ∧ (decide input rules default).kind = default ∧
      (decide input rules default).matchedRuleId = none) := by
  obtain ⟨rule, member, fits, best, kind, matched⟩ | ⟨nothing, kind, unmatched⟩ :=
    decide_cases input rules default
  · left
    refine ⟨rule, ⟨member, fits⟩, ⟨⟨rule, ⟨member, fits⟩, rfl⟩, ?_⟩, kind, matched⟩
    intro key reached
    obtain ⟨other, present, rfl⟩ := reached
    exact (compare_isLE_iff other rule).mp (best other present.1 present.2)
  · right
    refine ⟨?_, kind, unmatched⟩
    rw [Set.eq_empty_iff_forall_notMem]
    intro rule matching
    exact absurd matching.2 (Bool.not_eq_true _ ▸ nothing rule matching.1)

theorem decide_perm {rules others : List PolicyRule} (default : DecisionKind)
    (reordered : rules.Perm others) :
    (decide input others default).kind = (decide input rules default).kind ∧
      (decide input others default).matchedRuleId = (decide input rules default).matchedRuleId := by
  have same : matchingRules input others = matchingRules input rules := by
    ext rule
    simp [matchingRules, reordered.mem_iff]
  obtain ⟨left, leftMember, leftBest, leftKind, leftId⟩ | ⟨nothing, leftKind, leftId⟩ :=
    decide_greatest input others default
  · obtain ⟨right, _, rightBest, rightKind, rightId⟩ | ⟨nothing, _, _⟩ :=
      decide_greatest input rules default
    · rw [same] at leftBest
      have tied := same_of_precedence_eq (leftBest.unique rightBest)
      rw [leftKind, leftId, rightKind, rightId, tied.1, tied.2]
      exact ⟨rfl, rfl⟩
    · rw [same, nothing] at leftMember
      exact absurd leftMember (Set.notMem_empty left)
  · obtain ⟨right, rightMember, _⟩ | ⟨_, rightKind, rightId⟩ :=
      decide_greatest input rules default
    · rw [← same, nothing] at rightMember
      exact absurd rightMember (Set.notMem_empty right)
    · rw [leftKind, leftId, rightKind, rightId]
      exact ⟨rfl, rfl⟩

/-- The rule that decides is the greatest of the matching ones, so the order of the list does
not matter. -/
theorem decide_selects_greatest (input : PolicyInput) (rules : List PolicyRule)
    (default : DecisionKind) :
    ((∃ rule ∈ matchingRules input rules,
        IsGreatest (PolicyRule.precedence '' matchingRules input rules) rule.precedence ∧
        (decide input rules default).kind = rule.decision ∧
        (decide input rules default).matchedRuleId = some rule.id) ∨
      (matchingRules input rules = ∅ ∧ (decide input rules default).kind = default ∧
        (decide input rules default).matchedRuleId = none)) ∧
    ∀ others : List PolicyRule, rules.Perm others →
      (decide input others default).kind = (decide input rules default).kind ∧
      (decide input others default).matchedRuleId = (decide input rules default).matchedRuleId ∧
      (decide input others default).policyVersion =
        (decide input rules default).policyVersion := by
  constructor
  · exact decide_greatest input rules default
  · intro others reordered
    have unchanged := decide_perm input default reordered
    refine ⟨unchanged.1, unchanged.2, ?_⟩
    rw [decide_policyVersion, decide_policyVersion]

end OpenJax.Policy
