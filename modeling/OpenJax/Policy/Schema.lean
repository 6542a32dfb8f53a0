import Mathlib.Data.List.Dedup

set_option autoImplicit false

namespace OpenJax.Policy

inductive DecisionKind where
  | allow
  | ask
  | escalate
  | deny
  deriving DecidableEq, Repr

def DecisionKind.conservativeRank : DecisionKind → Nat
  | .allow => 0
  | .ask => 1
  | .escalate => 2
  | .deny => 3

def DecisionKind.asStr : DecisionKind → String
  | .allow => "allow"
  | .ask => "ask"
  | .escalate => "escalate"
  | .deny => "deny"

/-- The two decisions under which a tool never starts without an approval of its own. -/
def DecisionKind.restrictive : DecisionKind → Bool
  | .allow | .ask => false
  | .escalate | .deny => true

structure PolicyInput where
  toolName : String
  action : String
  sessionId : Option String
  actor : Option String
  resource : Option String
  capabilities : List String
  riskTags : List String
  policyVersion : Nat
  deriving DecidableEq, Repr

structure PolicyRule where
  id : String
  decision : DecisionKind
  priority : Int32
  toolName : Option String
  action : Option String
  sessionId : Option String
  actor : Option String
  resource : Option String
  capabilitiesAll : List String
  riskTagsAll : List String
  reason : String
  deriving DecidableEq

structure PolicyDecision where
  kind : DecisionKind
  matchedRuleId : Option String
  policyVersion : Nat
  reason : String
  deriving DecidableEq, Repr

def containsAll (source required : List String) : Bool :=
  required.all fun expected => source.any fun actual => actual == expected

def matchesRequiredValue (required actual : Option String) : Bool :=
  match required with
  | none => true
  | some expected => actual == some expected

def uniqueCount (values : List String) : Nat := values.dedup.length

-- `matches` is a keyword of Lean.
def PolicyRule.matchesInput (rule : PolicyRule) (input : PolicyInput) : Bool :=
  matchesRequiredValue rule.toolName (some input.toolName) &&
    matchesRequiredValue rule.action (some input.action) &&
    matchesRequiredValue rule.sessionId input.sessionId &&
    matchesRequiredValue rule.actor input.actor &&
    matchesRequiredValue rule.resource input.resource &&
    containsAll input.capabilities rule.capabilitiesAll &&
    containsAll input.riskTags rule.riskTagsAll

def PolicyRule.specificity (rule : PolicyRule) : Nat :=
  rule.toolName.isSome.toNat + rule.action.isSome.toNat + rule.sessionId.isSome.toNat +
    rule.actor.isSome.toNat + rule.resource.isSome.toNat +
    uniqueCount rule.capabilitiesAll + uniqueCount rule.riskTagsAll

theorem restrictive_iff_rank (kind : DecisionKind) :
    kind.restrictive = true ↔ 2 ≤ kind.conservativeRank := by
  cases kind <;> simp [DecisionKind.restrictive, DecisionKind.conservativeRank]

end OpenJax.Policy
