import OpenJax.Policy.Engine
import OpenJax.Shared.Rows

set_option autoImplicit false

namespace OpenJax.Policy

open Shared

structure PolicyStore where
  defaultDecision : DecisionKind
  rules : List PolicyRule

def systemDestructive : PolicyRule :=
  { id := "system:destructive_escalate"
    decision := .escalate
    priority := 1000
    toolName := none
    action := none
    sessionId := none
    actor := none
    resource := none
    capabilitiesAll := []
    riskTagsAll := ["destructive"]
    reason := "destructive commands always require escalation approval" }

def PolicyStore.new (defaultDecision : DecisionKind) (rules : List PolicyRule) : PolicyStore :=
  ⟨defaultDecision, rules ++ [systemDestructive]⟩

theorem systemDestructive_matches (input : PolicyInput) :
    systemDestructive.matchesInput input = true ↔ "destructive" ∈ input.riskTags := by
  simp [PolicyRule.matchesInput, systemDestructive, matchesRequiredValue, containsAll]

/-- No permissive matching rule gets ahead of the system rule unless a restrictive matching
rule is at least as far ahead. -/
def SystemRuleGuards (rules : List PolicyRule) (input : PolicyInput) : Prop :=
  ∀ rule ∈ rules, rule.matchesInput input = true → rule.decision.restrictive = false →
    rule.outranks systemDestructive = true →
      ∃ other ∈ rules, other.matchesInput input = true ∧ other.decision.restrictive = true ∧
        rule.outranks other = false

instance (rules : List PolicyRule) (input : PolicyInput) :
    Decidable (SystemRuleGuards rules input) := by
  unfold SystemRuleGuards
  infer_instance

theorem restrictive_of_published (default : DecisionKind) (rules : List PolicyRule)
    (input : PolicyInput) (tagged : "destructive" ∈ input.riskTags) :
    (decide input (PolicyStore.new default rules).rules default).kind.restrictive = true ↔
      SystemRuleGuards rules input := by
  have systemFits := (systemDestructive_matches input).mpr tagged
  obtain ⟨chosen, member, fits, best, kind, -⟩ | ⟨nothing, -, -⟩ :=
    decide_cases input (PolicyStore.new default rules).rules default
  case inr =>
    have := nothing systemDestructive (by simp [PolicyStore.new])
    simp [systemFits] at this
  have own : chosen ∈ rules ∨ chosen = systemDestructive := by
    simpa [PolicyStore.new] using member
  have above : ∀ rule ∈ rules, rule.matchesInput input = true →
      (compareRulePrecedence rule chosen).isLE := fun rule present =>
    best rule (by simp [PolicyStore.new, present])
  rw [kind]
  constructor
  · intro restrictive rule present ruleFits _ ahead
    have behind := not_outranks_of_isLE (above rule present ruleFits)
    rcases own with own | rfl
    · exact ⟨chosen, own, fits, restrictive, behind⟩
    · rw [ahead] at behind
      cases behind
  · intro guarded
    by_contra loose
    rw [Bool.not_eq_true] at loose
    have aboveSystem := best systemDestructive (by simp [PolicyStore.new]) systemFits
    have ahead := outranks_of_permissive_above aboveSystem rfl loose
    rcases own with own | rfl
    · obtain ⟨other, present, otherFits, restrictive, behind⟩ :=
        guarded chosen own fits loose ahead
      have := outranks_of_permissive_above (above other present otherFits) restrictive loose
      rw [behind] at this
      cases this
    · cases loose

structure SessionOverlay where
  rules : List PolicyRule

structure PolicySnapshot where
  version : Nat
  store : PolicyStore
  overlays : Table String SessionOverlay

/-- The runtime is the snapshot its lock guards; each operation below is one write section. -/
abbrev PolicyRuntime := PolicySnapshot

namespace PolicyRuntime

def new (initialStore : PolicyStore) : PolicyRuntime :=
  { version := 1, store := initialStore, overlays := ∅ }

def publish (runtime : PolicyRuntime) (store : PolicyStore) : PolicyRuntime :=
  { version := runtime.version + 1, store := store, overlays := runtime.overlays }

def setSessionOverlay (runtime : PolicyRuntime) (sessionId : String)
    (overlay : SessionOverlay) : PolicyRuntime :=
  { version := runtime.version + 1
    store := runtime.store
    overlays := runtime.overlays.insert sessionId overlay }

def clearSessionOverlay (runtime : PolicyRuntime) (sessionId : String) : PolicyRuntime :=
  { version := runtime.version + 1
    store := runtime.store
    overlays := runtime.overlays.erase sessionId }

end PolicyRuntime

structure PolicyHandle where
  snapshot : PolicySnapshot

namespace PolicyHandle

def policyVersion (handle : PolicyHandle) : Nat := handle.snapshot.version

def withSnapshotVersion (handle : PolicyHandle) (input : PolicyInput) : PolicyInput :=
  { input with policyVersion := handle.snapshot.version }

def overlayFor (handle : PolicyHandle) (input : PolicyInput) : Option SessionOverlay :=
  input.sessionId.bind fun sessionId => handle.snapshot.overlays.lookup sessionId

def decide (handle : PolicyHandle) (input : PolicyInput) : PolicyDecision :=
  let inputForSnapshot := handle.withSnapshotVersion input
  let store := handle.snapshot.store
  let global := Policy.decide inputForSnapshot store.rules store.defaultDecision
  match handle.overlayFor inputForSnapshot with
  | none => global
  | some overlay =>
      let overlayDecision := Policy.decide inputForSnapshot overlay.rules store.defaultDecision
      if overlayDecision.matchedRuleId.isSome then overlayDecision else global

end PolicyHandle

end OpenJax.Policy
