import OpenJax.Gateway.ApiError
import OpenJax.Gateway.Runtime
import OpenJax.Policy.History

set_option autoImplicit false

namespace OpenJax.Gateway

open Shared Policy

structure ApiPolicyRule where
  id : String
  decision : DecisionKind
  priority : Int32
  toolName : Option String
  action : Option String
  sessionId : Option String
  actor : Option String
  resource : Option String
  capabilitiesAll : List String
  riskTagsAll : List String
  reason : String

def normalizeOptional (value : Option String) : Option String :=
  value.bind fun text =>
    let normalized := trim text
    if normalized.isEmpty then none else some normalized

def normalizeVec (items : List String) : List String :=
  (items.map trim).filter fun item => !item.isEmpty

def ApiPolicyRule.intoDomainWithId (rule : ApiPolicyRule) (id : String) :
    Except ApiError PolicyRule :=
  let id := trim id
  let reason := trim rule.reason
  if id.isEmpty then .error (.invalidArgument "rule id must not be empty" .empty)
  else if reason.isEmpty then .error (.invalidArgument "rule reason must not be empty" .empty)
  else
    .ok
      { id := id
        decision := rule.decision
        priority := rule.priority
        toolName := normalizeOptional rule.toolName
        action := normalizeOptional rule.action
        sessionId := normalizeOptional rule.sessionId
        actor := normalizeOptional rule.actor
        resource := normalizeOptional rule.resource
        capabilitiesAll := normalizeVec rule.capabilitiesAll
        riskTagsAll := normalizeVec rule.riskTagsAll
        reason := reason }

structure UpdatePolicyRuleRequest where
  decision : DecisionKind
  priority : Int32 := 0
  toolName : Option String := none
  action : Option String := none
  sessionId : Option String := none
  actor : Option String := none
  resource : Option String := none
  capabilitiesAll : List String := []
  riskTagsAll : List String := []
  reason : String

def UpdatePolicyRuleRequest.intoDomain (request : UpdatePolicyRuleRequest) (ruleId : String) :
    Except ApiError PolicyRule :=
  ApiPolicyRule.intoDomainWithId
    { id := ruleId
      decision := request.decision
      priority := request.priority
      toolName := request.toolName
      action := request.action
      sessionId := request.sessionId
      actor := request.actor
      resource := request.resource
      capabilitiesAll := request.capabilitiesAll
      riskTagsAll := request.riskTagsAll
      reason := request.reason }
    ruleId

-- A create request carries the fields of an update and the id.
structure CreatePolicyRuleRequest extends UpdatePolicyRuleRequest where
  id : String

def CreatePolicyRuleRequest.intoDomain (request : CreatePolicyRuleRequest) :
    Except ApiError PolicyRule :=
  request.toUpdatePolicyRuleRequest.intoDomain (trim request.id)

structure GatewayPolicyState where
  draftRules : List PolicyRule
  defaultDecision : DecisionKind
  runtime : PolicyRuntime

namespace GatewayPolicyState

def new : GatewayPolicyState :=
  { draftRules := []
    defaultDecision := .ask
    runtime := .new (.new .ask []) }

def createPolicyRule (state : GatewayPolicyState) (payload : CreatePolicyRuleRequest) :
    Except ApiError (PolicyRule × GatewayPolicyState) := do
  let rule ← payload.intoDomain
  if state.draftRules.any fun item => item.id == rule.id then
    throw (.conflict "rule already exists" (.obj [("rule_id", .str rule.id)]))
  return (rule, { state with draftRules := state.draftRules ++ [rule] })

def updatePolicyRule (state : GatewayPolicyState) (ruleId : String)
    (payload : UpdatePolicyRuleRequest) : Except ApiError (PolicyRule × GatewayPolicyState) := do
  let trimmedRuleId := trim ruleId
  if trimmedRuleId.isEmpty then
    throw (.invalidArgument "rule id must not be empty" .empty)
  let updatedRule ← payload.intoDomain trimmedRuleId
  match state.draftRules.findIdx? fun item => item.id == trimmedRuleId with
  | none => throw (.notFound "rule not found" (.obj [("rule_id", .str trimmedRuleId)]))
  | some index =>
      return (updatedRule, { state with draftRules := state.draftRules.set index updatedRule })

def deletePolicyRule (state : GatewayPolicyState) (ruleId : String) :
    Except ApiError (String × GatewayPolicyState) := do
  let trimmedRuleId := trim ruleId
  if trimmedRuleId.isEmpty then
    throw (.invalidArgument "rule id must not be empty" .empty)
  match state.draftRules.findIdx? fun item => item.id == trimmedRuleId with
  | none => throw (.notFound "rule not found" (.obj [("rule_id", .str trimmedRuleId)]))
  | some index =>
      return (trimmedRuleId, { state with draftRules := state.draftRules.eraseIdx index })

def publishPolicy (state : GatewayPolicyState) : GatewayPolicyState :=
  { state with
    runtime := state.runtime.publish (PolicyStore.new state.defaultDecision state.draftRules) }

end GatewayPolicyState

inductive PolicyRequest where
  | create (payload : CreatePolicyRuleRequest)
  | update (ruleId : String) (payload : UpdatePolicyRuleRequest)
  | delete (ruleId : String)
  | publish

def PolicyRequest.perform (state : GatewayPolicyState) : PolicyRequest → GatewayPolicyState
  | .create payload => ((state.createPolicyRule payload).toOption.map Prod.snd).getD state
  | .update ruleId payload =>
      ((state.updatePolicyRule ruleId payload).toOption.map Prod.snd).getD state
  | .delete ruleId => ((state.deletePolicyRule ruleId).toOption.map Prod.snd).getD state
  | .publish => state.publishPolicy

def performAll (state : GatewayPolicyState) (requests : List PolicyRequest) : GatewayPolicyState :=
  requests.foldl PolicyRequest.perform state

def decidePublished (state : GatewayPolicyState) (input : PolicyInput) : PolicyDecision :=
  let store := state.publishPolicy.runtime.store
  Policy.decide input store.rules store.defaultDecision

theorem published_destructive_restrictive_iff (requests : List PolicyRequest)
    (input : PolicyInput) (tagged : "destructive" ∈ input.riskTags) :
    (decidePublished (performAll .new requests) input).kind.restrictive = true ↔
      SystemRuleGuards (performAll .new requests).draftRules input :=
  restrictive_of_published _ _ input tagged

def overridingRule : CreatePolicyRuleRequest :=
  { id := "user:allow_all", decision := .allow, priority := 1001, reason := "trusted workspace" }

def destructiveInput : PolicyInput :=
  { toolName := "shell"
    action := "exec"
    sessionId := none
    actor := none
    resource := none
    capabilities := []
    riskTags := ["destructive"]
    policyVersion := 0 }

theorem published_destructive_restrictive_witness :
    (decidePublished (performAll .new []) destructiveInput).kind.restrictive = true :=
  (published_destructive_restrictive_iff [] destructiveInput (by decide)).mpr (by decide)

theorem published_destructive_overridden :
    ¬ ∀ (requests : List PolicyRequest) (input : PolicyInput), "destructive" ∈ input.riskTags →
      (decidePublished (performAll .new requests) input).kind.restrictive = true := by
  intro guarded
  have := guarded [.create overridingRule] destructiveInput (by decide)
  revert this
  decide

inductive PolicyLevel where
  | permissive
  | standard
  | strict
  deriving DecidableEq, Repr

namespace PolicyLevel

def fromStr (text : String) : Except String PolicyLevel :=
  match text with
  | "allow" => .ok .permissive
  | "ask" => .ok .standard
  | "deny" => .ok .strict
  | other => .error s!"unknown policy level: {other}"

def toDecisionKind : PolicyLevel → DecisionKind
  | .permissive => .allow
  | .standard => .ask
  | .strict => .deny

end PolicyLevel

def turnPolicyRuntime (policyState : GatewayPolicyState) (session : SessionRuntime)
    (sessionId : String) : PolicyRuntime :=
  match session.policyLevelOverride with
  | some overrideDecision =>
      let fresh := PolicyRuntime.new (PolicyStore.new overrideDecision [])
      if session.policyOverlayRules.isEmpty then fresh
      else fresh.setSessionOverlay sessionId ⟨session.policyOverlayRules⟩
  | none => policyState.runtime

def overlayRules (runtime : PolicyRuntime) (sessionId : String) : List PolicyRule :=
  ((runtime.overlays.lookup sessionId).map SessionOverlay.rules).getD []

section Decisions

variable {input : PolicyInput} {rules : List PolicyRule}

theorem decide_none (default : DecisionKind)
    (nothing : ∀ rule ∈ rules, rule.matchesInput input = false) :
    (Policy.decide input rules default).kind = default ∧
      (Policy.decide input rules default).matchedRuleId = none := by
  obtain ⟨rule, member, fits, -⟩ | ⟨-, kind, unmatched⟩ := decide_cases input rules default
  · rw [nothing rule member] at fits
    exact absurd fits (by simp)
  · exact ⟨kind, unmatched⟩

theorem overlaid_of_match (fits : ∃ rule ∈ rules, rule.matchesInput input = true)
    (store other : PolicyStore) :
    overlaidDecision store (some ⟨rules⟩) input = overlaidDecision other (some ⟨rules⟩) input := by
  have first := decide_of_match fits store.defaultDecision other.defaultDecision
  have second := first.1 ▸ first.2
  simp only [overlaidDecision, first.1, second, if_true]

theorem overlaid_of_silent (silent : ∀ rule ∈ rules, rule.matchesInput input = false)
    (store : PolicyStore) :
    overlaidDecision store (some ⟨rules⟩) input =
      Policy.decide input store.rules store.defaultDecision := by
  have unmatched := (decide_none store.defaultDecision silent).2
  simp [overlaidDecision, unmatched]

theorem overlaid_of_rules (runtime : PolicyRuntime) {sessionId : String}
    (own : input.sessionId = some sessionId) :
    overlaidDecision runtime.store (PolicyHandle.overlayFor ⟨runtime⟩ input) input =
      overlaidDecision runtime.store (some ⟨overlayRules runtime sessionId⟩) input := by
  have found : PolicyHandle.overlayFor ⟨runtime⟩ input = runtime.overlays.lookup sessionId := by
    simp [PolicyHandle.overlayFor, own]
  rw [found, overlayRules]
  cases runtime.overlays.lookup sessionId with
  | some overlay => rfl
  | none => exact (overlaid_of_silent (fun _ none => absurd none List.not_mem_nil) _).symm

theorem judge_of_rules (runtime : PolicyRuntime) {sessionId : String}
    (own : input.sessionId = some sessionId) :
    (runtime.judge input).agrees
      (overlaidDecision runtime.store (some ⟨overlayRules runtime sessionId⟩) input) := by
  rw [← overlaid_of_rules runtime own]
  exact PolicyHandle.decide_agrees ⟨runtime⟩ input

end Decisions

section Override

variable {policyState : GatewayPolicyState} {session : SessionRuntime} {level : DecisionKind}

theorem override_store (overridden : session.policyLevelOverride = some level)
    (sessionId : String) :
    (turnPolicyRuntime policyState session sessionId).store = PolicyStore.new level [] := by
  simp only [turnPolicyRuntime, overridden]
  split <;> rfl

theorem override_overlayRules (overridden : session.policyLevelOverride = some level)
    (sessionId : String) :
    overlayRules (turnPolicyRuntime policyState session sessionId) sessionId =
      session.policyOverlayRules := by
  simp only [turnPolicyRuntime, overridden]
  cases rules : session.policyOverlayRules with
  | nil => rfl
  | cons first rest =>
    simp [overlayRules, PolicyRuntime.setSessionOverlay]

theorem decide_level (input : PolicyInput) :
    (Policy.decide input (PolicyStore.new level []).rules level).kind =
        (if "destructive" ∈ input.riskTags then .escalate else level) ∧
      (Policy.decide input (PolicyStore.new level []).rules level).matchedRuleId =
        (if "destructive" ∈ input.riskTags then some systemDestructive.id else none) := by
  by_cases tagged : "destructive" ∈ input.riskTags
  · obtain ⟨rule, member, -, -, kind, matched⟩ | ⟨nothing, -⟩ :=
      decide_cases input (PolicyStore.new level []).rules level
    · obtain rfl := List.mem_singleton.mp member
      rw [if_pos tagged, if_pos tagged]
      exact ⟨kind, matched⟩
    · have unfit := nothing systemDestructive (by simp [PolicyStore.new])
      rw [(systemDestructive_matches input).mpr tagged] at unfit
      exact absurd unfit (by simp)
  · rw [if_neg tagged, if_neg tagged]
    apply decide_none
    intro rule member
    obtain rfl := List.mem_singleton.mp member
    rwa [← Bool.not_eq_true, systemDestructive_matches]

theorem decide_builtin {input : PolicyInput} {rules : List PolicyRule} (default : DecisionKind)
    (tagged : "destructive" ∈ input.riskTags)
    (ahead : ∀ rule ∈ matchingRules input rules, rule.precedence < systemDestructive.precedence) :
    (Policy.decide input (PolicyStore.new default rules).rules default).kind = .escalate ∧
      (Policy.decide input (PolicyStore.new default rules).rules default).matchedRuleId =
        some systemDestructive.id := by
  have builtin : systemDestructive ∈ matchingRules input (PolicyStore.new default rules).rules :=
    ⟨by simp [PolicyStore.new], (systemDestructive_matches input).mpr tagged⟩
  obtain ⟨rule, member, best, kind, matched⟩ | ⟨nothing, -⟩ :=
    decide_greatest input (PolicyStore.new default rules).rules default
  · have above := best.2 (Set.mem_image_of_mem _ builtin)
    have same : rule = systemDestructive := by
      have listed : rule ∈ rules ∨ rule = systemDestructive := by
        simpa [PolicyStore.new] using member.1
      rcases listed with own | same
      · exact absurd (ahead rule ⟨own, member.2⟩) above.not_gt
      · exact same
    rw [same] at kind matched
    exact ⟨kind, matched⟩
  · rw [nothing] at builtin
    exact absurd builtin (Set.notMem_empty _)

end Override

def denyShellRule : PolicyRule :=
  { id := "ops:no_shell"
    decision := .deny
    priority := 100
    toolName := some "shell"
    action := none
    sessionId := none
    actor := none
    resource := none
    capabilitiesAll := []
    riskTagsAll := []
    reason := "no shell on this machine" }

def denyingGateway : GatewayPolicyState := { GatewayPolicyState.new with draftRules := [denyShellRule] }

def permissiveSession : SessionRuntime :=
  { SessionRuntime.newWithConfig 0 1 with
    policyLevelOverride := some PolicyLevel.permissive.toDecisionKind }

def shellInput (riskTags : List String) : PolicyInput :=
  { toolName := "shell"
    action := "exec"
    sessionId := some "sess_1"
    actor := none
    resource := none
    capabilities := []
    riskTags := riskTags
    policyVersion := 0 }

end OpenJax.Gateway
