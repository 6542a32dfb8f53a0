import OpenJax.Shared.Machine
import OpenJax.Gateway.Rebuild
import OpenJax.Gateway.SessionPolicy

set_option autoImplicit false

/-! The overlay of a session is kept twice: in the runtime that every session shares and in the
session's own runtime. The requests that touch it, one after the other. -/

namespace OpenJax.Gateway

open Shared Policy Transcript

structure OverlayGateway where
  policy : GatewayPolicyState
  sessions : Table String SessionRuntime
  -- The ids of the session index.
  listed : Finset String

structure StoredSession where
  agent : AgentId
  replayCapacity : Nat
  events : Journal Json

abbrev RuntimeLoad := Except ApiError StoredSession

/-- How the index and the store take a deletion: what they report, and whether the session
stays listed. -/
structure DeletionAnswer where
  result : Except ApiError Unit
  listed : Bool

inductive OverlayRequest where
  | setOverlay (rules : List CreatePolicyRuleRequest)
  | clearOverlay
  | setPolicyLevel (level : String)
  | clear (agent : AgentId)
  | deleteSession (answer : DeletionAnswer)

def OverlayRequest.clears : OverlayRequest → Bool
  | .clear _ => true
  | _ => false

namespace OverlayGateway

def getSession (gateway : OverlayGateway) (load : RuntimeLoad) (sessionId : String) :
    Except ApiError (OverlayGateway × SessionRuntime) :=
  match gateway.sessions.lookup sessionId with
  | some session => .ok (gateway, session)
  | none =>
      if sessionId ∈ gateway.listed then
        match load with
        | .error error => .error error
        | .ok stored =>
            let session :=
              buildSessionRuntime stored.agent stored.replayCapacity stored.events
            .ok ({ gateway with sessions := gateway.sessions.insert sessionId session }, session)
      else .error (.notFound "session not found" (.obj [("session_id", .str sessionId)]))

def putSession (gateway : OverlayGateway) (sessionId : String) (session : SessionRuntime) :
    OverlayGateway :=
  { gateway with sessions := gateway.sessions.insert sessionId session }

def withRuntime (gateway : OverlayGateway) (runtime : PolicyRuntime) : OverlayGateway :=
  { gateway with policy := { gateway.policy with runtime := runtime } }

def setSessionPolicyOverlay (gateway : OverlayGateway) (load : RuntimeLoad) (sessionId : String)
    (rules : List CreatePolicyRuleRequest) : OverlayGateway × Except ApiError Unit :=
  match gateway.getSession load sessionId with
  | .error error => (gateway, .error error)
  | .ok (found, session) =>
      match rules.mapM CreatePolicyRuleRequest.intoDomain with
      | .error error => (found, .error error)
      | .ok overlayRules =>
          ((found.withRuntime
              (found.policy.runtime.setSessionOverlay sessionId ⟨overlayRules⟩)).putSession
            sessionId { session with policyOverlayRules := overlayRules }, .ok ())

def clearSessionPolicyOverlay (gateway : OverlayGateway) (load : RuntimeLoad)
    (sessionId : String) : OverlayGateway × Except ApiError Unit :=
  match gateway.getSession load sessionId with
  | .error error => (gateway, .error error)
  | .ok (found, session) =>
      ((found.withRuntime (found.policy.runtime.clearSessionOverlay sessionId)).putSession
        sessionId { session with policyOverlayRules := [] }, .ok ())

def setPolicyLevel (gateway : OverlayGateway) (load : RuntimeLoad) (sessionId level : String) :
    OverlayGateway × Except ApiError Unit :=
  match PolicyLevel.fromStr level with
  | .error _ =>
      (gateway, .error (.invalidArgument
        s!"'{level}' is not a valid policy level; use allow, ask, or deny"
        (.obj [("level", .str level)])))
  | .ok level =>
      match gateway.getSession load sessionId with
      | .error error => (gateway, .error error)
      | .ok (found, session) =>
          (found.putSession sessionId
            { session with policyLevelOverride := some level.toDecisionKind }, .ok ())

def clearRuntime (gateway : OverlayGateway) (load : RuntimeLoad) (sessionId : String)
    (agent : AgentId) : OverlayGateway × Except ApiError Unit :=
  match gateway.getSession load sessionId with
  | .error error => (gateway, .error error)
  | .ok (found, session) =>
      (found.putSession sessionId (session.clearContextWithConfig agent), .ok ())

def deleteSession (gateway : OverlayGateway) (sessionId : String) (answer : DeletionAnswer) :
    OverlayGateway × Except ApiError Unit :=
  (({ gateway with
      sessions := gateway.sessions.erase sessionId
      listed := if answer.listed then gateway.listed else gateway.listed.erase sessionId
    } : OverlayGateway).withRuntime (gateway.policy.runtime.clearSessionOverlay sessionId),
    answer.result)

def perform (gateway : OverlayGateway) (load : RuntimeLoad) (sessionId : String) :
    OverlayRequest → OverlayGateway × Except ApiError Unit
  | .setOverlay rules => gateway.setSessionPolicyOverlay load sessionId rules
  | .clearOverlay => gateway.clearSessionPolicyOverlay load sessionId
  | .setPolicyLevel level => gateway.setPolicyLevel load sessionId level
  | .clear agent => gateway.clearRuntime load sessionId agent
  | .deleteSession answer => gateway.deleteSession sessionId answer

end OverlayGateway

structure OverlayInput where
  sessionId : String
  load : RuntimeLoad
  request : OverlayRequest

def overlayStep (gateway : OverlayGateway) (input : OverlayInput) : Option OverlayGateway :=
  some (gateway.perform input.load input.sessionId input.request).1

def sessionOverlayRules (gateway : OverlayGateway) (sessionId : String) : List PolicyRule :=
  ((gateway.sessions.lookup sessionId).map SessionRuntime.policyOverlayRules).getD []

def OverlaysAgree (gateway : OverlayGateway) : Prop :=
  ∀ sessionId,
    overlayRules gateway.policy.runtime sessionId = sessionOverlayRules gateway sessionId

def ClearsBare (gateway : OverlayGateway) (input : OverlayInput) : Prop :=
  input.request.clears = true → overlayRules gateway.policy.runtime input.sessionId = []

instance (gateway : OverlayGateway) (input : OverlayInput) : Decidable (ClearsBare gateway input) :=
  inferInstanceAs (Decidable (_ → _))

section Copies

variable (gateway : OverlayGateway) (sessionId other : String)

theorem overlayRules_set (runtime : PolicyRuntime) (overlay : SessionOverlay) :
    overlayRules (runtime.setSessionOverlay sessionId overlay) other =
      if other = sessionId then overlay.rules else overlayRules runtime other := by
  simp only [overlayRules, PolicyRuntime.setSessionOverlay, Table.lookup_insert_eq]
  split <;> rfl

theorem overlayRules_clear (runtime : PolicyRuntime) :
    overlayRules (runtime.clearSessionOverlay sessionId) other =
      if other = sessionId then [] else overlayRules runtime other := by
  simp only [overlayRules, PolicyRuntime.clearSessionOverlay, Table.lookup_erase_eq]
  split <;> rfl

theorem sessionOverlayRules_put (session : SessionRuntime) :
    sessionOverlayRules (gateway.putSession sessionId session) other =
      if other = sessionId then session.policyOverlayRules
      else sessionOverlayRules gateway other := by
  simp only [sessionOverlayRules, OverlayGateway.putSession, Table.lookup_insert_eq]
  split <;> rfl

theorem replayRecord_overlayRules (session : SessionRuntime) (row : TranscriptRecord Json) :
    (replayRecord session row).policyOverlayRules = session.policyOverlayRules := by
  unfold replayRecord
  cases row.turnId <;> rfl

theorem rebuilt_overlayRules (agent : AgentId) (replayCapacity : Nat) (events : Journal Json) :
    (buildSessionRuntime agent replayCapacity events).policyOverlayRules = [] := by
  have replayed (initial : SessionRuntime) :
      (events.foldl replayRecord initial).policyOverlayRules = initial.policyOverlayRules := by
    induction events generalizing initial with
    | nil => rfl
    | cons row rest ih => rw [List.foldl_cons, ih, replayRecord_overlayRules]
  rw [buildSessionRuntime, replayed, runtimeForReplay]
  cases events.getLast? <;> rfl

theorem getSession_copies {load : RuntimeLoad} {found : OverlayGateway}
    {session : SessionRuntime}
    (loaded : gateway.getSession load sessionId = .ok (found, session)) :
    found.policy = gateway.policy ∧
      (∀ other, sessionOverlayRules found other = sessionOverlayRules gateway other) ∧
      session.policyOverlayRules = sessionOverlayRules gateway sessionId := by
  unfold OverlayGateway.getSession at loaded
  cases held : gateway.sessions.lookup sessionId with
  | some running =>
    simp only [held, Except.ok.injEq, Prod.mk.injEq] at loaded
    obtain ⟨rfl, rfl⟩ := loaded
    exact ⟨rfl, fun _ => rfl, by simp [sessionOverlayRules, held]⟩
  | none =>
    simp only [held] at loaded
    split at loaded
    · cases load with
      | error error => cases loaded
      | ok stored =>
        simp only [Except.ok.injEq, Prod.mk.injEq] at loaded
        obtain ⟨rfl, rfl⟩ := loaded
        have fresh := rebuilt_overlayRules stored.agent stored.replayCapacity stored.events
        refine ⟨rfl, ?_, by simp [sessionOverlayRules, held, fresh]⟩
        intro other
        have put := sessionOverlayRules_put gateway sessionId other
          (buildSessionRuntime stored.agent stored.replayCapacity stored.events)
        rw [OverlayGateway.putSession, fresh] at put
        rw [put]
        split
        · rename_i same
          rw [same]
          simp [sessionOverlayRules, held]
        · rfl
    · cases loaded

end Copies

theorem OverlaysAgree.put {gateway found : OverlayGateway} (agree : OverlaysAgree gateway)
    {load : RuntimeLoad} {sessionId : String} {session written : SessionRuntime}
    (loaded : gateway.getSession load sessionId = .ok (found, session)) (runtime : PolicyRuntime)
    (own : overlayRules runtime sessionId = written.policyOverlayRules)
    (others : ∀ other, other ≠ sessionId →
      overlayRules runtime other = overlayRules found.policy.runtime other) :
    OverlaysAgree ((found.withRuntime runtime).putSession sessionId written) := by
  obtain ⟨policy, copies, -⟩ := getSession_copies gateway sessionId loaded
  intro other
  rw [sessionOverlayRules_put]
  change overlayRules runtime other = _
  by_cases same : other = sessionId
  · rw [if_pos same, same, own]
  · rw [if_neg same, others other same, policy]
    exact (agree other).trans (copies other).symm

theorem overlaysAgree_step {gateway : OverlayGateway} (agree : OverlaysAgree gateway)
    (input : OverlayInput) (bare : ClearsBare gateway input) :
    OverlaysAgree (gateway.perform input.load input.sessionId input.request).1 := by
  cases request : input.request with
  | setOverlay rules =>
    simp only [OverlayGateway.perform, OverlayGateway.setSessionPolicyOverlay]
    cases loaded : gateway.getSession input.load input.sessionId with
    | error error => exact agree
    | ok pair =>
      cases rules.mapM CreatePolicyRuleRequest.intoDomain with
      | error error =>
        obtain ⟨policy, copies, -⟩ := getSession_copies gateway input.sessionId loaded
        intro other
        dsimp only
        rw [policy, copies]
        exact agree other
      | ok overlay =>
        apply agree.put loaded (pair.1.policy.runtime.setSessionOverlay input.sessionId ⟨overlay⟩)
        · rw [overlayRules_set, if_pos rfl]
        · intro other different
          rw [overlayRules_set, if_neg different]
  | clearOverlay =>
    simp only [OverlayGateway.perform, OverlayGateway.clearSessionPolicyOverlay]
    cases loaded : gateway.getSession input.load input.sessionId with
    | error error => exact agree
    | ok pair =>
      apply agree.put loaded (pair.1.policy.runtime.clearSessionOverlay input.sessionId)
      · rw [overlayRules_clear, if_pos rfl]
      · intro other different
        rw [overlayRules_clear, if_neg different]
  | setPolicyLevel level =>
    simp only [OverlayGateway.perform, OverlayGateway.setPolicyLevel]
    cases PolicyLevel.fromStr level with
    | error text => exact agree
    | ok level =>
      cases loaded : gateway.getSession input.load input.sessionId with
      | error error => exact agree
      | ok pair =>
        obtain ⟨policy, -, own⟩ := getSession_copies gateway input.sessionId loaded
        apply agree.put loaded pair.1.policy.runtime
        · rw [policy]
          exact (agree input.sessionId).trans own.symm
        · exact fun _ _ => rfl
  | clear agent =>
    simp only [OverlayGateway.perform, OverlayGateway.clearRuntime]
    cases loaded : gateway.getSession input.load input.sessionId with
    | error error => exact agree
    | ok pair =>
      obtain ⟨policy, -, -⟩ := getSession_copies gateway input.sessionId loaded
      have none := bare (by simp [request, OverlayRequest.clears])
      apply agree.put loaded pair.1.policy.runtime
      · rw [policy]
        exact none
      · exact fun _ _ => rfl
  | deleteSession answer =>
    intro other
    simp only [OverlayGateway.perform, OverlayGateway.deleteSession, OverlayGateway.withRuntime,
      sessionOverlayRules, Table.lookup_erase_eq]
    rw [overlayRules_clear]
    split
    · rfl
    · exact agree other

theorem clear_keeps_agreement_iff {gateway : OverlayGateway} (agree : OverlaysAgree gateway)
    {sessionId : String} {session : SessionRuntime} (load : RuntimeLoad) (agent : AgentId)
    (running : gateway.sessions.lookup sessionId = some session) :
    OverlaysAgree (gateway.clearRuntime load sessionId agent).1 ↔
      overlayRules gateway.policy.runtime sessionId = [] := by
  constructor
  · intro after
    have own := after sessionId
    simp only [OverlayGateway.clearRuntime, OverlayGateway.getSession, running,
      sessionOverlayRules_put, if_true] at own
    exact own
  · intro bare
    exact overlaysAgree_step agree ⟨sessionId, load, .clear agent⟩ fun _ => bare

def freshOverlayGateway (listed : Finset String) : OverlayGateway :=
  { policy := .new, sessions := ∅, listed := listed }

theorem freshOverlayGateway_agree (listed : Finset String) :
    OverlaysAgree (freshOverlayGateway listed) := fun _ => rfl

theorem overlays_agree_of_run (listed : Finset String) (inputs : List OverlayInput)
    (reached : OverlayGateway)
    (bare : Meets overlayStep ClearsBare (freshOverlayGateway listed) inputs)
    (ran : run overlayStep (freshOverlayGateway listed) inputs = some reached) :
    OverlaysAgree reached := by
  have preserves : Preserves overlayStep ClearsBare OverlaysAgree := by
    intro gateway input next agree meets stepped
    obtain rfl := Option.some.inj stepped
    exact overlaysAgree_step agree input meets
  exact run_invariant preserves (freshOverlayGateway_agree listed) bare ran

def allowShellRequest : CreatePolicyRuleRequest :=
  { id := "allow_shell", decision := .allow, toolName := some "shell", reason := "trusted" }

def overlayInput (request : OverlayRequest) : OverlayInput :=
  { sessionId := "sess_1", load := .ok ⟨0, 1, []⟩, request := request }

def clearThenSet : List OverlayInput :=
  [overlayInput (.setPolicyLevel "deny"), overlayInput (.clear 1),
    overlayInput (.setOverlay [allowShellRequest])]

theorem overlays_agree_after_clearThenSet :
    ∃ reached, run overlayStep (freshOverlayGateway {"sess_1"}) clearThenSet = some reached ∧
      OverlaysAgree reached :=
  ⟨_, rfl, overlays_agree_of_run {"sess_1"} clearThenSet _ (by decide) rfl⟩

theorem overlays_disagree_after_clear :
    ¬ ∀ (listed : Finset String) (inputs : List OverlayInput) (reached : OverlayGateway),
      run overlayStep (freshOverlayGateway listed) inputs = some reached →
        OverlaysAgree reached := by
  intro agree
  have own := agree {"sess_1"}
    [overlayInput (.setOverlay [allowShellRequest]), overlayInput (.clear 1)] _ rfl "sess_1"
  have kept := congrArg List.length own
  revert kept
  decide

end OpenJax.Gateway
