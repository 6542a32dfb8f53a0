import OpenJax.Sandbox.ShellApprovals
import OpenJax.Sandbox.ShellOutput

set_option autoImplicit false

namespace OpenJax.Tools

open Shared Policy Protocol Sandbox Agent

inductive ToolOutput where
  -- The text of the body; a JSON body is printed.
  | function (body : String) (success : Option Bool)
  | mcp (result : Except String String)

/-- What a handler does: the approvals it asks for, what it sends and its result. An approval that
is not granted is its last and becomes its error. -/
structure HandlerRun where
  approvals : List ApprovalOutcome
  liveEvents : List LiveEvent
  result : Except FunctionCallError ToolOutput
  settled : ∀ before outcome after, approvals = before ++ outcome :: after →
    outcome ≠ .answered true →
    after = [] ∧ ∃ error, result = .error error ∧ outcome.Reports error

def HandlerRun.plain (result : Except FunctionCallError ToolOutput) : HandlerRun :=
  { approvals := []
    liveEvents := []
    result := result
    settled := fun before _ _ split => by cases before <;> cases split }

theorem shell_approvals_settled {Result Output : Type} {run : ShellRun Result}
    (settled : run.Settled) (output : Result → Output) {before after : List ApprovalOutcome}
    {outcome : ApprovalOutcome}
    (split : run.actions.filterMap ShellAction.approval? = before ++ outcome :: after)
    (refused : outcome ≠ .answered true) :
    after = [] ∧ ∃ error, run.result.map output = .error error ∧ outcome.Reports error := by
  obtain ⟨front, rest, actions, -, later⟩ := List.filterMap_eq_append_iff.mp split
  obtain ⟨skipped, action, following, rfl, -, asked, rfl⟩ := List.filterMap_eq_cons_iff.mp later
  have same : action = .approval outcome := by
    cases action <;> simp_all [ShellAction.approval?]
  rw [same, ← List.append_assoc] at actions
  have ⟨ended, error, failed, reports⟩ :=
    settled (front ++ skipped) outcome following actions refused
  rw [ended, failed]
  exact ⟨rfl, error, rfl, reports⟩

def HandlerRun.shell (environment : SandboxEnvironment) (sandboxPolicy : SandboxPolicy)
    (command : String) (timeoutMs : Nat) (invocation : ToolInvocation) : HandlerRun :=
  let run := executeShell environment sandboxPolicy invocation command timeoutMs
  { approvals := run.actions.filterMap ShellAction.approval?
    liveEvents := run.events.attach.map fun event =>
      ⟨event.1, executeShell_prompts environment invocation sandboxPolicy command timeoutMs
        event.1 event.2⟩
    result := run.result.map fun output => .function output.displayOutput (some output.success)
    settled := fun _ _ _ => shell_approvals_settled
      (executeShell_settled environment invocation sandboxPolicy command timeoutMs) _ }

inductive CallAction where
  | approval (outcome : ApprovalOutcome)
  | dispatched
  deriving DecidableEq, Repr

structure ToolAttempt where
  requestId : String
  approval : ApprovalOutcome
  timeoutMs : Nat
  -- The policy as it stands then.
  policyRuntime : Option PolicyRuntime
  handler : ToolInvocation → HandlerRun

structure ExecuteRun where
  actions : List CallAction
  events : List Event
  result : Except String ToolExecOutcome

def toProtocol (metadata : Sandbox.ShellExecutionMetadata) : Protocol.ShellExecutionMetadata :=
  { resultClass := metadata.resultClass
    backend := metadata.backend
    exitCode := metadata.exitCode.val
    policyDecision := metadata.policyDecision
    runtimeAllowed := metadata.runtimeAllowed
    degradeReason := metadata.degradeReason
    runtimeDenyReason := metadata.runtimeDenyReason }

def toolExecOutcome (toolName text : String) (success : Bool) : ToolExecOutcome :=
  let normalized := normalizeToolOutput toolName text
  { modelContent := normalized.1
    displayOutput := normalized.2.1
    shellMetadata := normalized.2.2.map toProtocol
    success := success }

def routeResult (toolName : String) :
    Except FunctionCallError ToolOutput → Except String ToolExecOutcome
  | .ok (.function body success) => .ok (toolExecOutcome toolName body (success.getD true))
  | .ok (.mcp (.ok text)) => .ok (toolExecOutcome toolName text true)
  | .ok (.mcp (.error message)) => .error ("error: " ++ message)
  | .error error => .error ("error: " ++ error.text)

namespace ToolAttempt

variable (parseJson : String → Option Json) (orchestrator : ToolOrchestrator)
  (invocation : ToolInvocation) (attempt : ToolAttempt)

def call : ToolCall :=
  { invocation :=
      { invocation with turn := { invocation.turn with policyRuntime := attempt.policyRuntime } }
    requestId := attempt.requestId
    approval := attempt.approval
    timeoutMs := attempt.timeoutMs }

def environment : ToolEnvironment ToolOutput :=
  { parseJson := parseJson, dispatch := fun invocation => (attempt.handler invocation).result }

def execute : ToolOrchestrator × ExecuteRun :=
  let call := attempt.call invocation
  let ran := orchestrator.run (attempt.environment parseJson) call
  let handled := attempt.handler call.invocation
  (ran.1,
    { actions := ran.2.approval.toList.map .approval ++
        if ran.2.dispatched then .dispatched :: handled.approvals.map .approval else []
      events := ran.2.events ++
        if ran.2.dispatched then handled.liveEvents.map LiveEvent.event else []
      result := routeResult invocation.toolName ran.2.result })

theorem handler_settled (handled : HandlerRun) {before after : List CallAction}
    {outcome : ApprovalOutcome} (split : CallAction.dispatched :: handled.approvals.map .approval =
      before ++ .approval outcome :: after) (refused : outcome ≠ .answered true) :
    after = [] ∧ ∃ error, handled.result = .error error ∧ outcome.Reports error := by
  rcases List.cons_eq_append_iff.mp split with ⟨-, first⟩ | ⟨front, -, rest⟩
  · cases first
  · obtain ⟨early, later, asked, -, found⟩ := List.map_eq_append_iff.mp rest
    obtain ⟨other, late, rfl, same, rfl⟩ := List.map_eq_cons_iff.mp found
    cases same
    have ⟨ended, reported⟩ := handled.settled early outcome late asked refused
    rw [ended]
    exact ⟨rfl, reported⟩

theorem execute_settled {before after : List CallAction} {outcome : ApprovalOutcome}
    (split : (attempt.execute parseJson orchestrator invocation).2.actions =
      before ++ .approval outcome :: after) (refused : outcome ≠ .answered true) :
    after = [] ∧ ∃ error, (attempt.execute parseJson orchestrator invocation).2.result =
      .error ("error: " ++ error.text) ∧ outcome.Reports error := by
  unfold execute at split ⊢
  dsimp only at split ⊢
  have handler {front : List CallAction}
      (started : (orchestrator.run (attempt.environment parseJson)
        (attempt.call invocation)).2.dispatched = true)
      (rest : CallAction.dispatched ::
        (attempt.handler (attempt.call invocation).invocation).approvals.map .approval =
          front ++ .approval outcome :: after) :
      after = [] ∧ ∃ error, routeResult invocation.toolName (orchestrator.run
        (attempt.environment parseJson) (attempt.call invocation)).2.result =
          .error ("error: " ++ error.text) ∧ outcome.Reports error := by
    have ⟨ended, error, failed, reports⟩ := handler_settled _ rest refused
    rw [run_dispatched started, environment]
    dsimp only
    rw [failed]
    exact ⟨ended, error, rfl, reports⟩
  cases asked : (orchestrator.run (attempt.environment parseJson)
      (attempt.call invocation)).2.approval with
  | none =>
    rw [asked] at split
    split_ifs at split with started
    · exact handler started split
    · simp at split
  | some own =>
    rw [asked] at split
    by_cases granted : own = .answered true
    · rcases List.cons_eq_append_iff.mp split with ⟨-, first⟩ | ⟨front, -, rest⟩
      · obtain ⟨same, -⟩ := List.cons.inj first
        cases same
        exact absurd granted refused
      · split_ifs at rest with started
        · exact handler started rest
        · simp at rest
    · have ⟨idle, error, failed, reports⟩ := run_reports asked granted
      rw [idle] at split
      rcases List.cons_eq_append_iff.mp split with ⟨-, first⟩ | ⟨front, -, rest⟩
      · obtain ⟨same, ended⟩ := List.cons.inj first
        cases same
        rw [failed]
        exact ⟨ended, error, rfl, reports⟩
      · simp at rest

theorem execute_acts_iff :
    (attempt.execute parseJson orchestrator invocation).2.actions ≠ [] ↔
      decisionOf (attempt.environment parseJson) (attempt.call invocation) ≠ .deny := by
  rw [← @run_acts_iff _ _ orchestrator, execute]
  dsimp only
  cases (orchestrator.run (attempt.environment parseJson) (attempt.call invocation)).2.approval <;>
    cases (orchestrator.run (attempt.environment parseJson)
      (attempt.call invocation)).2.dispatched <;> simp

theorem run_prompts (environment : ToolEnvironment ToolOutput) (call : ToolCall) :
    ∀ event ∈ (orchestrator.run environment call).2.events, isApprovalEvent event = true := by
  unfold ToolOrchestrator.run
  dsimp only
  split
  · simp
  · split
    · cases call.approval with
      | answered approved =>
        cases approved <;> cases call.invocation.turn.hasEventSink <;>
          simp [approvalRequested, isApprovalEvent]
      | failed message | timedOut =>
        cases call.invocation.turn.hasEventSink <;> simp [approvalRequested, isApprovalEvent]
    · simp

theorem execute_prompts :
    ∀ event ∈ (attempt.execute parseJson orchestrator invocation).2.events,
      isApprovalEvent event = true := by
  intro event member
  rcases List.mem_append.mp member with asked | handled
  · exact run_prompts orchestrator _ _ event asked
  · split_ifs at handled
    · obtain ⟨live, -, rfl⟩ := List.mem_map.mp handled
      exact live.approval
    · cases handled

end ToolAttempt

end OpenJax.Tools
