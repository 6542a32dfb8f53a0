import OpenJax.Sandbox.Runtime
import OpenJax.Tools.Orchestrator

set_option autoImplicit false

namespace OpenJax.Sandbox

open Shared Tools Policy Protocol

inductive SandboxMode where
  | workspaceWrite
  | dangerFullAccess
  deriving DecidableEq, Repr

def sandboxMode : SandboxPolicy → SandboxMode
  | .none | .dangerFullAccess => .dangerFullAccess
  | .readOnly | .write => .workspaceWrite

/-- What a command meets outside the program. The path check and the search for a shell ask the
file system. -/
structure SandboxEnvironment where
  platform : Platform
  settings : SandboxRuntimeSettings
  ensureWorkspaceRelativePaths : String → Except String Unit
  shell : Except String Unit
  host : BackendHost
  -- The run without sandbox that is asked for, and the one after a failed sandbox.
  direct : SpawnOutcome
  fallback : SpawnOutcome
  requestId : String
  approval : ApprovalOutcome
  approvalTimeoutMs : Nat

inductive ShellAction where
  -- A backend took the command, and started it or not.
  | sandboxed (commandStarted : Bool)
  | direct
  | approval (outcome : ApprovalOutcome)
  | fallback
  deriving DecidableEq, Repr

structure ShellExecutionMetadata where
  resultClass : String
  backend : String
  exitCode : ExitCode
  policyDecision : String
  runtimeAllowed : Bool
  degradeReason : Option String
  runtimeDenyReason : Option String

structure ShellOutput where
  displayOutput : String
  success : Bool

structure ShellRun (Result : Type) where
  actions : List ShellAction
  events : List Event
  result : Except FunctionCallError Result

namespace ShellRun

variable {First Second : Type}

def andThen (run : ShellRun First) (next : First → ShellRun Second) : ShellRun Second :=
  match run.result with
  | .error error => ⟨run.actions, run.events, .error error⟩
  | .ok value =>
      ⟨run.actions ++ (next value).actions, run.events ++ (next value).events, (next value).result⟩

def pure (value : First) : ShellRun First := ⟨[], [], .ok value⟩

def fail (error : FunctionCallError) : ShellRun First := ⟨[], [], .error error⟩

@[simp] theorem pure_actions (value : First) : (pure value).actions = [] := rfl

@[simp] theorem fail_actions (error : FunctionCallError) :
    (fail error : ShellRun First).actions = [] := rfl

theorem andThen_ok (actions : List ShellAction) (events : List Event) (value : First)
    (next : First → ShellRun Second) :
    ((ShellRun.mk actions events (.ok value)).andThen next).actions =
      actions ++ (next value).actions := rfl

theorem andThen_idle (run : ShellRun First) {next : First → ShellRun Second}
    (idle : ∀ value, (next value).actions = []) : (run.andThen next).actions = run.actions := by
  unfold andThen
  split
  · rfl
  · rw [idle, List.append_nil]

theorem of_andThen {run : ShellRun First} {next : First → ShellRun Second} {value : Second}
    (done : (run.andThen next).result = .ok value) :
    ∃ first, run.result = .ok first ∧ (next first).result = .ok value := by
  unfold andThen at done
  cases result : run.result with
  | error error =>
    rw [result] at done
    cases done
  | ok first =>
    rw [result] at done
    exact ⟨first, rfl, done⟩

end ShellRun

def writesOrConnects (capabilities : List SandboxCapability) : Bool :=
  capabilities.any fun capability =>
    match capability with
    | .fsWrite | .envWrite | .network => true
    | _ => false

def executionRequest (environment : SandboxEnvironment) (sandboxPolicy : SandboxPolicy)
    (command : String) (timeoutMs : Nat) : SandboxExecutionRequest :=
  let shellCapabilities := detectCapabilities command
  { command := command
    timeoutMs := timeoutMs
    capabilities := shellCapabilities
    policyTrace :=
      { decision := if writesOrConnects shellCapabilities then .askApproval else .allow
        reason := "sandbox execution policy"
        riskTags := []
        capabilities := shellCapabilities }
    preferredBackend := preferredBackend environment.platform sandboxPolicy }

def backendRun (environment : SandboxEnvironment) (request : SandboxExecutionRequest) :
    SandboxBackend → Except String SandboxExecutionResult
  | .noneEscalated =>
      (runWithoutSandbox environment.direct request).map fun (code, stdout, stderr) =>
        { exitCode := code
          stdout := stdout
          stderr := stderr
          backendUsed := .noneEscalated
          degradeReason := none
          policyTrace := request.policyTrace }
  | .linuxNative => executeLinuxNative environment.platform environment.host request
  | .macosSeatbelt => executeMacosSeatbelt environment.platform environment.host request

def executeInSandbox (environment : SandboxEnvironment) (request : SandboxExecutionRequest) :
    List ShellAction × Except BackendUnavailable SandboxExecutionResult :=
  let selected :=
    selectBackend environment.platform request environment.settings.backendPreference
  ([if selected = .noneEscalated then .direct
      else .sandboxed (environment.host.starts environment.platform selected)],
    (backendRun environment request selected).mapError fun reason =>
      BackendUnavailable.mk selected reason)

def queryPolicyCenterForDegrade (invocation : ToolInvocation) (command : String) : DecisionKind :=
  match invocation.turn.policyRuntime with
  | none => .escalate
  | some runtime =>
      let found := extractShellRiskTags command false
      let riskTags :=
        if found.contains "sandbox_degrade" then found else found ++ ["sandbox_degrade"]
      (PolicyHandle.decide ⟨runtime⟩
        { toolName := invocation.toolName
          action := "exec"
          sessionId := invocation.turn.sessionId <|> some (toString invocation.turn.turnId)
          actor := some "user"
          resource := some invocation.turn.cwd
          capabilities := ["process_exec"]
          riskTags := riskTags
          policyVersion := runtime.version }).kind

def requestDegradeApproval (environment : SandboxEnvironment) (invocation : ToolInvocation)
    (command backend reason : String) : ShellRun Bool :=
  let decision := queryPolicyCenterForDegrade invocation command
  if decision = .deny then
    .fail (.internal s!"policy denied sandbox degrade for command (hash: {fnv1a64 command})")
  else
    let sent (event : Event) := if invocation.turn.hasEventSink then [event] else []
    let requested := sent <| .approvalRequested invocation.turn.turnId environment.requestId command
      ("sandbox backend unavailable; fallback requires explicit approval (" ++
        s!"{backend}: {reason})")
      none none (some invocation.toolName) (some (truncatePreview command 180))
      ["sandbox_degrade"] (some backend) (some reason)
      (if decision = .escalate then some .escalation else some .normal)
    let resolved (approved : Bool) :=
      sent (.approvalResolved invocation.turn.turnId environment.requestId approved)
    match environment.approval with
    | .failed message => ⟨[.approval (.failed message)], requested, .error (.internal message)⟩
    | .timedOut =>
        ⟨[.approval .timedOut], requested ++ resolved false, .error (.approvalTimedOut
          (s!"approval request timed out after {environment.approvalTimeoutMs}ms " ++
            s!"({environment.requestId})"))⟩
    | .answered approved =>
        ⟨[.approval (.answered approved)], requested ++ resolved approved, .ok approved⟩

def degrade (environment : SandboxEnvironment) (invocation : ToolInvocation)
    (request : SandboxExecutionRequest) (asks : Bool)
    (backend reason degradeReason rejection : String) : ShellRun SandboxExecutionResult :=
  let asked : ShellRun Bool :=
    if asks then requestDegradeApproval environment invocation request.command backend reason
    else .pure true
  asked.andThen fun approved =>
    if !approved then .fail (.approvalRejected rejection)
    else
      ⟨[.fallback], [],
        match runWithoutSandbox environment.fallback request with
        | .error error => .error (.internal error)
        | .ok (exitCode, stdout, stderr) =>
            .ok
              { exitCode := exitCode
                stdout := stdout
                stderr := stderr
                backendUsed := .noneEscalated
                degradeReason := some degradeReason
                policyTrace := request.policyTrace }⟩

def requiresDegradeApproval (request : SandboxExecutionRequest) : Bool :=
  request.policyTrace.decision != .allow ||
    classifyCommand request.command == .processObserve ||
    writesOrConnects request.policyTrace.capabilities

def afterBackend (environment : SandboxEnvironment) (invocation : ToolInvocation)
    (request : SandboxExecutionRequest) :
    Except BackendUnavailable SandboxExecutionResult → ShellRun SandboxExecutionResult
  | .ok result => .pure result
  | .error unavailable =>
      match environment.settings.degradePolicy with
      | .deny =>
          .fail (.internal ("sandbox backend \x60" ++ unavailable.backend.asStr ++
            "\x60 unavailable: " ++ unavailable.reason))
      | .askThenAllow =>
          degrade environment invocation request (requiresDegradeApproval request)
            unavailable.backend.asStr unavailable.reason
            s!"{unavailable.backend.asStr}: {unavailable.reason}"
            "command rejected by user after sandbox degradation warning"

def afterRuntime (environment : SandboxEnvironment) (invocation : ToolInvocation)
    (request : SandboxExecutionRequest) (output : SandboxExecutionResult) :
    ShellRun SandboxExecutionResult :=
  if !(evaluateRuntimeStatus output).1 && classifyCommand request.command == .processObserve &&
      output.backendUsed != .noneEscalated then
    let runtimeReason := trim output.stderr
    match environment.settings.degradePolicy with
    | .deny =>
        .fail (.internal ("sandbox runtime denied command under \x60" ++ output.backendUsed.asStr ++
          "\x60 and degrade policy is deny: " ++ runtimeReason))
    | .askThenAllow =>
        let degradeReason := s!"{output.backendUsed.asStr} runtime denied: {runtimeReason}"
        degrade environment invocation request true output.backendUsed.asStr degradeReason
          degradeReason "command rejected by user after sandbox runtime denial"
  else .pure output

def shellMetadata (output : SandboxExecutionResult) : ShellExecutionMetadata :=
  { resultClass := (classifyShellResult output.exitCode output.stdout output.stderr).asStr
    backend := output.backendUsed.asStr
    exitCode := output.exitCode
    policyDecision := output.policyTrace.decision.debugText
    runtimeAllowed := (evaluateRuntimeStatus output).1
    degradeReason := output.degradeReason
    runtimeDenyReason := (evaluateRuntimeStatus output).2 }

def shellModelContent (exitCode : ExitCode) (stdout stderr : String) : String :=
  s!"exit_code={exitCode.val}\nstdout:\n{stdout}\nstderr:\n{stderr}"

def displayOutput (command : String) (metadata : ShellExecutionMetadata)
    (stdout stderr : String) : String :=
  let degradeReason := metadata.degradeReason.getD "none"
  let runtimeDenyReason := metadata.runtimeDenyReason.getD "none"
  s!"result_class={metadata.resultClass}\ncommand={command}\nbackend={metadata.backend}\n" ++
    s!"policy_decision={metadata.policyDecision}\nruntime_allowed={metadata.runtimeAllowed}\n" ++
    s!"degrade_reason={degradeReason}\nruntime_deny_reason={runtimeDenyReason}\n" ++
    shellModelContent metadata.exitCode stdout stderr

def executeShell (environment : SandboxEnvironment) (sandboxPolicy : SandboxPolicy)
    (invocation : ToolInvocation) (command : String) (timeoutMs : Nat) : ShellRun ShellOutput :=
  let blocked : Except String Unit :=
    if sandboxMode sandboxPolicy = .workspaceWrite then
      environment.ensureWorkspaceRelativePaths command
    else .ok ()
  match blocked, environment.shell with
  | .error error, _ =>
      .fail (.internal s!"command blocked by workspace_write sandbox policy: {error}")
  | .ok _, .error error => .fail (.internal error)
  | .ok _, .ok _ =>
      let request := executionRequest environment sandboxPolicy command timeoutMs
      let execution := executeInSandbox environment request
      let run : ShellRun SandboxExecutionResult :=
        (ShellRun.mk execution.1 [] (.ok ())).andThen fun _ =>
          (afterBackend environment invocation request execution.2).andThen
            (afterRuntime environment invocation request)
      run.andThen fun output =>
        let metadata := shellMetadata output
        .pure
          { displayOutput := displayOutput command metadata output.stdout output.stderr
            success := classifyShellResult output.exitCode output.stdout output.stderr ≠ .failure }

end OpenJax.Sandbox
