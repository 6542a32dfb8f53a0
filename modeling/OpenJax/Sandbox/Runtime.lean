import OpenJax.Sandbox.Policy
import OpenJax.Shared.Lines

set_option autoImplicit false

namespace OpenJax.Sandbox

open Shared Tools

inductive SandboxBackend where
  | linuxNative
  | macosSeatbelt
  | noneEscalated
  deriving DecidableEq, Repr

def SandboxBackend.asStr : SandboxBackend → String
  | .linuxNative => "linux_native"
  | .macosSeatbelt => "macos_seatbelt"
  | .noneEscalated => "none_escalated"

inductive Platform where
  | linux
  | macos
  | other
  deriving DecidableEq, Repr

def preferredBackend (platform : Platform) : SandboxPolicy → Option SandboxBackend
  | .dangerFullAccess | .none => some .noneEscalated
  | .write | .readOnly =>
      match platform with
      | .linux => some .linuxNative
      | .macos => some .macosSeatbelt
      | .other => some .noneEscalated

inductive SandboxBackendPreference where
  | auto
  | linuxNative
  | macosSeatbelt
  | none
  deriving DecidableEq, Repr

inductive SandboxDegradePolicy where
  | askThenAllow
  | deny
  deriving DecidableEq, Repr

structure SandboxRuntimeSettings where
  backendPreference : SandboxBackendPreference
  degradePolicy : SandboxDegradePolicy
  deriving DecidableEq, Repr

inductive TraceDecision where
  | allow
  | askApproval
  | askEscalation
  | deny
  deriving DecidableEq, Repr

def TraceDecision.debugText : TraceDecision → String
  | .allow => "Allow"
  | .askApproval => "AskApproval"
  | .askEscalation => "AskEscalation"
  | .deny => "Deny"

structure PolicyTrace where
  decision : TraceDecision
  reason : String
  riskTags : List String
  capabilities : List SandboxCapability
  deriving DecidableEq, Repr

structure SandboxExecutionRequest where
  command : String
  timeoutMs : Nat
  capabilities : List SandboxCapability
  policyTrace : PolicyTrace
  preferredBackend : Option SandboxBackend

def ExitCode : Type := { code : Int // -2147483648 ≤ code ∧ code ≤ 2147483647 }

theorem ExitCode.one_fits : -2147483648 ≤ (1 : Int) ∧ (1 : Int) ≤ 2147483647 := by decide

def ExitCode.noCode : ExitCode := ⟨-1, by decide⟩

structure SandboxExecutionResult where
  exitCode : ExitCode
  stdout : String
  stderr : String
  backendUsed : SandboxBackend
  degradeReason : Option String
  policyTrace : PolicyTrace

structure BackendUnavailable where
  backend : SandboxBackend
  reason : String

inductive ProcessEnd where
  | timedOut
  | exited (code : Option ExitCode) (stdout stderr : Bytes)

inductive SpawnOutcome where
  | failed (error : String)
  | spawned (ending : ProcessEnd)

/-- What a sandbox backend meets on the host: why it is known not to work, whether its program is
installed, and how that program runs. The program may end before it starts the command. -/
structure BackendHost where
  unhealthy : Option String
  installed : Bool
  outcome : SpawnOutcome
  commandStarted : Bool

def BackendHost.starts (host : BackendHost) (platform : Platform) (backend : SandboxBackend) :
    Bool :=
  let spawned :=
    match host.outcome with
    | .spawned _ => host.installed && host.commandStarted
    | .failed _ => false
  match backend with
  | .linuxNative => platform == .linux && spawned
  | .macosSeatbelt => platform == .macos && host.unhealthy.isNone && spawned
  | .noneEscalated => false

def looksLikeLinuxSandboxBootstrapError (stderr : String) : Bool :=
  ["operation not permitted", "creating new namespace", "unshare", "user namespace"].any
    (containsText stderr.toLower)

def classifyMacosSeatbeltError (stderr : String) : String :=
  let lower := stderr.toLower
  let normalized := trim stderr
  if containsText lower "sandbox_apply" && containsText lower "operation not permitted" then
    s!"macos_seatbelt_apply_denied: sandbox apply not permitted by current runtime ({normalized})"
  else if containsText lower "invalid profile" || containsText lower "parse error" then
    s!"macos_seatbelt_profile_invalid: sandbox profile rejected ({normalized})"
  else if containsText lower "operation not permitted" then
    s!"macos_seatbelt_permission_denied: sandbox execution denied ({normalized})"
  else s!"macos_seatbelt_runtime_error: {normalized}"

def executeLinuxNative (platform : Platform) (host : BackendHost)
    (request : SandboxExecutionRequest) : Except String SandboxExecutionResult :=
  if platform ≠ .linux then .error "linux_native backend is unavailable on this platform"
  else if !host.installed then
    .error "bwrap is required for linux_native backend but not found"
  else
    match host.outcome with
    | .failed error => .error s!"failed to execute bwrap command: {error}"
    | .spawned .timedOut => .error s!"command timed out after {request.timeoutMs}ms"
    | .spawned (.exited code stdout stderr) =>
        let exitCode := code.getD .noCode
        let stderrText := fromUtf8Lossy stderr
        if exitCode.val ≠ 0 ∧ looksLikeLinuxSandboxBootstrapError stderrText = true then
          .error s!"linux_native backend setup failed: {stderrText}"
        else
          .ok
            { exitCode := exitCode
              stdout := fromUtf8Lossy stdout
              stderr := stderrText
              backendUsed := .linuxNative
              degradeReason := none
              policyTrace := request.policyTrace }

def executeMacosSeatbelt (platform : Platform) (host : BackendHost)
    (request : SandboxExecutionRequest) : Except String SandboxExecutionResult :=
  if platform ≠ .macos then .error "macos_seatbelt backend is unavailable on this platform"
  else
    match host.unhealthy with
    | some reason => .error s!"macos_seatbelt_unavailable_cached: {reason}"
    | none =>
        if !host.installed then
          .error ("macos_seatbelt_missing_binary: sandbox-exec is required for " ++
            "macos_seatbelt backend but not found")
        else
          match host.outcome with
          | .failed error =>
              .error ("macos_seatbelt_spawn_failed: failed to execute sandbox-exec command: " ++
                error)
          | .spawned .timedOut =>
              .error s!"macos_seatbelt_timeout: command timed out after {request.timeoutMs}ms"
          | .spawned (.exited code stdout stderr) =>
              let exitCode := code.getD .noCode
              let stdoutText := fromUtf8Lossy stdout
              let stderrText := fromUtf8Lossy stderr
              if exitCode.val ≠ 0 ∧ trim stdoutText = "" ∧ trim stderrText = "" then
                .error ("macos_seatbelt_unknown_nonzero: backend returned non-zero exit " ++
                  s!"without stderr/stdout (exit_code={exitCode.val})")
              else if exitCode.val ≠ 0 then .error (classifyMacosSeatbeltError stderrText)
              else
                .ok
                  { exitCode := exitCode
                    stdout := stdoutText
                    stderr := stderrText
                    backendUsed := .macosSeatbelt
                    degradeReason := none
                    policyTrace := request.policyTrace }

def runWithoutSandbox (outcome : SpawnOutcome) (request : SandboxExecutionRequest) :
    Except String (ExitCode × String × String) :=
  match outcome with
  | .failed error => .error s!"failed to execute command: {error}"
  | .spawned .timedOut => .error s!"command timed out after {request.timeoutMs}ms"
  | .spawned (.exited code stdout stderr) =>
      .ok (code.getD .noCode, fromUtf8Lossy stdout, fromUtf8Lossy stderr)

def selectBackend (platform : Platform) (request : SandboxExecutionRequest)
    (preference : SandboxBackendPreference) : SandboxBackend :=
  match request.preferredBackend with
  | some explicit => explicit
  | none =>
      match preference, platform with
      | .linuxNative, _ => .linuxNative
      | .macosSeatbelt, _ => .macosSeatbelt
      | .none, _ => .noneEscalated
      | .auto, .linux => .linuxNative
      | .auto, .macos => .macosSeatbelt
      | .auto, .other => .noneEscalated

inductive CommandClass where
  | general
  | processObserve
  | networkHeavy
  | writeHeavy
  deriving DecidableEq, Repr

def classifyCommand (command : String) : CommandClass :=
  let normalized := (String.ofList (trimStart command.toList)).toLower
  if ["ps ", "top ", "pgrep "].any (startsWith normalized) then .processObserve
  else if ["curl ", "wget ", "ssh "].any (containsText normalized) then .networkHeavy
  else if containsText normalized ">" || containsText normalized " tee " ||
      containsText normalized " rm " || startsWith normalized "rm " ||
      containsText normalized " mv " || containsText normalized " cp " then .writeHeavy
  else .general

inductive SandboxResultClass where
  | success
  | partialSuccess
  | failure
  deriving DecidableEq, Repr

def SandboxResultClass.asStr : SandboxResultClass → String
  | .success => "success"
  | .partialSuccess => "partial_success"
  | .failure => "failure"

def looksLikeFatalStderr (stderr : String) : Bool :=
  !stderr.isEmpty &&
    ["operation not permitted", "permission denied", "command not found", "illegal option",
      "no such file or directory"].any (containsText stderr.toLower)

def classifyShellResult (exitCode : ExitCode) (stdout stderr : String) : SandboxResultClass :=
  let stderrTrimmed := trim stderr
  let stdoutTrimmed := trim stdout
  if exitCode.val = 0 then
    if stdoutTrimmed.isEmpty && looksLikeFatalStderr stderrTrimmed then .failure else .success
  else if exitCode.val = 141 ∧ stdoutTrimmed ≠ "" ∧ stderrTrimmed = "" then .partialSuccess
  else .failure

def evaluateRuntimeStatus (output : SandboxExecutionResult) : Bool × Option String :=
  let reason := trim output.stderr
  if output.exitCode.val ≠ 0 then
    (false, some (if reason.isEmpty then
      s!"command exited with non-zero status: {output.exitCode.val}" else reason))
  else if looksLikeFatalStderr reason then (false, some reason)
  else (true, none)

def fnv1a64 (text : String) : String :=
  let hash := (utf8 text).foldl (fun (hash : UInt64) byte =>
    (hash ^^^ byte.toUInt64) * 0x100000001b3) 0xcbf29ce484222325
  let digits := Nat.toDigits 16 hash.toNat
  String.ofList (List.replicate (16 - digits.length) '0' ++ digits)

end OpenJax.Sandbox
