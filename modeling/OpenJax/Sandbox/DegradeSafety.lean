import OpenJax.Sandbox.Execution

set_option autoImplicit false

namespace OpenJax.Sandbox

open Shared Tools

def granted : ShellAction := .approval (.answered true)

def Guarded (actions : List ShellAction) : Prop :=
  ∀ before after, actions = before ++ .fallback :: after → granted ∈ before

theorem guarded_of_notMem {actions : List ShellAction} (absent : .fallback ∉ actions) :
    Guarded actions := by
  rintro before after rfl
  exact absurd (List.mem_append_right _ List.mem_cons_self) absent

theorem Guarded.append {first second : List ShellAction} (start : Guarded first)
    (rest : Guarded second) : Guarded (first ++ second) := by
  intro before after split
  rcases List.append_eq_append_iff.mp split with ⟨middle, rfl, later⟩ | ⟨middle, rfl, later⟩
  · exact List.mem_append_right _ (rest middle after later)
  · cases middle with
    | nil =>
      have inside := rest [] after later.symm
      cases inside
    | cons action middle =>
      obtain ⟨rfl, -⟩ := List.cons.inj later
      exact start before middle rfl

theorem Guarded.andThen {First Second : Type} {run : ShellRun First}
    {next : First → ShellRun Second} (start : Guarded run.actions)
    (rest : ∀ value, Guarded (next value).actions) : Guarded (run.andThen next).actions := by
  unfold ShellRun.andThen
  split
  · exact start
  · exact start.append (rest _)

section Steps

variable (environment : SandboxEnvironment) (invocation : ToolInvocation)
  (request : SandboxExecutionRequest)

theorem degrade_guarded (backend reason degradeReason rejection : String) :
    Guarded (degrade environment invocation request true backend reason degradeReason
      rejection).actions := by
  unfold degrade requestDegradeApproval
  rw [if_pos rfl]
  dsimp only
  split
  · exact guarded_of_notMem (by simp [ShellRun.fail, ShellRun.andThen])
  · cases environment.approval with
    | answered approved =>
      cases approved with
      | true =>
        intro before after split
        simp only [ShellRun.andThen, Bool.not_true, Bool.false_eq_true, if_false] at split
        cases before with
        | nil => simp at split
        | cons first before =>
          obtain ⟨rfl, -⟩ := List.cons.inj split
          exact List.mem_cons_self
      | false => exact guarded_of_notMem (by simp [ShellRun.andThen, ShellRun.fail])
    | failed message => exact guarded_of_notMem (by simp [ShellRun.andThen])
    | timedOut => exact guarded_of_notMem (by simp [ShellRun.andThen])

theorem afterRuntime_guarded (output : SandboxExecutionResult) :
    Guarded (afterRuntime environment invocation request output).actions := by
  unfold afterRuntime
  dsimp only
  split
  · split
    · exact guarded_of_notMem (by simp [ShellRun.fail])
    · exact degrade_guarded _ _ _ _ _ _ _
  · exact guarded_of_notMem (by simp [ShellRun.pure])

theorem afterBackend_guarded {execution : Except BackendUnavailable SandboxExecutionResult}
    (asks : requiresDegradeApproval request = true ∨ ∃ result, execution = .ok result) :
    Guarded (afterBackend environment invocation request execution).actions := by
  unfold afterBackend
  cases execution with
  | ok result => exact guarded_of_notMem (by simp [ShellRun.pure])
  | error unavailable =>
    have required := asks.resolve_right (by simp)
    dsimp only
    split
    · exact guarded_of_notMem (by simp [ShellRun.fail])
    · rw [required]
      exact degrade_guarded _ _ _ _ _ _ _

end Steps

section Commands

/-- The command is classified as writing, as using the network or as observing processes. -/
def Recognised (command : String) : Prop :=
  writesOrConnects (detectCapabilities command) = true ∨
    classifyCommand command = .processObserve

instance (command : String) : Decidable (Recognised command) :=
  inferInstanceAs (Decidable (_ ∨ _))

theorem requiresDegradeApproval_iff (environment : SandboxEnvironment)
    (sandboxPolicy : SandboxPolicy) (command : String) (timeoutMs : Nat) :
    requiresDegradeApproval (executionRequest environment sandboxPolicy command timeoutMs) = true ↔
      Recognised command := by
  unfold requiresDegradeApproval Recognised executionRequest
  by_cases risky : writesOrConnects (detectCapabilities command) = true
  · simp [risky]
  · simp [Bool.not_eq_true _ ▸ risky]

variable {environment : SandboxEnvironment} {sandboxPolicy : SandboxPolicy}
  {invocation : ToolInvocation} {command : String} {timeoutMs : Nat}

def executed (environment : SandboxEnvironment) (sandboxPolicy : SandboxPolicy)
    (invocation : ToolInvocation) (command : String) (timeoutMs : Nat) :
    ShellRun SandboxExecutionResult :=
  let request := executionRequest environment sandboxPolicy command timeoutMs
  (afterBackend environment invocation request (executeInSandbox environment request).2).andThen
    (afterRuntime environment invocation request)

theorem executeShell_runs (clear : environment.ensureWorkspaceRelativePaths command = .ok ())
    (found : environment.shell = .ok ()) :
    (executeShell environment sandboxPolicy invocation command timeoutMs).actions =
      (executeInSandbox environment
        (executionRequest environment sandboxPolicy command timeoutMs)).1 ++
        (executed environment sandboxPolicy invocation command timeoutMs).actions := by
  unfold executeShell
  rw [clear, found, ite_self]
  dsimp only
  rw [ShellRun.andThen_idle, ShellRun.andThen_ok]
  · rfl
  · exact fun output => rfl

theorem executeShell_cases :
    (executeShell environment sandboxPolicy invocation command timeoutMs).actions = [] ∨
      (executeShell environment sandboxPolicy invocation command timeoutMs).actions =
        (executeInSandbox environment
          (executionRequest environment sandboxPolicy command timeoutMs)).1 ++
          (executed environment sandboxPolicy invocation command timeoutMs).actions := by
  unfold executeShell
  dsimp only
  split
  · exact .inl rfl
  · exact .inl rfl
  · right
    rw [ShellRun.andThen_idle, ShellRun.andThen_ok]
    · rfl
    · exact fun output => rfl

theorem sandboxed_guarded (request : SandboxExecutionRequest) :
    Guarded (executeInSandbox environment request).1 := by
  apply guarded_of_notMem
  unfold executeInSandbox
  dsimp only
  split <;> simp

theorem executed_guarded
    (asks : Recognised command ∨ ∃ result, (executeInSandbox environment
      (executionRequest environment sandboxPolicy command timeoutMs)).2 = .ok result) :
    Guarded (executed environment sandboxPolicy invocation command timeoutMs).actions := by
  refine (afterBackend_guarded environment invocation _ ?_).andThen fun output =>
    afterRuntime_guarded environment invocation _ output
  exact asks.imp_left (requiresDegradeApproval_iff environment sandboxPolicy command timeoutMs).mpr

theorem executeShell_guarded
    (asks : Recognised command ∨ ∃ result, (executeInSandbox environment
      (executionRequest environment sandboxPolicy command timeoutMs)).2 = .ok result) :
    Guarded (executeShell environment sandboxPolicy invocation command timeoutMs).actions := by
  rcases @executeShell_cases environment sandboxPolicy invocation command timeoutMs with
    idle | runs
  · rw [idle]
    exact guarded_of_notMem (by simp)
  · rw [runs]
    exact (sandboxed_guarded _).append (executed_guarded asks)

theorem executed_silent {unavailable : BackendUnavailable}
    (failed : (executeInSandbox environment
      (executionRequest environment sandboxPolicy command timeoutMs)).2 = .error unavailable)
    (allowed : environment.settings.degradePolicy = .askThenAllow)
    (unrecognised : ¬ Recognised command) :
    ∃ after, (executed environment sandboxPolicy invocation command timeoutMs).actions =
        .fallback :: after ∧ Guarded after := by
  have unasked : requiresDegradeApproval
      (executionRequest environment sandboxPolicy command timeoutMs) = false := by
    rw [← Bool.not_eq_true, requiresDegradeApproval_iff]
    exact unrecognised
  have first : ∃ result, afterBackend environment invocation
      (executionRequest environment sandboxPolicy command timeoutMs) (.error unavailable) =
        ⟨[.fallback], [], result⟩ := by
    unfold afterBackend degrade
    rw [allowed, unasked]
    exact ⟨_, rfl⟩
  obtain ⟨result, first⟩ := first
  unfold executed
  dsimp only
  rw [failed, first]
  cases result with
  | error error => exact ⟨[], rfl, guarded_of_notMem (by simp)⟩
  | ok output => exact ⟨_, ShellRun.andThen_ok .., afterRuntime_guarded environment invocation _ output⟩

end Commands

section Classifiers

def FallbackGated (command : String) : Prop :=
  ∀ (environment : SandboxEnvironment) (sandboxPolicy : SandboxPolicy)
    (invocation : ToolInvocation) (timeoutMs : Nat),
    Guarded (executeShell environment sandboxPolicy invocation command timeoutMs).actions

/-- The tags that the policy gate sees, of the command with its white space normalised. -/
def TaggedRisky (command : String) (requireEscalated : Bool) : Prop :=
  "write" ∈ extractShellRiskTags (normalizeCommand command) requireEscalated ∨
    "network" ∈ extractShellRiskTags (normalizeCommand command) requireEscalated

def openEnvironment (platform : Platform) (host : BackendHost) : SandboxEnvironment :=
  { platform := platform
    settings := ⟨.auto, .askThenAllow⟩
    ensureWorkspaceRelativePaths := fun _ => .ok ()
    shell := .ok ()
    host := host
    direct := .spawned .timedOut
    fallback := .spawned (.exited (some ⟨0, by decide⟩) [] [])
    requestId := "request"
    approval := .answered false
    approvalTimeoutMs := 300000 }

def missingBackend : BackendHost :=
  { unhealthy := none
    installed := false
    outcome := .failed "not found"
    commandStarted := false }

def shellInvocation : ToolInvocation :=
  { toolName := "shell"
    callId := "call_1"
    payload := .function "\x7b\x7d"
    turn :=
      { turnId := 1
        sessionId := none
        cwd := "/workspace"
        hasEventSink := false
        policyRuntime := none } }

theorem openEnvironment_escapes {platform : Platform} {host : BackendHost} {command : String}
    {unavailable : BackendUnavailable}
    (failed : (executeInSandbox (openEnvironment platform host)
      (executionRequest (openEnvironment platform host) .write command 1000)).2 =
        .error unavailable) (unrecognised : ¬ Recognised command) :
    ∃ after, (executeShell (openEnvironment platform host) .write shellInvocation command
        1000).actions =
      (executeInSandbox (openEnvironment platform host)
        (executionRequest (openEnvironment platform host) .write command 1000)).1 ++
        .fallback :: after := by
  obtain ⟨after, silent, -⟩ := executed_silent failed rfl unrecognised
  exact ⟨after, (executeShell_runs rfl rfl).trans (congrArg _ silent)⟩

theorem fallbackGated_iff (command : String) : FallbackGated command ↔ Recognised command := by
  constructor
  · intro gated
    by_contra unrecognised
    have failed : (executeInSandbox (openEnvironment .linux missingBackend)
        (executionRequest (openEnvironment .linux missingBackend) .write command 1000)).2 =
          .error ⟨.linuxNative, "bwrap is required for linux_native backend but not found"⟩ := rfl
    obtain ⟨after, escapes⟩ := openEnvironment_escapes failed unrecognised
    have asked := gated _ _ _ _ [.sandboxed false] after escapes
    simp [granted] at asked
  · intro recognised environment sandboxPolicy invocation timeoutMs
    exact executeShell_guarded (.inl recognised)

/-- The policy gate and the degrade gate agree on a command exactly when its raw text is
recognised too. -/
theorem tagged_gated_iff (command : String) (requireEscalated : Bool) :
    (TaggedRisky command requireEscalated → FallbackGated command) ↔
      (Recognised command ∨ ¬ TaggedRisky command requireEscalated) := by
  rw [fallbackGated_iff, imp_iff_or_not]

theorem tab_hides_write : ¬ ∀ (command : String) (requireEscalated : Bool),
    TaggedRisky command requireEscalated → FallbackGated command := by
  intro always
  have tagged : TaggedRisky "touch\tnotes.txt" false := by
    left
    decide +kernel
  have gated := (fallbackGated_iff _).mp (always _ _ tagged)
  revert gated
  decide +kernel

end Classifiers

section Backends

def NoSilentEscape (platform : Platform) (host : BackendHost) (command : String) : Prop :=
  ∀ (environment : SandboxEnvironment) (sandboxPolicy : SandboxPolicy)
    (invocation : ToolInvocation) (timeoutMs : Nat), environment.platform = platform →
    environment.host = host → environment.settings.degradePolicy = .askThenAllow →
    ∀ before after,
      (executeShell environment sandboxPolicy invocation command timeoutMs).actions =
        before ++ .fallback :: after →
      granted ∈ before ∨ .sandboxed true ∉ before

def EndsAsFailure : Platform → ProcessEnd → Prop
  | .other, _ => False
  | _, .timedOut => True
  | .linux, .exited code _ stderr => (code.getD .noCode).val ≠ 0 ∧
      looksLikeLinuxSandboxBootstrapError (fromUtf8Lossy stderr) = true
  | .macos, .exited code _ _ => (code.getD .noCode).val ≠ 0

/-- The command is started in the sandbox, and its end is taken for a failure of the backend. -/
structure TakenForFailure (platform : Platform) (host : BackendHost) : Prop where
  installed : host.installed = true
  started : host.commandStarted = true
  healthy : platform = .macos → host.unhealthy = none
  ended : ∃ ending, host.outcome = .spawned ending ∧ EndsAsFailure platform ending

variable {request : SandboxExecutionRequest} {environment : SandboxEnvironment}

theorem takenForFailure_of_error {backend : SandboxBackend} {reason : String}
    (started : environment.host.starts environment.platform backend = true)
    (failed : backendRun environment request backend = .error reason) :
    TakenForFailure environment.platform environment.host := by
  unfold BackendHost.starts at started
  cases spawned : environment.host.outcome with
  | failed error => cases backend <;> simp [spawned] at started
  | spawned ending =>
    cases backend with
    | noneEscalated => simp at started
    | linuxNative =>
      simp only [spawned, Bool.and_eq_true, beq_iff_eq] at started
      obtain ⟨platform, installed, commandStarted⟩ := started
      refine ⟨installed, commandStarted, by simp [platform], ending, spawned, ?_⟩
      rw [platform]
      cases ending with
      | timedOut => trivial
      | exited code stdout stderr =>
        by_contra fine
        change ¬ ((code.getD .noCode).val ≠ 0 ∧
          looksLikeLinuxSandboxBootstrapError (fromUtf8Lossy stderr) = true) at fine
        simp only [backendRun, executeLinuxNative, platform, installed, spawned] at failed
        simp [fine] at failed
    | macosSeatbelt =>
      simp only [spawned, Bool.and_eq_true, beq_iff_eq, Option.isNone_iff_eq_none] at started
      obtain ⟨⟨platform, healthy⟩, installed, commandStarted⟩ := started
      refine ⟨installed, commandStarted, fun _ => healthy, ending, spawned, ?_⟩
      rw [platform]
      cases ending with
      | timedOut => trivial
      | exited code stdout stderr =>
        intro zero
        simp [backendRun, executeMacosSeatbelt, platform, installed, spawned, healthy, zero]
          at failed

theorem executeInSandbox_failed {backend : SandboxBackend} {reason : String}
    (selected : selectBackend environment.platform request
      environment.settings.backendPreference = backend)
    (failed : backendRun environment request backend = .error reason)
    (sandboxed : backend ≠ .noneEscalated) :
    executeInSandbox environment request =
      ([.sandboxed (environment.host.starts environment.platform backend)],
        .error ⟨backend, reason⟩) := by
  unfold executeInSandbox
  dsimp only
  rw [selected, failed, if_neg sandboxed]
  rfl

theorem started_takenForFailure {unavailable : BackendUnavailable}
    (failed : (executeInSandbox environment request).2 = .error unavailable)
    (started : .sandboxed true ∈ (executeInSandbox environment request).1) :
    TakenForFailure environment.platform environment.host := by
  unfold executeInSandbox at failed started
  dsimp only at failed started
  generalize selectBackend environment.platform request
    environment.settings.backendPreference = backend at failed started
  cases ran : backendRun environment request backend with
  | ok result => simp [ran, Except.mapError] at failed
  | error reason =>
    refine takenForFailure_of_error ?_ ran
    split at started
    · simp at started
    · simpa using started

theorem error_of_takenForFailure {platform : Platform} {host : BackendHost}
    (taken : TakenForFailure platform host) (request : SandboxExecutionRequest) :
    ∃ backend reason, preferredBackend platform .write = some backend ∧
      backend ≠ .noneEscalated ∧ host.starts platform backend = true ∧
      backendRun (openEnvironment platform host) request backend = .error reason := by
  obtain ⟨installed, commandStarted, healthy, ending, spawned, ended⟩ := taken
  cases platform with
  | other => exact ended.elim
  | linux =>
    have started : host.starts .linux .linuxNative = true := by
      simp [BackendHost.starts, spawned, installed, commandStarted]
    cases ending with
    | timedOut =>
      exact ⟨.linuxNative, _, rfl, by simp, started, by
        simp [backendRun, executeLinuxNative, openEnvironment, installed, spawned]; rfl⟩
    | exited code stdout stderr =>
      have ended : (code.getD .noCode).val ≠ 0 ∧
        looksLikeLinuxSandboxBootstrapError (fromUtf8Lossy stderr) = true := ended
      exact ⟨.linuxNative, _, rfl, by simp, started, by
        simp [backendRun, executeLinuxNative, openEnvironment, installed, spawned, ended]; rfl⟩
  | macos =>
    have healthy := healthy rfl
    have started : host.starts .macos .macosSeatbelt = true := by
      simp [BackendHost.starts, spawned, installed, commandStarted, healthy]
    cases ending with
    | timedOut =>
      exact ⟨.macosSeatbelt, _, rfl, by simp, started, by
        simp [backendRun, executeMacosSeatbelt, openEnvironment, installed, spawned, healthy]; rfl⟩
    | exited code stdout stderr =>
      have ended : (code.getD .noCode).val ≠ 0 := ended
      refine ⟨.macosSeatbelt, ?_, rfl, by simp, started, ?_⟩
      · exact if trim (fromUtf8Lossy stdout) = "" ∧ trim (fromUtf8Lossy stderr) = "" then
            "macos_seatbelt_unknown_nonzero: backend returned non-zero exit " ++
              s!"without stderr/stdout (exit_code={(code.getD .noCode).val})"
          else classifyMacosSeatbeltError (fromUtf8Lossy stderr)
      · by_cases silent : trim (fromUtf8Lossy stdout) = "" ∧ trim (fromUtf8Lossy stderr) = ""
        · simp [backendRun, executeMacosSeatbelt, openEnvironment, installed, spawned, healthy,
            ended, silent]
        · simp [backendRun, executeMacosSeatbelt, openEnvironment, installed, spawned, healthy,
            ended, silent]

theorem escapes_of_taken {platform : Platform} {host : BackendHost} {command : String}
    (taken : TakenForFailure platform host) (unrecognised : ¬ Recognised command) :
    ¬ NoSilentEscape platform host command := by
  intro confined
  obtain ⟨backend, reason, preferred, sandboxed, started, failed⟩ := error_of_takenForFailure
    taken (executionRequest (openEnvironment platform host) .write command 1000)
  have selected : selectBackend platform
      (executionRequest (openEnvironment platform host) .write command 1000) .auto = backend := by
    simp [selectBackend, executionRequest, openEnvironment, preferred]
  have execution : executeInSandbox (openEnvironment platform host)
      (executionRequest (openEnvironment platform host) .write command 1000) =
        ([.sandboxed true], .error ⟨backend, reason⟩) := by
    refine (executeInSandbox_failed selected failed sandboxed).trans ?_
    rw [show (openEnvironment platform host).host.starts
      (openEnvironment platform host).platform backend = true from started]
  obtain ⟨after, actions⟩ := openEnvironment_escapes (congrArg Prod.snd execution) unrecognised
  rw [congrArg Prod.fst execution] at actions
  have asked := confined _ _ _ _ rfl rfl rfl [.sandboxed true] after actions
  simp [granted] at asked

end Backends

/-- A started command is run a second time outside unasked exactly when no approval is due for it
and its end is taken for a failure of the backend. -/
theorem noSilentEscape_iff (platform : Platform) (host : BackendHost) (command : String) :
    NoSilentEscape platform host command ↔
      Recognised command ∨ ¬ TakenForFailure platform host := by
  constructor
  · intro confined
    by_contra escapes
    obtain ⟨unrecognised, taken⟩ := not_or.mp escapes
    exact escapes_of_taken (not_not.mp taken) unrecognised confined
  · intro condition environment sandboxPolicy invocation timeoutMs platformSame hostSame allowed
      before after actions
    subst platformSame hostSame
    rcases @executeShell_cases environment sandboxPolicy invocation command timeoutMs with
      idle | runs
    · rw [idle] at actions
      simp at actions
    · by_cases recognised : Recognised command
      · exact .inl (executeShell_guarded (.inl recognised) before after actions)
      · have unstarted := condition.resolve_left recognised
        cases execution : (executeInSandbox environment
            (executionRequest environment sandboxPolicy command timeoutMs)).2 with
        | ok result =>
          exact .inl (executeShell_guarded (.inr ⟨result, execution⟩) before after actions)
        | error unavailable =>
          obtain ⟨later, silent, guarded⟩ :=
            @executed_silent environment sandboxPolicy invocation command timeoutMs unavailable
              execution allowed recognised
          rw [runs, silent] at actions
          have single : ∃ action, action ≠ .fallback ∧ (executeInSandbox environment
              (executionRequest environment sandboxPolicy command timeoutMs)).1 = [action] := by
            refine ⟨_, ?_, rfl⟩
            split <;> simp
          obtain ⟨action, other, single⟩ := single
          have unsent : action ≠ .sandboxed true := by
            rintro rfl
            exact unstarted (started_takenForFailure execution (by simp [single]))
          rw [single, List.singleton_append] at actions
          cases before with
          | nil => exact absurd (List.cons.inj actions).1 other
          | cons first before =>
            obtain ⟨rfl, remaining⟩ := List.cons.inj actions
            cases before with
            | nil => exact .inr (by simpa [eq_comm] using unsent)
            | cons second before =>
              -- A second run outside comes after an approval of its own.
              have asked := guarded before after (List.cons.inj remaining).2
              exact .inl (List.mem_cons_of_mem _ (List.mem_cons_of_mem _ asked))

def deniedHost : BackendHost :=
  { unhealthy := none
    installed := true
    outcome := .spawned (.exited (some ⟨1, ExitCode.one_fits⟩) [] (utf8 "Operation not permitted"))
    commandStarted := true }

theorem own_stderr_escapes : ¬ ∀ (platform : Platform) (host : BackendHost) (command : String),
    NoSilentEscape platform host command := by
  intro always
  have bootstrap : looksLikeLinuxSandboxBootstrapError
      (fromUtf8Lossy (utf8 "Operation not permitted")) = true := by
    rw [fromUtf8Lossy_utf8]
    decide +kernel
  have taken : TakenForFailure .linux deniedHost :=
    ⟨rfl, rfl, by simp, _, rfl, by decide, bootstrap⟩
  have unrecognised : ¬ Recognised "python3 check.py" := by decide +kernel
  exact escapes_of_taken taken unrecognised (always _ _ _)

end OpenJax.Sandbox
