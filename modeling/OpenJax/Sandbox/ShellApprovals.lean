import OpenJax.Agent.Planner
import OpenJax.Sandbox.Execution
import OpenJax.Tools.Refusals

set_option autoImplicit false

namespace OpenJax.Sandbox

open Shared Tools Policy Protocol Agent

def ShellAction.approval? : ShellAction → Option ApprovalOutcome
  | .approval outcome => some outcome
  | _ => none

/-- An approval that is not granted is the last thing that is done, and the error tells it. -/
def ShellRun.Settled {Result : Type} (run : ShellRun Result) : Prop :=
  ∀ before outcome after, run.actions = before ++ .approval outcome :: after →
    outcome ≠ .answered true →
    after = [] ∧ ∃ error, run.result = .error error ∧ outcome.Reports error

section Settled

variable {First Second Result : Type}

theorem ShellRun.settled_of_granted {run : ShellRun Result}
    (granted : ∀ outcome, .approval outcome ∈ run.actions → outcome = .answered true) :
    run.Settled := by
  intro before outcome after split refused
  have member : ShellAction.approval outcome ∈ run.actions := by
    rw [split]
    exact List.mem_append_right _ List.mem_cons_self
  exact absurd (granted outcome member) refused

theorem ShellRun.settled_of_reported {outcome : ApprovalOutcome} {events : List Event}
    {error : FunctionCallError} (reports : outcome.Reports error) :
    (ShellRun.mk [.approval outcome] events (.error error) : ShellRun Result).Settled := by
  intro before other after split _
  rcases List.singleton_eq_append_iff.mp split with ⟨-, rest⟩ | ⟨-, rest⟩
  · obtain ⟨same, rfl⟩ := List.cons.inj rest
    cases same
    exact ⟨rfl, error, rfl, reports⟩
  · cases rest

theorem ShellRun.Settled.andThen {run : ShellRun First} {next : First → ShellRun Second}
    (first : run.Settled) (second : ∀ value, (next value).Settled) :
    (run.andThen next).Settled := by
  intro before outcome after split refused
  unfold ShellRun.andThen at split ⊢
  cases result : run.result with
  | error error =>
    rw [result] at split
    have ⟨ended, found, same, reports⟩ := first before outcome after split refused
    rw [result] at same
    cases same
    exact ⟨ended, error, rfl, reports⟩
  | ok value =>
    rw [result] at split
    -- a refused approval of the first run would have failed it
    rcases List.append_eq_append_iff.mp split with ⟨middle, rfl, later⟩ | ⟨middle, kept, later⟩
    · exact second value middle outcome after later refused
    · cases middle with
      | nil => exact second value [] outcome after later.symm refused
      | cons action middle =>
        obtain ⟨rfl, -⟩ := List.cons.inj later
        have ⟨_, error, failed, _⟩ := first before outcome middle kept refused
        rw [result] at failed
        cases failed

variable (environment : SandboxEnvironment) (invocation : ToolInvocation)
  (request : SandboxExecutionRequest)

theorem degrade_settled (asks : Bool) (backend reason degradeReason rejection : String) :
    (degrade environment invocation request asks backend reason degradeReason
      rejection).Settled := by
  unfold degrade requestDegradeApproval
  cases asks with
  | false => exact ShellRun.settled_of_granted (by simp [ShellRun.andThen, ShellRun.pure])
  | true =>
    rw [if_pos rfl]
    dsimp only
    split
    · exact ShellRun.settled_of_granted (by simp [ShellRun.andThen, ShellRun.fail])
    · cases environment.approval with
      | answered approved =>
        cases approved with
        | true => exact ShellRun.settled_of_granted (by simp [ShellRun.andThen])
        | false => exact ShellRun.settled_of_reported ⟨_, rfl⟩
      | failed message => exact ShellRun.settled_of_reported rfl
      | timedOut => exact ShellRun.settled_of_reported ⟨_, rfl⟩

theorem afterBackend_settled (execution : Except BackendUnavailable SandboxExecutionResult) :
    (afterBackend environment invocation request execution).Settled := by
  unfold afterBackend
  cases execution with
  | ok result => exact ShellRun.settled_of_granted (by simp)
  | error unavailable =>
    dsimp only
    split
    · exact ShellRun.settled_of_granted (by simp)
    · exact degrade_settled _ _ _ _ _ _ _ _

theorem afterRuntime_settled (output : SandboxExecutionResult) :
    (afterRuntime environment invocation request output).Settled := by
  unfold afterRuntime
  dsimp only
  split
  · split
    · exact ShellRun.settled_of_granted (by simp)
    · exact degrade_settled _ _ _ _ _ _ _ _
  · exact ShellRun.settled_of_granted (by simp)

theorem executeShell_settled (sandboxPolicy : SandboxPolicy) (command : String)
    (timeoutMs : Nat) :
    (executeShell environment sandboxPolicy invocation command timeoutMs).Settled := by
  unfold executeShell
  dsimp only
  split
  · exact ShellRun.settled_of_granted (by simp)
  · exact ShellRun.settled_of_granted (by simp)
  · refine ShellRun.Settled.andThen (ShellRun.Settled.andThen ?_ fun _ => ShellRun.Settled.andThen
      (afterBackend_settled _ _ _ _) fun output => afterRuntime_settled _ _ _ output) fun output => ?_
    · apply ShellRun.settled_of_granted
      unfold executeInSandbox
      dsimp only
      split <;> simp
    · exact ShellRun.settled_of_granted (by simp)

def ShellRun.Prompts (run : ShellRun Result) : Prop :=
  ∀ event ∈ run.events, isApprovalEvent event = true

theorem ShellRun.Prompts.andThen {run : ShellRun First} {next : First → ShellRun Second}
    (first : run.Prompts) (second : ∀ value, (next value).Prompts) :
    (run.andThen next).Prompts := by
  unfold ShellRun.andThen
  split
  · exact first
  · intro event member
    rcases List.mem_append.mp member with early | late
    · exact first event early
    · exact second _ event late

theorem degrade_prompts (asks : Bool) (backend reason degradeReason rejection : String) :
    (degrade environment invocation request asks backend reason degradeReason
      rejection).Prompts := by
  unfold degrade
  refine ShellRun.Prompts.andThen ?_ fun approved => ?_
  · split
    · unfold requestDegradeApproval
      dsimp only
      split
      · simp [ShellRun.Prompts, ShellRun.fail]
      · cases environment.approval <;> cases invocation.turn.hasEventSink <;>
          simp [ShellRun.Prompts, isApprovalEvent]
    · simp [ShellRun.Prompts, ShellRun.pure]
  · cases approved <;> simp [ShellRun.Prompts, ShellRun.fail]

theorem executeShell_prompts (sandboxPolicy : SandboxPolicy) (command : String)
    (timeoutMs : Nat) :
    (executeShell environment sandboxPolicy invocation command timeoutMs).Prompts := by
  have quiet {Value : Type} (value : Value) : (ShellRun.pure value).Prompts := by
    simp [ShellRun.Prompts, ShellRun.pure]
  have failing {Value : Type} (error : FunctionCallError) :
      (ShellRun.fail error : ShellRun Value).Prompts := by
    simp [ShellRun.Prompts, ShellRun.fail]
  unfold executeShell
  dsimp only
  split
  · exact failing _
  · exact failing _
  · refine ShellRun.Prompts.andThen (ShellRun.Prompts.andThen ?_ fun _ =>
      ShellRun.Prompts.andThen ?_ fun output => ?_) fun output => quiet _
    · simp [ShellRun.Prompts]
    · unfold afterBackend
      split
      · exact quiet _
      · split
        · exact failing _
        · exact degrade_prompts _ _ _ _ _ _ _ _
    · unfold afterRuntime
      dsimp only
      split
      · split
        · exact failing _
        · exact degrade_prompts _ _ _ _ _ _ _ _
      · exact quiet _

/-- Nothing is done for a command after an approval that is not granted, the error tells which, and
no event tells of anything but approvals. -/
theorem executeShell_approvals (sandboxPolicy : SandboxPolicy) (command : String)
    (timeoutMs : Nat) :
    (executeShell environment sandboxPolicy invocation command timeoutMs).Settled ∧
      (executeShell environment sandboxPolicy invocation command timeoutMs).Prompts :=
  ⟨executeShell_settled environment invocation sandboxPolicy command timeoutMs,
    executeShell_prompts environment invocation sandboxPolicy command timeoutMs⟩

end Settled

end OpenJax.Sandbox
