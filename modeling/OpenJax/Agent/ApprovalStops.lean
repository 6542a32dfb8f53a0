import OpenJax.Agent.CallEffects
import OpenJax.Tools.Router

set_option autoImplicit false

namespace OpenJax.Agent

open Shared Protocol Policy Model Tools

structure NativeCall where
  use : ToolUse
  args : List (String × String)
  sessionId : Option String
  cwd : String
  -- The iteration order of the call's argument map.
  arrangement : List (String × String) → List (String × String)
  attempt : ToolAttempt

def ApprovalClosed (actions : List CallAction) : Prop :=
  ∃ outcome, .approval outcome ∈ actions ∧ outcome.closes = true

namespace Turn

variable (turn : Turn) (orchestrator : ToolOrchestrator) (call : NativeCall)

def nativeInvocation : ToolInvocation :=
  { toolName := call.use.name
    callId := call.use.id
    payload := .function (argsJson turn.formats call.args)
    turn :=
      { turnId := turn.turnId
        sessionId := call.sessionId
        cwd := call.cwd
        hasEventSink := true
        policyRuntime := none } }

def nativeRun : ExecuteRun :=
  (call.attempt.execute turn.formats.parseJson orchestrator (turn.nativeInvocation call)).2

def nativeAnswer : ToolAnswer :=
  { arrangement := call.arrangement
    liveEvents := (turn.nativeRun orchestrator call).events.attach.map fun event =>
      ⟨event.1, ToolAttempt.execute_prompts _ _ _ _ event.1 event.2⟩
    result := (turn.nativeRun orchestrator call).result }

def StopsBlocked (ended : TurnState × NativeToolExecOutcome) : Prop :=
  ended.2 = .aborted ∧ ∃ before message,
    ended.1.events = before ++ [turn.responseError "approval_blocked" message false]

end Turn

theorem containsText_toLower {text pattern lower : String}
    (lowered : pattern.toList.map Char.toLower = lower.toList)
    (inside : containsText text pattern = true) : containsText text.toLower lower = true := by
  simp only [containsText, decide_eq_true_eq] at inside ⊢
  have mapped : text.toLower.toList = text.toList.map Char.toLower := String.toList_map
  rw [mapped, ← lowered]
  exact inside.map Char.toLower

theorem blocking_of_closes {outcome : ApprovalOutcome} {error : FunctionCallError}
    (reports : outcome.Reports error) (closes : outcome.closes = true) :
    isApprovalBlockingError ("error: " ++ error.text) = true := by
  unfold isApprovalBlockingError
  dsimp only
  cases outcome with
  | answered approved =>
    cases approved with
    | true => cases closes
    | false =>
      obtain ⟨message, rfl⟩ := reports
      have rejected := @containsText_toLower _ _ "approval rejected" (by decide)
        (containsText_right "error: " (rejected_text message))
      rw [rejected, Bool.true_or]
  | timedOut =>
    obtain ⟨message, rfl⟩ := reports
    have timedOut := @containsText_toLower _ _ "approval timed out" (by decide)
      (containsText_right "error: " (timedOut_text message))
    rw [timedOut, Bool.or_true]
  | failed message =>
    have own : message = "approval timed out" := by
      simpa [ApprovalOutcome.closes, ApprovalOutcome.refused, ApprovalOutcome.timesOut] using closes
    rw [ApprovalOutcome.Reports, own] at reports
    rw [reports]
    decide +kernel

namespace Turn

theorem failCall_blocked (turn : Turn) (state : TurnState) (use : ToolUse)
    (args : List (String × String)) {errorText : String}
    (blocking : isApprovalBlockingError errorText = true) :
    turn.StopsBlocked (turn.failCall state use args errorText) := by
  unfold failCall
  dsimp only
  rw [if_pos blocking]
  exact ⟨rfl, _, _, rfl⟩

theorem failCall_returned (turn : Turn) (state : TurnState) (use : ToolUse)
    (args : List (String × String)) {errorText : String}
    (other : isApprovalBlockingError errorText = false) :
    (turn.failCall state use args errorText).2 = .result errorText false := by
  unfold failCall
  dsimp only
  rw [if_neg (by simp [other])]

/-- A call that ends with an error stops the turn as blocked when an approval of the call was
refused or timed out and is returned to the model otherwise, exactly when the text of an error
with another cause does not name a rejected or timed out approval. -/
theorem native_call_blocks_iff (turn : Turn) (state : TurnState)
    (orchestrator : ToolOrchestrator) (call : NativeCall) {errorText : String}
    (failed : (turn.nativeRun orchestrator call).result = .error errorText) :
    (ApprovalClosed (turn.nativeRun orchestrator call).actions →
        turn.StopsBlocked (turn.executeNativeToolCallBody state call.use call.args
          (turn.nativeAnswer orchestrator call))) ∧
      (¬ ApprovalClosed (turn.nativeRun orchestrator call).actions →
        (turn.executeNativeToolCallBody state call.use call.args
          (turn.nativeAnswer orchestrator call)).2 = .result errorText false) ↔
    ApprovalClosed (turn.nativeRun orchestrator call).actions ∨
      isApprovalBlockingError errorText = false := by
  obtain ⟨started, body⟩ : ∃ started, turn.executeNativeToolCallBody state call.use call.args
      (turn.nativeAnswer orchestrator call) =
        turn.failCall started call.use call.args errorText := by
    rw [executeNativeToolCallBody, nativeAnswer]
    dsimp only
    rw [failed]
    exact ⟨_, rfl⟩
  rw [body]
  by_cases closed : ApprovalClosed (turn.nativeRun orchestrator call).actions
  · obtain ⟨outcome, member, closes⟩ := closed
    obtain ⟨before, after, split⟩ := List.append_of_mem member
    have ⟨_, error, result, reports⟩ := ToolAttempt.execute_settled _ _ _ _ split
      (ApprovalOutcome.not_granted_of_closes closes)
    rw [nativeRun, result] at failed
    cases failed
    have blocking := blocking_of_closes reports closes
    have closed : ApprovalClosed (turn.nativeRun orchestrator call).actions :=
      ⟨outcome, member, closes⟩
    simp only [closed, true_or, iff_true, not_true_eq_false, false_implies, and_true, true_implies]
    exact failCall_blocked _ _ _ _ blocking
  · simp only [closed, false_implies, true_and, not_false_eq_true, true_implies, false_or]
    constructor
    next =>
      intro returned
      by_contra blocking
      have stopped := (failCall_blocked turn started call.use call.args
        (Bool.not_eq_false _ ▸ blocking)).1
      rw [returned] at stopped
      cases stopped
    next => exact fun other => failCall_returned _ _ _ _ other

def listingTurn : Turn :=
  { turnId := 1
    userInput := "list"
    maxToolCallsPerTurn := 2
    maxPlannerRoundsPerTurn := 10
    toolSpecs := []
    systemPrompt := "You are OpenJax."
    formats :=
      { jsonText := fun _ => "\x7b\x7d"
        parseJson := fun _ => none
        debugArgs := fun _ => "\x7b\x7d" } }

def deniedCall (reason : String) : NativeCall :=
  { use := ⟨"call_1", "list_dir", .obj []⟩
    args := []
    sessionId := none
    cwd := "/workspace"
    arrangement := id
    attempt :=
      { requestId := "request"
        approval := .answered true
        timeoutMs := 300000
        policyRuntime := some (.new (.new .ask
          [{ id := "user:list"
             decision := .deny
             priority := 10
             toolName := some "list_dir"
             action := none
             sessionId := none
             actor := none
             resource := none
             capabilitiesAll := []
             riskTagsAll := []
             reason := reason }]))
        handler := fun _ => .plain (.ok (.function "" none)) } }

theorem plain_denial_returned :
    (ApprovalClosed (listingTurn.nativeRun .new (deniedCall "no listings")).actions →
        listingTurn.StopsBlocked (listingTurn.executeNativeToolCallBody (listingTurn.start [] .new)
          (deniedCall "no listings").use (deniedCall "no listings").args
          (listingTurn.nativeAnswer .new (deniedCall "no listings")))) ∧
      (¬ ApprovalClosed (listingTurn.nativeRun .new (deniedCall "no listings")).actions →
        (listingTurn.executeNativeToolCallBody (listingTurn.start [] .new)
          (deniedCall "no listings").use (deniedCall "no listings").args
          (listingTurn.nativeAnswer .new (deniedCall "no listings"))).2 =
            .result "error: Internal error: no listings" false) :=
  (native_call_blocks_iff listingTurn (listingTurn.start [] .new) .new (deniedCall "no listings")
    (by rfl)).mpr (.inr (by decide +kernel))

/-- The reason of the rule names a rejected approval: the turn stops, although nobody was asked. -/
theorem denial_reason_stops_turn :
    ¬ ApprovalClosed
        (listingTurn.nativeRun .new (deniedCall "approval rejected by admin")).actions ∧
      listingTurn.StopsBlocked (listingTurn.executeNativeToolCallBody (listingTurn.start [] .new)
        (deniedCall "approval rejected by admin").use (deniedCall "approval rejected by admin").args
        (listingTurn.nativeAnswer .new (deniedCall "approval rejected by admin"))) := by
  have idle : (listingTurn.nativeRun .new (deniedCall "approval rejected by admin")).actions =
      [] := by
    decide +kernel
  have blocking : isApprovalBlockingError "error: Internal error: approval rejected by admin" =
      true := by
    decide +kernel
  refine ⟨?_, failCall_blocked listingTurn _ _ _ blocking⟩
  rintro ⟨outcome, member, -⟩
  rw [idle] at member
  cases member

end Turn

end OpenJax.Agent
