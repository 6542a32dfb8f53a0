import OpenJax.Tools.Orchestrator

set_option autoImplicit false

namespace OpenJax.Tools

open Shared Policy Protocol Sandbox

/-- The `Display` form of the error. -/
def FunctionCallError.text : FunctionCallError → String
  | .respondToModel message => message
  | .toolNotFound message => "Tool not found: " ++ message
  | .invalidPayload message => "Invalid payload for tool " ++ message
  | .approvalRejected message => "Approval rejected: " ++ message
  | .approvalTimedOut message => "Approval timed out: " ++ message
  | .internal message => "Internal error: " ++ message

namespace ApprovalOutcome

def refused : ApprovalOutcome → Bool
  | .answered approved => !approved
  | _ => false

def timesOut : ApprovalOutcome → Bool
  | .timedOut => true
  | .failed message => message == "approval timed out"
  | .answered _ => false

def closes (outcome : ApprovalOutcome) : Bool := outcome.refused || outcome.timesOut

def Reports : ApprovalOutcome → FunctionCallError → Prop
  | .answered true, _ => False
  | .answered false, error => ∃ message, error = .approvalRejected message
  | .timedOut, error => ∃ message, error = .approvalTimedOut message
  | .failed message, error => error = .internal message

theorem not_granted_of_closes {outcome : ApprovalOutcome} (closes : outcome.closes = true) :
    outcome ≠ .answered true := by
  rintro rfl
  cases closes

end ApprovalOutcome

theorem containsText_right (before : String) {text pattern : String}
    (inside : containsText text pattern = true) : containsText (before ++ text) pattern = true := by
  simp only [containsText, decide_eq_true_eq, String.toList_append] at inside ⊢
  exact inside.trans (List.suffix_append ..).isInfix

theorem containsText_left {text pattern : String} (after : String)
    (inside : containsText text pattern = true) : containsText (text ++ after) pattern = true := by
  simp only [containsText, decide_eq_true_eq, String.toList_append] at inside ⊢
  exact inside.trans (List.prefix_append ..).isInfix

theorem rejected_text (message : String) :
    containsText (FunctionCallError.approvalRejected message).text "Approval rejected" = true :=
  @containsText_left "Approval rejected: " _ message (by decide)

theorem timedOut_text (message : String) :
    containsText (FunctionCallError.approvalTimedOut message).text "Approval timed out" = true :=
  @containsText_left "Approval timed out: " _ message (by decide)

section Orchestrator

variable {Output : Type} {environment : ToolEnvironment Output} {orchestrator : ToolOrchestrator}
  {call : ToolCall}

theorem run_reports {outcome : ApprovalOutcome}
    (asked : (orchestrator.run environment call).2.approval = some outcome)
    (refused : outcome ≠ .answered true) :
    (orchestrator.run environment call).2.dispatched = false ∧
      ∃ error, (orchestrator.run environment call).2.result = .error error ∧
        outcome.Reports error := by
  revert asked
  unfold ToolOrchestrator.run
  dsimp only
  split
  · nofun
  · split
    · cases answer : call.approval with
      | answered approved =>
        cases approved with
        | false =>
          rintro ⟨⟩
          exact ⟨rfl, _, rfl, _, rfl⟩
        | true =>
          rintro ⟨⟩
          exact absurd rfl refused
      | failed message =>
        rintro ⟨⟩
        exact ⟨rfl, _, rfl, rfl⟩
      | timedOut =>
        rintro ⟨⟩
        exact ⟨rfl, _, rfl, _, rfl⟩
    · nofun

theorem run_acts_iff :
    (orchestrator.run environment call).2.approval.isSome ∨
        (orchestrator.run environment call).2.dispatched = true ↔
      decisionOf environment call ≠ .deny := by
  unfold ToolOrchestrator.run decisionOf
  dsimp only
  split
  next denied => simp [denied]
  next allowed =>
    split
    · cases call.approval with
      | answered approved => cases approved <;> simp [allowed]
      | failed message | timedOut => simp [allowed]
    · simp [allowed]

theorem run_dispatched (started : (orchestrator.run environment call).2.dispatched = true) :
    (orchestrator.run environment call).2.result = environment.dispatch call.invocation := by
  revert started
  unfold ToolOrchestrator.run
  dsimp only
  split
  · nofun
  · split
    · cases call.approval with
      | answered approved =>
        cases approved with
        | false => nofun
        | true => exact fun _ => rfl
      | failed message | timedOut => nofun
    · exact fun _ => rfl

end Orchestrator

end OpenJax.Tools
