import OpenJax.Shared.Json
import OpenJax.Protocol.Event

set_option autoImplicit false

namespace OpenJax.Gateway

open Shared Protocol

structure CoreEventMapping where
  coreTurnId : Option Nat
  eventType : String
  payload : Json
  streamSource : Option String

inductive MapResult where
  | mapped (mapping : CoreEventMapping)
  | ignoredInternal
  | unmapped (variant : String)

def streamSourceWire : StreamSource → String
  | .modelLive => "model_live"
  | .synthetic => "synthetic"
  | .replay => "replay"
  | .unknown => "unknown"

def encodeStreamSource (source : StreamSource) : Json := .str (streamSourceWire source)

def encodeApprovalKind : ApprovalKind → Json
  | .normal => .str "normal"
  | .escalation => .str "escalation"

def encodeShellMetadata (metadata : ShellExecutionMetadata) : Json :=
  .obj [("result_class", .str metadata.resultClass), ("backend", .str metadata.backend),
    ("exit_code", .int metadata.exitCode), ("policy_decision", .str metadata.policyDecision),
    ("runtime_allowed", .bool metadata.runtimeAllowed),
    ("degrade_reason", .ofOption .str metadata.degradeReason),
    ("runtime_deny_reason", .ofOption .str metadata.runtimeDenyReason)]

def encodeToolCallProposal (proposal : ToolCallProposal) : Json :=
  .obj [("tool_call_id", .str proposal.toolCallId), ("tool_name", .str proposal.toolName),
    ("arguments", .obj (proposal.arguments.map fun (name, value) => (name, .str value))),
    ("depends_on", .strings proposal.dependsOn),
    ("concurrency_group", .ofOption .str proposal.concurrencyGroup)]

def toolEvent (turnId : Nat) (eventType toolCallId toolName : String)
    (fields : List (String × Json)) : CoreEventMapping :=
  ⟨some turnId, eventType,
    .obj ([("tool_call_id", .str toolCallId), ("tool_name", .str toolName)] ++ fields), none⟩

namespace Response

def map : Event → Option CoreEventMapping
  | .turnStarted turnId => some ⟨some turnId, "turn_started", .empty, none⟩
  | .responseStarted turnId source =>
      some ⟨some turnId, "response_started",
        .obj [("stream_source", encodeStreamSource source)], some (streamSourceWire source)⟩
  | .responseTextDelta turnId contentDelta source =>
      some ⟨some turnId, "response_text_delta",
        .obj [("content_delta", .str contentDelta), ("stream_source", encodeStreamSource source)],
        some (streamSourceWire source)⟩
  | .reasoningDelta turnId contentDelta source =>
      some ⟨some turnId, "reasoning_delta",
        .obj [("content_delta", .str contentDelta), ("stream_source", encodeStreamSource source)],
        some (streamSourceWire source)⟩
  | .responseResumed turnId source =>
      some ⟨some turnId, "response_resumed",
        .obj [("stream_source", encodeStreamSource source)], some (streamSourceWire source)⟩
  | .responseCompleted turnId content source =>
      some ⟨some turnId, "response_completed",
        .obj [("content", .str content), ("stream_source", encodeStreamSource source)],
        some (streamSourceWire source)⟩
  | .responseError turnId code message retryable =>
      some ⟨some turnId, "response_error",
        .obj [("code", .str code), ("message", .str message), ("retryable", .bool retryable)],
        none⟩
  | .turnCompleted turnId => some ⟨some turnId, "turn_completed", .empty, none⟩
  | _ => none

end Response

namespace Tool

def map : Event → Option CoreEventMapping
  | .toolCallsProposed turnId toolCalls =>
      some ⟨some turnId, "tool_calls_proposed",
        .obj [("tool_calls", .arr (toolCalls.map encodeToolCallProposal))], none⟩
  | .toolBatchCompleted turnId total succeeded failed =>
      some ⟨some turnId, "tool_batch_completed",
        .obj [("total", .int total), ("succeeded", .int succeeded), ("failed", .int failed)], none⟩
  | .toolCallStarted turnId toolCallId toolName target displayName =>
      some (toolEvent turnId "tool_call_started" toolCallId toolName
        [("target", .ofOption .str target), ("display_name", .ofOption .str displayName)])
  | .toolCallCompleted turnId toolCallId toolName ok output shellMetadata displayName =>
      some (toolEvent turnId "tool_call_completed" toolCallId toolName
        [("ok", .bool ok), ("output", .str output),
          ("shell_metadata", .ofOption encodeShellMetadata shellMetadata),
          ("display_name", .ofOption .str displayName)])
  | .toolCallArgsDelta turnId toolCallId toolName argsDelta displayName =>
      some (toolEvent turnId "tool_args_delta" toolCallId toolName
        [("args_delta", .str argsDelta), ("display_name", .ofOption .str displayName)])
  | .toolCallReady turnId toolCallId toolName displayName target =>
      some (toolEvent turnId "tool_call_ready" toolCallId toolName
        [("display_name", .ofOption .str displayName), ("target", .ofOption .str target)])
  | .toolCallProgress turnId toolCallId toolName progressMessage displayName =>
      some (toolEvent turnId "tool_call_progress" toolCallId toolName
        [("progress_message", .str progressMessage),
          ("display_name", .ofOption .str displayName)])
  | .toolCallFailed turnId toolCallId toolName code message retryable displayName =>
      some (toolEvent turnId "tool_call_failed" toolCallId toolName
        [("code", .str code), ("message", .str message), ("retryable", .bool retryable),
          ("display_name", .ofOption .str displayName)])
  | _ => none

end Tool

namespace Approval

def map : Event → Option CoreEventMapping
  | .approvalRequested turnId approvalId target reason policyVersion matchedRuleId toolName
      commandPreview riskTags sandboxBackend degradeReason approvalKind =>
      some ⟨some turnId, "approval_requested",
        .obj [("approval_id", .str approvalId), ("target", .str target), ("reason", .str reason),
          ("policy_version", .ofOption (fun version => .int version) policyVersion),
          ("matched_rule_id", .ofOption .str matchedRuleId),
          ("tool_name", .ofOption .str toolName),
          ("command_preview", .ofOption .str commandPreview),
          ("risk_tags", .strings riskTags),
          ("sandbox_backend", .ofOption .str sandboxBackend),
          ("degrade_reason", .ofOption .str degradeReason),
          ("approval_kind", .ofOption encodeApprovalKind approvalKind)], none⟩
  | .approvalResolved turnId approvalId approved =>
      some ⟨some turnId, "approval_resolved",
        .obj [("approval_id", .str approvalId), ("approved", .bool approved)], none⟩
  | _ => none

end Approval

def mapMisc : Event → Option CoreEventMapping
  | .shutdownComplete => some ⟨none, "session_shutdown", .empty, none⟩
  | .contextCompacted turnId compressedTurns retainedTurns summaryPreview =>
      some ⟨some turnId, "context_compacted",
        .obj [("compressed_turns", .int compressedTurns),
          ("retained_turns", .int retainedTurns), ("summary_preview", .str summaryPreview)], none⟩
  | .contextUsageUpdated turnId inputTokens contextWindowSize ratio =>
      some ⟨some turnId, "context_usage_updated",
        .obj [("input_tokens", .int inputTokens),
          ("context_window_size", .int contextWindowSize), ("ratio", .float ratio)], none⟩
  | _ => none

def eventVariantName : Event → String
  | .turnStarted .. => "turn_started"
  | .toolCallStarted .. => "tool_call_started"
  | .toolCallCompleted .. => "tool_call_completed"
  | .toolCallArgsDelta .. => "tool_call_args_delta"
  | .toolCallReady .. => "tool_call_ready"
  | .toolCallProgress .. => "tool_call_progress"
  | .toolCallFailed .. => "tool_call_failed"
  | .assistantMessage .. => "assistant_message"
  | .responseStarted .. => "response_started"
  | .responseTextDelta .. => "response_text_delta"
  | .reasoningDelta .. => "reasoning_delta"
  | .toolCallsProposed .. => "tool_calls_proposed"
  | .toolBatchCompleted .. => "tool_batch_completed"
  | .responseResumed .. => "response_resumed"
  | .responseCompleted .. => "response_completed"
  | .loopWarning .. => "loop_warning"
  | .responseError .. => "response_error"
  | .approvalRequested .. => "approval_requested"
  | .approvalResolved .. => "approval_resolved"
  | .contextUsageUpdated .. => "context_usage_updated"
  | .agentSpawned .. => "agent_spawned"
  | .agentStatusChanged .. => "agent_status_changed"
  | .contextCompacted .. => "context_compacted"
  | .turnCompleted .. => "turn_completed"
  | .shutdownComplete => "shutdown_complete"

def classifyUnmapped (event : Event) : MapResult :=
  match event with
  | .agentSpawned .. | .agentStatusChanged .. | .assistantMessage .. | .loopWarning .. =>
      .ignoredInternal
  | other => .unmapped (eventVariantName other)

def mapCoreEventPayloadResult (event : Event) : MapResult :=
  match Response.map event <|> Tool.map event <|> Approval.map event <|> mapMisc event with
  | some mapping => .mapped mapping
  | none => classifyUnmapped event

variable {mapping : CoreEventMapping}

theorem mapped_turn {event : Event} (mapped : mapCoreEventPayloadResult event = .mapped mapping) :
    mapping.coreTurnId = event.turnId? := by
  cases event <;> cases mapped <;> rfl

theorem mapped_turn_started {event : Event}
    (mapped : mapCoreEventPayloadResult event = .mapped mapping) :
    mapping.eventType = "turn_started" ↔ ∃ turnId, event = .turnStarted turnId := by
  cases event <;> cases mapped <;> simp [toolEvent]

theorem mapped_not_interrupted {event : Event}
    (mapped : mapCoreEventPayloadResult event = .mapped mapping) :
    mapping.eventType ≠ "turn_interrupted" := by
  cases event <;> cases mapped <;> simp [toolEvent]

end OpenJax.Gateway
