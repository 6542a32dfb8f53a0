import OpenJax.Gateway.EventMapper

set_option autoImplicit false

namespace OpenJax.Stdio

open Shared Protocol Gateway

def protocolVersion : String := "v1"

def kindRequest : String := "request"

def kindResponse : String := "response"

def kindEvent : String := "event"

structure RequestEnvelope where
  protocolVersion : String
  kind : String
  requestId : String
  sessionId : Option String
  method : String
  params : Json

structure ErrorBody where
  code : String
  message : String
  retriable : Bool
  details : Json

structure ResponseEnvelope where
  protocolVersion : String
  kind : String
  requestId : String
  ok : Bool
  result : Option Json
  error : Option ErrorBody

structure EventEnvelope where
  protocolVersion : String
  kind : String
  sessionId : String
  turnId : Option String
  eventType : String
  payload : Json

def optionalStr : Option Json → Option (Option String)
  | none | some .null => some none
  | some (.str value) => some (some value)
  | some _ => none

def RequestEnvelope.fromValue : Json → Option RequestEnvelope
  | .obj fields => do
      let version ← (Json.obj fields).get? "protocol_version" >>= Json.asStr?
      let kind ← (Json.obj fields).get? "kind" >>= Json.asStr?
      let requestId ← (Json.obj fields).get? "request_id" >>= Json.asStr?
      let sessionId ← optionalStr ((Json.obj fields).get? "session_id")
      let method ← (Json.obj fields).get? "method" >>= Json.asStr?
      pure ⟨version, kind, requestId, sessionId, method,
        ((Json.obj fields).get? "params").getD .null⟩
  | .arr (version :: kind :: requestId :: sessionId :: method :: params) => do
      let version ← version.asStr?
      let kind ← kind.asStr?
      let requestId ← requestId.asStr?
      let sessionId ← optionalStr (some sessionId)
      let method ← method.asStr?
      match params with
      | [] => pure ⟨version, kind, requestId, sessionId, method, .null⟩
      | [params] => pure ⟨version, kind, requestId, sessionId, method, params⟩
      | _ => none
  | _ => none

def rawRequestId (raw : Json) : String := ((raw.get? "request_id").bind Json.asStr?).getD "unknown"

def okResponse (requestId : String) (result : Json) : ResponseEnvelope :=
  ⟨protocolVersion, kindResponse, requestId, true, some result, none⟩

def errorResponse (requestId code message : String) (details : Json) : ResponseEnvelope :=
  ⟨protocolVersion, kindResponse, requestId, false, none, some ⟨code, message, false, details⟩⟩

def acceptedResponse (requestId : String) (turnId : Nat) : ResponseEnvelope :=
  okResponse requestId (.obj [("turn_id", .str (toString turnId)), ("accepted", .bool true)])

def turnIdFromEvent : Event → Option Nat
  | .turnStarted turnId | .toolCallStarted turnId .. | .toolCallCompleted turnId ..
  | .toolCallArgsDelta turnId .. | .toolCallReady turnId .. | .toolCallProgress turnId ..
  | .toolCallFailed turnId .. | .assistantMessage turnId .. | .responseStarted turnId ..
  | .responseTextDelta turnId .. | .reasoningDelta turnId .. | .responseCompleted turnId ..
  | .responseError turnId .. | .responseResumed turnId .. | .toolCallsProposed turnId ..
  | .toolBatchCompleted turnId .. | .approvalRequested turnId .. | .approvalResolved turnId ..
  | .turnCompleted turnId => some turnId
  | .agentSpawned .. | .agentStatusChanged .. | .contextUsageUpdated .. | .contextCompacted ..
  | .loopWarning .. | .shutdownComplete => none

def firstTurnId (events : List Event) : Option Nat := events.findSome? turnIdFromEvent

def turnEvent (sessionId : String) (turnId : Nat) (eventType : String)
    (fields : List (String × Json)) : Option EventEnvelope :=
  some ⟨protocolVersion, kindEvent, sessionId, some (toString turnId), eventType, .obj fields⟩

def mapEvent (sessionId : String) : Event → Option EventEnvelope
  | .turnStarted turnId => turnEvent sessionId turnId "turn_started" []
  | .toolCallStarted turnId toolCallId toolName target displayName =>
      turnEvent sessionId turnId "tool_call_started"
        [("tool_call_id", .str toolCallId), ("tool_name", .str toolName),
          ("target", .ofOption .str target), ("display_name", .ofOption .str displayName)]
  | .toolCallCompleted turnId toolCallId toolName ok output shellMetadata displayName =>
      turnEvent sessionId turnId "tool_call_completed"
        [("tool_call_id", .str toolCallId), ("tool_name", .str toolName), ("ok", .bool ok),
          ("output", .str output),
          ("shell_metadata", .ofOption encodeShellMetadata shellMetadata),
          ("display_name", .ofOption .str displayName)]
  | .toolCallArgsDelta turnId _ toolName argsDelta _ =>
      turnEvent sessionId turnId "tool_args_delta"
        [("tool_name", .str toolName), ("args_delta", .str argsDelta)]
  | .toolCallProgress turnId _ toolName progressMessage _ =>
      turnEvent sessionId turnId "tool_call_progress"
        [("tool_name", .str toolName), ("progress_message", .str progressMessage)]
  | .toolCallReady turnId _ toolName _ _ =>
      turnEvent sessionId turnId "tool_call_ready" [("tool_name", .str toolName)]
  | .toolCallFailed turnId _ toolName code message retryable _ =>
      turnEvent sessionId turnId "tool_call_failed"
        [("tool_name", .str toolName), ("code", .str code), ("message", .str message),
          ("retryable", .bool retryable)]
  | .assistantMessage turnId content =>
      turnEvent sessionId turnId "assistant_message" [("content", .str content)]
  | .responseStarted turnId source =>
      turnEvent sessionId turnId "response_started"
        [("stream_source", encodeStreamSource source)]
  | .responseTextDelta turnId contentDelta source =>
      turnEvent sessionId turnId "response_text_delta"
        [("content_delta", .str contentDelta), ("stream_source", encodeStreamSource source)]
  | .reasoningDelta turnId contentDelta source =>
      turnEvent sessionId turnId "reasoning_delta"
        [("content_delta", .str contentDelta), ("stream_source", encodeStreamSource source)]
  | .responseCompleted turnId content source =>
      turnEvent sessionId turnId "response_completed"
        [("content", .str content), ("stream_source", encodeStreamSource source)]
  | .responseError turnId code message retryable =>
      turnEvent sessionId turnId "response_error"
        [("code", .str code), ("message", .str message), ("retryable", .bool retryable)]
  | .responseResumed turnId source =>
      turnEvent sessionId turnId "response_resumed"
        [("stream_source", encodeStreamSource source)]
  | .toolCallsProposed turnId toolCalls =>
      turnEvent sessionId turnId "tool_calls_proposed"
        [("tool_calls", .arr (toolCalls.map encodeToolCallProposal))]
  | .toolBatchCompleted turnId total succeeded failed =>
      turnEvent sessionId turnId "tool_batch_completed"
        [("total", .int total), ("succeeded", .int succeeded), ("failed", .int failed)]
  | .approvalRequested turnId requestId target reason policyVersion matchedRuleId toolName
      commandPreview riskTags sandboxBackend degradeReason approvalKind =>
      turnEvent sessionId turnId "approval_requested"
        [("request_id", .str requestId), ("target", .str target), ("reason", .str reason),
          ("tool_name", .ofOption .str toolName),
          ("command_preview", .ofOption .str commandPreview),
          ("risk_tags", .strings riskTags),
          ("sandbox_backend", .ofOption .str sandboxBackend),
          ("degrade_reason", .ofOption .str degradeReason),
          ("policy_version", .ofOption (fun version => .int version) policyVersion),
          ("matched_rule_id", .ofOption .str matchedRuleId),
          ("approval_kind", .ofOption encodeApprovalKind approvalKind)]
  | .approvalResolved turnId requestId approved =>
      turnEvent sessionId turnId "approval_resolved"
        [("request_id", .str requestId), ("approved", .bool approved)]
  | .turnCompleted turnId => turnEvent sessionId turnId "turn_completed" []
  | .shutdownComplete =>
      some ⟨protocolVersion, kindEvent, sessionId, none, "session_shutdown_complete", .empty⟩
  | .agentSpawned .. | .agentStatusChanged .. | .contextUsageUpdated .. | .contextCompacted ..
  | .loopWarning .. => none

def mapLiveEvent (sessionId : String) (event : Event) : Option EventEnvelope :=
  match mapEvent sessionId event with
  | none => none
  | some envelope => if envelope.eventType = "assistant_message" then none else some envelope

theorem turnId_of_mapped {sessionId : String} {event : Event} {envelope : EventEnvelope}
    (mapped : mapEvent sessionId event = some envelope) (named : envelope.turnId.isSome) :
    (turnIdFromEvent event).isSome := by
  cases event <;> cases mapped <;> first | rfl | cases named

theorem mapEvent_of_live {sessionId : String} {event : Event} {envelope : EventEnvelope}
    (live : mapLiveEvent sessionId event = some envelope) :
    mapEvent sessionId event = some envelope := by
  unfold mapLiveEvent at live
  split at live
  · cases live
  · next mapped =>
    split at live
    · cases live
    · rw [mapped, live]

end OpenJax.Stdio
