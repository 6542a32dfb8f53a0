set_option autoImplicit false

namespace OpenJax.Protocol

structure ThreadId where
  value : Nat
  deriving DecidableEq, Repr

inductive ApprovalKind where
  | normal
  | escalation
  deriving DecidableEq, Repr

inductive StreamSource where
  | modelLive
  | synthetic
  | replay
  | unknown
  deriving DecidableEq, Repr

structure ShellExecutionMetadata where
  resultClass : String
  backend : String
  exitCode : Int
  policyDecision : String
  runtimeAllowed : Bool
  degradeReason : Option String
  runtimeDenyReason : Option String
  deriving DecidableEq, Repr

structure ToolCallProposal where
  toolCallId : String
  toolName : String
  arguments : List (String × String)
  dependsOn : List String
  concurrencyGroup : Option String
  deriving DecidableEq, Repr

inductive AgentStatus where
  | pendingInit
  | running
  | completed (message : Option String)
  | errored (message : String)
  | interrupted
  | shutdown
  | notFound
  deriving DecidableEq, Repr

inductive Event where
  | turnStarted (turnId : Nat)
  | toolCallStarted (turnId : Nat) (toolCallId toolName : String)
      (target displayName : Option String)
  | toolCallCompleted (turnId : Nat) (toolCallId toolName : String) (ok : Bool)
      (output : String) (shellMetadata : Option ShellExecutionMetadata)
      (displayName : Option String)
  | toolCallArgsDelta (turnId : Nat) (toolCallId toolName argsDelta : String)
      (displayName : Option String)
  | toolCallReady (turnId : Nat) (toolCallId toolName : String)
      (displayName target : Option String)
  | toolCallProgress (turnId : Nat) (toolCallId toolName progressMessage : String)
      (displayName : Option String)
  | toolCallFailed (turnId : Nat) (toolCallId toolName code message : String)
      (retryable : Bool) (displayName : Option String)
  | assistantMessage (turnId : Nat) (content : String)
  | responseStarted (turnId : Nat) (streamSource : StreamSource)
  | responseTextDelta (turnId : Nat) (contentDelta : String) (streamSource : StreamSource)
  | reasoningDelta (turnId : Nat) (contentDelta : String) (streamSource : StreamSource)
  | toolCallsProposed (turnId : Nat) (toolCalls : List ToolCallProposal)
  | toolBatchCompleted (turnId total succeeded failed : Nat)
  | responseResumed (turnId : Nat) (streamSource : StreamSource)
  | responseCompleted (turnId : Nat) (content : String) (streamSource : StreamSource)
  | loopWarning (turnId : Nat) (toolName : String) (consecutiveCount : Nat)
  | responseError (turnId : Nat) (code message : String) (retryable : Bool)
  | approvalRequested (turnId : Nat) (requestId target reason : String)
      (policyVersion : Option Nat) (matchedRuleId toolName commandPreview : Option String)
      (riskTags : List String) (sandboxBackend degradeReason : Option String)
      (approvalKind : Option ApprovalKind)
  | approvalResolved (turnId : Nat) (requestId : String) (approved : Bool)
  -- The ratio is a double, kept as its bits.
  | contextUsageUpdated (turnId inputTokens contextWindowSize : Nat) (ratio : UInt64)
  | agentSpawned (parentThreadId : Option ThreadId) (newThreadId : ThreadId)
  | agentStatusChanged (threadId : ThreadId) (status : AgentStatus)
  | contextCompacted (turnId compressedTurns retainedTurns : Nat) (summaryPreview : String)
  | turnCompleted (turnId : Nat)
  | shutdownComplete
  deriving DecidableEq, Repr

def Event.turnId? : Event → Option Nat
  | .agentSpawned .. | .agentStatusChanged .. | .shutdownComplete => none
  | .turnStarted turnId | .turnCompleted turnId => some turnId
  | .toolCallStarted turnId .. | .toolCallCompleted turnId .. | .toolCallArgsDelta turnId ..
  | .toolCallReady turnId .. | .toolCallProgress turnId .. | .toolCallFailed turnId ..
  | .assistantMessage turnId .. | .responseStarted turnId .. | .responseTextDelta turnId ..
  | .reasoningDelta turnId .. | .toolCallsProposed turnId .. | .toolBatchCompleted turnId ..
  | .responseResumed turnId .. | .responseCompleted turnId .. | .loopWarning turnId ..
  | .responseError turnId .. | .approvalRequested turnId .. | .approvalResolved turnId ..
  | .contextUsageUpdated turnId .. | .contextCompacted turnId .. => some turnId

end OpenJax.Protocol
