import OpenJax.Web.Assistant
import OpenJax.Web.ToolSteps

set_option autoImplicit false

namespace OpenJax.Web

open Shared

/-- The live view takes such an event for the first one after a restart of the gateway. -/
def isSequenceResetEvent (event : StreamEvent) : Bool :=
  event.eventSeq = 1 || event.turnSeq = some 1 && event.type = .responseStarted

def looksLikeSequenceReset (session : ChatSession) (event : StreamEvent) : Bool :=
  0 < session.lastEventSeq &&
    (event.eventSeq = 1 ||
      event.turnSeq = some 1 && (event.type = .turnStarted || event.type = .responseStarted))

variable (host : Host)

def applyUserMessage (messages : List ChatMessage) (event : StreamEvent) : List ChatMessage :=
  let content := event.payload.text host "content" ""
  match messages.findIdx? fun message =>
    message.kind = .text && message.role = .user && message.content = content &&
      message.turnId = event.turnId with
  | some index =>
      messages.modify index fun message =>
        { message with
          timestamp := event.timestamp
          startEventSeq := message.startEventSeq.or (some event.eventSeq)
          lastEventSeq := latest message.lastEventSeq event.eventSeq
          turnId := event.turnId }
  | none =>
      messages ++ [
        { id := .generated, kind := .text, role := .user, content := content
          timestamp := event.timestamp, startEventSeq := some event.eventSeq
          lastEventSeq := some event.eventSeq, turnId := event.turnId }]

def interruptTurn (messages : List ChatMessage) (turnId : String) (event : StreamEvent) :
    List ChatMessage :=
  messages.map fun message =>
    if message.role = .assistant && message.turnId = some turnId then
      { message with
        isDraft := false
        interrupted := true
        lastEventSeq := latest message.lastEventSeq event.eventSeq }
    else message

def errorMessage (event : StreamEvent) : ChatMessage :=
  { id := .generated, kind := .text, role := .error
    content := event.payload.text host "message" "turn failed"
    startEventSeq := some event.eventSeq, lastEventSeq := some event.eventSeq
    turnId := event.turnId, timestamp := event.timestamp }

/-- What the event's own branches do with the messages, once it is accepted; all but the branches
of tools, of finality and of errors ask for a turn. -/
def applyTextEvent (messages : List ChatMessage) (event : StreamEvent) : List ChatMessage :=
  match truthy event.turnId with
  | none => messages
  | some turnId =>
      match event.type with
      | .reasoningDelta =>
          appendReasoningDelta messages turnId (event.payload.text host "content_delta" "")
            event.timestamp event.eventSeq (event.payload.string "reasoning_segment_id")
      | .responseTextDelta =>
          mergeAssistantDraft messages turnId (event.payload.text host "content_delta" "")
            event.timestamp (isCanonicalDeltaEvent event) event
      | .assistantMessage =>
          finalizeAssistantMessageFallback messages turnId (event.payload.text host "content" "")
            event.timestamp event
      | .responseCompleted =>
          sealAssistantMessage messages turnId (event.payload.text host "content" "")
            event.timestamp event
      | .turnInterrupted => interruptTurn messages turnId event
      | _ => messages

def closeReasoningOn (messages : List ChatMessage) (event : StreamEvent) : List ChatMessage :=
  match truthy event.turnId with
  | none => messages
  | some turnId =>
      if shouldCloseReasoningOnEvent event then
        closeOpenReasoningBlock messages turnId event.eventSeq event.timestamp
      else messages

def endsDrafts (event : StreamEvent) : Bool :=
  match event.type with
  | .turnCompleted | .responseCompleted | .turnInterrupted | .sessionShutdown => true
  | _ => false

def isErrorEvent (event : StreamEvent) : Bool :=
  event.type = .error || event.type = .responseError

def applyMessages (messages : List ChatMessage) (event : StreamEvent) : List ChatMessage :=
  let messages := if event.type = .userMessage then applyUserMessage host messages event
    else messages
  let messages := closeReasoningOn messages event
  let messages := applyTextEvent host messages event
  let messages := if isToolStepEvent event then upsertToolStepMessage host messages event
    else messages
  let messages := if endsDrafts event then markTurnDraftFinal messages event.turnId else messages
  if isErrorEvent event then messages ++ [errorMessage host event] else messages

def applyApprovals (approvals : List PendingApproval) (event : StreamEvent) :
    List PendingApproval :=
  match event.type with
  | .approvalRequested =>
      approvals ++ [
        { approvalId := event.payload.text host "approval_id" ""
          toolCallId := some (toolCallIdFromPayload host event)
          turnId := event.turnId
          target := some (event.payload.text host "target" "")
          reason := some (event.payload.text host "reason" "")
          toolName := some (event.payload.text host "tool_name" "") }]
  | .approvalResolved =>
      approvals.filter fun item => item.approvalId ≠ event.payload.text host "approval_id" ""
  | _ => approvals

def applyPhase (phase : TurnPhase) (event : StreamEvent) : TurnPhase :=
  match event.type with
  | .turnStarted | .responseStarted | .responseResumed => .streaming
  | .turnCompleted | .responseCompleted | .turnInterrupted => .completed
  | .sessionShutdown => if phase = .streaming then .completed else phase
  | .error | .responseError => .failed
  | _ => phase

def isDuplicate (session : ChatSession) (event : StreamEvent) : Bool :=
  event.eventSeq ≤ session.lastEventSeq && !looksLikeSequenceReset session event

def applySingleSessionEvent (session : ChatSession) (event : StreamEvent) : ChatSession :=
  if isDuplicate session event then session
  else
    { session with
      lastEventSeq := event.eventSeq
      messages := applyMessages host session.messages event
      pendingApprovals := applyApprovals host session.pendingApprovals event
      turnPhase := applyPhase session.turnPhase event
      contextUsage := if event.type = .contextUsageUpdated then some event else session.contextUsage
      connection := if event.type = .sessionShutdown then .closed else session.connection }

def applySessionEvents (session : ChatSession) (events : List StreamEvent) : ChatSession :=
  events.foldl (applySingleSessionEvent host) session

variable {session : ChatSession} {event : StreamEvent}

theorem applySingle_skipped (seen : event.eventSeq ≤ session.lastEventSeq)
    (ordinary : looksLikeSequenceReset session event = false) :
    applySingleSessionEvent host session event = session := by
  simp [applySingleSessionEvent, isDuplicate, seen, ordinary]

theorem applySingle_position
    (accepted : session.lastEventSeq < event.eventSeq ∨ looksLikeSequenceReset session event) :
    (applySingleSessionEvent host session event).lastEventSeq = event.eventSeq := by
  have applied : ¬isDuplicate session event = true := by
    simp only [isDuplicate, Bool.and_eq_true, decide_eq_true_eq, Bool.not_eq_true', not_and,
      Bool.not_eq_false]
    intro seen
    rcases accepted with later | restarts
    · omega
    · exact restarts
  rw [applySingleSessionEvent, if_neg applied]

end OpenJax.Web
