import OpenJax.Web.Types
import OpenJax.Shared.InPlace

set_option autoImplicit false

namespace OpenJax.Web

open Shared

def shouldCloseReasoningOnEvent (event : StreamEvent) : Bool :=
  match event.type with
  | .responseTextDelta | .assistantMessage | .toolCallsProposed | .toolCallStarted | .toolCallReady
  | .toolCallCompleted | .approvalRequested | .approvalResolved | .error | .responseCompleted
  | .responseError | .turnCompleted | .turnInterrupted => true
  | _ => false

def isAssistantText (message : ChatMessage) : Bool :=
  message.kind = .text && message.role = .assistant

/-- `!segment || message.responseSegmentId === segment` -/
def inSegment (segment : Option String) (message : ChatMessage) : Bool :=
  segment.isNone || message.responseSegmentId = segment

def isOfTurn (turnId : String) (message : ChatMessage) : Bool :=
  message.turnId = some turnId && isAssistantText message

def findAssistantMessageIndex (messages : List ChatMessage) (turnId : String)
    (responseSegmentId : Option String) : Option Nat :=
  lastIndex (fun message => isOfTurn turnId message && inSegment responseSegmentId message) messages

def findAssistantDraftIndex (messages : List ChatMessage) (turnId : String)
    (responseSegmentId : Option String) : Option Nat :=
  let isDraft := fun message : ChatMessage =>
    isOfTurn turnId message && message.isDraft && inSegment responseSegmentId message
  match lastIndex isDraft messages with
  | some index => some index
  | none =>
      if responseSegmentId.isNone then none
      else
        lastIndex (fun message =>
          isOfTurn turnId message && message.responseSegmentId = responseSegmentId) messages

def findAssistantMessageIndexByReasoningSegment (messages : List ChatMessage) (turnId : String)
    (reasoningSegmentId : String) : Option Nat :=
  lastIndex (fun message => isOfTurn turnId message &&
    (message.reasoningBlocks.getD []).any fun block =>
      block.reasoningSegmentId = some reasoningSegmentId) messages

def findLastOpenReasoningBlockIndex (blocks : List ReasoningBlock) : Option Nat :=
  lastIndex (fun block => !block.closed) blocks

def isCanonicalDeltaEvent (event : StreamEvent) : Bool :=
  event.type = .responseTextDelta && (event.payload.lookup "stream_source").isSome

def buildAssistantDraftId (turnId : String) (responseSegmentId : Option String) : MessageId :=
  match responseSegmentId with
  | none => .named s!"assistant_draft_{turnId}"
  | some segment => .named s!"assistant_{turnId}_{segment}"

def buildReasoningBlockId (turnId : String) (eventSeq : Nat) (reasoningSegmentId : Option String) :
    String :=
  match truthy reasoningSegmentId with
  | none => s!"reasoning:{turnId}:{eventSeq}"
  | some segment => s!"reasoning:{turnId}:{segment}"

def responseSegmentIdFromEvent (event : StreamEvent) : Option String :=
  truthy (event.payload.string "response_segment_id")

structure ResponseStarted where
  session : ChatSession
  messageId : Option MessageId
  content : String

def applyResponseStartedSession (session : ChatSession) (event : StreamEvent) : ResponseStarted :=
  match truthy event.turnId with
  | none => ⟨session, none, ""⟩
  | some turnId =>
      let responseSegmentId := responseSegmentIdFromEvent event
      let existing := (findAssistantMessageIndex session.messages turnId responseSegmentId).bind
        fun index => (session.messages[index]?).map fun message => (index, message)
      let (messages, messageId, content) :=
        match existing with
        | some (index, message) =>
            (session.messages.modify index fun message =>
              { message with
                isDraft := true
                responseSegmentId := responseSegmentId.or message.responseSegmentId
                timestamp := event.timestamp
                startEventSeq := message.startEventSeq.or (some event.eventSeq)
                lastEventSeq := latest message.lastEventSeq event.eventSeq },
              message.id, message.content)
        | none =>
            let messageId := buildAssistantDraftId turnId responseSegmentId
            (session.messages ++ [
              { id := messageId, kind := .text, role := .assistant, content := ""
                timestamp := event.timestamp, startEventSeq := some event.eventSeq
                lastEventSeq := some event.eventSeq, turnId := some turnId
                responseSegmentId := responseSegmentId, isDraft := true }],
              messageId, "")
      { session :=
          { session with
            turnPhase := .streaming
            lastEventSeq := max session.lastEventSeq event.eventSeq
            messages := messages
            streaming := some ⟨some turnId, some messageId, content, event.eventSeq, true⟩ }
        messageId := some messageId
        content := content }

def applyResponseCompletedSession (session : ChatSession) (event : StreamEvent)
    (finalizedContent : String) : ChatSession :=
  match truthy event.turnId with
  | none => session
  | some turnId =>
      let responseSegmentId := responseSegmentIdFromEvent event
      let existing := (findAssistantMessageIndex session.messages turnId responseSegmentId).bind
        fun index => (session.messages[index]?).map fun message => (index, message)
      let (messages, messageId, nextContent) :=
        match existing with
        | some (index, message) =>
            -- A late `assistant_message` that is shorter does not replace a fuller body.
            let nextContent :=
              if event.type = .assistantMessage &&
                  textLength message.content > textLength finalizedContent then message.content
              else finalizedContent
            (session.messages.modify index fun message =>
              { message with
                content := nextContent
                isDraft := false
                responseSegmentId := responseSegmentId.or message.responseSegmentId
                timestamp := event.timestamp
                startEventSeq := message.startEventSeq.or (some event.eventSeq)
                lastEventSeq := latest message.lastEventSeq event.eventSeq
                textStartEventSeq := message.textStartEventSeq.or (some event.eventSeq)
                textLastEventSeq := latest message.textLastEventSeq event.eventSeq
                textEndEventSeq := latest message.textEndEventSeq event.eventSeq },
              message.id, nextContent)
        | none =>
            let messageId := buildAssistantDraftId turnId responseSegmentId
            (session.messages ++ [
              { id := messageId, kind := .text, role := .assistant, content := finalizedContent
                timestamp := event.timestamp, startEventSeq := some event.eventSeq
                lastEventSeq := some event.eventSeq, textStartEventSeq := some event.eventSeq
                textLastEventSeq := some event.eventSeq, textEndEventSeq := some event.eventSeq
                turnId := some turnId, responseSegmentId := responseSegmentId }],
              messageId, finalizedContent)
      { session with
        turnPhase := .completed
        lastEventSeq := max session.lastEventSeq event.eventSeq
        messages := messages
        streaming := some ⟨some turnId, some messageId, nextContent, event.eventSeq, false⟩ }

def mergeAssistantDraft (messages : List ChatMessage) (turnId delta timestamp : String)
    (isCanonicalDelta : Bool) (event : StreamEvent) : List ChatMessage :=
  let responseSegmentId := responseSegmentIdFromEvent event
  match findAssistantDraftIndex messages turnId responseSegmentId with
  | some index =>
      messages.modify index fun message =>
        if !isCanonicalDelta && message.hasCanonicalDelta then message
        else
          { message with
            content := message.content ++ delta
            hasCanonicalDelta := message.hasCanonicalDelta || isCanonicalDelta
            responseSegmentId := responseSegmentId.or message.responseSegmentId
            startEventSeq := message.startEventSeq.or (some event.eventSeq)
            lastEventSeq := latest message.lastEventSeq event.eventSeq
            textStartEventSeq := message.textStartEventSeq.or (some event.eventSeq)
            textLastEventSeq := latest message.textLastEventSeq event.eventSeq }
  | none =>
      messages ++ [
        { id := buildAssistantDraftId turnId responseSegmentId, kind := .text, role := .assistant
          content := delta, timestamp := timestamp, startEventSeq := some event.eventSeq
          lastEventSeq := some event.eventSeq, textStartEventSeq := some event.eventSeq
          textLastEventSeq := some event.eventSeq, turnId := some turnId
          responseSegmentId := responseSegmentId, isDraft := true
          hasCanonicalDelta := isCanonicalDelta }]

def openedBlock (turnId delta timestamp : String) (eventSeq : Nat)
    (reasoningSegmentId : Option String) : ReasoningBlock :=
  { blockId := buildReasoningBlockId turnId eventSeq reasoningSegmentId
    turnId := turnId, reasoningSegmentId := reasoningSegmentId, content := delta
    collapsed := true, startedAt := timestamp, closed := false
    startEventSeq := some eventSeq, lastEventSeq := some eventSeq }

def ReasoningBlock.append (block : ReasoningBlock) (delta : String) (eventSeq : Nat) :
    ReasoningBlock :=
  { block with
    content := block.content ++ delta
    closed := false
    endEventSeq := none
    endedAt := none
    lastEventSeq := latest block.lastEventSeq eventSeq }

def ReasoningBlock.close (block : ReasoningBlock) (eventSeq : Nat) (timestamp : String) :
    ReasoningBlock :=
  if block.closed then block
  else
    { block with
      closed := true
      endEventSeq := block.lastEventSeq.or (some eventSeq)
      endedAt := some timestamp }

def appendReasoningBlock (blocks : List ReasoningBlock) (turnId delta timestamp : String)
    (eventSeq : Nat) (reasoningSegmentId : Option String) : List ReasoningBlock :=
  match truthy reasoningSegmentId with
  | some segment =>
      match blocks.findIdx? fun block => block.reasoningSegmentId = some segment with
      | some index => blocks.modify index fun block => block.append delta eventSeq
      | none =>
          blocks.map (fun block => block.close eventSeq timestamp) ++
            [openedBlock turnId delta timestamp eventSeq reasoningSegmentId]
  | none =>
      match findLastOpenReasoningBlockIndex blocks with
      | some index => blocks.modify index fun block => block.append delta eventSeq
      | none => blocks ++ [openedBlock turnId delta timestamp eventSeq none]

def appendReasoningDelta (messages : List ChatMessage) (turnId delta timestamp : String)
    (eventSeq : Nat) (reasoningSegmentId : Option String) : List ChatMessage :=
  if delta = "" then messages
  else
    let byTurn := findAssistantMessageIndex messages turnId none
    let target :=
      match truthy reasoningSegmentId with
      | some segment =>
          (findAssistantMessageIndexByReasoningSegment messages turnId segment).or byTurn
      | none => byTurn
    match target with
    | none =>
        messages ++ [
          { id := .generated, kind := .text, role := .assistant, content := ""
            timestamp := timestamp, startEventSeq := some eventSeq, lastEventSeq := some eventSeq
            turnId := some turnId, isDraft := true
            reasoningBlocks :=
              some [openedBlock turnId delta timestamp eventSeq reasoningSegmentId] }]
    | some index =>
        messages.modify index fun message =>
          { message with
            timestamp := timestamp
            startEventSeq := message.startEventSeq.or (some eventSeq)
            lastEventSeq := latest message.lastEventSeq eventSeq
            reasoningBlocks :=
              some (appendReasoningBlock (message.reasoningBlocks.getD []) turnId delta timestamp
                eventSeq reasoningSegmentId) }

def closeOpenReasoningBlock (messages : List ChatMessage) (turnId : String) (eventSeq : Nat)
    (timestamp : String) : List ChatMessage :=
  messages.map fun message =>
    if isOfTurn turnId message then
      { message with
        reasoningBlocks := message.reasoningBlocks.map fun blocks =>
          blocks.map fun block => block.close eventSeq timestamp }
    else message

def closeOpenReasoningBlockInSession (session : ChatSession) (turnId : Option String)
    (eventSeq : Nat) (timestamp : String) : ChatSession :=
  match truthy turnId with
  | none => session
  | some turn =>
      { session with messages := closeOpenReasoningBlock session.messages turn eventSeq timestamp }

def ChatMessage.endText (message : ChatMessage) (eventSeq : Nat) : ChatMessage :=
  { message with
    textStartEventSeq := message.textStartEventSeq.or (some eventSeq)
    textLastEventSeq := latest message.textLastEventSeq eventSeq
    textEndEventSeq := latest message.textEndEventSeq eventSeq }

def finalizeAssistantMessageFallback (messages : List ChatMessage) (turnId content timestamp : String)
    (event : StreamEvent) : List ChatMessage :=
  match messages.findIdx? fun message => isOfTurn turnId message && message.isDraft with
  | some index => messages.modify index fun message => message.endText event.eventSeq
  | none =>
      match messages.findIdx? (isOfTurn turnId) with
      | some index => messages.modify index fun message => message.endText event.eventSeq
      | none =>
          if content = "" then messages
          else
            messages ++ [
              { id := .generated, kind := .text, role := .assistant, content := content
                timestamp := timestamp, startEventSeq := some event.eventSeq
                lastEventSeq := some event.eventSeq, textStartEventSeq := some event.eventSeq
                textLastEventSeq := some event.eventSeq, textEndEventSeq := some event.eventSeq
                turnId := some turnId, isDraft := true }]

def ChatMessage.seal (message : ChatMessage) (content timestamp : String)
    (responseSegmentId : Option String) (eventSeq : Nat) : ChatMessage :=
  { message.endText eventSeq with
    content := if content = "" then message.content else content
    isDraft := false
    responseSegmentId := responseSegmentId.or message.responseSegmentId
    timestamp := timestamp
    lastEventSeq := latest message.lastEventSeq eventSeq }

def sealAssistantMessage (messages : List ChatMessage) (turnId content timestamp : String)
    (event : StreamEvent) : List ChatMessage :=
  let responseSegmentId := responseSegmentIdFromEvent event
  let sealed := fun message : ChatMessage =>
    message.seal content timestamp responseSegmentId event.eventSeq
  match findAssistantDraftIndex messages turnId responseSegmentId with
  | some index => messages.modify index sealed
  | none =>
      match messages.findIdx? fun message =>
        isOfTurn turnId message && inSegment responseSegmentId message with
      | some index => messages.modify index sealed
      | none =>
          if content = "" then messages
          else
            messages ++ [
              { id := buildAssistantDraftId turnId responseSegmentId, kind := .text
                role := .assistant, content := content, timestamp := timestamp
                startEventSeq := some event.eventSeq, lastEventSeq := some event.eventSeq
                textStartEventSeq := some event.eventSeq, textLastEventSeq := some event.eventSeq
                textEndEventSeq := some event.eventSeq, turnId := some turnId
                responseSegmentId := responseSegmentId }]

def touchAssistantTextSeqInSession (session : ChatSession) (turnId : Option String)
    (eventSeq : Nat) (timestamp : String) : ChatSession :=
  match (truthy turnId).bind fun turn =>
    findAssistantMessageIndex session.messages turn none with
  | none => session
  | some index =>
      { session with
        messages := session.messages.modify index fun message =>
          { message with
            timestamp := timestamp
            textStartEventSeq := message.textStartEventSeq.or (some eventSeq)
            textLastEventSeq := latest message.textLastEventSeq eventSeq } }

def markTurnDraftFinal (messages : List ChatMessage) (turnId : Option String) : List ChatMessage :=
  match truthy turnId with
  | none => messages
  | some turn =>
      messages.map fun message =>
        if message.turnId = some turn && message.kind = .text && message.isDraft then
          { message with isDraft := false }
        else message

end OpenJax.Web
