import OpenJax.Web.Segments

set_option autoImplicit false

namespace OpenJax.Web

open Shared

section

inductive TimelineItemType where
  | userText | assistantText | reasoningBlock | toolStep | errorText
  deriving DecidableEq

inductive TimelinePayload where
  | toolStep (step : ToolStep) (message : ChatMessage)
  | reasoningBlock (block : ReasoningBlock) (message : ChatMessage) (sequenceNumber : Nat)
  | assistantText (message : ChatMessage)
  | userText (message : ChatMessage)
  | errorText (message : ChatMessage)

def TimelinePayload.type : TimelinePayload → TimelineItemType
  | .toolStep .. => .toolStep
  | .reasoningBlock .. => .reasoningBlock
  | .assistantText _ => .assistantText
  | .userText _ => .userText
  | .errorText _ => .errorText

structure TimelineItem where
  -- The parts of the text `type:message.id:part`.
  id : TimelineItemType × MessageId × Option String
  turnId : Option String
  eventSeqStart : Nat
  eventSeqEnd : Nat
  timestamp : String
  stableIndex : Nat := 0
  payload : TimelinePayload

def TimelineItem.type (item : TimelineItem) : TimelineItemType := item.payload.type

/-- `Number.MAX_SAFE_INTEGER` -/
def FALLBACK_EVENT_SEQ : Nat := 9007199254740991

def toolStepItem (message : ChatMessage) (step : ToolStep) : TimelineItem :=
  let eventSeqStart := (step.startEventSeq.or message.startEventSeq).getD FALLBACK_EVENT_SEQ
  { id := (.toolStep, message.id, some step.id)
    turnId := message.turnId
    eventSeqStart := eventSeqStart
    eventSeqEnd := (step.endEventSeq.or step.lastEventSeq).getD eventSeqStart
    timestamp := (truthy step.time).getD message.timestamp
    payload := .toolStep step message }

def reasoningBlockItem (message : ChatMessage) (index : Nat) (block : ReasoningBlock) :
    TimelineItem :=
  let eventSeqStart := (block.startEventSeq.or message.startEventSeq).getD FALLBACK_EVENT_SEQ
  { id := (.reasoningBlock, message.id, some block.blockId)
    turnId := message.turnId
    eventSeqStart := eventSeqStart
    eventSeqEnd := (block.endEventSeq.or block.lastEventSeq).getD eventSeqStart
    timestamp := (truthy (some block.startedAt)).getD message.timestamp
    payload := .reasoningBlock block message (index + 1) }

def assistantTextItem (message : ChatMessage) : TimelineItem :=
  let eventSeqStart :=
    ((message.textStartEventSeq.or message.startEventSeq).or message.lastEventSeq).getD
      FALLBACK_EVENT_SEQ
  { id := (.assistantText, message.id, none)
    turnId := message.turnId
    eventSeqStart := eventSeqStart
    eventSeqEnd :=
      ((message.textEndEventSeq.or message.textLastEventSeq).or message.lastEventSeq).getD
        eventSeqStart
    timestamp := message.timestamp
    payload := .assistantText message }

def plainTextItem (type : TimelineItemType) (payload : TimelinePayload) (message : ChatMessage) :
    TimelineItem :=
  let eventSeqStart := (message.startEventSeq.or message.lastEventSeq).getD FALLBACK_EVENT_SEQ
  { id := (type, message.id, none)
    turnId := message.turnId
    eventSeqStart := eventSeqStart
    eventSeqEnd := message.lastEventSeq.getD eventSeqStart
    timestamp := message.timestamp
    payload := payload }

def userTextItem (message : ChatMessage) : TimelineItem :=
  plainTextItem .userText (.userText message) message

def errorTextItem (message : ChatMessage) : TimelineItem :=
  plainTextItem .errorText (.errorText message) message

def messageItems (message : ChatMessage) : List TimelineItem :=
  if message.kind = .toolSteps then (message.toolSteps.getD []).map (toolStepItem message)
  else
    match message.role with
    | .assistant =>
        (message.reasoningBlocks.getD []).mapIdx (reasoningBlockItem message) ++
          if message.content ≠ "" || message.isDraft then [assistantTextItem message] else []
    | .user => [userTextItem message]
    | .error => [errorTextItem message]
    | .tool | .system => []

variable (host : Host)

def parseTimestampToMs (timestamp : String) : Int :=
  (host.parseDate timestamp).getD FALLBACK_EVENT_SEQ

def compareTimelineItem (left right : TimelineItem) : Int :=
  if left.eventSeqStart ≠ right.eventSeqStart then
    (left.eventSeqStart : Int) - right.eventSeqStart
  else if left.eventSeqEnd ≠ right.eventSeqEnd then (left.eventSeqEnd : Int) - right.eventSeqEnd
  else if parseTimestampToMs host left.timestamp ≠ parseTimestampToMs host right.timestamp then
    parseTimestampToMs host left.timestamp - parseTimestampToMs host right.timestamp
  else (left.stableIndex : Int) - right.stableIndex

def notAfter (left right : TimelineItem) : Bool := compareTimelineItem host left right ≤ 0

def placed (index : Nat) (item : TimelineItem) : TimelineItem := { item with stableIndex := index }

def buildTimeline (messages : List ChatMessage) : List TimelineItem :=
  ((messages.flatMap messageItems).mapIdx placed).mergeSort (notAfter host)

section

variable {host}

theorem notAfter_iff {left right : TimelineItem} :
    notAfter host left right ↔
      left.eventSeqStart < right.eventSeqStart ∨ left.eventSeqStart = right.eventSeqStart ∧
        (left.eventSeqEnd < right.eventSeqEnd ∨ left.eventSeqEnd = right.eventSeqEnd ∧
          (parseTimestampToMs host left.timestamp < parseTimestampToMs host right.timestamp ∨
            parseTimestampToMs host left.timestamp = parseTimestampToMs host right.timestamp ∧
              left.stableIndex ≤ right.stableIndex)) := by
  rw [notAfter, decide_eq_true_eq, compareTimelineItem]
  split_ifs <;> omega

theorem notAfter_trans (first second third : TimelineItem) (before : notAfter host first second)
    (after : notAfter host second third) : notAfter host first third := by
  rw [notAfter_iff] at before after ⊢
  omega

theorem notAfter_total (first second : TimelineItem) :
    notAfter host first second || notAfter host second first := by
  rw [Bool.or_eq_true, notAfter_iff, notAfter_iff]
  omega

theorem notAfter_start {first second : TimelineItem} (before : notAfter host first second) :
    first.eventSeqStart ≤ second.eventSeqStart := by
  rw [notAfter_iff] at before
  omega

end

end

section

inductive Part where
  | text
  | block (index : Nat)
  | step (index : Nat)
  deriving DecidableEq

abbrev Spot := Nat × Part

def ChatMessage.start (message : ChatMessage) : Part → Option Nat
  | .text =>
      if message.kind = .toolSteps then none
      else if message.role = .assistant then message.textStartEventSeq
      else message.startEventSeq
  | .block index => ((message.reasoningBlocks.getD [])[index]?).bind ReasoningBlock.startEventSeq
  | .step index =>
      if message.kind = .toolSteps then
        ((message.toolSteps.getD [])[index]?).bind fun step =>
          step.startEventSeq.or message.startEventSeq
      else none

def startAt (messages : List ChatMessage) (spot : Spot) : Option Nat :=
  (messages[spot.1]?).bind fun message => message.start spot.2

def Opened (before after : List ChatMessage) (eventSeq : Nat) (spots : List Spot) : Prop :=
  ∀ spot, startAt after spot = (startAt before spot).or (if spot ∈ spots then some eventSeq else none)

section

variable {messages before middle after : List ChatMessage} {eventSeq : Nat}
  {first second : List Spot}

theorem Opened.same (messages : List ChatMessage) (eventSeq : Nat) :
    Opened messages messages eventSeq [] := by
  intro spot
  simp

theorem Opened.append (opened : Opened before middle eventSeq first)
    (then_opened : Opened middle after eventSeq second) :
    Opened before after eventSeq (first ++ second) := by
  intro spot
  rw [then_opened spot, opened spot, Option.or_assoc]
  congr 1
  by_cases early : spot ∈ first <;> simp [early]

variable {message : ChatMessage}

theorem Opened.push {part : Part}
    (starts : ∀ other, message.start other = if other = part then some eventSeq else none) :
    Opened messages (messages ++ [message]) eventSeq [(messages.length, part)] := by
  intro spot
  obtain ⟨place, other⟩ := spot
  rw [startAt, look_push, startAt]
  congr 1
  by_cases here : place = messages.length <;> simp [here, starts]

variable {change : ChatMessage → ChatMessage}

theorem Opened.map (same : ∀ message part, (change message).start part = message.start part) :
    Opened messages (messages.map change) eventSeq [] := by
  intro spot
  rw [startAt, startAt, List.getElem?_map]
  cases messages[spot.1]? with
  | none => simp
  | some message => simp [same]

theorem Opened.modify {place : Nat} {part : Part} (there : messages[place]? = some message)
    (starts : ∀ other, (change message).start other =
      (message.start other).or (if other = part then some eventSeq else none)) :
    Opened messages (messages.modify place change) eventSeq [(place, part)] := by
  intro spot
  obtain ⟨index, other⟩ := spot
  rw [startAt, look_modify there, startAt]
  by_cases here : index = place
  · subst here
    simp [there, starts]
  · simp [here]

theorem Opened.modify_same {place : Nat} (there : messages[place]? = some message)
    (same : ∀ other, (change message).start other = message.start other) :
    Opened messages (messages.modify place change) eventSeq [] := by
  intro spot
  obtain ⟨index, other⟩ := spot
  rw [startAt, look_modify there, startAt]
  by_cases here : index = place
  · subst here
    simp [there, same]
  · simp [here]

end

variable (host : Host)

def userWrites (messages : List ChatMessage) (event : StreamEvent) : List Spot :=
  [((messages.findIdx? fun message =>
      message.kind = .text && message.role = .user &&
        message.content = event.payload.text host "content" "" &&
        message.turnId = event.turnId).getD messages.length, .text)]

def blockTarget (blocks : List ReasoningBlock) (reasoningSegmentId : Option String) : Nat :=
  match truthy reasoningSegmentId with
  | some segment =>
      (blocks.findIdx? fun block => block.reasoningSegmentId = some segment).getD blocks.length
  | none => (findLastOpenReasoningBlockIndex blocks).getD blocks.length

def reasoningWrites (messages : List ChatMessage) (turnId delta : String)
    (reasoningSegmentId : Option String) : List Spot :=
  if delta = "" then []
  else
    match reasoningTarget messages turnId reasoningSegmentId with
    | none => [(messages.length, .block 0)]
    | some index =>
        let blocks := ((messages[index]?).bind ChatMessage.reasoningBlocks).getD []
        [(index, .block (blockTarget blocks reasoningSegmentId))]

def deltaWrites (messages : List ChatMessage) (turnId : String) (event : StreamEvent) : List Spot :=
  match findAssistantDraftIndex messages turnId (responseSegmentIdFromEvent event) with
  | some index =>
      if !isCanonicalDeltaEvent event && (messages[index]?).any ChatMessage.hasCanonicalDelta then []
      else [(index, .text)]
  | none => [(messages.length, .text)]

def completionWrites (messages : List ChatMessage) (turnId content : String)
    (event : StreamEvent) : List Spot :=
  let responseSegmentId := responseSegmentIdFromEvent event
  match findAssistantDraftIndex messages turnId responseSegmentId with
  | some index => [(index, .text)]
  | none =>
      match messages.findIdx? fun message =>
        isOfTurn turnId message && inSegment responseSegmentId message with
      | some index => [(index, .text)]
      | none => if content = "" then [] else [(messages.length, .text)]

def textWrites (messages : List ChatMessage) (event : StreamEvent) : List Spot :=
  match truthy event.turnId with
  | none => []
  | some turnId =>
      match event.type with
      | .reasoningDelta =>
          reasoningWrites messages turnId (deltaText host event)
            (event.payload.string "reasoning_segment_id")
      | .responseTextDelta => deltaWrites messages turnId event
      | .responseCompleted => completionWrites messages turnId (completedText host event) event
      | _ => []

def stepWrites (messages : List ChatMessage) (event : StreamEvent) : List Spot :=
  [((findToolStepMessageIndex host messages event).getD messages.length, .step 0)]

def writes (messages : List ChatMessage) (event : StreamEvent) : List Spot :=
  let told := if event.type = .userMessage then applyUserMessage host messages event else messages
  let closed := closeReasoningOn told event
  let written := applyTextEvent host closed event
  let stepped := if isToolStepEvent event then upsertToolStepMessage host written event else written
  (if event.type = .userMessage then userWrites host messages event else []) ++
    textWrites host closed event ++
    (if isToolStepEvent event then stepWrites host written event else []) ++
    if isErrorEvent event then [(stepped.length, .text)] else []

def firstWrite (messages : List ChatMessage) (spot : Spot) :
    List StreamEvent → Option StreamEvent
  | [] => none
  | event :: rest =>
      if spot ∈ writes host messages event then some event
      else firstWrite (applyMessages host messages event) spot rest

end

end OpenJax.Web
