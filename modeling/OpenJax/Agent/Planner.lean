import OpenJax.Agent.Prompt
import OpenJax.Agent.ToolGuard
import OpenJax.Protocol.Event
import OpenJax.Shared.Machine

set_option autoImplicit false

namespace OpenJax.Agent

open Shared Protocol Model Tools

def displayNameFor (specs : List ToolSpec) (toolName : String) : Option String :=
  (specs.find? fun spec => spec.name == toolName).map ToolSpec.displayName

structure PlannerStream where
  events : List Event
  streamedText : String
  responseStarted : Bool
  orchestratorStarted : Bool
  toolNames : List (String × String)
  argsAccum : List (String × String)

namespace PlannerStream

def empty : PlannerStream := ⟨[], "", false, false, [], []⟩

def push (stream : PlannerStream) (event : Event) : PlannerStream :=
  { stream with events := stream.events ++ [event] }

def toolName (stream : PlannerStream) (id : String) : String :=
  (stream.toolNames.lookup id).getD ""

def insertEntry (key value : String) (entries : List (String × String)) : List (String × String) :=
  (key, value) :: entries.filter fun entry => entry.1 != key

def onTextDelta (turnId : Nat) (stream : PlannerStream) (delta : String) : PlannerStream :=
  if delta.isEmpty then stream
  else
    let started :=
      if stream.orchestratorStarted then stream
      else stream.push (.responseStarted turnId .modelLive)
    let shown := started.push (.responseTextDelta turnId delta .modelLive)
    { shown with
      orchestratorStarted := true
      streamedText := stream.streamedText ++ delta
      responseStarted := true }

def stringFields : Json → List (String × String)
  | .obj fields => fields.filterMap fun field => field.2.asStr?.map fun text => (field.1, text)
  | _ => []

def target (formats : TextFormats) (stream : PlannerStream) (id : String) : Option String :=
  match (stream.argsAccum.lookup id).bind formats.parseJson with
  | some (.obj fields) =>
      extractToolTargetHint (stream.toolName id) (stringFields (.obj fields))
  | _ => none

def onDelta (formats : TextFormats) (specs : List ToolSpec) (turnId : Nat)
    (stream : PlannerStream) : StreamDelta → PlannerStream
  | .text delta => onTextDelta turnId stream delta
  | .toolUseStart id name =>
      { stream.push (.toolCallStarted turnId id name none (displayNameFor specs name)) with
        toolNames := insertEntry id name stream.toolNames }
  | .toolArgsDelta id delta =>
      let name := stream.toolName id
      let grown := (stream.argsAccum.lookup id).getD "" ++ delta
      { stream.push (.toolCallArgsDelta turnId id name delta (displayNameFor specs name)) with
        argsAccum := insertEntry id grown stream.argsAccum }
  | .toolUseEnd id =>
      let name := stream.toolName id
      { stream.push (.toolCallReady turnId id name (displayNameFor specs name)
          (stream.target formats id)) with
        argsAccum := stream.argsAccum.filter fun entry => entry.1 != id }
  | .reasoning delta =>
      if delta.isEmpty then stream
      else stream.push (.reasoningDelta turnId delta .modelLive)

def consume (formats : TextFormats) (specs : List ToolSpec) (turnId : Nat)
    (deltas : List StreamDelta) : PlannerStream :=
  deltas.foldl (onDelta formats specs turnId) empty

end PlannerStream

def chunkChars (chunkLength : Nat) : List Char → List Char → List (List Char)
  | [], [] => []
  | chunk, [] => [chunk]
  | chunk, c :: rest =>
      let grown := chunk ++ [c]
      if chunkLength ≤ grown.length then grown :: chunkChars chunkLength [] rest
      else chunkChars chunkLength grown rest

def emitSyntheticResponseDeltas (turnId : Nat) (message : String) (chunkLength : Nat) :
    List Event :=
  (chunkChars chunkLength [] message.toList).map fun chunk =>
    .responseTextDelta turnId (String.ofList chunk) .synthetic

def syntheticAssistantDeltaChunkChars : Nat := 24

/-! One natural-language turn of an agent. The model client and the tools are outside: the turn
is a machine whose inputs are their answers, and between two inputs it runs as far as the code
does without waiting. -/

structure Turn where
  turnId : Nat
  userInput : String
  maxToolCallsPerTurn : Nat
  maxPlannerRoundsPerTurn : Nat
  toolSpecs : List ToolSpec
  systemPrompt : String
  formats : TextFormats

def isApprovalEvent : Event → Bool
  | .approvalRequested .. | .approvalResolved .. => true
  | _ => false

/-- Tools reach the event sink only through the approval prompts of the orchestrator. -/
structure LiveEvent where
  event : Event
  approval : isApprovalEvent event = true

structure ToolExecOutcome where
  modelContent : String
  displayOutput : String
  shellMetadata : Option ShellExecutionMetadata
  success : Bool

structure ToolAnswer where
  -- The iteration order of the call's argument map.
  arrangement : List (String × String) → List (String × String)
  liveEvents : List LiveEvent
  result : Except String ToolExecOutcome

structure ContextUsage where
  inputTokens : Nat
  contextWindowSize : Nat
  ratio : UInt64

structure ContextCompaction where
  compressedTurns : Nat
  retainedTurns : Nat
  summaryPreview : String

structure ModelAnswer where
  deltas : List StreamDelta
  result : Except String ModelResponse
  contextUsage : Option (ContextUsage × Option ContextCompaction)

structure ToolBatch where
  pending : List ToolUse
  results : List UserContentBlock
  executableCount : Nat
  droppedCount : Nat
  succeeded : Nat
  failed : Nat

inductive TurnPhase where
  | awaitingModel
  | running (batch : ToolBatch)
  | finished

structure TurnState where
  phase : TurnPhase
  messages : List ConversationMessage
  -- Every request handed to the model client, in order.
  requests : List ModelRequest
  events : List Event
  executedCount : Nat
  plannerRounds : Nat
  consecutiveDuplicateSkips : Nat
  recentToolCalls : List ToolCallRecord
  stateEpoch : Nat
  loopDetector : LoopDetector

def TurnState.push (state : TurnState) (events : List Event) : TurnState :=
  { state with events := state.events ++ events }

inductive NativeToolExecOutcome where
  | result (modelContent : String) (ok : Bool)
  | aborted
  deriving DecidableEq, Repr

def saturatingSucc (count : Nat) : Nat := min (count + 1) 0xFFFFFFFF

def ToolBatch.answer (batch : ToolBatch) (use : ToolUse) (rest : List ToolUse)
    (modelContent : String) (ok : Bool) : ToolBatch :=
  { batch with
    pending := rest
    results := batch.results ++ [.toolResult use.id modelContent (!ok)]
    succeeded := if ok then saturatingSucc batch.succeeded else batch.succeeded
    failed := if ok then batch.failed else saturatingSucc batch.failed }

namespace Turn

variable (turn : Turn)

def responseError (code message : String) (retryable : Bool) : Event :=
  .responseError turn.turnId code message retryable

def toolCallCompleted (use : ToolUse) (ok : Bool) (output : String)
    (shellMetadata : Option ShellExecutionMetadata) : Event :=
  .toolCallCompleted turn.turnId use.id use.name ok output shellMetadata
    (displayNameFor turn.toolSpecs use.name)

def toolCallFailed (use : ToolUse) (code message : String) (retryable : Bool) : Event :=
  .toolCallFailed turn.turnId use.id use.name code message retryable
    (displayNameFor turn.toolSpecs use.name)

def finish (state : TurnState) : TurnState :=
  { state.push [.turnCompleted turn.turnId] with phase := .finished }

def limitMessage (state : TurnState) : String :=
  if turn.maxToolCallsPerTurn ≤ state.executedCount then
    s!"已达到单回合最多 {turn.maxToolCallsPerTurn} 次工具调用限制，请继续下一轮。"
  else s!"已达到单回合最多 {turn.maxPlannerRoundsPerTurn} 次规划轮次限制，请继续下一轮。"

def request (messages : List ConversationMessage) : ModelRequest :=
  { stage := .planner
    messages := messages
    systemPrompt := some turn.systemPrompt
    tools := turn.toolSpecs
    options := {} }

def planRound (state : TurnState) : TurnState :=
  if state.executedCount < turn.maxToolCallsPerTurn ∧
      state.plannerRounds < turn.maxPlannerRoundsPerTurn then
    let messages := refreshLoopRecoveryInMessages state.messages turn.userInput
      state.loopDetector.recoveryPrompt
    { state with
      phase := .awaitingModel
      messages := messages
      plannerRounds := state.plannerRounds + 1
      requests := state.requests ++ [turn.request messages] }
  else
    turn.finish
      (state.push [turn.responseError "turn_limit_reached" (turn.limitMessage state) true])

def start (history : List HistoryItem) (loopDetector : LoopDetector) : TurnState :=
  let detector := loopDetector.reset
  turn.planRound
    { phase := .awaitingModel
      messages := buildTurnMessages turn.userInput history detector.recoveryPrompt
      requests := []
      events := [.turnStarted turn.turnId]
      executedCount := 0
      plannerRounds := 0
      consecutiveDuplicateSkips := 0
      recentToolCalls := []
      stateEpoch := 0
      loopDetector := detector }

def contextEvents : Option (ContextUsage × Option ContextCompaction) → List Event
  | none => []
  | some (usage, compaction) =>
      .contextUsageUpdated turn.turnId usage.inputTokens usage.contextWindowSize usage.ratio ::
        (compaction.map fun done =>
          Event.contextCompacted turn.turnId done.compressedTurns done.retainedTurns
            done.summaryPreview).toList

def finalEvents (stream : PlannerStream) (response : ModelResponse) : List Event :=
  let seedMessage := response.text
  if stream.responseStarted then
    let content := if stream.streamedText.isEmpty then seedMessage else stream.streamedText
    [.responseCompleted turn.turnId content .modelLive]
  else
    [.responseStarted turn.turnId .synthetic] ++
      emitSyntheticResponseDeltas turn.turnId seedMessage syntheticAssistantDeltaChunkChars ++
      [.responseCompleted turn.turnId seedMessage .synthetic]

def proposal (use : ToolUse) : ToolCallProposal :=
  { toolCallId := use.id
    toolName := use.name
    arguments := toolInputToArgs turn.formats use.input
    dependsOn := []
    concurrencyGroup := none }

def droppedMessage : String :=
  s!"tool call skipped because the turn only allows {turn.maxToolCallsPerTurn} tool calls"

def droppedEvents (use : ToolUse) : List Event :=
  [turn.toolCallFailed use "tool_call_budget_exhausted" turn.droppedMessage true,
    turn.toolCallCompleted use false turn.droppedMessage none]

def executableCount (state : TurnState) (uses : List ToolUse) : Nat :=
  min uses.length (turn.maxToolCallsPerTurn - state.executedCount)

def beginBatch (state : TurnState) (uses : List ToolUse) : TurnState :=
  let executable := turn.executableCount state uses
  let dropped := uses.drop executable
  { state.push (.toolCallsProposed turn.turnId (uses.map turn.proposal) ::
      dropped.flatMap turn.droppedEvents) with
    phase := .running
      { pending := uses.take executable
        results := []
        executableCount := executable
        droppedCount := dropped.length
        succeeded := 0
        failed := min dropped.length 0xFFFFFFFF } }

def answerModel (state : TurnState) (answer : ModelAnswer) : TurnState :=
  let stream :=
    PlannerStream.consume turn.formats turn.toolSpecs turn.turnId answer.deltas
  let streamed := state.push stream.events
  match answer.result with
  | .error message =>
      turn.finish (streamed.push
        [turn.responseError "model_request_failed" s!"[model error] {message}" true])
  | .ok response =>
      let checked := streamed.push (turn.contextEvents answer.contextUsage)
      let answered :=
        { checked with
          messages := checked.messages ++ [.assistant response.assistantHistoryBlocks] }
      if response.hasToolUse then turn.beginBatch answered response.toolUses
      else turn.finish (answered.push (turn.finalEvents stream response))

def guardDuplicateNativeToolCall (state : TurnState) (toolName : String)
    (args : List (String × String)) : Option (TurnState × NativeToolExecOutcome) :=
  if isDuplicateToolCall state.recentToolCalls state.stateEpoch toolName
      (stableArgsJson turn.formats args) then
    let message := duplicateToolCallWarning turn.formats toolName args
    let skips := state.consecutiveDuplicateSkips + 1
    let skipped :=
      { state.push [turn.responseError "duplicate_tool_call_skipped" message true] with
        consecutiveDuplicateSkips := skips }
    if shouldAbortOnConsecutiveDuplicateSkips skips maxConsecutiveDuplicateSkips then
      some (skipped.push [turn.responseError "duplicate_tool_call_loop_abort"
        (duplicateSkipAbortMessage maxConsecutiveDuplicateSkips) true], .aborted)
    else some (skipped, .result message false)
  else none

def record (state : TurnState) (use : ToolUse) (args : List (String × String)) (ok : Bool)
    (output : String) : TurnState :=
  { state with
    recentToolCalls := recordToolCall state.recentToolCalls
      { key := ⟨use.name, stableArgsJson turn.formats args⟩
        ok := ok
        epoch := state.stateEpoch
        output := output } }

def countCall (state : TurnState) : TurnState :=
  { state with executedCount := state.executedCount + 1, consecutiveDuplicateSkips := 0 }

def concludeCall (state : TurnState) (use : ToolUse) (args : List (String × String))
    (outcome : ToolExecOutcome) : TurnState × NativeToolExecOutcome :=
  let bumped :=
    if isMutatingTool use.name then { state with stateEpoch := state.stateEpoch + 1 } else state
  let (signal, detector) :=
    bumped.loopDetector.checkAndAdvance use.name (argsJson turn.formats args)
  let advanced := { bumped with loopDetector := detector }
  match signal with
  | .halt =>
      (advanced.push [turn.responseError "loop_halt" "检测到持续重复调用，已强制终止本回合。" true],
        .aborted)
  | signal =>
      let warning :=
        if signal = .warned then
          [Event.loopWarning turn.turnId use.name detector.warnThreshold]
        else []
      let recorded := turn.record (advanced.push warning) use args outcome.success
        outcome.displayOutput
      (countCall (recorded.push
          [turn.toolCallCompleted use outcome.success outcome.displayOutput
            outcome.shellMetadata]),
        .result outcome.modelContent outcome.success)

def failCall (state : TurnState) (use : ToolUse) (args : List (String × String))
    (errorText : String) : TurnState × NativeToolExecOutcome :=
  let recorded := turn.record state use args false errorText
  let failed := countCall (recorded.push
    [turn.toolCallFailed use (toolFailureCode errorText) errorText
        (toolFailureRetryable errorText),
      turn.toolCallCompleted use false errorText none])
  if isApprovalBlockingError errorText then
    let stopMessage :=
      if containsText errorText.toLower "approval timed out" then approvalTimedOutStopMessage
      else approvalRejectedStopMessage
    (failed.push [turn.responseError "approval_blocked" stopMessage false], .aborted)
  else (failed, .result errorText false)

def executeNativeToolCallBody (state : TurnState) (use : ToolUse)
    (args : List (String × String)) (answer : ToolAnswer) :
    TurnState × NativeToolExecOutcome :=
  let started := state.push (.toolCallProgress turn.turnId use.id use.name "executing"
    (displayNameFor turn.toolSpecs use.name) :: answer.liveEvents.map LiveEvent.event)
  match answer.result with
  | .ok outcome => turn.concludeCall started use args outcome
  | .error errorText => turn.failCall started use args errorText

def callArgs (use : ToolUse) (answer : ToolAnswer) : List (String × String) :=
  answer.arrangement (toolInputToArgs turn.formats use.input)

def executeNativeToolCall (state : TurnState) (use : ToolUse) (answer : ToolAnswer) :
    TurnState × NativeToolExecOutcome :=
  if (trim use.name).isEmpty then
    (state.push [turn.responseError "model_invalid_tool"
      "[model error] tool action missing tool name" false], .aborted)
  else
    let args := turn.callArgs use answer
    match turn.guardDuplicateNativeToolCall state use.name args with
    | some guarded => guarded
    | none => turn.executeNativeToolCallBody state use args answer

def closeBatch (state : TurnState) (batch : ToolBatch) : TurnState :=
  let closed := state.push
    [.toolBatchCompleted turn.turnId
      ((batch.executableCount + batch.droppedCount) % 0x100000000) batch.succeeded batch.failed]
  if batch.results.isEmpty then closed
  else { closed with messages := closed.messages ++ [.user batch.results] }

def advanceBatch (state : TurnState) (batch : ToolBatch) : TurnState :=
  if batch.pending.isEmpty then turn.planRound (turn.closeBatch state batch)
  else { state with phase := .running batch }

def answerTool (state : TurnState) (batch : ToolBatch) (use : ToolUse) (rest : List ToolUse)
    (answer : ToolAnswer) : TurnState :=
  match turn.executeNativeToolCall state use answer with
  | (next, .result modelContent ok) =>
      turn.advanceBatch next (batch.answer use rest modelContent ok)
  | (next, .aborted) => turn.finish next

end Turn

inductive TurnInput where
  | model (answer : ModelAnswer)
  | tool (answer : ToolAnswer)

def step (turn : Turn) (state : TurnState) : TurnInput → Option TurnState
  | .model answer =>
      match state.phase with
      | .awaitingModel => some (turn.answerModel state answer)
      | _ => none
  | .tool answer =>
      match state.phase with
      | .running batch =>
          match batch.pending with
          | use :: rest => some (turn.answerTool state batch use rest answer)
          | [] => none
      | _ => none

theorem step_finished (turn : Turn) {state : TurnState} (finished : state.phase = .finished)
    (input : TurnInput) : step turn state input = none := by
  cases input <;> simp [step, finished]

end OpenJax.Agent
