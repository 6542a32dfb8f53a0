import OpenJax.Model.Agreement

set_option autoImplicit false

namespace OpenJax.Model

open Shared Streaming

namespace ChatCompletions

-- `serde_json::from_str`, with the text of its error.
variable (readJson : String → Except String Json)

def firstChoice? (body : Json) : Option Json :=
  ((body.get? "choices").bind Json.asArr?).bind List.head?

def textOr (fallback : String) (value : Option Json) : String :=
  (value.bind Json.asStr?).getD fallback

def mergeTexts (separator : String) (blocks : List Json) : String :=
  let texts := blocks.filterMap fun block => (block.get? "text").bind Json.asStr?
  texts.foldl
    (fun merged text => (if merged.isEmpty then merged else merged ++ separator) ++ text) ""

def toolCallBlock (toolCall : Json) : AssistantContentBlock :=
  let function := toolCall.get? "function"
  .toolUse (textOr "" (toolCall.get? "id")) (textOr "" (function.bind (·.get? "name")))
    (readInput readJson (textOr "\x7b\x7d" (function.bind (·.get? "arguments"))))

def extractContentBlocksFromBody (body : Json) : List AssistantContentBlock :=
  match (firstChoice? body).bind (·.get? "message") with
  | none => []
  | some message =>
      let texts :=
        match message.get? "content" with
        | some (.str text) => textBlocks text
        | some (.arr blocks) => textBlocks (mergeTexts "\n" blocks)
        | _ => []
      let toolCalls := ((message.get? "tool_calls").bind Json.asArr?).getD []
      texts ++ toolCalls.map (toolCallBlock readJson)

def delta? (body : Json) : Option Json := (firstChoice? body).bind (·.get? "delta")

def extractDeltaContentFromBody (body : Json) : Option String :=
  match (delta? body).bind (·.get? "content") with
  | some (.str text) => some text
  | some (.arr blocks) =>
      let merged := mergeTexts "" blocks
      if merged.isEmpty then none else some merged
  | _ => none

def extractDeltaReasoningFromBody (body : Json) : Option String :=
  ((delta? body).bind (·.get? "reasoning_content")).bind Json.asStr?

structure ToolCallDelta where
  index : Nat
  id : Option String
  name : Option String
  argsDelta : Option String
  deriving DecidableEq, Repr

def toolCallDelta? (toolCall : Json) : Option ToolCallDelta :=
  let function := toolCall.get? "function"
  ((toolCall.get? "index").bind Json.asU64?).map fun index =>
    { index := index
      id := (toolCall.get? "id").bind Json.asStr?
      name := (function.bind (·.get? "name")).bind Json.asStr?
      argsDelta := (function.bind (·.get? "arguments")).bind Json.asStr? }

def extractToolCallDeltas (body : Json) : List ToolCallDelta :=
  (((delta? body).bind (·.get? "tool_calls")).bind Json.asArr?).getD [] |>.filterMap
    toolCallDelta?

def extractFinishReason (body : Json) : Option String :=
  ((firstChoice? body).bind (·.get? "finish_reason")).bind Json.asStr?

def extractUsageFromPayload (payload : Json) : Option ModelUsage :=
  (payload.get? "usage").map fun usage =>
    let count (key : String) := (usage.get? key).bind Json.asU64?
    { inputTokens := (count "prompt_tokens").or (count "input_tokens")
      outputTokens := (count "completion_tokens").or (count "output_tokens")
      totalTokens := count "total_tokens" }

def complete (answer : HttpAnswer) : Except String ModelResponse :=
  match readJson answer.body with
  | .error message =>
      .error (s!"failed to parse chat completions response JSON: {message}; " ++
        s!"status={answer.status}; body_snippet={responseSnippet answer.body}")
  | .ok body =>
      if !answer.success then
        .error
          s!"chat completions API error ({answer.status}): {responseSnippet answer.body}"
      else
        let blocks := extractContentBlocksFromBody readJson body
        if blocks.isEmpty then
          .error ("missing choices[0].message content in API response; " ++
            s!"status={answer.status}; body_snippet={responseSnippet answer.body}")
        else
          .ok
            { content := blocks
              reasoning := none
              usage := extractUsageFromPayload body
              stopReason := (extractFinishReason body).map StopReason.fromApiStr
              raw := some body }

structure PendingToolCall where
  id : String
  name : String
  args : String
  deriving DecidableEq, Repr

structure ChatStream where
  assembled : String
  lastUsage : Option ModelUsage
  pendingToolCalls : List PendingToolCall
  stopReason : Option StopReason
  sent : List StreamDelta

namespace ChatStream

def empty : ChatStream := ⟨"", none, [], none, []⟩

def send (stream : ChatStream) (deltas : List StreamDelta) : ChatStream :=
  { stream with sent := stream.sent ++ deltas }

def onText (stream : ChatStream) (body : Json) : ChatStream :=
  match extractDeltaContentFromBody body with
  | some delta =>
      if delta.isEmpty then stream
      else { stream.send [.text delta] with assembled := stream.assembled ++ delta }
  | none => stream

def onReasoning (stream : ChatStream) (body : Json) : ChatStream :=
  match extractDeltaReasoningFromBody body with
  | some delta => if delta.isEmpty then stream else stream.send [.reasoning delta]
  | none => stream

def grow (stream : ChatStream) (delta : ToolCallDelta) : ChatStream :=
  let missing := delta.index + 1 - stream.pendingToolCalls.length
  let id := delta.id.getD ""
  let name := delta.name.getD ""
  { stream.send (List.replicate missing (.toolUseStart id name)) with
    pendingToolCalls :=
      stream.pendingToolCalls ++ List.replicate missing ⟨id, name, ""⟩ }

def addArgs (stream : ChatStream) (delta : ToolCallDelta) : ChatStream :=
  match delta.argsDelta with
  | some args =>
      if args.isEmpty then stream
      else
        let id := ((stream.pendingToolCalls[delta.index]?).map PendingToolCall.id).getD ""
        { stream.send [.toolArgsDelta id args] with
          pendingToolCalls := stream.pendingToolCalls.modify delta.index
            fun call => { call with args := call.args ++ args } }
  | none => stream

def onToolCallDelta (stream : ChatStream) (delta : ToolCallDelta) : ChatStream :=
  (stream.grow delta).addArgs delta

def onUsage (stream : ChatStream) (body : Json) : ChatStream :=
  match extractUsageFromPayload body with
  | some usage => { stream with lastUsage := some usage }
  | none => stream

def onFinishReason (stream : ChatStream) (body : Json) : ChatStream :=
  match extractFinishReason body with
  | some reason => { stream with stopReason := some (.fromApiStr reason) }
  | none => stream

def onFrame (stream : ChatStream) (body : Json) : ChatStream :=
  let told := (stream.onText body).onReasoning body
  ((((extractToolCallDeltas body).foldl onToolCallDelta told).onFinishReason body).onUsage body)

/-- A frame left over at the end: no tool calls and no finish reason are taken from it. -/
def onTrailingFrame (stream : ChatStream) (body : Json) : ChatStream :=
  ((stream.onText body).onReasoning body).onUsage body

end ChatStream

def readFrames (part : String) (process : ChatStream → Json → ChatStream) :
    ChatStream → List String → Except String ChatStream
  | stream, [] => .ok stream
  | stream, frame :: rest =>
      match readJson frame with
      | .error message =>
          .error (s!"failed to parse {part}SSE JSON chunk: {message}; " ++
            s!"chunk_snippet={responseSnippet frame}")
      | .ok body => readFrames part process (process stream body) rest

def streamedBlocks (stream : ChatStream) : List AssistantContentBlock :=
  textBlocks stream.assembled ++ stream.pendingToolCalls.map fun call =>
    .toolUse call.id call.name (readInput readJson call.args)

def respond (status : String) (stream : ChatStream) :
    Except String (ModelResponse × List StreamDelta) :=
  let blocks := streamedBlocks readJson stream
  if blocks.isEmpty then .error s!"missing streaming content in API response; status={status}"
  else
    .ok
      ({ content := blocks
         reasoning := none
         usage := stream.lastUsage
         stopReason := stream.stopReason
         raw := none },
        stream.sent ++ stream.pendingToolCalls.map fun call => .toolUseEnd call.id)

def completeStream (status : String) (chunks : List Bytes) (ending : StreamEnd) :
    Except String (ModelResponse × List StreamDelta) :=
  let (frames, parser) := SseParser.default.pushChunks chunks
  match readFrames readJson "" ChatStream.onFrame ChatStream.empty frames, ending with
  | .error message, _ => .error message
  | .ok _, .timedOut =>
      .error "chat completions stream timed out after 300s waiting for next chunk before [DONE]"
  | .ok _, .failed => .error "failed reading stream chunk"
  | .ok stream, .eof =>
      let (trailing, finished) := parser.finish
      match readFrames readJson "trailing " ChatStream.onTrailingFrame stream trailing with
      | .error message => .error message
      | .ok stream =>
          if finished.sawDone then respond readJson status stream
          else
            .error "chat completions stream ended before [DONE]; treating as protocol error"

end ChatCompletions

end OpenJax.Model

namespace OpenJax.Model.ChatCompletions

open Shared

def newCall (delta : ToolCallDelta) (args : String) : PendingToolCall :=
  ⟨delta.id.getD "", delta.name.getD "", args⟩

def PendingToolCall.add (args : String) (call : PendingToolCall) : PendingToolCall :=
  { call with args := call.args ++ args }

def addDelta (calls : List PendingToolCall) (delta : ToolCallDelta) : List PendingToolCall :=
  (calls ++ List.replicate (delta.index + 1 - calls.length) (newCall delta "")).modify
    delta.index (PendingToolCall.add (delta.argsDelta.getD ""))

def argsOf (index : Nat) (deltas : List ToolCallDelta) : String :=
  String.join (deltas.filterMap fun delta => if delta.index = index then delta.argsDelta else none)

def creator? (index : Nat) (deltas : List ToolCallDelta) : Option ToolCallDelta :=
  deltas.find? fun delta => decide (index ≤ delta.index)

def collected (index : Nat) (deltas : List ToolCallDelta) : Option PendingToolCall :=
  (creator? index deltas).map fun first => newCall first (argsOf index deltas)

theorem add_empty : PendingToolCall.add "" = id := by
  funext call
  simp [PendingToolCall.add]

theorem onToolCallDelta_eq (stream : ChatStream) (delta : ToolCallDelta) :
    (stream.onToolCallDelta delta).pendingToolCalls = addDelta stream.pendingToolCalls delta ∧
      (stream.onToolCallDelta delta).assembled = stream.assembled ∧
      (stream.onToolCallDelta delta).stopReason = stream.stopReason := by
  unfold ChatStream.onToolCallDelta ChatStream.addArgs addDelta
  cases given : delta.argsDelta with
  | none => simp [ChatStream.grow, ChatStream.send, add_empty, newCall]
  | some args =>
    dsimp only
    by_cases empty : args = ""
    · subst empty
      simp [ChatStream.grow, ChatStream.send, add_empty, newCall]
    · rw [if_neg (by simpa using empty)]
      exact ⟨rfl, rfl, rfl⟩

theorem foldl_onToolCallDelta (stream : ChatStream) (deltas : List ToolCallDelta) :
    (deltas.foldl ChatStream.onToolCallDelta stream).pendingToolCalls =
        deltas.foldl addDelta stream.pendingToolCalls ∧
      (deltas.foldl ChatStream.onToolCallDelta stream).assembled = stream.assembled ∧
      (deltas.foldl ChatStream.onToolCallDelta stream).stopReason = stream.stopReason := by
  induction deltas generalizing stream with
  | nil => exact ⟨rfl, rfl, rfl⟩
  | cons delta rest ih =>
    obtain ⟨calls, assembled, stopReason⟩ := onToolCallDelta_eq stream delta
    obtain ⟨laterCalls, laterAssembled, laterStop⟩ := ih (stream.onToolCallDelta delta)
    simp only [List.foldl_cons]
    exact ⟨laterCalls.trans (by rw [calls]), laterAssembled.trans assembled,
      laterStop.trans stopReason⟩

theorem join_append (first second : List String) :
    String.join (first ++ second) = String.join first ++ String.join second := by
  apply String.toList_inj.mp
  simp [String.toList_join]

theorem argsOf_snoc (index : Nat) (deltas : List ToolCallDelta) (delta : ToolCallDelta) :
    argsOf index (deltas ++ [delta]) =
      argsOf index deltas ++ if delta.index = index then delta.argsDelta.getD "" else "" := by
  rw [argsOf, List.filterMap_append, join_append, argsOf]
  congr 1
  by_cases here : delta.index = index
  · cases args : delta.argsDelta <;> simp [here, args, String.join]
  · simp [here, String.join]

theorem argsOf_of_creator_none {index : Nat} {deltas : List ToolCallDelta}
    (unreached : creator? index deltas = none) : argsOf index deltas = "" := by
  unfold creator? at unreached
  rw [List.find?_eq_none] at unreached
  have nothing : (deltas.filterMap fun delta =>
      if delta.index = index then delta.argsDelta else none) = [] := by
    rw [List.filterMap_eq_nil_iff]
    intro delta member
    have below := unreached delta member
    rw [decide_eq_true_eq, Nat.not_le] at below
    rw [if_neg (by omega)]
  rw [argsOf, nothing]
  rfl

theorem collected_snoc {calls : List PendingToolCall} {deltas : List ToolCallDelta}
    (delta : ToolCallDelta) (held : ∀ index, calls[index]? = collected index deltas)
    (index : Nat) : (addDelta calls delta)[index]? = collected index (deltas ++ [delta]) := by
  have before := held index
  unfold collected at before ⊢
  rw [argsOf_snoc, creator?, List.find?_append, ← creator?]
  unfold addDelta
  rw [List.getElem?_modify]
  by_cases old : index < calls.length
  · -- The entry exists already: the delta can only add arguments to it.
    rw [List.getElem?_append_left old]
    rw [List.getElem?_eq_getElem old] at before ⊢
    cases found : creator? index deltas with
    | none => simp [found] at before
    | some first =>
      rw [found, Option.map_some, Option.some.injEq] at before
      rw [before]
      by_cases here : delta.index = index <;> simp [here, newCall, PendingToolCall.add]
  · have unreached : creator? index deltas = none := by
      rw [List.getElem?_eq_none (by omega)] at before
      simpa using before.symm
    rw [List.getElem?_append_right (by omega), List.getElem?_replicate, unreached,
      argsOf_of_creator_none unreached]
    by_cases reached : index ≤ delta.index
    · rw [if_pos (by omega)]
      by_cases here : delta.index = index <;>
        simp [here, reached, newCall, PendingToolCall.add]
    · rw [if_neg (by omega)]
      simp [reached]

theorem foldl_addDelta (deltas : List ToolCallDelta) (index : Nat) :
    (deltas.foldl addDelta [])[index]? = collected index deltas := by
  induction deltas using List.reverseRecOn generalizing index with
  | nil => rfl
  | append_singleton rest delta ih =>
    rw [List.foldl_append]
    exact collected_snoc delta ih index

end OpenJax.Model.ChatCompletions
