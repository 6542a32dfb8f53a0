import OpenJax.Model.Agreement

set_option autoImplicit false

namespace OpenJax.Model.AnthropicMessages

open Shared Streaming

-- `serde_json::from_str`, with the text of its error.
variable (readJson : String → Except String Json)

def str? (value : Option Json) : Option String := value.bind Json.asStr?

def typeOf (value : Json) : Option String := str? (value.get? "type")

def inner? (body : Json) (outer inner : String) : Option Json :=
  (body.get? outer).bind (·.get? inner)

def contentBlock? (block : Json) : Option AssistantContentBlock :=
  match typeOf block with
  | some "text" =>
      (str? (block.get? "text")).bind fun text =>
        if text.isEmpty then none else some (.text text)
  | some "tool_use" =>
      match str? (block.get? "id"), str? (block.get? "name") with
      | some id, some name => some (.toolUse id name ((block.get? "input").getD (.obj [])))
      | _, _ => none
  | _ => none

def extractContentBlocksFromBody (body : Json) : List AssistantContentBlock :=
  match (body.get? "content").bind Json.asArr? with
  | some blocks => blocks.filterMap contentBlock?
  | none => []

def mergeThinking (merged thinking : String) : String :=
  (if merged.isEmpty then merged else merged.push '\n') ++ thinking

def blockThinking? (block : Json) : Option String :=
  if typeOf block = some "thinking" then str? (block.get? "thinking") else none

def extractThinkingFromBody (body : Json) : Option String :=
  match (body.get? "content").bind Json.asArr? with
  | some blocks =>
      let merged := (blocks.filterMap blockThinking?).foldl mergeThinking ""
      if merged.isEmpty then none else some merged
  | none => none

def nonEmpty? (text : Option String) : Option String :=
  text.filter fun shown => !shown.isEmpty

def extractDeltaContentFromBody (body : Json) : Option String :=
  match nonEmpty? (str? (inner? body "delta" "text")) with
  | some text => some text
  | none =>
      if typeOf body = some "content_block_start" then
        nonEmpty? (str? (inner? body "content_block" "text"))
      else none

def extractDeltaThinkingFromBody (body : Json) : Option String :=
  match nonEmpty? (str? (inner? body "delta" "thinking")) with
  | some thinking => some thinking
  | none =>
      if typeOf body = some "content_block_start" ∧
          str? (inner? body "content_block" "type") = some "thinking" then
        nonEmpty? (str? (inner? body "content_block" "thinking"))
      else none

def usageOf (body : Json) : Option ModelUsage :=
  (body.get? "usage").map fun usage =>
    { inputTokens := (usage.get? "input_tokens").bind Json.asU64?
      outputTokens := (usage.get? "output_tokens").bind Json.asU64?
      totalTokens := (usage.get? "total_tokens").bind Json.asU64? }

def complete (answer : HttpAnswer) : Except String ModelResponse :=
  match readJson answer.body with
  | .error message =>
      .error (s!"failed to parse anthropic messages response JSON: {message}; " ++
        s!"status={answer.status}; body_snippet={responseSnippet answer.body}")
  | .ok body =>
      if !answer.success then
        .error s!"anthropic messages API error ({answer.status}): {responseSnippet answer.body}"
      else
        let blocks := extractContentBlocksFromBody body
        if blocks.isEmpty then
          .error ("missing content in anthropic messages response; " ++
            s!"status={answer.status}; body_snippet={responseSnippet answer.body}")
        else
          .ok
            { content := blocks
              reasoning := extractThinkingFromBody body
              usage := usageOf body
              stopReason := (str? (body.get? "stop_reason")).map StopReason.fromApiStr
              raw := some body }

structure AnthropicStream where
  assembled : String
  thinkingAssembled : String
  contentBlocks : List AssistantContentBlock
  currentBlockType : Option String
  pendingToolId : String
  pendingToolName : String
  pendingToolArgs : String
  stopReason : Option StopReason
  sawMessageStop : Bool
  sent : List StreamDelta

namespace AnthropicStream

def empty : AnthropicStream := ⟨"", "", [], none, "", "", "", none, false, []⟩

def send (stream : AnthropicStream) (delta : StreamDelta) : AnthropicStream :=
  { stream with sent := stream.sent ++ [delta] }

def onText (stream : AnthropicStream) (body : Json) : AnthropicStream :=
  match extractDeltaContentFromBody body with
  | some delta =>
      if delta.isEmpty then stream
      else { stream.send (.text delta) with assembled := stream.assembled ++ delta }
  | none => stream

def onThinking (stream : AnthropicStream) (body : Json) : AnthropicStream :=
  match extractDeltaThinkingFromBody body with
  | some delta =>
      if delta.isEmpty then stream
      else
        { stream.send (.reasoning delta) with
          thinkingAssembled := stream.thinkingAssembled ++ delta }
  | none => stream

def startBlock (stream : AnthropicStream) (block : Json) : AnthropicStream :=
  let entered := { stream with currentBlockType := typeOf block }
  if typeOf block = some "tool_use" then
    let id := (str? (block.get? "id")).getD ""
    let name := (str? (block.get? "name")).getD ""
    { entered.send (.toolUseStart id name) with
      pendingToolId := id
      pendingToolName := name
      pendingToolArgs := "" }
  else entered

def addToolArgs (stream : AnthropicStream) (body : Json) : AnthropicStream :=
  if stream.currentBlockType = some "tool_use" then
    match str? (inner? body "delta" "partial_json") with
    | some partialJson =>
        { stream.send (.toolArgsDelta stream.pendingToolId partialJson) with
          pendingToolArgs := stream.pendingToolArgs ++ partialJson }
    | none => stream
  else stream

def stopBlock (stream : AnthropicStream) : AnthropicStream :=
  if stream.currentBlockType = some "tool_use" then
    let input := readInput readJson stream.pendingToolArgs
    { stream.send (.toolUseEnd stream.pendingToolId) with
      contentBlocks := stream.contentBlocks ++
        [.toolUse stream.pendingToolId stream.pendingToolName input]
      currentBlockType := none }
  else { stream with currentBlockType := none }

def processToolUseFrame (stream : AnthropicStream) (body : Json) : AnthropicStream :=
  match typeOf body with
  | some "content_block_start" =>
      match body.get? "content_block" with
      | some block => stream.startBlock block
      | none => stream
  | some "content_block_delta" => stream.addToolArgs body
  | some "content_block_stop" => stream.stopBlock readJson
  | some "message_delta" =>
      match str? (inner? body "delta" "stop_reason") with
      | some reason => { stream with stopReason := some (.fromApiStr reason) }
      | none => stream
  | _ => stream

def onFrame (stream : AnthropicStream) (body : Json) : AnthropicStream :=
  let noted :=
    if typeOf body = some "message_stop" then { stream with sawMessageStop := true } else stream
  ((noted.onText body).onThinking body).processToolUseFrame readJson body

end AnthropicStream

def readFrames (part : String) :
    AnthropicStream → List String → Except String AnthropicStream
  | stream, [] => .ok stream
  | stream, frame :: rest =>
      match readJson frame with
      | .error message =>
          .error (s!"failed to parse {part}SSE JSON chunk: {message}; " ++
            s!"chunk_snippet={responseSnippet frame}")
      | .ok body => readFrames part (stream.onFrame readJson body) rest

def respond (status : String) (stream : AnthropicStream) :
    Except String (ModelResponse × List StreamDelta) :=
  let blocks := textBlocks stream.assembled ++ stream.contentBlocks
  if blocks.isEmpty then
    .error s!"missing streaming content in anthropic messages response; status={status}"
  else
    .ok
      ({ content := blocks
         reasoning :=
           if stream.thinkingAssembled.isEmpty then none else some stream.thinkingAssembled
         usage := none
         stopReason := stream.stopReason
         raw := none },
        stream.sent)

def completeStream (status : String) (chunks : List Bytes) (ending : StreamEnd) :
    Except String (ModelResponse × List StreamDelta) :=
  let (frames, parser) := SseParser.default.pushChunks chunks
  match readFrames readJson "" AnthropicStream.empty frames, ending with
  | .error message, _ => .error message
  | .ok _, .timedOut =>
      .error ("anthropic messages stream timed out after 300s waiting for next chunk " ++
        "before [DONE]")
  | .ok _, .failed => .error "failed reading stream chunk"
  | .ok stream, .eof =>
      let (trailing, finished) := parser.finish
      match readFrames readJson "trailing " stream trailing with
      | .error message => .error message
      | .ok stream =>
          if finished.sawDone || stream.sawMessageStop then respond status stream
          else
            .error ("anthropic messages stream ended without message_stop or [DONE]; " ++
              "treating as protocol error")

end OpenJax.Model.AnthropicMessages
