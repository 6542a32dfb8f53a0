import OpenJax.Model.AnthropicMessages

set_option autoImplicit false

namespace OpenJax.Model.AnthropicMessages

open Shared Streaming

inductive AnthropicEvent where
  | startText (text : String)
  | startThinking (thinking : String)
  | startToolUse (id name : String)
  | textDelta (piece : String)
  | thinkingDelta (piece : String)
  | inputDelta (piece : String)
  | stop
  | messageDelta (stopReason : Option String)
  | messageStop
  -- Pings, signatures and the start of the message.
  | quiet
  deriving DecidableEq, Repr

def HoldsText (field : Option Json) (text : String) : Prop :=
  field = some (.str text) ∨ (text = "" ∧ field = none)

def HasType (body : Json) (name : String) : Prop := body.get? "type" = some (.str name)

structure IsDelta (body : Json) (text thinking partialJson : Option Json) : Prop where
  text : inner? body "delta" "text" = text
  thinking : inner? body "delta" "thinking" = thinking
  partialJson : inner? body "delta" "partial_json" = partialJson

structure IsStart (body block : Json) (kind : String) : Prop where
  type : HasType body "content_block_start"
  opened : body.get? "content_block" = some block
  blockType : HasType block kind
  delta : IsDelta body none none none

def IsFrame : AnthropicEvent → Json → Prop
  | .startText text, body => ∃ block, IsStart body block "text" ∧
      HoldsText (block.get? "text") text
  | .startThinking thinking, body => ∃ block, IsStart body block "thinking" ∧
      HoldsText (block.get? "thinking") thinking ∧ block.get? "text" = none
  | .startToolUse id name, body => ∃ block, IsStart body block "tool_use" ∧
      block.get? "id" = some (.str id) ∧ block.get? "name" = some (.str name) ∧
      block.get? "text" = none
  | .textDelta piece, body => HasType body "content_block_delta" ∧
      IsDelta body (some (.str piece)) none none
  | .thinkingDelta piece, body => HasType body "content_block_delta" ∧
      IsDelta body none (some (.str piece)) none
  | .inputDelta piece, body => HasType body "content_block_delta" ∧
      IsDelta body none none (some (.str piece))
  | .stop, body => HasType body "content_block_stop" ∧ IsDelta body none none none
  | .messageDelta stopReason, body => HasType body "message_delta" ∧
      IsDelta body none none none ∧ Holds (inner? body "delta" "stop_reason") stopReason
  | .messageStop, body => HasType body "message_stop" ∧ IsDelta body none none none
  | .quiet, body => IsDelta body none none none ∧
      ∃ name, HasType body name ∧ name ≠ "content_block_start" ∧
        name ≠ "content_block_stop" ∧ name ≠ "message_delta" ∧ name ≠ "message_stop"

structure Assembly where
  text : String
  thinking : String
  blocks : List AssistantContentBlock
  blockType : Option String
  id : String
  name : String
  args : String
  stopReason : Option StopReason
  stopped : Bool

def AnthropicStream.assembly (stream : AnthropicStream) : Assembly :=
  { text := stream.assembled
    thinking := stream.thinkingAssembled
    blocks := stream.contentBlocks
    blockType := stream.currentBlockType
    id := stream.pendingToolId
    name := stream.pendingToolName
    args := stream.pendingToolArgs
    stopReason := stream.stopReason
    stopped := stream.sawMessageStop }

variable (readJson : String → Except String Json)

def Assembly.on (assembly : Assembly) : AnthropicEvent → Assembly
  | .startText text => { assembly with text := assembly.text ++ text, blockType := some "text" }
  | .startThinking thinking =>
      { assembly with thinking := assembly.thinking ++ thinking, blockType := some "thinking" }
  | .startToolUse id name =>
      { assembly with blockType := some "tool_use", id := id, name := name, args := "" }
  | .textDelta piece => { assembly with text := assembly.text ++ piece }
  | .thinkingDelta piece => { assembly with thinking := assembly.thinking ++ piece }
  | .inputDelta piece =>
      if assembly.blockType = some "tool_use" then
        { assembly with args := assembly.args ++ piece }
      else assembly
  | .stop =>
      if assembly.blockType = some "tool_use" then
        { assembly with
          blocks := assembly.blocks ++
            [.toolUse assembly.id assembly.name (readInput readJson assembly.args)]
          blockType := none }
      else { assembly with blockType := none }
  | .messageDelta (some reason) => { assembly with stopReason := some (.fromApiStr reason) }
  | .messageDelta none => assembly
  | .messageStop => { assembly with stopped := true }
  | .quiet => assembly

section Frames

variable {body : Json}

theorem typeOf_of_hasType {name : String} (type : HasType body name) : typeOf body = some name := by
  rw [typeOf, show body.get? "type" = _ from type]
  rfl

theorem nonEmpty_str (text : String) :
    nonEmpty? (str? (some (.str text))) = if text.isEmpty then none else some text := by
  by_cases empty : text.isEmpty = true
  · simp [nonEmpty?, str?, Json.asStr?, String.isEmpty_iff.mp empty]
  · simp [nonEmpty?, str?, Json.asStr?, empty, Option.filter]

theorem nonEmpty_holdsText {field : Option Json} {text : String} (holds : HoldsText field text) :
    nonEmpty? (str? field) = if text.isEmpty then none else some text := by
  rcases holds with rfl | ⟨rfl, rfl⟩
  · exact nonEmpty_str text
  · rfl

theorem onText_eq (stream : AnthropicStream) {text : String}
    (extracted : extractDeltaContentFromBody body = if text.isEmpty then none else some text) :
    ∃ sent, stream.onText body =
      { stream with assembled := stream.assembled ++ text, sent := sent } := by
  unfold AnthropicStream.onText
  rw [extracted]
  by_cases empty : text.isEmpty = true
  · exact ⟨stream.sent, by simp [String.isEmpty_iff.mp empty]⟩
  · exact ⟨stream.sent ++ [.text text], by simp [empty, AnthropicStream.send]⟩

theorem onThinking_eq (stream : AnthropicStream) {text : String}
    (extracted : extractDeltaThinkingFromBody body = if text.isEmpty then none else some text) :
    ∃ sent, stream.onThinking body =
      { stream with thinkingAssembled := stream.thinkingAssembled ++ text, sent := sent } := by
  unfold AnthropicStream.onThinking
  rw [extracted]
  by_cases empty : text.isEmpty = true
  · exact ⟨stream.sent, by simp [String.isEmpty_iff.mp empty]⟩
  · exact ⟨stream.sent ++ [.reasoning text], by simp [empty, AnthropicStream.send]⟩

def AnthropicEvent.text : AnthropicEvent → String
  | .startText text | .textDelta text => text
  | _ => ""

def AnthropicEvent.thinking : AnthropicEvent → String
  | .startThinking thinking | .thinkingDelta thinking => thinking
  | _ => ""

theorem extractText_none {thinking partialJson : Option Json} {name : String}
    (delta : IsDelta body none thinking partialJson) (type : HasType body name)
    (started : name ≠ "content_block_start") : extractDeltaContentFromBody body = none := by
  rw [extractDeltaContentFromBody, delta.text, typeOf_of_hasType type]
  simp [nonEmpty?, str?, started]

theorem extractThinking_none {text partialJson : Option Json} {name : String}
    (delta : IsDelta body text none partialJson) (type : HasType body name)
    (started : name ≠ "content_block_start") : extractDeltaThinkingFromBody body = none := by
  rw [extractDeltaThinkingFromBody, delta.thinking, typeOf_of_hasType type]
  simp [nonEmpty?, str?, started]

theorem extractText_start {block : Json} {kind text : String} (start : IsStart body block kind)
    (shown : nonEmpty? (str? (block.get? "text")) = if text.isEmpty then none else some text) :
    extractDeltaContentFromBody body = if text.isEmpty then none else some text := by
  have opened : inner? body "content_block" "text" = block.get? "text" := by
    rw [inner?, start.opened, Option.bind_some]
  rw [extractDeltaContentFromBody, start.delta.text, typeOf_of_hasType start.type, opened, shown]
  rfl

theorem extractThinking_start {block : Json} {kind : String} (start : IsStart body block kind) :
    extractDeltaThinkingFromBody body =
      if kind = "thinking" then nonEmpty? (str? (block.get? "thinking")) else none := by
  have opened (field : String) : inner? body "content_block" field = block.get? field := by
    rw [inner?, start.opened, Option.bind_some]
  have entered : str? (block.get? "type") = some kind := typeOf_of_hasType start.blockType
  rw [extractDeltaThinkingFromBody, start.delta.thinking, typeOf_of_hasType start.type, opened,
    opened, entered]
  simp [nonEmpty?, str?]

variable {event : AnthropicEvent}

theorem extractText_frame (frame : IsFrame event body) :
    extractDeltaContentFromBody body =
      if event.text.isEmpty then none else some event.text := by
  cases event with
  | startText text =>
    obtain ⟨block, start, holds⟩ := frame
    exact extractText_start start (nonEmpty_holdsText holds)
  | startThinking thinking =>
    obtain ⟨block, start, -, untold⟩ := frame
    exact extractText_start start (by rw [untold]; rfl)
  | startToolUse id name =>
    obtain ⟨block, start, -, -, untold⟩ := frame
    exact extractText_start start (by rw [untold]; rfl)
  | textDelta piece =>
    obtain ⟨type, delta⟩ := frame
    rw [extractDeltaContentFromBody, delta.text, nonEmpty_str, typeOf_of_hasType type,
      AnthropicEvent.text]
    by_cases empty : piece.isEmpty = true <;> simp [empty]
  | thinkingDelta piece => exact extractText_none frame.2 frame.1 (by decide)
  | inputDelta piece => exact extractText_none frame.2 frame.1 (by decide)
  | stop => exact extractText_none frame.2 frame.1 (by decide)
  | messageDelta stopReason => exact extractText_none frame.2.1 frame.1 (by decide)
  | messageStop => exact extractText_none frame.2 frame.1 (by decide)
  | quiet =>
    obtain ⟨delta, name, type, started, -⟩ := frame
    exact extractText_none delta type started

theorem extractThinking_frame (frame : IsFrame event body) :
    extractDeltaThinkingFromBody body =
      if event.thinking.isEmpty then none else some event.thinking := by
  cases event with
  | startText text =>
    obtain ⟨block, start, -⟩ := frame
    rw [extractThinking_start start, if_neg (by decide)]
    rfl
  | startThinking thinking =>
    obtain ⟨block, start, holds, -⟩ := frame
    rw [extractThinking_start start, if_pos rfl, nonEmpty_holdsText holds]
    rfl
  | startToolUse id name =>
    obtain ⟨block, start, -⟩ := frame
    rw [extractThinking_start start, if_neg (by decide)]
    rfl
  | textDelta piece => exact extractThinking_none frame.2 frame.1 (by decide)
  | thinkingDelta piece =>
    obtain ⟨type, delta⟩ := frame
    rw [extractDeltaThinkingFromBody, delta.thinking, nonEmpty_str, typeOf_of_hasType type,
      AnthropicEvent.thinking]
    by_cases empty : piece.isEmpty = true <;> simp [empty]
  | inputDelta piece => exact extractThinking_none frame.2 frame.1 (by decide)
  | stop => exact extractThinking_none frame.2 frame.1 (by decide)
  | messageDelta stopReason => exact extractThinking_none frame.2.1 frame.1 (by decide)
  | messageStop => exact extractThinking_none frame.2 frame.1 (by decide)
  | quiet =>
    obtain ⟨delta, name, type, started, -⟩ := frame
    exact extractThinking_none delta type started

theorem onFrame_eq (frame : IsFrame event body) (stream : AnthropicStream) :
    ∃ sent, stream.onFrame readJson body =
      ({ stream with
          assembled := stream.assembled ++ event.text
          thinkingAssembled := stream.thinkingAssembled ++ event.thinking
          sawMessageStop := stream.sawMessageStop || typeOf body == some "message_stop"
          sent := sent } : AnthropicStream).processToolUseFrame readJson body := by
  unfold AnthropicStream.onFrame
  by_cases stopped : typeOf body = some "message_stop"
  · obtain ⟨sent, shown⟩ :=
      onText_eq { stream with sawMessageStop := true } (extractText_frame frame)
    rw [if_pos stopped]
    dsimp only
    rw [shown]
    obtain ⟨told, thought⟩ := onThinking_eq
      ({ stream with
          assembled := stream.assembled ++ event.text
          sawMessageStop := true
          sent := sent } : AnthropicStream) (extractThinking_frame frame)
    refine ⟨told, ?_⟩
    simp only [thought, stopped, BEq.rfl, Bool.or_true]
  · obtain ⟨sent, shown⟩ := onText_eq stream (extractText_frame frame)
    rw [if_neg stopped]
    dsimp only
    rw [shown]
    obtain ⟨told, thought⟩ := onThinking_eq
      ({ stream with assembled := stream.assembled ++ event.text, sent := sent } :
        AnthropicStream) (extractThinking_frame frame)
    refine ⟨told, ?_⟩
    simp only [thought, beq_eq_false_iff_ne.mpr stopped, Bool.or_false]

theorem onFrame_assembly (frame : IsFrame event body) (stream : AnthropicStream) :
    (stream.onFrame readJson body).assembly = stream.assembly.on readJson event := by
  obtain ⟨sent, same⟩ := onFrame_eq readJson frame stream
  rw [same, AnthropicStream.processToolUseFrame]
  cases event with
  | startText text =>
    obtain ⟨block, start, -⟩ := frame
    simp only [typeOf_of_hasType start.type, start.opened, AnthropicStream.startBlock,
      typeOf_of_hasType start.blockType]
    simp [AnthropicStream.assembly, Assembly.on, AnthropicEvent.text, AnthropicEvent.thinking]
  | startThinking thinking =>
    obtain ⟨block, start, -⟩ := frame
    simp only [typeOf_of_hasType start.type, start.opened, AnthropicStream.startBlock,
      typeOf_of_hasType start.blockType]
    simp [AnthropicStream.assembly, Assembly.on, AnthropicEvent.text, AnthropicEvent.thinking]
  | startToolUse id name =>
    obtain ⟨block, start, hasId, hasName, -⟩ := frame
    simp only [typeOf_of_hasType start.type, start.opened, AnthropicStream.startBlock,
      typeOf_of_hasType start.blockType, hasId, hasName]
    simp [AnthropicStream.assembly, Assembly.on, AnthropicEvent.text, AnthropicEvent.thinking,
      AnthropicStream.send, str?, Json.asStr?]
  | textDelta piece =>
    obtain ⟨type, delta⟩ := frame
    simp only [typeOf_of_hasType type, AnthropicStream.addToolArgs, delta.partialJson]
    simp [AnthropicStream.assembly, Assembly.on, AnthropicEvent.text, AnthropicEvent.thinking, str?]
  | thinkingDelta piece =>
    obtain ⟨type, delta⟩ := frame
    simp only [typeOf_of_hasType type, AnthropicStream.addToolArgs, delta.partialJson]
    simp [AnthropicStream.assembly, Assembly.on, AnthropicEvent.text, AnthropicEvent.thinking, str?]
  | inputDelta piece =>
    obtain ⟨type, delta⟩ := frame
    simp only [typeOf_of_hasType type, AnthropicStream.addToolArgs, delta.partialJson]
    by_cases entered : stream.currentBlockType = some "tool_use" <;>
      simp [AnthropicStream.assembly, Assembly.on, AnthropicEvent.text, AnthropicEvent.thinking,
        AnthropicStream.send, str?, Json.asStr?, entered]
  | stop =>
    obtain ⟨type, delta⟩ := frame
    simp only [typeOf_of_hasType type, AnthropicStream.stopBlock]
    by_cases entered : stream.currentBlockType = some "tool_use" <;>
      simp [AnthropicStream.assembly, Assembly.on, AnthropicEvent.text, AnthropicEvent.thinking,
        AnthropicStream.send, entered]
  | messageDelta stopReason =>
    obtain ⟨type, delta, holds⟩ := frame
    have given : str? (inner? body "delta" "stop_reason") = stopReason := holds_asStr holds
    simp only [typeOf_of_hasType type, given]
    cases stopReason <;>
      simp [AnthropicStream.assembly, Assembly.on, AnthropicEvent.text, AnthropicEvent.thinking]
  | messageStop =>
    obtain ⟨type, delta⟩ := frame
    simp only [typeOf_of_hasType type]
    simp [AnthropicStream.assembly, Assembly.on, AnthropicEvent.text, AnthropicEvent.thinking]
  | quiet =>
    obtain ⟨delta, name, type, started, stopped, changed, ended⟩ := frame
    simp only [typeOf_of_hasType type]
    split <;> simp_all [AnthropicStream.assembly, Assembly.on, AnthropicEvent.text,
      AnthropicEvent.thinking, AnthropicStream.addToolArgs, delta.partialJson, str?]

end Frames

end OpenJax.Model.AnthropicMessages
