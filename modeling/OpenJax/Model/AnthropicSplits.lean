import OpenJax.Model.AnthropicEvents

set_option autoImplicit false

namespace OpenJax.Model.AnthropicMessages

open Shared Streaming

inductive AnthropicBlock where
  | text (text : String)
  | thinking (thinking : String)
  | toolUse (id name : String) (input : Json)

structure AnthropicMessage where
  blocks : List AnthropicBlock
  stopReason : Option String

namespace AnthropicBlock

def text? : AnthropicBlock → Option String
  | .text shown => some shown
  | _ => none

def thinking? : AnthropicBlock → Option String
  | .thinking thought => some thought
  | _ => none

def use? : AnthropicBlock → Option ToolUse
  | .toolUse id name input => some ⟨id, name, input⟩
  | _ => none

end AnthropicBlock

namespace AnthropicMessage

def text (message : AnthropicMessage) : String :=
  String.join (message.blocks.filterMap AnthropicBlock.text?)

def thinkings (message : AnthropicMessage) : List String :=
  message.blocks.filterMap AnthropicBlock.thinking?

def uses (message : AnthropicMessage) : List ToolUse :=
  message.blocks.filterMap AnthropicBlock.use?

end AnthropicMessage

def IsBlock : AnthropicBlock → Json → Prop
  | .text text, block => HasType block "text" ∧ block.get? "text" = some (.str text)
  | .thinking thinking, block =>
      HasType block "thinking" ∧ block.get? "thinking" = some (.str thinking)
  | .toolUse id name input, block =>
      HasType block "tool_use" ∧ block.get? "id" = some (.str id) ∧
        block.get? "name" = some (.str name) ∧
        (block.get? "input" = some input ∨ (input = .obj [] ∧ block.get? "input" = none))

def IsMessageBody (message : AnthropicMessage) (body : Json) : Prop :=
  ∃ entries, body.get? "content" = some (.arr entries) ∧
    List.Forall₂ IsBlock message.blocks entries ∧
    Holds (body.get? "stop_reason") message.stopReason

/-- How a block is streamed: the quiet events before it, what its start holds, and its deltas,
with a quiet event for each one that is absent. -/
structure BlockRendering where
  before : Nat
  first : String
  parts : List (Option String)

def joined (parts : List (Option String)) : String := String.join (parts.filterMap id)

namespace AnthropicBlock

def start (first : String) : AnthropicBlock → AnthropicEvent
  | .text _ => .startText first
  | .thinking _ => .startThinking first
  | .toolUse id name _ => .startToolUse id name

def delta : AnthropicBlock → String → AnthropicEvent
  | .text _ => .textDelta
  | .thinking _ => .thinkingDelta
  | .toolUse _ _ _ => .inputDelta

def render (block : AnthropicBlock) (rendering : BlockRendering) : List AnthropicEvent :=
  List.replicate rendering.before .quiet ++ block.start rendering.first ::
    (rendering.parts.map fun part => part.elim .quiet block.delta) ++ [.stop]

end AnthropicBlock

def Renders (readJson : String → Except String Json) :
    AnthropicBlock → BlockRendering → Prop
  | .text text, rendering => rendering.first ++ joined rendering.parts = text
  | .thinking thinking, rendering => rendering.first ++ joined rendering.parts = thinking
  | .toolUse _ _ input, rendering =>
      readJson (joined rendering.parts) = .ok input ∨
        (joined rendering.parts = "" ∧ input = .obj [])

namespace AnthropicEvent

def stopReason? : AnthropicEvent → Option String
  | .messageDelta reason => reason
  | _ => none

def Closing : AnthropicEvent → Prop
  | .quiet | .messageStop | .messageDelta _ => True
  | _ => False

end AnthropicEvent

structure Closes (message : AnthropicMessage) (closing : List AnthropicEvent) : Prop where
  only : ∀ event ∈ closing, event.Closing
  stopped : .messageStop ∈ closing
  reason : (closing.filterMap AnthropicEvent.stopReason?).getLast? = message.stopReason

def rendered (blocks : List AnthropicBlock) (renderings : List BlockRendering) :
    List AnthropicEvent := (List.zipWith AnthropicBlock.render blocks renderings).flatten

structure Streams (readJson : String → Except String Json) (message : AnthropicMessage)
    (renderings : List BlockRendering) (closing : List AnthropicEvent)
    (stream : SseStream) : Prop where
  legal : stream.Legal
  renders : List.Forall₂ (Renders readJson) message.blocks renderings
  closes : Closes message closing
  frames : ∃ bodies,
    (stream.payloads.filter (· != "[DONE]")).map readJson = bodies.map Except.ok ∧
      List.Forall₂ IsFrame (rendered message.blocks renderings ++ closing) bodies

def OneThinking (message : AnthropicMessage) : Prop :=
  (message.thinkings.dropWhile String.isEmpty).length ≤ 1

section Merging

theorem foldl_mergeThinking_length {merged : String} (inhabited : merged ≠ "")
    (thinkings : List String) :
    (thinkings.foldl mergeThinking merged).length =
      merged.length + (String.join thinkings).length + thinkings.length := by
  induction thinkings generalizing merged with
  | nil => simp [String.join]
  | cons thinking rest ih =>
    have step : mergeThinking merged thinking = merged.push '\n' ++ thinking := by
      rw [mergeThinking, if_neg (by rwa [String.isEmpty_iff])]
    have kept : mergeThinking merged thinking ≠ "" := by
      rw [step]
      intro empty
      have characters := congrArg String.length empty
      simp at characters
    rw [List.foldl_cons, ih kept, step]
    simp only [String.length_append, String.length_push, String.join_cons, List.length_cons]
    omega

theorem foldl_mergeThinking_blank (thinkings : List String) :
    thinkings.foldl mergeThinking "" =
        (thinkings.dropWhile String.isEmpty).foldl mergeThinking "" ∧
      String.join thinkings = String.join (thinkings.dropWhile String.isEmpty) := by
  induction thinkings with
  | nil => exact ⟨rfl, rfl⟩
  | cons thinking rest ih =>
    by_cases empty : thinking.isEmpty = true
    · obtain rfl := String.isEmpty_iff.mp empty
      rw [List.dropWhile_cons_of_pos empty, List.foldl_cons, String.join_cons, String.empty_append]
      exact ih
    · rw [List.dropWhile_cons_of_neg empty]
      exact ⟨rfl, rfl⟩

theorem mergeThinking_iff (thinkings : List String) :
    thinkings.foldl mergeThinking "" = String.join thinkings ↔
      (thinkings.dropWhile String.isEmpty).length ≤ 1 := by
  obtain ⟨merged, whole⟩ := foldl_mergeThinking_blank thinkings
  rw [merged, whole]
  have first := List.head?_dropWhile_not String.isEmpty thinkings
  cases left : thinkings.dropWhile String.isEmpty with
  | nil => simp [String.join]
  | cons thinking rest =>
    have inhabited : thinking ≠ "" := by
      rintro rfl
      simp [left] at first
    have once : mergeThinking "" thinking = thinking := by simp [mergeThinking]
    rw [List.foldl_cons, once, String.join_cons, List.length_cons]
    constructor
    · intro same
      have lengths := congrArg String.length same
      rw [foldl_mergeThinking_length inhabited, String.length_append] at lengths
      omega
    · intro single
      obtain rfl : rest = [] := List.length_eq_zero_iff.mp (by omega)
      simp [String.join]

end Merging

section Folding

variable {readJson : String → Except String Json}

theorem foldl_parts (event : String → AnthropicEvent) (place : String → Assembly)
    (step : ∀ shown piece, (place shown).on readJson (event piece) = place (shown ++ piece))
    (parts : List (Option String)) (shown : String) :
    (parts.map fun part => part.elim .quiet event).foldl (Assembly.on readJson) (place shown) =
      place (shown ++ joined parts) := by
  induction parts generalizing shown with
  | nil =>
    rw [joined, List.filterMap_nil, String.join_nil, String.append_empty]
    rfl
  | cons part rest ih =>
    cases part with
    | none => exact ih shown
    | some piece =>
      rw [List.map_cons, List.foldl_cons, Option.elim_some, step, ih, joined, joined,
        List.filterMap_cons_some (id_eq _), String.join_cons, String.append_assoc]

theorem foldl_quiet (count : Nat) (assembly : Assembly) :
    (List.replicate count AnthropicEvent.quiet).foldl (Assembly.on readJson) assembly =
      assembly := by
  induction count with
  | zero => rfl
  | succ count ih =>
    rw [List.replicate_succ, List.foldl_cons]
    exact ih

structure Collects (before after : Assembly) (text thinking : String)
    (uses : List ToolUse) : Prop where
  text : after.text = before.text ++ text
  thinking : after.thinking = before.thinking ++ thinking
  blocks : after.blocks = before.blocks ++ useBlocks uses
  stopReason : after.stopReason = before.stopReason

theorem Collects.trans {first second third : Assembly} {text laterText thinking laterThinking :
    String} {uses laterUses : List ToolUse} (start : Collects first second text thinking uses)
    (later : Collects second third laterText laterThinking laterUses) :
    Collects first third (text ++ laterText) (thinking ++ laterThinking) (uses ++ laterUses) where
  text := by rw [later.text, start.text, String.append_assoc]
  thinking := by rw [later.thinking, start.thinking, String.append_assoc]
  blocks := by rw [later.blocks, start.blocks, useBlocks, useBlocks, useBlocks, List.map_append,
    List.append_assoc]
  stopReason := by rw [later.stopReason, start.stopReason]

theorem foldl_render {block : AnthropicBlock} {rendering : BlockRendering}
    (noText : ∃ message, readJson "" = .error message) (renders : Renders readJson block rendering)
    (assembly : Assembly) :
    Collects assembly ((block.render rendering).foldl (Assembly.on readJson) assembly)
      (block.text?.getD "") (block.thinking?.getD "") block.use?.toList := by
  obtain ⟨before, first, parts⟩ := rendering
  simp only [AnthropicBlock.render, List.foldl_append, foldl_quiet, List.foldl_cons, List.foldl_nil]
  cases block with
  | text text =>
    have entered : assembly.on readJson (.startText first) =
      { assembly with text := assembly.text ++ first, blockType := some "text" } := rfl
    rw [AnthropicBlock.start, entered, foldl_parts _ (fun shown =>
      { assembly with text := assembly.text ++ shown, blockType := some "text" })]
    · exact ⟨congrArg (assembly.text ++ ·) renders, (String.append_empty).symm,
        (List.append_nil _).symm, rfl⟩
    · intro shown piece
      simp [Assembly.on, AnthropicBlock.delta, String.append_assoc]
  | thinking thinking =>
    have entered : assembly.on readJson (.startThinking first) =
      { assembly with
        thinking := assembly.thinking ++ first, blockType := some "thinking" } := rfl
    rw [AnthropicBlock.start, entered, foldl_parts _ (fun shown =>
      { assembly with thinking := assembly.thinking ++ shown, blockType := some "thinking" })]
    · exact ⟨(String.append_empty).symm, congrArg (assembly.thinking ++ ·) renders,
        (List.append_nil _).symm, rfl⟩
    · intro shown piece
      simp [Assembly.on, AnthropicBlock.delta, String.append_assoc]
  | toolUse id name input =>
    have entered : assembly.on readJson (.startToolUse id name) =
      { assembly with blockType := some "tool_use", id := id, name := name, args := "" } := rfl
    have read : readInput readJson (joined parts) = input := by
      rcases renders with parsed | ⟨blank, empty⟩
      · simp [readInput, show readJson (joined parts) = .ok input from parsed]
      · obtain ⟨message, failed⟩ := noText
        simp [readInput, show joined parts = "" from blank, failed, empty]
    rw [AnthropicBlock.start, entered, foldl_parts _ (fun shown =>
      { assembly with blockType := some "tool_use", id := id, name := name, args := shown }),
      String.empty_append]
    · exact ⟨(String.append_empty).symm, (String.append_empty).symm,
        by simp [Assembly.on, read, useBlocks, AnthropicBlock.use?], rfl⟩
    · intro shown piece
      simp [Assembly.on, AnthropicBlock.delta]

theorem foldl_rendered {blocks : List AnthropicBlock} {renderings : List BlockRendering}
    (noText : ∃ message, readJson "" = .error message)
    (renders : List.Forall₂ (Renders readJson) blocks renderings) (assembly : Assembly) :
    Collects assembly ((rendered blocks renderings).foldl (Assembly.on readJson) assembly)
      (String.join (blocks.filterMap AnthropicBlock.text?))
      (String.join (blocks.filterMap AnthropicBlock.thinking?))
      (blocks.filterMap AnthropicBlock.use?) := by
  induction renders generalizing assembly with
  | nil => exact ⟨String.append_empty.symm, String.append_empty.symm, by
      simp [rendered, useBlocks], rfl⟩
  | @cons block rendering blocks renderings renders _ ih =>
    have first := foldl_render noText renders assembly
    have joins := first.trans (ih _)
    rw [← List.foldl_append] at joins
    cases block with
    | text text => simpa [rendered, AnthropicBlock.text?, AnthropicBlock.thinking?,
        AnthropicBlock.use?, List.filterMap_cons] using joins
    | thinking thinking => simpa [rendered, AnthropicBlock.text?, AnthropicBlock.thinking?,
        AnthropicBlock.use?, List.filterMap_cons] using joins
    | toolUse id name input => simpa [rendered, AnthropicBlock.text?, AnthropicBlock.thinking?,
        AnthropicBlock.use?, List.filterMap_cons] using joins

theorem foldl_closing {closing : List AnthropicEvent}
    (only : ∀ event ∈ closing, event.Closing) (assembly : Assembly) :
    closing.foldl (Assembly.on readJson) assembly =
      { assembly with
        stopReason := ((closing.filterMap AnthropicEvent.stopReason?).getLast?.map
          StopReason.fromApiStr).or assembly.stopReason
        stopped := assembly.stopped || closing.contains .messageStop } := by
  induction closing generalizing assembly with
  | nil => simp
  | cons event rest ih =>
    have later := ih fun event member => only event (List.mem_cons_of_mem _ member)
    have closes := only event List.mem_cons_self
    rw [List.foldl_cons, later]
    cases event with
    | quiet => simp [Assembly.on, AnthropicEvent.stopReason?]
    | messageStop => simp [Assembly.on, AnthropicEvent.stopReason?]
    | messageDelta reason =>
      cases reason with
      | none => simp [Assembly.on, AnthropicEvent.stopReason?]
      | some reason =>
        rw [List.filterMap_cons_some (b := reason) (by rfl), List.getLast?_cons]
        cases (rest.filterMap AnthropicEvent.stopReason?).getLast? <;> simp [Assembly.on]
    | _ => exact closes.elim

theorem foldl_onFrame (readJson : String → Except String Json)
    {events : List AnthropicEvent} {bodies : List Json}
    (frames : List.Forall₂ IsFrame events bodies) (stream : AnthropicStream) :
    (bodies.foldl (AnthropicStream.onFrame readJson) stream).assembly =
      events.foldl (Assembly.on readJson) stream.assembly := by
  induction frames generalizing stream with
  | nil => rfl
  | cons frame _ ih => rw [List.foldl_cons, List.foldl_cons, ih, onFrame_assembly readJson frame]

theorem readFrames_ok {frames : List String} {bodies : List Json}
    (read : frames.map readJson = bodies.map Except.ok) (part : String)
    (stream : AnthropicStream) :
    readFrames readJson part stream frames =
      .ok (bodies.foldl (AnthropicStream.onFrame readJson) stream) := by
  induction frames generalizing bodies stream with
  | nil =>
    obtain rfl : bodies = [] := by simpa using read.symm
    rfl
  | cons frame rest ih =>
    cases bodies with
    | nil => simp at read
    | cons body others =>
      simp only [List.map_cons, List.cons.injEq] at read
      rw [readFrames, read.1]
      exact ih read.2 (stream.onFrame readJson body)

end Folding

section Agreement

variable {readJson : String → Except String Json} {message : AnthropicMessage}

theorem contentBlock_read {block : AnthropicBlock} {entry : Json} (stands : IsBlock block entry) :
    contentBlock? entry = match block with
      | .text text => if text.isEmpty then none else some (.text text)
      | .thinking _ => none
      | .toolUse id name input => some (.toolUse id name input) := by
  cases block with
  | text text =>
    obtain ⟨type, shown⟩ := stands
    simp [contentBlock?, typeOf_of_hasType type, shown, str?, Json.asStr?]
  | thinking thinking =>
    obtain ⟨type, -⟩ := stands
    simp [contentBlock?, typeOf_of_hasType type]
  | toolUse id name input =>
    obtain ⟨type, hasId, hasName, hasInput | ⟨rfl, absent⟩⟩ := stands
    · simp [contentBlock?, typeOf_of_hasType type, hasId, hasName, hasInput, str?, Json.asStr?]
    · simp [contentBlock?, typeOf_of_hasType type, hasId, hasName, absent, str?, Json.asStr?]

theorem blockThinking_read {block : AnthropicBlock} {entry : Json}
    (stands : IsBlock block entry) : blockThinking? entry = block.thinking? := by
  cases block with
  | text text => simp [blockThinking?, typeOf_of_hasType stands.1, AnthropicBlock.thinking?]
  | thinking thinking =>
    simp [blockThinking?, typeOf_of_hasType stands.1, stands.2, str?, Json.asStr?,
      AnthropicBlock.thinking?]
  | toolUse id name input =>
    simp [blockThinking?, typeOf_of_hasType stands.1, AnthropicBlock.thinking?]

theorem contentBlocks_read {blocks : List AnthropicBlock} {entries : List Json}
    (each : List.Forall₂ IsBlock blocks entries) :
    String.join ((entries.filterMap contentBlock?).filterMap AssistantContentBlock.text?) =
        String.join (blocks.filterMap AnthropicBlock.text?) ∧
      (entries.filterMap contentBlock?).filterMap AssistantContentBlock.toolUse? =
        blocks.filterMap AnthropicBlock.use? ∧
      (entries.filterMap contentBlock? = [] ↔
        String.join (blocks.filterMap AnthropicBlock.text?) = "" ∧
          blocks.filterMap AnthropicBlock.use? = []) := by
  induction each with
  | nil => exact ⟨rfl, rfl, by simp [String.join]⟩
  | @cons block entry blocks entries stands _ ih =>
    obtain ⟨texts, uses, nothing⟩ := ih
    have read := contentBlock_read stands
    cases block with
    | text text =>
      by_cases empty : text = ""
      · subst empty
        rw [List.filterMap_cons_none (by simpa using read), texts, uses, nothing]
        simp [AnthropicBlock.text?, AnthropicBlock.use?, List.filterMap_cons]
      · rw [List.filterMap_cons_some (b := .text text) (by simpa [empty] using read)]
        simp [AnthropicBlock.text?, AnthropicBlock.use?, List.filterMap_cons, texts, uses, empty,
          AssistantContentBlock.text?, AssistantContentBlock.toolUse?]
    | thinking thinking =>
      rw [List.filterMap_cons_none read, texts, uses, nothing]
      simp [AnthropicBlock.text?, AnthropicBlock.use?, List.filterMap_cons]
    | toolUse id name input =>
      rw [List.filterMap_cons_some read]
      simp [AnthropicBlock.text?, AnthropicBlock.use?, List.filterMap_cons, texts, uses,
        AssistantContentBlock.text?, AssistantContentBlock.toolUse?]

theorem thinkings_read {blocks : List AnthropicBlock} {entries : List Json}
    (each : List.Forall₂ IsBlock blocks entries) :
    entries.filterMap blockThinking? = blocks.filterMap AnthropicBlock.thinking? := by
  induction each with
  | nil => rfl
  | cons stands _ ih => rw [List.filterMap_cons, List.filterMap_cons, ih, blockThinking_read stands]

def shownThinking (thinking : String) : Option String :=
  if thinking.isEmpty then none else some thinking

theorem shownThinking_getD (thinking : String) : (shownThinking thinking).getD "" = thinking := by
  unfold shownThinking
  by_cases empty : thinking = "" <;> simp [empty]

theorem complete_eq {answer : HttpAnswer} {body : Json} (success : answer.success = true)
    (read : readJson answer.body = .ok body) (stands : IsMessageBody message body) :
    (message.text = "" ∧ message.uses = [] ∧
      ∃ error, complete readJson answer = .error error) ∨
    (¬ (message.text = "" ∧ message.uses = []) ∧
      ∃ response, complete readJson answer = .ok response ∧ response.text = message.text ∧
        response.toolUses = message.uses ∧
        response.reasoning = shownThinking (message.thinkings.foldl mergeThinking "") ∧
        response.stopReason = message.stopReason.map StopReason.fromApiStr) := by
  obtain ⟨entries, content, each, stop⟩ := stands
  obtain ⟨texts, uses, nothing⟩ := contentBlocks_read each
  change _ ↔ message.text = "" ∧ message.uses = [] at nothing
  have blocks : extractContentBlocksFromBody body = entries.filterMap contentBlock? := by
    simp [extractContentBlocksFromBody, content, Json.asArr?]
  have thinking : extractThinkingFromBody body =
      shownThinking (message.thinkings.foldl mergeThinking "") := by
    simp [extractThinkingFromBody, content, Json.asArr?, thinkings_read each, shownThinking,
      AnthropicMessage.thinkings]
  have reason : str? (body.get? "stop_reason") = message.stopReason := holds_asStr stop
  unfold complete
  simp only [read, success, Bool.not_true, Bool.false_eq_true, if_false, blocks, thinking, reason,
    List.isEmpty_iff, nothing]
  by_cases empty : message.text = "" ∧ message.uses = []
  · left
    refine ⟨empty.1, empty.2, ?_⟩
    rw [if_pos empty]
    exact ⟨_, rfl⟩
  · right
    refine ⟨empty, ?_⟩
    rw [if_neg empty]
    exact ⟨_, rfl, texts, uses, rfl, rfl⟩

theorem completeStream_eq {renderings : List BlockRendering} {closing : List AnthropicEvent}
    {stream : SseStream} (noText : ∃ error, readJson "" = .error error)
    (streams : Streams readJson message renderings closing stream) {chunks : List Bytes}
    (whole : chunks.flatten = stream.bytes) (status : String) :
    (message.text = "" ∧ message.uses = [] ∧
      ∃ error, completeStream readJson status chunks .eof = .error error) ∨
    (¬ (message.text = "" ∧ message.uses = []) ∧
      ∃ response sent, completeStream readJson status chunks .eof = .ok (response, sent) ∧
        response.text = message.text ∧ response.toolUses = message.uses ∧
        response.reasoning = shownThinking (String.join message.thinkings) ∧
        response.stopReason = message.stopReason.map StopReason.fromApiStr) := by
  obtain ⟨legal, renders, ⟨only, stopped, reason⟩, bodies, read, frames⟩ := streams
  obtain ⟨kept, -⟩ := read_stream legal whole
  rw [← kept, List.map_append, eq_comm, List.map_eq_append_iff] at read
  obtain ⟨first, last, rfl, firstRead, lastRead⟩ := read
  -- The frames of the chunks and the trailing ones are one run of the assembler.
  have assembled := foldl_onFrame readJson frames AnthropicStream.empty
  rw [List.foldl_append, List.foldl_append, foldl_closing only, reason] at assembled
  obtain ⟨text, thinking, blocks, unset⟩ :=
    foldl_rendered noText renders AnthropicStream.empty.assembly
  have same : completeStream readJson status chunks .eof = respond status
      (last.foldl (AnthropicStream.onFrame readJson)
        (first.foldl (AnthropicStream.onFrame readJson) AnthropicStream.empty)) := by
    have ended := congrArg Assembly.stopped assembled
    simp only [List.contains_iff_mem.mpr stopped, Bool.or_true] at ended
    unfold completeStream
    dsimp only
    rw [readFrames_ok firstRead.symm]
    dsimp only
    rw [readFrames_ok lastRead.symm]
    dsimp only
    rw [if_pos (by rw [show AnthropicStream.sawMessageStop _ = true from ended, Bool.or_true])]
  rw [same]
  generalize last.foldl (AnthropicStream.onFrame readJson)
    (first.foldl (AnthropicStream.onFrame readJson) AnthropicStream.empty) = finished at assembled
  have finishedText : finished.assembled = message.text := by
    have shown := congrArg Assembly.text assembled
    rw [show finished.assembled = _ from shown, text, AnthropicStream.empty]
    exact String.empty_append
  have finishedThinking : finished.thinkingAssembled = String.join message.thinkings := by
    have shown := congrArg Assembly.thinking assembled
    rw [show finished.thinkingAssembled = _ from shown, thinking, AnthropicStream.empty]
    exact String.empty_append
  have finishedBlocks : finished.contentBlocks = useBlocks message.uses := by
    have shown := congrArg Assembly.blocks assembled
    rw [show finished.contentBlocks = _ from shown, blocks]
    rfl
  have finishedReason : finished.stopReason =
      message.stopReason.map StopReason.fromApiStr := by
    have shown := congrArg Assembly.stopReason assembled
    rw [show finished.stopReason = _ from shown, unset, AnthropicStream.empty]
    exact Option.or_none
  unfold respond
  dsimp only
  rw [finishedText, finishedThinking, finishedBlocks, finishedReason]
  by_cases empty : message.text = "" ∧ message.uses = []
  · left
    refine ⟨empty.1, empty.2, ?_⟩
    rw [if_pos (List.isEmpty_iff.mpr (blocks_eq_nil.mpr empty))]
    exact ⟨_, rfl⟩
  · right
    refine ⟨empty, ?_⟩
    rw [if_neg (by rwa [List.isEmpty_iff, blocks_eq_nil])]
    exact ⟨_, _, rfl, (text_blocks _ _ _ rfl).1, (text_blocks _ _ _ rfl).2, rfl, rfl⟩

end Agreement

/-- The streamed response is the one of the whole body exactly when merging the thinking blocks
inserts no separator, or when there is nothing to respond with. -/
theorem message_stream_agrees_iff (readJson : String → Except String Json)
    (noText : ∃ error, readJson "" = .error error) (message : AnthropicMessage)
    (answer : HttpAnswer) (body : Json) (success : answer.success = true)
    (read : readJson answer.body = .ok body) (stands : IsMessageBody message body)
    (renderings : List BlockRendering) (closing : List AnthropicEvent) (stream : SseStream)
    (streams : Streams readJson message renderings closing stream) (chunks : List Bytes)
    (whole : chunks.flatten = stream.bytes) (status : String) :
    Agree (complete readJson answer) (completeStream readJson status chunks .eof) ↔
      (message.text = "" ∧ message.uses = []) ∨ OneThinking message := by
  rcases complete_eq success read stands with ⟨text, none, error, failed⟩ | ⟨inhabited, response,
    extracted, responseText, responseUses, responseReasoning, responseStop⟩
  · rcases completeStream_eq noText streams whole status with
      ⟨-, -, other, streamFailed⟩ | ⟨filled, -⟩
    · rw [failed, streamFailed]
      exact ⟨fun _ => .inl ⟨text, none⟩, fun _ => .failed⟩
    · exact absurd ⟨text, none⟩ filled
  · rcases completeStream_eq noText streams whole status with ⟨text, none, -⟩ | ⟨-, streamed, sent,
      assembled, streamedText, streamedUses, streamedReasoning, streamedStop⟩
    · exact absurd ⟨text, none⟩ inhabited
    · rw [extracted, assembled, or_iff_right inhabited, OneThinking, ← mergeThinking_iff]
      constructor
      · rintro ⟨-, -, reasoning, -⟩
        rw [responseReasoning, streamedReasoning] at reasoning
        have shown := congrArg (Option.getD · "") reasoning
        rwa [shownThinking_getD, shownThinking_getD] at shown
      · intro merged
        apply Agree.same
        · rw [responseText, streamedText]
        · rw [responseUses, streamedUses]
        · rw [responseReasoning, streamedReasoning, merged]
        · rw [responseStop, streamedStop]

section Example

def blockStart (index : Nat) (kind : String) : String × Json :=
  (s!"\x7b\"type\":\"content_block_start\",\"index\":{index},\"content_block\":" ++
      s!"\x7b\"type\":\"{kind}\",\"{kind}\":\"\"\x7d\x7d",
    .obj [("type", .str "content_block_start"), ("index", .int index),
      ("content_block", .obj [("type", .str kind), (kind, .str "")])])

def blockDelta (index : Nat) (kind piece : String) : String × Json :=
  (s!"\x7b\"type\":\"content_block_delta\",\"index\":{index},\"delta\":" ++
      s!"\x7b\"type\":\"{kind}_delta\",\"{kind}\":\"{piece}\"\x7d\x7d",
    .obj [("type", .str "content_block_delta"), ("index", .int index),
      ("delta", .obj [("type", .str (kind ++ "_delta")), (kind, .str piece)])])

def blockStop (index : Nat) : String × Json :=
  (s!"\x7b\"type\":\"content_block_stop\",\"index\":{index}\x7d",
    .obj [("type", .str "content_block_stop"), ("index", .int index)])

def blockFrames (index : Nat) (kind piece : String) : List (String × Json) :=
  [blockStart index kind, blockDelta index kind piece, blockStop index]

def endFrames : List (String × Json) :=
  [("\x7b\"type\":\"message_delta\",\"delta\":\x7b\"stop_reason\":\"end_turn\"\x7d\x7d",
      .obj [("type", .str "message_delta"), ("delta", .obj [("stop_reason", .str "end_turn")])]),
    ("\x7b\"type\":\"message_stop\"\x7d", .obj [("type", .str "message_stop")])]

def thoughtMessage (thoughts : List String) : AnthropicMessage :=
  { blocks := thoughts.map .thinking ++ [.text "c"], stopReason := some "end_turn" }

def thoughtFrames : Nat → List String → List (String × Json)
  | index, [] => blockFrames index "text" "c" ++ endFrames
  | index, thought :: rest =>
      blockFrames index "thinking" thought ++ thoughtFrames (index + 1) rest

def thoughtBody (thoughts : List String) : String × Json :=
  ("\x7b\"content\":[" ++
      String.join (thoughts.map fun thought =>
        s!"\x7b\"type\":\"thinking\",\"thinking\":\"{thought}\"\x7d,") ++
      "\x7b\"type\":\"text\",\"text\":\"c\"\x7d],\"stop_reason\":\"end_turn\"\x7d",
    .obj [("content", .arr ((thoughts.map fun thought =>
        .obj [("type", .str "thinking"), ("thinking", .str thought)]) ++
          [.obj [("type", .str "text"), ("text", .str "c")]])),
      ("stop_reason", .str "end_turn")])

def thoughtTexts (thoughts : List String) : List (String × Json) :=
  thoughtBody thoughts :: thoughtFrames 0 thoughts

def readThoughts (thoughts : List String) (text : String) : Except String Json :=
  match (thoughtTexts thoughts).lookup text with
  | some value => .ok value
  | none => .error "expected value at line 1 column 1"

def thoughtStream (thoughts : List String) : SseStream :=
  { lines := (thoughtFrames 0 thoughts).flatMap fun frame =>
      [(.data true frame.1, false), (.other "", false)]
    last := none }

def thoughtRenderings (thoughts : List String) : List BlockRendering :=
  thoughts.map (fun thought => ⟨0, "", [some thought]⟩) ++ [⟨0, "", [some "c"]⟩]

def thoughtAnswer (thoughts : List String) : HttpAnswer :=
  ⟨"200 OK", true, (thoughtBody thoughts).1⟩

theorem thinkingFrames_frames (index : Nat) (thought : String) :
    List.Forall₂ IsFrame ((AnthropicBlock.thinking thought).render ⟨0, "", [some thought]⟩)
      ((blockFrames index "thinking" thought).map Prod.snd) :=
  .cons ⟨_, ⟨rfl, rfl, rfl, ⟨rfl, rfl, rfl⟩⟩, .inl rfl, rfl⟩
    (.cons ⟨rfl, ⟨rfl, rfl, rfl⟩⟩ (.cons ⟨rfl, ⟨rfl, rfl, rfl⟩⟩ .nil))

theorem textFrames_frames (index : Nat) :
    List.Forall₂ IsFrame ((AnthropicBlock.text "c").render ⟨0, "", [some "c"]⟩)
      ((blockFrames index "text" "c").map Prod.snd) :=
  .cons ⟨_, ⟨rfl, rfl, rfl, ⟨rfl, rfl, rfl⟩⟩, .inl rfl⟩
    (.cons ⟨rfl, ⟨rfl, rfl, rfl⟩⟩ (.cons ⟨rfl, ⟨rfl, rfl, rfl⟩⟩ .nil))

def thoughtClosing : List AnthropicEvent := [.messageDelta (some "end_turn"), .messageStop]

variable (thoughts : List String)

theorem thoughtFrames_frames (index : Nat) :
    List.Forall₂ IsFrame
      (rendered (thoughtMessage thoughts).blocks (thoughtRenderings thoughts) ++ thoughtClosing)
      ((thoughtFrames index thoughts).map Prod.snd) := by
  induction thoughts generalizing index with
  | nil =>
    exact List.rel_append (textFrames_frames index)
      (.cons ⟨rfl, ⟨rfl, rfl, rfl⟩, rfl⟩ (.cons ⟨rfl, ⟨rfl, rfl, rfl⟩⟩ .nil))
  | cons thought rest ih =>
    exact List.rel_append (thinkingFrames_frames index thought) (ih (index + 1))

theorem thoughtMessage_renders (readJson : String → Except String Json)
    (thoughts : List String) :
    List.Forall₂ (Renders readJson) (thoughtMessage thoughts).blocks
      (thoughtRenderings thoughts) := by
  induction thoughts with
  | nil => exact .cons rfl .nil
  | cons thought rest ih =>
    refine .cons ?_ ih
    simp [Renders, joined]

theorem thoughtMessage_body : IsMessageBody (thoughtMessage thoughts) (thoughtBody thoughts).2 := by
  refine ⟨_, rfl, ?_, rfl⟩
  induction thoughts with
  | nil => exact .cons ⟨rfl, rfl⟩ .nil
  | cons thought rest ih => exact .cons ⟨rfl, rfl⟩ ih

theorem readThoughts_text {thoughts : List String}
    (distinct : ((thoughtTexts thoughts).map Prod.fst).Nodup) {pair : String × Json}
    (member : pair ∈ thoughtTexts thoughts) : readThoughts thoughts pair.1 = .ok pair.2 := by
  have found : (thoughtTexts thoughts).lookup pair.1 = some pair.2 := by
    generalize thoughtTexts thoughts = pairs at distinct member
    induction pairs with
    | nil => cases member
    | cons first rest ih =>
      obtain ⟨absent, others⟩ := List.nodup_cons.mp distinct
      rcases List.mem_cons.mp member with rfl | later
      · exact List.lookup_cons_self
      · have differs : (pair.1 == first.1) = false := by
          rw [beq_eq_false_iff_ne]
          intro same
          exact absent (same ▸ List.mem_map_of_mem later)
        rw [List.lookup_cons, differs]
        exact ih others later
  rw [readThoughts, found]

theorem thoughtStream_streams {thoughts : List String}
    (distinct : ((thoughtTexts thoughts).map Prod.fst).Nodup)
    (legal : (thoughtStream thoughts).Legal)
    (marker : ∀ frame ∈ thoughtFrames 0 thoughts, frame.1 ≠ "[DONE]") :
    Streams (readThoughts thoughts) (thoughtMessage thoughts) (thoughtRenderings thoughts)
      thoughtClosing (thoughtStream thoughts) := by
  refine ⟨legal, thoughtMessage_renders _ thoughts, ⟨?_, by decide, rfl⟩,
    (thoughtFrames 0 thoughts).map Prod.snd, ?_, thoughtFrames_frames thoughts 0⟩
  · intro event member
    simp only [thoughtClosing, List.mem_cons, List.not_mem_nil, or_false] at member
    rcases member with rfl | rfl <;> trivial
  · have payloads : (thoughtStream thoughts).payloads =
        (thoughtFrames 0 thoughts).map Prod.fst := by
      simp only [SseStream.payloads, SseStream.allLines, thoughtStream, Option.toList_none,
        List.append_nil]
      induction thoughtFrames 0 thoughts with
      | nil => rfl
      | cons frame rest ih => exact congrArg (frame.1 :: ·) ih
    have kept : ((thoughtFrames 0 thoughts).map Prod.fst).filter (· != "[DONE]") =
        (thoughtFrames 0 thoughts).map Prod.fst := by
      rw [List.filter_eq_self]
      intro text member
      obtain ⟨frame, present, rfl⟩ := List.mem_map.mp member
      exact bne_iff_ne.mpr (marker frame present)
    rw [payloads, kept, List.map_map, List.map_map]
    apply List.map_congr_left
    intro frame member
    exact readThoughts_text distinct (List.mem_cons_of_mem _ member)

theorem readThoughts_nothing (shown : ∀ pair ∈ thoughtTexts thoughts, pair.1 ≠ "") :
    ∃ error, readThoughts thoughts "" = .error error := by
  have absent : (thoughtTexts thoughts).lookup "" = none := by
    rw [List.lookup_eq_none_iff]
    intro pair member
    exact bne_iff_ne.mpr (Ne.symm (shown pair member))
  exact ⟨_, by rw [readThoughts, absent]⟩

theorem stream_agrees_of_one_thought :
    Agree (complete (readThoughts ["a"]) (thoughtAnswer ["a"]))
      (completeStream (readThoughts ["a"]) "200 OK" [(thoughtStream ["a"]).bytes] .eof) := by
  have distinct : ((thoughtTexts ["a"]).map Prod.fst).Nodup := by decide +kernel
  have agrees := message_stream_agrees_iff (readThoughts ["a"])
    (readThoughts_nothing ["a"] (by decide +kernel)) (thoughtMessage ["a"]) (thoughtAnswer ["a"])
    (thoughtBody ["a"]).2 rfl (readThoughts_text distinct List.mem_cons_self)
    (thoughtMessage_body ["a"]) (thoughtRenderings ["a"]) thoughtClosing (thoughtStream ["a"])
    (thoughtStream_streams distinct ⟨by decide +kernel⟩ (by decide +kernel))
    [(thoughtStream ["a"]).bytes] List.flatten_singleton "200 OK"
  exact agrees.mpr (.inr (by unfold OneThinking; decide))

theorem second_thought_is_joined :
    ¬ ∀ (readJson : String → Except String Json), (∃ error, readJson "" = .error error) →
      ∀ (message : AnthropicMessage) (answer : HttpAnswer) (body : Json),
        answer.success = true → readJson answer.body = .ok body → IsMessageBody message body →
      ∀ (renderings : List BlockRendering) (closing : List AnthropicEvent) (stream : SseStream),
        Streams readJson message renderings closing stream →
      ∀ chunks : List Bytes, chunks.flatten = stream.bytes → ∀ status : String,
      Agree (complete readJson answer) (completeStream readJson status chunks .eof) := by
  intro always
  have distinct : ((thoughtTexts ["a", "b"]).map Prod.fst).Nodup := by decide +kernel
  have noText := readThoughts_nothing ["a", "b"] (by decide +kernel)
  have read := readThoughts_text distinct List.mem_cons_self
  have streams := thoughtStream_streams distinct ⟨by decide +kernel⟩ (by decide +kernel)
  have whole : [(thoughtStream ["a", "b"]).bytes].flatten = (thoughtStream ["a", "b"]).bytes :=
    List.flatten_singleton
  have agree := always (readThoughts ["a", "b"]) noText (thoughtMessage ["a", "b"])
    (thoughtAnswer ["a", "b"]) _ rfl read (thoughtMessage_body _) _ _ _ streams _ whole "200 OK"
  rcases complete_eq (rfl : (thoughtAnswer ["a", "b"]).success = true) read
    (thoughtMessage_body _) with ⟨none, -⟩ | ⟨-, response, extracted, -, -, reasoning, -⟩
  · revert none
    decide
  · rcases completeStream_eq noText streams whole "200 OK" with
      ⟨none, -⟩ | ⟨-, streamed, sent, assembled, -, -, streamedReasoning, -⟩
    · revert none
      decide
    · rw [extracted, assembled] at agree
      obtain ⟨-, -, same, -⟩ := agree
      rw [reasoning, streamedReasoning] at same
      revert same
      decide

end Example

end OpenJax.Model.AnthropicMessages
