import OpenJax.Model.ChatCompletions

set_option autoImplicit false

namespace OpenJax.Model.ChatCompletions

open Shared Streaming

structure ChatToolCall where
  id : String
  name : String
  arguments : String
  deriving DecidableEq, Repr

structure ChatMessage where
  text : Option String
  toolCalls : List ChatToolCall
  finishReason : Option String
  deriving DecidableEq, Repr

structure ChatChunk where
  content : Option String
  toolCalls : List ToolCallDelta
  finishReason : Option String
  deriving DecidableEq, Repr

structure IsToolCall (call : ChatToolCall) (entry : Json) : Prop where
  id : entry.get? "id" = some (.str call.id)
  name : (entry.get? "function").bind (·.get? "name") = some (.str call.name)
  arguments : (entry.get? "function").bind (·.get? "arguments") = some (.str call.arguments)

structure IsToolCallDelta (part : ToolCallDelta) (entry : Json) : Prop where
  index : entry.get? "index" = some (.int part.index)
  id : Holds (entry.get? "id") part.id
  name : Holds ((entry.get? "function").bind (·.get? "name")) part.name
  arguments : Holds ((entry.get? "function").bind (·.get? "arguments")) part.argsDelta

def IsMessageBody (message : ChatMessage) (body : Json) : Prop :=
  ∃ choice others shown entries, body.get? "choices" = some (.arr (choice :: others)) ∧
    choice.get? "message" = some shown ∧ Holds (shown.get? "content") message.text ∧
    HoldsList (shown.get? "tool_calls") entries ∧ List.Forall₂ IsToolCall message.toolCalls entries ∧
    Holds (choice.get? "finish_reason") message.finishReason

def IsChunkBody (chunk : ChatChunk) (body : Json) : Prop :=
  (body.get? "choices" = some (.arr []) ∧ chunk = ⟨none, [], none⟩) ∨
    ∃ choice others delta entries, body.get? "choices" = some (.arr (choice :: others)) ∧
      choice.get? "delta" = some delta ∧ Holds (delta.get? "content") chunk.content ∧
      HoldsList (delta.get? "tool_calls") entries ∧
      List.Forall₂ IsToolCallDelta chunk.toolCalls entries ∧
      Holds (choice.get? "finish_reason") chunk.finishReason

def deltas (chunks : List ChatChunk) : List ToolCallDelta := chunks.flatMap ChatChunk.toolCalls

/-- The deltas of a call give its id and name, each whole and never another one, and its
arguments in pieces. -/
structure SplitsCall (index : Nat) (call : ChatToolCall) (parts : List ToolCallDelta) : Prop where
  arguments : argsOf index parts = call.arguments
  idGiven : ∃ part ∈ parts, part.index = index ∧ part.id = some call.id
  idOnly : ∀ part ∈ parts, part.index = index → ∀ id ∈ part.id, id = call.id
  nameGiven : ∃ part ∈ parts, part.index = index ∧ part.name = some call.name
  nameOnly : ∀ part ∈ parts, part.index = index → ∀ name ∈ part.name, name = call.name

structure Splits (message : ChatMessage) (chunks : List ChatChunk) : Prop where
  text : String.join (chunks.filterMap ChatChunk.content) = message.text.getD ""
  indices : ∀ part ∈ deltas chunks, part.index < message.toolCalls.length
  calls : ∀ index call, message.toolCalls[index]? = some call →
    SplitsCall index call (deltas chunks)
  finishGiven : ∀ reason ∈ message.finishReason, ∃ chunk ∈ chunks,
    chunk.finishReason = some reason
  finishOnly : ∀ chunk ∈ chunks, ∀ reason ∈ chunk.finishReason,
    message.finishReason = some reason

/-- A stream that carries the message: the payloads read as its chunks, the end marker after
them. -/
def Streams (readJson : String → Except String Json) (message : ChatMessage)
    (chunks : List ChatChunk) (stream : SseStream) : Prop :=
  stream.Legal ∧ ∃ payloads bodies, stream.payloads = payloads ++ ["[DONE]"] ∧
    "[DONE]" ∉ payloads ∧ payloads.map readJson = bodies.map Except.ok ∧
    List.Forall₂ IsChunkBody chunks bodies ∧ Splits message chunks

def CreatedWhole (message : ChatMessage) (parts : List ToolCallDelta) : Prop :=
  ∀ index call, message.toolCalls[index]? = some call →
    ∀ first ∈ creator? index parts,
      first.id.getD "" = call.id ∧ first.name.getD "" = call.name

section Reading

theorem holdsList_asArr {field : Option Json} {entries : List Json}
    (held : HoldsList field entries) : (field.bind Json.asArr?).getD [] = entries := by
  rcases held with rfl | ⟨rfl, rfl | rfl⟩ <;> rfl

theorem firstChoice_of_choices {body choice : Json} {others : List Json}
    (choices : body.get? "choices" = some (.arr (choice :: others))) :
    firstChoice? body = some choice := by
  simp [firstChoice?, choices, Json.asArr?]

theorem firstChoice_of_none {body : Json} (choices : body.get? "choices" = some (.arr [])) :
    firstChoice? body = none := by
  simp [firstChoice?, choices, Json.asArr?]

theorem toolCallDelta_read {part : ToolCallDelta} {entry : Json}
    (stands : IsToolCallDelta part entry) : toolCallDelta? entry = some part := by
  simp [toolCallDelta?, stands.index, Json.asU64?, holds_asStr stands.id,
    holds_asStr stands.name, holds_asStr stands.arguments]

theorem toolCallDeltas_read {parts : List ToolCallDelta} {entries : List Json}
    (each : List.Forall₂ IsToolCallDelta parts entries) : entries.filterMap toolCallDelta? = parts := by
  induction each with
  | nil => rfl
  | cons stands _ ih => rw [List.filterMap_cons_some (toolCallDelta_read stands), ih]

theorem chunk_read {chunk : ChatChunk} {body : Json} (stands : IsChunkBody chunk body) :
    extractDeltaContentFromBody body = chunk.content ∧
      extractToolCallDeltas body = chunk.toolCalls ∧
      extractFinishReason body = chunk.finishReason := by
  rcases stands with ⟨choices, rfl⟩ |
    ⟨choice, others, delta, entries, choices, hasDelta, content, list, each, finish⟩
  · simp [extractDeltaContentFromBody, extractToolCallDeltas, extractFinishReason, delta?,
      firstChoice_of_none choices]
  · have first := firstChoice_of_choices choices
    refine ⟨?_, ?_, ?_⟩
    · simp only [extractDeltaContentFromBody, delta?, first, Option.bind_some, hasDelta]
      cases shown : chunk.content with
      | some text =>
        rw [shown] at content
        simp [show delta.get? "content" = some (.str text) from content]
      | none =>
        rw [shown] at content
        rcases content with absent | null
        · simp [absent]
        · simp [null]
    · simp only [extractToolCallDeltas, delta?, first, Option.bind_some, hasDelta]
      rw [holdsList_asArr list]
      exact toolCallDeltas_read each
    · simp only [extractFinishReason, first, Option.bind_some]
      exact holds_asStr finish

end Reading

section Folding

theorem onFrame_eq {chunk : ChatChunk} {body : Json} (stands : IsChunkBody chunk body)
    (stream : ChatStream) :
    (stream.onFrame body).assembled = stream.assembled ++ chunk.content.getD "" ∧
      (stream.onFrame body).pendingToolCalls =
        chunk.toolCalls.foldl addDelta stream.pendingToolCalls ∧
      (stream.onFrame body).stopReason =
        (chunk.finishReason.map StopReason.fromApiStr).or stream.stopReason := by
  obtain ⟨content, toolCalls, finish⟩ := chunk_read stands
  have texts : (stream.onText body).assembled = stream.assembled ++ chunk.content.getD "" ∧
      (stream.onText body).pendingToolCalls = stream.pendingToolCalls ∧
      (stream.onText body).stopReason = stream.stopReason := by
    unfold ChatStream.onText
    rw [content]
    cases chunk.content with
    | none => simp
    | some text =>
      dsimp only
      split
      · rename_i empty
        simp [String.isEmpty_iff.mp empty]
      · exact ⟨rfl, rfl, rfl⟩
  have reasoned : ((stream.onText body).onReasoning body).assembled =
        (stream.onText body).assembled ∧
      ((stream.onText body).onReasoning body).pendingToolCalls =
        (stream.onText body).pendingToolCalls ∧
      ((stream.onText body).onReasoning body).stopReason = (stream.onText body).stopReason := by
    unfold ChatStream.onReasoning
    split
    · split <;> exact ⟨rfl, rfl, rfl⟩
    · exact ⟨rfl, rfl, rfl⟩
  have called := foldl_onToolCallDelta ((stream.onText body).onReasoning body)
    (extractToolCallDeltas body)
  have used (told : ChatStream) : (told.onUsage body).assembled = told.assembled ∧
      (told.onUsage body).pendingToolCalls = told.pendingToolCalls ∧
      (told.onUsage body).stopReason = told.stopReason := by
    unfold ChatStream.onUsage
    split <;> exact ⟨rfl, rfl, rfl⟩
  have finished (told : ChatStream) : (told.onFinishReason body).assembled = told.assembled ∧
      (told.onFinishReason body).pendingToolCalls = told.pendingToolCalls ∧
      (told.onFinishReason body).stopReason =
        (chunk.finishReason.map StopReason.fromApiStr).or told.stopReason := by
    unfold ChatStream.onFinishReason
    rw [finish]
    cases chunk.finishReason <;> exact ⟨rfl, rfl, rfl⟩
  unfold ChatStream.onFrame
  dsimp only
  rw [toolCalls] at called ⊢
  refine ⟨?_, ?_, ?_⟩
  · rw [(used _).1, (finished _).1, called.2.1, reasoned.1, texts.1]
  · rw [(used _).2.1, (finished _).2.1, called.1, reasoned.2.1, texts.2.1]
  · rw [(used _).2.2, (finished _).2.2, called.2.2, reasoned.2.2, texts.2.2]

theorem foldl_onFrame {chunks : List ChatChunk} {bodies : List Json}
    (each : List.Forall₂ IsChunkBody chunks bodies) (stream : ChatStream) :
    (bodies.foldl ChatStream.onFrame stream).assembled =
        stream.assembled ++ String.join (chunks.filterMap ChatChunk.content) ∧
      (bodies.foldl ChatStream.onFrame stream).pendingToolCalls =
        (deltas chunks).foldl addDelta stream.pendingToolCalls ∧
      (bodies.foldl ChatStream.onFrame stream).stopReason =
        ((chunks.filterMap ChatChunk.finishReason).getLast?.map StopReason.fromApiStr).or
          stream.stopReason := by
  induction each generalizing stream with
  | nil => simp [deltas, String.join]
  | @cons chunk body rest others stands _ ih =>
    obtain ⟨text, calls, stop⟩ := onFrame_eq stands stream
    obtain ⟨laterText, laterCalls, laterStop⟩ := ih (stream.onFrame body)
    rw [List.foldl_cons]
    refine ⟨?_, ?_, ?_⟩
    · rw [laterText, text]
      cases content : chunk.content with
      | none => simp [content]
      | some shown =>
        rw [List.filterMap_cons_some content]
        apply String.toList_inj.mp
        simp [String.toList_join]
    · rw [laterCalls, calls, deltas, deltas, List.flatMap_cons, List.foldl_append]
    · rw [laterStop, stop]
      cases finish : chunk.finishReason with
      | none => simp [finish]
      | some reason =>
        rw [List.filterMap_cons_some finish, List.getLast?_cons]
        cases (rest.filterMap ChatChunk.finishReason).getLast? <;> simp

theorem readFrames_ok {readJson : String → Except String Json} {frames : List String}
    {bodies : List Json} (read : frames.map readJson = bodies.map Except.ok) (part : String)
    (process : ChatStream → Json → ChatStream) (stream : ChatStream) :
    readFrames readJson part process stream frames = .ok (bodies.foldl process stream) := by
  induction frames generalizing bodies stream with
  | nil =>
    obtain rfl : bodies = [] := by simpa using read.symm
    rfl
  | cons frame rest ih =>
    cases bodies with
    | nil => simp at read
    | cons body others =>
      simp only [List.map_cons, List.cons.injEq] at read
      rw [readFrames, read.1]
      exact ih read.2 (process stream body)

end Folding

theorem parse_stream {stream : SseStream} (legal : stream.Legal) {payloads : List String}
    (sent : stream.payloads = payloads ++ ["[DONE]"]) (marker : "[DONE]" ∉ payloads)
    {chunks : List Bytes} (whole : chunks.flatten = stream.bytes) :
    ∃ parser, SseParser.default.pushChunks chunks = (payloads, parser) ∧
      parser.finish.1 = [] ∧ parser.finish.2.sawDone = true := by
  have kept : payloads.filter (· != "[DONE]") = payloads := by
    rw [List.filter_eq_self]
    intro payload member
    rw [bne_iff_ne]
    rintro rfl
    exact marker member
  have read := pushChunks_stream legal whole
  unfold SseStream.payloads SseStream.allLines at sent
  rw [List.filterMap_append] at sent
  generalize (stream.lines.map Prod.fst).filterMap SseLine.payload? = found at read sent
  refine ⟨(SseParser.default.pushChunks chunks).2, Prod.ext ?_ rfl, ?_⟩
  all_goals rw [read]; dsimp only
  · cases last : stream.last.bind SseLine.payload? with
    | none =>
      have nothing : stream.last.toList.filterMap SseLine.payload? = [] := by
        cases shape : stream.last <;> simp_all
      rw [nothing, List.append_nil] at sent
      simp [sent, kept]
    | some payload =>
      have one : stream.last.toList.filterMap SseLine.payload? = [payload] := by
        cases shape : stream.last <;> simp_all
      rw [one] at sent
      rw [(List.append_inj' sent rfl).1, kept]
  · cases shape : stream.last with
    | none =>
      rw [shape, Option.toList_none, List.filterMap_nil, List.append_nil] at sent
      simp [sent, SseParser.finish, utf8]
    | some line =>
      have lineLegal := legal.line line (by simp [SseStream.allLines, shape])
      have single : [line].filterMap SseLine.payload? = line.payload?.toList := by
        cases given : line.payload? <;> simp [given]
      rw [shape, Option.toList_some, single] at sent
      have finished := finish_stream lineLegal (found.contains "[DONE]")
      rw [Option.map_some, Option.getD_some, finished]
      cases given : line.payload? with
      | none =>
        rw [given, Option.toList_none, List.append_nil] at sent
        simp [sent]
      | some payload =>
        rw [given, Option.toList_some] at sent
        obtain ⟨-, same⟩ := List.append_inj' sent rfl
        simp [List.singleton_inj.mp same]

section Agreement

variable (readJson : String → Except String Json)

def messageUses (message : ChatMessage) : List ToolUse :=
  message.toolCalls.map fun call => ⟨call.id, call.name, readInput readJson call.arguments⟩

def pendingUses (calls : List PendingToolCall) : List ToolUse :=
  calls.map fun call => ⟨call.id, call.name, readInput readJson call.args⟩

theorem toolCallBlock_read {call : ChatToolCall} {entry : Json} (stands : IsToolCall call entry) :
    toolCallBlock readJson entry =
      .toolUse call.id call.name (readInput readJson call.arguments) := by
  simp [toolCallBlock, textOr, stands.id, stands.name, stands.arguments, Json.asStr?]

theorem toolCallBlocks_read {calls : List ChatToolCall} {entries : List Json}
    (each : List.Forall₂ IsToolCall calls entries) :
    entries.map (toolCallBlock readJson) =
      calls.map fun call => .toolUse call.id call.name (readInput readJson call.arguments) := by
  induction each with
  | nil => rfl
  | cons stands _ ih =>
    rw [List.map_cons, List.map_cons, toolCallBlock_read readJson stands, ih]

variable {message : ChatMessage}

theorem message_read {body : Json} (stands : IsMessageBody message body) :
    extractContentBlocksFromBody readJson body =
        textBlocks (message.text.getD "") ++ useBlocks (messageUses readJson message) ∧
      extractFinishReason body = message.finishReason := by
  obtain ⟨choice, others, shown, entries, choices, hasMessage, content, list, each, finish⟩ := stands
  have first := firstChoice_of_choices choices
  have calls : (((shown.get? "tool_calls").bind Json.asArr?).getD []).map
      (toolCallBlock readJson) = useBlocks (messageUses readJson message) := by
    rw [holdsList_asArr list, toolCallBlocks_read readJson each]
    simp [useBlocks, messageUses]
  constructor
  · simp only [extractContentBlocksFromBody, first, Option.bind_some, hasMessage, calls]
    cases given : message.text with
    | some text =>
      rw [given] at content
      rw [show shown.get? "content" = some (.str text) from content]
      rfl
    | none =>
      rw [given] at content
      rcases content with absent | null
      · rw [absent]
        rfl
      · rw [null]
        rfl
  · simp only [extractFinishReason, first, Option.bind_some]
    exact holds_asStr finish

variable {chunks : List ChatChunk}

theorem creator_isSome (splits : Splits message chunks) {index : Nat} {call : ChatToolCall}
    (present : message.toolCalls[index]? = some call) :
    ∃ first, creator? index (deltas chunks) = some first := by
  obtain ⟨part, member, here, -⟩ := (splits.calls index call present).idGiven
  rw [← Option.isSome_iff_exists, creator?, List.find?_isSome]
  exact ⟨part, member, by simp [here]⟩

theorem creator_none (splits : Splits message chunks) {index : Nat}
    (beyond : message.toolCalls[index]? = none) : creator? index (deltas chunks) = none := by
  rw [List.getElem?_eq_none_iff] at beyond
  rw [creator?, List.find?_eq_none]
  intro part member
  have below := splits.indices part member
  rw [decide_eq_true_eq]
  omega

theorem pendingUses_eq_iff (splits : Splits message chunks) :
    messageUses readJson message =
        pendingUses readJson ((deltas chunks).foldl addDelta []) ↔
      CreatedWhole message (deltas chunks) := by
  constructor
  · intro same index call present first created
    have entry := congrArg (fun uses : List ToolUse => uses[index]?) same
    simp only [messageUses, pendingUses, List.getElem?_map, present, foldl_addDelta, collected,
      Option.mem_def.mp created, Option.map_some, Option.some.injEq, ToolUse.mk.injEq] at entry
    exact ⟨entry.1.symm, entry.2.1.symm⟩
  · intro whole
    apply List.ext_getElem?
    intro index
    simp only [messageUses, pendingUses, List.getElem?_map, foldl_addDelta, collected]
    cases present : message.toolCalls[index]? with
    | none => simp [creator_none splits present]
    | some call =>
      obtain ⟨first, created⟩ := creator_isSome splits present
      obtain ⟨id, name⟩ := whole index call present first created
      simp [created, newCall, id, name, (splits.calls index call present).arguments]

end Agreement

variable {message : ChatMessage}

theorem lastReason {chunks : List ChatChunk} (splits : Splits message chunks) :
    (chunks.filterMap ChatChunk.finishReason).getLast? = message.finishReason := by
  cases last : (chunks.filterMap ChatChunk.finishReason).getLast? with
  | none =>
    rw [List.getLast?_eq_none_iff, List.filterMap_eq_nil_iff] at last
    cases given : message.finishReason with
    | none => rfl
    | some reason =>
      obtain ⟨chunk, member, told⟩ := splits.finishGiven reason given
      rw [last chunk member] at told
      cases told
  | some reason =>
    obtain ⟨chunk, member, told⟩ := List.mem_filterMap.mp (List.mem_of_getLast? last)
    exact (splits.finishOnly chunk member reason told).symm

variable {readJson : String → Except String Json}

theorem complete_eq {answer : HttpAnswer} {body : Json} (success : answer.success = true)
    (read : readJson answer.body = .ok body) (stands : IsMessageBody message body) :
    (message.text.getD "" = "" ∧ message.toolCalls = [] ∧
      ∃ error, complete readJson answer = .error error) ∨
    (¬ (message.text.getD "" = "" ∧ message.toolCalls = []) ∧
      ∃ response, complete readJson answer = .ok response ∧
        response.text = message.text.getD "" ∧
        response.toolUses = messageUses readJson message ∧ response.reasoning = none ∧
        response.stopReason = message.finishReason.map StopReason.fromApiStr) := by
  obtain ⟨content, finish⟩ := message_read readJson stands
  unfold complete
  simp only [read, success, Bool.not_true, Bool.false_eq_true, if_false, content, finish]
  by_cases empty : message.text.getD "" = "" ∧ message.toolCalls = []
  · left
    refine ⟨empty.1, empty.2, ?_⟩
    rw [if_pos (List.isEmpty_iff.mpr (blocks_eq_nil.mpr ⟨empty.1, by simp [messageUses, empty.2]⟩))]
    exact ⟨_, rfl⟩
  · right
    refine ⟨empty, ?_⟩
    have inhabited : ¬ (textBlocks (message.text.getD "") ++
        useBlocks (messageUses readJson message)).isEmpty = true := by
      rw [List.isEmpty_iff, blocks_eq_nil]
      simpa [messageUses] using empty
    rw [if_neg inhabited]
    obtain ⟨text, uses⟩ := text_blocks _ _ _ (rfl : ({
      content := textBlocks (message.text.getD "") ++ useBlocks (messageUses readJson message)
      reasoning := none
      usage := extractUsageFromPayload body
      stopReason := message.finishReason.map StopReason.fromApiStr
      raw := some body } : ModelResponse).content = _)
    exact ⟨_, rfl, text, uses, rfl, rfl⟩

theorem completeStream_eq {parts : List ChatChunk} {stream : SseStream}
    (streams : Streams readJson message parts stream) {chunks : List Bytes}
    (whole : chunks.flatten = stream.bytes) (status : String) :
    (message.text.getD "" = "" ∧ message.toolCalls = [] ∧
      ∃ error, completeStream readJson status chunks .eof = .error error) ∨
    (¬ (message.text.getD "" = "" ∧ message.toolCalls = []) ∧
      ∃ response sent, completeStream readJson status chunks .eof = .ok (response, sent) ∧
        response.text = message.text.getD "" ∧
        response.toolUses = pendingUses readJson ((deltas parts).foldl addDelta []) ∧
        response.reasoning = none ∧
        response.stopReason = message.finishReason.map StopReason.fromApiStr) := by
  obtain ⟨legal, payloads, bodies, sent, marker, read, each, splits⟩ := streams
  obtain ⟨parser, pushed, trailing, done⟩ := parse_stream legal sent marker whole
  obtain ⟨assembled, calls, stop⟩ := foldl_onFrame each ChatStream.empty
  rw [lastReason splits, ChatStream.empty, Option.or_none] at stop
  rw [splits.text, ChatStream.empty, String.empty_append] at assembled
  rw [ChatStream.empty] at calls
  have frames := readFrames_ok read "" ChatStream.onFrame ChatStream.empty
  have blocks : streamedBlocks readJson (bodies.foldl ChatStream.onFrame ChatStream.empty) =
      textBlocks (message.text.getD "") ++
        useBlocks (pendingUses readJson ((deltas parts).foldl addDelta [])) := by
    rw [streamedBlocks, ChatStream.empty, assembled, calls]
    simp [useBlocks, pendingUses]
  have count : pendingUses readJson ((deltas parts).foldl addDelta []) = [] ↔
      message.toolCalls = [] := by
    rw [pendingUses, List.map_eq_nil_iff]
    constructor
    · intro none
      by_contra inhabited
      obtain ⟨call, first⟩ := List.exists_mem_of_ne_nil _ inhabited
      obtain ⟨index, present⟩ := List.mem_iff_getElem?.mp first
      obtain ⟨delta, created⟩ := creator_isSome splits present
      have entry := foldl_addDelta (deltas parts) index
      simp [none, collected, created] at entry
    · intro none
      apply List.eq_nil_iff_forall_not_mem.mpr
      intro call member
      obtain ⟨index, present⟩ := List.mem_iff_getElem?.mp member
      rw [foldl_addDelta, collected, creator_none splits (by simp [none])] at present
      cases present
  have same : completeStream readJson status chunks .eof =
      respond readJson status (bodies.foldl ChatStream.onFrame ChatStream.empty) := by
    simp [completeStream, pushed, frames, trailing, done, readFrames]
  rw [same]
  unfold respond
  dsimp only
  rw [blocks]
  by_cases empty : message.text.getD "" = "" ∧ message.toolCalls = []
  · left
    refine ⟨empty.1, empty.2, ?_⟩
    rw [if_pos (List.isEmpty_iff.mpr (blocks_eq_nil.mpr ⟨empty.1, count.mpr empty.2⟩))]
    exact ⟨_, rfl⟩
  · right
    refine ⟨empty, ?_⟩
    have inhabited : ¬ (textBlocks (message.text.getD "") ++
        useBlocks (pendingUses readJson ((deltas parts).foldl addDelta []))).isEmpty = true := by
      rw [List.isEmpty_iff, blocks_eq_nil, count]
      exact empty
    rw [if_neg inhabited]
    refine ⟨_, _, rfl, ?_, ?_, rfl, stop⟩
    · exact (text_blocks _ _ _ rfl).1
    · exact (text_blocks _ _ _ rfl).2

/-- The streamed response is the one of the whole body exactly when every call's entry is
created by a delta with its id and its name. -/
theorem stream_agrees_iff (readJson : String → Except String Json) (message : ChatMessage)
    (answer : HttpAnswer) (body : Json) (success : answer.success = true)
    (read : readJson answer.body = .ok body) (stands : IsMessageBody message body)
    (parts : List ChatChunk) (stream : SseStream)
    (streams : Streams readJson message parts stream) (chunks : List Bytes)
    (whole : chunks.flatten = stream.bytes) (status : String) :
    Agree (complete readJson answer) (completeStream readJson status chunks .eof) ↔
      CreatedWhole message (deltas parts) := by
  obtain ⟨-, _, _, -, -, -, -, splits⟩ := id streams
  rcases complete_eq success read stands with ⟨text, none, error, failed⟩ | ⟨inhabited, response,
    extracted, responseText, responseUses, responseReasoning, responseStop⟩
  · rcases completeStream_eq streams whole status with ⟨-, -, other, streamFailed⟩ | ⟨filled, -⟩
    · rw [failed, streamFailed]
      refine ⟨?_, fun _ => .failed⟩
      intro _ index call present
      rw [none] at present
      cases present
    · exact absurd ⟨text, none⟩ filled
  · rcases completeStream_eq streams whole status with ⟨text, none, -⟩ | ⟨-, streamed, sent,
      assembled, streamedText, streamedUses, streamedReasoning, streamedStop⟩
    · exact absurd ⟨text, none⟩ inhabited
    · rw [extracted, assembled, ← pendingUses_eq_iff readJson splits]
      constructor
      · rintro ⟨-, uses, -, -⟩
        rwa [responseUses, streamedUses] at uses
      · intro same
        apply Agree.same
        · rw [responseText, streamedText]
        · rw [responseUses, streamedUses, same]
        · rw [responseReasoning, streamedReasoning]
        · rw [responseStop, streamedStop]

section Example

def callEntry (fields : List (String × Json)) : Json := .obj [("choices", .arr [.obj fields])]

def shellFunction : Json := .obj [("name", .str "shell"), ("arguments", .str "\x7b\x7d")]

def bodyText : String :=
  "\x7b\"choices\":[\x7b\"message\":\x7b\"content\":null,\"tool_calls\":[\x7b\"id\":" ++
    "\"c1\",\"function\":\x7b\"name\":\"shell\",\"arguments\":\"\x7b\x7d\"\x7d\x7d]\x7d" ++
    ",\"finish_reason\":\"tool_calls\"\x7d]\x7d"

def wholeText : String :=
  "\x7b\"choices\":[\x7b\"delta\":\x7b\"tool_calls\":[\x7b\"index\":0,\"id\":\"c1\"," ++
    "\"function\":\x7b\"name\":\"shell\",\"arguments\":\"\x7b\x7d\"\x7d\x7d]\x7d,\"fini" ++
    "sh_reason\":\"tool_calls\"\x7d]\x7d"

def namedText : String :=
  "\x7b\"choices\":[\x7b\"delta\":\x7b\"tool_calls\":[\x7b\"index\":0,\"function\":" ++
    "\x7b\"name\":\"shell\",\"arguments\":\"\x7b\x7d\"\x7d\x7d]\x7d\x7d]\x7d"

def identifiedText : String :=
  "\x7b\"choices\":[\x7b\"delta\":\x7b\"tool_calls\":[\x7b\"index\":0,\"id\":\"c1\"" ++
    "\x7d]\x7d,\"finish_reason\":\"tool_calls\"\x7d]\x7d"

def bodyJson : Json :=
  callEntry
    [("message", .obj [("content", .null),
        ("tool_calls", .arr [.obj [("id", .str "c1"), ("function", shellFunction)]])]),
      ("finish_reason", .str "tool_calls")]

def wholeJson : Json :=
  callEntry
    [("delta", .obj [("tool_calls", .arr
        [.obj [("index", .int 0), ("id", .str "c1"), ("function", shellFunction)]])]),
      ("finish_reason", .str "tool_calls")]

def namedJson : Json :=
  callEntry [("delta", .obj [("tool_calls", .arr
    [.obj [("index", .int 0), ("function", shellFunction)]])])]

def identifiedJson : Json :=
  callEntry
    [("delta", .obj [("tool_calls", .arr [.obj [("index", .int 0), ("id", .str "c1")]])]),
      ("finish_reason", .str "tool_calls")]

def readExample (text : String) : Except String Json :=
  match [(bodyText, bodyJson), (wholeText, wholeJson), (namedText, namedJson),
      (identifiedText, identifiedJson), ("\x7b\x7d", Json.empty)].lookup text with
  | some value => .ok value
  | none => .error "expected value at line 1 column 1"

def shellMessage : ChatMessage :=
  { text := none
    toolCalls := [⟨"c1", "shell", "\x7b\x7d"⟩]
    finishReason := some "tool_calls" }

def wholeParts : List ChatChunk :=
  [⟨none, [⟨0, some "c1", some "shell", some "\x7b\x7d"⟩], some "tool_calls"⟩]

def lateParts : List ChatChunk :=
  [⟨none, [⟨0, none, some "shell", some "\x7b\x7d"⟩], none⟩,
    ⟨none, [⟨0, some "c1", none, none⟩], some "tool_calls"⟩]

def streamOf (frames : List String) : SseStream :=
  { lines := frames.flatMap fun frame => [(.data true frame, false), (.other "", false)]
    last := some (.data true "[DONE]") }

theorem readExample_body : readExample bodyText = .ok bodyJson := by
  rw [readExample, List.lookup_cons_self]

theorem shellMessage_body : IsMessageBody shellMessage bodyJson := by
  refine ⟨_, _, _, _, rfl, rfl, .inr rfl, .inl rfl, .cons ⟨rfl, rfl, rfl⟩ .nil, rfl⟩

theorem splitsCall_shell {parts : List ToolCallDelta} (call : SplitsCall 0
    ⟨"c1", "shell", "\x7b\x7d"⟩ parts) (index : Nat) (other : ChatToolCall)
    (present : shellMessage.toolCalls[index]? = some other) : SplitsCall index other parts := by
  match index with
  | 0 =>
    cases present
    exact call
  | next + 1 => simp [shellMessage] at present

theorem wholeParts_streams :
    Streams readExample shellMessage wholeParts (streamOf [wholeText]) := by
  refine ⟨⟨by decide +kernel⟩, [wholeText], [wholeJson], rfl, by decide +kernel, rfl,
    .cons (.inr ⟨_, _, _, _, rfl, rfl, .inl rfl, .inl rfl,
      .cons ⟨rfl, rfl, rfl, rfl⟩ .nil, rfl⟩) .nil, ?_⟩
  refine ⟨by decide, by decide, splitsCall_shell ?_, ?_, by decide⟩
  · exact ⟨by decide, by decide, by decide, by decide, by decide⟩
  · intro reason given
    cases given
    exact ⟨_, List.mem_cons_self, rfl⟩

theorem lateParts_streams :
    Streams readExample shellMessage lateParts (streamOf [namedText, identifiedText]) := by
  refine ⟨⟨by decide +kernel⟩, [namedText, identifiedText], [namedJson, identifiedJson], rfl,
    by decide +kernel, rfl,
    .cons (.inr ⟨_, _, _, _, rfl, rfl, .inl rfl, .inl rfl,
        .cons ⟨rfl, .inl rfl, rfl, rfl⟩ .nil, .inl rfl⟩)
      (.cons (.inr ⟨_, _, _, _, rfl, rfl, .inl rfl, .inl rfl,
        .cons ⟨rfl, rfl, .inl rfl, .inl rfl⟩ .nil, rfl⟩) .nil), ?_⟩
  refine ⟨by decide, by decide, splitsCall_shell ?_, ?_, by decide⟩
  · exact ⟨by decide, by decide, by decide, by decide, by decide⟩
  · intro reason given
    cases given
    exact ⟨_, List.mem_cons_of_mem _ List.mem_cons_self, rfl⟩

theorem wholeParts_created : CreatedWhole shellMessage (deltas wholeParts) := by
  intro index call present first created
  match index with
  | 0 =>
    cases present
    cases created
    exact ⟨rfl, rfl⟩
  | next + 1 => simp [shellMessage] at present

def exampleAnswer : HttpAnswer := ⟨"200 OK", true, bodyText⟩

theorem stream_agrees_of_whole_call :
    Agree (complete readExample exampleAnswer)
      (completeStream readExample "200 OK" [(streamOf [wholeText]).bytes] .eof) := by
  have whole : [(streamOf [wholeText]).bytes].flatten = (streamOf [wholeText]).bytes :=
    List.flatten_singleton
  have read : readExample exampleAnswer.body = .ok bodyJson := readExample_body
  have agrees := stream_agrees_iff readExample shellMessage exampleAnswer bodyJson rfl read
    shellMessage_body wholeParts _ wholeParts_streams [(streamOf [wholeText]).bytes] whole "200 OK"
  exact agrees.mpr wholeParts_created

theorem late_id_is_lost :
    ¬ ∀ (readJson : String → Except String Json) (message : ChatMessage) (answer : HttpAnswer)
        (body : Json), answer.success = true → readJson answer.body = .ok body →
      IsMessageBody message body →
      ∀ (parts : List ChatChunk) (stream : SseStream), Streams readJson message parts stream →
      ∀ chunks : List Bytes, chunks.flatten = stream.bytes → ∀ status : String,
      Agree (complete readJson answer) (completeStream readJson status chunks .eof) := by
  intro always
  have whole : [(streamOf [namedText, identifiedText]).bytes].flatten =
      (streamOf [namedText, identifiedText]).bytes := List.flatten_singleton
  have read : readExample exampleAnswer.body = .ok bodyJson := readExample_body
  have agree := always readExample shellMessage exampleAnswer bodyJson rfl read
    shellMessage_body lateParts _ lateParts_streams
    [(streamOf [namedText, identifiedText]).bytes] whole "200 OK"
  rcases complete_eq (rfl : exampleAnswer.success = true) read shellMessage_body with ⟨-, none, -⟩ | ⟨-, response, extracted, -, uses, -⟩
  · cases none
  · rcases completeStream_eq lateParts_streams whole "200 OK" with
      ⟨-, none, -⟩ | ⟨-, streamed, sent, assembled, -, streamedUses, -⟩
    · cases none
    · rw [extracted, assembled] at agree
      obtain ⟨-, toolUses, -, -⟩ := agree
      have ids := congrArg (List.map ToolUse.id) toolUses
      rw [uses, streamedUses] at ids
      revert ids
      decide

end Example

end OpenJax.Model.ChatCompletions
