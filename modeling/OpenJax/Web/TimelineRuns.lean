import OpenJax.Web.Timeline

set_option autoImplicit false

namespace OpenJax.Web

open Shared

structure Shaped (message : ChatMessage) : Prop where
  blocks : ∀ block ∈ message.reasoningBlocks.getD [], block.startEventSeq.isSome
  steps : message.kind = .toolSteps →
    message.startEventSeq.isSome ∧ ∃ step, message.toolSteps = some [step]
  plain : message.kind ≠ .toolSteps → message.role ≠ .assistant → message.startEventSeq.isSome
  content : message.kind ≠ .toolSteps → message.role = .assistant → message.content ≠ "" →
    message.textStartEventSeq.isSome

def AllShaped (messages : List ChatMessage) : Prop := ∀ message ∈ messages, Shaped message

section

variable {messages : List ChatMessage} {host : Host} {event : StreamEvent} {turnId : String}

variable {message : ChatMessage}

theorem AllShaped.push (all : AllShaped messages) (own : Shaped message) :
    AllShaped (messages ++ [message]) :=
  forall_push all own

theorem AllShaped.map {change : ChatMessage → ChatMessage} (all : AllShaped messages)
    (keeps : ∀ message, Shaped message → Shaped (change message)) :
    AllShaped (messages.map change) := by
  intro other member
  obtain ⟨message, before, rfl⟩ := List.mem_map.mp member
  exact keeps message (all message before)

theorem AllShaped.modify {change : ChatMessage → ChatMessage} {index : Nat}
    (all : AllShaped messages) (there : messages[index]? = some message)
    (keeps : Shaped (change message)) : AllShaped (messages.modify index change) :=
  forall_modify all there keeps

theorem AllShaped.get {index : Nat} (all : AllShaped messages)
    (there : messages[index]? = some message) : Shaped message :=
  all message (List.mem_of_getElem? there)

theorem text_of_turn (own : isOfTurn turnId message) :
    message.kind = .text ∧ message.role = .assistant := by
  simp only [isOfTurn, isAssistantText, Bool.and_eq_true, decide_eq_true_eq] at own
  exact own.2

theorem start_of_turn (own : isOfTurn turnId message) (part : Part) :
    message.start part =
      match part with
      | .text => message.textStartEventSeq
      | .block index =>
          ((message.reasoningBlocks.getD [])[index]?).bind ReasoningBlock.startEventSeq
      | .step _ => none := by
  obtain ⟨kind, role⟩ := text_of_turn own
  cases part <;> simp [ChatMessage.start, kind, role]

theorem shaped_of_turn (own : isOfTurn turnId message)
    (blocks : ∀ block ∈ message.reasoningBlocks.getD [], block.startEventSeq.isSome)
    (content : message.content ≠ "" → message.textStartEventSeq.isSome) : Shaped message := by
  obtain ⟨kind, role⟩ := text_of_turn own
  refine ⟨blocks, ?_, ?_, fun _ _ => content⟩
  · simp [kind]
  · simp [role]

theorem applyUserMessage_opens (host : Host) (messages : List ChatMessage) (event : StreamEvent) :
    Opened messages (applyUserMessage host messages event) event.eventSeq
      (userWrites host messages event) := by
  unfold applyUserMessage userWrites
  simp only
  split
  next index found =>
    obtain ⟨message, there, holds⟩ := findIdx?_item found
    simp only [Bool.and_eq_true, decide_eq_true_eq] at holds
    rw [found, Option.getD_some]
    apply Opened.modify there
    intro part
    cases part <;> simp [ChatMessage.start, holds.1.1.1, holds.1.1.2]
  next missing =>
    rw [missing, Option.getD_none]
    apply Opened.push
    intro part
    cases part <;> simp [ChatMessage.start]

theorem applyUserMessage_shaped (host : Host) (event : StreamEvent) (all : AllShaped messages) :
    AllShaped (applyUserMessage host messages event) := by
  unfold applyUserMessage
  simp only
  split
  next found =>
    obtain ⟨message, there, holds⟩ := findIdx?_item found
    simp only [Bool.and_eq_true, decide_eq_true_eq] at holds
    apply all.modify there
    refine ⟨(all.get there).blocks, ?_, ?_, ?_⟩
    · simp [holds.1.1.1]
    · simp
    · simp [holds.1.1.2]
  · apply all.push
    exact ⟨by simp, by simp, by simp, by simp⟩

theorem close_start (block : ReasoningBlock) (eventSeq : Nat) (timestamp : String) :
    (block.close eventSeq timestamp).startEventSeq = block.startEventSeq := by
  unfold ReasoningBlock.close
  split <;> rfl

theorem closeReasoningOn_opens (messages : List ChatMessage) (event : StreamEvent) :
    Opened messages (closeReasoningOn messages event) event.eventSeq [] := by
  unfold closeReasoningOn
  split
  · exact .same _ _
  · split
    · apply Opened.map
      intro message part
      split
      · cases part with
        | text => rfl
        | step index => rfl
        | block index =>
          cases blocks : message.reasoningBlocks with
          | none => simp [ChatMessage.start, blocks]
          | some blocks' =>
            simp only [ChatMessage.start, blocks, Option.map_some, Option.getD_some,
              List.getElem?_map]
            cases blocks'[index]? with
            | none => rfl
            | some block => simp [close_start]
      · rfl
    · exact .same _ _

theorem closeReasoningOn_shaped (event : StreamEvent) (all : AllShaped messages) :
    AllShaped (closeReasoningOn messages event) := by
  unfold closeReasoningOn
  split
  · exact all
  · split
    · apply all.map
      intro message shaped
      split
      · refine ⟨?_, shaped.steps, shaped.plain, shaped.content⟩
        cases blocks : message.reasoningBlocks with
        | none => simp
        | some blocks' =>
          simp only [Option.map_some, Option.getD_some, List.forall_mem_map, close_start]
          have own := shaped.blocks
          rw [blocks] at own
          exact own
      · exact shaped
    · exact all

theorem markTurnDraftFinal_opens (messages : List ChatMessage) (eventSeq : Nat)
    (turnId : Option String) : Opened messages (markTurnDraftFinal messages turnId) eventSeq [] := by
  unfold markTurnDraftFinal
  split
  · exact .same _ _
  · apply Opened.map
    intro message part
    split
    · cases part <;> rfl
    · rfl

theorem markTurnDraftFinal_shaped (turn : Option String) (all : AllShaped messages) :
    AllShaped (markTurnDraftFinal messages turn) := by
  unfold markTurnDraftFinal
  split
  · exact all
  · apply all.map
    intro message shaped
    split
    · exact ⟨shaped.blocks, shaped.steps, shaped.plain, shaped.content⟩
    · exact shaped

theorem interruptTurn_opens (messages : List ChatMessage) (turnId : String) (event : StreamEvent) :
    Opened messages (interruptTurn messages turnId event) event.eventSeq [] := by
  apply Opened.map
  intro message part
  split
  · cases part <;> rfl
  · rfl

theorem interruptTurn_shaped (all : AllShaped messages) :
    AllShaped (interruptTurn messages turnId event) := by
  apply all.map
  intro message shaped
  split
  · exact ⟨shaped.blocks, shaped.steps, shaped.plain, shaped.content⟩
  · exact shaped

end

section

variable {messages : List ChatMessage} {host : Host} {event : StreamEvent} {turnId : String}
  {blocks : List ReasoningBlock} {delta timestamp content : String} {eventSeq : Nat}
  {reasoning : Option String}

theorem blocks_modify_start {index : Nat} {block : ReasoningBlock}
    (there : blocks[index]? = some block) (started : block.startEventSeq.isSome) (place : Nat) :
    (((blocks.modify index fun block => block.append delta eventSeq)[place]?).bind
        ReasoningBlock.startEventSeq) =
      ((blocks[place]?).bind ReasoningBlock.startEventSeq).or
        (if place = index then some eventSeq else none) := by
  rw [look_modify there]
  obtain ⟨start, same⟩ := Option.isSome_iff_exists.mp started
  by_cases here : place = index
  · subst here
    simp [there, same, ReasoningBlock.append]
  · simp [here]

theorem close_starts (blocks : List ReasoningBlock) (eventSeq : Nat) (timestamp : String)
    (place : Nat) :
    ((blocks.map fun block => block.close eventSeq timestamp)[place]?).bind
        ReasoningBlock.startEventSeq =
      (blocks[place]?).bind ReasoningBlock.startEventSeq := by
  rw [List.getElem?_map]
  cases blocks[place]? with
  | none => rfl
  | some block => exact close_start block eventSeq timestamp

theorem appendReasoningBlock_start
    (started : ∀ block ∈ blocks, block.startEventSeq.isSome) (place : Nat) :
    ((appendReasoningBlock blocks turnId delta timestamp eventSeq reasoning)[place]?).bind
        ReasoningBlock.startEventSeq =
      ((blocks[place]?).bind ReasoningBlock.startEventSeq).or
        (if place = blockTarget blocks reasoning then some eventSeq else none) := by
  unfold appendReasoningBlock
  cases named : truthy reasoning with
  | some segment =>
    simp only
    split
    next index found =>
      have target : blockTarget blocks reasoning = index := by simp [blockTarget, named, found]
      obtain ⟨block, there, -⟩ := findIdx?_item found
      rw [target]
      exact blocks_modify_start there (started block (List.mem_of_getElem? there)) place
    next missing =>
      have target : blockTarget blocks reasoning = blocks.length := by
        simp [blockTarget, named, missing]
      rw [target, look_push, close_starts, List.length_map]
      rfl
  | none =>
    simp only
    split
    next index found =>
      have target : blockTarget blocks reasoning = index := by simp [blockTarget, named, found]
      obtain ⟨block, there, -⟩ := lastIndex_some found
      rw [target]
      exact blocks_modify_start there (started block (List.mem_of_getElem? there)) place
    next missing =>
      have target : blockTarget blocks reasoning = blocks.length := by
        simp [blockTarget, named, missing]
      rw [target, look_push]
      rfl

theorem appendReasoningBlock_started (started : ∀ block ∈ blocks, block.startEventSeq.isSome) :
    ∀ block ∈ appendReasoningBlock blocks turnId delta timestamp eventSeq reasoning,
      block.startEventSeq.isSome := by
  unfold appendReasoningBlock
  split
  · split
    next found =>
      obtain ⟨block, there, -⟩ := findIdx?_item found
      exact forall_modify started there (started block (List.mem_of_getElem? there))
    · apply forall_push
      · rw [List.forall_mem_map]
        intro block member
        rw [close_start]
        exact started block member
      · rfl
  · split
    next found =>
      obtain ⟨block, there, -⟩ := lastIndex_some found
      exact forall_modify started there (started block (List.mem_of_getElem? there))
    · exact forall_push started rfl

theorem appendReasoningDelta_opens (all : AllShaped messages) :
    Opened messages (appendReasoningDelta messages turnId delta timestamp eventSeq reasoning) eventSeq
      (reasoningWrites messages turnId delta reasoning) := by
  unfold reasoningWrites
  by_cases nothing : delta = ""
  · rw [appendReasoningDelta, if_pos nothing, if_pos nothing]
    exact .same _ _
  · rw [appendReasoningDelta_target nothing, if_neg nothing]
    cases found : reasoningTarget messages turnId reasoning with
    | none =>
      apply Opened.push
      intro part
      cases part with
      | block index => cases index <;> simp [ChatMessage.start, reasoningMessage, openedBlock]
      | _ => simp [ChatMessage.start, reasoningMessage]
    | some index =>
      obtain ⟨message, there, own⟩ := reasoningTarget_own found
      simp only [there, Option.bind_some]
      apply Opened.modify there
      intro part
      rw [start_of_turn own, start_of_turn (by exact own)]
      cases part with
      | block place =>
        simp only [ChatMessage.reason, Option.getD_some, Part.block.injEq]
        exact appendReasoningBlock_start (all.get there).blocks place
      | _ => simp [ChatMessage.reason]

theorem appendReasoningDelta_shaped (all : AllShaped messages) :
    AllShaped (appendReasoningDelta messages turnId delta timestamp eventSeq reasoning) := by
  by_cases nothing : delta = ""
  · rw [appendReasoningDelta, if_pos nothing]
    exact all
  · rw [appendReasoningDelta_target nothing]
    cases found : reasoningTarget messages turnId reasoning with
    | none =>
      apply all.push
      exact ⟨by simp [reasoningMessage, openedBlock], by simp [reasoningMessage],
        by simp [reasoningMessage], by simp [reasoningMessage]⟩
    | some index =>
      obtain ⟨message, there, own⟩ := reasoningTarget_own found
      have shaped := all.get there
      obtain ⟨kind, role⟩ := text_of_turn own
      apply all.modify there
      exact shaped_of_turn (by exact own) (appendReasoningBlock_started shaped.blocks)
        (shaped.content (by simp [kind]) role)

theorem mergeAssistantDraft_opens :
    Opened messages
      (mergeAssistantDraft messages turnId delta timestamp (isCanonicalDeltaEvent event) event)
      event.eventSeq (deltaWrites messages turnId event) := by
  unfold mergeAssistantDraft deltaWrites
  simp only
  cases found : findAssistantDraftIndex messages turnId (responseSegmentIdFromEvent event) with
  | none =>
    apply Opened.push
    intro part
    cases part <;> simp [ChatMessage.start]
  | some index =>
    obtain ⟨message, there, own⟩ := findAssistantDraftIndex_own found
    simp only [there, Option.any_some]
    split
    next dropped =>
      apply Opened.modify_same there
      intro part
      rw [if_pos dropped]
    next kept =>
      apply Opened.modify there
      intro part
      rw [if_neg kept, start_of_turn own, start_of_turn (by exact own)]
      cases part <;> simp

theorem mergeAssistantDraft_shaped (all : AllShaped messages) {canonical : Bool} :
    AllShaped (mergeAssistantDraft messages turnId delta timestamp canonical event) := by
  unfold mergeAssistantDraft
  simp only
  split
  next found =>
    obtain ⟨message, there, own⟩ := findAssistantDraftIndex_own found
    have shaped := all.get there
    apply all.modify there
    split
    · exact shaped
    · exact shaped_of_turn (by exact own) shaped.blocks (by simp)
  · apply all.push
    exact ⟨by simp, by simp, by simp, by simp⟩

theorem seal_start {message : ChatMessage} {segment : Option String} (own : isOfTurn turnId message)
    (part : Part) :
    (message.seal content timestamp segment eventSeq).start part =
      (message.start part).or (if part = .text then some eventSeq else none) := by
  rw [start_of_turn own, start_of_turn (by exact own)]
  cases part <;> simp [ChatMessage.seal, ChatMessage.endText]

theorem sealAssistantMessage_opens :
    Opened messages (sealAssistantMessage messages turnId content timestamp event) event.eventSeq
      (completionWrites messages turnId content event) := by
  unfold sealAssistantMessage completionWrites
  simp only
  cases found : findAssistantDraftIndex messages turnId (responseSegmentIdFromEvent event) with
  | some index =>
    obtain ⟨message, there, own⟩ := findAssistantDraftIndex_own found
    exact Opened.modify there (seal_start own)
  | none =>
    cases other : messages.findIdx? fun message =>
        isOfTurn turnId message && inSegment (responseSegmentIdFromEvent event) message with
    | some index =>
      obtain ⟨message, there, holds⟩ := findIdx?_item other
      simp only [Bool.and_eq_true] at holds
      exact Opened.modify there (seal_start holds.1)
    | none =>
      by_cases nothing : content = ""
      · rw [if_pos nothing]
        simp only [nothing, if_true]
        exact .same _ _
      · rw [if_neg nothing]
        simp only [nothing, if_false]
        apply Opened.push
        intro part
        cases part <;> simp [ChatMessage.start]

theorem seal_shaped {message : ChatMessage} {segment : Option String}
    (own : isOfTurn turnId message) (shaped : Shaped message) :
    Shaped (message.seal content timestamp segment eventSeq) := by
  have sealed : isOfTurn turnId (message.seal content timestamp segment eventSeq) := own
  apply shaped_of_turn sealed shaped.blocks
  intro _
  simp [ChatMessage.seal, ChatMessage.endText]

theorem sealAssistantMessage_shaped (all : AllShaped messages) :
    AllShaped (sealAssistantMessage messages turnId content timestamp event) := by
  unfold sealAssistantMessage
  simp only
  split
  next found =>
    obtain ⟨message, there, own⟩ := findAssistantDraftIndex_own found
    exact all.modify there (seal_shaped own (all.get there))
  · split
    next other =>
      obtain ⟨message, there, holds⟩ := findIdx?_item other
      simp only [Bool.and_eq_true] at holds
      exact all.modify there (seal_shaped holds.1 (all.get there))
    · split
      · exact all
      · apply all.push
        exact ⟨by simp, by simp, by simp, by simp⟩

variable (host : Host)

theorem applyTextEvent_opens (all : AllShaped messages) (current : event.type ≠ .assistantMessage) :
    Opened messages (applyTextEvent host messages event) event.eventSeq
      (textWrites host messages event) := by
  unfold applyTextEvent textWrites
  cases truthy event.turnId with
  | none => exact .same _ _
  | some turnId =>
    cases type : event.type with
    | reasoningDelta => exact appendReasoningDelta_opens all
    | responseTextDelta => exact mergeAssistantDraft_opens
    | responseCompleted => exact sealAssistantMessage_opens
    | assistantMessage => exact absurd type current
    | turnInterrupted => exact interruptTurn_opens messages turnId event
    | _ => exact .same _ _

theorem applyTextEvent_shaped (all : AllShaped messages)
    (current : event.type ≠ .assistantMessage) :
    AllShaped (applyTextEvent host messages event) := by
  unfold applyTextEvent
  cases truthy event.turnId with
  | none => exact all
  | some turnId =>
    cases type : event.type with
    | reasoningDelta => exact appendReasoningDelta_shaped all
    | responseTextDelta => exact mergeAssistantDraft_shaped all
    | responseCompleted => exact sealAssistantMessage_shaped all
    | assistantMessage => exact absurd type current
    | turnInterrupted => exact interruptTurn_shaped all
    | _ => exact all

theorem mergeToolStep_startEventSeq (previous : ToolStep) :
    (mergeToolStep host (some previous) event).startEventSeq = previous.startEventSeq := by
  have kept (step : ToolStep) : (withDuration host step).startEventSeq = step.startEventSeq := by
    unfold withDuration
    split <;> rfl
  simp only [mergeToolStep]
  split <;> rw [kept]

theorem createStep_startEventSeq :
    (createStepFromEvent host event {}).startEventSeq.getD event.eventSeq = event.eventSeq := by
  cases type : event.type <;> simp [createStepFromEvent, type]

theorem upsertToolStepMessage_opens (event : StreamEvent) (all : AllShaped messages) :
    Opened messages (upsertToolStepMessage host messages event) event.eventSeq
      (stepWrites host messages event) := by
  unfold upsertToolStepMessage stepWrites
  cases found : findToolStepMessageIndex host messages event with
  | none =>
    apply Opened.push
    intro part
    cases part with
    | step index =>
      cases index with
      | zero => simp [ChatMessage.start, createStep_startEventSeq]
      | succ index => simp [ChatMessage.start]
    | _ => simp [ChatMessage.start]
  | some index =>
    obtain ⟨message, _, step, there, _, kind, _, first, _⟩ := findToolStepMessageIndex_some found
    obtain ⟨-, only, alone⟩ := (all.get there).steps kind
    obtain rfl : only = step := by
      rw [alone] at first
      exact Option.some.inj first
    apply Opened.modify there
    intro part
    cases part with
    | step index =>
      cases index with
      | zero =>
        simp [ChatMessage.start, kind, alone, mergeToolStep_startEventSeq]
      | succ index => simp [ChatMessage.start, kind, alone]
    | text => simp [ChatMessage.start, kind]
    | block index => simp [ChatMessage.start]

theorem upsertToolStepMessage_shaped (event : StreamEvent) (all : AllShaped messages) :
    AllShaped (upsertToolStepMessage host messages event) := by
  unfold upsertToolStepMessage
  split
  · apply all.push
    exact ⟨by simp, fun _ => ⟨rfl, _, rfl⟩, by simp, by simp⟩
  next found =>
    obtain ⟨message, _, step, there, _, kind, _⟩ := findToolStepMessageIndex_some found
    have shaped := all.get there
    apply all.modify there
    exact ⟨shaped.blocks, fun _ => ⟨by simp, _, rfl⟩, by simp [kind], by simp [kind]⟩

theorem Opened.when {after : List ChatMessage} {spots : List Spot} (condition : Prop)
    [Decidable condition] (opened : Opened messages after eventSeq spots) :
    Opened messages (if condition then after else messages) eventSeq
      (if condition then spots else []) := by
  split
  · exact opened
  · exact .same _ _

theorem AllShaped.when {after : List ChatMessage} (condition : Prop) [Decidable condition]
    (all : AllShaped messages) (shaped : AllShaped after) :
    AllShaped (if condition then after else messages) := by
  split
  · exact shaped
  · exact all

theorem errorMessage_opens (messages : List ChatMessage) (event : StreamEvent) :
    Opened messages (messages ++ [errorMessage host event]) event.eventSeq
      [(messages.length, .text)] := by
  apply Opened.push
  intro part
  cases part <;> simp [ChatMessage.start, errorMessage]

theorem errorMessage_shaped (event : StreamEvent) : Shaped (errorMessage host event) :=
  ⟨by simp [errorMessage], by simp [errorMessage], by simp [errorMessage], by simp [errorMessage]⟩

theorem length_ended (messages : List ChatMessage) (event : StreamEvent) :
    (if endsDrafts event then markTurnDraftFinal messages event.turnId else messages).length =
      messages.length := by
  unfold markTurnDraftFinal
  split
  · split <;> simp
  · rfl

theorem applyMessages_opens (all : AllShaped messages) (current : event.type ≠ .assistantMessage) :
    Opened messages (applyMessages host messages event) event.eventSeq
        (writes host messages event) ∧
      AllShaped (applyMessages host messages event) := by
  have told := (applyUserMessage_opens host messages event).when (event.type = .userMessage)
  have all_told := all.when (event.type = .userMessage) (applyUserMessage_shaped host event all)
  have closed := told.append (closeReasoningOn_opens _ event)
  have all_closed := closeReasoningOn_shaped event all_told
  have written := closed.append (applyTextEvent_opens host all_closed current)
  have all_written := applyTextEvent_shaped host all_closed current
  have stepped := written.append
    ((upsertToolStepMessage_opens host event all_written).when (isToolStepEvent event))
  have all_stepped := all_written.when (isToolStepEvent event)
    (upsertToolStepMessage_shaped host event all_written)
  have ended := stepped.append
    ((markTurnDraftFinal_opens _ event.eventSeq event.turnId).when (endsDrafts event))
  have all_ended := all_stepped.when (endsDrafts event)
    (markTurnDraftFinal_shaped event.turnId all_stepped)
  have failed := ended.append ((errorMessage_opens host _ event).when (isErrorEvent event))
  refine ⟨?_, all_ended.when (isErrorEvent event) (all_ended.push (errorMessage_shaped host event))⟩
  rw [length_ended] at failed
  simp only [List.append_nil, ite_self] at failed
  exact failed

theorem starts_with_firstWrite {log : List StreamEvent} (all : AllShaped messages)
    (current : ∀ event ∈ log, event.type ≠ .assistantMessage) (spot : Spot) :
    startAt (log.foldl (applyMessages host) messages) spot =
        (startAt messages spot).or ((firstWrite host messages spot log).map StreamEvent.eventSeq) ∧
      AllShaped (log.foldl (applyMessages host) messages) := by
  induction log generalizing messages with
  | nil => simp [firstWrite, all]
  | cons event rest ih =>
    obtain ⟨opened, shaped⟩ := applyMessages_opens host all (current event List.mem_cons_self)
    obtain ⟨started, all_after⟩ := ih shaped fun other member =>
      current other (List.mem_cons_of_mem _ member)
    rw [List.foldl_cons]
    refine ⟨?_, all_after⟩
    rw [started, opened spot, Option.or_assoc, firstWrite]
    congr 1
    by_cases written : spot ∈ writes host messages event <;> simp [written]

end

end OpenJax.Web
