import OpenJax.Web.Segments

set_option autoImplicit false

namespace OpenJax.Web

open Shared

def ReasoningBlock.textOf (segment : String) (block : ReasoningBlock) : List String :=
  if block.reasoningSegmentId = some segment then [block.content] else []

def blockTexts (segment : String) (blocks : List ReasoningBlock) : List String :=
  blocks.flatMap (ReasoningBlock.textOf segment)

def ChatMessage.reasoningTexts (turnId segment : String) (message : ChatMessage) : List String :=
  if isOfTurn turnId message then blockTexts segment (message.reasoningBlocks.getD []) else []

variable (host : Host)

def nextReasoning (turnId segment : String) (shown : Option String) (event : StreamEvent) :
    Option String :=
  if isReasoningOf turnId segment event ∧ deltaText host event ≠ "" then
    some (shown.getD "" ++ deltaText host event)
  else shown

section

variable {host} {messages : List ChatMessage} {turnId segment : String} {event : StreamEvent}
  {shown : Option String} {blocks : List ReasoningBlock}

theorem textOf_own {block : ReasoningBlock} (own : block.reasoningSegmentId = some segment) :
    block.textOf segment = [block.content] := by
  rw [ReasoningBlock.textOf, if_pos own]

theorem textOf_other {block : ReasoningBlock} {place : String}
    (own : block.reasoningSegmentId = some place) (apart : place ≠ segment) :
    block.textOf segment = [] := by
  rw [ReasoningBlock.textOf, if_neg]
  intro same
  exact apart (Option.some.inj (own.symm.trans same))

theorem blockTexts_close (segment : String) (blocks : List ReasoningBlock) (eventSeq : Nat) (timestamp : String) :
    blockTexts segment (blocks.map fun block => block.close eventSeq timestamp) =
      blockTexts segment blocks := by
  apply flatMap_map_same
  intro block
  unfold ReasoningBlock.close
  split <;> rfl

theorem blockTexts_absent
    (absent : ∀ block ∈ blocks, block.reasoningSegmentId ≠ some segment) :
    blockTexts segment blocks = [] := by
  apply List.flatMap_eq_nil_iff.mpr
  intro block member
  rw [ReasoningBlock.textOf, if_neg (absent block member)]

theorem truthy_some {text : Option String} {value : String} (named : truthy text = some value) :
    text = some value := by
  obtain ⟨same, -⟩ := Option.filter_eq_some_iff.mp named
  exact same

theorem blockTexts_append_other {place turn delta timestamp : String} {eventSeq : Nat}
    {reasoning : Option String} (named : truthy reasoning = some place) (apart : place ≠ segment) :
    blockTexts segment (appendReasoningBlock blocks turn delta timestamp eventSeq reasoning) =
      blockTexts segment blocks := by
  obtain rfl := truthy_some named
  unfold appendReasoningBlock
  rw [named]
  simp only
  split
  next index found =>
    obtain ⟨block, there, holds⟩ := findIdx?_item found
    have own := of_decide_eq_true holds
    apply flatMap_modify_found there
    rw [textOf_other own apart, textOf_other (by exact own) apart]
  · rw [blockTexts, List.flatMap_append, List.flatMap_singleton, textOf_other (by rfl) apart,
      List.append_nil]
    exact blockTexts_close segment blocks eventSeq timestamp

theorem blockTexts_append_own {turn delta timestamp : String} {eventSeq : Nat}
    {reasoning : Option String} (shown : Option String) (named : truthy reasoning = some segment)
    (known : blockTexts segment blocks = shown.toList) :
    blockTexts segment (appendReasoningBlock blocks turn delta timestamp eventSeq reasoning) =
      [shown.getD "" ++ delta] := by
  obtain rfl := truthy_some named
  unfold appendReasoningBlock
  rw [named]
  simp only
  split
  next index found =>
    obtain ⟨block, there, holds⟩ := findIdx?_item found
    have own := of_decide_eq_true holds
    cases shown with
    | none =>
      have nothing := List.flatMap_eq_nil_iff.mp known block (List.mem_of_getElem? there)
      rw [textOf_own own] at nothing
      cases nothing
    | some content =>
      obtain ⟨alone, changed⟩ := flatMap_modify_only (fun block => block.append delta eventSeq) there
        (by simp [textOf_own own]) known
      rw [textOf_own own] at alone
      rw [blockTexts, changed, textOf_own (by exact own)]
      simp [ReasoningBlock.append, List.singleton_inj.mp alone]
  next missing =>
    have nothing : blockTexts segment blocks = [] := by
      apply blockTexts_absent
      intro block member
      exact of_decide_eq_false (List.findIdx?_eq_none_iff.mp missing block member)
    have closed := blockTexts_close segment blocks eventSeq timestamp
    rw [blockTexts] at closed
    rw [known, Option.toList_eq_nil_iff] at nothing
    rw [blockTexts, List.flatMap_append, List.flatMap_singleton, closed, known, nothing,
      textOf_own (by rfl)]
    simp [openedBlock]

theorem reasoningTexts_view (turnId segment : String) :
    TextView (ChatMessage.reasoningTexts turnId segment) where
  others message other := by
    simp [ChatMessage.reasoningTexts, isOfTurn, other]
  closes message eventSeq timestamp := by
    unfold ChatMessage.reasoningTexts
    cases blocks : message.reasoningBlocks with
    | none => rfl
    | some blocks =>
      simp only [Option.map_some, Option.getD_some, blockTexts_close]
      rfl
  drafts _ := rfl

variable {message : ChatMessage}

theorem reasoningTexts_of_turn (segment : String) (own : isOfTurn turnId message) :
    message.reasoningTexts turnId segment =
      blockTexts segment (message.reasoningBlocks.getD []) := by
  rw [ChatMessage.reasoningTexts, if_pos own]

theorem reasoningTexts_other (turn : String) (own : isOfTurn turn message) (apart : turn ≠ turnId) :
    message.reasoningTexts turnId segment = [] := by
  rw [ChatMessage.reasoningTexts, if_neg]
  intro both
  simp only [isOfTurn, Bool.and_eq_true, decide_eq_true_eq] at own both
  exact apart (Option.some.inj (own.1.symm.trans both.1))

theorem reasoningTexts_absent
    (absent : findAssistantMessageIndexByReasoningSegment messages turnId segment = none) :
    messages.flatMap (ChatMessage.reasoningTexts turnId segment) = [] := by
  apply List.flatMap_eq_nil_iff.mpr
  intro message member
  by_cases own : isOfTurn turnId message = true
  · have fails := lastIndex_none.mp absent message member
    rw [own, Bool.true_and, List.any_eq_false] at fails
    rw [reasoningTexts_of_turn segment own]
    apply blockTexts_absent
    intro block inside
    simpa using fails block inside
  · rw [ChatMessage.reasoningTexts, if_neg own]

theorem reasoningTexts_target {place : String} {index : Nat}
    (found : (findAssistantMessageIndexByReasoningSegment messages turnId place).or
      (findAssistantMessageIndex messages turnId none) = some index)
    (there : messages[index]? = some message) :
    message.reasoningTexts turnId place ≠ [] ∨
      messages.flatMap (ChatMessage.reasoningTexts turnId place) = [] := by
  cases first : findAssistantMessageIndexByReasoningSegment messages turnId place with
  | none => exact .inr (reasoningTexts_absent first)
  | some other =>
    left
    rw [first, Option.some_or] at found
    cases found
    obtain ⟨item, inside, own, holds⟩ := found_item first
    cases there.symm.trans inside
    obtain ⟨block, among, same⟩ := List.any_eq_true.mp holds
    rw [reasoningTexts_of_turn place own]
    intro nothing
    have unseen := List.flatMap_eq_nil_iff.mp nothing block among
    rw [textOf_own (of_decide_eq_true same)] at unseen
    cases unseen

variable {turn place delta timestamp : String} {eventSeq index : Nat} {reasoning : Option String}
  {message : ChatMessage}

theorem reasoningTexts_reason (own : isOfTurn turnId message) :
    (message.reason turn delta timestamp eventSeq reasoning).reasoningTexts turnId segment =
      blockTexts segment (appendReasoningBlock (message.reasoningBlocks.getD []) turn delta
        timestamp eventSeq reasoning) :=
  reasoningTexts_of_turn segment own

theorem reasoningTexts_modify_other (named : truthy reasoning = some place)
    (apart : (turn, place) ≠ (turnId, segment)) (there : messages[index]? = some message)
    (own : isOfTurn turn message) :
    (messages.modify index fun message =>
        message.reason turn delta timestamp eventSeq reasoning).flatMap
        (ChatMessage.reasoningTexts turnId segment) =
      messages.flatMap (ChatMessage.reasoningTexts turnId segment) := by
  apply flatMap_modify_found there
  by_cases turnSame : turn = turnId
  · subst turnSame
    have placeApart : place ≠ segment := by
      rintro rfl
      exact apart rfl
    rw [reasoningTexts_reason own, reasoningTexts_of_turn segment own,
      blockTexts_append_other named placeApart]
  · rw [reasoningTexts_other turn own turnSame, reasoningTexts_other turn (by exact own) turnSame]

theorem reasoningTexts_modify_own (named : truthy reasoning = some segment)
    (found : (findAssistantMessageIndexByReasoningSegment messages turnId segment).or
      (findAssistantMessageIndex messages turnId none) = some index)
    (there : messages[index]? = some message) (own : isOfTurn turnId message)
    (known : messages.flatMap (ChatMessage.reasoningTexts turnId segment) = shown.toList) :
    (messages.modify index fun message =>
        message.reason turnId delta timestamp eventSeq reasoning).flatMap
        (ChatMessage.reasoningTexts turnId segment) = [shown.getD "" ++ delta] := by
  have before := reasoningTexts_of_turn segment own
  rcases reasoningTexts_target found there with seen | unseen
  · cases shown with
    | none =>
      exact absurd (List.flatMap_eq_nil_iff.mp known message (List.mem_of_getElem? there)) seen
    | some content =>
      obtain ⟨alone, changed⟩ := flatMap_modify_only _ there seen known
      rw [before] at alone
      rw [changed, reasoningTexts_reason own]
      exact blockTexts_append_own (some content) named alone
  · have nothing := List.flatMap_eq_nil_iff.mp unseen message (List.mem_of_getElem? there)
    rw [before] at nothing
    rw [flatMap_modify_first there unseen, reasoningTexts_reason own]
    rw [known, Option.toList_eq_nil_iff] at unseen
    rw [unseen]
    exact blockTexts_append_own none named nothing

theorem reasoningTexts_push_own (named : truthy reasoning = some segment) :
    (reasoningMessage turnId delta timestamp eventSeq reasoning).reasoningTexts turnId segment =
      [delta] := by
  rw [reasoningTexts_of_turn segment (by simp [isOfTurn, isAssistantText, reasoningMessage])]
  simp [reasoningMessage, blockTexts, ReasoningBlock.textOf, openedBlock, truthy_some named]

theorem reasoningTexts_push_other (named : truthy reasoning = some place)
    (apart : (turn, place) ≠ (turnId, segment)) :
    (reasoningMessage turn delta timestamp eventSeq reasoning).reasoningTexts turnId segment =
      [] := by
  have own : isOfTurn turn (reasoningMessage turn delta timestamp eventSeq reasoning) := by
    simp [isOfTurn, isAssistantText, reasoningMessage]
  by_cases turnSame : turn = turnId
  · subst turnSame
    have placeApart : place ≠ segment := by
      rintro rfl
      exact apart rfl
    rw [reasoningTexts_of_turn segment own]
    simp [reasoningMessage, blockTexts, ReasoningBlock.textOf, openedBlock, truthy_some named,
      placeApart]
  · exact reasoningTexts_other turn own turnSame

theorem reasoningTexts_appendReasoningDelta (named : truthy reasoning = some place)
    (known : messages.flatMap (ChatMessage.reasoningTexts turnId segment) = shown.toList) :
    (appendReasoningDelta messages turn delta timestamp eventSeq reasoning).flatMap
        (ChatMessage.reasoningTexts turnId segment) =
      (if (turn, place) = (turnId, segment) ∧ delta ≠ "" then some (shown.getD "" ++ delta)
        else shown).toList := by
  by_cases nothing : delta = ""
  · rw [appendReasoningDelta, if_pos nothing, if_neg (fun both => both.2 nothing)]
    exact known
  · rw [appendReasoningDelta_target nothing]
    cases found : reasoningTarget messages turn reasoning with
    | none =>
      rw [List.flatMap_append, List.flatMap_singleton]
      by_cases key : (turn, place) = (turnId, segment)
      · cases key
        simp only [reasoningTarget, named, Option.or_eq_none_iff] at found
        have before := reasoningTexts_absent found.1
        rw [before, reasoningTexts_push_own named, if_pos ⟨rfl, nothing⟩]
        rw [known, Option.toList_eq_nil_iff] at before
        simp [before]
      · rw [if_neg (fun both => key both.1), known, reasoningTexts_push_other named key,
          List.append_nil]
    | some index =>
      obtain ⟨message, there, own⟩ := reasoningTarget_own found
      by_cases key : (turn, place) = (turnId, segment)
      · cases key
        simp only [reasoningTarget, named] at found
        rw [if_pos ⟨rfl, nothing⟩]
        exact reasoningTexts_modify_own named found there own known
      · rw [if_neg (fun both => key both.1), ← known]
        exact reasoningTexts_modify_other named key there own

theorem reasoningTexts_mergeAssistantDraft {canonical : Bool} :
    (mergeAssistantDraft messages turn delta timestamp canonical event).flatMap
        (ChatMessage.reasoningTexts turnId segment) =
      messages.flatMap (ChatMessage.reasoningTexts turnId segment) := by
  unfold mergeAssistantDraft
  simp only
  split
  · apply flatMap_modify_same
    intro message _
    split <;> rfl
  · apply pushed_unseen
    simp [ChatMessage.reasoningTexts, blockTexts]

theorem reasoningTexts_sealAssistantMessage {content : String} :
    (sealAssistantMessage messages turn content timestamp event).flatMap
        (ChatMessage.reasoningTexts turnId segment) =
      messages.flatMap (ChatMessage.reasoningTexts turnId segment) := by
  unfold sealAssistantMessage
  simp only
  split
  · exact flatMap_modify_same fun _ _ => rfl
  · split
    · exact flatMap_modify_same fun _ _ => rfl
    · split
      · rfl
      · apply pushed_unseen
        simp [ChatMessage.reasoningTexts, blockTexts]

theorem reasoningTexts_interruptTurn :
    (interruptTurn messages turn event).flatMap (ChatMessage.reasoningTexts turnId segment) =
      messages.flatMap (ChatMessage.reasoningTexts turnId segment) := by
  apply flatMap_map_same
  intro message
  split <;> rfl

theorem reasoningTexts_applyTextEvent (segmented : Segmented event)
    (known : messages.flatMap (ChatMessage.reasoningTexts turnId segment) = shown.toList) :
    (applyTextEvent host messages event).flatMap (ChatMessage.reasoningTexts turnId segment) =
      (nextReasoning host turnId segment shown event).toList := by
  unfold applyTextEvent
  cases own : truthy event.turnId with
  | none => simp [nextReasoning, isReasoningOf, own, known]
  | some turn =>
    cases type : event.type with
    | reasoningDelta =>
      obtain ⟨place, named⟩ := Option.isSome_iff_exists.mp (segmented.reasoning type)
      simp only
      rw [reasoningTexts_appendReasoningDelta named known, nextReasoning]
      simp [isReasoningOf, type, own, named, deltaText]
    | responseTextDelta =>
      simp [reasoningTexts_mergeAssistantDraft, nextReasoning, isReasoningOf, type, known]
    | responseCompleted =>
      simp [reasoningTexts_sealAssistantMessage, nextReasoning, isReasoningOf, type, known]
    | assistantMessage => exact absurd type segmented.current
    | turnInterrupted =>
      simp [reasoningTexts_interruptTurn, nextReasoning, isReasoningOf, type, known]
    | _ => simp [nextReasoning, isReasoningOf, type, known]

variable {log : List StreamEvent}

theorem reasoningTexts_messagesOf (segmented : ∀ event ∈ log, Segmented event) :
    (messagesOf host log).flatMap (ChatMessage.reasoningTexts turnId segment) =
      (log.foldl (nextReasoning host turnId segment) none).toList := by
  induction log using List.reverseRecOn with
  | nil => rfl
  | append_singleton log event ih =>
    have known := ih fun event member => segmented event (List.mem_append_left _ member)
    obtain ⟨before, same, applied⟩ :=
      (reasoningTexts_view turnId segment).applyMessages host
        (messagesOf host log) event
    rw [messagesOf_snoc, applied, List.foldl_append]
    exact reasoningTexts_applyTextEvent (segmented event (by simp)) (same.trans known)

theorem nextReasoning_text (host : Host) (turnId segment : String) (log : List StreamEvent) :
    (log.foldl (nextReasoning host turnId segment) none).getD "" =
      reasoningText host turnId segment log := by
  induction log using List.reverseRecOn with
  | nil => rfl
  | append_singleton log event ih =>
    rw [List.foldl_append, List.foldl_cons, List.foldl_nil, reasoningText, List.filter_append,
      List.map_append, String.join_append]
    rw [reasoningText] at ih
    rw [← ih, nextReasoning]
    by_cases own : isReasoningOf turnId segment event = true
    · by_cases nothing : deltaText host event = "" <;> simp [own, nothing]
    · simp [own]

theorem reasoningTexts_shown (segmented : ∀ event ∈ log, Segmented event)
    (some_text : reasoningText host turnId segment log ≠ "") :
    (messagesOf host log).flatMap (ChatMessage.reasoningTexts turnId segment) =
      [reasoningText host turnId segment log] := by
  have text := nextReasoning_text host turnId segment log
  rw [reasoningTexts_messagesOf segmented]
  cases shown : log.foldl (nextReasoning host turnId segment) none with
  | none =>
    rw [shown] at text
    exact absurd text.symm some_text
  | some content =>
    rw [shown, Option.getD_some] at text
    rw [Option.toList_some, text]

end

structure SegmentedLog (log : List StreamEvent) : Prop where
  numbered : Numbered log
  segmented : ∀ event ∈ log, Segmented event
  settled : log.Pairwise StaysCompleted

variable (host : Host)

theorem segments_shown_once {session : ChatSession} {log : List StreamEvent}
    (unfilled : Unfilled session) (written : SegmentedLog log) (turnId segment : String) :
    (responseText host turnId segment log ≠ "" →
      (applySessionEvents host session log).messages.flatMap
          (ChatMessage.responseTexts turnId segment) = [responseText host turnId segment log]) ∧
      (reasoningText host turnId segment log ≠ "" →
        (applySessionEvents host session log).messages.flatMap
            (ChatMessage.reasoningTexts turnId segment) =
          [reasoningText host turnId segment log]) := by
  rw [replayed_messages unfilled written.numbered]
  exact ⟨responseTexts_shown written.segmented written.settled,
    reasoningTexts_shown written.segmented⟩

def sourced (fields : Payload) : Payload := fields ++ [("stream_source", .str "model_live")]

def turnEvent (seq : Nat) (type : EventType) (fields : Payload) : StreamEvent :=
  { turnId := some "turn_1", eventSeq := seq, type := type, payload := sourced fields }

def thoughtLog : List StreamEvent :=
  [turnEvent 1 .reasoningDelta
      [("content_delta", .str "Let me"), ("reasoning_segment_id", .str "reason_1")],
    turnEvent 2 .responseTextDelta
      [("content_delta", .str "I lo"), ("response_segment_id", .str "resp_1")],
    turnEvent 3 .toolCallStarted [("tool_call_id", .str "call_1")],
    turnEvent 4 .reasoningDelta
      [("content_delta", .str " see."), ("reasoning_segment_id", .str "reason_1")],
    turnEvent 5 .responseTextDelta
      [("content_delta", .str "ok."), ("response_segment_id", .str "resp_1")],
    turnEvent 6 .responseCompleted [("content", .str ""), ("response_segment_id", .str "resp_1")]]

theorem segments_shown_once_of_thought :
    (responseText plainHost "turn_1" "resp_1" thoughtLog ≠ "" →
      (applySessionEvents plainHost {} thoughtLog).messages.flatMap
          (ChatMessage.responseTexts "turn_1" "resp_1") =
        [responseText plainHost "turn_1" "resp_1" thoughtLog]) ∧
      (reasoningText plainHost "turn_1" "reason_1" thoughtLog ≠ "" →
        (applySessionEvents plainHost {} thoughtLog).messages.flatMap
            (ChatMessage.reasoningTexts "turn_1" "reason_1") =
          [reasoningText plainHost "turn_1" "reason_1" thoughtLog]) := by
  have written : SegmentedLog thoughtLog :=
    ⟨by decide +kernel, by decide +kernel, by decide +kernel⟩
  have unfilled : Unfilled {} := ⟨rfl, rfl⟩
  exact ⟨(segments_shown_once plainHost unfilled written "turn_1" "resp_1").1,
    (segments_shown_once plainHost unfilled written "turn_1" "reason_1").2⟩

/-- A completion that names no segment goes to the first text of the turn when there is no draft. -/
def strayCompletion : List StreamEvent :=
  [turnEvent 1 .responseTextDelta
      [("content_delta", .str "a"), ("response_segment_id", .str "resp_1")],
    turnEvent 2 .responseCompleted [("content", .str "a"), ("response_segment_id", .str "resp_1")],
    turnEvent 3 .responseCompleted [("content", .str "x")]]

theorem stray_completion_replaces :
    Numbered strayCompletion ∧
      (∀ event ∈ strayCompletion, event.type ≠ .assistantMessage ∧
        (event.type = .responseTextDelta →
          isCanonicalDeltaEvent event ∧ (responseSegmentIdFromEvent event).isSome) ∧
        (event.type = .reasoningDelta → (reasoningSegmentIdFromEvent event).isSome)) ∧
      strayCompletion.Pairwise StaysCompleted ∧
      responseText plainHost "turn_1" "resp_1" strayCompletion = "a" ∧
      (applySessionEvents plainHost {} strayCompletion).messages.flatMap
        (ChatMessage.responseTexts "turn_1" "resp_1") = ["x"] := by
  refine ⟨by decide +kernel, by decide +kernel, by decide +kernel, by decide +kernel,
    by decide +kernel⟩

end OpenJax.Web
