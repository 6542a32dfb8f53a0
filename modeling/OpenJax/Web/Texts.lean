import OpenJax.Web.Reducer

set_option autoImplicit false

namespace OpenJax.Web

open Shared

structure AssistantText where
  turnId : Option String
  responseSegmentId : Option String
  content : String
  deriving DecidableEq

abbrev TextKey := Option String × Option String

def AssistantText.key (text : AssistantText) : TextKey := (text.turnId, text.responseSegmentId)

def AssistantText.edit (update : String → String) (text : AssistantText) : AssistantText :=
  { text with content := update text.content }

def ChatMessage.asText (message : ChatMessage) : Option AssistantText :=
  if isAssistantText message then
    some ⟨message.turnId, message.responseSegmentId, message.content⟩
  else none

def textsOf (messages : List ChatMessage) : List AssistantText :=
  messages.filterMap ChatMessage.asText

def assistantTexts (session : ChatSession) : List AssistantText := textsOf session.messages

def Unique (texts : List AssistantText) : Prop := (texts.map AssistantText.key).Nodup

def upsertText (key : TextKey) (update : String → String) (texts : List AssistantText) :
    List AssistantText :=
  upsertRow AssistantText.key key (AssistantText.edit update) ⟨key.1, key.2, update ""⟩ texts

def HasTurn (turnId : String) (texts : List AssistantText) : Prop :=
  ∃ text ∈ texts, text.turnId = some turnId

instance (turnId : String) (texts : List AssistantText) : Decidable (HasTurn turnId texts) :=
  inferInstanceAs (Decidable (∃ _ ∈ _, _))

def seedText (turnId content : String) (texts : List AssistantText) : List AssistantText :=
  if HasTurn turnId texts then texts else texts ++ [⟨some turnId, none, content⟩]

section

variable {messages : List ChatMessage} {turnId : String} {segment : Option String} {index : Nat}

variable {message : ChatMessage}

theorem asText_of_turn (own : isOfTurn turnId message) :
    message.asText = some ⟨some turnId, message.responseSegmentId, message.content⟩ := by
  simp only [isOfTurn, Bool.and_eq_true, decide_eq_true_eq] at own
  rw [ChatMessage.asText, if_pos own.2, own.1]

theorem ofTurn_of_asText {text : AssistantText} (shown : message.asText = some text)
    (own : text.turnId = some turnId) :
    isOfTurn turnId message ∧ message.responseSegmentId = text.responseSegmentId := by
  unfold ChatMessage.asText at shown
  split at shown
  next assistant =>
    cases shown
    have turn : message.turnId = some turnId := own
    simp [isOfTurn, assistant, turn]
  · cases shown

theorem textsOf_append (first second : List ChatMessage) :
    textsOf (first ++ second) = textsOf first ++ textsOf second :=
  List.filterMap_append

variable {change : ChatMessage → ChatMessage}

theorem textsOf_map (same : ∀ message, (change message).asText = message.asText) :
    textsOf (messages.map change) = textsOf messages := by
  rw [textsOf, List.filterMap_map, textsOf]
  congr 1
  funext message
  exact same message

theorem textsOf_modify (same : ∀ message, messages[index]? = some message →
      (change message).asText = message.asText) :
    textsOf (messages.modify index change) = textsOf messages :=
  filterMap_modify_same same

theorem hasTurn_of_index (there : messages[index]? = some message) (own : isOfTurn turnId message) :
    HasTurn turnId (textsOf messages) :=
  ⟨_, List.mem_filterMap.mpr ⟨message, List.mem_of_getElem? there, asText_of_turn own⟩, rfl⟩

theorem not_hasTurn (none : ∀ message ∈ messages, isOfTurn turnId message = false) :
    ¬HasTurn turnId (textsOf messages) := by
  rintro ⟨text, member, own⟩
  obtain ⟨message, inside, shown⟩ := List.mem_filterMap.mp member
  have of_turn := (ofTurn_of_asText shown own).1
  rw [none message inside] at of_turn
  cases of_turn

theorem key_not_mem (none : ∀ message ∈ messages,
      (isOfTurn turnId message && message.responseSegmentId = segment) = false) :
    (some turnId, segment) ∉ (textsOf messages).map AssistantText.key := by
  intro among
  obtain ⟨text, member, same⟩ := List.mem_map.mp among
  obtain ⟨message, inside, shown⟩ := List.mem_filterMap.mp member
  obtain ⟨turn, place⟩ := Prod.mk.inj same
  have own := ofTurn_of_asText shown turn
  have fails := none message inside
  simp [own.1, own.2, place] at fails

theorem textsOf_modify_text {update : String → String} (unique : Unique (textsOf messages))
    (there : messages[index]? = some message) (own : isOfTurn turnId message)
    (place : message.responseSegmentId = segment) (after : (change message).asText =
      some ⟨some turnId, segment, update message.content⟩) :
    textsOf (messages.modify index change) =
      upsertText (some turnId, segment) update (textsOf messages) := by
  have before := asText_of_turn own
  rw [place] at before
  have member : (⟨some turnId, segment, message.content⟩ : AssistantText) ∈ textsOf messages :=
    List.mem_filterMap.mpr ⟨message, List.mem_of_getElem? there, before⟩
  have known : (some turnId, segment) ∈ (textsOf messages).map AssistantText.key :=
    List.mem_map.mpr ⟨_, member, rfl⟩
  rw [upsertText, upsertRow, if_pos known]
  exact filterMap_modify_row unique there before after

theorem textsOf_push_text {update : String → String}
    (absent : (some turnId, segment) ∉ (textsOf messages).map AssistantText.key)
    (shown : message.asText = some ⟨some turnId, segment, update ""⟩) :
    textsOf (messages ++ [message]) =
      upsertText (some turnId, segment) update (textsOf messages) := by
  rw [upsertText, upsertRow, if_neg absent, textsOf_append]
  congr 1
  exact List.filterMap_cons_some shown

theorem textsOf_push_other (other : message.asText = none) :
    textsOf (messages ++ [message]) = textsOf messages := by
  rw [textsOf_append]
  simp [textsOf, other]

end

section

variable {messages : List ChatMessage} {turnId : String} {event : StreamEvent} {index : Nat}

theorem found_item {test : ChatMessage → Bool}
    (found : lastIndex (fun message => isOfTurn turnId message && test message) messages =
      some index) :
    ∃ message, messages[index]? = some message ∧ isOfTurn turnId message ∧ test message := by
  obtain ⟨message, there, holds⟩ := lastIndex_some found
  simp only [Bool.and_eq_true] at holds
  exact ⟨message, there, holds.1, holds.2⟩

theorem findAssistantDraftIndex_some {segment : String}
    (found : findAssistantDraftIndex messages turnId (some segment) = some index) :
    ∃ message, messages[index]? = some message ∧ isOfTurn turnId message ∧
      message.responseSegmentId = some segment := by
  simp only [findAssistantDraftIndex, inSegment, Option.isNone_some, Bool.false_or,
    Bool.false_eq_true, if_false] at found
  split at found
  next draft =>
    cases found
    obtain ⟨message, there, holds⟩ := lastIndex_some draft
    simp only [Bool.and_eq_true, decide_eq_true_eq] at holds
    exact ⟨message, there, holds.1.1, holds.2⟩
  · obtain ⟨message, there, own, place⟩ := found_item found
    exact ⟨message, there, own, of_decide_eq_true place⟩

theorem findAssistantDraftIndex_none {segment : String}
    (absent : findAssistantDraftIndex messages turnId (some segment) = none) :
    ∀ message ∈ messages,
      (isOfTurn turnId message && message.responseSegmentId = some segment) = false := by
  simp only [findAssistantDraftIndex, Option.isNone_some, Bool.false_eq_true, if_false] at absent
  split at absent
  · cases absent
  · exact lastIndex_none.mp absent

theorem findAssistantMessageIndex_some {segment : Option String}
    (found : findAssistantMessageIndex messages turnId segment = some index) :
    ∃ message, messages[index]? = some message ∧ isOfTurn turnId message ∧
      inSegment segment message :=
  found_item found

theorem hasTurn_of_found {segment : Option String}
    (found : findAssistantMessageIndex messages turnId segment = some index) :
    HasTurn turnId (textsOf messages) := by
  obtain ⟨message, there, own, -⟩ := findAssistantMessageIndex_some found
  exact hasTurn_of_index there own

theorem not_hasTurn_of_absent (absent : findAssistantMessageIndex messages turnId none = none) :
    ¬HasTurn turnId (textsOf messages) := by
  apply not_hasTurn
  intro message member
  have fails := lastIndex_none.mp absent message member
  simpa [inSegment] using fails

theorem not_hasTurn_key (absent : ¬HasTurn turnId (textsOf messages)) (segment : Option String) :
    (some turnId, segment) ∉ (textsOf messages).map AssistantText.key := by
  intro among
  obtain ⟨text, member, same⟩ := List.mem_map.mp among
  exact absent ⟨text, member, congrArg Prod.fst same⟩

theorem textsOf_closeOpenReasoningBlock (messages : List ChatMessage) (turnId : String)
    (eventSeq : Nat) (timestamp : String) :
    textsOf (closeOpenReasoningBlock messages turnId eventSeq timestamp) = textsOf messages := by
  apply textsOf_map
  intro message
  split <;> rfl

theorem textsOf_markTurnDraftFinal (messages : List ChatMessage) (turnId : Option String) :
    textsOf (markTurnDraftFinal messages turnId) = textsOf messages := by
  unfold markTurnDraftFinal
  split
  · rfl
  · apply textsOf_map
    intro message
    split <;> rfl

theorem textsOf_interruptTurn (messages : List ChatMessage) (turnId : String)
    (event : StreamEvent) : textsOf (interruptTurn messages turnId event) = textsOf messages := by
  apply textsOf_map
  intro message
  split <;> rfl

theorem textsOf_applyUserMessage (host : Host) (messages : List ChatMessage)
    (event : StreamEvent) : textsOf (applyUserMessage host messages event) = textsOf messages := by
  unfold applyUserMessage
  simp only
  split
  next found =>
    apply textsOf_modify
    intro message there
    obtain ⟨other, inside, holds⟩ := findIdx?_item found
    obtain rfl : other = message := Option.some.inj (inside.symm.trans there)
    simp only [Bool.and_eq_true, decide_eq_true_eq] at holds
    simp [ChatMessage.asText, isAssistantText, holds.1.1.2]
  · exact textsOf_push_other rfl

theorem textsOf_upsertToolStepMessage (host : Host) (messages : List ChatMessage)
    (event : StreamEvent) :
    textsOf (upsertToolStepMessage host messages event) = textsOf messages := by
  unfold upsertToolStepMessage
  split
  · exact textsOf_push_other rfl
  · exact textsOf_modify fun _ _ => rfl

theorem assistantTexts_touch (session : ChatSession) (turnId : Option String) (eventSeq : Nat)
    (timestamp : String) :
    assistantTexts (touchAssistantTextSeqInSession session turnId eventSeq timestamp) =
      assistantTexts session := by
  unfold touchAssistantTextSeqInSession
  split
  · rfl
  · exact textsOf_modify fun _ _ => rfl

theorem textsOf_appendReasoningDelta {delta timestamp : String} {eventSeq : Nat}
    {reasoningSegmentId : Option String} (some_delta : delta ≠ "") :
    textsOf (appendReasoningDelta messages turnId delta timestamp eventSeq reasoningSegmentId) =
      seedText turnId "" (textsOf messages) := by
  unfold appendReasoningDelta
  rw [if_neg some_delta]
  simp only
  split
  next absent =>
    have none_of_turn : findAssistantMessageIndex messages turnId none = none := by
      split at absent
      · exact (Option.or_eq_none_iff.mp absent).2
      · exact absent
    rw [seedText, if_neg (not_hasTurn_of_absent none_of_turn), textsOf_append]
    rfl
  next index found =>
    have turn : HasTurn turnId (textsOf messages) := by
      split at found
      next segment _ =>
        cases first : findAssistantMessageIndexByReasoningSegment messages turnId segment with
        | some place =>
          obtain ⟨message, there, own, -⟩ := found_item first
          exact hasTurn_of_index there own
        | none =>
          rw [first, Option.none_or] at found
          exact hasTurn_of_found found
      · exact hasTurn_of_found found
    rw [seedText, if_pos turn]
    exact textsOf_modify fun _ _ => rfl

variable {content timestamp : String}

theorem textsOf_finalizeAssistantMessageFallback (some_content : content ≠ "") :
    textsOf (finalizeAssistantMessageFallback messages turnId content timestamp event) =
      seedText turnId content (textsOf messages) := by
  unfold finalizeAssistantMessageFallback
  split
  next found =>
    obtain ⟨message, there, holds⟩ := findIdx?_item found
    simp only [Bool.and_eq_true] at holds
    rw [seedText, if_pos (hasTurn_of_index there holds.1)]
    exact textsOf_modify fun _ _ => rfl
  · split
    next found =>
      obtain ⟨message, there, own⟩ := findIdx?_item found
      rw [seedText, if_pos (hasTurn_of_index there own)]
      exact textsOf_modify fun _ _ => rfl
    next absent =>
      have none_of_turn := not_hasTurn (List.findIdx?_eq_none_iff.mp absent)
      rw [if_neg some_content, seedText, if_neg none_of_turn, textsOf_append]
      rfl

theorem textsOf_finalize_empty (messages : List ChatMessage) (turnId timestamp : String)
    (event : StreamEvent) :
    textsOf (finalizeAssistantMessageFallback messages turnId "" timestamp event) =
      textsOf messages := by
  unfold finalizeAssistantMessageFallback
  split
  · exact textsOf_modify fun _ _ => rfl
  · split
    · exact textsOf_modify fun _ _ => rfl
    · rw [if_pos rfl]

variable {segment : String}

theorem textsOf_mergeAssistantDraft {delta timestamp : String} (unique : Unique (textsOf messages))
    (place : responseSegmentIdFromEvent event = some segment) :
    textsOf (mergeAssistantDraft messages turnId delta timestamp true event) =
      upsertText (some turnId, some segment) (· ++ delta) (textsOf messages) := by
  unfold mergeAssistantDraft
  rw [place]
  simp only
  split
  next found =>
    obtain ⟨message, there, own, same⟩ := findAssistantDraftIndex_some found
    apply textsOf_modify_text unique there own same
    exact asText_of_turn own
  next absent =>
    apply textsOf_push_text (key_not_mem (findAssistantDraftIndex_none absent))
    simp [ChatMessage.asText, isAssistantText]

theorem textsOf_sealAssistantMessage (unique : Unique (textsOf messages))
    (some_content : content ≠ "") (place : responseSegmentIdFromEvent event = some segment) :
    textsOf (sealAssistantMessage messages turnId content timestamp event) =
      upsertText (some turnId, some segment) (fun _ => content) (textsOf messages) := by
  unfold sealAssistantMessage
  rw [place]
  simp only
  split
  next found =>
    obtain ⟨message, there, own, same⟩ := findAssistantDraftIndex_some found
    apply textsOf_modify_text unique there own same
    have shown := asText_of_turn
      (show isOfTurn turnId
        (message.seal content timestamp (some segment) event.eventSeq) = true from own)
    simpa [ChatMessage.seal, some_content] using shown
  next absent =>
    have nowhere := findAssistantDraftIndex_none absent
    split
    next found =>
      obtain ⟨message, there, holds⟩ := findIdx?_item found
      rw [inSegment, Option.isNone_some, Bool.false_or,
        nowhere message (List.mem_of_getElem? there)] at holds
      cases holds
    · rw [if_neg some_content]
      apply textsOf_push_text (key_not_mem nowhere)
      simp [ChatMessage.asText, isAssistantText]

theorem textsOf_sealAssistantMessage_alone (alone : ¬HasTurn turnId (textsOf messages))
    (some_content : content ≠ "") (place : responseSegmentIdFromEvent event = none) :
    textsOf (sealAssistantMessage messages turnId content timestamp event) =
      upsertText (some turnId, none) (fun _ => content) (textsOf messages) := by
  unfold sealAssistantMessage
  rw [place]
  simp only
  split
  next found =>
    simp only [findAssistantDraftIndex, Option.isNone_none, if_true] at found
    split at found
    next draft =>
      obtain ⟨message, there, holds⟩ := lastIndex_some draft
      simp only [Bool.and_eq_true] at holds
      exact absurd (hasTurn_of_index there holds.1.1) alone
    · cases found
  · split
    next found =>
      obtain ⟨message, there, holds⟩ := findIdx?_item found
      simp only [Bool.and_eq_true] at holds
      exact absurd (hasTurn_of_index there holds.1) alone
    · rw [if_neg some_content]
      apply textsOf_push_text (not_hasTurn_key alone none)
      simp [ChatMessage.asText, isAssistantText]

theorem findAssistantMessageIndex_absent
    (absent : findAssistantMessageIndex messages turnId (some segment) = none) :
    (some turnId, some segment) ∉ (textsOf messages).map AssistantText.key :=
  key_not_mem fun message member => by
    simpa [inSegment] using lastIndex_none.mp absent message member

variable {session : ChatSession}

theorem assistantTexts_applyResponseStarted (unique : Unique (assistantTexts session))
    (turn : truthy event.turnId = some turnId)
    (place : responseSegmentIdFromEvent event = some segment) :
    assistantTexts (applyResponseStartedSession session event).session =
      upsertText (some turnId, some segment) id (assistantTexts session) := by
  simp only [applyResponseStartedSession, turn, place]
  cases found : findAssistantMessageIndex session.messages turnId (some segment) with
  | some index =>
    obtain ⟨message, there, own, same⟩ := findAssistantMessageIndex_some found
    simp only [Option.bind_some, there, Option.map_some, Option.some_or]
    have segment_same : message.responseSegmentId = some segment := by
      simpa [inSegment] using same
    exact textsOf_modify_text unique there own segment_same (asText_of_turn own)
  | none =>
    apply textsOf_push_text (findAssistantMessageIndex_absent found)
    simp [ChatMessage.asText, isAssistantText]

theorem assistantTexts_applyResponseCompleted (content : String)
    (unique : Unique (assistantTexts session)) (turn : truthy event.turnId = some turnId)
    (type : event.type = .responseCompleted)
    (place : responseSegmentIdFromEvent event = some segment) :
    assistantTexts (applyResponseCompletedSession session event content) =
      upsertText (some turnId, some segment) (fun _ => content) (assistantTexts session) := by
  simp only [applyResponseCompletedSession, turn, place, type]
  cases found : findAssistantMessageIndex session.messages turnId (some segment) with
  | some index =>
    obtain ⟨message, there, own, same⟩ := findAssistantMessageIndex_some found
    simp only [Option.bind_some, there, Option.map_some, Option.some_or]
    have segment_same : message.responseSegmentId = some segment := by
      simpa [inSegment] using same
    exact textsOf_modify_text unique there own segment_same (asText_of_turn own)
  | none =>
    apply textsOf_push_text (findAssistantMessageIndex_absent found)
    simp [ChatMessage.asText, isAssistantText]

theorem assistantTexts_applyResponseCompleted_alone (content : String)
    (alone : ¬HasTurn turnId (assistantTexts session)) (turn : truthy event.turnId = some turnId)
    (place : responseSegmentIdFromEvent event = none) :
    assistantTexts (applyResponseCompletedSession session event content) =
      upsertText (some turnId, none) (fun _ => content) (assistantTexts session) := by
  simp only [applyResponseCompletedSession, turn, place]
  cases found : findAssistantMessageIndex session.messages turnId none with
  | some index => exact absurd (hasTurn_of_found found) alone
  | none =>
    apply textsOf_push_text (not_hasTurn_key alone none)
    simp [ChatMessage.asText, isAssistantText]

end

end OpenJax.Web
