import OpenJax.Web.Texts

set_option autoImplicit false

namespace OpenJax.Web

open Shared

def Numbered (log : List StreamEvent) : Prop :=
  (0 :: log.map StreamEvent.eventSeq).Pairwise (· < ·)

instance (log : List StreamEvent) : Decidable (Numbered log) :=
  inferInstanceAs (Decidable (List.Pairwise _ _))

variable (host : Host)

structure Unfilled (session : ChatSession) : Prop where
  noMessages : session.messages = []
  unnumbered : session.lastEventSeq = 0

def messagesOf (log : List StreamEvent) : List ChatMessage := log.foldl (applyMessages host) []

theorem messagesOf_snoc (log : List StreamEvent) (event : StreamEvent) :
    messagesOf host (log ++ [event]) = applyMessages host (messagesOf host log) event := by
  rw [messagesOf, List.foldl_append]
  rfl

section

variable {host} {session : ChatSession} {event : StreamEvent} {log : List StreamEvent}

theorem accepted_of_later (later : session.lastEventSeq < event.eventSeq) :
    isDuplicate session event = false := by
  have number : ¬event.eventSeq ≤ session.lastEventSeq := by omega
  simp [isDuplicate, number]

theorem applySingle_later (host : Host) (later : session.lastEventSeq < event.eventSeq) :
    (applySingleSessionEvent host session event).messages =
        applyMessages host session.messages event ∧
      (applySingleSessionEvent host session event).lastEventSeq = event.eventSeq := by
  rw [applySingleSessionEvent, accepted_of_later later]
  exact ⟨rfl, rfl⟩

theorem applied_messages
    (growing : (session.lastEventSeq :: log.map StreamEvent.eventSeq).Pairwise (· < ·)) :
    (applySessionEvents host session log).messages =
      log.foldl (applyMessages host) session.messages := by
  induction log generalizing session with
  | nil => rfl
  | cons event rest ih =>
    rw [List.map_cons] at growing
    have later := (List.pairwise_cons.mp growing).1 event.eventSeq List.mem_cons_self
    obtain ⟨messages, number⟩ := applySingle_later host later
    rw [List.foldl_cons, ← messages]
    apply ih
    rw [number]
    exact (List.pairwise_cons.mp growing).2

theorem replayed_messages (unfilled : Unfilled session) (numbered : Numbered log) :
    (applySessionEvents host session log).messages = messagesOf host log := by
  rw [applied_messages (unfilled.unnumbered ▸ numbered), unfilled.noMessages]
  rfl

end

inductive TextChange (turnId : String) (messages : List ChatMessage) : List ChatMessage → Prop
  | same : TextChange turnId messages messages
  | pushed (message : ChatMessage) (own : isOfTurn turnId message) :
      TextChange turnId messages (messages ++ [message])
  | changed {index : Nat} {message : ChatMessage} (change : ChatMessage → ChatMessage)
      (there : messages[index]? = some message) (own : isOfTurn turnId message)
      (keeps : isOfTurn turnId (change message)) :
      TextChange turnId messages (messages.modify index change)

section

variable {messages : List ChatMessage} {turnId : String} {event : StreamEvent}

theorem findAssistantDraftIndex_own {segment : Option String} {index : Nat}
    (found : findAssistantDraftIndex messages turnId segment = some index) :
    ∃ message, messages[index]? = some message ∧ isOfTurn turnId message := by
  unfold findAssistantDraftIndex at found
  simp only at found
  split at found
  next draft =>
    cases found
    obtain ⟨message, there, holds⟩ := lastIndex_some draft
    simp only [Bool.and_eq_true] at holds
    exact ⟨message, there, holds.1.1⟩
  · split at found
    · cases found
    · obtain ⟨message, there, own, -⟩ := found_item found
      exact ⟨message, there, own⟩

def reasoningTarget (messages : List ChatMessage) (turnId : String)
    (reasoningSegmentId : Option String) : Option Nat :=
  match truthy reasoningSegmentId with
  | some segment =>
      (findAssistantMessageIndexByReasoningSegment messages turnId segment).or
        (findAssistantMessageIndex messages turnId none)
  | none => findAssistantMessageIndex messages turnId none

def ChatMessage.reason (message : ChatMessage) (turnId delta timestamp : String) (eventSeq : Nat)
    (reasoning : Option String) : ChatMessage :=
  { message with
    timestamp := timestamp
    startEventSeq := message.startEventSeq.or (some eventSeq)
    lastEventSeq := latest message.lastEventSeq eventSeq
    reasoningBlocks :=
      some (appendReasoningBlock (message.reasoningBlocks.getD []) turnId delta timestamp eventSeq
        reasoning) }

def reasoningMessage (turnId delta timestamp : String) (eventSeq : Nat)
    (reasoning : Option String) : ChatMessage :=
  { id := .generated, kind := .text, role := .assistant, content := ""
    timestamp := timestamp, startEventSeq := some eventSeq, lastEventSeq := some eventSeq
    turnId := some turnId, isDraft := true
    reasoningBlocks := some [openedBlock turnId delta timestamp eventSeq reasoning] }

theorem appendReasoningDelta_target {delta timestamp : String} {eventSeq : Nat}
    {reasoning : Option String} (some_delta : delta ≠ "") :
    appendReasoningDelta messages turnId delta timestamp eventSeq reasoning =
      match reasoningTarget messages turnId reasoning with
      | none => messages ++ [reasoningMessage turnId delta timestamp eventSeq reasoning]
      | some index =>
          messages.modify index fun message =>
            message.reason turnId delta timestamp eventSeq reasoning := by
  rw [appendReasoningDelta, if_neg some_delta, reasoningTarget]
  cases truthy reasoning <;> rfl

theorem reasoningTarget_own {segment : Option String} {index : Nat}
    (found : reasoningTarget messages turnId segment = some index) :
    ∃ message, messages[index]? = some message ∧ isOfTurn turnId message := by
  have last (found : findAssistantMessageIndex messages turnId none = some index) :
      ∃ message, messages[index]? = some message ∧ isOfTurn turnId message := by
    obtain ⟨message, there, own, -⟩ := findAssistantMessageIndex_some found
    exact ⟨message, there, own⟩
  unfold reasoningTarget at found
  split at found
  next segment _ =>
    cases first : findAssistantMessageIndexByReasoningSegment messages turnId segment with
    | some place =>
      rw [first, Option.some_or] at found
      cases found
      obtain ⟨message, there, own, -⟩ := found_item first
      exact ⟨message, there, own⟩
    | none =>
      rw [first, Option.none_or] at found
      exact last found
  · exact last found

theorem appendReasoningDelta_change (delta timestamp : String) (eventSeq : Nat)
    (segment : Option String) :
    TextChange turnId messages
      (appendReasoningDelta messages turnId delta timestamp eventSeq segment) := by
  by_cases nothing : delta = ""
  · rw [appendReasoningDelta, if_pos nothing]
    exact .same
  · rw [appendReasoningDelta_target nothing]
    cases found : reasoningTarget messages turnId segment with
    | none =>
      apply TextChange.pushed
      simp [isOfTurn, isAssistantText, reasoningMessage]
    | some index =>
      obtain ⟨message, there, own⟩ := reasoningTarget_own found
      exact .changed _ there own own

theorem mergeAssistantDraft_change (delta timestamp : String) (canonical : Bool) :
    TextChange turnId messages
      (mergeAssistantDraft messages turnId delta timestamp canonical event) := by
  unfold mergeAssistantDraft
  simp only
  split
  next found =>
    obtain ⟨message, there, own⟩ := findAssistantDraftIndex_own found
    refine .changed _ there own ?_
    split
    · exact own
    · exact own
  · apply TextChange.pushed
    simp [isOfTurn, isAssistantText]

theorem finalizeAssistantMessageFallback_change (content timestamp : String) :
    TextChange turnId messages
      (finalizeAssistantMessageFallback messages turnId content timestamp event) := by
  unfold finalizeAssistantMessageFallback
  split
  next found =>
    obtain ⟨message, there, holds⟩ := findIdx?_item found
    simp only [Bool.and_eq_true] at holds
    exact .changed _ there holds.1 holds.1
  · split
    next found =>
      obtain ⟨message, there, own⟩ := findIdx?_item found
      exact .changed _ there own own
    · split
      · exact .same
      · apply TextChange.pushed
        simp [isOfTurn, isAssistantText]

theorem sealAssistantMessage_change (content timestamp : String) :
    TextChange turnId messages (sealAssistantMessage messages turnId content timestamp event) := by
  unfold sealAssistantMessage
  simp only
  split
  next found =>
    obtain ⟨message, there, own⟩ := findAssistantDraftIndex_own found
    exact .changed _ there own own
  · split
    next found =>
      obtain ⟨message, there, holds⟩ := findIdx?_item found
      simp only [Bool.and_eq_true] at holds
      exact .changed _ there holds.1 holds.1
    · split
      · exact .same
      · apply TextChange.pushed
        simp [isOfTurn, isAssistantText]

theorem findToolStepMessageIndex_some {host : Host} {index : Nat}
    (found : findToolStepMessageIndex host messages event = some index) :
    ∃ message key step, messages[index]? = some message ∧
      resolveAggregationKey host event = some key ∧ message.kind = .toolSteps ∧
      message.turnId = event.turnId ∧ (message.toolSteps.getD []).head? = some step ∧
      key.matchesStep step := by
  obtain ⟨key, keyed, searched⟩ := Option.bind_eq_some_iff.mp found
  obtain ⟨message, there, holds⟩ := lastIndex_some searched
  simp only [Bool.and_eq_true, decide_eq_true_eq, Option.any_eq_true] at holds
  obtain ⟨⟨kind, turn⟩, step, first, matched⟩ := holds
  exact ⟨message, key, step, there, keyed, kind, turn, first, matched⟩

theorem applyTextEvent_change (host : Host) (turn : truthy event.turnId = some turnId)
    (ongoing : event.type ≠ .turnInterrupted) :
    TextChange turnId messages (applyTextEvent host messages event) := by
  unfold applyTextEvent
  rw [turn]
  cases type : event.type with
  | reasoningDelta => exact appendReasoningDelta_change ..
  | responseTextDelta => exact mergeAssistantDraft_change ..
  | assistantMessage => exact finalizeAssistantMessageFallback_change ..
  | responseCompleted => exact sealAssistantMessage_change ..
  | turnInterrupted => exact absurd type ongoing
  | _ => exact .same

end

section

variable {ρ : Type} {view : ChatMessage → List ρ}

def Blind (view : ChatMessage → List ρ) : Prop :=
  ∀ message, isAssistantText message → view message = []

theorem pushed_unseen {message : ChatMessage} (nothing : view message = [])
    (messages : List ChatMessage) :
    (messages ++ [message]).flatMap view = messages.flatMap view := by
  rw [List.flatMap_append, List.flatMap_singleton, nothing, List.append_nil]

theorem TextChange.unseen {turnId : String} {messages changed : List ChatMessage}
    (change : TextChange turnId messages changed) (blind : Blind view) :
    changed.flatMap view = messages.flatMap view := by
  have nothing {message : ChatMessage} (own : isOfTurn turnId message = true) :
      view message = [] := by
    simp only [isOfTurn, Bool.and_eq_true] at own
    exact blind message own.2
  cases change with
  | same => rfl
  | pushed message own => exact pushed_unseen (nothing own) messages
  | changed change there own keeps =>
    apply flatMap_modify_found there
    rw [nothing own, nothing keeps]

theorem applyTextEvent_unseen (host : Host) (blind : Blind view) {event : StreamEvent}
    (ongoing : event.type ≠ .turnInterrupted) (messages : List ChatMessage) :
    (applyTextEvent host messages event).flatMap view = messages.flatMap view := by
  cases turn : truthy event.turnId with
  | none =>
    rw [applyTextEvent, turn]
  | some turnId => exact (applyTextEvent_change host turn ongoing).unseen blind

theorem closeReasoningOn_unseen (blind : Blind view) (messages : List ChatMessage)
    (event : StreamEvent) :
    (closeReasoningOn messages event).flatMap view = messages.flatMap view := by
  unfold closeReasoningOn
  split
  · rfl
  next turnId _ =>
    split
    · apply flatMap_map_same
      intro message
      split
      next own =>
        have assistant : isAssistantText message = true := by
          simp only [isOfTurn, Bool.and_eq_true] at own
          exact own.2
        rw [blind message assistant]
        exact blind _ assistant
      · rfl
    · rfl

theorem markTurnDraftFinal_unseen
    (same : ∀ message : ChatMessage, view { message with isDraft := false } = view message)
    (messages : List ChatMessage) (turnId : Option String) :
    (markTurnDraftFinal messages turnId).flatMap view = messages.flatMap view := by
  unfold markTurnDraftFinal
  split
  · rfl
  · apply flatMap_map_same
    intro message
    split
    · exact same message
    · rfl

variable (host : Host) {event : StreamEvent} (messages : List ChatMessage)

theorem steps_unseen
    (same : (upsertToolStepMessage host messages event).flatMap view = messages.flatMap view) :
    (if isToolStepEvent event then upsertToolStepMessage host messages event
      else messages).flatMap view = messages.flatMap view := by
  split
  · exact same
  · rfl

theorem finals_unseen
    (same : ∀ message : ChatMessage, view { message with isDraft := false } = view message) :
    (if endsDrafts event then markTurnDraftFinal messages event.turnId
      else messages).flatMap view = messages.flatMap view := by
  split
  · exact markTurnDraftFinal_unseen same messages event.turnId
  · rfl

theorem errors_unseen (nothing : view (errorMessage host event) = []) :
    (if isErrorEvent event then messages ++ [errorMessage host event]
      else messages).flatMap view = messages.flatMap view := by
  split
  · exact pushed_unseen nothing messages
  · rfl

end

structure TextView {ρ : Type} (view : ChatMessage → List ρ) : Prop where
  others : ∀ message, isAssistantText message = false → view message = []
  closes : ∀ (message : ChatMessage) (eventSeq : Nat) (timestamp : String),
    view { message with
      reasoningBlocks := message.reasoningBlocks.map fun blocks =>
        blocks.map fun block => block.close eventSeq timestamp } = view message
  drafts : ∀ message : ChatMessage, view { message with isDraft := false } = view message

section

variable {ρ : Type} {view : ChatMessage → List ρ} (host : Host)

theorem TextView.user (textView : TextView view) (messages : List ChatMessage)
    (event : StreamEvent) :
    (applyUserMessage host messages event).flatMap view = messages.flatMap view := by
  unfold applyUserMessage
  simp only
  split
  next found =>
    obtain ⟨message, there, holds⟩ := findIdx?_item found
    apply flatMap_modify_found there
    simp only [Bool.and_eq_true, decide_eq_true_eq] at holds
    have user : isAssistantText message = false := by
      simp [isAssistantText, holds.1.1.2]
    rw [textView.others message user]
    exact textView.others _ user
  · exact pushed_unseen (textView.others _ rfl) messages

theorem TextView.close (textView : TextView view) (messages : List ChatMessage)
    (event : StreamEvent) :
    (closeReasoningOn messages event).flatMap view = messages.flatMap view := by
  unfold closeReasoningOn
  split
  · rfl
  · split
    · apply flatMap_map_same
      intro message
      split
      · exact textView.closes message event.eventSeq event.timestamp
      · rfl
    · rfl

theorem TextView.steps (textView : TextView view) (messages : List ChatMessage)
    (event : StreamEvent) :
    (upsertToolStepMessage host messages event).flatMap view = messages.flatMap view := by
  unfold upsertToolStepMessage
  split
  · exact pushed_unseen (textView.others _ rfl) messages
  next found =>
    obtain ⟨message, _, _, there, _, kind, _⟩ := findToolStepMessageIndex_some found
    apply flatMap_modify_found there
    have step : isAssistantText message = false := by
      simp [isAssistantText, kind]
    rw [textView.others message step]
    exact textView.others _ step

theorem TextView.applyMessages (textView : TextView view) (messages : List ChatMessage)
    (event : StreamEvent) :
    ∃ before, before.flatMap view = messages.flatMap view ∧
      (applyMessages host messages event).flatMap view =
        (applyTextEvent host before event).flatMap view := by
  refine ⟨closeReasoningOn (if event.type = .userMessage then applyUserMessage host messages event
    else messages) event, ?_, ?_⟩
  · rw [textView.close]
    split
    · exact textView.user host messages event
    · rfl
  · simp only [Web.applyMessages]
    rw [errors_unseen host _ (textView.others _ rfl), finals_unseen _ textView.drafts,
      steps_unseen host _ (textView.steps host _ event)]

end

structure UserView {ρ : Type} (view : ChatMessage → List ρ) : Prop where
  others : ∀ message, ¬(message.kind = .text ∧ message.role = .user) → view message = []
  drafts : ∀ message : ChatMessage, view { message with isDraft := false } = view message

section

variable {ρ : Type} {view : ChatMessage → List ρ} (host : Host)

theorem UserView.blind (userView : UserView view) : Blind view := by
  intro message assistant
  simp only [isAssistantText, Bool.and_eq_true, decide_eq_true_eq] at assistant
  exact userView.others message (by simp [assistant.2])

theorem UserView.texts (userView : UserView view) (messages : List ChatMessage)
    (event : StreamEvent) :
    (applyTextEvent host messages event).flatMap view = messages.flatMap view := by
  by_cases interrupted : event.type = .turnInterrupted
  · unfold applyTextEvent
    rw [interrupted]
    split
    · rfl
    · apply flatMap_map_same
      intro message
      split
      next own =>
        simp only [Bool.and_eq_true, decide_eq_true_eq] at own
        rw [userView.others message (by simp [own.1])]
        exact userView.others _ (by simp [own.1])
      · rfl
  · exact applyTextEvent_unseen host userView.blind interrupted messages

theorem UserView.steps (userView : UserView view) (messages : List ChatMessage)
    (event : StreamEvent) :
    (upsertToolStepMessage host messages event).flatMap view = messages.flatMap view := by
  unfold upsertToolStepMessage
  split
  · exact pushed_unseen (userView.others _ (by simp)) messages
  next found =>
    obtain ⟨message, _, _, there, _, kind, _⟩ := findToolStepMessageIndex_some found
    apply flatMap_modify_found there
    rw [userView.others message (by simp [kind])]
    exact userView.others _ (by simp [kind])

theorem UserView.applyMessages (userView : UserView view) (messages : List ChatMessage)
    (event : StreamEvent) :
    (applyMessages host messages event).flatMap view =
      (if event.type = .userMessage then applyUserMessage host messages event
        else messages).flatMap view := by
  simp only [Web.applyMessages]
  rw [errors_unseen host _ (userView.others _ (by simp [errorMessage])),
    finals_unseen _ userView.drafts, steps_unseen host _ (userView.steps host _ event),
    userView.texts]
  exact closeReasoningOn_unseen userView.blind _ event

end

end OpenJax.Web
